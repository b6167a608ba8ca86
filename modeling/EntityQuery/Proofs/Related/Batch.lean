/-
# One definition, two ways to read it

The link of one parent and the batch of many read the same definition separately.
Here both are compared: they find the same classes in the same order
(`Batch.ofDef_eq`), so they fail alike, and they pick the same columns of the same
SELECT.  The batch differs by its tag only: the match column of a pivot or through
relation is selected once more, under an alias (`Link.batchQuery`).

`Link.rowsOf` says which rows of a batch are those of one parent: the rows that
carry its key, without the tag.
-/

import EntityQuery.Proofs.Related.Grouping
import EntityQuery.Proofs.Run.Action

namespace EntityQuery

/-- The alias under which a batch selects the match column, if it is no column of the related
table. -/
def RelationDef.tag? : RelationDef → Option String
  | .belongsToMany _ _ _ _ _ _ => some pivotTag
  | .hasOneThrough _ _ _ _ _ _ => some throughTag
  | _ => none

namespace Link

variable (link : Link) (tag : Option String)

/-- The SELECT of all related rows, with the match column under its alias. -/
def batchSource : Statement :=
  match tag with
  | some label => link.source.addSelect [link.matchColumn ++ " as " ++ label]
  | none => link.source

/-- The query for the related rows of many parents: the match column is among the keys, where
the query of one parent asks it to equal one key. -/
def batchQuery (keys : List Value) : Statement :=
  (link.batchSource tag).inList .and false link.matchColumn keys

/-- The batch of the link. -/
def toBatch : Batch :=
  ⟨link.batchSource tag, link.parentColumn, link.matchColumn⟩

/-- A batch asks for the keys of its parents, if they have any. -/
theorem queryFor?_toBatch (parents : List Entity) :
    (link.toBatch tag).queryFor? parents [] =
      if (Entity.distinctKeys link.parentColumn parents).isEmpty then none
      else some (link.batchQuery tag (Entity.distinctKeys link.parentColumn parents)) :=
  rfl

/-- The column in which the rows of the batched query hold the match column. -/
def keyColumn : String :=
  tag.getD link.matchColumn

/-- A row without its tag. -/
def untagRow (row : Row) : Row :=
  match tag with
  | some label => row.erase label
  | none => row

/-- The rows of the batched query whose match column has a key, in order and without their tag. -/
def rowsOf (rows : List Row) (key : String) : List Row :=
  (rows.filter fun row => (row.get? (link.keyColumn tag)).bind Value.key? == some key).map
    (untagRow tag)

/-- What the link of a definition is like. -/
structure Reads (link : Link) (d : RelationDef) : Prop where
  isSingle : link.isSingle = d.isSingle
  matchAttribute : d.matchAttribute = link.keyColumn d.tag?
  modelClass : link.source.modelClass = some link.related
  eager : link.source.eager = []

end Link

/-! ### The same classes and columns -/

/-- **A batch reads a definition as the link does.**  It finds the same classes in the same order,
and its SELECT and its columns are those of the link, but for the tag. -/
theorem Batch.ofDef_eq (context : Context) (relation : String) (d : RelationDef) :
    Batch.ofDef context relation d =
      (fun link => link.toBatch d.tag?) <$> Link.ofDef context (d.relatedName relation) d := by
  cases d with
  | hasOne => simp [Batch.ofDef, Link.ofDef, Link.toBatch, Link.batchSource, RelationDef.tag?]
  | hasMany => simp [Batch.ofDef, Link.ofDef, Link.toBatch, Link.batchSource, RelationDef.tag?]
  | belongsTo => simp [Batch.ofDef, Link.ofDef, Link.toBatch, Link.batchSource, RelationDef.tag?]
  | belongsToMany =>
      simp [Batch.ofDef, Link.ofDef, Link.toBatch, Link.batchSource, RelationDef.tag?, Batch.tagged]
  | hasOneThrough =>
      simp [Batch.ofDef, Link.ofDef, Link.toBatch, Link.batchSource, RelationDef.tag?, Batch.tagged]

namespace Link

variable {context : Context} {related : String} {d : RelationDef} {link : Link}
variable {registry registry' : Registry}

/-- The link of a definition for the classes it leads to; only a through relation has a second. -/
def ofClasses (context : Context) (c through : ModelClass) : RelationDef → Link
  | .hasOne _ foreignKey localKey =>
    ⟨true, c, none, Statement.forModel context c, localKey, foreignKey⟩
  | .hasMany _ foreignKey localKey =>
    ⟨false, c, none, Statement.forModel context c, localKey, foreignKey⟩
  | .belongsTo _ foreignKey ownerKey =>
    ⟨true, c, none, Statement.forModel context c, foreignKey, ownerKey⟩
  | .belongsToMany _ pivot foreignPivotKey relatedPivotKey parentKey relatedKey =>
    ⟨false, c, none, joinedSource context c pivot relatedPivotKey relatedKey, parentKey,
      columnOf pivot foreignPivotKey⟩
  | .hasOneThrough _ _ firstKey secondKey localKey secondLocalKey =>
    ⟨true, c, some through, joinedSource context c through.table secondLocalKey secondKey, localKey,
      columnOf through.table firstKey⟩

/-- The link of a definition is that for the classes that were found. -/
theorem eq_of_ofDef (h : (ofDef context related d).run registry = (.ok link, registry')) :
    ∃ c through, link = ofClasses context c through d := by
  cases hrelated : (context.resolve related).run registry with
  | mk result registry₁ =>
    unfold ofDef at h
    cases result with
    | error e =>
        rw [Resolving.run_bind_error _ hrelated] at h
        exact nomatch h
    | ok c =>
        rw [Resolving.run_bind_ok _ hrelated] at h
        cases d with
        | hasOneThrough related' through =>
            cases hthrough : (context.resolve through).run registry₁ with
            | mk result registry₂ =>
              cases result with
              | error e =>
                  rw [Resolving.run_bind_error _ hthrough] at h
                  exact nomatch h
              | ok c' =>
                  rw [Resolving.run_bind_ok _ hthrough] at h
                  cases h
                  exact ⟨c, c', rfl⟩
        | _ =>
            cases h
            exact ⟨c, c, rfl⟩

/-- The shape of a link is that of its definition, whatever classes were found. -/
theorem reads_of_ofDef (h : (ofDef context related d).run registry = (.ok link, registry')) :
    link.Reads d := by
  obtain ⟨c, through, rfl⟩ := eq_of_ofDef h
  cases d <;> exact ⟨rfl, rfl, rfl, rfl⟩

/-- The SELECT of a link is that of a class, or of a class joined with one other table. -/
theorem source_of_ofDef (h : (ofDef context related d).run registry = (.ok link, registry')) :
    link.source = Statement.forModel context link.related ∨ ∃ joined joinedColumn column,
      link.source = joinedSource context link.related joined joinedColumn column := by
  obtain ⟨c, through, rfl⟩ := eq_of_ofDef h
  cases d with
  | belongsToMany => exact .inr ⟨_, _, _, rfl⟩
  | hasOneThrough => exact .inr ⟨_, _, _, rfl⟩
  | _ => exact .inl rfl

end Link
end EntityQuery

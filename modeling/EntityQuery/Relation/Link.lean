/-
# Links

A link is a relation definition with its classes found, as one parent needs it:
the SELECT of the related rows, the column of the parent, and the column of the
SELECT that must equal it.  With the key of the parent it is a `Relation`, whose
query asks for the rows whose match column equals the key.

The match column of a pivot or through relation is no column of the related table
but of the table it is joined with (`joinedSource`).
-/

import EntityQuery.Entity
import EntityQuery.Session.Basic
import EntityQuery.Statement.Apply

namespace EntityQuery

/-- A relation definition with its classes found. -/
structure Link where
  isSingle : Bool
  related : ModelClass
  /-- The class in between. -/
  through : Option ModelClass := none
  /-- The SELECT of all related rows. -/
  source : Statement
  /-- The column of the parent. -/
  parentColumn : String
  /-- The column of the SELECT that equals it. -/
  matchColumn : String

/-- A column of a table. -/
def columnOf (table column : String) : String :=
  table ++ "." ++ column

/-- The SELECT of a class joined with a table on `joined.joinedColumn = related.column`. -/
def joinedSource (context : Context) (related : ModelClass) (joined joinedColumn column : String) :
    Statement :=
  ((Statement.forModel context related).select [columnOf related.table "*"]).join .inner joined
    (columnOf joined joinedColumn) "=" (columnOf related.table column)

/-- The class a relation leads to.  A belongs-to relation without one is named for it. -/
def RelationDef.relatedName (d : RelationDef) (relation : String) : String :=
  match d.related? with
  | some related =>
    match d with
    | .belongsTo _ _ _ => if Text.isBlankText related then Naming.className relation else related
    | _ => related
  | none => Naming.className relation

/-- The definition of a relation that a class must declare. -/
def ModelClass.requireRelation (c : ModelClass) (relation : String) : Except Error RelationDef :=
  match c.relation? relation with
  | some d => .ok d
  | none => .error (.argument (.unknownRelation relation c.name))

namespace Link

/-- The link of a definition whose related class goes by a name. -/
def ofDef (context : Context) (related : String) (d : RelationDef) : Resolving Link := do
  let related ← context.resolve related
  match d with
  | .hasOne _ foreignKey localKey =>
    return ⟨true, related, none, Statement.forModel context related, localKey, foreignKey⟩
  | .hasMany _ foreignKey localKey =>
    return ⟨false, related, none, Statement.forModel context related, localKey, foreignKey⟩
  | .belongsTo _ foreignKey ownerKey =>
    return ⟨true, related, none, Statement.forModel context related, foreignKey, ownerKey⟩
  | .belongsToMany _ pivot foreignPivotKey relatedPivotKey parentKey relatedKey =>
    return ⟨false, related, none, joinedSource context related pivot relatedPivotKey relatedKey,
      parentKey, columnOf pivot foreignPivotKey⟩
  | .hasOneThrough _ through firstKey secondKey localKey secondLocalKey =>
    let through ← context.resolve through
    return ⟨true, related, some through,
      joinedSource context related through.table secondLocalKey secondKey,
      localKey, columnOf through.table firstKey⟩

/-- The link of a relation that a class declares. -/
def ofClass (context : Context) (c : ModelClass) (relation : String) : Resolving Link :=
  match c.requireRelation relation with
  | .ok d => ofDef context (d.relatedName relation) d
  | .error e => throw e

end Link

/-- A link with the key of one parent. -/
structure Relation where
  link : Link
  value : Value

namespace Relation

/-- The link of a parent. -/
def ofLink (parent : Entity) (link : Link) : Relation :=
  ⟨link, parent.value link.parentColumn⟩

/-- A relation that the class of an entity declares. -/
def ofEntity (context : Context) (parent : Entity) (name : String) : Resolving Relation :=
  ofLink parent <$> Link.ofClass context parent.modelClass name

/-- The SELECT of the related rows of the parent. -/
def query (r : Relation) : Statement :=
  r.link.source.compare .and r.link.matchColumn "=" r.value

end Relation
end EntityQuery

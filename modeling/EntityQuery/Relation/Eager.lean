/-
# Loading relations in batches

One query loads a relation for a whole list of parents.  The keys of the parents
are collected without repetition, the rows whose match column is among them are
fetched and grouped by the key they carry, and every parent is given the group of
its own key.  A parent whose key column holds no key is given none, and without
any key no query is sent.

A batch finds the classes of a definition and picks the columns by itself; it does
not go through the `Link` of a single parent.  The match column of a pivot or
through relation is no column of the related table, so the batch selects it under
an alias, the tag, and takes the tag off the rows it fetched.

The fetched rows may load relations of their own, which is why the way to fetch
a statement is a parameter here.
-/

import EntityQuery.Relation.Link

namespace EntityQuery

/-! ### Keys of the parents -/

namespace Entity

/-- The first value of each key in a column of some entities. -/
def distinctKeysFrom (seen : List String) (column : String) : List Entity → List Value
  | [] => []
  | e :: rest =>
    match e.get? column with
    | none => distinctKeysFrom seen column rest
    | some v =>
      match v.key? with
      | none => distinctKeysFrom seen column rest
      | some key =>
        if key ∈ seen then distinctKeysFrom seen column rest
        else v :: distinctKeysFrom (key :: seen) column rest

/-- The values in a column of some entities that have a key, each key once, in order. -/
def distinctKeys (column : String) (entities : List Entity) : List Value :=
  distinctKeysFrom [] column entities

end Entity

/-! ### Keys of the children -/

/-- The tag of pivot relations. -/
def pivotTag : String := "__bindorm_pivot_key"

/-- The tag of through relations. -/
def throughTag : String := "__bindorm_through_key"

namespace RelationDef

/-- The column of a fetched row that holds the key of its parent. -/
def matchAttribute : RelationDef → String
  | .hasOne _ foreignKey _ => foreignKey
  | .hasMany _ foreignKey _ => foreignKey
  | .belongsTo _ _ ownerKey => ownerKey
  | .belongsToMany _ _ _ _ _ _ => pivotTag
  | .hasOneThrough _ _ _ _ _ _ => throughTag

/-- Whether this column is a tag. -/
def isTagged : RelationDef → Bool
  | .belongsToMany _ _ _ _ _ _ => true
  | .hasOneThrough _ _ _ _ _ _ => true
  | _ => false

/-- The entity without its tag. -/
def untag (d : RelationDef) (child : Entity) : Entity :=
  if d.isTagged then child.erase d.matchAttribute else child

/-- Adds a fetched entity to the group of its key; one without a key is left out. -/
def addToGroup (d : RelationDef) (groups : List (String × List Entity)) (child : Entity) :
    List (String × List Entity) :=
  match child.matchKey? d.matchAttribute with
  | none => groups
  | some key => Keyed.put key ((Keyed.find? key groups).getD [] ++ [d.untag child]) groups

/-- The fetched entities by the key they carry, each group in the order in which it came. -/
def groupByKey (d : RelationDef) (children : List Entity) : List (String × List Entity) :=
  children.foldl d.addToGroup []

/-- The related entities in the shape of the relation, given the group of a parent. -/
def shape (d : RelationDef) (group : Option (List Entity)) : Related :=
  if d.isSingle then .one (group.bind List.head?) else .many (group.getD [])

end RelationDef

/-! ### The batch -/

/-- What is fetched for a list of parents: a SELECT, whose match column must be among the values
in a column of the parents. -/
structure Batch where
  source : Statement
  parentColumn : String
  matchColumn : String

namespace Batch

/-- A SELECT with another column, under an alias. -/
def tagged (source : Statement) (column tag : String) : Statement :=
  source.addSelect [column ++ " as " ++ tag]

/-- The batch of a definition. -/
def ofDef (context : Context) (relation : String) (d : RelationDef) : Resolving Batch :=
  match d with
  | .hasOne _ foreignKey localKey => do
    let related ← context.resolve (d.relatedName relation)
    return ⟨Statement.forModel context related, localKey, foreignKey⟩
  | .hasMany _ foreignKey localKey => do
    let related ← context.resolve (d.relatedName relation)
    return ⟨Statement.forModel context related, localKey, foreignKey⟩
  | .belongsTo _ foreignKey ownerKey => do
    let related ← context.resolve (d.relatedName relation)
    return ⟨Statement.forModel context related, foreignKey, ownerKey⟩
  | .belongsToMany _ pivot foreignPivotKey relatedPivotKey parentKey relatedKey => do
    let related ← context.resolve (d.relatedName relation)
    let column := columnOf pivot foreignPivotKey
    return ⟨tagged (joinedSource context related pivot relatedPivotKey relatedKey) column pivotTag,
      parentKey, column⟩
  | .hasOneThrough _ through firstKey secondKey localKey secondLocalKey => do
    let related ← context.resolve (d.relatedName relation)
    let through ← context.resolve through
    let column := columnOf through.table firstKey
    return ⟨tagged (joinedSource context related through.table secondLocalKey secondKey) column
      throughTag, localKey, column⟩

/-- The SELECT of the rows whose match column is among the keys. -/
def query (b : Batch) (keys : List Value) : Statement :=
  b.source.inList .and false b.matchColumn keys

/-- The query for the children of some parents; none, if no parent has a key. -/
def queryFor? (b : Batch) (parents : List Entity) (constraint : List Call) : Option Statement :=
  let keys := Entity.distinctKeys b.parentColumn parents
  if keys.isEmpty then none else some ((b.query keys).applyAll constraint)

/-- Gives every parent the group of its key. -/
def attach (b : Batch) (d : RelationDef) (name : String) (parents : List Entity)
    (groups : List (String × List Entity)) : List Entity :=
  parents.map fun parent =>
    parent.setRelated name
      (d.shape ((parent.matchKey? b.parentColumn).bind fun key => Keyed.find? key groups))

/-- Loads a relation onto parents of one class; `fetch` runs the query for the children. -/
def load (fetch : Statement → Action (List Entity)) (context : Context) (name : String)
    (constraint : List Call) : List Entity → Action (List Entity)
  | [] => return []
  | parent :: rest => do
    let parents := parent :: rest
    let d ← Action.ofExcept (parent.modelClass.requireRelation name)
    let b ← Action.resolving (ofDef context name d)
    let children ← match b.queryFor? parents constraint with
      | none => pure []
      | some query => fetch query
    return b.attach d name parents (d.groupByKey children)

end Batch
end EntityQuery

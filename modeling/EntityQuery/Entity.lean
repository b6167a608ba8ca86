/-
# Entities

An entity is a row of a model class together with the relations that were loaded
for it.  The loaded relations are kept in the order of their names.

The JSON form is one flat object: the attributes in column order, then the
loaded relations.  It is a list of members, so a relation that is named like a
column stands beside it.
-/

import EntityQuery.Model.Class
import EntityQuery.Row

namespace EntityQuery

mutual

/-- A row of a class with the relations loaded for it. -/
structure Entity where
  modelClass : ModelClass
  attributes : Row
  relations : List (String × Related) := []

/-- A loaded relation: at most one entity, or a list of them. -/
inductive Related where
  | one (entity : Option Entity)
  | many (entities : List Entity)

end

namespace Related

/-- The entity of a single relation. -/
def one? : Related → Option Entity
  | one entity => entity
  | many _ => none

/-- The entities of a relation to many. -/
def toList : Related → List Entity
  | one _ => []
  | many entities => entities

end Related

namespace Entity

/-- The entity of a row. -/
def ofRow (c : ModelClass) (row : Row) : Entity :=
  { modelClass := c, attributes := row }

/-- The value of a column. -/
def get? (e : Entity) (column : String) : Option Value :=
  e.attributes.get? column

/-- The value of a column, null if there is none. -/
def value (e : Entity) (column : String) : Value :=
  (e.get? column).getD .null

/-- The text under which a column is matched with other rows. -/
def matchKey? (e : Entity) (column : String) : Option String :=
  (e.get? column).bind Value.key?

/-- Sets a column. -/
def set (e : Entity) (column : String) (v : Value) : Entity :=
  { e with attributes := e.attributes.set column v }

/-- The entity without a column. -/
def erase (e : Entity) (column : String) : Entity :=
  { e with attributes := e.attributes.erase column }

/-- The value of the primary key. -/
def key? (e : Entity) : Option Value :=
  e.get? e.modelClass.primaryKey

/-- A loaded relation. -/
def related? (e : Entity) (name : String) : Option Related :=
  Keyed.find? name e.relations

/-- Whether a relation is loaded. -/
def isLoaded (e : Entity) (name : String) : Bool :=
  (e.related? name).isSome

/-- The entity of a loaded single relation. -/
def relatedOne? (e : Entity) (name : String) : Option Entity :=
  (e.related? name).bind Related.one?

/-- The entities of a loaded relation to many; none, if it is not loaded. -/
def relatedMany (e : Entity) (name : String) : List Entity :=
  ((e.related? name).map Related.toList).getD []

/-- Stores a loaded relation. -/
def setRelated (e : Entity) (name : String) (related : Related) : Entity :=
  { e with relations := Keyed.insertSorted name related e.relations }

mutual

/-- The JSON form: attributes, then loaded relations. -/
def toJson : Entity → Json
  | ⟨_, attributes, relations⟩ => .object (attributes.toMembers ++ relationMembers relations)

/-- The members of loaded relations. -/
def relationMembers : List (String × Related) → List (String × Json)
  | [] => []
  | (name, related) :: rest => (name, relatedToJson related) :: relationMembers rest

/-- The JSON form of a loaded relation. -/
def relatedToJson : Related → Json
  | .one none => .null
  | .one (some e) => toJson e
  | .many entities => .array (listToJson entities)

/-- The JSON forms of entities. -/
def listToJson : List Entity → List Json
  | [] => []
  | e :: rest => toJson e :: listToJson rest

end

@[simp] theorem attributes_setRelated (e : Entity) (name : String) (related : Related) :
    (e.setRelated name related).attributes = e.attributes := rfl

@[simp] theorem modelClass_setRelated (e : Entity) (name : String) (related : Related) :
    (e.setRelated name related).modelClass = e.modelClass := rfl

/-- A relation that is stored reads back. -/
@[simp] theorem related?_setRelated_self (e : Entity) (name : String) (related : Related) :
    (e.setRelated name related).related? name = some related :=
  Keyed.find?_insertSorted_self name related e.relations

end Entity
end EntityQuery

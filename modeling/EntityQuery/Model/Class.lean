/-
# Model classes

A model class describes the rows of a table: its key, whether rows are marked
as deleted instead of being removed, and its relations by name.
-/

import EntityQuery.Data.Keyed
import EntityQuery.Model.RelationDef
import EntityQuery.Text.Lists

namespace EntityQuery

/-- A class of entities. -/
structure ModelClass where
  name : String
  table : String
  primaryKey : String := "id"
  softDeletes : Bool := false
  relations : List (String × RelationDef) := []
  deriving DecidableEq, Repr

/-- What follows the last pair of colons; `rest` is what follows the last pair seen so far.  Of
three colons in a row the last two are the pair. -/
def afterLastColons (rest : List Char) : List Char → List Char
  | [] => rest
  | [_] => rest
  | a :: b :: cs =>
    afterLastColons (if a = ':' ∧ b = ':' then cs else rest) (b :: cs)

namespace ModelClass

/-- Declares a relation; one of the same name is replaced. -/
def relation (c : ModelClass) (name : String) (d : RelationDef) : ModelClass :=
  { c with relations := Keyed.put name d c.relations }

/-- The relation of a name. -/
def relation? (c : ModelClass) (name : String) : Option RelationDef :=
  Keyed.find? name c.relations

/-- The class name without its namespace. -/
def shortName (c : ModelClass) : String :=
  String.ofList (afterLastColons c.name.toList c.name.toList)

end ModelClass

/-- A class known to a registry: a model class, or another class with the name of its base. -/
inductive ClassInfo where
  | model (c : ModelClass)
  | other (name : String) (base : Option String)
  deriving DecidableEq, Repr

/-- The name a class is stored under. -/
def ClassInfo.name : ClassInfo → String
  | .model c => c.name
  | .other name _ => name

end EntityQuery

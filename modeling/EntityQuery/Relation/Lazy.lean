/-
# Relations of one entity

A relation of one entity is fetched by the query of its link, and an entity may
load a relation onto itself, which is loading it for a list of one parent.
-/

import EntityQuery.Statement.Execute

namespace EntityQuery

namespace Relation

/-- The related entities. -/
def get (r : Relation) : Action (List Entity) :=
  r.query.get

/-- The first related entity, if there is one. -/
def first (r : Relation) : Action (Option Entity) :=
  r.query.first

/-- The related entities in the shape in which an entity stores them. -/
def fetch (r : Relation) : Action Related :=
  if r.link.isSingle then Related.one <$> r.first else Related.many <$> r.get

end Relation

namespace Entity

/-- Loads a relation onto parents of one class, its query being constrained by calls. -/
def loadRelation (context : Context) (name : String) (constraint : List Call)
    (parents : List Entity) : Action (List Entity) :=
  Batch.load (Statement.getWithin (Call.constraintDepthOf constraint + 1)) context name constraint
    parents

/-- Fetches a relation of one entity without storing it. -/
def fetchRelated (context : Context) (name : String) (e : Entity) : Action Related := do
  let r ← Action.resolving (Relation.ofEntity context e name)
  r.fetch

/-- Loads a relation onto one entity. -/
def load (context : Context) (name : String) (e : Entity) : Action Entity := do
  return (← loadRelation context name [] [e]).headD e

end Entity
end EntityQuery

/-
# Running statements

What can be asked of a connection with a statement: to execute it, to fetch its
rows as they are, decoded or as entities with their relations, to count them,
and to fetch a page of them.  Every statement is compiled first, and a statement
that does not compile sends nothing.

Entities load the relations that their statement asks for, and the queries for
these may ask for further relations.  `getWithin` counts how deep this may still
go; `get` starts from the depth of the constraints on the statement.
-/

import EntityQuery.Page
import EntityQuery.Relation.Eager
import EntityQuery.Statement.Build

namespace EntityQuery
namespace Statement

/-- Logs a compiled statement and sends it. -/
def dispatch {α : Type} (s : Statement) (compiled : Except Error Compiled)
    (send : String → List Value → Action α) : Action α := do
  let query ← Action.ofExcept compiled
  Action.note (s.logEntry query)
  send query.sql query.bindings

/-- The number of rows the statement affects. -/
def execute (s : Statement) : Action Nat :=
  s.dispatch s.compile Action.execute

/-- All rows. -/
def fetchRows (s : Statement) : Action (List Row) :=
  s.dispatch s.compile Action.fetchAll

/-- The first row, if there is one. -/
def fetchFirstRow (s : Statement) : Action (Option Row) :=
  (s.limit 1).dispatch (s.limit 1).compile Action.fetchOne

/-- All rows, decoded. -/
def fetchAllAs (α : Type) [FromRow α] (s : Statement) : Action (List α) := do
  let rows ← s.fetchRows
  Action.ofExcept (rows.mapM FromRow.fromRow)

/-- The first row, decoded. -/
def fetchOneAs (α : Type) [FromRow α] (s : Statement) : Action (Option α) := do
  match ← s.fetchFirstRow with
  | none => return none
  | some row => some <$> Action.ofExcept (FromRow.fromRow row)

/-- The model class of the statement, which must have one. -/
def requireModel (s : Statement) : Except Error ModelClass :=
  match s.modelClass with
  | some c => .ok c
  | none => .error (.argument (.noModel s.table))

/-- The entities of the rows, without relations. -/
def fetchEntities (s : Statement) : Action (List Entity) := do
  let c ← Action.ofExcept s.requireModel
  let rows ← s.fetchRows
  return rows.map (Entity.ofRow c)

/-- The calls that constrain the query of an eagerly loaded relation. -/
def constraintOn (s : Statement) (name : String) : List Call :=
  (Keyed.find? name s.constraints).getD []

/-- Loads relations onto entities, one after the other. -/
def loadAll (fetch : Statement → Action (List Entity)) (s : Statement) :
    List String → List Entity → Action (List Entity)
  | [], entities => return entities
  | name :: rest, entities => do
    let entities ← Batch.load fetch s.context name (s.constraintOn name) entities
    loadAll fetch s rest entities

/-- The entities with the relations asked for; relations of relations up to a depth. -/
def getWithin : Nat → Statement → Action (List Entity)
  | 0, s => s.fetchEntities
  | depth + 1, s => do
    let entities ← s.fetchEntities
    loadAll (getWithin depth) s s.eager entities

/-- The entities with the relations asked for. -/
def get (s : Statement) : Action (List Entity) :=
  getWithin s.eagerDepth s

/-- The first entity, if there is one. -/
def first (s : Statement) : Action (Option Entity) :=
  List.head? <$> (s.limit 1).get

/-- The first entity, which must exist. -/
def firstOrFail (s : Statement) : Action Entity := do
  match ← s.first with
  | some e => return e
  | none => throw (.notFound (.rowsOf s.table))

/-- The number in the answer to a counting query; no row, no column and null count as zero. -/
def countOf (row : Option Row) : Except Error Nat :=
  match row.bind fun r => (r.get? "aggregate").or r.first? with
  | none => .ok 0
  | some .null => .ok 0
  | some v =>
    match v.asInt? with
    | some n =>
      if 0 ≤ n.toInt then .ok n.toInt.toNat else .error (.decode "aggregate" (.notCount v.type))
    | none => .error (.decode "aggregate" (.notCount v.type))

/-- The number of rows of a SELECT. -/
def count (s : Statement) : Action Nat := do
  let row ← s.dispatch s.compileCount Action.fetchOne
  Action.ofExcept (countOf row)

/-- Whether a SELECT has rows. -/
def hasRows (s : Statement) : Action Bool :=
  (fun total => decide (0 < total)) <$> s.count

/-- The page for a request; the page size defaults to the configured one. -/
def pageOf (s : Statement) (total page : Nat) (perPage : Option Nat) : Page :=
  Page.of total (perPage.getD s.context.config.defaultPerPage) page

/-- The statement cut to a page. -/
def onPage (s : Statement) (p : Page) : Statement :=
  (s.limit p.perPage.toNat).offset p.offset

/-- Counts the rows, then fetches one page of them. -/
def paginateWith {α : Type} (fetch : Statement → Action (List α)) (s : Statement) (page : Nat)
    (perPage : Option Nat) : Action (Paginated α) := do
  let total ← s.count
  let p := s.pageOf total page perPage
  let data ← fetch (s.onPage p)
  return ⟨data, p⟩

/-- One page of rows, decoded. -/
def paginate (α : Type) [FromRow α] (s : Statement) (page : Nat) (perPage : Option Nat) :
    Action (Paginated α) :=
  paginateWith (fetchAllAs α) s page perPage

/-- One page of entities. -/
def paginateEntities (s : Statement) (page : Nat) (perPage : Option Nat) :
    Action (Paginated Entity) :=
  paginateWith get s page perPage

/-- One page of the rows in which a column contains a term, decoded. -/
def search (α : Type) [FromRow α] (s : Statement) (columns : List String) (term : String)
    (page : Nat) (perPage : Option Nat) : Action (Paginated α) := do
  let filtered ← Action.ofExcept (s.searchFilter columns term)
  filtered.paginate α page perPage

end Statement
end EntityQuery

/-
# Statements

A statement under construction.  Every clause is kept rendered, and its values
stand in the ledger under the bucket of the clause.  A call that is refused
records its error; the first error is kept (`Statement.fail`) and is what
compiling the statement gives.
-/

import EntityQuery.Model.Resolver
import EntityQuery.Sql.Bindings
import EntityQuery.Statement.Call

namespace EntityQuery

/-- How a SELECT treats rows that are marked as deleted. -/
inductive SoftDeleteMode where
  | exclude
  | include
  | only
  deriving DecidableEq, Repr

/-- The name of a mode. -/
def SoftDeleteMode.name : SoftDeleteMode → String
  | .exclude => "Default"
  | .include => "WithTrashed"
  | .only => "OnlyTrashed"

/-- A statement under construction. -/
structure Statement where
  context : Context := {}
  kind : Kind := .select
  kindLocked : Bool := false
  table : String := ""
  /-- The SELECT list; none of its entries means every column. -/
  columns : List String := []
  /-- Window and JSON expressions, which follow the SELECT list. -/
  expressions : List String := []
  mutationColumns : List String := []
  conditions : List Condition := []
  /-- JSON predicates, which follow the conditions and hold together with them. -/
  jsonConditions : List String := []
  joins : List String := []
  groups : List String := []
  havingClause : Option String := none
  orders : List String := []
  unions : List String := []
  limitCount : Option Nat := none
  offsetCount : Option Nat := none
  isDistinct : Bool := false
  softDeleteMode : SoftDeleteMode := .exclude
  modelClass : Option ModelClass := none
  /-- Relations to load with the entities, in the order of request. -/
  eager : List String := []
  /-- The calls that constrain the query of an eagerly loaded relation. -/
  constraints : List (String × List Call) := []
  upsertUnique : List String := []
  upsertUpdate : Option (List String) := none
  jsonDialect : Dialect := .mysql
  bindings : Bindings := {}
  buildError : Option Error := none

namespace Statement

/-- An empty SELECT. -/
def new (context : Context) : Statement :=
  { context := context }

/-- The statement that groups of conditions start from: the same context, table and dialect. -/
def scope (s : Statement) : Statement :=
  { context := s.context, table := s.table, jsonDialect := s.jsonDialect }

/-- Records an error, unless one is recorded already. -/
def fail (s : Statement) (e : Error) : Statement :=
  match s.buildError with
  | some _ => s
  | none => { s with buildError := some e }

/-- Records a refused call. -/
def misuse (s : Statement) (m : Misuse) : Statement :=
  s.fail (.argument m)

/-- The quoting of identifiers. -/
def quoting (s : Statement) : Quoting :=
  s.context.config.quoting

/-- The column that marks rows as deleted. -/
def softDeleteColumn (s : Statement) : String :=
  s.context.config.softDeleteColumn

/-- Whether compiling the SELECT adds the test for rows that are not deleted. -/
def filtersDeleted (s : Statement) : Bool :=
  s.softDeleteMode == .exclude && s.modelClass.any ModelClass.softDeletes

/-- The bound values in the order of the placeholders. -/
def values (s : Statement) : List Value :=
  s.bindings.merged s.kind

/-- How deep eager loading may nest: no relation, relations, relations of relations and so on. -/
def eagerDepth (s : Statement) : Nat :=
  s.constraints.foldl (fun depth c => max depth (Call.constraintDepthOf c.2 + 1)) 0 + 1

end Statement
end EntityQuery

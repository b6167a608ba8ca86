/-
# Sessions

A session is what changes while statements run: the class registry, the requests
sent so far, and the log of executed statements.  An `Action` runs against a
connection and changes the session; when it fails, what was sent before stays
sent.

`Action.send` is the only place where requests reach the connection.
-/

import EntityQuery.Model.Resolver
import EntityQuery.Session.Connection
import EntityQuery.Statement.Compile

namespace EntityQuery

/-- The record of one executed statement. -/
structure LogEntry where
  kind : Kind
  table : String
  parameters : Nat
  sql : String

/-- The known classes, the requests sent and the statements logged, oldest first. -/
structure Session where
  registry : Registry := {}
  requests : List Request := []
  log : List LogEntry := []

/-- A computation that may load classes. -/
abbrev Resolving (α : Type) := ExceptT Error (StateM Registry) α

/-- A computation that may load classes and send requests. -/
abbrev Action (α : Type) := ReaderT Connection (ExceptT Error (StateM Session)) α

/-- The model class an input leads to. -/
def Context.resolve (context : Context) (input : String) : Resolving ModelClass :=
  ExceptT.mk fun registry => context.resolver.resolve input registry

namespace Action

/-- A result that is known without sending anything. -/
def ofExcept {α : Type} (result : Except Error α) : Action α :=
  fun _ => ExceptT.mk fun session => (result, session)

/-- The part of a computation that only loads classes. -/
def resolving {α : Type} (loading : Resolving α) : Action α :=
  fun _ => ExceptT.mk fun session =>
    let ended := loading.run session.registry
    (ended.1, { session with registry := ended.2 })

/-- Sends a request; `answer` is the connection's function for its method. -/
def send {α : Type} (method : Method)
    (answer : Connection → List Request → String → List Value → Except Error α)
    (sql : String) (bindings : List Value) : Action α :=
  fun connection => ExceptT.mk fun session =>
    (answer connection session.requests sql bindings,
      { session with requests := session.requests ++ [⟨method, sql, bindings⟩] })

/-- The number of rows that SQL text affects. -/
def execute (sql : String) (bindings : List Value) : Action Nat :=
  send .execute Connection.execute sql bindings

/-- The first row of a query, if there is one. -/
def fetchOne (sql : String) (bindings : List Value) : Action (Option Row) :=
  send .fetchOne Connection.fetchOne sql bindings

/-- The rows of a query. -/
def fetchAll (sql : String) (bindings : List Value) : Action (List Row) :=
  send .fetchAll Connection.fetchAll sql bindings

/-- The first row of a query, which must have one. -/
def fetchOneRequired (sql : String) (bindings : List Value) : Action Row := do
  match ← fetchOne sql bindings with
  | some row => return row
  | none => throw (.notFound .oneRow)

/-- Adds an entry to the log. -/
def note (entry : LogEntry) : Action Unit :=
  fun _ => ExceptT.mk fun session => (.ok (), { session with log := session.log ++ [entry] })

/-- Runs an action; the session is given back also when the action fails. -/
def perform {α : Type} (action : Action α) (connection : Connection) (session : Session) :
    Except Error α × Session :=
  (action.run connection).run.run session

end Action

namespace Statement

/-- The log entry of a compiled statement: its text is shortened to the configured length. -/
def logEntry (s : Statement) (query : Compiled) : LogEntry where
  kind := s.kind
  table := s.table
  parameters := query.bindings.length
  sql :=
    match s.context.config.maxSqlLogLength with
    | some limit => Text.shorten limit query.sql
    | none => query.sql

end Statement
end EntityQuery

/-
# The PostgreSQL connection

A request goes to a server in two steps.  The SQL text is prepared with its
placeholders numbered, upon which the server reports the types of the parameters
and columns; then the values are sent in the formats of the parameters, and the
server answers with rows and the tag of the command.  Text that holds a zero
character cannot be written to the server, so it ends the request before the
first step.  A wrong number of values, or one that has no format for its
parameter, ends it after the first step.  Where rows are asked for, all of them
are received before any is decoded, and each must have a cell for every column.
-/

import EntityQuery.Postgres.Cell
import EntityQuery.Session.Connection
import EntityQuery.Sql.Placeholder

namespace EntityQuery
namespace Postgres

/-- How a server ends an execution without an answer: it reports an error, or it hangs up. -/
inductive Refusal where
  | rejected (text : String)
  | hungUp
  deriving DecidableEq, Repr

/-- The error of a connection that the server has closed. -/
def closedError : Error := .connection "connection closed"

/-- The error that a request ends with. -/
def Refusal.error : Refusal → Error
  | .rejected text => .query text
  | .hungUp => closedError

/-- What a server reports and answers. -/
structure Server where
  parameters : List ColumnType
  columns : List (String × ColumnType)
  rows : List (List Cell)
  tag : String
  /-- How it ends every execution, if it refuses them. -/
  refusal : Option Refusal := none
  /-- Whether it hangs up before any request. -/
  isClosed : Bool := false

/-- What reached the server: the prepared text and the parameters. -/
structure Exchange where
  sent : Option String := none
  parameters : List Cell := []

/-- What a connection hands over for a request: the text with its placeholders numbered, and the
values in their order. -/
def handed (sql : String) (bindings : List Value) : String × List Value :=
  (Placeholder.numbered sql, bindings)

namespace Server

/-- What reaches the server of a request, and whether it is then executed. -/
def exchange (server : Server) (sql : String) (bindings : List Value) :
    Exchange × Except Error Unit :=
  let request := handed sql bindings
  if request.1.toList.contains '\x00' then ({}, .error (.query "text contains a zero character"))
  else if server.isClosed then ({}, .error closedError)
  else
    let sent := some request.1
    if request.2.length ≠ server.parameters.length then
      (⟨sent, []⟩, .error (.query "wrong number of parameters"))
    else
      match encodeAll request.2 server.parameters with
      | .error fault => (⟨sent, []⟩, .error (.query fault.message))
      | .ok cells =>
        match server.refusal with
        | some refusal => (⟨sent, cells⟩, .error refusal.error)
        | none => (⟨sent, cells⟩, .ok ())

/-- The number at the end of a command tag, zero if there is none. -/
def affected (tag : String) : Nat :=
  match (Text.splitOn ' ' tag.toList).getLast? with
  | none => 0
  | some word =>
    match Text.unsigned? word with
    | some n => if n < UInt64.size then n else 0
    | none => 0

/-- The rows of an answer, if each has a cell for every column. -/
def received (server : Server) : Except Error (List (List Cell)) :=
  if server.rows.all fun cells => cells.length == server.columns.length then .ok server.rows
  else .error (.query "number of cells differs from number of columns")

/-- The server as a connection. -/
def connection (server : Server) : Connection where
  driver := .ok "pgsql"
  execute _ sql bindings := do
    (server.exchange sql bindings).2
    return affected server.tag
  fetchOne _ sql bindings := do
    (server.exchange sql bindings).2
    match ← server.received with
    | [] => return none
    | cells :: _ => some <$> decodeRow server.columns cells
  fetchAll _ sql bindings := do
    (server.exchange sql bindings).2
    (← server.received).mapM (decodeRow server.columns)

end Server
end Postgres
end EntityQuery

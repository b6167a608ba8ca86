/-
# Connections

A connection answers requests: SQL text with the values of its placeholders.  An
answer may depend on every request before it, so a connection is a family of
functions of that history and the request.  What was asked is kept by the
session (`EntityQuery.Session.Basic`), not by the connection.
-/

import EntityQuery.Row

namespace EntityQuery

/-- What a request asks for: the number of affected rows, the first row, or all rows. -/
inductive Method where
  | execute
  | fetchOne
  | fetchAll
  deriving DecidableEq, Repr

/-- The name of a method. -/
def Method.name : Method → String
  | .execute => "execute"
  | .fetchOne => "fetch_one"
  | .fetchAll => "fetch_all"

/-- SQL text sent to a connection with the values of its placeholders. -/
structure Request where
  method : Method
  sql : String
  bindings : List Value

/-- A database behind a driver.  Each answer depends on the requests before, oldest first. -/
structure Connection where
  driver : Except Error String
  execute : List Request → String → List Value → Except Error Nat
  fetchOne : List Request → String → List Value → Except Error (Option Row)
  fetchAll : List Request → String → List Value → Except Error (List Row)

/-- The dialect of the driver; the default one, if the driver is not known. -/
def Connection.dialect (c : Connection) : Dialect :=
  match c.driver with
  | .ok name => .ofDriver name
  | .error _ => .mysql

end EntityQuery

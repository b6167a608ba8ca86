/-
# Builder calls

A statement is built by a sequence of calls.  `Call` is one of them as data:
groups of conditions, sub-statements and constraints on eagerly loaded relations
carry the calls that build them, so a whole construction is a finite tree.
`Statement.applyAll` gives its meaning.
-/

import EntityQuery.Model.Class
import EntityQuery.Sql.Condition
import EntityQuery.Sql.JsonPath
import EntityQuery.Sql.Window

namespace EntityQuery

/-- The keyword of a join. -/
inductive JoinKind where
  | inner
  | left
  | right
  | full
  deriving DecidableEq, Repr

/-- The SQL text of a join keyword. -/
def JoinKind.sql : JoinKind → String
  | .inner => "INNER JOIN"
  | .left => "LEFT JOIN"
  | .right => "RIGHT JOIN"
  | .full => "FULL OUTER JOIN"

/-- What is computed over a window.  A raw expression is written as it is given. -/
inductive WindowFunction where
  | rowNumber
  | rank
  | denseRank
  | sum (column : String)
  | avg (column : String)
  | min (column : String)
  | max (column : String)
  | raw (expression : String)

/-- The SQL text of a window function. -/
def WindowFunction.sql (q : Quoting) : WindowFunction → String
  | .rowNumber => "ROW_NUMBER()"
  | .rank => "RANK()"
  | .denseRank => "DENSE_RANK()"
  | .sum column => "SUM(" ++ q.column (Text.trim column) ++ ")"
  | .avg column => "AVG(" ++ q.column (Text.trim column) ++ ")"
  | .min column => "MIN(" ++ q.column (Text.trim column) ++ ")"
  | .max column => "MAX(" ++ q.column (Text.trim column) ++ ")"
  | .raw expression => Text.trim expression

/-- One call on a statement under construction. -/
inductive Call where
  | fromTable (table : String)
  | model (c : ModelClass)
  | dialect (d : Dialect)
  | select (columns : List String)
  | addSelect (columns : List String)
  | distinct
  | compare (connector : Connector) (column operator : String) (value : Value)
  | group (connector : Connector) (calls : List Call)
  | compareSub (connector : Connector) (column operator : String) (sub : List Call)
  | inList (connector : Connector) (negated : Bool) (column : String) (values : List Value)
  | nullCheck (connector : Connector) (notNull : Bool) (column : String)
  | withTrashed
  | onlyTrashed
  | withoutTrashed
  | softDelete (now : Timestamp)
  | restore
  | join (kind : JoinKind) (table left operator right : String)
  | joinSub (kind : JoinKind) (sub : List Call) (label left operator right : String)
  | joinRaw (sql : String) (values : List Value)
  | groupBy (columns : List String)
  | having (column operator : String) (value : Value)
  | orderBy (column direction : String)
  | orderByRaw (sql : String)
  | orderByCase (column : String) (ranks : List (Value × Int)) (otherwise direction : String)
  | union (sub : List Call) (all : Bool)
  | unionRaw (sql : String) (all : Bool)
  | limit (n : Nat)
  | offset (n : Nat)
  | forPage (page perPage : Nat)
  | window (function : WindowFunction) (window : Window) (label : String)
  | jsonExtract (column path label : String)
  | jsonContains (column : String) (value : Json)
  | jsonCompare (column path operator : String) (value : Value)
  | insert (data : List (String × Value))
  | insertOrIgnore (data : List (String × Value))
  | update (data : List (String × Value))
  | delete
  | upsert (data : List (String × Value)) (unique : List String)
  | upsertColumns (columns : List String)
  | withRelations (names : List String)
  | withConstraint (name : String) (calls : List Call)

mutual

/-- How deep the constraints set by a call contain one another. -/
def Call.constraintDepth : Call → Nat
  | .withConstraint _ calls => Call.constraintDepthOf calls + 1
  | _ => 0

/-- The greatest depth of the calls of a list. -/
def Call.constraintDepthOf : List Call → Nat
  | [] => 0
  | call :: rest => max call.constraintDepth (Call.constraintDepthOf rest)

end

end EntityQuery

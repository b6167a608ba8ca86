/-
# Conditions

The WHERE clause as a tree.  A condition carries the connector that joins it to
the one before it; a list of conditions is written with these connectors
between its members, the first one's being left out, and a group is such a list
in parentheses.  Values are kept elsewhere: a condition only says how many
placeholders it writes.
-/

import EntityQuery.Sql.Identifier
import EntityQuery.Sql.Operator

namespace EntityQuery

/-- The word between two conditions. -/
inductive Connector where
  | and
  | or
  deriving DecidableEq, Repr

/-- The SQL text of a connector. -/
def Connector.sql : Connector → String
  | .and => "AND"
  | .or => "OR"

/-- A column of a condition; a raw one is written without quotes. -/
structure ColumnRef where
  name : String
  raw : Bool := false
  deriving DecidableEq, Repr

namespace ColumnRef

/-- The SQL text of a column. -/
def sql (q : Quoting) (c : ColumnRef) : String :=
  if c.raw then c.name else q.column c.name

/-- Whether the column has a name, quotes aside. -/
def refersTo (q : Quoting) (c : ColumnRef) (name : String) : Bool :=
  q.unwrap c.name == q.unwrap name

end ColumnRef

/-- The right-hand side of a comparison. -/
inductive Operand where
  | one
  | group (count : Nat)
  | range
  | null
  deriving DecidableEq, Repr

/-- A group of placeholders without its parentheses. -/
def placeholders (count : Nat) : String :=
  Text.joinWith ", " (List.replicate count "?")

/-- The SQL text of an operand. -/
def Operand.sql : Operand → String
  | .one => "?"
  | .group count => "(" ++ placeholders count ++ ")"
  | .range => "? AND ?"
  | .null => "NULL"

/-- A node of the WHERE tree. -/
inductive Condition where
  | compare (connector : Connector) (column : ColumnRef) (op : Operator) (operand : Operand)
  | list (connector : Connector) (column : ColumnRef) (negated : Bool) (count : Nat)
  | subquery (connector : Connector) (column : ColumnRef) (op : Operator) (sql : String)
  | group (connector : Connector) (conditions : List Condition)

namespace Condition

/-- The connector in front of a condition. -/
def connector : Condition → Connector
  | .compare c _ _ _ => c
  | .list c _ _ _ => c
  | .subquery c _ _ _ => c
  | .group c _ => c

mutual

/-- The SQL text of a condition without its connector. -/
def sql (q : Quoting) : Condition → String
  | .compare _ column op operand => column.sql q ++ " " ++ op.sql ++ " " ++ operand.sql
  | .list _ column negated count =>
    column.sql q ++ (if negated then " NOT IN (" else " IN (") ++ placeholders count ++ ")"
  | .subquery _ column op sub => column.sql q ++ " " ++ op.sql ++ " (" ++ sub ++ ")"
  | .group _ conditions => "(" ++ sqlList q conditions ++ ")"

/-- The SQL text of a list of conditions, the first connector left out. -/
def sqlList (q : Quoting) : List Condition → String
  | [] => ""
  | first :: rest => sql q first ++ sqlTail q rest

/-- The SQL text of conditions that follow others, each with its connector in front. -/
def sqlTail (q : Quoting) : List Condition → String
  | [] => ""
  | c :: rest => " " ++ c.connector.sql ++ " " ++ sql q c ++ sqlTail q rest

end

/-- The operator that tests for null, or for anything else. -/
def nullOperator (notNull : Bool) : Operator :=
  if notNull then .isNot else .is

/-- Whether a condition tests a column for null (or for not null) and has a connector. -/
def isNullCheck (q : Quoting) (name : String) (notNull : Bool) (connector : Connector) :
    Condition → Bool
  | .compare c column op .null =>
    op == nullOperator notNull && c == connector && column.refersTo q name
  | _ => false

/-- Whether a list has an OR between two of its members. -/
def hasTopLevelOr (conditions : List Condition) : Bool :=
  conditions.tail.any fun c => c.connector == .or

/-- The test that keeps rows without a mark of deletion; its column is never quoted. -/
def notDeleted (column : String) : Condition :=
  .compare .and ⟨column, true⟩ .is .null

end Condition
end EntityQuery

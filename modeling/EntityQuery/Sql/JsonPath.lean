/-
# JSON columns

The functions that look into a JSON column, in the words of either dialect.  A
path is always bound as a value, in front of the value it is compared with.
-/

import EntityQuery.Error
import EntityQuery.Sql.Identifier

namespace EntityQuery

/-- A path with its root: `$.` is put in front of a path that does not start with `$`. -/
def jsonPath (path : String) : String :=
  let path := Text.trim path
  if path.toList.head? = some '$' then path else "$." ++ path

namespace Dialect

/-- The value at a bound path of a column. -/
def extract (d : Dialect) (q : Quoting) (column : String) : String :=
  let function := match d with
    | .mysql => "JSON_EXTRACT"
    | .sqlite => "json_extract"
  function ++ "(" ++ q.column column ++ ", ?)"

/-- A JSON value as it is compared with the elements of an array: scalars as themselves. -/
def scalar : Json → Value
  | .null => .null
  | .bool b => .bool b
  | .integer n =>
    match Value.wordOf? n with
    | some w => .int w
    | none => .double (Double.ofInt n)
  | .double x => .double x
  | .string s => .text s
  | j => .text j.compact

/-- The predicate that a JSON array contains a value, and the value it binds. -/
def contains (d : Dialect) (q : Quoting) (column : String) (value : Json) : String × Value :=
  match d with
  | .mysql => ("JSON_CONTAINS(" ++ q.column column ++ ", ?)", .text value.compact)
  | .sqlite =>
    ("EXISTS (SELECT 1 FROM json_each(" ++ q.column column ++ ") WHERE json_each.value = ?)",
      scalar value)

/-- The predicate on the value at a path, and the values it binds. -/
def pathPredicate (d : Dialect) (q : Quoting) (column path operator : String) (value : Value) :
    Except Error (String × List Value) :=
  match Operator.parse? operator with
  | none => .error (.argument (.unknownOperator operator))
  | some op =>
    let extracted := d.extract q column
    let bound := Value.text (jsonPath path)
    match op with
    | .is | .isNot => .ok (extracted ++ " " ++ op.sql ++ " NULL", [bound])
    | .isIn | .notIn | .between => .error (.argument (.jsonPathOperator op))
    | _ => .ok (extracted ++ " " ++ op.sql ++ " ?", [bound, value])

end Dialect
end EntityQuery

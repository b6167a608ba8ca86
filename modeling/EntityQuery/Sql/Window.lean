/-
# Windows

The `OVER (...)` part of a window function: partition columns and ordering
items, written as they are given apart from the quoting of plain names.
-/

import EntityQuery.Error
import EntityQuery.Sql.Identifier

namespace EntityQuery

/-- The rows a window function looks at and their order. -/
structure Window where
  partitionBy : List String := []
  orderBy : List (String × String) := []

namespace Window

/-- One ordering item: a column and the text of a direction. -/
def orderItem (q : Quoting) (item : String × String) : Except Error String :=
  match Direction.parse? item.2 with
  | some direction => .ok (q.column item.1 ++ " " ++ direction.sql)
  | none => .error (.argument (.unknownDirection item.2))

/-- The ordering items; the first direction that is none is the error. -/
def orderItems (q : Quoting) : List (String × String) → Except Error (List String)
  | [] => .ok []
  | item :: rest =>
    match orderItem q item with
    | .error e => .error e
    | .ok sql =>
      match orderItems q rest with
      | .error e => .error e
      | .ok sqls => .ok (sql :: sqls)

/-- The `OVER (...)` clause. -/
def sql (q : Quoting) (w : Window) : Except Error String :=
  match orderItems q w.orderBy with
  | .error e => .error e
  | .ok items =>
    let partition :=
      if w.partitionBy.isEmpty then []
      else ["PARTITION BY " ++ Text.joinWith ", " (w.partitionBy.map q.column)]
    let ordering := if items.isEmpty then [] else ["ORDER BY " ++ Text.joinWith ", " items]
    .ok ("OVER (" ++ Text.joinWith " " (partition ++ ordering) ++ ")")

/-- A window function under an alias. -/
def column (q : Quoting) (w : Window) (function label : String) : Except Error String :=
  match w.sql q with
  | .error e => .error e
  | .ok rows => .ok (function ++ " " ++ rows ++ " AS " ++ q.label label)

end Window
end EntityQuery

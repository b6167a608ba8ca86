/-
# TOML values and tables

A document is a tree of tables.  Where a table came from decides who may still
add to it, and so each table carries its origin:

| origin | written as | may be added to |
|---|---|---|
| `header` | `[a.b]` | by the lines below it, and by headers of tables in it |
| `implicit` | the `a` of `[a.b]` | by one header of its own |
| `dotted` | the `a` of `a.b = 1` | by other dotted keys of the same table |
| `inline` | in braces | by nothing |

An array of tables grows by headers, and a path that leads through it goes on in
its last table.  There a dotted key may make a new table, but the lines below
the header of the array alone may add to the last table itself.

The functions below give none where a document would define a key twice or add
to what is complete.
-/

import EntityQuery.Data.Keyed

namespace EntityQuery

/-- How a table came to be. -/
inductive TableOrigin where
  | header
  | implicit
  | dotted
  | inline
  deriving DecidableEq, Repr

/-- A value of a document.  Floats and times are kept as they are written. -/
inductive Toml where
  | string (s : String)
  | integer (n : Int)
  | float (literal : String)
  | boolean (b : Bool)
  | dateTime (literal : String)
  | array (items : List Toml)
  | table (origin : TableOrigin) (entries : List (String × Toml))
  | tables (items : List (List (String × Toml)))
  deriving Inhabited

namespace Toml

/-- The entries of a table. -/
abbrev Entries := List (String × Toml)

/-- Changes the last item of a list that is not empty. -/
def onLast? {α : Type} (f : α → Option α) : List α → Option (List α)
  | [] => none
  | [x] => (f x).map fun y => [y]
  | x :: rest => (onLast? f rest).map (x :: ·)

/-- Stores a value under a dotted key, given as its first part and the others. -/
def insert? (value : Toml) : String → List String → Entries → Option Entries
  | key, [], entries =>
    if Keyed.contains key entries then none else some (Keyed.put key value entries)
  | key, next :: rest, entries =>
    match Keyed.find? key entries with
    | none => do
      let inner ← insert? value next rest []
      return Keyed.put key (.table .dotted inner) entries
    | some (.table .dotted inner) => do
      let inner ← insert? value next rest inner
      return Keyed.put key (.table .dotted inner) entries
    | some (.table .implicit inner) =>
      if rest.isEmpty then none
      else do
        let inner ← insert? value next rest inner
        return Keyed.put key (.table .implicit inner) entries
    | some (.tables items) =>
      if rest.isEmpty then none
      else do
        let items ← onLast? (insert? value next rest) items
        return Keyed.put key (.tables items) entries
    | some _ => none

/-- Changes the table that a header names: of an array of tables its last one. -/
def onTable? (f : Entries → Option Entries) : List String → Entries → Option Entries
  | [], entries => f entries
  | key :: rest, entries =>
    match Keyed.find? key entries with
    | none => do
      let inner ← onTable? f rest []
      return Keyed.put key (.table .implicit inner) entries
    | some (.table .inline _) => none
    | some (.table origin inner) => do
      let inner ← onTable? f rest inner
      return Keyed.put key (.table origin inner) entries
    | some (.tables items) => do
      let items ← onLast? (onTable? f rest) items
      return Keyed.put key (.tables items) entries
    | some _ => none

/-- Opens the table of a header. -/
def openHeader? (key : String) (entries : Entries) : Option Entries :=
  match Keyed.find? key entries with
  | none => some (Keyed.put key (.table .header []) entries)
  | some (.table .implicit inner) => some (Keyed.put key (.table .header inner) entries)
  | some _ => none

/-- Adds a table to an array of tables. -/
def openElement? (key : String) (entries : Entries) : Option Entries :=
  match Keyed.find? key entries with
  | none => some (Keyed.put key (.tables [[]]) entries)
  | some (.tables items) => some (Keyed.put key (.tables (items ++ [[]])) entries)
  | some _ => none

/-- A key and a value under it, written below a header. -/
def define? (header : List String) (key : List String) (value : Toml) (entries : Entries) :
    Option Entries :=
  match key with
  | [] => none
  | first :: rest => onTable? (insert? value first rest) header entries

/-- The table of a header line. -/
def openTable? (path : List String) (isElement : Bool) (entries : Entries) : Option Entries :=
  match path.getLast? with
  | none => none
  | some key =>
    onTable? (if isElement then openElement? key else openHeader? key) path.dropLast entries

end Toml
end EntityQuery

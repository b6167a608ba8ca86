/-
# Rows

A row is an insertion-ordered map from column names to values: setting a known
column replaces its value in place, a new column goes to the end, and removing
a column leaves the order of the others.
-/

import EntityQuery.Data.Keyed
import EntityQuery.Value.Decode

namespace EntityQuery

/-- The columns of a row with their values, in order. -/
structure Row where
  fields : List (String × Value) := []
  deriving Inhabited

namespace Row

/-- The row without columns. -/
def empty : Row := ⟨[]⟩

/-- Sets a column. -/
def set (row : Row) (column : String) (value : Value) : Row :=
  ⟨Keyed.put column value row.fields⟩

/-- The row of a list of settings, applied in order. -/
def ofPairs (pairs : List (String × Value)) : Row :=
  pairs.foldl (fun row p => row.set p.1 p.2) empty

/-- The value of a column. -/
def get? (row : Row) (column : String) : Option Value :=
  Keyed.find? column row.fields

/-- The row without a column. -/
def erase (row : Row) (column : String) : Row :=
  ⟨Keyed.erase column row.fields⟩

/-- Whether the row has a column. -/
def contains (row : Row) (column : String) : Bool :=
  (row.get? column).isSome

/-- The column names in order. -/
def columns (row : Row) : List String :=
  Keyed.keys row.fields

/-- The number of columns. -/
def size (row : Row) : Nat :=
  row.fields.length

/-- The value in the first column. -/
def first? (row : Row) : Option Value :=
  row.fields.head?.map Prod.snd

/-- Decodes a column; one that is not there decodes as null if the target allows it. -/
def tryGet (α : Type) [FromValue α] (row : Row) (column : String) : Except Error α :=
  match row.get? column with
  | some v =>
    match FromValue.fromValue v with
    | .ok a => .ok a
    | .error fault => .error (.decode column fault)
  | none =>
    match FromValue.fromValue Value.null with
    | .ok a => .ok a
    | .error _ => .error (.decode column .absent)

/-- The members of the JSON form, in column order. -/
def toMembers (row : Row) : List (String × Json) :=
  row.fields.map fun field => (field.1, field.2.toJson)

/-- The JSON form: an object with the columns in order. -/
def toJson (row : Row) : Json :=
  .object row.toMembers

@[simp] theorem get?_set_self (row : Row) (column : String) (value : Value) :
    (row.set column value).get? column = some value := by
  simp [get?, set]

theorem get?_set_of_ne (row : Row) {column other : String} (h : other ≠ column) (value : Value) :
    (row.set column value).get? other = row.get? other := by
  simp [get?, set, Keyed.find?_put_of_ne h]

end Row

/-- A type that whole rows decode to. -/
class FromRow (α : Type) where
  /-- The decoded row, or which column does not decode. -/
  fromRow : Row → Except Error α

instance : FromRow Row := ⟨.ok⟩

/-- A row decoded by its first column. -/
def Row.decodeFirst (α : Type) [FromValue α] (row : Row) : Except Error α :=
  match row.fields with
  | [] => .error (.decode "0" .noColumns)
  | (column, v) :: _ =>
    match FromValue.fromValue v with
    | .ok a => .ok a
    | .error fault => .error (.decode column fault)

instance : FromRow Int64 := ⟨Row.decodeFirst Int64⟩
instance : FromRow Int32 := ⟨Row.decodeFirst Int32⟩
instance : FromRow UInt64 := ⟨Row.decodeFirst UInt64⟩
instance : FromRow Double := ⟨Row.decodeFirst Double⟩
instance : FromRow Bool := ⟨Row.decodeFirst Bool⟩
instance : FromRow String := ⟨Row.decodeFirst String⟩

end EntityQuery

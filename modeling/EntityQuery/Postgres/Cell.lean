/-
# Binary cells

A cell of a row is read by the binary format of its column's type.  A type
without a format of its own is read as text, which `numeric` and `date` refuse:
their cells are not texts.
-/

import EntityQuery.Json.Reader
import EntityQuery.Postgres.Parameter
import EntityQuery.Row

namespace EntityQuery
namespace Postgres

/-- The years that a timestamp may have. -/
def isYearInRange (year : Int) : Bool :=
  -262143 ≤ year && year ≤ 262142

/-- The timestamp a number of microseconds after 2000-01-01, if its year is in range. -/
def ofMicroseconds? (n : Int) : Option Timestamp :=
  let seconds := epoch + Int.fdiv n 1000000
  if isYearInRange (Date.ofDays (Int.fdiv seconds 86400)).year then
    some ⟨seconds, (Int.fmod n 1000000).toNat * 1000⟩
  else none

/-- The integer of a word of exactly `width` bytes. -/
def decodeInt? (width : Nat) (bytes : List UInt8) : Option Int :=
  if bytes.length = width then some (Word.toInt bytes) else none

/-- The number of a word of exactly `width` bytes. -/
def decodeNat? (width : Nat) (bytes : List UInt8) : Option Nat :=
  if bytes.length = width then some (Word.toNat bytes) else none

/-- The value of a cell that is not null. -/
def decode? (type : ColumnType) (bytes : List UInt8) : Option Value :=
  match type with
  | .bool => (decodeNat? 1 bytes).map fun n => .bool (n != 0)
  | .int2 => (decodeInt? 2 bytes).map fun n => .int (Int64.ofInt n)
  | .int4 => (decodeInt? 4 bytes).map fun n => .int (Int64.ofInt n)
  | .int8 => (decodeInt? 8 bytes).map fun n => .int (Int64.ofInt n)
  | .float4 => (decodeNat? 4 bytes).map fun n => .double (Double.ofSingleBits (UInt32.ofNat n))
  | .float8 => (decodeNat? 8 bytes).map fun n => .double ⟨UInt64.ofNat n⟩
  | .bytea => some (.bytes bytes)
  | .uuid => (Uuid.ofBytes? bytes).map .uuid
  | .timestamp | .timestamptz => ((decodeInt? 8 bytes).bind ofMicroseconds?).map .timestamp
  | .json => ((Text.ofUtf8? bytes).bind Json.parse?).map .json
  | .jsonb =>
    match bytes with
    | version :: rest =>
      if version = jsonbVersion then ((Text.ofUtf8? rest).bind Json.parse?).map .json else none
    | [] => none
  | .text | .varchar => (Text.ofUtf8? bytes).map .text
  | .numeric | .date => none

/-- Whether the cells of a type can be read at all. -/
def isReadable : ColumnType → Bool
  | .numeric => false
  | .date => false
  | _ => true

/-- The value of a cell. -/
def decode (type : ColumnType) (cell : Cell) : Except DecodeFault Value :=
  if !isReadable type then .error .encoding
  else
    match cell with
    | none => .ok .null
    | some bytes =>
      match decode? type bytes with
      | some v => .ok v
      | none => .error .encoding

/-- Adds the cells of some columns to a row; a column named twice keeps its place and takes the
later cell. -/
def decodeOnto (row : Row) : List (String × ColumnType) → List Cell → Except Error Row
  | (name, type) :: columns, cell :: cells =>
    match decode type cell with
    | .ok v => decodeOnto (row.set name v) columns cells
    | .error fault => .error (.decode name fault)
  | _, _ => .ok row

/-- The row of some cells. -/
def decodeRow (columns : List (String × ColumnType)) (cells : List Cell) : Except Error Row :=
  decodeOnto Row.empty columns cells

end Postgres
end EntityQuery

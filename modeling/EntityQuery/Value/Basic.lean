/-
# Values

A value is what a statement binds and what a row holds.  Integers are words of
eight bytes; a list is a value of its own, which clauses that take several
values spread over their placeholders.

The readings of a value (`asInt?`, `asDouble?`, `asBool?`, `asText?`) are the
conversions that decoding allows, and `key?` is the text under which rows are
matched with each other.
-/

import EntityQuery.Calendar.Timestamp
import EntityQuery.Data.Uuid
import EntityQuery.Json.Printer

namespace EntityQuery

/-- A dynamically typed SQL value. -/
inductive Value where
  | null
  | bool (b : Bool)
  | int (n : Int64)
  | double (x : Double)
  | text (s : String)
  | bytes (bs : List UInt8)
  | uuid (u : Uuid)
  | timestamp (t : Timestamp)
  | json (j : Json)
  | array (items : List Value)
  deriving Inhabited

/-- The type of a value. -/
inductive ValueType where
  | null
  | bool
  | int
  | double
  | text
  | bytes
  | uuid
  | timestamp
  | json
  | array
  deriving DecidableEq, Repr

/-- The SQL name of a type. -/
def ValueType.name : ValueType → String
  | .null => "NULL"
  | .bool => "BOOLEAN"
  | .int => "INTEGER"
  | .double => "DOUBLE"
  | .text => "TEXT"
  | .bytes => "BLOB"
  | .uuid => "UUID"
  | .timestamp => "TIMESTAMP"
  | .json => "JSON"
  | .array => "ARRAY"

namespace Value

/-- The type a value has. -/
def type : Value → ValueType
  | .null => .null
  | .bool _ => .bool
  | .int _ => .int
  | .double _ => .double
  | .text _ => .text
  | .bytes _ => .bytes
  | .uuid _ => .uuid
  | .timestamp _ => .timestamp
  | .json _ => .json
  | .array _ => .array

/-- Whether the value is the SQL null. -/
def isNull : Value → Bool
  | .null => true
  | _ => false

/-- Whether the value is a list. -/
def isArray : Value → Bool
  | .array _ => true
  | _ => false

/-- A number that fits a word, as the word. -/
def wordOf? (n : Int) : Option Int64 :=
  if -0x8000000000000000 ≤ n ∧ n < 0x8000000000000000 then some (Int64.ofInt n) else none

/-- The value as an integer: an integer itself, a truth value as 0 or 1, a numeral as its number. -/
def asInt? : Value → Option Int64
  | .int n => some n
  | .bool b => some (if b then 1 else 0)
  | .text s => (Text.signed? s.toList).bind wordOf?
  | _ => none

/-- The value as a double: a double itself or the one nearest to an integer. -/
def asDouble? : Value → Option Double
  | .double x => some x
  | .int n => some (Double.ofInt n.toInt)
  | _ => none

/-- The value as a truth value; an integer is true unless it is zero. -/
def asBool? : Value → Option Bool
  | .bool b => some b
  | .int n => some (n != 0)
  | _ => none

/-- The text of a text value. -/
def asText? : Value → Option String
  | .text s => some s
  | _ => none

/-- The items of a list; any other value is a list of itself. -/
def toItems : Value → List Value
  | .array items => items
  | value => [value]

/-- The text under which rows are matched; equal numbers and texts of them share it. -/
def key? : Value → Option String
  | .int n => some (Text.signedDecimal n.toInt)
  | .text s => some s
  | .uuid u => some u.text
  | .bool b => some (if b then "true" else "false")
  | _ => none

mutual

/-- The JSON form of a value. -/
def toJson : Value → Json
  | .null => .null
  | .bool b => .bool b
  | .int n => .integer n.toInt
  | .double x => Json.ofDouble x
  | .text s => .string s
  | .bytes bs => .array (bs.map fun b => .integer b.toNat)
  | .uuid u => .string u.text
  | .timestamp t => .string t.text
  | .json j => j
  | .array items => .array (itemsToJson items)

/-- The JSON forms of the items of a list. -/
def itemsToJson : List Value → List Json
  | [] => []
  | item :: rest => toJson item :: itemsToJson rest

end

/-- The bytes an array of JSON integers stands for, if every one fits a byte. -/
def bytesOfJson? : List Json → Option (List UInt8)
  | [] => some []
  | .integer n :: rest =>
    if 0 ≤ n ∧ n ≤ 255 then (bytesOfJson? rest).map (UInt8.ofNat n.toNat :: ·) else none
  | _ :: _ => none

/-- Reads a value from JSON.  An integer beyond a word is a double, an array of bytes is a byte
string, and what has no form of its own stays JSON. -/
def ofJson : Json → Value
  | .null => .null
  | .bool b => .bool b
  | .integer n =>
    match wordOf? n with
    | some w => .int w
    | none => .double (Double.ofInt n)
  | .double x => .double x
  | .string s => .text s
  | .array items =>
    match bytesOfJson? items with
    | some bs => .bytes bs
    | none => .json (.array items)
  | .object members => .json (.object members)

end Value
end EntityQuery

/-
# Binary parameters

A value is sent in the binary format of its parameter's type:

| value | types | bytes |
|---|---|---|
| truth value | `bool` | one byte, 0 or 1 |
| integer | `int2`, `int4`, `int8` | two's complement in 2, 4 or 8 bytes |
| double | `float4`, `float8` | IEEE 754 in 4 or 8 bytes |
| text | `text`, `varchar` | UTF-8 |
| bytes | `bytea` | themselves |
| UUID | `uuid` | its 16 bytes |
| timestamp | `timestamp`, `timestamptz` | microseconds since 2000-01-01, 8 bytes |
| JSON | `json`, `jsonb` | the compact text; for `jsonb` after a version byte |

Null is sent as null for any type, a list for none, and a value never for a type
that is not in its row.
-/

import EntityQuery.Json.Printer
import EntityQuery.Postgres.ColumnType
import EntityQuery.Postgres.Word
import EntityQuery.Text.Utf8
import EntityQuery.Value.Basic

namespace EntityQuery
namespace Postgres

/-- Why a value cannot be sent. -/
inductive EncodeFault where
  | wrongType
  | outOfRange
  | listValue
  deriving DecidableEq, Repr

/-- The reason in words. -/
def EncodeFault.message : EncodeFault → String
  | .wrongType => "value does not fit the type of its parameter"
  | .outOfRange => "integer out of the range of its parameter"
  | .listValue => "list values must be expanded into placeholders before binding"

/-- Bytes, or the null. -/
abbrev Cell := Option (List UInt8)

/-- 2000-01-01T00:00:00Z in seconds since 1970-01-01. -/
def epoch : Int := 946684800

/-- The microseconds of a timestamp since 2000-01-01; a fraction of one is dropped toward zero. -/
def microseconds (t : Timestamp) : Int :=
  Int.tdiv (t.totalNanos - epoch * Timestamp.nanosPerSecond) 1000

/-- The version byte in front of a `jsonb` text. -/
def jsonbVersion : UInt8 := 1

/-- An integer as a word of a width, if it fits. -/
def encodeInt (width : Nat) (n : Int) : Except EncodeFault Cell :=
  if -(Word.modulus width : Int) ≤ 2 * n ∧ 2 * n < Word.modulus width then
    .ok (some (Word.ofInt width n))
  else .error .outOfRange

/-- The bytes of a value for a type. -/
def encode (v : Value) (type : ColumnType) : Except EncodeFault Cell :=
  match v, type with
  | .null, _ => .ok none
  | .bool b, .bool => .ok (some [if b then 1 else 0])
  | .int n, .int2 => encodeInt 2 n.toInt
  | .int n, .int4 => encodeInt 4 n.toInt
  | .int n, .int8 => encodeInt 8 n.toInt
  | .double x, .float4 => .ok (some (Word.ofNat 4 x.toSingleBits.toNat))
  | .double x, .float8 => .ok (some (Word.ofNat 8 x.bits.toNat))
  | .text s, .text => .ok (some (Text.utf8 s))
  | .text s, .varchar => .ok (some (Text.utf8 s))
  | .bytes bs, .bytea => .ok (some bs)
  | .uuid u, .uuid => .ok (some u.bytes)
  | .timestamp t, .timestamp => encodeInt 8 (microseconds t)
  | .timestamp t, .timestamptz => encodeInt 8 (microseconds t)
  | .json j, .json => .ok (some (Text.utf8 j.compact))
  | .json j, .jsonb => .ok (some (jsonbVersion :: Text.utf8 j.compact))
  | .array _, _ => .error .listValue
  | _, _ => .error .wrongType

/-- The bytes of the values for the parameters, one for each. -/
def encodeAll : List Value → List ColumnType → Except EncodeFault (List Cell)
  | [], [] => .ok []
  | v :: values, type :: types => do
    let cell ← encode v type
    let cells ← encodeAll values types
    return cell :: cells
  | _, _ => .error .wrongType

end Postgres
end EntityQuery

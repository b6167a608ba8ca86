/-
# Decoding values

`FromValue α` is a reading of values as `α`.  A reading of `Option α` gives
`none` for the SQL null and for nothing else, so an absent column, which is
decoded as null, is an error for every target that refuses null.
-/

import EntityQuery.Error
import EntityQuery.Json.Reader

namespace EntityQuery

/-- A type that values decode to. -/
class FromValue (α : Type) where
  /-- The decoded value, or why the value does not decode. -/
  fromValue : Value → Except DecodeFault α

/-- A conversion that some values allow, the others being of the wrong type. -/
def decodeBy {α : Type} (expected : Target) (read : Value → Option α) (v : Value) :
    Except DecodeFault α :=
  match read v with
  | some a => .ok a
  | none => .error (.mismatch expected v.type)

/-- A value as an integer. -/
def Value.decodeInt (v : Value) : Except DecodeFault Int64 :=
  decodeBy .integer Value.asInt? v

/-- A value as an integer between two bounds. -/
def Value.decodeBetween (low high : Int) (v : Value) : Except DecodeFault Int :=
  match v.decodeInt with
  | .error fault => .error fault
  | .ok n =>
    if n.toInt < low then .error .tooSmall
    else if high < n.toInt then .error .tooLarge
    else .ok n.toInt

instance : FromValue Value := ⟨.ok⟩

instance : FromValue Int64 := ⟨Value.decodeInt⟩

instance : FromValue Int32 :=
  ⟨fun v => (v.decodeBetween (-0x80000000) 0x7FFFFFFF).map Int32.ofInt⟩

instance : FromValue UInt64 :=
  ⟨fun v => (v.decodeBetween 0 0x7FFFFFFFFFFFFFFF).map fun n => UInt64.ofNat n.toNat⟩

instance : FromValue Double := ⟨decodeBy .float Value.asDouble?⟩

instance : FromValue Bool := ⟨decodeBy .boolean Value.asBool?⟩

instance : FromValue String where
  fromValue
    | .text s => .ok s
    | .uuid u => .ok u.text
    | .int n => .ok (Text.signedDecimal n.toInt)
    | v => .error (.mismatch .text v.type)

/-- A text read in the format of a target. -/
def decodeText {α : Type} (target : Target) (parse : String → Option α) (s : String) :
    Except DecodeFault α :=
  match parse s with
  | some a => .ok a
  | none => .error (.malformed target)

instance : FromValue Uuid where
  fromValue
    | .uuid u => .ok u
    | .text s => decodeText .uuid Uuid.parse? s
    | v => .error (.mismatch .uuid v.type)

instance : FromValue Timestamp where
  fromValue
    | .timestamp t => .ok t
    | .text s => decodeText .timestamp Timestamp.parse? s
    | v => .error (.mismatch .timestamp v.type)

instance : FromValue Json where
  fromValue
    | .json j => .ok j
    | .text s => decodeText .json Json.parse? s
    | v => .ok v.toJson

instance {α : Type} [FromValue α] : FromValue (Option α) where
  fromValue v := if v.isNull then .ok none else (FromValue.fromValue v).map some

end EntityQuery

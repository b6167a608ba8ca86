/-
# Parameters that come back

A parameter is sent by one table, by value and type, and a column is read by another, by
type alone.  For the values whose format loses nothing (`Value.IsLossless`) the two agree:
whatever is sent for a type is read back from a column of that type (`decode_of_encode`).

What is sent at all is said by `Value.Fits` (`exists_encode_iff`).  An integer goes for the
three integer types, and only if the type can hold it, so that none is cut off or wraps
(`exists_encode_int_iff`).
-/

import EntityQuery.Proofs.Encoded.Formats

namespace EntityQuery

/-- The number of bytes of an integer type. -/
def Postgres.ColumnType.integerBytes? : ColumnType → Option Nat
  | .int2 => some 2
  | .int4 => some 4
  | .int8 => some 8
  | _ => none

/-- Whether a type has words of two's complement that hold an integer. -/
def Postgres.ColumnType.HoldsInt (type : ColumnType) (n : Int) : Prop :=
  ∃ width, type.integerBytes? = some width ∧ -2 ^ (8 * width - 1) ≤ n ∧ n < 2 ^ (8 * width - 1)

/-- The values whose format loses nothing: no doubles, no JSON, no lists, and timestamps if they are
whole. -/
def Value.IsLossless : Value → Prop
  | .timestamp t => t.IsWhole
  | .double _ | .json _ | .array _ => False
  | _ => True

/-- Whether a value has a format for a type: null has one for each, an integer for the types that
hold it, and the others for the types of their own. -/
def Value.Fits : Value → Postgres.ColumnType → Prop
  | .null, _ => True
  | .bool _, .bool => True
  | .int n, type => type.HoldsInt n.toInt
  | .text _, .text | .text _, .varchar => True
  | .bytes _, .bytea => True
  | .uuid _, .uuid => True
  | .timestamp _, .timestamp | .timestamp _, .timestamptz => True
  | _, _ => False

namespace Postgres

/-! ### Integers -/

theorem Word.modulus_eq {width : Nat} (h : 0 < width) :
    (modulus width : Int) = 2 * 2 ^ (8 * width - 1) := by
  obtain ⟨k, rfl⟩ := Nat.exists_eq_add_of_lt h
  have hpow : modulus (0 + k + 1) = 2 * 2 ^ (8 * (0 + k + 1) - 1) := by
    rw [modulus, Nat.pow_eq, show 256 = 2 ^ 8 from rfl, ← Nat.pow_mul, ← Nat.pow_succ']
    congr 1
  rw [hpow, Int.natCast_mul, Int.natCast_pow]
  rfl

theorem encode_int (n : Int64) (type : ColumnType) :
    encode (.int n) type =
      match type.integerBytes? with
      | some width => encodeInt width n.toInt
      | none => .error .wrongType := by
  cases type <;> rfl

theorem decode?_of_integer {type : ColumnType} {width : Nat} (h : type.integerBytes? = some width)
    (bytes : List UInt8) :
    decode? type bytes = (decodeInt? width bytes).map fun n => .int (Int64.ofInt n) := by
  cases type with
  | int2 => obtain rfl := Option.some.inj h; rfl
  | int4 => obtain rfl := Option.some.inj h; rfl
  | int8 => obtain rfl := Option.some.inj h; rfl
  | _ => exact nomatch h

theorem integerBytes?_pos {type : ColumnType} {width : Nat}
    (h : type.integerBytes? = some width) : 0 < width := by
  cases type with
  | int2 => obtain rfl := Option.some.inj h; decide
  | int4 => obtain rfl := Option.some.inj h; decide
  | int8 => obtain rfl := Option.some.inj h; decide
  | _ => exact nomatch h

/-- **An integer is sent for the types that hold it and for no others.** -/
theorem exists_encode_int_iff {n : Int64} {type : ColumnType} :
    (∃ cell, encode (.int n) type = .ok cell) ↔ type.HoldsInt n.toInt := by
  rw [encode_int]
  unfold ColumnType.HoldsInt
  cases hwidth : type.integerBytes? with
  | none => exact iff_of_false (fun h => nomatch h.choose_spec) (fun h => nomatch h.choose_spec.1)
  | some width =>
      have hmodulus := Word.modulus_eq (integerBytes?_pos hwidth)
      simp only [encodeInt_eq_ok_iff, exists_and_left, exists_eq, and_true, Option.some.injEq,
        exists_eq_left']
      constructor
      · rintro ⟨hlow, hhigh⟩
        exact ⟨by omega, by omega⟩
      · rintro ⟨hlow, hhigh⟩
        exact ⟨by omega, by omega⟩

example : encode (.int (-32768)) .int2 = .ok (some [0x80, 0x00]) := rfl
example : encode (.int 32768) .int2 = .error .outOfRange := rfl

theorem isReadable_of_integer {type : ColumnType} {width : Nat}
    (h : type.integerBytes? = some width) : isReadable type = true := by
  cases type <;> first | rfl | exact nomatch h

/-! ### All values -/

theorem decode_some {type : ColumnType} {bytes : List UInt8} {v : Value}
    (hreadable : isReadable type = true) (h : decode? type bytes = some v) :
    decode type (some bytes) = .ok v := by
  unfold decode
  rw [hreadable]
  simp only [Bool.not_true, Bool.false_eq_true, if_false, h]

theorem decode_of_encode_int {n : Int64} {type : ColumnType} {cell : Cell}
    (h : encode (.int n) type = .ok cell) : decode type cell = .ok (.int n) := by
  rw [encode_int] at h
  split at h
  · rename_i width hwidth
    obtain ⟨hrange, rfl⟩ := encodeInt_eq_ok_iff.1 h
    refine decode_some (isReadable_of_integer hwidth) ?_
    rw [decode?_of_integer hwidth, decodeInt?_ofInt hrange, Option.map_some, Int64.ofInt_toInt]
  · exact nomatch h

/-- A whole timestamp is read back from the eight bytes of its microseconds. -/
theorem decode_of_encode_microseconds {t : Timestamp} {type : ColumnType} {cell : Cell}
    (ht : t.IsWhole) (htype : type = .timestamp ∨ type = .timestamptz)
    (h : encodeInt 8 (microseconds t) = .ok cell) : decode type cell = .ok (.timestamp t) := by
  obtain ⟨hrange, rfl⟩ := encodeInt_eq_ok_iff.1 h
  have hread : ((decodeInt? 8 (Word.ofInt 8 (microseconds t))).bind ofMicroseconds?).map
      Value.timestamp = some (.timestamp t) := by
    rw [decodeInt?_ofInt hrange, Option.bind_some, ofMicroseconds?_microseconds ht, Option.map_some]
  rcases htype with rfl | rfl
  · exact decode_some rfl hread
  · exact decode_some rfl hread

/-- **What is sent for a type is read back from a column of that type.** -/
theorem decode_of_encode {v : Value} {type : ColumnType} {cell : Cell} (hv : v.IsLossless)
    (hreadable : isReadable type = true) (h : encode v type = .ok cell) :
    decode type cell = .ok v := by
  have htext : ∀ s, (Text.ofUtf8? (Text.utf8 s)).map Value.text = some (.text s) :=
    fun s => congrArg (Option.map Value.text) (Text.ofUtf8?_utf8 s)
  cases v with
  | null =>
      obtain rfl := Except.ok.inj h
      unfold decode
      rw [hreadable]
      rfl
  | bool b =>
      cases type with
      | bool =>
          obtain rfl := Except.ok.inj h
          cases b <;> rfl
      | _ => exact nomatch h
  | int n => exact decode_of_encode_int h
  | text s =>
      cases type with
      | text =>
          obtain rfl := Except.ok.inj h
          exact decode_some rfl (htext s)
      | varchar =>
          obtain rfl := Except.ok.inj h
          exact decode_some rfl (htext s)
      | _ => exact nomatch h
  | bytes bs =>
      cases type with
      | bytea =>
          obtain rfl := Except.ok.inj h
          rfl
      | _ => exact nomatch h
  | uuid u =>
      cases type with
      | uuid =>
          obtain rfl := Except.ok.inj h
          exact decode_some rfl (congrArg (Option.map Value.uuid) (Uuid.ofBytes?_bytes u))
      | _ => exact nomatch h
  | timestamp t =>
      cases type with
      | timestamp => exact decode_of_encode_microseconds hv (.inl rfl) h
      | timestamptz => exact decode_of_encode_microseconds hv (.inr rfl) h
      | _ => exact nomatch h
  | double | json | array => exact hv.elim

/-- **What is sent at all.** -/
theorem exists_encode_iff {v : Value} {type : ColumnType} (hv : v.IsLossless) :
    (∃ cell, encode v type = .ok cell) ↔ v.Fits type := by
  cases v with
  | null => exact iff_of_true ⟨none, rfl⟩ trivial
  | int n => exact exists_encode_int_iff
  | timestamp t =>
      have hsent : ∃ cell, encodeInt 8 (microseconds t) = .ok cell :=
        ⟨_, encodeInt_eq_ok_iff.2 ⟨microseconds_lt hv, rfl⟩⟩
      cases type with
      | timestamp => exact iff_of_true hsent trivial
      | timestamptz => exact iff_of_true hsent trivial
      | _ => exact iff_of_false (fun h => nomatch h.choose_spec) id
  | double | json | array => exact hv.elim
  | bool =>
      cases type with
      | bool => exact iff_of_true ⟨_, rfl⟩ trivial
      | _ => exact iff_of_false (fun h => nomatch h.choose_spec) id
  | text =>
      cases type with
      | text => exact iff_of_true ⟨_, rfl⟩ trivial
      | varchar => exact iff_of_true ⟨_, rfl⟩ trivial
      | _ => exact iff_of_false (fun h => nomatch h.choose_spec) id
  | bytes =>
      cases type with
      | bytea => exact iff_of_true ⟨_, rfl⟩ trivial
      | _ => exact iff_of_false (fun h => nomatch h.choose_spec) id
  | uuid =>
      cases type with
      | uuid => exact iff_of_true ⟨_, rfl⟩ trivial
      | _ => exact iff_of_false (fun h => nomatch h.choose_spec) id

/-- **Parameters survive the round trip.**  A value whose format loses nothing is sent for the types
that it fits, and what was sent for a type is read back from a column of that type.  An integer fits
the integer types that hold it and no others, and a list is never sent. -/
theorem parameters_read_back (v : Value) (type : ColumnType) :
    (v.IsLossless → ((∃ cell, encode v type = .ok cell) ↔ v.Fits type) ∧
      (isReadable type = true → ∀ cell, encode v type = .ok cell → decode type cell = .ok v)) ∧
      (∀ n, (∃ cell, encode (.int n) type = .ok cell) ↔ type.HoldsInt n.toInt) ∧
      ∀ items cell, encode (.array items) type ≠ .ok cell :=
  ⟨fun hv => ⟨exists_encode_iff hv, fun hreadable _ h => decode_of_encode hv hreadable h⟩,
    fun _ => exists_encode_int_iff, fun _ _ h => nomatch h⟩

/-- The microsecond before 1970 is sent and comes back. -/
theorem parameters_read_back_before_1970 :
    let t : Timestamp := ⟨-1, 999999000⟩
    t.IsWhole ∧ isReadable .timestamptz = true ∧
      ∃ cell, encode (.timestamp t) .timestamptz = .ok cell ∧
        decode .timestamptz cell = .ok (.timestamp t) := by
  intro t
  have ht : t.IsWhole := ⟨by decide, by decide, by decide⟩
  obtain ⟨hsent, hread⟩ := (parameters_read_back (.timestamp t) .timestamptz).1 ht
  obtain ⟨cell, hcell⟩ := hsent.2 trivial
  exact ⟨ht, rfl, cell, hcell, hread rfl cell hcell⟩

end Postgres
end EntityQuery

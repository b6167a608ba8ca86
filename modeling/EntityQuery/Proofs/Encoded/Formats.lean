/-
# Formats that lose nothing

A format is read back from its bytes.  An integer within the bounds of a word in two's
complement is the integer of that word (`Word.toInt_ofInt`), a text is the text of its
UTF-8 bytes (`Text.ofUtf8?_utf8`), and an identifier is that of its sixteen.

A timestamp goes as a number of microseconds.  It comes back if it has no part of one
and stands outside of leap seconds (`ofMicroseconds?_microseconds`), and in the years
that a timestamp may have the number is never too large for its eight bytes
(`microseconds_lt`).
-/

import EntityQuery.Postgres.Cell
import Mathlib.Data.Int.ModEq

namespace EntityQuery

/-! ### Words -/

namespace Postgres

/-- **An integer within the bounds of a word is read back from its bytes.** -/
theorem Word.toInt_ofInt {width : Nat} {n : Int}
    (h : -(modulus width : Int) ≤ 2 * n ∧ 2 * n < modulus width) :
    toInt (ofInt width n) = n := by
  obtain ⟨hlow, hhigh⟩ := h
  have hpos : (0 : Int) < modulus width := by omega
  have hnonneg := Int.emod_nonneg n (Int.ne_of_gt hpos)
  have hlt := Int.emod_lt_of_pos n hpos
  -- A negative integer stands for the number that is one modulus higher.
  have hrest : n % (modulus width : Int) = if 0 ≤ n then n else n + modulus width := by
    split
    · rename_i hn
      exact Int.emod_eq_of_lt hn (by omega)
    · rw [← Int.add_emod_right]
      exact Int.emod_eq_of_lt (by omega) (by omega)
  have hread : toNat (ofNat width (n % (modulus width : Int)).toNat) =
      (n % (modulus width : Int)).toNat := toNat_ofNat (by omega)
  unfold toInt ofInt
  simp only [hread, length_ofNat]
  split at hrest
  · rw [if_pos (by omega)]
    omega
  · rw [if_neg (by omega)]
    omega

theorem encodeInt_eq_ok_iff {width : Nat} {n : Int} {cell : Cell} :
    encodeInt width n = .ok cell ↔
      (-(Word.modulus width : Int) ≤ 2 * n ∧ 2 * n < Word.modulus width) ∧
        cell = some (Word.ofInt width n) := by
  unfold encodeInt
  split
  · rename_i h
    exact ⟨fun heq => ⟨h, (Except.ok.inj heq).symm⟩, fun heq => congrArg _ heq.2.symm⟩
  · rename_i h
    exact ⟨nofun, fun heq => absurd heq.1 h⟩

/-- The word of an integer within its bounds gives the integer back. -/
theorem decodeInt?_ofInt {width : Nat} {n : Int}
    (h : -(Word.modulus width : Int) ≤ 2 * n ∧ 2 * n < Word.modulus width) :
    decodeInt? width (Word.ofInt width n) = some n := by
  have hlength : (Word.ofInt width n).length = width := Word.length_ofNat ..
  rw [decodeInt?, if_pos hlength, Word.toInt_ofInt h]

end Postgres

/-! ### Texts and identifiers -/

/-- What the bytes of an array are collected to. -/
theorem Text.toList_loop (bytes : ByteArray) (i : Nat) (acc : List UInt8) :
    ByteArray.toList.loop bytes i acc = acc.reverse ++ bytes.data.toList.drop i := by
  fun_induction ByteArray.toList.loop bytes i acc with
  | case1 i acc h ih =>
      have hget : bytes.get! i = bytes.data.toList[i] := getElem!_pos bytes.data i h
      rw [ih, List.drop_eq_getElem_cons (l := bytes.data.toList) h, List.reverse_cons,
        List.append_assoc, List.singleton_append, hget]
  | case2 i acc h => rw [List.drop_eq_nil_of_le (Nat.le_of_not_lt h), List.append_nil]

/-- **A text is read back from its bytes.** -/
theorem Text.ofUtf8?_utf8 (s : String) : ofUtf8? (utf8 s) = some s := by
  have hbytes : ByteArray.mk (utf8 s).toArray = s.toByteArray := by
    rw [utf8, String.toUTF8_eq_toByteArray, ByteArray.toList, toList_loop, List.reverse_nil,
      List.nil_append, List.drop_zero, Array.toArray_toList]
  unfold ofUtf8? String.fromUTF8?
  rw [hbytes, dif_pos s.isValidUTF8]
  rfl

theorem Uuid.ofBytes?_bytes (u : Uuid) : ofBytes? u.bytes = some u :=
  dif_pos u.length_bytes

/-! ### Timestamps -/

/-- The year of a day lies in the cycle of 400 years that the day lies in. -/
theorem Date.year_ofDays_bounds (days : Int) :
    (days + 719468) / 146097 * 400 ≤ (ofDays days).year ∧
      (ofDays days).year ≤ (days + 719468) / 146097 * 400 + 401 := by
  unfold ofDays
  simp only [Int.fdiv_eq_ediv_of_nonneg _ (show (0 : Int) ≤ 146097 by decide)]
  split
  · omega
  · omega

/-- A timestamp that has a number of microseconds of its own: it has no part of a microsecond, it
does not stand in a leap second, and its year is one that a timestamp may have. -/
structure Timestamp.IsWhole (t : Timestamp) : Prop where
  year : Postgres.isYearInRange (Date.ofDays (t.seconds.fdiv 86400)).year = true
  counted : t.nanos < nanosPerSecond
  whole : t.nanos % 1000 = 0

namespace Postgres

variable {t : Timestamp}

theorem microseconds_eq (h : t.IsWhole) :
    microseconds t = (t.seconds - epoch) * 1000000 + (t.nanos / 1000 : Nat) := by
  have hwhole := h.whole
  have hnanos : t.totalNanos - epoch * Timestamp.nanosPerSecond =
      ((t.seconds - epoch) * 1000000 + (t.nanos / 1000 : Nat)) * 1000 := by
    unfold Timestamp.totalNanos Timestamp.nanosPerSecond
    omega
  rw [microseconds, hnanos]
  exact Int.mul_tdiv_cancel _ (by decide)

/-- **A whole timestamp is read back from its microseconds.** -/
theorem ofMicroseconds?_microseconds (h : t.IsWhole) :
    ofMicroseconds? (microseconds t) = some t := by
  have hcounted : t.nanos < 1000000000 := h.counted
  have hwhole := h.whole
  have hmicros := microseconds_eq h
  have hquotient : Int.fdiv (microseconds t) 1000000 = t.seconds - epoch := by
    rw [Int.fdiv_eq_ediv_of_nonneg _ (by decide)]
    omega
  have hrest : Int.fmod (microseconds t) 1000000 = (t.nanos / 1000 : Nat) := by
    rw [Int.fmod_eq_emod_of_nonneg _ (by decide)]
    omega
  have hseconds : epoch + (t.seconds - epoch) = t.seconds := by omega
  have hnanos : t.nanos / 1000 * 1000 = t.nanos := by omega
  unfold ofMicroseconds?
  simp only [hquotient, hrest, hseconds, if_pos h.year, Int.toNat_natCast, hnanos]

/-- **The microseconds of a whole timestamp fit into eight bytes.** -/
theorem microseconds_lt (h : t.IsWhole) :
    -(Word.modulus 8 : Int) ≤ 2 * microseconds t ∧ 2 * microseconds t < Word.modulus 8 := by
  have hcounted : t.nanos < 1000000000 := h.counted
  have hyear := h.year
  rw [Int.fdiv_eq_ediv_of_nonneg _ (by decide), isYearInRange, Bool.and_eq_true,
    decide_eq_true_iff, decide_eq_true_iff] at hyear
  have hbounds := Date.year_ofDays_bounds (t.seconds / 86400)
  have hmicros := microseconds_eq h
  have hmodulus : Word.modulus 8 = 18446744073709551616 := by decide
  have hepoch : epoch = 946684800 := rfl
  omega

end Postgres
end EntityQuery

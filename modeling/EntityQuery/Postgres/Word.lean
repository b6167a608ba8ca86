/-
# Big-endian words

Numbers as a fixed count of bytes, the most significant first; negative numbers
in two's complement.  `toNat_ofNat` says that a number that fits is read back
from its bytes.
-/

namespace EntityQuery
namespace Postgres
namespace Word

/-- A number below `256 ^ width` as `width` bytes. -/
def ofNat : Nat → Nat → List UInt8
  | 0, _ => []
  | width + 1, n => ofNat width (n / 256) ++ [UInt8.ofNat (n % 256)]

/-- The number of some bytes. -/
def toNat (bytes : List UInt8) : Nat :=
  bytes.foldl (fun n b => 256 * n + b.toNat) 0

/-- How many numbers have `width` bytes. -/
def modulus (width : Nat) : Nat := Nat.pow 256 width

/-- An integer as `width` bytes. -/
def ofInt (width : Nat) (n : Int) : List UInt8 :=
  ofNat width (n % (modulus width : Nat)).toNat

/-- The integer of some bytes. -/
def toInt (bytes : List UInt8) : Int :=
  let n := toNat bytes
  if 2 * n < modulus bytes.length then n else n - (modulus bytes.length : Nat)

@[simp] theorem length_ofNat (width n : Nat) : (ofNat width n).length = width := by
  induction width generalizing n with
  | zero => rfl
  | succ width ih => simp [ofNat, ih]

/-- **A number that fits is read back from its bytes.** -/
theorem toNat_ofNat {width n : Nat} (h : n < modulus width) : toNat (ofNat width n) = n := by
  induction width generalizing n with
  | zero => simp_all [modulus, ofNat, toNat]
  | succ width ih =>
    have hq : n / 256 < modulus width := by
      simp only [modulus, Nat.pow_eq, Nat.pow_succ] at h ⊢
      omega
    have hb : (UInt8.ofNat (n % 256)).toNat = n % 256 := by
      simp [UInt8.toNat_ofNat']
    simp only [toNat, ofNat, List.foldl_append, List.foldl_cons, List.foldl_nil, hb]
    have := ih hq
    simp only [toNat] at this
    rw [this]
    omega

end Word
end Postgres
end EntityQuery

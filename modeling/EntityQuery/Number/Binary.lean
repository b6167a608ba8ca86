/-
# Binary floating point, exactly

A binary interchange format stores a sign, an exponent and a significand.  Here
a format is two widths, a finite magnitude is a natural number times a power of
two, and rounding is done on exact quotients: `Format.nearest` gives the bits of
the value nearest to `num / den`, a tie going to the even neighbour.
-/

namespace EntityQuery

/-- The widths of a binary interchange format. -/
structure Format where
  significandBits : Nat
  exponentBits : Nat

namespace Format

/-- Eight bytes. -/
def double : Format := ⟨52, 11⟩

/-- Four bytes. -/
def single : Format := ⟨23, 8⟩

/-- The exponent of the least positive value. -/
def leastExponent (f : Format) : Int :=
  2 - (Nat.pow 2 (f.exponentBits - 1) : Nat) - f.significandBits

/-- The magnitude bits of infinity; greater ones are not numbers. -/
def infinity (f : Format) : Nat :=
  (Nat.pow 2 f.exponentBits - 1) * Nat.pow 2 f.significandBits

/-- The bit of the sign. -/
def signBit (f : Format) : Nat :=
  Nat.pow 2 (f.significandBits + f.exponentBits)

/-- The quotient rounded to an integer, a tie going to the even one. -/
def roundQuotient (num den : Nat) : Nat :=
  let q := num / den
  let r := num % den
  if 2 * r < den then q
  else if den < 2 * r then q + 1
  else if q % 2 = 0 then q else q + 1

/-- The exponent `e` with `2 ^ e ≤ num / den < 2 ^ (e + 1)`, for positive numbers. -/
def floorLog2 (num den : Nat) : Int :=
  let e : Int := (Nat.log2 num : Int) - (Nat.log2 den : Int)
  let below := if 0 ≤ e then num < den * Nat.pow 2 e.toNat else num * Nat.pow 2 (-e).toNat < den
  if below then e - 1 else e

/-- The magnitude bits of the value nearest to `num / den`; too great a quotient gives infinity. -/
def nearest (f : Format) (num den : Nat) : Nat :=
  if num = 0 then 0
  else
    let e := max (floorLog2 num den - f.significandBits) f.leastExponent
    let q :=
      if 0 ≤ e then roundQuotient num (den * Nat.pow 2 e.toNat)
      else roundQuotient (num * Nat.pow 2 (-e).toNat) den
    min ((e - f.leastExponent).toNat * Nat.pow 2 f.significandBits + q) f.infinity

/-- The significand and the exponent of finite magnitude bits. -/
def decode (f : Format) (magnitude : Nat) : Nat × Int :=
  let stored := magnitude / Nat.pow 2 f.significandBits
  let fraction := magnitude % Nat.pow 2 f.significandBits
  if stored = 0 then (fraction, f.leastExponent)
  else (fraction + Nat.pow 2 f.significandBits, f.leastExponent + (stored - 1 : Nat))

/-- A finite magnitude as a quotient. -/
def ratio (f : Format) (magnitude : Nat) : Nat × Nat :=
  let (m, e) := f.decode magnitude
  if 0 ≤ e then (m * Nat.pow 2 e.toNat, 1) else (m, Nat.pow 2 (-e).toNat)

end Format
end EntityQuery

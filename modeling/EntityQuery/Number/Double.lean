/-
# Doubles

A double is its sixty-four bits.  Equality is equality of bits, so that a value
that is not a number equals itself and the two zeros differ: a row gives back
what was put into it.  Arithmetic is what reading a decimal and converting
between widths need, each operation rounded once from the exact result.
-/

import EntityQuery.Number.Binary

namespace EntityQuery

/-- A number of the eight-byte binary interchange format. -/
structure Double where
  bits : UInt64
  deriving DecidableEq, Repr, Inhabited

namespace Double

/-- The bits without the sign. -/
def magnitude (x : Double) : Nat :=
  x.bits.toNat % Format.double.signBit

/-- Whether the sign bit is set. -/
def isNegative (x : Double) : Bool :=
  Format.double.signBit ≤ x.bits.toNat

/-- Whether the value is a number other than an infinity. -/
def isFinite (x : Double) : Bool :=
  x.magnitude < Format.double.infinity

/-- The double with a sign and magnitude bits. -/
def ofParts (negative : Bool) (magnitude : Nat) : Double :=
  ⟨UInt64.ofNat (if negative then Format.double.signBit + magnitude else magnitude)⟩

/-- The opposite sign. -/
def neg (x : Double) : Double :=
  ofParts (!x.isNegative) x.magnitude

/-- The double nearest to a quotient. -/
def ofRatio (num den : Nat) : Double :=
  ofParts false (Format.double.nearest num den)

/-- The double nearest to an integer. -/
def ofInt (n : Int) : Double :=
  ofParts (n < 0) (Format.double.nearest n.natAbs 1)

/-- The double nearest to a power of ten. -/
def powerOfTen (k : Nat) : Double :=
  ofRatio (Nat.pow 10 k) 1

/-- The product of two finite doubles without sign, rounded. -/
def mul (x y : Double) : Double :=
  let (a, b) := Format.double.ratio x.magnitude
  let (c, d) := Format.double.ratio y.magnitude
  ofRatio (a * c) (b * d)

/-- The quotient of two finite doubles without sign, rounded; the divisor is not zero. -/
def div (x y : Double) : Double :=
  let (a, b) := Format.double.ratio x.magnitude
  let (c, d) := Format.double.ratio y.magnitude
  ofRatio (a * d) (b * c)

/-- The bits of the nearest four-byte number; what is not a number stays so and becomes quiet. -/
def toSingleBits (x : Double) : UInt32 :=
  let sign := if x.isNegative then Format.single.signBit else 0
  let magnitude :=
    if x.isFinite then
      let (num, den) := Format.double.ratio x.magnitude
      Format.single.nearest num den
    else if x.magnitude = Format.double.infinity then Format.single.infinity
    else Format.single.infinity + Nat.pow 2 22 + x.magnitude / Nat.pow 2 29 % Nat.pow 2 22
  UInt32.ofNat (sign + magnitude)

/-- The double equal to a four-byte number; what is not a number stays so and becomes quiet. -/
def ofSingleBits (bits : UInt32) : Double :=
  let magnitude := bits.toNat % Format.single.signBit
  let negative : Bool := Format.single.signBit ≤ bits.toNat
  if magnitude < Format.single.infinity then
    let (num, den) := Format.single.ratio magnitude
    ofParts negative (Format.double.nearest num den)
  else if magnitude = Format.single.infinity then ofParts negative Format.double.infinity
  else
    ofParts negative
      (Format.double.infinity + Nat.pow 2 51 + magnitude % Nat.pow 2 22 * Nat.pow 2 29)

end Double
end EntityQuery

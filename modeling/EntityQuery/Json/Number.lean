/-
# Reading JSON numbers

An integer that fits a word of eight bytes, signed or not, is read exactly.
Every other number becomes a double in two roundings: the digits that fit an
unsigned word of eight bytes are taken as an integer and rounded, the rest are
counted, and the result is multiplied or divided by the remaining power of ten.
Minus zero is a double, and a number beyond the greatest double is refused.
-/

import EntityQuery.Number.Double
import EntityQuery.Text.Numeral

namespace EntityQuery
namespace Json

/-- The greatest integer that the digits of a number are gathered in. -/
def wordMax : Nat := UInt64.size - 1

/-- Takes digits into a significand while it fits a word; gives it and the number of digits taken. -/
def gather (significand taken : Nat) : List Char → Nat × Nat
  | [] => (significand, taken)
  | c :: rest =>
    let next := 10 * significand + (c.toNat - 0x30)
    if next ≤ wordMax then gather next (taken + 1) rest else (significand, taken)

/-- `x * 10 ^ k` for a double without sign; at most 308 places at a time, `fuel` times. -/
def scale : Nat → Double → Int → Option Double
  | 0, x, _ => some x
  | fuel + 1, x, k =>
    if 0 ≤ k then
      if k ≤ 308 then
        let y := x.mul (Double.powerOfTen k.toNat)
        if y.isFinite then some y else none
      else if x.magnitude = 0 then some x
      else none
    else if -308 ≤ k then some (x.div (Double.powerOfTen (-k).toNat))
    else if x.magnitude = 0 then some x
    else scale fuel (x.div (Double.powerOfTen 308)) (k + 308)

/-- The double of a significand and a power of ten.  Four divisions bring any double to zero. -/
def doubleOf (negative : Bool) (significand : Nat) (k : Int) : Option Double :=
  (scale 5 (Double.ofInt significand) k).map fun x => if negative then x.neg else x

/-- A number in its parts: sign, digits before the point, digits after it, and exponent. -/
structure NumberText where
  negative : Bool
  whole : List Char
  fraction : Option (List Char)
  exponent : Option (Bool × List Char)

/-- An integer or a double. -/
inductive NumberValue where
  | integer (n : Int)
  | double (x : Double)

namespace NumberText

/-- The double a number text stands for. -/
def toDouble? (t : NumberText) : Option Double :=
  let (whole, taken) := gather 0 0 t.whole
  let skipped : Int := t.whole.length - taken
  let (significand, placed) := gather whole 0 (t.fraction.getD [])
  let point : Int := skipped - placed
  match t.exponent with
  | none => doubleOf t.negative significand point
  | some (negative, digits) =>
    let e := (Text.digitsFrom? 0 digits).getD 0
    if 0x80000000 ≤ e then
      if significand = 0 || negative then some (Double.ofParts t.negative 0) else none
    else doubleOf t.negative significand (if negative then point - e else point + e)

/-- The value a number text stands for. -/
def value? (t : NumberText) : Option NumberValue :=
  if t.fraction.isNone && t.exponent.isNone then
    let n := (Text.digitsFrom? 0 t.whole).getD 0
    if t.negative then
      if 0 < n ∧ n ≤ 0x8000000000000000 then some (.integer (-(n : Int)))
      else (t.toDouble?).map .double
    else if n ≤ wordMax then some (.integer n)
    else (t.toDouble?).map .double
  else (t.toDouble?).map .double

end NumberText

/-- The longest number in front of a text, and what follows it.  No leading zeros are allowed. -/
def numberText? (cs : List Char) : Option (NumberText × List Char) :=
  let (negative, cs) := match cs with
    | '-' :: rest => (true, rest)
    | _ => (false, cs)
  let whole := cs.takeWhile Char.isDigit
  let rest := cs.dropWhile Char.isDigit
  if whole.isEmpty || (whole.length > 1 && whole.head? == some '0') then none
  else
    let fractionPart : Option (Option (List Char) × List Char) := match rest with
      | '.' :: after =>
        let digits := after.takeWhile Char.isDigit
        if digits.isEmpty then none else some (some digits, after.dropWhile Char.isDigit)
      | _ => some (none, rest)
    match fractionPart with
    | none => none
    | some (fraction, rest) =>
      match rest with
      | c :: after =>
        if c = 'e' ∨ c = 'E' then
          let (negativeExponent, after) := match after with
            | '+' :: more => (false, more)
            | '-' :: more => (true, more)
            | _ => (false, after)
          let digits := after.takeWhile Char.isDigit
          if digits.isEmpty then none
          else
            some (⟨negative, whole, fraction, some (negativeExponent, digits)⟩,
              after.dropWhile Char.isDigit)
        else some (⟨negative, whole, fraction, none⟩, rest)
      | [] => some (⟨negative, whole, fraction, none⟩, [])

end Json
end EntityQuery

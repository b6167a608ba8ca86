/-
# Shortest decimals

The shortest decimal of a positive double is the one with the fewest digits
among those that read back as the double, and of these the nearest to it.
`Shortest.digits` finds it by trying one digit, two digits and so on up to
seventeen: on each decimal grid only the two neighbours of the value can be
nearest, and both are tested in exact arithmetic against the interval of
numbers that round to the double.

`Double.text` writes it: in fixed notation from 0.00001 up to below 1e16, with
exponent outside of that.
-/

import EntityQuery.Number.Double
import EntityQuery.Text.Numeral

namespace EntityQuery
namespace Shortest

/-- The numbers that round to a double: quarter units of its last place over a common denominator. -/
structure Interval where
  low : Nat
  value : Nat
  high : Nat
  den : Nat
  closed : Bool

/-- The interval of positive finite magnitude bits.  Below a power of two the gap is half as wide. -/
def interval (magnitude : Nat) : Interval :=
  let (m, e) := Format.double.decode magnitude
  let lowGap := if m = Nat.pow 2 52 ∧ Format.double.leastExponent < e then 1 else 2
  let shift := e - 2
  let num := if 0 ≤ shift then Nat.pow 2 shift.toNat else 1
  let den := if 0 ≤ shift then 1 else Nat.pow 2 (-shift).toNat
  ⟨(4 * m - lowGap) * num, 4 * m * num, (4 * m + 2) * num, den, m % 2 = 0⟩

/-- Whether `n * 10 ^ k` lies in the interval. -/
def Interval.holds (i : Interval) (n : Nat) (k : Int) : Bool :=
  let point := if 0 ≤ k then n * Nat.pow 10 k.toNat * i.den else n * i.den
  let scale := if 0 ≤ k then 1 else Nat.pow 10 (-k).toNat
  if i.closed then i.low * scale ≤ point && point ≤ i.high * scale
  else i.low * scale < point && point < i.high * scale

/-- The exponent `p` with `10 ^ p ≤ num / den < 10 ^ (p + 1)`, for positive numbers. -/
def floorLog10 (num den : Nat) : Int :=
  if den ≤ num then ((Text.decimal (num / den)).length : Int) - 1
  else
    let l := (Text.decimal (den / num)).length
    if den ≤ num * Nat.pow 10 (l - 1) then -((l : Int) - 1) else -(l : Int)

/-- The neighbour of the value on the grid of multiples of `10 ^ k` that reads back, if one does. -/
def candidate? (i : Interval) (k : Int) : Option Nat :=
  let num := if 0 ≤ k then i.value else i.value * Nat.pow 10 (-k).toNat
  let den := if 0 ≤ k then i.den * Nat.pow 10 k.toNat else i.den
  let down := num / den
  let rest := num % den
  match i.holds down k, i.holds (down + 1) k with
  | true, false => some down
  | false, true => some (down + 1)
  | false, false => none
  | true, true =>
    if 2 * rest < den then some down
    else if den < 2 * rest then some (down + 1)
    else if down % 2 = 0 then some down else some (down + 1)

/-- Tries grids from coarse to fine, `fuel` of them, the first with exponent `k`. -/
def search (i : Interval) : Nat → Int → Nat × Int
  | 0, k => (0, k)
  | fuel + 1, k =>
    match candidate? i k with
    | some n => (n, k)
    | none => search i fuel (k - 1)

/-- The shortest decimal of positive finite magnitude bits, as `n * 10 ^ k`. -/
def digits (magnitude : Nat) : Nat × Int :=
  let i := interval magnitude
  search i 18 (floorLog10 i.value i.den)

end Shortest

/-- How a decimal is written: where fixed notation begins and ends, by the exponent of the first digit. -/
structure DecimalLayout where
  leastFixed : Int
  greatestFixed : Int

namespace DecimalLayout

/-- Fixed notation from 0.00001 to below 1e16. -/
def json : DecimalLayout := ⟨-5, 15⟩

/-- Writes `0.d₁d₂… * 10 ^ point`, with at least one digit on each side of a fixed point. -/
def write (layout : DecimalLayout) (ds : List Char) (point : Int) : List Char :=
  let first := point - 1
  if layout.leastFixed ≤ first ∧ first ≤ layout.greatestFixed then
    if point ≤ 0 then '0' :: '.' :: (List.replicate (-point).toNat '0' ++ ds)
    else if (ds.length : Int) ≤ point then
      ds ++ List.replicate (point.toNat - ds.length) '0' ++ ['.', '0']
    else ds.take point.toNat ++ '.' :: ds.drop point.toNat
  else
    let mantissa := match ds with
      | [] => []
      | [d] => [d]
      | d :: rest => d :: '.' :: rest
    let sign := if first < 0 then '-' else '+'
    mantissa ++ 'e' :: sign :: Text.decimal first.natAbs

end DecimalLayout

/-- The shortest decimal text of a finite double; zero is `0.0`. -/
def Double.text (x : Double) : String :=
  let body :=
    if x.magnitude = 0 then ['0', '.', '0']
    else
      let (n, k) := Shortest.digits x.magnitude
      let all := Text.decimal n
      let ds := (all.reverse.dropWhile (· == '0')).reverse
      DecimalLayout.json.write ds ((all.length : Int) + k)
  String.ofList (if x.isNegative then '-' :: body else body)

end EntityQuery

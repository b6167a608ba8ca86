/-
# TOML scalars without quotes

Integers, floats, truth values and times are told apart by their whole text.
Digits may be grouped by single underscores, each between two digits.  A decimal
float must not be too great for a double.  A time is a date, a time of day or
both, and with both it may have an offset.
-/

import EntityQuery.Calendar.Date
import EntityQuery.Number.Binary
import EntityQuery.Text.Hex
import EntityQuery.Text.Lists
import EntityQuery.Text.Numeral
import EntityQuery.Toml.Basic

namespace EntityQuery
namespace Toml

/-- The digits of a numeral, its underscores dropped, if all stand between digits. -/
def ungroup? (isDigit : Char → Bool) (cs : List Char) : Option (List Char) :=
  let groups := Text.splitOn '_' cs
  if groups.all fun g => !g.isEmpty && g.all isDigit then some groups.flatten else none

/-- The digits of a decimal numeral, which has no zero in front unless it is one digit. -/
def decimalDigits? (cs : List Char) : Option (List Char) := do
  let digits ← ungroup? Char.isDigit cs
  if digits.head? = some '0' ∧ digits ≠ ['0'] then none else return digits

/-- The value of digits in a base. -/
def inBase (base : Nat) (digits : List Char) : Nat :=
  digits.foldl (fun n c => base * n + (Text.Hex.value? c).getD 0) 0

/-- A numeral with a sign in front or not: whether it is negative, and the text after the sign. -/
def signed (cs : List Char) : Bool × List Char :=
  match cs with
  | '-' :: rest => (true, rest)
  | '+' :: rest => (false, rest)
  | _ => (false, cs)

/-- An integer numeral: decimal with a sign or not, or in base 16, 8 or 2. -/
def integer? (cs : List Char) : Option Int :=
  match cs with
  | '0' :: 'x' :: rest =>
    (ungroup? (fun c => (Text.Hex.value? c).isSome) rest).map fun ds => (inBase 16 ds : Int)
  | '0' :: 'o' :: rest =>
    (ungroup? (fun c => '0' ≤ c && c ≤ '7') rest).map fun ds => (inBase 8 ds : Int)
  | '0' :: 'b' :: rest =>
    (ungroup? (fun c => c == '0' || c == '1') rest).map fun ds => (inBase 2 ds : Int)
  | _ =>
    let (negative, rest) := signed cs
    (decimalDigits? rest).map fun ds =>
      let n : Int := inBase 10 ds
      if negative then -n else n

/-- Whether an integer has a place in a document: a signed or unsigned word of sixteen bytes. -/
def isIntegerInRange (n : Int) : Bool :=
  -(Nat.pow 2 127 : Int) ≤ n && n < Nat.pow 2 128

/-- An exponent after its letter. -/
def exponent? (cs : List Char) : Option Int := do
  let (negative, rest) := signed cs
  let digits ← ungroup? Char.isDigit rest
  let n : Int := inBase 10 digits
  return if negative then -n else n

/-- The digits of a fraction after its point, and its exponent, zero if there is none. -/
def fraction? (cs : List Char) : Option (List Char × Int) := do
  let grouped := cs.takeWhile fun c => c != 'e' && c != 'E'
  let digits ← ungroup? Char.isDigit grouped
  match cs.drop grouped.length with
  | [] => return (digits, 0)
  | _ :: rest => return (digits, ← exponent? rest)

/-- A decimal float without its sign: its digits, and the power of ten that they count. -/
def decimal? (cs : List Char) : Option (List Char × Int) := do
  let grouped := cs.takeWhile fun c => c.isDigit || c == '_'
  let whole ← decimalDigits? grouped
  match cs.drop grouped.length with
  | '.' :: rest => do
    let (digits, power) ← fraction? rest
    return (whole ++ digits, power - digits.length)
  | 'e' :: rest => return (whole, ← exponent? rest)
  | 'E' :: rest => return (whole, ← exponent? rest)
  | _ => none

/-- Whether digits times a power of ten are too great for a double.  The greatest double lies
between `10 ^ 308` and `10 ^ 309`, so only numbers of that order need to be computed. -/
def isBeyondDoubles (digits : List Char) (power : Int) : Bool :=
  let digits := digits.dropWhile (· == '0')
  let order := digits.length + power
  if digits.isEmpty || order < 309 then false
  else if 309 < order then true
  else
    Format.double.nearest (inBase 10 digits * Nat.pow 10 power.toNat) (Nat.pow 10 (-power).toNat) ==
      Format.double.infinity

/-- Whether a text is an infinity or what is not a number. -/
def isSpecialFloat (cs : List Char) : Bool :=
  let rest := (signed cs).2
  rest == "inf".toList || rest == "nan".toList

/-- Digits of a fixed count in front, as a number, and what follows. -/
def countedDigits? (count : Nat) (cs : List Char) : Option (Nat × List Char) :=
  let ds := cs.take count
  if ds.length = count then (Text.digitsFrom? 0 ds).map fun n => (n, cs.drop count) else none

/-- A given character in front, and what follows. -/
def after? (c : Char) : List Char → Option (List Char)
  | d :: rest => if d = c then some rest else none
  | [] => none

/-- A date in front; gives what follows. -/
def date? (cs : List Char) : Option (List Char) := do
  let (year, cs) ← countedDigits? 4 cs
  let cs ← after? '-' cs
  let (month, cs) ← countedDigits? 2 cs
  let cs ← after? '-' cs
  let (day, cs) ← countedDigits? 2 cs
  if (⟨year, month, day⟩ : Date).isValid then return cs else none

/-- Seconds after the minutes, with a fraction or without; gives what follows. -/
def seconds? (cs : List Char) : Option (List Char) := do
  let (second, cs) ← countedDigits? 2 cs
  if 60 < second then none
  else match cs with
    | '.' :: rest =>
      let digits := rest.takeWhile Char.isDigit
      if digits.isEmpty then none else return rest.drop digits.length
    | _ => return cs

/-- A time of day in front, of which the seconds may be missing; gives what follows. -/
def clock? (cs : List Char) : Option (List Char) := do
  let (hour, cs) ← countedDigits? 2 cs
  let cs ← after? ':' cs
  let (minute, cs) ← countedDigits? 2 cs
  if 23 < hour ∨ 59 < minute then none
  else match cs with
    | ':' :: rest => seconds? rest
    | _ => return cs

/-- Whether a text is the offset of a time, or nothing. -/
def isOffset : List Char → Bool
  | [] => true
  | ['Z'] => true
  | ['z'] => true
  | sign :: h₁ :: h₂ :: ':' :: [m₁, m₂] =>
    (sign == '+' || sign == '-') &&
      match Text.digits? [h₁, h₂], Text.digits? [m₁, m₂] with
      | some hours, some minutes => hours ≤ 23 && minutes ≤ 59
      | _, _ => false
  | _ => false

/-- Whether a text is a date, a time of day, or both. -/
def isDateTime (cs : List Char) : Bool :=
  match date? cs with
  | some [] => true
  | some (c :: rest) =>
    (c == 'T' || c == 't' || c == ' ') && (clock? rest).any isOffset
  | none => clock? cs == some []

/-- The value of a text that is neither a truth value nor an integer. -/
def floatOrTime? (cs : List Char) : Option Toml :=
  if isSpecialFloat cs then some (.float (String.ofList cs))
  else
    match decimal? (signed cs).2 with
    | some (digits, power) =>
      if isBeyondDoubles digits power then none else some (.float (String.ofList cs))
    | none => if isDateTime cs then some (.dateTime (String.ofList cs)) else none

/-- The value of a text without quotes. -/
def scalar? (cs : List Char) : Option Toml :=
  if cs = "true".toList then some (.boolean true)
  else if cs = "false".toList then some (.boolean false)
  else match integer? cs with
    | some n => if isIntegerInRange n then some (.integer n) else none
    | none => floatOrTime? cs

end Toml
end EntityQuery

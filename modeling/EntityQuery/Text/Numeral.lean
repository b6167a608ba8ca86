/-
# Decimal numerals

Reading of integers written with ASCII digits.  An unsigned numeral may have a
plus sign and a signed one either sign; there are no separators and no blanks.
-/

namespace EntityQuery
namespace Text

/-- The value of an ASCII digit. -/
def digit? (c : Char) : Option Nat :=
  if c.isDigit then some (c.toNat - 0x30) else none

/-- The value of a sequence of digits, continuing from `acc`. -/
def digitsFrom? (acc : Nat) : List Char → Option Nat
  | [] => some acc
  | c :: rest => do
    let d ← digit? c
    digitsFrom? (10 * acc + d) rest

/-- The value of at least one digit. -/
def digits? (cs : List Char) : Option Nat :=
  if cs.isEmpty then none else digitsFrom? 0 cs

/-- The value of digits after an optional plus sign. -/
def unsigned? : List Char → Option Nat
  | '+' :: rest => digits? rest
  | cs => digits? cs

/-- The value of digits after an optional sign. -/
def signed? : List Char → Option Int
  | '+' :: rest => (digits? rest).map Int.ofNat
  | '-' :: rest => (digits? rest).map fun n => -(n : Int)
  | cs => (digits? cs).map Int.ofNat

/-- The decimal digits of a number. -/
def decimal (n : Nat) : List Char :=
  Nat.toDigits 10 n

/-- The decimal digits of a number with a minus sign if it is negative. -/
def signedDecimal (n : Int) : String :=
  if n < 0 then "-" ++ String.ofList (decimal n.natAbs) else String.ofList (decimal n.natAbs)

/-- The digits of a number, filled with zeros to `width`. -/
def padded (width n : Nat) : List Char :=
  List.replicate (width - (decimal n).length) '0' ++ decimal n

end Text
end EntityQuery

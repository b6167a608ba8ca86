/-
# Hexadecimal

Bytes and words as hexadecimal digits, high half first.  `decode?` reads back
what `encode` writes, in either letter case.
-/

namespace EntityQuery
namespace Text
namespace Hex

/-- The lower-case digit of a value below sixteen. -/
def digit (n : Nat) : Char :=
  if n < 10 then Char.ofNat (0x30 + n) else Char.ofNat (0x57 + n)

/-- The value of a digit in either case. -/
def value? (c : Char) : Option Nat :=
  let n := c.toNat
  if 0x30 ≤ n ∧ n ≤ 0x39 then some (n - 0x30)
  else if 0x61 ≤ n ∧ n ≤ 0x66 then some (n - 0x57)
  else if 0x41 ≤ n ∧ n ≤ 0x46 then some (n - 0x37)
  else none

/-- The two digits of a byte. -/
def byte (b : UInt8) : List Char :=
  [digit (b.toNat / 16), digit (b.toNat % 16)]

/-- The digits of a sequence of bytes. -/
def encode (bytes : List UInt8) : List Char :=
  bytes.flatMap byte

/-- Reads pairs of digits as bytes. -/
def decode? : List Char → Option (List UInt8)
  | [] => some []
  | high :: low :: rest => do
    let h ← value? high
    let l ← value? low
    let bytes ← decode? rest
    return UInt8.ofNat (16 * h + l) :: bytes
  | [_] => none

/-- The value of a text of digits, the first being the most significant. -/
def natFrom? (acc : Nat) : List Char → Option Nat
  | [] => some acc
  | c :: rest => do
    let v ← value? c
    natFrom? (16 * acc + v) rest

/-- A number below `16 ^ width` as exactly `width` digits. -/
def fixed (width n : Nat) : List Char :=
  match width with
  | 0 => []
  | width + 1 => fixed width (n / 16) ++ [digit (n % 16)]

end Hex
end Text
end EntityQuery

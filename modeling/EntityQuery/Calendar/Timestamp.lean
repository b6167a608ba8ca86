/-
# Timestamps

A point of universal time: whole seconds from 1970-01-01T00:00:00Z and
nanoseconds within the second.  Nanoseconds from one thousand million on mark
the leap second that follows the counted one, so that a leap second keeps its
fraction and is written with second 60.
-/

import EntityQuery.Calendar.Date
import EntityQuery.Text.Numeral

namespace EntityQuery

/-- A point of universal time. -/
structure Timestamp where
  seconds : Int
  nanos : Nat
  deriving DecidableEq, Repr, Inhabited

namespace Timestamp

/-- The nanoseconds of one second. -/
def nanosPerSecond : Nat := 1000000000

/-- Nanoseconds from 1970-01-01T00:00:00Z, a leap second counting as the next one. -/
def totalNanos (t : Timestamp) : Int :=
  t.seconds * nanosPerSecond + t.nanos

/-- A fraction of a second with 0, 3, 6 or 9 digits, the fewest that lose nothing. -/
def fractionText (nanos : Nat) : List Char :=
  if nanos = 0 then []
  else if nanos % 1000000 = 0 then '.' :: Text.padded 3 (nanos / 1000000)
  else if nanos % 1000 = 0 then '.' :: Text.padded 6 (nanos / 1000)
  else '.' :: Text.padded 9 nanos

/-- A year as four digits, or with a sign and at least four digits outside of 0 to 9999. -/
def yearText (year : Int) : List Char :=
  if 0 ≤ year ∧ year ≤ 9999 then Text.padded 4 year.natAbs
  else (if year < 0 then '-' else '+') :: Text.padded 4 year.natAbs

/-- The timestamp in RFC 3339 form, in universal time. -/
def text (t : Timestamp) : String :=
  let date := Date.ofDays (Int.fdiv t.seconds 86400)
  let second := (Int.fmod t.seconds 86400).toNat
  let leap := nanosPerSecond ≤ t.nanos
  String.ofList <|
    yearText date.year ++ '-' :: Text.padded 2 date.month ++ '-' :: Text.padded 2 date.day ++
    'T' :: Text.padded 2 (second / 3600) ++ ':' :: Text.padded 2 (second / 60 % 60) ++
    ':' :: Text.padded 2 (second % 60 + if leap then 1 else 0) ++
    fractionText (if leap then t.nanos - nanosPerSecond else t.nanos) ++ ['Z']

/-- Digits of a fixed count in front, as a number, and what follows. -/
def fixedDigits? (count : Nat) (cs : List Char) : Option (Nat × List Char) :=
  let ds := cs.take count
  if ds.length = count then (Text.digitsFrom? 0 ds).map fun n => (n, cs.drop count) else none

/-- A given character in front, and what follows. -/
def expect? (c : Char) : List Char → Option (List Char)
  | d :: rest => if d = c then some rest else none
  | [] => none

/-- The nanoseconds of a fraction after its point: at least one digit, those after the ninth dropped. -/
def fraction? (cs : List Char) : Option (Nat × List Char) :=
  let ds := cs.takeWhile Char.isDigit
  let kept := ds.take 9
  if ds.isEmpty then none
  else
    (Text.digitsFrom? 0 kept).map fun n => (n * Nat.pow 10 (9 - kept.length), cs.dropWhile Char.isDigit)

/-- The offset from universal time in seconds, and what follows. -/
def offset? : List Char → Option (Int × List Char)
  | [] => none
  | c :: rest =>
    if c = 'Z' ∨ c = 'z' then some (0, rest)
    else if c = '+' ∨ c = '-' ∨ c = '\u2212' then do
      let (hours, rest) ← fixedDigits? 2 rest
      let rest ← expect? ':' rest
      let (minutes, rest) ← fixedDigits? 2 rest
      if 59 < minutes ∨ 23 < hours then none
      else
        let seconds : Int := hours * 3600 + minutes * 60
        return (if c = '+' then seconds else -seconds, rest)
    else none

/-- Reads an RFC 3339 timestamp; a blank may stand for the `T`. -/
def parse? (s : String) : Option Timestamp := do
  let (year, cs) ← fixedDigits? 4 s.toList
  let cs ← expect? '-' cs
  let (month, cs) ← fixedDigits? 2 cs
  let cs ← expect? '-' cs
  let (day, cs) ← fixedDigits? 2 cs
  let cs ← match cs with
    | c :: rest => if c = 'T' ∨ c = 't' ∨ c = ' ' then some rest else none
    | [] => none
  let (hour, cs) ← fixedDigits? 2 cs
  let cs ← expect? ':' cs
  let (minute, cs) ← fixedDigits? 2 cs
  let cs ← expect? ':' cs
  let (second, cs) ← fixedDigits? 2 cs
  let (nanos, cs) ← match cs with
    | '.' :: rest => fraction? rest
    | _ => some (0, cs)
  let (offset, cs) ← offset? cs
  let date : Date := ⟨year, month, day⟩
  if cs.isEmpty ∧ date.isValid ∧ hour ≤ 23 ∧ minute ≤ 59 ∧ second ≤ 60 then
    let counted := min second 59
    let seconds := date.toDays * 86400 + hour * 3600 + minute * 60 + counted - offset
    return ⟨seconds, if second = 60 then nanos + nanosPerSecond else nanos⟩
  else none

end Timestamp
end EntityQuery

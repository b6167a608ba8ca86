/-
# Reading JSON

A reader for the JSON grammar without extensions.  Each function takes the
characters that are left and gives a value and the characters after it.  Nesting
is limited to `maxDepth` arrays and objects; `fuel` bounds the number of steps
and is computed from the length of the text, each step taking a character or
ending a value.
-/

import EntityQuery.Json.Basic
import EntityQuery.Json.Number
import EntityQuery.Text.Hex

namespace EntityQuery
namespace Json

/-- How many arrays and objects may contain one another. -/
def maxDepth : Nat := 127

/-- The four blanks of the grammar. -/
def isSpace (c : Char) : Bool :=
  c == ' ' || c == '\n' || c == '\t' || c == '\x0d'

/-- Drops blanks in front. -/
def skipSpace (cs : List Char) : List Char :=
  cs.dropWhile isSpace

/-- The value of four hexadecimal digits in front, and what follows. -/
def unit? : List Char → Option (Nat × List Char)
  | a :: b :: c :: d :: rest => (Text.Hex.natFrom? 0 [a, b, c, d]).map fun n => (n, rest)
  | _ => none

/-- The character of an escape after its backslash, and what follows. -/
def escaped? : List Char → Option (Char × List Char)
  | '\x22' :: rest => some ('\x22', rest)
  | '\\' :: rest => some ('\\', rest)
  | '/' :: rest => some ('/', rest)
  | 'b' :: rest => some ('\x08', rest)
  | 'f' :: rest => some ('\x0c', rest)
  | 'n' :: rest => some ('\n', rest)
  | 'r' :: rest => some ('\x0d', rest)
  | 't' :: rest => some ('\t', rest)
  | 'u' :: rest => do
    let (high, rest) ← unit? rest
    if high < 0xD800 ∨ 0xE000 ≤ high then return (Char.ofNat high, rest)
    else if 0xDC00 ≤ high then none
    else match rest with
      | '\\' :: 'u' :: rest => do
        let (low, rest) ← unit? rest
        if 0xDC00 ≤ low ∧ low < 0xE000 then
          return (Char.ofNat (0x10000 + (high - 0xD800) * 0x400 + (low - 0xDC00)), rest)
        else none
      | _ => none
  | _ => none

/-- The rest of a string literal up to its closing quote; `acc` holds its characters, last first. -/
def stringFrom? : Nat → List Char → List Char → Option (String × List Char)
  | 0, _, _ => none
  | _ + 1, _, [] => none
  | fuel + 1, acc, c :: rest =>
    if c = '\x22' then some (String.ofList acc.reverse, rest)
    else if c = '\\' then
      match escaped? rest with
      | some (e, rest) => stringFrom? fuel (e :: acc) rest
      | none => none
    else if c.toNat < 0x20 then none
    else stringFrom? fuel (c :: acc) rest

/-- A word of the grammar in front, and what follows. -/
def word? (word : List Char) (value : Json) (cs : List Char) : Option (Json × List Char) :=
  if word.isPrefixOf cs then some (value, cs.drop word.length) else none

/-- A number in front, and what follows. -/
def number? (cs : List Char) : Option (Json × List Char) := do
  let (text, rest) ← numberText? cs
  let value ← text.value?
  match value with
  | .integer n => return (.integer n, rest)
  | .double x => return (.double x, rest)

mutual

/-- A value in front, after blanks, and what follows. -/
def value? : Nat → Nat → List Char → Option (Json × List Char)
  | 0, _, _ => none
  | fuel + 1, depth, cs =>
    match skipSpace cs with
    | [] => none
    | c :: rest =>
      if c = 'n' then word? "null".toList .null (c :: rest)
      else if c = 't' then word? "true".toList (.bool true) (c :: rest)
      else if c = 'f' then word? "false".toList (.bool false) (c :: rest)
      else if c = '\x22' then
        (stringFrom? (rest.length + 1) [] rest).map fun (s, rest) => (.string s, rest)
      else if c = '[' then
        match depth with
        | 0 => none
        | depth + 1 =>
          match skipSpace rest with
          | ']' :: rest => some (.array [], rest)
          | rest => (items? fuel depth rest).map fun (items, rest) => (.array items, rest)
      else if c = '\x7b' then
        match depth with
        | 0 => none
        | depth + 1 =>
          match skipSpace rest with
          | '\x7d' :: rest => some (.object [], rest)
          | rest => (members? fuel depth rest).map fun (members, rest) => (.ofMembers members, rest)
      else number? (c :: rest)

/-- The items of an array up to its closing bracket. -/
def items? : Nat → Nat → List Char → Option (List Json × List Char)
  | 0, _, _ => none
  | fuel + 1, depth, cs =>
    match value? fuel depth cs with
    | none => none
    | some (item, rest) =>
      match skipSpace rest with
      | ',' :: rest => (items? fuel depth rest).map fun (items, rest) => (item :: items, rest)
      | ']' :: rest => some ([item], rest)
      | _ => none

/-- The members of an object up to its closing brace. -/
def members? : Nat → Nat → List Char → Option (List (String × Json) × List Char)
  | 0, _, _ => none
  | fuel + 1, depth, cs =>
    match skipSpace cs with
    | '\x22' :: rest =>
      match stringFrom? (rest.length + 1) [] rest with
      | none => none
      | some (key, rest) =>
        match skipSpace rest with
        | ':' :: rest =>
          match value? fuel depth rest with
          | none => none
          | some (value, rest) =>
            match skipSpace rest with
            | ',' :: rest =>
              (members? fuel depth rest).map fun (members, rest) => ((key, value) :: members, rest)
            | '\x7d' :: rest => some ([(key, value)], rest)
            | _ => none
        | _ => none
    | _ => none

end

/-- The value of a whole text, blanks around it allowed. -/
def parse? (s : String) : Option Json :=
  let cs := s.toList
  match value? (2 * cs.length + 2) maxDepth cs with
  | some (value, rest) => if (skipSpace rest).isEmpty then some value else none
  | none => none

end Json
end EntityQuery

/-
# TOML strings

A string is basic, with escapes, or literal, without; and either is written on
one line or, between three quotes, on several.  A string of several lines may
begin with a newline, which is dropped, and may end in one or two quotes of its
own.  In a basic one a backslash at the end of a line drops the line break and
all blanks and breaks after it.
-/

import EntityQuery.Text.Hex

namespace EntityQuery
namespace Toml

/-- Whether a character may stand in a string or comment: no control character but the tab. -/
def isTextChar (c : Char) : Bool :=
  c == '\t' || (0x20 ≤ c.toNat && c.toNat != 0x7F)

/-- The character of a code of `count` hexadecimal digits in front, and what follows. -/
def codePoint? (count : Nat) (cs : List Char) : Option (Char × List Char) :=
  let ds := cs.take count
  if ds.length = count then
    match Text.Hex.natFrom? 0 ds with
    | some n => if n.isValidChar then some (Char.ofNat n, cs.drop count) else none
    | none => none
  else none

/-- The character of an escape after its backslash, and what follows. -/
def escape? : List Char → Option (Char × List Char)
  | 'b' :: rest => some ('\x08', rest)
  | 't' :: rest => some ('\t', rest)
  | 'n' :: rest => some ('\n', rest)
  | 'f' :: rest => some ('\x0c', rest)
  | 'r' :: rest => some ('\x0d', rest)
  | 'e' :: rest => some ('\x1b', rest)
  | '\x22' :: rest => some ('\x22', rest)
  | '\\' :: rest => some ('\\', rest)
  | 'x' :: rest => codePoint? 2 rest
  | 'u' :: rest => codePoint? 4 rest
  | 'U' :: rest => codePoint? 8 rest
  | _ => none

/-- Drops blanks and line breaks in front. -/
def skipBreaks : List Char → List Char
  | ' ' :: rest => skipBreaks rest
  | '\t' :: rest => skipBreaks rest
  | '\n' :: rest => skipBreaks rest
  | '\x0d' :: '\n' :: rest => skipBreaks rest
  | cs => cs

/-- Drops a line break in front. -/
def skipBreak : List Char → List Char
  | '\n' :: rest => rest
  | '\x0d' :: '\n' :: rest => rest
  | cs => cs

/-- What follows a backslash that ends its line: blanks and breaks are dropped. -/
def continued? (cs : List Char) : Option (List Char) :=
  match cs.dropWhile fun c => c == ' ' || c == '\t' with
  | '\n' :: rest => some (skipBreaks rest)
  | '\x0d' :: '\n' :: rest => some (skipBreaks rest)
  | _ => none

/-- The rest of a string on one line up to its quote; `acc` holds its characters, last first. -/
def lineFrom? (quote : Char) : Nat → List Char → List Char → Option (String × List Char)
  | 0, _, _ => none
  | _ + 1, _, [] => none
  | fuel + 1, acc, c :: rest =>
    if c = quote then some (String.ofList acc.reverse, rest)
    else if c = '\\' ∧ quote = '\x22' then
      match escape? rest with
      | some (e, rest) => lineFrom? quote fuel (e :: acc) rest
      | none => none
    else if isTextChar c then lineFrom? quote fuel (c :: acc) rest
    else none

/-- The rest of a string of several lines up to its three quotes. -/
def linesFrom? (quote : Char) : Nat → List Char → List Char → Option (String × List Char)
  | 0, _, _ => none
  | _ + 1, _, [] => none
  | fuel + 1, acc, c :: rest =>
    if c = quote then
      let run := (c :: rest).takeWhile (· == quote)
      if run.length < 3 then linesFrom? quote fuel (c :: acc) rest
      else if 5 < run.length then none
      else
        some (String.ofList (acc.reverse ++ run.drop 3), (c :: rest).drop run.length)
    else if c = '\\' ∧ quote = '\x22' then
      match continued? rest with
      | some rest => linesFrom? quote fuel acc rest
      | none =>
        match escape? rest with
        | some (e, rest) => linesFrom? quote fuel (e :: acc) rest
        | none => none
    else if c = '\x0d' then
      match rest with
      | '\n' :: rest => linesFrom? quote fuel ('\n' :: '\x0d' :: acc) rest
      | _ => none
    else if c = '\n' ∨ isTextChar c then linesFrom? quote fuel (c :: acc) rest
    else none

/-- A string on one line after its first quote, and what follows. -/
def lineString? (quote : Char) (cs : List Char) : Option (String × List Char) :=
  lineFrom? quote (cs.length + 1) [] cs

/-- A string of either form in front, and what follows. -/
def string? : List Char → Option (String × List Char)
  | q :: cs =>
    if q = '\x22' ∨ q = '\x27' then
      match cs with
      | a :: b :: rest =>
        if a = q ∧ b = q then linesFrom? q (rest.length + 1) [] (skipBreak rest)
        else lineString? q cs
      | _ => lineString? q cs
    else none
  | [] => none

end Toml
end EntityQuery

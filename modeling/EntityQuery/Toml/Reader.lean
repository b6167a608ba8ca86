/-
# Reading TOML

A document is read line by line: a header opens a table, and a key with a value
is stored in the table opened last.  Arrays and inline tables may contain one
another up to `maxDepth` deep, and a key may have as many parts.  The other loops
carry a bound on their steps that is computed from the length of the text, a
step taking at least one character.
-/

import EntityQuery.Toml.Quoted
import EntityQuery.Toml.Scalar

namespace EntityQuery
namespace Toml

/-- How many arrays and inline tables may contain one another, and how many parts a key may have. -/
def maxDepth : Nat := 80

/-- Drops the blanks of a line in front. -/
def skipBlanks (cs : List Char) : List Char :=
  cs.dropWhile fun c => c == ' ' || c == '\t'

/-- Drops blanks, line breaks and comments in front; `inComment` says whether one is open. -/
def skipLines? : Bool → List Char → Option (List Char)
  | _, [] => some []
  | _, '\n' :: rest => skipLines? false rest
  | _, '\x0d' :: '\n' :: rest => skipLines? false rest
  | true, c :: rest => if isTextChar c then skipLines? true rest else none
  | false, c :: rest =>
    if c = ' ' ∨ c = '\t' then skipLines? false rest
    else if c = '#' then skipLines? true rest
    else some (c :: rest)

/-- The end of a line in front, after blanks and a comment; gives the lines that follow. -/
def lineEnd? (cs : List Char) : Option (List Char) :=
  let cs := skipBlanks cs
  let cs := match cs with
    | '#' :: rest => rest.dropWhile isTextChar
    | _ => cs
  match cs with
  | [] => some []
  | '\n' :: rest => some rest
  | '\x0d' :: '\n' :: rest => some rest
  | _ => none

/-- Whether a character may stand in a key without quotes. -/
def isBare (c : Char) : Bool :=
  c.isAlphanum || c == '-' || c == '_'

/-- One part of a key in front, and what follows. -/
def keyPart? : List Char → Option (String × List Char)
  | [] => none
  | c :: rest =>
    if c = '\x22' ∨ c = '\x27' then lineString? c rest
    else
      let word := (c :: rest).takeWhile isBare
      if word.isEmpty then none else some (String.ofList word, (c :: rest).drop word.length)

/-- A key in front with at most so many dotted parts, blanks allowed around each, and what
follows. -/
def keyUpTo? : Nat → List Char → Option (List String × List Char)
  | 0, _ => none
  | fuel + 1, cs => do
    let (part, rest) ← keyPart? (skipBlanks cs)
    match skipBlanks rest with
    | '.' :: rest => do
      let (parts, rest) ← keyUpTo? fuel rest
      return (part :: parts, rest)
    | rest => return ([part], rest)

/-- A key in front, and what follows. -/
def key? (cs : List Char) : Option (List String × List Char) :=
  keyUpTo? maxDepth cs

/-- Whether a character may stand in a scalar without quotes. -/
def isScalarChar (c : Char) : Bool :=
  c.isAlphanum || c == '+' || c == '-' || c == '_' || c == '.' || c == ':'

/-- The text of a scalar in front, and what follows; one blank may stand between a date and a
time of day. -/
def scalarText (cs : List Char) : List Char × List Char :=
  let word := cs.takeWhile isScalarChar
  let rest := cs.drop word.length
  match rest with
  | ' ' :: d :: more =>
    if d.isDigit && date? word == some [] then
      let clock := (d :: more).takeWhile isScalarChar
      (word ++ ' ' :: clock, (d :: more).drop clock.length)
    else (word, rest)
  | _ => (word, rest)

/-- The items of an array after its opening bracket, and what follows the closing one. -/
def items? (value : List Char → Option (Toml × List Char)) :
    Nat → List Char → Option (List Toml × List Char)
  | 0, _ => none
  | fuel + 1, cs => do
    match ← skipLines? false cs with
    | ']' :: rest => return ([], rest)
    | cs => do
      let (item, rest) ← value cs
      match ← skipLines? false rest with
      | ',' :: rest => do
        let (items, rest) ← items? value fuel rest
        return (item :: items, rest)
      | ']' :: rest => return ([item], rest)
      | _ => none

/-- The entries of an inline table after its opening brace, and what follows the closing one.
Within the braces line breaks and comments may stand wherever blanks may, except inside a key. -/
def members? (value : List Char → Option (Toml × List Char)) :
    Nat → Entries → List Char → Option (Entries × List Char)
  | 0, _, _ => none
  | fuel + 1, entries, cs => do
    match ← skipLines? false cs with
    | '\x7d' :: rest => return (entries, rest)
    | cs => do
      let (key, rest) ← key? cs
      let rest ← after? '=' (← skipLines? false rest)
      let (v, rest) ← value (← skipLines? false rest)
      let entries ← define? [] key v entries
      match ← skipLines? false rest with
      | ',' :: rest => members? value fuel entries rest
      | '\x7d' :: rest => return (entries, rest)
      | _ => none

/-- A value in front, after blanks, and what follows. -/
def value? : Nat → List Char → Option (Toml × List Char)
  | depth, cs =>
    match skipBlanks cs with
    | [] => none
    | c :: rest =>
      if c = '\x22' ∨ c = '\x27' then
        (string? (c :: rest)).map fun (s, rest) => (.string s, rest)
      else if c = '[' then
        match depth with
        | 0 => none
        | depth + 1 =>
          (items? (value? depth) (rest.length + 1) rest).map fun (items, rest) =>
            (.array items, rest)
      else if c = '\x7b' then
        match depth with
        | 0 => none
        | depth + 1 =>
          (members? (value? depth) (rest.length + 1) [] rest).map fun (entries, rest) =>
            (.table .inline entries, rest)
      else
        let (word, rest) := scalarText (c :: rest)
        (scalar? word).map fun v => (v, rest)

/-- A document read so far: the path of the table opened last, and all entries. -/
structure Document where
  header : List String := []
  entries : Entries := []

/-- A header line after its brackets; gives the lines that follow. -/
def header? (isElement : Bool) (d : Document) (cs : List Char) :
    Option (Document × List Char) := do
  let (path, rest) ← key? cs
  let rest ← after? ']' rest
  let rest ← if isElement then after? ']' rest else some rest
  let rest ← lineEnd? rest
  let entries ← openTable? path isElement d.entries
  return (⟨path, entries⟩, rest)

/-- A line with a key and a value; gives the lines that follow. -/
def assignment? (d : Document) (cs : List Char) : Option (Document × List Char) := do
  let (key, rest) ← key? cs
  let rest ← after? '=' rest
  let (v, rest) ← value? maxDepth rest
  let rest ← lineEnd? rest
  let entries ← define? d.header key v d.entries
  return ({ d with entries := entries }, rest)

/-- Reads the lines of a document. -/
def lines? : Nat → Document → List Char → Option Document
  | 0, _, _ => none
  | fuel + 1, d, cs =>
    match skipLines? false cs with
    | none => none
    | some [] => some d
    | some cs =>
      let line := match cs with
        | '[' :: '[' :: rest => header? true d rest
        | '[' :: rest => header? false d rest
        | _ => assignment? d cs
      match line with
      | none => none
      | some (d, rest) => lines? fuel d rest

/-- The entries of a document; a byte order mark may stand in front. -/
def parse? (s : String) : Option Entries :=
  let cs := match s.toList with
    | '\ufeff' :: rest => rest
    | cs => cs
  (lines? (cs.length + 1) {} cs).map Document.entries

end Toml
end EntityQuery

/-
# UUIDs

Sixteen bytes, written as five groups of hexadecimal digits.  Reading also
accepts the digits without hyphens, the hyphenated form in braces, and the
hyphenated form as a URN; digits and the letters of `urn:uuid:` may have either
case.
-/

import EntityQuery.Text.Hex
import EntityQuery.Text.Lists

namespace EntityQuery

/-- A universally unique identifier. -/
structure Uuid where
  bytes : List UInt8
  length_bytes : bytes.length = 16
  deriving DecidableEq

namespace Uuid

/-- Sixteen bytes as an identifier. -/
def ofBytes? (bytes : List UInt8) : Option Uuid :=
  if h : bytes.length = 16 then some ⟨bytes, h⟩ else none

/-- The hyphenated form in lower case. -/
def text (u : Uuid) : String :=
  let ds := Text.Hex.encode u.bytes
  String.ofList <|
    ds.take 8 ++ '-' :: (ds.drop 8).take 4 ++ '-' :: (ds.drop 12).take 4 ++
    '-' :: (ds.drop 16).take 4 ++ '-' :: ds.drop 20

/-- Reads thirty-two digits. -/
def ofDigits? (cs : List Char) : Option Uuid :=
  (Text.Hex.decode? cs).bind ofBytes?

/-- Reads the hyphenated form. -/
def ofHyphenated? (cs : List Char) : Option Uuid :=
  if cs.length = 36 ∧ cs[8]? = some '-' ∧ cs[13]? = some '-' ∧ cs[18]? = some '-' ∧
      cs[23]? = some '-' then
    ofDigits? (cs.take 8 ++ (cs.drop 9).take 4 ++ (cs.drop 14).take 4 ++ (cs.drop 19).take 4 ++
      cs.drop 24)
  else none

/-- Reads any of the four forms. -/
def parse? (s : String) : Option Uuid :=
  let cs := s.toList
  if cs.length = 32 then ofDigits? cs
  else if cs.length = 36 then ofHyphenated? cs
  else if cs.length = 38 ∧ cs.head? = some '\x7b' ∧ cs.getLast? = some '\x7d' then
    ofHyphenated? (cs.tail.take 36)
  else if cs.length = 45 ∧ Text.asciiUpper (cs.take 9) = "URN:UUID:".toList then ofHyphenated? (cs.drop 9)
  else none

end Uuid
end EntityQuery

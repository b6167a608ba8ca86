/-
# Upper camel case

`upperCamel` writes a name as capitalised words without separators.  A word
ends at a character that is neither alphabetic nor a number, after a lower-case
letter that an upper-case one follows (`blogPost`), and before an upper-case
letter that stands between an upper-case and a lower-case one (`HTTPServer`).
-/

import EntityQuery.Text.Alphanumeric
import EntityQuery.Text.CaseMapping

namespace EntityQuery
namespace Text

/-- The case of the last cased letter of the current word, if there was one. -/
inductive LastCase where
  | none
  | lowercase
  | uppercase
  deriving DecidableEq

/-- Cuts a run of letters and digits into words; `word` is the current one, last letter first. -/
def camelPieces (last : LastCase) (word : List Char) : List Char → List (List Char)
  | [] => []
  | [c] => [(c :: word).reverse]
  | c :: next :: rest =>
    let after :=
      if isLowercase c then .lowercase
      else if isUppercase c then .uppercase
      else last
    if after = .lowercase ∧ isUppercase next then
      (c :: word).reverse :: camelPieces .none [] (next :: rest)
    else if last = .uppercase ∧ isUppercase c ∧ isLowercase next then
      word.reverse :: camelPieces .none [c] (next :: rest)
    else camelPieces after (c :: word) (next :: rest)

/-- The maximal runs of letters and digits; `run` is the current one, last character first. -/
def alphanumericRunsFrom (run : List Char) : List Char → List (List Char)
  | [] => if run.isEmpty then [] else [run.reverse]
  | c :: rest =>
    if isAlphanumeric c then alphanumericRunsFrom (c :: run) rest
    else if run.isEmpty then alphanumericRunsFrom [] rest
    else run.reverse :: alphanumericRunsFrom [] rest

/-- A word with its first letter in upper case and the others in lower case. -/
def capitalize : List Char → List Char
  | [] => []
  | c :: rest => upper c ++ lowerWord rest

/-- The name as capitalised words in a row. -/
def upperCamel (s : String) : String :=
  String.ofList <|
    (alphanumericRunsFrom [] s.toList).flatMap fun run =>
      (camelPieces .none [] run).flatMap capitalize

end Text
end EntityQuery

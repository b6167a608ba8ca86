/-
# From table names to class names

By convention a table is named for the plural of its class: `blog_posts` holds
the rows of `BlogPost`.  `singular` undoes the plural of the last word of a
snake_case name, and `className` writes the result in camel case.  The rules of
the plural are those of English spelling with a few irregular nouns.
-/

import EntityQuery.Text.Blank
import EntityQuery.Text.Camel
import EntityQuery.Text.Lists
import EntityQuery.Text.Utf8

namespace EntityQuery
namespace Naming

/-- Nouns whose plural follows no rule. -/
def irregular : List (String × String) :=
  [("people", "person"), ("men", "man"), ("women", "woman"), ("children", "child"),
    ("mice", "mouse")]

/-- The text up to and with its last underscore, and the text after it. -/
def lastWord (cs : List Char) : List Char × List Char :=
  let word := (cs.reverse.takeWhile (· != '_')).reverse
  (cs.take (cs.length - word.length), word)

/-- Whether a lower-case word ends in one of the given letters. -/
def endsIn (word : List Char) (endings : List String) : Bool :=
  endings.any fun e => e.toList.isSuffixOf word

/-- The singular of a word. -/
def singularWord (word : List Char) : List Char :=
  let lower := word.map Char.toLower
  match irregular.find? fun p => p.1.toList = lower with
  | some (_, single) => single.toList
  | none =>
    if 3 < Text.byteLength lower && endsIn lower ["ies"] then
      word.take (word.length - 3) ++ ['y']
    else if endsIn lower ["sses", "shes", "ches", "xes", "zes"] then word.take (word.length - 2)
    else if endsIn lower ["ss", "us", "is"] then word
    else if endsIn lower ["s"] then word.take (word.length - 1)
    else word

/-- The singular of a snake_case name, of which only the last word is plural. -/
def singular (name : String) : String :=
  let (front, word) := lastWord name.toList
  String.ofList (front ++ singularWord word)

/-- The class name for a table or relation name, without a namespace. -/
def className (name : String) : String :=
  Text.upperCamel (singular (Text.trim name))

/-- Whether a name carries a namespace. -/
def isQualified (name : String) : Bool :=
  Text.hasInfix name.toList "::".toList

/-- The class name for an input: a qualified name stands for itself, a name that starts with an
ASCII capital is a class of the namespace, and any other name is a table's. -/
def qualify (modelNamespace input : String) : String :=
  let input := Text.trim input
  if isQualified input then input
  else
    let startsUpper := match input.toList with
      | c :: _ => c.isUpper
      | [] => false
    let short := if startsUpper then input else className input
    if modelNamespace.isEmpty then short else modelNamespace ++ "::" ++ short

end Naming
end EntityQuery

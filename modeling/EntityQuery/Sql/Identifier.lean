/-
# Quoting identifiers

A plain identifier is a sequence of ASCII letters, digits, underscores and dots
that starts with a letter or an underscore.  Only plain identifiers are quoted;
a star, an expression or a name that is quoted already is written as it stands,
so that expressions can be used wherever a column can.  Quoting is no guard
against injection.
-/

import EntityQuery.Text.Blank
import EntityQuery.Text.Lists

namespace EntityQuery

/-- Whether a character may start a plain identifier. -/
def isIdentifierStart (c : Char) : Bool :=
  c.isAlpha || c == '_'

/-- Whether a character may stand in a plain identifier. -/
def isIdentifierPart (c : Char) : Bool :=
  c.isAlphanum || c == '_' || c == '.'

/-- Whether a text is a plain identifier. -/
def isPlain (name : String) : Bool :=
  match name.toList with
  | [] => false
  | c :: rest => isIdentifierStart c && rest.all isIdentifierPart

/-- The quoting of identifiers with one quote character. -/
structure Quoting where
  quote : Char := '\x60'
  deriving DecidableEq, Repr

namespace Quoting

/-- A segment between quotes; an empty one stays empty. -/
def segment (q : Quoting) (cs : List Char) : List Char :=
  if cs.isEmpty then [] else q.quote :: cs ++ [q.quote]

/-- A column: every segment of a plain name is quoted by itself. -/
def column (q : Quoting) (name : String) : String :=
  if isPlain name then
    String.ofList (List.intercalate ['.'] ((Text.splitOn '.' name.toList).map q.segment))
  else name

/-- Whether a text starts and ends with the quote. -/
def isQuoted (q : Quoting) (name : String) : Bool :=
  match name.toList with
  | [] => false
  | [c] => c == q.quote && 2 ≤ c.utf8Size
  | c :: rest => c == q.quote && rest.getLast? == some q.quote

/-- An alias: a plain name without dots is quoted as a whole. -/
def label (q : Quoting) (name : String) : String :=
  if q.isQuoted name then name
  else if !isPlain name || name.toList.contains '.' then name
  else String.ofList (q.segment name.toList)

/-- Whether an expression is taken for a function call. -/
def isFunctionLike (expression : String) : Bool :=
  let upper := Text.asciiUpper (Text.trimStart expression.toList)
  expression.toList.contains '(' || "COUNT".toList.isPrefixOf upper || "NOW".toList.isPrefixOf upper

/-- Whether a word is AS in any letter case, the long s counting as an S. -/
def isAs : List Char → Bool
  | [a, s] => (a == 'a' || a == 'A') && (s == 's' || s == 'S' || s == 'ſ')
  | _ => false

/-- An entry of a SELECT list: a column, a column with an alias, or a function call. -/
def selectColumn (q : Quoting) (expression : String) : String :=
  if isFunctionLike expression then expression
  else
    match Text.words expression with
    | [source, word, target] =>
      if isAs word then q.column (String.ofList source) ++ " AS " ++ q.label (String.ofList target)
      else q.column (Text.trim expression)
    | _ => q.column (Text.trim expression)

/-- The text without its quotes. -/
def unwrap (q : Quoting) (name : String) : String :=
  String.ofList (name.toList.filter (· != q.quote))

end Quoting
end EntityQuery

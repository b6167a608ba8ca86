/-
# Placeholders and quotes

Both the compiler and the PostgreSQL connection look for the question marks of
an SQL text that stand outside of quotes.  They read the text with the same
scanner: its state is the quote that is open, if one is, and a quote is closed
by the same character that opened it.  A doubled quote closes and opens again,
which leaves the state as it was.
-/

import EntityQuery.Text.Numeral

namespace EntityQuery
namespace Placeholder

/-- The quote that is open, if one is. -/
abbrev Scan := Option Char

/-- The state after a character, given which characters open a quote. -/
def step (opens : Char → Bool) : Scan → Char → Scan
  | some q, c => if c = q then none else some q
  | none, c => if opens c then some c else none

/-- Whether a character read in a state is a placeholder. -/
def isMark (opens : Char → Bool) : Scan → Char → Bool
  | none, c => !opens c && c == '?'
  | some _, _ => false

/-- The state after a text. -/
def run (opens : Char → Bool) (state : Scan) (cs : List Char) : Scan :=
  cs.foldl (step opens) state

/-- The number of placeholders of a text read from a state. -/
def countFrom (opens : Char → Bool) : Scan → List Char → Nat
  | _, [] => 0
  | state, c :: rest =>
    (if isMark opens state c then 1 else 0) + countFrom opens (step opens state c) rest

/-- The text read from a state with its placeholders numbered on from `n`. -/
def numberFrom (opens : Char → Bool) : Scan → Nat → List Char → List Char
  | _, _, [] => []
  | state, n, c :: rest =>
    if isMark opens state c then
      '$' :: Text.decimal (n + 1) ++ numberFrom opens (step opens state c) (n + 1) rest
    else c :: numberFrom opens (step opens state c) n rest

/-- The characters that open a quote: the one of text literals and the one of identifiers. -/
def opensQuote (identifierQuote c : Char) : Bool :=
  c == '\x27' || c == identifierQuote

/-- The number of placeholders of an SQL text. -/
def count (identifierQuote : Char) (sql : String) : Nat :=
  countFrom (opensQuote identifierQuote) none sql.toList

/-- The SQL text with its placeholders written `$1`, `$2` and so on. -/
def numbered (sql : String) : String :=
  String.ofList (numberFrom (opensQuote '\x22') none 0 sql.toList)

/-- Reading two texts in a row is reading the second from where the first ends. -/
theorem countFrom_append (opens : Char → Bool) (state : Scan) (xs ys : List Char) :
    countFrom opens state (xs ++ ys) =
      countFrom opens state xs + countFrom opens (run opens state xs) ys := by
  induction xs generalizing state with
  | nil => simp [countFrom, run]
  | cons c rest ih =>
    have h := ih (step opens state c)
    simp only [run] at h
    simp only [List.cons_append, countFrom, run, List.foldl_cons, h]
    omega

end Placeholder
end EntityQuery

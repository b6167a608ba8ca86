/-
# A reader of WHERE clauses

The text of a WHERE clause is cut into predicates, connectors and parentheses
from left to right, as a parser of SQL does it (`Scanner.read`).  Outside of
quotes, the words AND and OR end a predicate, but not the AND of a BETWEEN; a
parenthesis in front of a predicate opens a group, and one inside of it (a list,
the arguments of a function, a sub-query) belongs to the predicate together with
everything up to the one that closes it.

`value?` is the truth value of a text: it is cut into tokens, the tokens must
stand in an order that has a meaning, and they are read with AND binding tighter
than OR and with parentheses grouping.  A text that is no WHERE clause has none.

Nothing here looks at how the text was made.  A sub-query, whose tables and joins
may be any text, can be given to the reader as one letter.
-/

import EntityQuery.Proofs.Where.Reading

namespace EntityQuery

theorem BoundText.ofText_append (a b : String) : ofText (a ++ b) = ofText a ++ ofText b := by
  rw [ofText, String.toList_append, List.map_append]
  rfl

/-- A letter of a WHERE clause: a character, a value in its place, or a whole sub-query. -/
inductive Letter where
  | place (p : Place)
  | query (text : BoundText)

namespace Letter

/-- The text of a letter. -/
def text : Letter → BoundText
  | .place p => [p]
  | .query t => t

/-- The text of letters in a row. -/
def textOf (letters : List Letter) : BoundText :=
  letters.flatMap text

/-- The letters of a text, each place by itself. -/
def ofBound (t : BoundText) : List Letter :=
  t.map .place

/-- The letters of a text without values. -/
def ofText (text : String) : List Letter :=
  ofBound (.ofText text)

/-- Whether a letter is a blank. -/
def isBlank : Letter → Bool
  | .place (.char c) => Text.isBlank c
  | _ => false

@[simp] theorem textOf_append (a b : List Letter) : textOf (a ++ b) = textOf a ++ textOf b :=
  List.flatMap_append

@[simp] theorem textOf_ofBound (t : BoundText) : textOf (ofBound t) = t := by
  rw [textOf, ofBound, List.flatMap_map]
  exact List.flatMap_singleton' t

@[simp] theorem textOf_ofText (text : String) : textOf (ofText text) = .ofText text :=
  textOf_ofBound _

theorem ofBound_append (a b : BoundText) : ofBound (a ++ b) = ofBound a ++ ofBound b :=
  List.map_append

theorem ofText_append (a b : String) : ofText (a ++ b) = ofText a ++ ofText b := by
  rw [ofText, BoundText.ofText_append, ofBound_append]
  rfl

end Letter

/-- A token of a WHERE clause. -/
inductive Token where
  | test (letters : List Letter)
  | connector (c : Connector)
  | opening
  | closing

/-- The letters of a token. -/
def Token.letters : Token → List Letter
  | .test letters => letters
  | .connector c => Letter.ofText (" " ++ c.sql ++ " ")
  | .opening => Letter.ofText "("
  | .closing => Letter.ofText ")"

/-- The word that a token stands for. -/
def Token.word : Token → Word
  | .test letters => .test (Letter.textOf letters)
  | .connector c => c.word
  | .opening => .opening
  | .closing => .closing

/-- A keyword that the reader looks for. -/
inductive Keyword where
  | connector (c : Connector)
  | between

/-- The keyword that a word is, in any letter case. -/
def keyword? (word : List Char) : Option Keyword :=
  match Text.asciiUpper word with
  | ['A', 'N', 'D'] => some (.connector .and)
  | ['O', 'R'] => some (.connector .or)
  | ['B', 'E', 'T', 'W', 'E', 'E', 'N'] => some .between
  | _ => none

/-- What was read: the quote that is open, how many parentheses of the predicate are, whether the
AND of a BETWEEN is to come, the current word and the current predicate (the last letter first), and
the tokens (the last one first). -/
structure Scanner where
  quoted : Placeholder.Scan := none
  depth : Nat := 0
  between : Bool := false
  word : List Char := []
  test : List Letter := []
  tokens : List Token := []

namespace Scanner

/-- Adds a letter to the predicate. -/
def push (s : Scanner) (l : Letter) : Scanner :=
  { s with test := l :: s.test }

/-- Adds the current word to the predicate. -/
def keepWord (s : Scanner) : Scanner :=
  { s with word := [], test := s.word.map (.place ∘ .char) ++ s.test }

/-- Ends the predicate, if there is one; the blanks after it are dropped. -/
def endTest (s : Scanner) : Scanner :=
  match s.test.dropWhile Letter.isBlank with
  | [] => { s with test := [] }
  | test => { s with test := [], tokens := .test test.reverse :: s.tokens }

/-- Ends the predicate at a connector. -/
def connect (s : Scanner) (c : Connector) : Scanner :=
  { s.endTest with word := [], tokens := .connector c :: s.endTest.tokens }

/-- Ends the current word. -/
def endWord (s : Scanner) : Scanner :=
  match s.depth, keyword? s.word.reverse with
  | 0, some (.connector .and) =>
    if s.between then { s.keepWord with between := false } else s.connect .and
  | 0, some (.connector .or) => s.connect .or
  | 0, some .between => { s.keepWord with between := true }
  | _, _ => s.keepWord

/-- Reads an opening parenthesis: of a group, where a predicate is to come, or of the predicate. -/
def openParen (s : Scanner) : Scanner :=
  if s.test.isEmpty then { s with tokens := .opening :: s.tokens }
  else { s.push (.place (.char '(')) with depth := s.depth + 1 }

/-- Reads a closing parenthesis. -/
def closeParen (s : Scanner) : Scanner :=
  match s.depth with
  | 0 => { s.endTest with tokens := .closing :: s.endTest.tokens }
  | depth + 1 => { s.push (.place (.char ')')) with depth := depth }

/-- Reads a character that belongs to no word; blanks in front of a predicate are skipped. -/
def readMark (quote : Char) (s : Scanner) (c : Char) : Scanner :=
  if s.quoted = none ∧ c = '(' then s.openParen
  else if s.quoted = none ∧ c = ')' then s.closeParen
  else if s.quoted = none ∧ Text.isBlank c = true ∧ s.test = [] then s
  else
    { s.push (.place (.char c)) with
      quoted := Placeholder.step (Placeholder.opensQuote quote) s.quoted c }

/-- Reads a letter. -/
def read (quote : Char) (s : Scanner) : Letter → Scanner
  | .place (.char c) =>
    if s.quoted = none ∧ isIdentifierPart c = true then { s with word := c :: s.word }
    else s.endWord.readMark quote c
  | l => s.endWord.push l

/-- Reads letters. -/
def run (quote : Char) (s : Scanner) (letters : List Letter) : Scanner :=
  letters.foldl (read quote) s

/-- The tokens of a text, unless it ends inside of a predicate. -/
def tokens? (quote : Char) (letters : List Letter) : Option (List Token) :=
  let s := (run quote {} letters).endWord.endTest
  if s.quoted = none ∧ s.depth = 0 ∧ s.between = false then some s.tokens.reverse else none

end Scanner

/-- Whether words stand in an order that has a meaning, when `depth` groups are open and a predicate
is expected or not. -/
def Word.orderedFrom : Nat → Bool → List Word → Bool
  | depth, expected, [] => depth == 0 && !expected
  | depth, true, .test _ :: rest => orderedFrom depth false rest
  | depth, true, .opening :: rest => orderedFrom (depth + 1) true rest
  | depth, false, .and :: rest => orderedFrom depth true rest
  | depth, false, .or :: rest => orderedFrom depth true rest
  | depth + 1, false, .closing :: rest => orderedFrom depth false rest
  | _, _, _ => false

/-- The truth value of the text of a WHERE clause. -/
def Letter.value? (quote : Char) (satisfies : BoundText → Bool) (letters : List Letter) :
    Option Bool :=
  match Scanner.tokens? quote letters with
  | none => none
  | some tokens =>
    let words := tokens.map Token.word
    if Word.orderedFrom 0 true words then some (Word.satisfied satisfies words) else none

namespace Scanner

open Placeholder

variable {quote : Char}

theorem run_append (s : Scanner) (a b : List Letter) :
    run quote s (a ++ b) = run quote (run quote s a) b :=
  List.foldl_append

theorem run_cons (s : Scanner) (l : Letter) (letters : List Letter) :
    run quote s (l :: letters) = run quote (read quote s l) letters :=
  rfl

/-! ### Between two tokens -/

/-- What was read ends with the last of some tokens. -/
def Ends (s : Scanner) (tokens : List Token) : Prop :=
  s.endWord.endTest = { tokens := tokens }

theorem endWord_of_word {s : Scanner} (h : s.word = []) : s.endWord = s := by
  obtain ⟨quoted, depth, between, word, test, tokens⟩ := s
  obtain rfl : word = [] := h
  cases depth <;> rfl

theorem word_endWord (s : Scanner) : s.endWord.word = [] := by
  unfold endWord
  split
  · split <;> rfl
  · rfl
  · rfl
  · rfl

theorem endTest_eq (s : Scanner) :
    s.endTest = { s with test := [], tokens := s.endTest.tokens } := by
  unfold endTest
  split <;> rfl

/-- What ends with a token is outside of everything; all but its last predicate is known. -/
theorem Ends.endWord_eq {s : Scanner} {tokens : List Token} (h : s.Ends tokens) :
    s.endWord = { test := s.endWord.test, tokens := s.endWord.tokens } := by
  have hfields := endTest_eq s.endWord
  rw [h] at hfields
  have hquoted : s.endWord.quoted = none := (congrArg Scanner.quoted hfields).symm
  have hdepth : s.endWord.depth = 0 := (congrArg Scanner.depth hfields).symm
  have hbetween : s.endWord.between = false := (congrArg Scanner.between hfields).symm
  have hword : s.endWord.word = [] := (congrArg Scanner.word hfields).symm
  rw [← hquoted, ← hdepth, ← hbetween, ← hword]

/-- A blank after a predicate belongs to no token. -/
theorem Ends.read_blank (hq : Delimiter quote) {s : Scanner} {tokens : List Token}
    (h : s.Ends tokens) :
    ∃ test tokens', read quote s (.place (.char ' ')) = { test := test, tokens := tokens' } ∧
      endTest { test := test, tokens := tokens' } = { tokens := tokens } := by
  have hread : read quote s (.place (.char ' ')) = s.endWord.readMark quote ' ' := by
    rw [read, if_neg fun hpart => absurd hpart.2 (by decide)]
  have hopens : opensQuote quote ' ' = false := opensQuote_of_ordinary hq (by decide)
  have hends : s.endWord.endTest = { tokens := tokens } := h
  rw [h.endWord_eq] at hread hends
  generalize s.endWord.test = test at hread hends
  generalize s.endWord.tokens = tokens' at hread hends
  rw [hread]
  cases test with
  | nil => exact ⟨[], tokens', rfl, hends⟩
  | cons l test =>
      refine ⟨.place (.char ' ') :: l :: test, tokens', ?_, hends⟩
      rw [readMark, if_neg fun hopen => absurd hopen.2 (by decide),
        if_neg fun hclose => absurd hclose.2 (by decide),
        if_neg fun hskip => List.cons_ne_nil l test hskip.2.2, Placeholder.step, hopens]
      rfl

theorem connect_of_endTest {test : List Letter} {tokens tokens' : List Token}
    (h : endTest { test := test, tokens := tokens' } = { tokens := tokens }) (word : List Char)
    (c : Connector) :
    connect { word := word, test := test, tokens := tokens' } c =
      { tokens := .connector c :: tokens } := by
  have hword : endTest { word := word, test := test, tokens := tokens' } =
      { endTest { test := test, tokens := tokens' } with word := word } := by
    unfold endTest
    simp only
    cases test.dropWhile Letter.isBlank <;> rfl
  rw [connect, hword, h]

/-- A connector ends the predicate in front of it. -/
theorem Ends.run_connector (hq : Delimiter quote) {s : Scanner} {tokens : List Token}
    (h : s.Ends tokens) (c : Connector) :
    run quote s (Token.connector c).letters = { tokens := .connector c :: tokens } := by
  obtain ⟨test, tokens', hread, hends⟩ := h.read_blank hq
  cases c with
  | and =>
      have hword : run quote { test := test, tokens := tokens' } (Letter.ofText "AND ") =
          readMark quote (connect { word := ['D', 'N', 'A'], test := test, tokens := tokens' } .and)
            ' ' := rfl
      have hsplit : (Token.connector .and).letters =
          .place (.char ' ') :: Letter.ofText "AND " := rfl
      rw [hsplit, run_cons, hread, hword, connect_of_endTest hends]
      rfl
  | or =>
      have hword : run quote { test := test, tokens := tokens' } (Letter.ofText "OR ") =
          readMark quote (connect { word := ['R', 'O'], test := test, tokens := tokens' } .or)
            ' ' := rfl
      have hsplit : (Token.connector .or).letters =
          .place (.char ' ') :: Letter.ofText "OR " := rfl
      rw [hsplit, run_cons, hread, hword, connect_of_endTest hends]
      rfl

/-- A closing parenthesis ends the predicate in front of it. -/
theorem Ends.run_closing {s : Scanner} {tokens : List Token} (h : s.Ends tokens) :
    run quote s Token.closing.letters = { tokens := .closing :: tokens } := by
  have hread : run quote s Token.closing.letters = s.endWord.readMark quote ')' := by
    change read quote s (.place (.char ')')) = _
    rw [read, if_neg fun hpart => absurd hpart.2 (by decide)]
  have hends : s.endWord.endTest = { tokens := tokens } := h
  rw [hread, readMark, if_neg fun hopen => absurd hopen.2 (by decide),
    if_pos ⟨by rw [h.endWord_eq], rfl⟩, closeParen]
  rw [h.endWord_eq] at hends ⊢
  rw [hends]

/-! ### Token by token -/

/-- Letters that are read as one predicate where one is expected. -/
def Legible (quote : Char) (letters : List Letter) : Prop :=
  ∀ tokens, (run quote { tokens := tokens } letters).Ends (.test letters :: tokens)

/-- Where the reader stands between tokens: nothing is read of the next one where a predicate is
expected, and the last one may still be open where none is. -/
def Stands (expected : Bool) (s : Scanner) (tokens : List Token) : Prop :=
  if expected then s = { tokens := tokens } else s.Ends tokens

/-- Tokens in an order that has a meaning are read one after the other. -/
theorem Stands.run (hq : Delimiter quote) {tokens : List Token} {depth : Nat} {expected : Bool}
    {s : Scanner} {before : List Token} (hs : Stands expected s before)
    (hordered : Word.orderedFrom depth expected (tokens.map Token.word) = true)
    (hlegible : ∀ letters, .test letters ∈ tokens → Legible quote letters) :
    (s.run quote (tokens.flatMap Token.letters)).Ends (tokens.reverse ++ before) := by
  -- The order of the words says where the reader stands after each token: `Stands` is kept.
  induction tokens generalizing depth expected s before with
  | nil =>
      cases expected with
      | true => exact absurd hordered (by simp [Word.orderedFrom])
      | false => exact hs
  | cons token tokens ih =>
      have hrest : ∀ letters, .test letters ∈ tokens → Legible quote letters :=
        fun letters hmem => hlegible letters (List.mem_cons_of_mem _ hmem)
      rw [List.flatMap_cons, run_append, List.reverse_cons, List.append_assoc]
      rw [List.map_cons] at hordered
      cases expected with
      | true =>
          obtain rfl : s = { tokens := before } := hs
          cases token with
          | test letters =>
              have hstands : Stands false (Scanner.run quote { tokens := before } letters)
                  (.test letters :: before) := hlegible letters List.mem_cons_self before
              exact ih hstands hordered hrest
          | opening =>
              have hstands : Stands true { tokens := .opening :: before }
                  (.opening :: before) := rfl
              exact ih hstands hordered hrest
          | connector c => cases c <;> exact absurd hordered Bool.false_ne_true
          | closing => cases depth <;> exact absurd hordered Bool.false_ne_true
      | false =>
          have hends : s.Ends before := hs
          cases token with
          | test letters => exact absurd hordered Bool.false_ne_true
          | opening => exact absurd hordered Bool.false_ne_true
          | connector c =>
              rw [hends.run_connector hq c]
              have hstands : Stands true { tokens := .connector c :: before }
                  (.connector c :: before) := rfl
              have hnext : Word.orderedFrom depth true (tokens.map Token.word) = true := by
                cases c <;> exact hordered
              exact ih hstands hnext hrest
          | closing =>
              rw [hends.run_closing]
              cases depth with
              | zero => exact absurd hordered Bool.false_ne_true
              | succ depth =>
                  have hstands : Stands false { tokens := .closing :: before }
                      (.closing :: before) := rfl
                  exact ih hstands hordered hrest

/-- **The reader finds the tokens that a text is made of.** -/
theorem tokens?_flatMap (hq : Delimiter quote) {tokens : List Token}
    (hordered : Word.orderedFrom 0 true (tokens.map Token.word) = true)
    (hlegible : ∀ letters, .test letters ∈ tokens → Legible quote letters) :
    tokens? quote (tokens.flatMap Token.letters) = some tokens := by
  have hstands : Stands true {} [] := rfl
  have hends : (run quote {} (tokens.flatMap Token.letters)).endWord.endTest = _ :=
    hstands.run hq hordered hlegible
  rw [tokens?, hends, if_pos ⟨rfl, rfl, rfl⟩, List.append_nil, List.reverse_reverse]

example :
    tokens? '\x60' (Letter.ofText "a OR b AND c") =
      some [.test (Letter.ofText "a"), .connector .or, .test (Letter.ofText "b"), .connector .and,
        .test (Letter.ofText "c")] := by
  cbv

end Scanner
end EntityQuery

/-
# Reading one predicate

What the reader makes of a predicate piece by piece.  Inside of the parentheses of
a predicate it keeps whatever it reads up to the one that closes them
(`keepWord_run`), so letters that close what they open can stand there, keywords
and all (`Balanced`).  Outside of them it is `Within` the predicate as long as no word
ends it, which can be told from the characters alone (`afterPlain`): no operator
does, nor does the AND of a BETWEEN.

A column is the only piece that a caller names.  A plain identifier is written
segment by segment in quotes, so the words that are left outside of them are dots
(`spells_column`); the mark of deletion is written without quotes and is a word,
which is why it must be no keyword (`within_column`).
-/

import EntityQuery.Proofs.Bound.Place
import EntityQuery.Proofs.Where.Rows
import EntityQuery.Proofs.Where.Scanner

namespace EntityQuery

/-- A column that the reader takes for the beginning of a predicate: a plain identifier, and no
keyword where it is written without quotes. -/
structure ColumnRef.IsLegible (c : ColumnRef) : Prop where
  plain : isPlain c.name = true
  raw : c.raw = true → keyword? c.name.toList = none

namespace Scanner

open Placeholder
open Letter (ofText ofBound ofText_append ofBound_append)

variable {quote : Char}

/-! ### Inside of parentheses -/

/-- The open quote and the number of open parentheses after a character; none if it closes a
parenthesis that is not open. -/
def nestChar (quote : Char) (state : Scan) (depth : Nat) (c : Char) : Option (Scan × Nat) :=
  if state = none ∧ c = '(' then some (none, depth + 1)
  else if state = none ∧ c = ')' then
    match depth with
    | 0 => none
    | depth + 1 => some (none, depth)
  else some (step (opensQuote quote) state c, depth)

/-- The open quote and the number of open parentheses after a letter. -/
def nest (quote : Char) (inside : Scan × Nat) : Letter → Option (Scan × Nat)
  | .place (.char c) => nestChar quote inside.1 inside.2 c
  | _ => some inside

/-- The open quote and the number of open parentheses after letters. -/
def nestAll (quote : Char) (inside : Scan × Nat) (letters : List Letter) : Option (Scan × Nat) :=
  letters.foldlM (nest quote) inside

/-- Letters that close the quotes and the parentheses that they open, and no others. -/
def Balanced (quote : Char) (letters : List Letter) : Prop :=
  nestAll quote (none, 0) letters = some (none, 0)

instance (quote : Char) (letters : List Letter) : Decidable (Balanced quote letters) :=
  inferInstanceAs (Decidable (_ = _))

theorem nestChar_of_bare {state : Scan} {depth : Nat} {c : Char} (hopen : c ≠ '(')
    (hclose : c ≠ ')') :
    nestChar quote state depth c = some (step (opensQuote quote) state c, depth) := by
  unfold nestChar
  rw [if_neg fun h => hopen h.2, if_neg fun h => hclose h.2]

theorem endWord_of_depth {s : Scanner} {depth : Nat} (h : s.depth = depth + 1) :
    s.endWord = s.keepWord := by
  obtain ⟨quoted, _, between, word, test, tokens⟩ := s
  obtain rfl := h
  rfl

theorem readMark_of_nestChar {state : Scan} {depth : Nat} {between : Bool} {test : List Letter}
    {tokens : List Token} {c : Char} {after : Scan × Nat} (htest : test ≠ [])
    (h : nestChar quote state depth c = some after) :
    readMark quote ⟨state, depth + 1, between, [], test, tokens⟩ c =
      ⟨after.1, after.2 + 1, between, [], .place (.char c) :: test, tokens⟩ := by
  unfold nestChar at h
  rw [readMark]
  split at h
  · rename_i hopen
    obtain ⟨rfl, rfl⟩ := hopen
    obtain rfl := Option.some.inj h
    rw [if_pos ⟨rfl, rfl⟩, openParen, List.isEmpty_eq_false_iff.2 htest]
    rfl
  · rename_i hopen
    rw [if_neg hopen]
    split at h
    · rename_i hclose
      obtain ⟨rfl, rfl⟩ := hclose
      rw [if_pos ⟨rfl, rfl⟩]
      cases depth with
      | zero => exact absurd h.symm (Option.some_ne_none _)
      | succ depth =>
          obtain rfl := Option.some.inj h
          rfl
    · rename_i hclose
      obtain rfl := Option.some.inj h
      rw [if_neg hclose, if_neg fun hskip => htest hskip.2.2]
      rfl

/-- Inside of parentheses a letter is kept whatever it is. -/
theorem keepWord_read (hq : Delimiter quote) {s : Scanner} {l : Letter} {inside after : Scan × Nat}
    (h : nest quote inside l = some after) (hquoted : s.quoted = inside.1)
    (hdepth : s.depth = inside.2 + 1) (htest : s.keepWord.test ≠ []) :
    (read quote s l).keepWord =
      { s.keepWord with
        quoted := after.1, depth := after.2 + 1, test := l :: s.keepWord.test } := by
  obtain ⟨state, depth⟩ := inside
  obtain ⟨quoted, depth', between, word, test, tokens⟩ := s
  obtain rfl : quoted = state := hquoted
  obtain rfl : depth' = depth + 1 := hdepth
  cases l with
  | query t =>
      obtain rfl := Option.some.inj h
      rfl
  | place p =>
      cases p with
      | slot v =>
          obtain rfl := Option.some.inj h
          rfl
      | char c =>
          have hchar : nestChar quote quoted depth c = some after := h
          rw [read]
          split
          · rename_i hpart
            obtain ⟨rfl, hpart⟩ : quoted = none ∧ isIdentifierPart c = true := hpart
            have hopens := opensQuote_of_ordinary hq (isOrdinary_of_isIdentifierPart hpart)
            rw [nestChar_of_bare (fun heq => absurd (heq ▸ hpart) (by decide))
              (fun heq => absurd (heq ▸ hpart) (by decide)), Placeholder.step, hopens] at hchar
            obtain rfl := Option.some.inj hchar
            rfl
          · rw [endWord_of_depth rfl]
            exact congrArg keepWord (readMark_of_nestChar htest hchar)

/-- **Inside of parentheses everything is kept up to the one that closes them.** -/
theorem keepWord_run (hq : Delimiter quote) {s : Scanner} {letters : List Letter}
    {inside after : Scan × Nat} (h : nestAll quote inside letters = some after)
    (hquoted : s.quoted = inside.1) (hdepth : s.depth = inside.2 + 1)
    (htest : s.keepWord.test ≠ []) :
    (run quote s letters).keepWord =
      { s.keepWord with
        quoted := after.1, depth := after.2 + 1
        test := letters.reverse ++ s.keepWord.test } := by
  induction letters generalizing s inside with
  | nil =>
      obtain rfl := Option.some.inj h
      rw [← hquoted, ← hdepth]
      rfl
  | cons l letters ih =>
      rw [nestAll, List.foldlM_cons] at h
      obtain ⟨middle, hl, hletters⟩ := Option.bind_eq_some_iff.1 h
      have hread := keepWord_read hq hl hquoted hdepth htest
      have hrest := ih (s := read quote s l) hletters (congrArg quoted hread)
        (congrArg Scanner.depth hread) (by rw [hread]; exact List.cons_ne_nil _ _)
      rw [run_cons, hrest, hread, List.reverse_cons, List.append_assoc]
      rfl

/-! ### Inside of a predicate -/

/-- A predicate was begun, and outside of parentheses and quotes the letters of it were read. -/
def Within (s : Scanner) (between : Bool) (letters : List Letter) (tokens : List Token) : Prop :=
  s.endWord = { between := between, test := letters.reverse, tokens := tokens }

variable {s : Scanner} {between : Bool} {letters : List Letter} {tokens : List Token}

theorem run_endWord (s : Scanner) {c : Char} (h : isIdentifierPart c = false)
    (letters : List Letter) :
    run quote s (.place (.char c) :: letters) =
      run quote s.endWord (.place (.char c) :: letters) := by
  have hread : ∀ r : Scanner, read quote r (.place (.char c)) = r.endWord.readMark quote c :=
    fun r => by rw [read, if_neg fun hpart => absurd (h ▸ hpart.2) Bool.false_ne_true]
  rw [run_cons, run_cons, hread, hread, endWord_of_word (word_endWord s)]

/-- A predicate that does not end with a blank ends where it is read to its end. -/
theorem Within.ends (h : s.Within false letters tokens) {l : Letter}
    (hlast : letters.getLast? = some l) (hl : l.isBlank = false) :
    s.Ends (.test letters :: tokens) := by
  obtain ⟨front, rfl⟩ := List.getLast?_eq_some_iff.1 hlast
  have hend : s.endWord = _ := h
  rw [List.reverse_append] at hend
  rw [Ends, hend, endTest]
  simp only [List.reverse_singleton, List.singleton_append, List.dropWhile_cons, hl]
  rw [if_neg Bool.false_ne_true]
  simp

/-- What is read next starts from what was read, if its first character belongs to no word. -/
theorem Within.run_eq (h : s.Within between letters tokens) {c : Char}
    (hc : isIdentifierPart c = false) (next : List Letter) :
    run quote s (.place (.char c) :: next) =
      run quote { between := between, test := letters.reverse, tokens := tokens }
        (.place (.char c) :: next) := by
  have hend : s.endWord = _ := h
  rw [run_endWord s hc, hend]

theorem Within.value (h : s.Within between letters tokens) (v : Value) :
    (run quote s (ofBound (.ofValue v))).Within between (letters ++ ofBound (.ofValue v))
      tokens := by
  have hend : s.endWord = _ := h
  have hread : run quote s (ofBound (.ofValue v)) = s.endWord.push (.place (.slot v)) := rfl
  rw [Within, hread, hend, List.reverse_append]
  rfl

/-- What stands between parentheses belongs to the predicate. -/
theorem Within.parens (hq : Delimiter quote) (h : s.Within between letters tokens)
    (hne : letters ≠ []) {inner : List Letter} (hinner : Balanced quote inner) :
    (run quote s (ofText "(" ++ inner ++ ofText ")")).Within between
      (letters ++ (ofText "(" ++ inner ++ ofText ")")) tokens := by
  have hopen : run quote s (ofText "(") =
      { depth := 1, between := between, test := .place (.char '(') :: letters.reverse
        tokens := tokens } := by
    obtain ⟨l, rest, hreverse⟩ := List.exists_cons_of_ne_nil (mt List.reverse_eq_nil_iff.1 hne)
    have hsplit : ofText "(" = [.place (.char '(')] := rfl
    rw [hsplit, h.run_eq (by decide), hreverse]
    rfl
  have hkept := keepWord_run hq hinner (s := run quote s (ofText "("))
    (congrArg Scanner.quoted hopen) (congrArg Scanner.depth hopen)
    (by rw [hopen]; exact List.cons_ne_nil _ _)
  rw [← run_append, hopen] at hkept
  rw [run_append]
  generalize run quote s (ofText "(" ++ inner) = r at hkept ⊢
  have hdepth : r.depth = 1 := congrArg Scanner.depth hkept
  have hread : run quote r (ofText ")") = r.keepWord.readMark quote ')' := by
    rw [← endWord_of_depth hdepth]
    exact if_neg fun hpart => absurd hpart.2 (by decide)
  rw [hread, hkept, Within, List.reverse_append, List.reverse_append, List.reverse_append,
    List.append_assoc, List.append_assoc]
  rfl

/-! ### Words of a predicate -/

theorem ofText_ofList (cs : List Char) :
    ofText (String.ofList cs) = cs.map fun c => .place (.char c) := by
  rw [ofText, BoundText.ofText, String.toList_ofList, ofBound, List.map_map]
  rfl

/-- Whether the AND of a BETWEEN is to come after a word of a predicate; none if the word ends the
predicate. -/
def afterWord (between : Bool) (word : List Char) : Option Bool :=
  match keyword? word with
  | none => some between
  | some .between => some true
  | some (.connector .and) => if between then some false else none
  | some (.connector .or) => none

/-- Whether the AND of a BETWEEN is to come after characters of a predicate, of whose current word
the letters were read (the last one first); none if a word ends the predicate, or for a quote or a
parenthesis. -/
def afterPlain (between : Bool) (word : List Char) : List Char → Option Bool
  | [] => afterWord between word.reverse
  | c :: cs =>
    if isIdentifierPart c then afterPlain between (c :: word) cs
    else if isOrdinary c && c != '(' && c != ')' then
      (afterWord between word.reverse).bind fun after => afterPlain after [] cs
    else none

theorem endWord_of_afterWord {after : Bool} (hdepth : s.depth = 0)
    (h : afterWord s.between s.word.reverse = some after) :
    s.endWord = { s.keepWord with between := after } := by
  obtain ⟨quoted, _, between, word, test, tokens⟩ := s
  obtain rfl := hdepth
  unfold afterWord at h
  unfold endWord
  simp only at h ⊢
  split at h
  · rename_i hword
    obtain rfl := Option.some.inj h
    rw [hword]
    rfl
  · rename_i hword
    obtain rfl := Option.some.inj h
    rw [hword]
    rfl
  · rename_i hword
    rw [hword]
    simp only
    split at h
    · rename_i hbetween
      obtain rfl := Option.some.inj h
      rw [if_pos hbetween]
    · exact absurd h.symm (Option.some_ne_none _)
  · exact absurd h.symm (Option.some_ne_none _)

/-- Characters that do not end the predicate are kept, its first one included if a word begins with
it. -/
theorem endWord_of_afterPlain (hq : Delimiter quote) {cs : List Char} {after : Bool}
    (h : afterPlain s.between s.word cs = some after) (hquoted : s.quoted = none)
    (hdepth : s.depth = 0)
    (hfirst : s.keepWord.test = [] → cs.head?.all isIdentifierPart = true) :
    (run quote s (cs.map fun c => .place (.char c))).endWord =
      { s.keepWord with
        between := after
        test := (cs.map fun c => .place (.char c)).reverse ++ s.keepWord.test } := by
  induction cs generalizing s with
  | nil => exact endWord_of_afterWord hdepth h
  | cons c cs ih =>
      rw [afterPlain] at h
      rw [List.map_cons, run_cons, List.reverse_cons, List.append_assoc]
      split at h
      · rename_i hpart
        have hread : read quote s (.place (.char c)) = { s with word := c :: s.word } :=
          if_pos ⟨hquoted, hpart⟩
        rw [hread]
        exact ih (s := { s with word := c :: s.word }) h hquoted hdepth
          fun hnil => absurd hnil (List.cons_ne_nil _ _)
      · rename_i hpart
        -- Without a predicate to belong to, a blank would be skipped.
        have htest : s.keepWord.test ≠ [] := fun hnil => hpart (hfirst hnil)
        split at h
        · rename_i hc
          rw [Bool.and_eq_true, Bool.and_eq_true, bne_iff_ne, bne_iff_ne] at hc
          obtain ⟨⟨hordinary, hopen⟩, hclose⟩ := hc
          obtain ⟨middle, hmiddle, hrest⟩ := Option.bind_eq_some_iff.1 h
          have hstep : step (opensQuote quote) none c = none := by
            rw [step, opensQuote_of_ordinary hq hordinary, if_neg Bool.false_ne_true]
          have hkept : s.keepWord.quoted = none := hquoted
          have hread : read quote s (.place (.char c)) =
              { s.keepWord with
                between := middle, test := .place (.char c) :: s.keepWord.test } := by
            rw [read, if_neg fun hident => hpart hident.2, endWord_of_afterWord hdepth hmiddle,
              readMark, if_neg fun h => hopen h.2, if_neg fun h => hclose h.2,
              if_neg fun h => htest h.2.2]
            simp only
            rw [hkept, hstep]
            rfl
          rw [hread]
          exact ih (s := { s.keepWord with
            between := middle, test := .place (.char c) :: s.keepWord.test }) hrest hquoted hdepth
            fun hnil => absurd hnil (List.cons_ne_nil _ _)
        · exact absurd h.symm (Option.some_ne_none _)

/-- A text that begins with a word begins a predicate. -/
theorem within_of_afterPlain (hq : Delimiter quote) {text : String} {after : Bool}
    (h : afterPlain false [] text.toList = some after)
    (hfirst : text.toList.head?.all isIdentifierPart = true) (tokens : List Token) :
    (run quote { tokens := tokens } (ofText text)).Within after (ofText text) tokens := by
  have hend := endWord_of_afterPlain hq (s := { tokens := tokens }) h rfl rfl fun _ => hfirst
  rw [← ofText_ofList, String.ofList_toList] at hend
  rw [Within, hend, keepWord, List.map_nil, List.append_nil, List.append_nil]

/-- A text that begins with a blank belongs to the predicate. -/
theorem Within.plain (hq : Delimiter quote) (h : s.Within between letters tokens)
    (hne : letters ≠ []) {text : String} {after : Bool} (hblank : text.toList.head? = some ' ')
    (htext : afterPlain between [] text.toList = some after) :
    (run quote s (ofText text)).Within after (letters ++ ofText text) tokens := by
  obtain ⟨rest, hrest⟩ := List.head?_eq_some_iff.1 hblank
  have hletters : ofText text = .place (.char ' ') :: rest.map fun c => .place (.char c) := by
    rw [← String.ofList_toList (s := text), ofText_ofList, hrest]
    rfl
  have hend := endWord_of_afterPlain hq
    (s := { between := between, test := letters.reverse, tokens := tokens }) htext rfl rfl
    fun hnil => absurd (List.reverse_eq_nil_iff.1 hnil) hne
  rw [← ofText_ofList, String.ofList_toList] at hend
  rw [Within, List.reverse_append, hletters, h.run_eq (by decide), ← hletters, hend]
  rfl

theorem Within.operator (hq : Delimiter quote) (h : s.Within false letters tokens)
    (hne : letters ≠ []) (op : Operator) :
    (run quote s (ofText (" " ++ op.sql ++ " "))).Within (op == .between)
      (letters ++ ofText (" " ++ op.sql ++ " ")) tokens :=
  h.plain hq hne (by cases op <;> rfl) (by cases op <;> decide)

theorem Within.nullTest (hq : Delimiter quote) (h : s.Within false letters tokens)
    (hne : letters ≠ []) (notNull : Bool) :
    (run quote s (ofText (" " ++ (Condition.nullOperator notNull).sql ++ " NULL"))).Within false
      (letters ++ ofText (" " ++ (Condition.nullOperator notNull).sql ++ " NULL")) tokens :=
  h.plain hq hne (by cases notNull <;> rfl) (by cases notNull <;> decide)

/-- The AND of a BETWEEN is no connector. -/
theorem Within.and (hq : Delimiter quote) (h : s.Within true letters tokens) (hne : letters ≠ []) :
    (run quote s (ofText " AND ")).Within false (letters ++ ofText " AND ") tokens :=
  h.plain hq hne rfl (by decide)

/-! ### Texts without parentheses -/

/-- A text without parentheses. -/
def IsBare (t : BoundText) : Prop :=
  ∀ c, .char c ∈ t → c ≠ '(' ∧ c ≠ ')'

theorem IsBare.append {a b : BoundText} (ha : IsBare a) (hb : IsBare b) : IsBare (a ++ b) := by
  intro c hc
  rcases List.mem_append.1 hc with hc | hc
  · exact ha c hc
  · exact hb c hc

theorem isBare_ofText {text : String} (h : ∀ c ∈ text.toList, c ≠ '(' ∧ c ≠ ')') :
    IsBare (.ofText text) := by
  intro c hc
  obtain ⟨d, hd, hdc⟩ := List.mem_map.1 hc
  exact Place.char.inj hdc ▸ h d hd

theorem isBare_ofValue (v : Value) : IsBare (.ofValue v) := by
  intro c hc
  exact nomatch List.mem_singleton.1 hc

theorem isBare_comma : IsBare (.ofText ", ") := by
  refine isBare_ofText fun c hc => ?_
  have hchars : c = ',' ∨ c = ' ' := by
    rcases List.mem_cons.1 hc with hc | hc
    · exact .inl hc
    · exact .inr (List.mem_singleton.1 hc)
  rcases hchars with rfl | rfl <;> decide

theorem isBare_ofValues (vs : List Value) : IsBare (.ofValues vs) := by
  have htail : ∀ vs : List Value, IsBare (.eachAfter ", " (vs.map .ofValue)) := by
    intro vs
    induction vs with
    | nil => exact fun c hc => absurd hc List.not_mem_nil
    | cons v vs ih => exact (isBare_comma.append (isBare_ofValue v)).append ih
  cases vs with
  | nil => exact fun c hc => absurd hc List.not_mem_nil
  | cons v vs => exact (isBare_ofValue v).append (htail vs)

theorem nestAll_append (inside : Scan × Nat) (a b : List Letter) :
    nestAll quote inside (a ++ b) = (nestAll quote inside a).bind (nestAll quote · b) :=
  List.foldlM_append

theorem nestAll_of_reads {state final : Scan} {t : BoundText} (depth : Nat)
    (h : BoundText.Reads quote state t final) (hbare : IsBare t) :
    nestAll quote (state, depth) (ofBound t) = some (final, depth) := by
  induction t generalizing state with
  | nil =>
      obtain rfl : final = state := h
      rfl
  | cons place t ih =>
      have hrest : IsBare t := fun c hc => hbare c (List.mem_cons_of_mem _ hc)
      cases place with
      | char c =>
          obtain ⟨hopen, hclose⟩ := hbare c List.mem_cons_self
          have hstep : nest quote (state, depth) (.place (.char c)) =
              some (step (opensQuote quote) state c, depth) := nestChar_of_bare hopen hclose
          rw [ofBound, List.map_cons, nestAll, List.foldlM_cons, hstep]
          exact ih h.2 hrest
      | slot v =>
          obtain ⟨rfl, hreads⟩ : state = none ∧ _ := h
          exact ih hreads hrest

theorem nestAll_of_tight {t : BoundText} (depth : Nat) (h : t.Tight quote) (hbare : IsBare t) :
    nestAll quote (none, depth) (ofBound t) = some (none, depth) :=
  nestAll_of_reads depth h.reads hbare

theorem balanced_of_tight {t : BoundText} (h : t.Tight quote) (hbare : IsBare t) :
    Balanced quote (ofBound t) :=
  nestAll_of_tight 0 h hbare

/-! ### Columns -/

theorem isBare_column {q : Quoting} (hq : Delimiter q.quote) {name : String}
    (h : isPlain name = true) : IsBare (.ofText (q.column name)) := by
  refine isBare_ofText fun c hc => ?_
  have hclass : c = q.quote ∨ isIdentifierPart c = true := by
    by_cases hquote : c = q.quote
    · exact .inl hquote
    · have hmem : c ∈ (q.unwrap (q.column name)).toList := by
        rw [Quoting.unwrap, String.toList_ofList, List.mem_filter]
        exact ⟨hc, bne_iff_ne.2 hquote⟩
      rw [q.unwrap_column, Quoting.unwrap, String.toList_ofList, List.mem_filter] at hmem
      exact .inr (isIdentifierPart_of_isPlain h c hmem.1)
  rcases hclass with rfl | hpart
  · rcases hq with hq | hq <;> rw [hq] <;> decide
  · exact ⟨fun heq => absurd (heq ▸ hpart) (by decide),
      fun heq => absurd (heq ▸ hpart) (by decide)⟩

/-- Letters that belong to a predicate wherever they are read outside of quotes, and that leave no
words but dots. -/
def Spells (quote : Char) (letters : List Letter) : Prop :=
  ∀ s : Scanner, s.quoted = none → (∀ c ∈ s.word, c = '.') →
    (∀ c ∈ (run quote s letters).word, c = '.') ∧
      (run quote s letters).keepWord =
        { s.keepWord with test := letters.reverse ++ s.keepWord.test }

theorem Spells.append {a b : List Letter} (ha : Spells quote a) (hb : Spells quote b) :
    Spells quote (a ++ b) := by
  intro s hquoted hword
  obtain ⟨haword, hakept⟩ := ha s hquoted hword
  have haquoted : (run quote s a).quoted = none :=
    (congrArg Scanner.quoted hakept).trans hquoted
  obtain ⟨hbword, hbkept⟩ := hb (run quote s a) haquoted haword
  rw [run_append]
  refine ⟨hbword, ?_⟩
  rw [hbkept, hakept, List.reverse_append, List.append_assoc]

theorem spells_nil : Spells quote [] :=
  fun _ _ hword => ⟨hword, rfl⟩

theorem spells_dot : Spells quote [.place (.char '.')] := by
  intro s hquoted hword
  have hread : run quote s [.place (.char '.')] = { s with word := '.' :: s.word } :=
    if_pos ⟨hquoted, by decide⟩
  rw [hread]
  refine ⟨fun c hc => ?_, rfl⟩
  rcases List.mem_cons.1 hc with rfl | hc
  · rfl
  · exact hword c hc

theorem keyword?_of_dots {word : List Char} (h : ∀ c ∈ word, c = '.') : keyword? word = none := by
  obtain ⟨n, rfl⟩ : ∃ n, word = List.replicate n '.' :=
    ⟨word.length, List.eq_replicate_of_mem h⟩
  cases n with
  | zero => rfl
  | succ n => rfl

theorem endWord_of_keyword? {s : Scanner} (h : keyword? s.word.reverse = none) :
    s.endWord = s.keepWord := by
  unfold endWord
  rw [h]
  split <;> first | rfl | contradiction

/-- Inside of quotes every character is kept up to the quote that closes them. -/
theorem run_quoted {opened : Char} (hquoted : s.quoted = some opened) (hword : s.word = [])
    {cs : List Char} (h : ∀ c ∈ cs, c ≠ opened) :
    run quote s (ofText (String.ofList cs)) =
      { s with test := (ofText (String.ofList cs)).reverse ++ s.test } := by
  rw [ofText_ofList]
  induction cs generalizing s with
  | nil => rfl
  | cons c cs ih =>
      have hne : s.quoted ≠ none := by
        rw [hquoted]
        exact nofun
      have hread : read quote s (.place (.char c)) =
          { s with test := .place (.char c) :: s.test } := by
        rw [read, if_neg fun hpart => hne hpart.1, endWord_of_word hword, readMark,
          if_neg fun hopen => hne hopen.1, if_neg fun hclose => hne hclose.1,
          if_neg fun hskip => hne hskip.1, hquoted, Placeholder.step,
          if_neg (h c List.mem_cons_self), ← hquoted]
        rfl
      rw [List.map_cons, run_cons, hread,
        ih (s := { s with test := .place (.char c) :: s.test }) hquoted hword
          fun d hd => h d (List.mem_cons_of_mem _ hd),
        List.reverse_cons, List.append_assoc]
      rfl

theorem keepWord_of_word (hword : s.word = []) : s.keepWord = s := by
  obtain ⟨quoted, depth, between, _, test, tokens⟩ := s
  obtain rfl := hword
  rfl

theorem isIdentifierPart_quote (hq : Delimiter quote) : isIdentifierPart quote = false := by
  rcases hq with rfl | rfl <;> rfl

theorem read_opening_quote (hq : Delimiter quote) (hquoted : s.quoted = none)
    (hword : ∀ c ∈ s.word, c = '.') :
    read quote s (.place (.char quote)) =
      { s.keepWord with
        quoted := some quote, test := .place (.char quote) :: s.keepWord.test } := by
  have hkeep : s.endWord = s.keepWord :=
    endWord_of_keyword? (keyword?_of_dots fun c hc => hword c (List.mem_reverse.1 hc))
  have hparens : quote ≠ '(' ∧ quote ≠ ')' ∧ Text.isBlank quote ≠ true := by
    rcases hq with rfl | rfl <;> decide
  have hstep : step (opensQuote quote) none quote = some quote := by
    simp [step, opensQuote]
  have hkept : s.keepWord.quoted = none := hquoted
  rw [read, if_neg fun hpart => absurd (isIdentifierPart_quote hq ▸ hpart.2) Bool.false_ne_true,
    hkeep, readMark, if_neg fun hopen => hparens.1 hopen.2,
    if_neg fun hclose => hparens.2.1 hclose.2, if_neg fun hskip => hparens.2.2 hskip.2.1, hkept,
    hstep]
  rfl

theorem read_closing_quote (hquoted : s.quoted = some quote) (hword : s.word = []) :
    read quote s (.place (.char quote)) =
      { s with quoted := none, test := .place (.char quote) :: s.test } := by
  have hne : s.quoted ≠ none := by
    rw [hquoted]
    exact nofun
  have hstep : step (opensQuote quote) (some quote) quote = none := by
    simp [step]
  rw [read, if_neg fun hpart => hne hpart.1, endWord_of_word hword, readMark,
    if_neg fun hopen => hne hopen.1, if_neg fun hclose => hne hclose.1,
    if_neg fun hskip => hne hskip.1, hquoted, hstep]
  rfl

theorem spells_segment {q : Quoting} (hq : Delimiter q.quote) {cs : List Char}
    (h : ∀ c ∈ cs, isIdentifierPart c = true) :
    Spells q.quote (ofText (String.ofList (q.segment cs))) := by
  unfold Quoting.segment
  split
  · exact spells_nil
  · intro s hquoted hword
    have hcs : ∀ c ∈ cs, c ≠ q.quote := by
      rintro c hc rfl
      exact absurd (isIdentifierPart_quote hq ▸ h _ hc) Bool.false_ne_true
    have hsplit : ofText (String.ofList (q.quote :: cs ++ [q.quote])) =
        Letter.place (.char q.quote) ::
          (ofText (String.ofList cs) ++ [Letter.place (.char q.quote)]) := by
      rw [ofText_ofList, ofText_ofList, List.map_append, List.map_cons]
      rfl
    have hrun : run q.quote s (ofText (String.ofList (q.quote :: cs ++ [q.quote]))) =
        { s.keepWord with
          test := (ofText (String.ofList (q.quote :: cs ++ [q.quote]))).reverse ++
            s.keepWord.test } := by
      rw [hsplit, run_cons, read_opening_quote hq hquoted hword, run_append,
        run_quoted (s := { s.keepWord with
          quoted := some q.quote, test := .place (.char q.quote) :: s.keepWord.test }) rfl rfl hcs,
        run_cons, read_closing_quote rfl rfl, List.reverse_cons, List.reverse_append,
        List.append_assoc, ← show s.keepWord.quoted = none from hquoted]
      rfl
    rw [hrun]
    exact ⟨fun c hc => absurd hc List.not_mem_nil, keepWord_of_word rfl⟩

theorem spells_intercalate {pieces : List (List Char)}
    (h : ∀ piece ∈ pieces, Spells quote (ofText (String.ofList piece))) :
    Spells quote (ofText (String.ofList (List.intercalate ['.'] pieces))) := by
  induction pieces with
  | nil => exact spells_nil
  | cons first pieces ih =>
      have hfirst := h first List.mem_cons_self
      cases pieces with
      | nil =>
          rw [List.intercalate_singleton]
          exact hfirst
      | cons second pieces =>
          have hrest := ih fun piece hp => h piece (List.mem_cons_of_mem _ hp)
          have hdot : Spells quote (ofText (String.ofList ['.'])) := spells_dot
          rw [List.intercalate_cons_cons, String.ofList_append, String.ofList_append,
            ofText_append, ofText_append]
          exact (hfirst.append hdot).append hrest

theorem spells_column {q : Quoting} (hq : Delimiter q.quote) {name : String}
    (h : isPlain name = true) : Spells q.quote (ofText (q.column name)) := by
  rw [Quoting.column, if_pos h]
  refine spells_intercalate fun piece hp => ?_
  obtain ⟨cs, hcs, rfl⟩ := List.mem_map.1 hp
  exact spells_segment hq fun c hc => isIdentifierPart_of_isPlain h c (mem_of_mem_splitOn hcs hc)

theorem afterPlain_of_isIdentifierPart {cs : List Char}
    (h : ∀ c ∈ cs, isIdentifierPart c = true) (word : List Char) :
    afterPlain between word cs = afterWord between (word.reverse ++ cs) := by
  induction cs generalizing word with
  | nil => rw [afterPlain, List.append_nil]
  | cons c cs ih =>
      rw [afterPlain, if_pos (h c List.mem_cons_self),
        ih (fun d hd => h d (List.mem_cons_of_mem _ hd)), List.reverse_cons, List.append_assoc]
      rfl

/-- A column begins a predicate. -/
theorem within_column {q : Quoting} (hq : Delimiter q.quote) {c : ColumnRef} (h : c.IsLegible)
    (tokens : List Token) :
    (run q.quote { tokens := tokens } (ofText (c.sql q))).Within false (ofText (c.sql q))
      tokens := by
  unfold ColumnRef.sql
  split
  · -- Without quotes the mark is read as a word.
    rename_i hraw
    have hparts := isIdentifierPart_of_isPlain h.plain
    have hafter : afterPlain false [] c.name.toList = some false := by
      rw [afterPlain_of_isIdentifierPart hparts, afterWord, List.reverse_nil, List.nil_append,
        h.raw hraw]
    have hfirst : c.name.toList.head?.all isIdentifierPart = true :=
      (Option.all_eq_true _ _).2 fun d hd => hparts d (List.mem_of_head? hd)
    exact within_of_afterPlain hq hafter hfirst tokens
  · obtain ⟨hdots, hkept⟩ := spells_column hq h.plain { tokens := tokens } rfl
      fun c hc => absurd hc List.not_mem_nil
    have hend : (run q.quote { tokens := tokens } (ofText (q.column c.name))).keepWord =
        { test := (ofText (q.column c.name)).reverse ++ [], tokens := tokens } := hkept
    rw [Within, endWord_of_keyword? (keyword?_of_dots fun c hc => hdots c (List.mem_reverse.1 hc)),
      hend, List.append_nil]

/-- A plain identifier has no quotes. -/
theorem unwrap_of_isPlain {q : Quoting} (hq : Delimiter q.quote) {name : String}
    (h : isPlain name = true) : q.unwrap name = name := by
  have hquotes : ∀ c ∈ name.toList, (c != q.quote) = true := by
    intro c hc
    refine bne_iff_ne.2 ?_
    rintro rfl
    exact absurd (isIdentifierPart_quote hq ▸ isIdentifierPart_of_isPlain h _ hc)
      Bool.false_ne_true
  rw [Quoting.unwrap, List.filter_eq_self.2 hquotes, String.ofList_toList]

theorem column_ne_nil {q : Quoting} (hq : Delimiter q.quote) {c : ColumnRef} (h : c.IsLegible) :
    ofText (c.sql q) ≠ [] := by
  intro hnil
  have hsql : (c.sql q).toList = [] := List.map_eq_nil_iff.1 (List.map_eq_nil_iff.1 hnil)
  have hname := q.unwrap_columnRef c
  rw [unwrap_of_isPlain hq h.plain, Quoting.unwrap, hsql] at hname
  have hplain := h.plain
  rw [← hname] at hplain
  exact Bool.false_ne_true hplain

/-- A predicate is read as one where it ends outside of parentheses and not with a blank. -/
theorem legible_append {a last : List Letter} {l : Letter} (hlast : last.getLast? = some l)
    (hl : l.isBlank = false)
    (h : ∀ tokens, (run quote { tokens := tokens } (a ++ last)).Within false (a ++ last) tokens) :
    Legible quote (a ++ last) := by
  intro tokens
  refine (h tokens).ends ?_ hl
  rw [List.getLast?_append, hlast]
  rfl

end Scanner
end EntityQuery

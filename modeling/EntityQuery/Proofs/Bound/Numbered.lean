/-
# Numbered placeholders

The PostgreSQL connection writes the placeholders of a text as numbers and keeps
the rest.  `Placeholder.IsNumbering` says so by position: the placeholders are
the question marks in front of which no quote is open, the `k`-th of them is
written `$k`, and every other character stands for itself (`writtenChar`).

What is written in place of a placeholder is ordinary to the scanner, so it
comes out of the numbered text in the same state (`countFrom_numberFrom`): no
placeholder is left, and numbering the text again changes nothing.  A reader of
`$` numerals finds the numbers from one on if and only if the text brings no numeral
of its own after a dollar sign or a placeholder, which is kept like any other
character (`parametersFrom_numberFrom_iff`).

A statement that compiles has as many values as its text has placeholders, so
what is handed to the server are the numbers of the values (`compile_numbered`).
Clauses that are given as text may bring numerals of their own
(`compile_numbered_own_numeral`).
-/

import EntityQuery.Postgres.Server
import EntityQuery.Proofs.Bound.Text
import EntityQuery.Proofs.Built.Accepted
import EntityQuery.Proofs.Quiet.Identifier

namespace EntityQuery
namespace Placeholder

variable {opens : Char → Bool}

/-! ### The placeholders of a text -/

theorem length_positionsFrom (state : Scan) (n : Nat) (cs : List Char) :
    (positionsFrom opens state n cs).length = countFrom opens state cs := by
  induction cs generalizing state n with
  | nil => rfl
  | cons c cs ih =>
      rw [positionsFrom, countFrom]
      split
      · rw [List.length_cons, ih, Nat.add_comm]
      · rw [ih, Nat.zero_add]

theorem le_of_mem_positionsFrom {state : Scan} {n i : Nat} {cs : List Char}
    (h : i ∈ positionsFrom opens state n cs) : n ≤ i := by
  induction cs generalizing state n with
  | nil => exact absurd h List.not_mem_nil
  | cons c cs ih =>
      rw [positionsFrom] at h
      split at h
      · rcases List.mem_cons.1 h with rfl | h
        · exact Nat.le_refl i
        · exact Nat.le_of_succ_le (ih h)
      · exact Nat.le_of_succ_le (ih h)

theorem pairwise_positionsFrom (state : Scan) (n : Nat) (cs : List Char) :
    (positionsFrom opens state n cs).Pairwise (· < ·) := by
  induction cs generalizing state n with
  | nil => exact List.Pairwise.nil
  | cons c cs ih =>
      rw [positionsFrom]
      split
      · exact List.Pairwise.cons (fun _ h => le_of_mem_positionsFrom h) (ih _ _)
      · exact ih _ _

/-- The placeholders are the marks met on the way. -/
theorem mem_positionsFrom {state : Scan} {n j : Nat} {cs : List Char} :
    n + j ∈ positionsFrom opens state n cs ↔
      ∃ c, cs[j]? = some c ∧ isMark opens (run opens state (cs.take j)) c = true := by
  induction cs generalizing state n j with
  | nil => simp [positionsFrom]
  | cons c cs ih =>
      have hlater : n ∉ positionsFrom opens (step opens state c) (n + 1) cs := fun h =>
        absurd (le_of_mem_positionsFrom h) (Nat.not_succ_le_self n)
      cases j with
      | zero =>
          rw [positionsFrom]
          split
          · rename_i hmark
            simpa [run] using hmark
          · rename_i hmark
            simpa [run, hmark] using hlater
      | succ j =>
          have hne : n + (j + 1) ≠ n := by omega
          have hadd : n + (j + 1) = n + 1 + j := by omega
          rw [List.getElem?_cons_succ, List.take_succ_cons, run_cons, ← ih, ← hadd, positionsFrom]
          split
          · exact ⟨fun h => (List.mem_cons.1 h).resolve_left hne, List.mem_cons_of_mem _⟩
          · exact Iff.rfl

theorem isMark_iff {quote : Char} (hq : Delimiter quote) {state : Scan} {c : Char} :
    isMark (opensQuote quote) state c = true ↔ c = '?' ∧ state = none := by
  constructor
  · intro hmark
    refine ⟨eq_of_isMark hmark, ?_⟩
    cases state with
    | none => rfl
    | some q => exact absurd hmark Bool.false_ne_true
  · rintro ⟨rfl, rfl⟩
    rcases hq with rfl | rfl <;> rfl

/-- **A placeholder is a question mark in front of which no quote is open.** -/
theorem mem_positions_iff {quote : Char} (hq : Delimiter quote) {sql : String} {i : Nat} :
    i ∈ positions quote sql ↔
      sql.toList[i]? = some '?' ∧ run (opensQuote quote) none (sql.toList.take i) = none := by
  have hmem := @mem_positionsFrom (opensQuote quote) none 0 i sql.toList
  rw [Nat.zero_add] at hmem
  rw [positions, hmem]
  constructor
  · rintro ⟨c, hc, hmark⟩
    obtain ⟨rfl, hstate⟩ := (isMark_iff hq).1 hmark
    exact ⟨hc, hstate⟩
  · rintro ⟨hc, hstate⟩
    exact ⟨'?', hc, (isMark_iff hq).2 ⟨rfl, hstate⟩⟩

/-! ### What is written -/

/-- The characters written for the one at a position, given the positions of the placeholders: its
number for a placeholder, counted from one, and every other character itself. -/
def writtenChar (marks : List Nat) : Char × Nat → List Char
  | (c, i) => if i ∈ marks then '$' :: Text.decimal (marks.idxOf i + 1) else [c]

/-- The numbered text by position; `before` are the placeholders in front of it. -/
theorem numberFrom_eq_flatMap (state : Scan) {before : List Nat} {n : Nat} (cs : List Char)
    (hbefore : ∀ i ∈ before, i < n) :
    numberFrom opens state before.length cs =
      (cs.zipIdx n).flatMap (writtenChar (before ++ positionsFrom opens state n cs)) := by
  induction cs generalizing state before n with
  | nil => rfl
  | cons c cs ih =>
      have hnot : n ∉ before := fun h => Nat.lt_irrefl n (hbefore n h)
      rw [numberFrom, positionsFrom, List.zipIdx_cons, List.flatMap_cons]
      split
      · have hidx : (before ++ n :: positionsFrom opens (step opens state c) (n + 1) cs).idxOf n =
            before.length := by
          rw [List.idxOf_append, if_neg hnot, List.idxOf_cons_self, Nat.zero_add]
        have hnext : ∀ i ∈ before ++ [n], i < n + 1 := by
          intro i hi
          rcases List.mem_append.1 hi with hi | hi
          · exact Nat.lt_succ_of_lt (hbefore i hi)
          · rw [List.mem_singleton.1 hi]
            exact Nat.lt_succ_self n
        have hrest := ih (step opens state c) hnext
        rw [List.length_append, List.length_singleton, List.append_assoc] at hrest
        rw [hrest, writtenChar, if_pos (by simp), hidx]
        rfl
      · have hlater : n ∉ positionsFrom opens (step opens state c) (n + 1) cs := fun h =>
          absurd (le_of_mem_positionsFrom h) (Nat.not_succ_le_self n)
        rw [ih (step opens state c) fun i hi => Nat.lt_succ_of_lt (hbefore i hi), writtenChar,
          if_neg (by simp [hnot, hlater])]
        rfl

/-- The numbers written are those from one on. -/
theorem map_idxOf_of_pairwise {marks : List Nat} (h : marks.Pairwise (· < ·)) :
    marks.map (fun i => marks.idxOf i + 1) = List.range' 1 marks.length := by
  have hnodup : marks.Nodup := h.imp Nat.ne_of_lt
  refine List.ext_getElem (by simp) fun k hk hk' => ?_
  rw [List.getElem_map, List.getElem_range', hnodup.idxOf_getElem]
  omega

/-! ### Reading the numbered text -/

theorem isOrdinary_of_mem_number {n : Nat} {c : Char} (h : c ∈ '$' :: Text.decimal n) :
    isOrdinary c = true := by
  rcases List.mem_cons.1 h with rfl | h
  · decide
  · exact isOrdinary_of_mem_decimal h

/-- **No placeholder is left in a numbered text.** -/
theorem countFrom_numberFrom {quote : Char} (hq : Delimiter quote) {state : Scan}
    (hs : Known quote state) (n : Nat) (cs : List Char) :
    countFrom (opensQuote quote) state (numberFrom (opensQuote quote) state n cs) = 0 := by
  induction cs generalizing state n with
  | nil => rfl
  | cons c cs ih =>
      rw [numberFrom]
      split
      · rename_i hmark
        have hstep : step (opensQuote quote) state c = state := by
          obtain ⟨rfl, rfl⟩ := (isMark_iff hq).1 hmark
          exact BoundText.step_question hq
        rw [countFrom_append, countFrom_of_ordinary fun _ => isOrdinary_of_mem_number,
          run_of_ordinary hq hs fun _ => isOrdinary_of_mem_number, hstep, ih hs]
      · rename_i hmark
        rw [countFrom, if_neg hmark, ih (hs.step c)]

/-- A text without placeholders is not changed by numbering. -/
theorem numberFrom_of_countFrom_eq_zero {state : Scan} {n : Nat} {cs : List Char}
    (h : countFrom opens state cs = 0) : numberFrom opens state n cs = cs := by
  induction cs generalizing state with
  | nil => rfl
  | cons c cs ih =>
      rw [countFrom, Nat.add_eq_zero_iff] at h
      have hmark : ¬isMark opens state c = true := fun hmark => by
        rw [if_pos hmark] at h
        exact absurd h.1 Nat.one_ne_zero
      rw [numberFrom, if_neg hmark, ih h.2]

/-! ### Reading the parameters -/

/-- The numbers that stand after a dollar sign outside of quotes, in a text read from a state. -/
def parametersFrom (opens : Char → Bool) : Scan → List Char → List Nat
  | _, [] => []
  | state, c :: rest =>
    (if state = none ∧ c = '$' then (Text.digits? (rest.takeWhile Char.isDigit)).toList else []) ++
      parametersFrom opens (step opens state c) rest

/-- The numbers of the parameters in an SQL text. -/
def parameters (sql : String) : List Nat :=
  parametersFrom (opensQuote '\x22') none sql.toList

/-- Whether no digit follows directly upon a dollar sign or a placeholder outside of quotes. -/
def isUnnumberedFrom (opens : Char → Bool) : Scan → List Char → Bool
  | _, [] => true
  | state, c :: rest =>
    !(state.isNone && (c == '$' || isMark opens state c) && rest.head?.any Char.isDigit) &&
      isUnnumberedFrom opens (step opens state c) rest

/-- Whether an SQL text brings no numbers of its own into those of its placeholders. -/
def isUnnumbered (sql : String) : Bool :=
  isUnnumberedFrom (opensQuote '\x22') none sql.toList

theorem digitsFrom?_of_isDigit {acc : Nat} {cs : List Char} (h : ∀ c ∈ cs, c.isDigit = true) :
    Text.digitsFrom? acc cs = some (Nat.ofDigitChars 10 cs acc) := by
  induction cs generalizing acc with
  | nil => rfl
  | cons c cs ih =>
      rw [Text.digitsFrom?, Text.digit?, if_pos (h c List.mem_cons_self), Nat.ofDigitChars_cons]
      exact ih fun d hd => h d (List.mem_cons_of_mem c hd)

theorem digits?_of_isDigit {cs : List Char} (hne : cs ≠ []) (h : ∀ c ∈ cs, c.isDigit = true) :
    Text.digits? cs = some (Nat.ofDigitChars 10 cs 0) := by
  have hempty : cs.isEmpty = false := by
    rw [List.isEmpty_eq_false_iff]
    exact hne
  rw [Text.digits?, hempty, if_neg Bool.false_ne_true, digitsFrom?_of_isDigit h]

theorem le_ofDigitChars (acc : Nat) (cs : List Char) : acc ≤ Nat.ofDigitChars 10 cs acc := by
  induction cs generalizing acc with
  | nil => exact Nat.le_refl acc
  | cons c cs ih =>
      rw [Nat.ofDigitChars_cons]
      exact Nat.le_trans (by omega) (ih _)

/-- **The digits of a number and more digits read as another number.** -/
theorem digits?_decimal_append {n : Nat} {cs : List Char} (h : ∀ c ∈ cs, c.isDigit = true) :
    ∃ m, Text.digits? (Text.decimal (n + 1) ++ cs) = some m ∧ (m = n + 1 ↔ cs = []) := by
  have hdigits : ∀ c ∈ Text.decimal (n + 1) ++ cs, c.isDigit = true := fun c hc =>
    (List.mem_append.1 hc).elim isDigit_of_mem_decimal (h c)
  have hne : Text.decimal (n + 1) ++ cs ≠ [] :=
    List.append_ne_nil_of_left_ne_nil Nat.toDigits_ne_nil _
  refine ⟨_, digits?_of_isDigit hne hdigits, ?_⟩
  rw [Nat.ofDigitChars_append, Text.decimal, Nat.ofDigitChars_ten_toDigits]
  cases cs with
  | nil => exact ⟨fun _ => rfl, fun _ => rfl⟩
  | cons c cs =>
      have hle := le_ofDigitChars (10 * (n + 1) + (c.toNat - '0'.toNat)) cs
      rw [Nat.ofDigitChars_cons]
      exact ⟨fun heq => by omega, fun heq => absurd heq (List.cons_ne_nil c cs)⟩

/-- Numbering does not change whether a text begins with a digit. -/
theorem head?_numberFrom (state : Scan) (n : Nat) (cs : List Char) :
    (numberFrom opens state n cs).head?.any Char.isDigit = cs.head?.any Char.isDigit := by
  cases cs with
  | nil => rfl
  | cons c cs =>
      rw [numberFrom]
      split
      · rename_i hmark
        rw [eq_of_isMark hmark]
        rfl
      · rfl

theorem takeWhile_isDigit_eq_nil_iff {cs : List Char} :
    cs.takeWhile Char.isDigit = [] ↔ cs.head?.any Char.isDigit = false := by
  cases cs with
  | nil => exact ⟨fun _ => rfl, fun _ => rfl⟩
  | cons c cs =>
      cases hc : c.isDigit with
      | true => simp [hc]
      | false => simp [hc]

theorem isDigit_of_mem_takeWhile {cs : List Char} :
    ∀ c ∈ cs.takeWhile Char.isDigit, c.isDigit = true :=
  List.all_eq_true.1 List.all_takeWhile

/-- No parameter begins at a digit. -/
theorem parametersFrom_digits_append {quote : Char} (hq : Delimiter quote) {state : Scan}
    (hs : Known quote state) {digits : List Char} (h : ∀ c ∈ digits, c.isDigit = true)
    (cs : List Char) :
    parametersFrom (opensQuote quote) state (digits ++ cs) =
      parametersFrom (opensQuote quote) state cs := by
  induction digits with
  | nil => rfl
  | cons c digits ih =>
      have hc : c.isDigit = true := h c List.mem_cons_self
      have hne : c ≠ '$' := by
        rintro rfl
        exact absurd hc (by decide)
      rw [List.cons_append, parametersFrom, step_of_ordinary hq hs (isOrdinary_of_isDigit hc),
        if_neg fun hdollar => hne hdollar.2, List.nil_append]
      exact ih fun d hd => h d (List.mem_cons_of_mem c hd)

/-- What is written for a placeholder is read as one parameter, which is its number if and only if
no digit follows. -/
theorem exists_parametersFrom_number {quote : Char} (hq : Delimiter quote) (n : Nat)
    (cs : List Char) :
    ∃ m, parametersFrom (opensQuote quote) none ('$' :: Text.decimal (n + 1) ++ cs) =
        m :: parametersFrom (opensQuote quote) none cs ∧
      (m = n + 1 ↔ cs.head?.any Char.isDigit = false) := by
  obtain ⟨m, hm, hiff⟩ := @digits?_decimal_append n _ (@isDigit_of_mem_takeWhile cs)
  refine ⟨m, ?_, hiff.trans takeWhile_isDigit_eq_nil_iff⟩
  rw [List.cons_append, parametersFrom, if_pos ⟨rfl, rfl⟩,
    List.takeWhile_append_of_pos fun _ => isDigit_of_mem_decimal, hm,
    step_of_ordinary hq (known_none quote) (by decide),
    parametersFrom_digits_append hq (known_none quote) fun _ => isDigit_of_mem_decimal]
  rfl

/-- A numbered text has a parameter for each placeholder at least. -/
theorem countFrom_le_length_parametersFrom {quote : Char} (hq : Delimiter quote) {state : Scan}
    (hs : Known quote state) (n : Nat) (cs : List Char) :
    countFrom (opensQuote quote) state cs ≤
      (parametersFrom (opensQuote quote) state
        (numberFrom (opensQuote quote) state n cs)).length := by
  induction cs generalizing state n with
  | nil => exact Nat.zero_le _
  | cons c cs ih =>
      rw [numberFrom, countFrom]
      split
      · rename_i hmark
        obtain ⟨rfl, rfl⟩ := (isMark_iff hq).1 hmark
        rw [BoundText.step_question hq]
        obtain ⟨m, hm, -⟩ := exists_parametersFrom_number hq n
          (numberFrom (opensQuote quote) none (n + 1) cs)
        rw [hm, List.length_cons, Nat.add_comm 1]
        exact Nat.succ_le_succ (ih (known_none quote) (n + 1))
      · rw [parametersFrom, List.length_append, Nat.zero_add]
        exact Nat.le_trans (ih (hs.step c) n) (Nat.le_add_left _ _)

/-- **The parameters of a numbered text are the numbers from one on,** if and only if the text
brings no numbers of its own into those of its placeholders. -/
theorem parametersFrom_numberFrom_iff {quote : Char} (hq : Delimiter quote) {state : Scan}
    (hs : Known quote state) (n : Nat) (cs : List Char) :
    parametersFrom (opensQuote quote) state (numberFrom (opensQuote quote) state n cs) =
        List.range' (n + 1) (countFrom (opensQuote quote) state cs) ↔
      isUnnumberedFrom (opensQuote quote) state cs = true := by
  induction cs generalizing state n with
  | nil => exact ⟨fun _ => rfl, fun _ => rfl⟩
  | cons c cs ih =>
      rw [isUnnumberedFrom, Bool.and_eq_true, Bool.not_eq_true', numberFrom, countFrom]
      split
      · rename_i hmark
        obtain ⟨rfl, rfl⟩ := (isMark_iff hq).1 hmark
        rw [BoundText.step_question hq]
        obtain ⟨m, hm, hiff⟩ := exists_parametersFrom_number hq n
          (numberFrom (opensQuote quote) none (n + 1) cs)
        rw [head?_numberFrom] at hiff
        rw [hm, Nat.add_comm 1, List.range'_succ, List.cons.injEq]
        refine (and_congr hiff (ih (known_none quote) (n + 1))).trans ?_
        simp [hmark]
      · rename_i hmark
        have hrest := ih (hs.step c) n
        rw [parametersFrom, Nat.zero_add]
        split
        · rename_i hdollar
          obtain ⟨rfl, rfl⟩ := hdollar
          cases hhead : cs.head?.any Char.isDigit with
          | false =>
              have hnone : (numberFrom (opensQuote quote) (step (opensQuote quote) none '$') n
                  cs).takeWhile Char.isDigit = [] := by
                rw [takeWhile_isDigit_eq_nil_iff, head?_numberFrom, hhead]
              rw [hnone]
              simpa [Text.digits?] using hrest
          | true =>
              -- The numeral of the text is one parameter too many.
              have hsome : (numberFrom (opensQuote quote) (step (opensQuote quote) none '$') n
                  cs).takeWhile Char.isDigit ≠ [] := by
                rw [Ne, takeWhile_isDigit_eq_nil_iff, head?_numberFrom, hhead]
                exact fun heq => Bool.false_ne_true heq.symm
              rw [digits?_of_isDigit hsome isDigit_of_mem_takeWhile]
              have hle := countFrom_le_length_parametersFrom hq (hs.step '$') n cs
              refine iff_of_false (fun heq => ?_) (by simp)
              have hlength := congrArg List.length heq
              rw [List.length_append, List.length_range'] at hlength
              simp only [Option.toList_some, List.length_singleton] at hlength
              omega
        · rename_i hdollar
          have hfree : (state.isNone && (c == '$' || isMark (opensQuote quote) state c) &&
              cs.head?.any Char.isDigit) = false := by
            cases state with
            | some q => rfl
            | none =>
                have hne : (c == '$') = false := by
                  rw [beq_eq_false_iff_ne]
                  exact fun heq => hdollar ⟨rfl, heq⟩
                rw [hne, Bool.eq_false_iff.2 hmark]
                rfl
          rw [hfree, List.nil_append]
          exact hrest.trans ⟨fun h => ⟨rfl, h⟩, And.right⟩

/-! ### The numbering of a text -/

/-- A text in which the placeholders of another are numbered from one to `n`, and nothing else is
changed. -/
structure IsNumbering (sql text : String) (n : Nat) : Prop where
  /-- There are `n` placeholders. -/
  length_positions : (positions '\x22' sql).length = n
  /-- From left to right. -/
  pairwise_positions : (positions '\x22' sql).Pairwise (· < ·)
  /-- They are the question marks in front of which no quote is open. -/
  mem_positions : ∀ i, i ∈ positions '\x22' sql ↔
    sql.toList[i]? = some '?' ∧ run (opensQuote '\x22') none (sql.toList.take i) = none
  /-- The `k`-th is written `$k`, and every other character itself. -/
  toList_eq : text.toList = sql.toList.zipIdx.flatMap (writtenChar (positions '\x22' sql))
  /-- So the numbers written are those from one to `n`, in order. -/
  numbers_eq :
    (positions '\x22' sql).map (fun i => (positions '\x22' sql).idxOf i + 1) = List.range' 1 n
  /-- No placeholder is left. -/
  count_eq : count '\x22' text = 0
  /-- Numbering the text again changes nothing. -/
  numbered_eq : numbered text = text
  /-- And those are the parameters read, if and only if the text brings no numbers of its own. -/
  parameters_eq_iff : parameters text = List.range' 1 n ↔ isUnnumbered sql = true

theorem isNumbering_numbered (sql : String) :
    IsNumbering sql (numbered sql) (count '\x22' sql) := by
  have hq : Delimiter '\x22' := Or.inr rfl
  have hnone := countFrom_numberFrom hq (known_none _) 0 sql.toList
  have hlength : (positions '\x22' sql).length = count '\x22' sql := length_positionsFrom _ _ _
  have hpairwise : (positions '\x22' sql).Pairwise (· < ·) := pairwise_positionsFrom _ _ _
  refine ⟨hlength, hpairwise, fun i => mem_positions_iff hq, ?_, ?_, ?_, ?_, ?_⟩
  · rw [numbered, String.toList_ofList]
    exact numberFrom_eq_flatMap none sql.toList fun i hi => absurd hi List.not_mem_nil
  · rw [← hlength]
    exact map_idxOf_of_pairwise hpairwise
  · rw [count, numbered, String.toList_ofList]
    exact hnone
  · rw [numbered, numbered, String.toList_ofList, numberFrom_of_countFrom_eq_zero hnone]
  · rw [parameters, numbered, String.toList_ofList, count]
    exact parametersFrom_numberFrom_iff hq (known_none _) 0 sql.toList

end Placeholder

open Placeholder

/-- **Numbering agrees with compiling.**  Every text is numbered from one to the number of its
placeholders, and of a statement with the quote of the server that is the number of its values: what
is handed over for it is the numbered text with the values in their order. -/
theorem Statement.compile_numbered :
    (∀ sql, IsNumbering sql (numbered sql) (count '\x22' sql)) ∧
      ∀ (s : Statement) (query : Compiled), s.quoting.quote = '\x22' → s.compile = .ok query →
        ∃ text, Postgres.handed query.sql query.bindings = (text, query.bindings) ∧
          IsNumbering query.sql text query.bindings.length := by
  refine ⟨isNumbering_numbered, fun s query hquote hquery => ⟨numbered query.sql, rfl, ?_⟩⟩
  obtain ⟨-, -, -, hbindings, hcount⟩ := compile_of_ok hquery
  rw [hbindings, ← hcount, hquote]
  exact isNumbering_numbered query.sql

/-- Calls that put a question mark into each kind of quotes. -/
def Statement.quotedCalls : List Call :=
  [.fromTable "t", .select ["'?' AS \"why?\"", "it''s"], .compare .and "a" "=" (.int 7),
    .joinRaw "JOIN u ON u.a = ? AND u.b = '?'" [.text "x"], .inList .or false "b" [.int 8, .int 9]]

set_option maxRecDepth 20000 in
theorem Statement.compile_numbered_quoted :
    ∃ query text, (build { config := { quoteChar := '\x22' } } quotedCalls).compile = .ok query ∧
      Postgres.handed query.sql query.bindings =
        (text, [.text "x", .int 7, .int 8, .int 9]) ∧
      IsNumbering query.sql text 4 ∧ parameters text = [1, 2, 3, 4] := by
  have hquery : (build { config := { quoteChar := '\x22' } } quotedCalls).compile =
      .ok ⟨_, [.text "x", .int 7, .int 8, .int 9]⟩ := rfl
  obtain ⟨text, hhanded, hnumbering⟩ := Statement.compile_numbered.2 _ _ (by decide) hquery
  exact ⟨_, text, hquery, hhanded, hnumbering, hnumbering.parameters_eq_iff.2 (by decide)⟩

/-- Calls that join with a text of their own. -/
def Statement.rawJoinCalls (sql : String) (bindings : List Value) : List Call :=
  [.fromTable "t", .joinRaw sql bindings]

set_option maxRecDepth 20000 in
/-- **A numeral that a clause brings along stays among the parameters.**  One stands there without a
value, and one that follows upon a placeholder goes on with its number. -/
theorem Statement.compile_numbered_own_numeral :
    (build { config := { quoteChar := '\x22' } }
        (rawJoinCalls "JOIN u ON u.a = $7" [])).compile =
      .ok ⟨"SELECT * FROM t JOIN u ON u.a = $7", []⟩ ∧
    Postgres.handed "SELECT * FROM t JOIN u ON u.a = $7" [] =
      ("SELECT * FROM t JOIN u ON u.a = $7", []) ∧
    parameters "SELECT * FROM t JOIN u ON u.a = $7" = [7] ∧
    (build { config := { quoteChar := '\x22' } }
        (rawJoinCalls "JOIN u ON u.a = ?5" [.text "x"])).compile =
      .ok ⟨"SELECT * FROM t JOIN u ON u.a = ?5", [.text "x"]⟩ ∧
    Postgres.handed "SELECT * FROM t JOIN u ON u.a = ?5" [.text "x"] =
      ("SELECT * FROM t JOIN u ON u.a = $15", [.text "x"]) ∧
    parameters "SELECT * FROM t JOIN u ON u.a = $15" = [15] :=
  ⟨rfl, rfl, by decide, rfl, rfl, by decide⟩

end EntityQuery

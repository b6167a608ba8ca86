/-
# Quoting keeps texts quiet

Columns, aliases and SELECT entries that are quiet when they are given are quiet
when they are written (`Quiet.column`, `Quiet.label`, `Quiet.selectColumn`).  A
plain identifier has ordinary characters only, and each of its segments is
opened and closed by one quote; everything else is written as it stands.

An entry `source AS alias` is the delicate one, for a quote may be opened in the
source and closed in the alias.  Then neither of the two is plain, so neither is
rewritten, and the word between them leaves the open quote open.

A literal doubles its quotes, so the scanner closes and opens again at each of
them and is outside at the end, whatever the text (`quiet_literal`).
-/

import EntityQuery.Proofs.Quiet.Text
import EntityQuery.Statement.Build

namespace EntityQuery
namespace Placeholder

variable {q : Quoting}

/-! ### Plain identifiers -/

theorem isIdentifierPart_of_isIdentifierStart {c : Char} (h : isIdentifierStart c = true) :
    isIdentifierPart c = true := by
  simp only [isIdentifierStart, Bool.or_eq_true, beq_iff_eq] at h
  rcases h with h | rfl
  · simp [isIdentifierPart, Char.isAlphanum, h]
  · decide

theorem isIdentifierPart_of_isPlain {name : String} (h : isPlain name = true) :
    ∀ c ∈ name.toList, isIdentifierPart c = true := by
  unfold isPlain at h
  split at h
  · exact absurd h Bool.false_ne_true
  · rename_i c rest hname
    rw [Bool.and_eq_true, List.all_eq_true] at h
    rw [hname]
    intro d hd
    rcases List.mem_cons.1 hd with rfl | hd
    · exact isIdentifierPart_of_isIdentifierStart h.1
    · exact h.2 d hd

theorem isOrdinary_of_isPlain {name : String} (h : isPlain name = true) :
    ∀ c ∈ name.toList, isOrdinary c = true :=
  fun c hc => isOrdinary_of_isIdentifierPart (isIdentifierPart_of_isPlain h c hc)

theorem mem_of_mem_splitOn {separator : Char} {cs piece : List Char} {c : Char}
    (hp : piece ∈ Text.splitOn separator cs) (hc : c ∈ piece) : c ∈ cs := by
  induction cs generalizing piece with
  | nil =>
      rw [Text.splitOn, List.mem_singleton] at hp
      exact hp ▸ hc
  | cons d cs ih =>
      rw [Text.splitOn] at hp
      split at hp
      · rcases List.mem_cons.1 hp with rfl | hp
        · exact absurd hc List.not_mem_nil
        · exact List.mem_cons_of_mem _ (ih hp hc)
      · split at hp
        · rw [List.mem_singleton] at hp
          subst hp
          rw [List.mem_singleton] at hc
          exact hc ▸ List.mem_cons_self
        · rename_i first pieces hsplit
          rcases List.mem_cons.1 hp with rfl | hp
          · rcases List.mem_cons.1 hc with rfl | hc
            · exact List.mem_cons_self
            · exact List.mem_cons_of_mem _ (ih (hsplit ▸ List.mem_cons_self) hc)
          · exact List.mem_cons_of_mem _ (ih (hsplit ▸ List.mem_cons_of_mem _ hp) hc)

/-! ### Columns and aliases -/

/-- Ordinary characters between quotes are quiet, if none of them is the quote. -/
theorem quiet_segment {cs : List Char} (hopens : ∀ c ∈ cs, opensQuote q.quote c = false)
    (h : ∀ c ∈ cs, isOrdinary c = true) : Quiet q.quote (String.ofList (q.segment cs)) := by
  unfold Quoting.segment
  split
  · exact ⟨rfl, rfl⟩
  · have hopen : opensQuote q.quote q.quote = true := by simp [opensQuote]
    have hknown : Known q.quote (some q.quote) := by
      intro c hc
      exact Option.mem_some.1 hc ▸ hopen
    have hstep : step (opensQuote q.quote) none q.quote = some q.quote := by simp [step, hopen]
    have hclose : step (opensQuote q.quote) (some q.quote) q.quote = none := by simp [step]
    refine ⟨?_, ?_⟩
    · rw [Closed, String.toList_ofList, List.cons_append, run_cons, hstep, run_append,
        run_of_not_opens hknown hopens, run_cons, hclose]
      rfl
    · rw [count, String.toList_ofList, List.cons_append, countFrom, hstep, countFrom_append,
        countFrom_of_ordinary h, run_of_not_opens hknown hopens]
      simp [countFrom, isMark, hopen]

theorem quiet_intercalate {quote : Char} {separator : List Char} {pieces : List (List Char)}
    (hs : Quiet quote (String.ofList separator))
    (hp : ∀ piece ∈ pieces, Quiet quote (String.ofList piece)) :
    Quiet quote (String.ofList (List.intercalate separator pieces)) := by
  induction pieces with
  | nil => exact ⟨rfl, rfl⟩
  | cons first pieces ih =>
      have hfirst := hp first List.mem_cons_self
      cases pieces with
      | nil => simpa [List.intercalate] using hfirst
      | cons second pieces =>
          have hrest := ih fun piece h => hp piece (List.mem_cons_of_mem _ h)
          have hsplit : List.intercalate separator (first :: second :: pieces) =
              first ++ (separator ++ List.intercalate separator (second :: pieces)) := by
            simp [List.intercalate]
          rw [hsplit, String.ofList_append, String.ofList_append]
          exact hfirst.append (hs.append hrest)

/-- A plain identifier is quoted quietly by a character that may not stand in one. -/
theorem quiet_column_of_not_opens
    (hopens : ∀ c, isIdentifierPart c = true → opensQuote q.quote c = false) {name : String}
    (h : isPlain name = true) : Quiet q.quote (q.column name) := by
  rw [Quoting.column, if_pos h]
  refine quiet_intercalate (quiet_of_not_opens (fun c hc => ?_) (by decide)) fun piece hp => ?_
  · rw [String.toList_ofList, List.mem_singleton] at hc
    rw [hc]
    exact hopens '.' (by decide)
  · obtain ⟨cs, hcs, rfl⟩ := List.mem_map.1 hp
    have hpart : ∀ c ∈ cs, isIdentifierPart c = true :=
      fun c hc => isIdentifierPart_of_isPlain h c (mem_of_mem_splitOn hcs hc)
    exact quiet_segment (fun c hc => hopens c (hpart c hc))
      fun c hc => isOrdinary_of_isIdentifierPart (hpart c hc)

theorem quiet_column_of_isPlain (hq : Delimiter q.quote) {name : String}
    (h : isPlain name = true) : Quiet q.quote (q.column name) :=
  quiet_column_of_not_opens
    (fun _ hc => opensQuote_of_ordinary hq (isOrdinary_of_isIdentifierPart hc)) h

/-- **A quiet column is written quietly.** -/
theorem Quiet.column (hq : Delimiter q.quote) {name : String} (h : Quiet q.quote name) :
    Quiet q.quote (q.column name) := by
  by_cases hp : isPlain name = true
  · exact quiet_column_of_isPlain hq hp
  · rwa [Quoting.column, if_neg hp]

theorem label_eq_or (q : Quoting) (name : String) :
    q.label name = name ∨
      isPlain name = true ∧ q.label name = String.ofList (q.segment name.toList) := by
  unfold Quoting.label
  split
  · exact .inl rfl
  · split
    · exact .inl rfl
    · rename_i h
      rw [Bool.or_eq_true, not_or, Bool.not_eq_true', Bool.not_eq_false] at h
      exact .inr ⟨h.1, rfl⟩

theorem quiet_label_of_isPlain (hq : Delimiter q.quote) {name : String}
    (h : isPlain name = true) : Quiet q.quote (q.label name) := by
  rcases label_eq_or q name with hn | ⟨-, hn⟩
  · rw [hn]
    exact quiet_of_ordinary hq (List.all_eq_true.2 (isOrdinary_of_isPlain h))
  · rw [hn]
    exact quiet_segment (fun c hc => opensQuote_of_ordinary hq (isOrdinary_of_isPlain h c hc))
      (isOrdinary_of_isPlain h)

/-- **A quiet alias is written quietly.** -/
theorem Quiet.label (hq : Delimiter q.quote) {name : String} (h : Quiet q.quote name) :
    Quiet q.quote (q.label name) := by
  rcases label_eq_or q name with hn | ⟨hp, -⟩
  · rwa [hn]
  · exact quiet_label_of_isPlain hq hp

/-! ### SELECT entries -/

/-- Two texts that are quiet in a row stay so when a word with blanks around it stands between
them and they are quoted where they are plain. -/
theorem quiet_source_as_label (hq : Delimiter q.quote) {source target : String}
    (h : Quiet q.quote (source ++ target)) :
    Quiet q.quote (q.column source ++ " AS " ++ q.label target) := by
  have has : Quiet q.quote " AS " := quiet_of_ordinary hq (by decide)
  by_cases hopen : Closed q.quote source
  · have hcount := count_append (b := target) hopen
    rw [h.2] at hcount
    have hsource : Quiet q.quote source := ⟨hopen, by omega⟩
    have htarget : Quiet q.quote target := by
      refine ⟨?_, by omega⟩
      have hrun := h.1
      rw [Closed, String.toList_append, run_append, hopen] at hrun
      exact hrun
    exact ((hsource.column hq).append has).append (htarget.label hq)
  · -- A quote is open after the source, so the source is not plain and the target closes a quote.
    have hsource : q.column source = source := by
      rw [Quoting.column, if_neg]
      exact fun hp => hopen
        (run_of_ordinary hq (known_none q.quote) (isOrdinary_of_isPlain hp))
    have hknown := (known_none q.quote).run source.toList
    have hword : ∀ c ∈ " AS ".toList, isOrdinary c = true := List.all_eq_true.1 (by decide)
    have hmid := run_of_ordinary hq hknown hword
    have htarget : q.label target = target := by
      rcases label_eq_or q target with ht | ⟨hp, -⟩
      · exact ht
      · have hrun := h.1
        rw [Closed, String.toList_append, run_append,
          run_of_ordinary hq hknown (isOrdinary_of_isPlain hp)] at hrun
        exact absurd hrun hopen
    have hcount := h.2
    have hrun := h.1
    rw [count, String.toList_append, countFrom_append] at hcount
    rw [Closed, String.toList_append, run_append] at hrun
    rw [hsource, htarget]
    refine ⟨?_, ?_⟩
    · rw [Closed, String.toList_append, String.toList_append, run_append, run_append, hmid, hrun]
    · rw [count, String.toList_append, String.toList_append, countFrom_append, countFrom_append,
        run_append, hmid, countFrom_of_ordinary hword]
      omega

/-- **A quiet SELECT entry is written quietly.** -/
theorem Quiet.selectColumn (hq : Delimiter q.quote) {expression : String}
    (h : Quiet q.quote expression) : Quiet q.quote (q.selectColumn expression) := by
  unfold Quoting.selectColumn
  split
  · exact h
  · split
    · rename_i source word target hwords
      split
      · rename_i has
        refine quiet_source_as_label hq ?_
        have hflat := h.words hq
        rw [hwords] at hflat
        simp only [List.flatten_cons, List.flatten_nil, List.append_nil] at hflat
        have hword : ∀ c ∈ word, isOrdinary c = true := by
          unfold Quoting.isAs at has
          split at has
          · simp only [Bool.and_eq_true, Bool.or_eq_true, beq_iff_eq] at has
            obtain ⟨rfl | rfl, (rfl | rfl) | rfl⟩ := has <;> exact List.all_eq_true.1 (by decide)
          · exact absurd has Bool.false_ne_true
        have hmid := run_of_ordinary hq ((known_none q.quote).run source) hword
        rw [run_append, run_append, hmid, countFrom_append, countFrom_append, hmid,
          countFrom_of_ordinary hword, Nat.zero_add] at hflat
        rw [← String.ofList_append]
        refine ⟨?_, ?_⟩
        · rw [Closed, String.toList_ofList, run_append, hflat.1]
        · rw [count, String.toList_ofList, countFrom_append, hflat.2]
      · exact (h.trim hq).column hq
    · exact (h.trim hq).column hq

/-! ### Literals and numerals -/

/-- The state between the characters of a literal: inside of it. -/
theorem run_doubled (quote : Char) (cs : List Char) :
    run (opensQuote quote) (some '\x27')
        (cs.flatMap fun c => if c = '\x27' then [c, c] else [c]) = some '\x27' ∧
      countFrom (opensQuote quote) (some '\x27')
        (cs.flatMap fun c => if c = '\x27' then [c, c] else [c]) = 0 := by
  induction cs with
  | nil => exact ⟨rfl, rfl⟩
  | cons c cs ih =>
      rw [List.flatMap_cons, run_append, countFrom_append]
      by_cases hc : c = '\x27'
      · -- The first of the two quotes closes the literal and the second opens it again.
        subst hc
        simpa [run, countFrom, isMark, step, opensQuote] using ih
      · simpa [hc, run, step, countFrom, isMark] using ih

/-- **A literal is quiet whatever its text.** -/
theorem quiet_literal (quote : Char) (text : String) :
    Quiet quote (Statement.literal text) := by
  obtain ⟨hrun, hcount⟩ := run_doubled quote text.toList
  have hstep : step (opensQuote quote) none '\x27' = some '\x27' := by simp [step, opensQuote]
  refine ⟨?_, ?_⟩
  · rw [Closed, Statement.literal, String.toList_ofList, List.cons_append, run_cons, hstep,
      run_append, hrun]
    rfl
  · rw [count, Statement.literal, String.toList_ofList, List.cons_append, countFrom, hstep,
      countFrom_append, hcount, hrun]
    simp [countFrom, isMark]

theorem isDigit_of_mem_decimal {n : Nat} {c : Char} (h : c ∈ Text.decimal n) :
    c.isDigit = true :=
  Nat.isDigit_of_mem_toDigits (by decide) (by decide) h

theorem isOrdinary_of_mem_decimal {n : Nat} {c : Char} (h : c ∈ Text.decimal n) :
    isOrdinary c = true :=
  isOrdinary_of_isDigit (isDigit_of_mem_decimal h)

theorem quiet_decimal (hq : Delimiter q.quote) (n : Nat) :
    Quiet q.quote (String.ofList (Text.decimal n)) := by
  refine quiet_of_ordinary hq ?_
  rw [String.toList_ofList, List.all_eq_true]
  exact fun _ => isOrdinary_of_mem_decimal

theorem quiet_signedDecimal (hq : Delimiter q.quote) (n : Int) :
    Quiet q.quote (Text.signedDecimal n) := by
  unfold Text.signedDecimal
  split
  · exact (quiet_of_ordinary hq (by decide)).append (quiet_decimal hq _)
  · exact quiet_decimal hq _

end Placeholder
end EntityQuery

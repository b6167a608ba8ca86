/-
# Quiet texts

A text is closed if the scanner that enters it outside of quotes leaves it
outside of quotes, and quiet if moreover it meets no placeholder on the way
(`Placeholder.Closed`, `Placeholder.Quiet`).  Quiet texts can be put together
without disturbing what stands around them (`Quiet.append`).

Few characters matter to the scanner: the two quotes and the question mark.  All
others are ordinary, and a text of ordinary characters is passed over in
whatever state it is met (`run_of_ordinary`, `countFrom_of_ordinary`).  Blanks
are ordinary, so a text without the blanks around it is read like the text
itself (`run_trim`, `count_trim`), and so are its words in a row (`Quiet.words`).
Trimming it again changes nothing (`Text.trim_trim`).
-/

import EntityQuery.Sql.Identifier
import EntityQuery.Sql.Placeholder
import Mathlib.Data.List.DropRight
import Mathlib.Data.List.TakeWhile

namespace EntityQuery
namespace Placeholder

/-- The quote characters of the identifiers this library is meant for: the backtick and the double
quote. -/
def Delimiter (quote : Char) : Prop :=
  quote = '\x60' ∨ quote = '\x22'

instance (quote : Char) : Decidable (Delimiter quote) :=
  inferInstanceAs (Decidable (_ ∨ _))

/-- Whether a scan from outside of quotes ends outside of quotes. -/
def Closed (quote : Char) (text : String) : Prop :=
  run (opensQuote quote) none text.toList = none

instance (quote : Char) (text : String) : Decidable (Closed quote text) :=
  inferInstanceAs (Decidable (_ = _))

/-- A closed text without placeholders. -/
def Quiet (quote : Char) (text : String) : Prop :=
  Closed quote text ∧ count quote text = 0

instance (quote : Char) (text : String) : Decidable (Quiet quote text) :=
  inferInstanceAs (Decidable (_ ∧ _))

/-! ### Reading texts in a row -/

theorem run_append (opens : Char → Bool) (state : Scan) (xs ys : List Char) :
    run opens state (xs ++ ys) = run opens (run opens state xs) ys :=
  List.foldl_append

theorem run_cons (opens : Char → Bool) (state : Scan) (c : Char) (cs : List Char) :
    run opens state (c :: cs) = run opens (step opens state c) cs :=
  rfl

theorem Closed.append {quote : Char} {a b : String} (ha : Closed quote a) (hb : Closed quote b) :
    Closed quote (a ++ b) := by
  unfold Closed at *
  rw [String.toList_append, run_append, ha, hb]

theorem count_append {quote : Char} {a b : String} (ha : Closed quote a) :
    count quote (a ++ b) = count quote a + count quote b := by
  unfold Closed at ha
  rw [count, String.toList_append, countFrom_append, ha]
  rfl

/-- **Quiet texts in a row are quiet.** -/
theorem Quiet.append {quote : Char} {a b : String} (ha : Quiet quote a) (hb : Quiet quote b) :
    Quiet quote (a ++ b) := by
  refine ⟨ha.1.append hb.1, ?_⟩
  rw [count_append ha.1, ha.2, hb.2]

/-! ### Ordinary characters -/

/-- Whether no scanner takes notice of a character: it is neither a quote nor a question mark. -/
def isOrdinary (c : Char) : Bool :=
  c != '\x27' && c != '\x60' && c != '\x22' && c != '?'

/-- A class of characters without quotes and question marks has only ordinary ones. -/
theorem isOrdinary_of_class {p : Char → Bool}
    (hp : ['\x27', '\x60', '\x22', '?'].any p = false) {c : Char} (h : p c = true) :
    isOrdinary c = true := by
  have hne : ∀ d ∈ ['\x27', '\x60', '\x22', '?'], c ≠ d := by
    rintro d hd rfl
    rw [List.any_eq_true.2 ⟨c, hd, h⟩] at hp
    exact Bool.false_ne_true hp.symm
  simp only [isOrdinary, Bool.and_eq_true, bne_iff_ne]
  exact ⟨⟨⟨hne _ (by decide), hne _ (by decide)⟩, hne _ (by decide)⟩, hne _ (by decide)⟩

theorem isOrdinary_of_isBlank {c : Char} (h : Text.isBlank c = true) : isOrdinary c = true :=
  isOrdinary_of_class (by decide) h

theorem isOrdinary_of_isIdentifierPart {c : Char} (h : isIdentifierPart c = true) :
    isOrdinary c = true :=
  isOrdinary_of_class (by decide) h

theorem isOrdinary_of_isDigit {c : Char} (h : c.isDigit = true) : isOrdinary c = true :=
  isOrdinary_of_class (by decide) h

theorem opensQuote_of_ordinary {quote c : Char} (hq : Delimiter quote)
    (hc : isOrdinary c = true) : opensQuote quote c = false := by
  simp only [isOrdinary, Bool.and_eq_true, bne_iff_ne] at hc
  obtain ⟨⟨⟨h₁, h₂⟩, h₃⟩, -⟩ := hc
  rcases hq with rfl | rfl <;> simp [opensQuote, h₁, h₂, h₃]

/-- The quote that is open in a state is one that the scanner knows. -/
def Known (quote : Char) (state : Scan) : Prop :=
  ∀ c ∈ state, opensQuote quote c = true

theorem known_none (quote : Char) : Known quote none :=
  fun _ h => absurd h (Option.not_mem_none _)

theorem Known.step {quote : Char} {state : Scan} (h : Known quote state) (c : Char) :
    Known quote (step (opensQuote quote) state c) := by
  intro d hd
  cases state with
  | none =>
      simp only [Placeholder.step] at hd
      split at hd
      · rename_i hc
        exact Option.mem_some.1 hd ▸ hc
      · exact absurd hd (Option.not_mem_none _)
  | some q =>
      simp only [Placeholder.step] at hd
      split at hd
      · exact absurd hd (Option.not_mem_none _)
      · exact h d hd

theorem Known.run {quote : Char} {state : Scan} (h : Known quote state) (cs : List Char) :
    Known quote (run (opensQuote quote) state cs) := by
  induction cs generalizing state with
  | nil => exact h
  | cons c cs ih => exact ih (h.step c)

variable {quote : Char} {state : Scan}

theorem step_of_not_opens (hs : Known quote state) {c : Char} (hc : opensQuote quote c = false) :
    step (opensQuote quote) state c = state := by
  cases state with
  | none => simp [step, hc]
  | some q =>
      have hne : c ≠ q := by
        rintro rfl
        rw [hs c (Option.mem_some.2 rfl)] at hc
        exact Bool.false_ne_true hc.symm
      simp [step, hne]

theorem step_of_ordinary (hq : Delimiter quote) (hs : Known quote state) {c : Char}
    (hc : isOrdinary c = true) : step (opensQuote quote) state c = state :=
  step_of_not_opens hs (opensQuote_of_ordinary hq hc)

/-- Characters that are no quotes leave the state as it is. -/
theorem run_of_not_opens (hs : Known quote state) {cs : List Char}
    (h : ∀ c ∈ cs, opensQuote quote c = false) : run (opensQuote quote) state cs = state := by
  induction cs with
  | nil => rfl
  | cons c cs ih =>
      rw [run_cons, step_of_not_opens hs (h c List.mem_cons_self)]
      exact ih fun d hd => h d (List.mem_cons_of_mem _ hd)

/-- Ordinary characters leave the state as it is. -/
theorem run_of_ordinary (hq : Delimiter quote) (hs : Known quote state) {cs : List Char}
    (h : ∀ c ∈ cs, isOrdinary c = true) : run (opensQuote quote) state cs = state :=
  run_of_not_opens hs fun c hc => opensQuote_of_ordinary hq (h c hc)

theorem isMark_of_ordinary {c : Char} (hc : isOrdinary c = true) :
    isMark (opensQuote quote) state c = false := by
  simp only [isOrdinary, Bool.and_eq_true, bne_iff_ne] at hc
  cases state with
  | none => simp [isMark, hc.2]
  | some q => rfl

/-- There is no placeholder among ordinary characters. -/
theorem countFrom_of_ordinary {cs : List Char} (h : ∀ c ∈ cs, isOrdinary c = true) :
    countFrom (opensQuote quote) state cs = 0 := by
  induction cs generalizing state with
  | nil => rfl
  | cons c cs ih =>
      rw [countFrom, isMark_of_ordinary (h c List.mem_cons_self),
        ih fun d hd => h d (List.mem_cons_of_mem _ hd)]
      rfl

/-- A text of ordinary characters is quiet, if none of them is the quote of identifiers. -/
theorem quiet_of_not_opens {text : String} (hopens : ∀ c ∈ text.toList, opensQuote quote c = false)
    (h : text.toList.all isOrdinary = true) : Quiet quote text :=
  ⟨run_of_not_opens (known_none quote) hopens, countFrom_of_ordinary (List.all_eq_true.1 h)⟩

/-- **A text of ordinary characters is quiet.** -/
theorem quiet_of_ordinary (hq : Delimiter quote) {text : String}
    (h : text.toList.all isOrdinary = true) : Quiet quote text :=
  quiet_of_not_opens (fun c hc => opensQuote_of_ordinary hq (List.all_eq_true.1 h c hc)) h

/-! ### Blanks -/

/-- Trimming drops a run of blanks in front and one at the end. -/
theorem exists_trim (s : String) : ∃ front back : List Char,
    s.toList = front ++ (Text.trim s).toList ++ back ∧
      (∀ c ∈ front, Text.isBlank c = true) ∧ ∀ c ∈ back, Text.isBlank c = true := by
  refine ⟨s.toList.takeWhile Text.isBlank,
    ((Text.trimStart s.toList).reverse.takeWhile Text.isBlank).reverse, ?_, ?_, ?_⟩
  · have hback := congrArg List.reverse (List.takeWhile_append_dropWhile
      (p := Text.isBlank) (l := (Text.trimStart s.toList).reverse))
    rw [List.reverse_append, List.reverse_reverse] at hback
    rw [Text.trim, String.toList_ofList, Text.trimEnd, List.append_assoc, hback]
    exact (List.takeWhile_append_dropWhile).symm
  · exact fun c hc => List.mem_takeWhile_imp hc
  · exact fun c hc => List.mem_takeWhile_imp (List.mem_reverse.1 hc)

theorem run_trim (hq : Delimiter quote) (s : String) :
    run (opensQuote quote) none (Text.trim s).toList = run (opensQuote quote) none s.toList := by
  obtain ⟨front, back, hs, hfront, hback⟩ := exists_trim s
  have hfront' := run_of_ordinary hq (known_none quote) fun c hc =>
    isOrdinary_of_isBlank (hfront c hc)
  rw [hs, run_append, run_append, hfront', run_of_ordinary hq ((known_none quote).run _) fun c hc =>
    isOrdinary_of_isBlank (hback c hc)]

theorem count_trim (hq : Delimiter quote) (s : String) :
    count quote (Text.trim s) = count quote s := by
  obtain ⟨front, back, hs, hfront, hback⟩ := exists_trim s
  have hfront' := run_of_ordinary hq (known_none quote) fun c hc =>
    isOrdinary_of_isBlank (hfront c hc)
  rw [count, count, hs, countFrom_append, countFrom_append, hfront',
    countFrom_of_ordinary fun c hc => isOrdinary_of_isBlank (hfront c hc),
    countFrom_of_ordinary fun c hc => isOrdinary_of_isBlank (hback c hc)]
  omega

theorem Quiet.trim (hq : Delimiter quote) {s : String} (h : Quiet quote s) :
    Quiet quote (Text.trim s) := by
  refine ⟨?_, by rw [count_trim hq, h.2]⟩
  rw [Closed, run_trim hq]
  exact h.1

/-- The words of a text in a row are the text without its blanks. -/
theorem flatten_wordsFrom (word cs : List Char) :
    (Text.wordsFrom word cs).flatten = word.reverse ++ cs.filter fun c => !Text.isBlank c := by
  induction cs generalizing word with
  | nil => cases word <;> simp [Text.wordsFrom]
  | cons c cs ih =>
      by_cases hc : Text.isBlank c = true
      · cases word with
        | nil => simp [Text.wordsFrom, hc, ih]
        | cons d word => simp [Text.wordsFrom, hc, ih]
      · simp [Text.wordsFrom, hc, ih]

theorem run_filter_blank (hq : Delimiter quote) (hs : Known quote state) (cs : List Char) :
    run (opensQuote quote) state (cs.filter fun c => !Text.isBlank c) =
      run (opensQuote quote) state cs := by
  induction cs generalizing state with
  | nil => rfl
  | cons c cs ih =>
      by_cases hc : Text.isBlank c = true
      · rw [List.filter_cons_of_neg (by simp [hc]), run_cons,
          step_of_ordinary hq hs (isOrdinary_of_isBlank hc)]
        exact ih hs
      · rw [List.filter_cons_of_pos (by simp [hc]), run_cons, run_cons]
        exact ih (hs.step c)

theorem countFrom_filter_blank (hq : Delimiter quote) (hs : Known quote state) (cs : List Char) :
    countFrom (opensQuote quote) state (cs.filter fun c => !Text.isBlank c) =
      countFrom (opensQuote quote) state cs := by
  induction cs generalizing state with
  | nil => rfl
  | cons c cs ih =>
      by_cases hc : Text.isBlank c = true
      · have hord := isOrdinary_of_isBlank hc
        rw [List.filter_cons_of_neg (by simp [hc]), countFrom, isMark_of_ordinary hord,
          step_of_ordinary hq hs hord, ih hs]
        simp
      · rw [List.filter_cons_of_pos (by simp [hc]), countFrom, countFrom, ih (hs.step c)]

/-- A quiet text is read like its words in a row. -/
theorem Quiet.words (hq : Delimiter quote) {s : String} (h : Quiet quote s) :
    run (opensQuote quote) none (Text.words s).flatten = none ∧
      countFrom (opensQuote quote) none (Text.words s).flatten = 0 := by
  rw [Text.words, flatten_wordsFrom, List.reverse_nil, List.nil_append,
    run_filter_blank hq (known_none quote), countFrom_filter_blank hq (known_none quote)]
  exact h

end Placeholder

/-! ### Trimmed texts -/

namespace Text

theorem trimStart_of_isPrefix {cs ds : List Char} (hinitial : ds <+: cs)
    (hcs : trimStart cs = cs) : trimStart ds = ds := by
  cases ds with
  | nil => rfl
  | cons d ds =>
      obtain ⟨rest, rfl⟩ := hinitial
      rw [List.cons_append] at hcs
      have hd : isBlank d = false := by
        by_contra hd
        rw [trimStart, List.dropWhile_cons_of_pos (Bool.not_eq_false _ ▸ hd)] at hcs
        have hle := (List.dropWhile_suffix isBlank (l := ds ++ rest)).length_le
        rw [hcs, List.length_cons] at hle
        omega
      rw [trimStart, List.dropWhile_cons_of_neg (by simp [hd])]

theorem trimStart_trimStart (cs : List Char) : trimStart (trimStart cs) = trimStart cs :=
  List.dropWhile_idempotent isBlank cs

theorem trimEnd_trimEnd (cs : List Char) : trimEnd (trimEnd cs) = trimEnd cs :=
  List.rdropWhile_idempotent isBlank cs

theorem trim_trim (s : String) : trim (trim s) = trim s := by
  have hstart : trimStart (trimEnd (trimStart s.toList)) = trimEnd (trimStart s.toList) :=
    trimStart_of_isPrefix (List.rdropWhile_prefix isBlank _) (trimStart_trimStart s.toList)
  rw [trim, trim, String.toList_ofList, hstart, trimEnd_trimEnd]

/-- A text of blanks is one of which trimming leaves nothing. -/
theorem isEmpty_trim (s : String) : (trim s).isEmpty = isBlankText s := by
  rw [Bool.eq_iff_iff, String.isEmpty_iff, isBlankText, List.all_eq_true]
  constructor
  · intro h c hc
    obtain ⟨front, back, hs, hfront, hback⟩ := Placeholder.exists_trim s
    rw [hs, h] at hc
    simp only [String.toList_empty, List.append_nil, List.mem_append] at hc
    exact hc.elim (hfront c) (hback c)
  · intro h
    have hstart : trimStart s.toList = [] := List.dropWhile_eq_nil_iff.2 h
    rw [trim, hstart]
    rfl

end Text

end EntityQuery

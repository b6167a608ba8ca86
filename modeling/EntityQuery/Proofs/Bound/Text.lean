/-
# SQL text with its values in place

A bound text is SQL text in which every placeholder carries the value that is
bound to it.  It has two projections: the text as it is sent, with a question
mark for every value (`BoundText.sql`), and the values in order
(`BoundText.values`).

What a scanner makes of the text as it is sent need not agree with where the
values stand: a value may stand inside of quotes, and a question mark of the
text may be taken for a placeholder.  `BoundText.Reads` says that it does agree,
from one state of the scanner to another, and `BoundText.Tight` that it agrees
from outside of quotes to outside of quotes.  In a tight text the placeholders
stand where the values do (`Tight.positions`), there are as many of them
(`Tight.count`), and putting texts for the values in their places from left to
right is writing these texts where the values stand (`Tight.fill`).
-/

import EntityQuery.Proofs.Quiet.Text
import EntityQuery.Value.Basic

namespace EntityQuery

/-! ### Placeholders by position -/

namespace Placeholder

/-- The positions of the placeholders of a text read from a state, counted on from `n`. -/
def positionsFrom (opens : Char → Bool) : Scan → Nat → List Char → List Nat
  | _, _, [] => []
  | state, n, c :: rest =>
    if isMark opens state c then n :: positionsFrom opens (step opens state c) (n + 1) rest
    else positionsFrom opens (step opens state c) (n + 1) rest

/-- The positions of the placeholders of an SQL text. -/
def positions (identifierQuote : Char) (sql : String) : List Nat :=
  positionsFrom (opensQuote identifierQuote) none 0 sql.toList

/-- A text read from a state with its placeholders replaced, from left to right, by texts. -/
def fillFrom (opens : Char → Bool) : Scan → List (List Char) → List Char → List Char
  | _, [], cs => cs
  | _, _ :: _, [] => []
  | state, text :: texts, c :: rest =>
    if isMark opens state c then text ++ fillFrom opens (step opens state c) texts rest
    else c :: fillFrom opens (step opens state c) (text :: texts) rest

/-- An SQL text with its placeholders replaced, from left to right, by texts. -/
def fill (identifierQuote : Char) (texts : List String) (sql : String) : String :=
  String.ofList (fillFrom (opensQuote identifierQuote) none (texts.map String.toList) sql.toList)

theorem eq_of_isMark {opens : Char → Bool} {state : Scan} {c : Char}
    (h : isMark opens state c = true) : c = '?' := by
  cases state with
  | none =>
      simp only [isMark, Bool.and_eq_true, beq_iff_eq] at h
      exact h.2
  | some q => exact absurd h Bool.false_ne_true

end Placeholder

/-- A place of a bound text: a character, or a placeholder with its value. -/
inductive Place where
  | char (c : Char)
  | slot (v : Value)

/-- SQL text with its values in place. -/
abbrev BoundText :=
  List Place

namespace BoundText

open Placeholder

/-- Text without values. -/
def ofText (text : String) : BoundText :=
  text.toList.map .char

/-- One value. -/
def ofValue (v : Value) : BoundText :=
  [.slot v]

/-- The characters of a bound text, every value being written by `write`. -/
def writtenChars (write : Value → List Char) (t : BoundText) : List Char :=
  t.flatMap fun
    | .char c => [c]
    | .slot v => write v

/-- The text with every value written by `write` where it stands. -/
def written (write : Value → String) (t : BoundText) : String :=
  String.ofList (t.writtenChars fun v => (write v).toList)

/-- The text as it is sent. -/
def sql (t : BoundText) : String :=
  String.ofList (t.writtenChars fun _ => ['?'])

/-- The values in order. -/
def values (t : BoundText) : List Value :=
  t.filterMap fun
    | .char _ => none
    | .slot v => some v

/-- The values with their positions, counted on from `n`. -/
def slotsFrom : Nat → BoundText → List (Nat × Value)
  | _, [] => []
  | n, .char _ :: rest => slotsFrom (n + 1) rest
  | n, .slot v :: rest => (n, v) :: slotsFrom (n + 1) rest

/-- The values with their positions in the text as it is sent. -/
def slots (t : BoundText) : List (Nat × Value) :=
  slotsFrom 0 t

@[simp] theorem sql_nil : sql [] = "" := rfl

@[simp] theorem sql_append (a b : BoundText) : sql (a ++ b) = sql a ++ sql b := by
  simp [sql, writtenChars, String.ofList_append]

theorem writtenChars_ofText (write : Value → List Char) (text : String) :
    writtenChars write (ofText text) = text.toList := by
  rw [writtenChars, ofText, List.flatMap_map]
  exact List.flatMap_singleton' _

@[simp] theorem sql_ofText (text : String) : sql (ofText text) = text := by
  rw [sql, writtenChars_ofText, String.ofList_toList]

@[simp] theorem sql_ofValue (v : Value) : sql (ofValue v) = "?" := rfl

@[simp] theorem values_nil : values [] = [] := rfl

@[simp] theorem values_append (a b : BoundText) : values (a ++ b) = values a ++ values b :=
  List.filterMap_append

@[simp] theorem values_ofText (text : String) : values (ofText text) = [] := by
  rw [values, ofText, List.filterMap_map]
  exact List.filterMap_eq_nil_iff.2 fun _ _ => rfl

@[simp] theorem values_ofValue (v : Value) : values (ofValue v) = [v] := rfl

/-! ### Lists of bound texts -/

/-- Every item with the separator in front. -/
def eachAfter (separator : String) : List BoundText → BoundText
  | [] => []
  | item :: rest => ofText separator ++ item ++ eachAfter separator rest

/-- The items with the separator between them. -/
def joinWith (separator : String) : List BoundText → BoundText
  | [] => []
  | item :: rest => item ++ eachAfter separator rest

/-- Values with commas between them. -/
def ofValues (vs : List Value) : BoundText :=
  joinWith ", " (vs.map ofValue)

@[simp] theorem sql_eachAfter (separator : String) (ts : List BoundText) :
    sql (eachAfter separator ts) = Text.eachAfter separator (ts.map sql) := by
  induction ts with
  | nil => rfl
  | cons t ts ih => simp [eachAfter, Text.eachAfter, ih, String.append_assoc]

@[simp] theorem sql_joinWith (separator : String) (ts : List BoundText) :
    sql (joinWith separator ts) = Text.joinWith separator (ts.map sql) := by
  cases ts with
  | nil => rfl
  | cons t ts => simp [joinWith, Text.joinWith]

@[simp] theorem values_eachAfter (separator : String) (ts : List BoundText) :
    values (eachAfter separator ts) = ts.flatMap values := by
  induction ts with
  | nil => rfl
  | cons t ts ih => simp [eachAfter, ih]

@[simp] theorem values_joinWith (separator : String) (ts : List BoundText) :
    values (joinWith separator ts) = ts.flatMap values := by
  cases ts with
  | nil => rfl
  | cons t ts => simp [joinWith]

@[simp] theorem values_ofValues (vs : List Value) : values (ofValues vs) = vs := by
  rw [ofValues, values_joinWith, List.flatMap_map]
  exact List.flatMap_singleton' _

/-! ### Reading bound texts -/

/-- A scanner that enters the text in one state leaves it in the other, and takes for placeholders
exactly the places that hold a value. -/
def Reads (quote : Char) : Scan → BoundText → Scan → Prop
  | state, [], final => final = state
  | state, .char c :: rest, final =>
    isMark (opensQuote quote) state c = false ∧
      Reads quote (step (opensQuote quote) state c) rest final
  | state, .slot _ :: rest, final => state = none ∧ Reads quote none rest final

/-- Read from outside of quotes to outside of quotes. -/
structure Tight (quote : Char) (t : BoundText) : Prop where
  reads : Reads quote none t none

variable {quote : Char}

theorem Reads.append {state middle final : Scan} {a b : BoundText} (ha : Reads quote state a middle)
    (hb : Reads quote middle b final) : Reads quote state (a ++ b) final := by
  induction a generalizing state with
  | nil =>
      obtain rfl : middle = state := ha
      exact hb
  | cons place a ih =>
      cases place with
      | char c => exact ⟨ha.1, ih ha.2⟩
      | slot v => exact ⟨ha.1, ih ha.2⟩

theorem Tight.append {a b : BoundText} (ha : Tight quote a) (hb : Tight quote b) :
    Tight quote (a ++ b) :=
  ⟨Reads.append ha.reads hb.reads⟩

theorem reads_chars {state : Scan} {cs : List Char}
    (h : countFrom (opensQuote quote) state cs = 0) :
    Reads quote state (cs.map .char) (run (opensQuote quote) state cs) := by
  induction cs generalizing state with
  | nil => rfl
  | cons c cs ih =>
      rw [countFrom, Nat.add_eq_zero_iff] at h
      refine ⟨?_, ih h.2⟩
      by_contra hc
      rw [Bool.not_eq_false] at hc
      rw [if_pos hc] at h
      exact absurd h.1 Nat.one_ne_zero

/-- **A quiet text without values is tight.** -/
theorem tight_ofText {text : String} (h : Quiet quote text) : Tight quote (ofText text) := by
  have hreads := reads_chars h.2
  rw [h.1] at hreads
  exact ⟨hreads⟩

theorem tight_nil : Tight quote [] :=
  ⟨rfl⟩

theorem tight_ofValue (v : Value) : Tight quote (ofValue v) :=
  ⟨rfl, rfl⟩

theorem tight_eachAfter {separator : String} {ts : List BoundText} (hs : Quiet quote separator)
    (h : ∀ t ∈ ts, Tight quote t) : Tight quote (eachAfter separator ts) := by
  induction ts with
  | nil => exact tight_nil
  | cons t ts ih =>
      have hrest := ih fun u hu => h u (List.mem_cons_of_mem _ hu)
      exact ((tight_ofText hs).append (h t List.mem_cons_self)).append hrest

theorem tight_joinWith {separator : String} {ts : List BoundText} (hs : Quiet quote separator)
    (h : ∀ t ∈ ts, Tight quote t) : Tight quote (joinWith separator ts) := by
  cases ts with
  | nil => exact tight_nil
  | cons t ts =>
      exact (h t List.mem_cons_self).append
        (tight_eachAfter hs fun u hu => h u (List.mem_cons_of_mem _ hu))

theorem tight_ofValues (hs : Quiet quote ", ") (vs : List Value) : Tight quote (ofValues vs) :=
  tight_joinWith hs fun _ ht => by
    obtain ⟨v, -, rfl⟩ := List.mem_map.1 ht
    exact tight_ofValue v

/-! ### What a scanner finds in a tight text -/

theorem isMark_question (hq : Delimiter quote) : isMark (opensQuote quote) none '?' = true := by
  rcases hq with rfl | rfl <;> decide

theorem step_question (hq : Delimiter quote) : step (opensQuote quote) none '?' = none := by
  rcases hq with rfl | rfl <;> decide

theorem Reads.countFrom (hq : Delimiter quote) {state final : Scan} {t : BoundText}
    (h : Reads quote state t final) :
    countFrom (opensQuote quote) state (t.writtenChars fun _ => ['?']) = t.values.length := by
  induction t generalizing state with
  | nil => rfl
  | cons place t ih =>
      cases place with
      | char c =>
          have hmark : isMark (opensQuote quote) state c = false := h.1
          simpa [writtenChars, values, Placeholder.countFrom, hmark] using ih h.2
      | slot v =>
          obtain ⟨rfl, hrest⟩ : state = none ∧ _ := h
          simpa [writtenChars, values, Placeholder.countFrom, isMark_question hq,
            step_question hq, Nat.add_comm] using ih hrest

theorem Reads.positionsFrom (hq : Delimiter quote) {state final : Scan} {t : BoundText}
    (h : Reads quote state t final) (n : Nat) :
    positionsFrom (opensQuote quote) state n (t.writtenChars fun _ => ['?']) =
      (slotsFrom n t).map Prod.fst := by
  induction t generalizing state n with
  | nil => rfl
  | cons place t ih =>
      cases place with
      | char c =>
          have hmark : isMark (opensQuote quote) state c = false := h.1
          simpa [writtenChars, slotsFrom, Placeholder.positionsFrom, hmark] using ih h.2 (n + 1)
      | slot v =>
          obtain ⟨rfl, hrest⟩ : state = none ∧ _ := h
          simpa [writtenChars, slotsFrom, Placeholder.positionsFrom, isMark_question hq,
            step_question hq] using ih hrest (n + 1)

theorem map_snd_slotsFrom (n : Nat) (t : BoundText) : (slotsFrom n t).map Prod.snd = t.values := by
  induction t generalizing n with
  | nil => rfl
  | cons place t ih =>
      cases place with
      | char c => simpa [slotsFrom, values] using ih (n + 1)
      | slot v => simpa [slotsFrom, values] using ih (n + 1)

theorem fillFrom_cons_of_not_isMark {opens : Char → Bool} {state : Scan} {c : Char}
    (h : isMark opens state c = false) (texts : List (List Char)) (cs : List Char) :
    fillFrom opens state texts (c :: cs) = c :: fillFrom opens (step opens state c) texts cs := by
  cases texts with
  | nil => simp [Placeholder.fillFrom]
  | cons text texts => simp [Placeholder.fillFrom, h]

theorem Reads.fillFrom (hq : Delimiter quote) {state final : Scan} {t : BoundText}
    (h : Reads quote state t final) (write : Value → List Char) :
    fillFrom (opensQuote quote) state (t.values.map write) (t.writtenChars fun _ => ['?']) =
      t.writtenChars write := by
  induction t generalizing state with
  | nil => rfl
  | cons place t ih =>
      cases place with
      | char c =>
          have hchar := fillFrom_cons_of_not_isMark h.1
            (values t |>.map write) (writtenChars (fun _ => ['?']) t)
          exact hchar.trans (congrArg (c :: ·) (ih h.2))
      | slot v =>
          obtain ⟨rfl, hrest⟩ : state = none ∧ _ := h
          simpa [writtenChars, values, Placeholder.fillFrom, isMark_question hq, step_question hq]
            using ih hrest

/-- **A tight text has as many placeholders as values.** -/
theorem Tight.count (hq : Delimiter quote) {t : BoundText} (h : Tight quote t) :
    count quote t.sql = t.values.length := by
  rw [Placeholder.count, sql, String.toList_ofList]
  exact Reads.countFrom hq h.reads

/-- **The placeholders of a tight text stand where its values do.** -/
theorem Tight.positions (hq : Delimiter quote) {t : BoundText} (h : Tight quote t) :
    positions quote t.sql = t.slots.map Prod.fst := by
  rw [Placeholder.positions, sql, String.toList_ofList, Reads.positionsFrom hq h.reads]
  rfl

theorem map_snd_slots (t : BoundText) : t.slots.map Prod.snd = t.values :=
  map_snd_slotsFrom 0 t

/-- **Filling the placeholders of a tight text writes its values where they stand.** -/
theorem Tight.fill (hq : Delimiter quote) {t : BoundText} (h : Tight quote t)
    (write : Value → String) : fill quote (t.values.map write) t.sql = t.written write := by
  rw [Placeholder.fill, sql, String.toList_ofList, List.map_map, written]
  exact congrArg String.ofList (Reads.fillFrom hq h.reads _)

/-! ### Text that brings its placeholders along -/

/-- A text read from a state with values at its placeholders, from left to right. -/
def bindFrom (opens : Char → Bool) : Scan → List Value → List Char → BoundText
  | _, [], cs => cs.map .char
  | _, _ :: _, [] => []
  | state, v :: vs, c :: rest =>
    if isMark opens state c then .slot v :: bindFrom opens (step opens state c) vs rest
    else .char c :: bindFrom opens (step opens state c) (v :: vs) rest

/-- A text with values at its placeholders. -/
def ofRaw (quote : Char) (text : String) (vs : List Value) : BoundText :=
  bindFrom (opensQuote quote) none vs text.toList

theorem writtenChars_bindFrom (opens : Char → Bool) (state : Scan) (vs : List Value)
    (cs : List Char) : (bindFrom opens state vs cs).writtenChars (fun _ => ['?']) = cs := by
  induction cs generalizing state vs with
  | nil => cases vs <;> rfl
  | cons c cs ih =>
      cases vs with
      | nil =>
          rw [bindFrom, writtenChars, List.flatMap_map]
          exact List.flatMap_singleton' _
      | cons v vs =>
          rw [bindFrom]
          split
          · rename_i hmark
            rw [eq_of_isMark hmark]
            simpa [writtenChars] using ih _ vs
          · simpa [writtenChars] using ih _ (v :: vs)

@[simp] theorem sql_ofRaw (quote : Char) (text : String) (vs : List Value) :
    sql (ofRaw quote text vs) = text := by
  rw [sql, ofRaw, writtenChars_bindFrom, String.ofList_toList]

theorem values_bindFrom (opens : Char → Bool) {state : Scan} {vs : List Value} {cs : List Char}
    (h : countFrom opens state cs = vs.length) : (bindFrom opens state vs cs).values = vs := by
  induction cs generalizing state vs with
  | nil =>
      rw [countFrom] at h
      rw [List.length_eq_zero_iff.1 h.symm]
      rfl
  | cons c cs ih =>
      cases vs with
      | nil =>
          rw [bindFrom, values, List.filterMap_map]
          exact List.filterMap_eq_nil_iff.2 fun _ _ => rfl
      | cons v vs =>
          rw [countFrom, List.length_cons] at h
          rw [bindFrom]
          split
          · rename_i hmark
            rw [if_pos hmark] at h
            have hrest : (bindFrom opens (step opens state c) vs cs).values = vs := ih (by omega)
            simpa [values] using hrest
          · rename_i hmark
            rw [if_neg hmark, Nat.zero_add] at h
            have hrest : (bindFrom opens (step opens state c) (v :: vs) cs).values = v :: vs := ih h
            simpa [values] using hrest

theorem reads_bindFrom (hq : Delimiter quote) {state : Scan} {vs : List Value} {cs : List Char}
    (h : countFrom (opensQuote quote) state cs = vs.length) :
    Reads quote state (bindFrom (opensQuote quote) state vs cs)
      (run (opensQuote quote) state cs) := by
  induction cs generalizing state vs with
  | nil => cases vs <;> rfl
  | cons c cs ih =>
      cases vs with
      | nil => exact reads_chars h
      | cons v vs =>
          rw [countFrom, List.length_cons] at h
          rw [bindFrom, run_cons]
          split
          · rename_i hmark
            rw [if_pos hmark] at h
            have hstate : state = none := by
              cases state with
              | none => rfl
              | some q => exact absurd hmark Bool.false_ne_true
            subst hstate
            rw [eq_of_isMark hmark, step_question hq] at h ⊢
            exact ⟨rfl, ih (by omega)⟩
          · rename_i hmark
            rw [if_neg hmark, Nat.zero_add] at h
            have hrest : Reads quote (step (opensQuote quote) state c)
                (bindFrom (opensQuote quote) (step (opensQuote quote) state c) (v :: vs) cs) _ :=
              ih h
            exact ⟨Bool.eq_false_iff.2 hmark, hrest⟩

/-- A closed text with as many values as placeholders is tight, and its values are these. -/
theorem tight_ofRaw (hq : Delimiter quote) {text : String} {vs : List Value}
    (hclosed : Closed quote text) (h : Placeholder.count quote text = vs.length) :
    Tight quote (ofRaw quote text vs) ∧ (ofRaw quote text vs).values = vs := by
  refine ⟨?_, values_bindFrom _ h⟩
  have hreads := reads_bindFrom hq h
  rw [hclosed] at hreads
  exact ⟨hreads⟩

end BoundText
end EntityQuery

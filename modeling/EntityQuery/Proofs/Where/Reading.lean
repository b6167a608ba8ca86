/-
# Reading a WHERE clause

The words of a WHERE clause are read from left to right, AND binding tighter than
OR and parentheses grouping (`Word.satisfied`).  What was read between two
parentheses is an alternative of conjunctions: whether one that is complete
holds, and whether the current one does so far (`Level`).

Conditions are kept as a tree, and a tree has a truth value of its own
(`BoundCondition.holds`).  `satisfied_allOf_whereParts` says that the words which
are written for conditions and JSON predicates read as the conditions and all of
the predicates: no parentheses are missing.

A predicate is one word, whatever expression its column is.  A truth value is
whether it is satisfied, so an unknown predicate counts as false; AND and OR take
no unknown predicate for a satisfied one.
-/

import EntityQuery.Proofs.Bound.Clauses
import Mathlib.Data.List.Forall2

namespace EntityQuery

/-- What was read at one level of parentheses: whether a complete alternative holds, and whether
the current one does so far. -/
structure Level where
  complete : Bool := false
  current : Bool := true

namespace Level

/-- Whether what was read holds. -/
def value (l : Level) : Bool :=
  l.complete || l.current

/-- The level after a predicate or a group. -/
def meet (l : Level) (b : Bool) : Level :=
  { l with current := l.current && b }

/-- The level after a connector; an OR completes the current alternative. -/
def after (l : Level) : Connector → Level
  | .and => l
  | .or => ⟨l.value, true⟩

/-- What holds at the first level holds at the second. -/
structure Le (l m : Level) : Prop where
  complete : l.complete = true → m.complete = true
  current : l.current = true → m.current = true

theorem Le.refl (l : Level) : Le l l :=
  ⟨id, id⟩

theorem Le.value {l m : Level} (h : Le l m) (hl : l.value = true) : m.value = true := by
  rw [Level.value, Bool.or_eq_true] at hl ⊢
  exact hl.imp h.complete h.current

theorem Le.meet {l m : Level} (h : Le l m) {b c : Bool} (hbc : b = true → c = true) :
    Le (l.meet b) (m.meet c) := by
  refine ⟨h.complete, fun hl => ?_⟩
  rw [Level.meet, Bool.and_eq_true] at hl ⊢
  exact ⟨h.current hl.1, hbc hl.2⟩

theorem Le.after {l m : Level} (h : Le l m) (c : Connector) : Le (l.after c) (m.after c) := by
  cases c with
  | and => exact h
  | or => exact ⟨h.value, id⟩

end Level

/-- What was read: the current level, and the levels around it from the inside to the outside. -/
structure Reading where
  level : Level := {}
  outer : List Level := []

/-- Reads one word. -/
def Reading.step (satisfies : BoundText → Bool) (r : Reading) : Word → Reading
  | .test predicate => { r with level := r.level.meet (satisfies predicate) }
  | .and => { r with level := r.level.after .and }
  | .or => { r with level := r.level.after .or }
  | .opening => ⟨{}, r.level :: r.outer⟩
  | .closing =>
    match r.outer with
    | [] => r
    | l :: outer => ⟨l.meet r.level.value, outer⟩

/-- Whether the words of a WHERE clause are satisfied. -/
def Word.satisfied (satisfies : BoundText → Bool) (words : List Word) : Bool :=
  (words.foldl (Reading.step satisfies) {}).level.value

/-! ### More predicates -/

/-- What holds in the first reading holds in the second, on all levels. -/
structure Reading.Le (r r' : Reading) : Prop where
  level : r.level.Le r'.level
  outer : List.Forall₂ Level.Le r.outer r'.outer

section Monotone

variable {f g : BoundText → Bool}

theorem Reading.Le.step {r r' : Reading} (h : Le r r') (hfg : ∀ t, f t = true → g t = true)
    (w : Word) : Le (r.step f w) (r'.step g w) := by
  obtain ⟨level, outer⟩ := r
  obtain ⟨level', outer'⟩ := r'
  obtain ⟨hlevel, houter⟩ := h
  cases w with
  | test predicate => exact ⟨hlevel.meet (hfg predicate), houter⟩
  | and => exact ⟨hlevel.after .and, houter⟩
  | or => exact ⟨hlevel.after .or, houter⟩
  | opening => exact ⟨Level.Le.refl _, .cons hlevel houter⟩
  | closing =>
      cases houter with
      | nil => exact ⟨hlevel, .nil⟩
      | cons hl hrest => exact ⟨hl.meet hlevel.value, hrest⟩

theorem Reading.Le.foldl {words : List Word} {r r' : Reading} (h : Le r r')
    (hfg : ∀ t, f t = true → g t = true) :
    Le (words.foldl (Reading.step f) r) (words.foldl (Reading.step g) r') := by
  induction words generalizing r r' with
  | nil => exact h
  | cons w words ih => exact ih (h.step hfg w)

/-- There is no negation in a WHERE clause: satisfying more predicates keeps it satisfied. -/
theorem Word.satisfied_mono {words : List Word} (hfg : ∀ t, f t = true → g t = true)
    (h : satisfied f words = true) : satisfied g words = true := by
  have hle : Reading.Le {} {} := ⟨Level.Le.refl _, .nil⟩
  exact (hle.foldl hfg).level.value h

end Monotone

/-! ### Conditions -/

namespace BoundCondition

variable (q : Quoting) (satisfies : BoundText → Bool)

mutual

/-- Whether a condition holds, its connector aside. -/
def holds : BoundCondition → Bool
  | .compare connector column op operand =>
    satisfies ((BoundCondition.compare connector column op operand).text q)
  | .list connector column negated vs =>
    satisfies ((BoundCondition.list connector column negated vs).text q)
  | .subquery connector column op query =>
    satisfies ((BoundCondition.subquery connector column op query).text q)
  | .group _ members => (level members).value

/-- The level after a list of conditions, the first connector left out. -/
def level : List BoundCondition → Level
  | [] => {}
  | first :: rest => levelTail (Level.meet {} (holds first)) rest

/-- The level after conditions that follow others. -/
def levelTail (l : Level) : List BoundCondition → Level
  | [] => l
  | c :: rest => levelTail ((l.after c.connector).meet (holds c)) rest

end

/-- Whether a list of conditions holds. -/
def holdsList (cs : List BoundCondition) : Bool :=
  (level q satisfies cs).value

theorem step_word (c : Connector) (l : Level) (outer : List Level) :
    Reading.step satisfies ⟨l, outer⟩ c.word = ⟨l.after c, outer⟩ := by
  cases c with
  | and => rfl
  | or => rfl

mutual

/-- Reading the words of a condition meets the level with its truth value. -/
theorem foldl_words (c : BoundCondition) (l : Level) (outer : List Level) :
    (c.words q).foldl (Reading.step satisfies) ⟨l, outer⟩ =
      ⟨l.meet (c.holds q satisfies), outer⟩ := by
  cases c with
  | compare connector column op operand =>
      simp [words, holds, text, Reading.step, Word.text]
  | list connector column negated vs =>
      simp [words, holds, text, Reading.step, Word.text]
  | subquery connector column op query =>
      simp [words, holds, text, Reading.step, Word.text]
  | group connector members =>
      have hmembers := foldl_wordsList members (l :: outer)
      have hopened : (Word.opening :: wordsList q members).foldl (Reading.step satisfies)
          ⟨l, outer⟩ = ⟨level q satisfies members, l :: outer⟩ := hmembers
      rw [words, List.foldl_append, hopened]
      rfl

theorem foldl_wordsList (cs : List BoundCondition) (outer : List Level) :
    (wordsList q cs).foldl (Reading.step satisfies) ⟨{}, outer⟩ =
      ⟨level q satisfies cs, outer⟩ := by
  cases cs with
  | nil => rfl
  | cons first rest =>
      rw [wordsList, List.foldl_append, foldl_words first, foldl_wordsTail rest, level]

theorem foldl_wordsTail (cs : List BoundCondition) (l : Level) (outer : List Level) :
    (wordsTail q cs).foldl (Reading.step satisfies) ⟨l, outer⟩ =
      ⟨levelTail q satisfies l cs, outer⟩ := by
  cases cs with
  | nil => rfl
  | cons c rest =>
      rw [wordsTail, List.cons_append, List.foldl_cons, step_word, List.foldl_append,
        foldl_words c, foldl_wordsTail rest, levelTail]

end

/-- Where no OR stands between conditions, no alternative is ever complete. -/
theorem complete_levelTail {cs : List BoundCondition} {l : Level}
    (h : (conditions cs).any (fun c => c.connector == .or) = false) :
    (levelTail q satisfies l cs).complete = l.complete := by
  induction cs generalizing l with
  | nil => rfl
  | cons c rest ih =>
      rw [conditions, List.any_cons, Bool.or_eq_false_iff, connector_condition,
        beq_eq_false_iff_ne] at h
      obtain ⟨hc, hrest⟩ := h
      rw [levelTail, ih hrest]
      cases hconnector : c.connector with
      | and => rfl
      | or => exact absurd hconnector hc

theorem complete_level {cs : List BoundCondition}
    (h : Condition.hasTopLevelOr (conditions cs) = false) :
    (level q satisfies cs).complete = false := by
  cases cs with
  | nil => rfl
  | cons first rest =>
      rw [level, complete_levelTail q satisfies h]
      rfl

end BoundCondition

/-! ### The whole clause -/

namespace BoundClauses

variable (q : Quoting) (satisfies : BoundText → Bool)

/-- JSON predicates follow with AND: each of them is met. -/
theorem foldl_json (json : List BoundText) (l : Level) :
    ((json.map fun t => [Word.test t]).flatMap (Word.and :: ·)).foldl (Reading.step satisfies)
      ⟨l, []⟩ = ⟨l.meet (json.all satisfies), []⟩ := by
  induction json generalizing l with
  | nil =>
      rw [List.all_nil, Level.meet, Bool.and_true]
      rfl
  | cons t json ih =>
      rw [List.map_cons, List.flatMap_cons, List.foldl_append, List.all_cons]
      refine (ih (l.meet (satisfies t))).trans ?_
      rw [Level.meet, Level.meet, Level.meet, Bool.and_assoc]

theorem satisfied_part_json {part : List Word} {l : Level} (json : List BoundText)
    (hpart : part.foldl (Reading.step satisfies) {} = ⟨l, []⟩) :
    Word.satisfied satisfies (Word.allOf (part :: json.map fun t => [.test t])) =
      (l.meet (json.all satisfies)).value := by
  rw [Word.satisfied, Word.allOf, List.foldl_append, hpart, foldl_json]

/-- **Conditions and JSON predicates are read as they are meant.**  The words that are written for
them are satisfied if and only if the list of conditions holds and every JSON predicate is
satisfied. -/
theorem satisfied_allOf_whereParts (conditions : List BoundCondition) (json : List BoundText) :
    Word.satisfied satisfies (Word.allOf (whereParts q conditions json)) =
      (BoundCondition.holdsList q satisfies conditions && json.all satisfies) := by
  have hlist := BoundCondition.foldl_wordsList q satisfies conditions []
  unfold whereParts
  simp only
  split
  · rename_i hempty
    rw [List.isEmpty_iff.1 hempty, List.nil_append]
    cases json with
    | nil => rfl
    | cons t json =>
        rw [List.map_cons, satisfied_part_json satisfies json rfl, List.all_cons]
        rfl
  · split
    · rw [List.singleton_append, satisfied_part_json satisfies json
        (l := Level.meet {} (BoundCondition.holdsList q satisfies conditions))]
      · rfl
      · have hgroup := BoundCondition.foldl_words q satisfies (.group .and conditions) {} []
        rw [BoundCondition.words, BoundCondition.holds] at hgroup
        exact hgroup
    · rename_i hplain
      rw [List.singleton_append, satisfied_part_json satisfies json hlist]
      rw [Bool.and_eq_true, not_and_or, Bool.not_eq_true, Bool.not_eq_true, Bool.not_eq_false',
        List.isEmpty_iff] at hplain
      rcases hplain with hjson | hor
      · rw [hjson, List.all_nil, Level.meet, Bool.and_true, Bool.and_true]
        rfl
      · have hcomplete := BoundCondition.complete_level q satisfies hor
        rw [BoundCondition.holdsList, Level.value, Level.value, Level.meet, hcomplete,
          Bool.false_or, Bool.false_or]

end BoundClauses
end EntityQuery

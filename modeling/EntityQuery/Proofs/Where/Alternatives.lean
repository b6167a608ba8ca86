/-
# The alternatives of a WHERE clause

Where AND binds tighter than OR, a list of conditions is a choice between the runs that
its ORs separate (`Alternatives`).  It holds if all conditions of one run hold, and the
level that reading the list leads to keeps exactly that (`level_ofList`): whether a run
that is complete holds, and whether the last one does.

A condition that follows with AND joins the last run only.  What it adds to the truth
value of the whole list, and what a condition that follows with OR adds, is said by
`holdsList_append_of_and` and `holdsList_append_of_or`, and `satisfied_selectWords` says
what stands around the conditions in the WHERE clause of a SELECT.
-/

import EntityQuery.Proofs.Where.Isolation
import EntityQuery.Proofs.Where.Meaning

namespace EntityQuery

/-- The runs between the ORs of a list of conditions: those that an OR completes, and the last. -/
structure Alternatives where
  complete : List (List BoundCondition) := []
  current : List BoundCondition := []

namespace Alternatives

/-- The runs with a condition that follows. -/
def add (a : Alternatives) (c : BoundCondition) : Alternatives :=
  match c.connector with
  | .and => { a with current := a.current ++ [c] }
  | .or => ⟨a.complete ++ [a.current], [c]⟩

/-- The runs of a list of conditions, the first connector left out. -/
def ofList : List BoundCondition → Alternatives
  | [] => {}
  | first :: rest => rest.foldl add ⟨[], [first]⟩

/-- All runs in order. -/
def runs (a : Alternatives) : List (List BoundCondition) :=
  a.complete ++ [a.current]

variable (q : Quoting) (satisfies : BoundText → Bool)

/-- Whether a run that is complete holds, and whether the last one does. -/
def level (a : Alternatives) : Level where
  complete := a.complete.any fun run => run.all fun c => c.holds q satisfies
  current := a.current.all fun c => c.holds q satisfies

theorem level_add (a : Alternatives) (c : BoundCondition) :
    (a.add c).level q satisfies =
      ((a.level q satisfies).after c.connector).meet (c.holds q satisfies) := by
  unfold add
  cases c.connector with
  | and => simp [level, Level.after, Level.meet]
  | or => simp [level, Level.after, Level.meet, Level.value]

theorem levelTail_level (a : Alternatives) (cs : List BoundCondition) :
    BoundCondition.levelTail q satisfies (a.level q satisfies) cs =
      (cs.foldl add a).level q satisfies := by
  induction cs generalizing a with
  | nil => rfl
  | cons c cs ih => rw [BoundCondition.levelTail, ← level_add, ih, List.foldl_cons]

/-- **Reading a list of conditions tells which of its runs hold.** -/
theorem level_ofList (cs : List BoundCondition) :
    BoundCondition.level q satisfies cs = (ofList cs).level q satisfies := by
  cases cs with
  | nil => rfl
  | cons first rest =>
      have hfirst : Level.meet {} (first.holds q satisfies) =
          level q satisfies ⟨[], [first]⟩ := by
        simp [level, Level.meet]
      rw [BoundCondition.level, hfirst, levelTail_level, ofList]

theorem foldl_add_of_noOr (a : Alternatives) {cs : List BoundCondition}
    (h : (BoundCondition.conditions cs).any (fun c => c.connector == .or) = false) :
    cs.foldl add a = { a with current := a.current ++ cs } := by
  induction cs generalizing a with
  | nil =>
      rw [List.append_nil]
      rfl
  | cons c cs ih =>
      rw [BoundCondition.conditions, List.any_cons, Bool.or_eq_false_iff,
        BoundCondition.connector_condition, beq_eq_false_iff_ne] at h
      obtain ⟨hc, hcs⟩ := h
      have hadd : a.add c = { a with current := a.current ++ [c] } := by
        unfold add
        cases hconnector : c.connector with
        | and => rfl
        | or => exact absurd hconnector hc
      rw [List.foldl_cons, ih _ hcs, hadd, List.append_assoc]
      rfl

/-- Where no OR stands between conditions there is one run. -/
theorem ofList_of_noOr {cs : List BoundCondition}
    (h : Condition.hasTopLevelOr (BoundCondition.conditions cs) = false) :
    ofList cs = ⟨[], cs⟩ := by
  cases cs with
  | nil => rfl
  | cons first rest => exact foldl_add_of_noOr ⟨[], [first]⟩ h

end Alternatives

namespace BoundCondition

variable {q : Quoting} {satisfies : BoundText → Bool} {cs : List BoundCondition}
  {d : BoundCondition}

/-- Whether one of the runs holds that an OR completes. -/
abbrev completeHolds (q : Quoting) (satisfies : BoundText → Bool) (cs : List BoundCondition) :
    Bool :=
  (Alternatives.ofList cs).complete.any fun run => run.all fun c => c.holds q satisfies

/-- Whether the last run holds. -/
abbrev currentHolds (q : Quoting) (satisfies : BoundText → Bool) (cs : List BoundCondition) :
    Bool :=
  (Alternatives.ofList cs).current.all fun c => c.holds q satisfies

/-- A list of conditions holds if one of its runs does. -/
theorem holdsList_eq (q : Quoting) (satisfies : BoundText → Bool) (cs : List BoundCondition) :
    holdsList q satisfies cs = (completeHolds q satisfies cs || currentHolds q satisfies cs) := by
  rw [holdsList, Alternatives.level_ofList]
  rfl

theorem holdsList_eq_any (q : Quoting) (satisfies : BoundText → Bool) (cs : List BoundCondition) :
    holdsList q satisfies cs =
      (Alternatives.ofList cs).runs.any fun run => run.all fun c => c.holds q satisfies := by
  rw [holdsList_eq, Alternatives.runs, List.any_append, List.any_cons, List.any_nil, Bool.or_false]

theorem level_append (hcs : cs ≠ []) :
    level q satisfies (cs ++ [d]) =
      ((level q satisfies cs).after d.connector).meet (d.holds q satisfies) := by
  cases cs with
  | nil => exact absurd rfl hcs
  | cons first rest => rw [List.cons_append, level, levelTail_append, levelTail, levelTail, level]

/-- A condition that follows with AND is met by the last run only. -/
theorem holdsList_append_of_and (hd : d.connector = .and) :
    holdsList q satisfies (cs ++ [d]) =
      (completeHolds q satisfies cs || currentHolds q satisfies cs && d.holds q satisfies) := by
  cases cs with
  | nil => rfl
  | cons first rest =>
      rw [holdsList, level_append (List.cons_ne_nil _ _), hd, Alternatives.level_ofList]
      rfl

/-- A condition that follows with OR is a run of its own. -/
theorem holdsList_append_of_or (hcs : cs ≠ []) (hd : d.connector = .or) :
    holdsList q satisfies (cs ++ [d]) = (holdsList q satisfies cs || d.holds q satisfies) := by
  rw [holdsList, level_append hcs, hd, holdsList]
  simp [Level.after, Level.meet, Level.value]

theorem value_levelTail_of_or (l : Level) (hor : ∀ c ∈ cs, c.connector = .or) :
    (levelTail q satisfies l cs).value = (l.value || cs.any fun c => c.holds q satisfies) := by
  induction cs generalizing l with
  | nil => rw [levelTail, List.any_nil, Bool.or_false]
  | cons c cs ih =>
      rw [levelTail, ih _ fun d hd => hor d (List.mem_cons_of_mem _ hd), hor c List.mem_cons_self,
        List.any_cons, ← Bool.or_assoc]
      simp [Level.after, Level.meet, Level.value]

/-- Conditions with OR between any two of them hold if one of them does. -/
theorem holdsList_of_or (hcs : cs ≠ []) (hor : ∀ c ∈ cs, c.connector = .or) :
    holdsList q satisfies cs = cs.any fun c => c.holds q satisfies := by
  cases cs with
  | nil => exact absurd rfl hcs
  | cons first rest =>
      rw [holdsList, level, value_levelTail_of_or _ fun d hd => hor d (List.mem_cons_of_mem _ hd),
        List.any_cons]
      rfl

/-- The words of a condition are satisfied if it holds. -/
theorem satisfied_words (c : BoundCondition) :
    Word.satisfied satisfies (c.words q) = c.holds q satisfies := by
  rw [Word.satisfied, foldl_words q satisfies c {} []]
  rfl

/-- Satisfying more predicates keeps a condition true. -/
theorem holds_mono {f g : BoundText → Bool} (hfg : ∀ t, f t = true → g t = true)
    {c : BoundCondition} (h : c.holds q f = true) : c.holds q g = true := by
  rw [← satisfied_words] at h ⊢
  exact Word.satisfied_mono hfg h

end BoundCondition

namespace BoundClauses

variable {s : Statement} {k : BoundClauses}

/-- What a SELECT asks for besides its conditions: the JSON predicates, and the test for rows that
are not deleted where compiling adds it. -/
def besides (k : BoundClauses) (s : Statement) (satisfies : BoundText → Bool) : Bool :=
  k.jsonConditions.all satisfies &&
    (!s.addsNotDeleted ||
      satisfies ((BoundCondition.notDeleted s.softDeleteColumn).text s.quoting))

/-- **The WHERE clause of a SELECT** is satisfied if the conditions hold and what stands besides
them is satisfied. -/
theorem satisfied_selectWords (h : s.fragments = k.fragments) (satisfies : BoundText → Bool) :
    Word.satisfied satisfies (k.selectWords s) =
      (BoundCondition.holdsList s.quoting satisfies k.conditions && k.besides s satisfies) := by
  rw [selectWords, satisfied_allOf_whereParts, holdsList_selectConditions h, besides,
    Bool.and_assoc, Bool.and_comm (!s.addsNotDeleted || _)]

/-- The words of the WHERE clause stand in the text that a SELECT with conditions emits. -/
theorem exists_emitted {context : Context} {calls : List Call}
    (h : (Statement.build context calls).buildError = none)
    (hkind : (Statement.build context calls).kind = .select)
    (hconditions : (Statement.build context calls).selectConditions ≠ []) :
    ∃ head tail, emitted context calls =
      head ++ (.ofText " WHERE " ++ Word.textOf ((placeAll (.new context) {} calls).selectWords
        (Statement.build context calls))) ++ tail := by
  have hfragments : (Statement.build context calls).fragments =
      (placeAll (.new context) {} calls).fragments := fragments_applyAll calls h rfl
  have hne : (placeAll (.new context) {} calls).selectConditions
      (Statement.build context calls) ≠ [] := by
    intro hnil
    have hselect := conditions_selectConditions hfragments
    rw [hnil] at hselect
    exact hconditions hselect.symm
  obtain ⟨head, tail, htext⟩ := exists_selectText hne
  refine ⟨head, tail, ?_⟩
  rw [emitted, BoundClauses.text, hkind]
  exact htext

end BoundClauses

/-- A SELECT with conditions has some after WHERE. -/
theorem Statement.selectConditions_ne_nil_of_conditions {s : Statement} (h : s.conditions ≠ []) :
    s.selectConditions ≠ [] := by
  by_cases hfilters : s.filtersDeleted = true
  · exact selectConditions_ne_nil hfilters
  · rw [selectConditions, Bool.not_eq_true _ |>.mp hfilters, Bool.not_false, if_pos rfl]
    exact h

/-- A condition that is added may be the test itself that compiling would add. -/
theorem Statement.addsNotDeleted_addCondition (s : Statement) (c : Condition)
    (values : List Value) :
    (s.addCondition c values).addsNotDeleted =
      (s.addsNotDeleted && !c.isNullCheck s.quoting s.softDeleteColumn false .and) := by
  have hparts : (s.addCondition c values).addsNotDeleted = (s.filtersDeleted &&
      !(s.conditions ++ [c]).any (Condition.isNullCheck s.quoting s.softDeleteColumn false .and)) :=
    rfl
  rw [hparts, List.any_append, List.any_cons, List.any_nil, Bool.or_false, Bool.not_or,
    ← Bool.and_assoc, addsNotDeleted]

end EntityQuery

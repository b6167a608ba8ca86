/-
# SELECTs without marked rows

A SELECT of a class with marks of deletion is to leave out the rows that are
marked.  Compiling it adds the test for that, but only if the conditions do not
have it yet, and a test that is there already is trusted however the other
conditions stand to it.  `select_excludes_marked_iff` says for which statements
this is enough: those whose own test stands in every alternative.
-/

import EntityQuery.Proofs.Bound.Agreement
import EntityQuery.Proofs.Where.Rows

namespace EntityQuery

/-! ### What a SELECT demands -/

namespace Condition

variable {q : Quoting} {mark : String} {notNull : Bool}

theorem demands_of_isNullCheck {connector : Connector} {c : Condition}
    (h : c.isNullCheck q mark notNull connector = true) : c.demands q mark notNull = true := by
  obtain ⟨column, rfl, hname⟩ := isNullCheck_iff.1 h
  simp [demands, ColumnRef.refersTo, hname]

theorem demands_notDeleted : (notDeleted mark).demands q mark false = true :=
  demands_of_isNullCheck (isNullCheck_self q mark true false .and)

/-- Where no OR stands between conditions, one demand is enough. -/
theorem demandsTail_of_noOr {cs : List Condition} {before current : Bool}
    (h : cs.any (fun c => c.connector == .or) = false) :
    demandsTail q mark notNull before current cs =
      (before && (current || cs.any (demands q mark notNull))) := by
  induction cs generalizing current with
  | nil => rw [demandsTail, List.any_nil, Bool.or_false]
  | cons c cs ih =>
      rw [List.any_cons, Bool.or_eq_false_iff, beq_eq_false_iff_ne] at h
      obtain ⟨hc, hcs⟩ := h
      rw [demandsTail, List.any_cons]
      cases hconnector : c.connector with
      | and => rw [ih hcs, Bool.or_assoc]
      | or => exact absurd hconnector hc

theorem demandsList_of_noOr {cs : List Condition} (h : hasTopLevelOr cs = false) :
    demandsList q mark notNull cs = cs.any (demands q mark notNull) := by
  cases cs with
  | nil => rfl
  | cons c cs =>
      have hcs : cs.any (fun c => c.connector == .or) = false := h
      rw [demandsList, demandsTail_of_noOr hcs, Bool.true_and, List.any_cons]

theorem hasTopLevelOr_append_notDeleted {cs : List Condition} (h : hasTopLevelOr cs = false) :
    hasTopLevelOr (cs ++ [notDeleted mark]) = false := by
  cases cs with
  | nil => rfl
  | cons c cs =>
      have hcs : cs.any (fun c => c.connector == .or) = false := h
      rw [hasTopLevelOr, List.cons_append, List.tail_cons, List.any_append, hcs]
      rfl

end Condition

namespace Statement

variable {s : Statement}

/-- The conditions of a SELECT demand the test for null unless the statement has one of its own that
not all of its conditions demand. -/
theorem demandsList_selectConditions (h : s.filtersDeleted = true) :
    Condition.demandsList s.quoting s.softDeleteColumn false s.selectConditions =
      (!s.conditions.any (Condition.isNullCheck s.quoting s.softDeleteColumn false .and) ||
        Condition.demandsList s.quoting s.softDeleteColumn false s.conditions) := by
  unfold selectConditions
  rw [h, Bool.not_true, if_neg Bool.false_ne_true]
  split
  · rename_i hcheck
    rw [hcheck]
    rfl
  · rename_i hcheck
    rw [Bool.not_eq_true] at hcheck
    rw [hcheck, Bool.not_false, Bool.true_or]
    split
    · rw [Condition.demandsList_of_noOr rfl, List.any_cons, List.any_cons,
        Condition.demands_notDeleted, Bool.true_or, Bool.or_true]
    · rename_i hor
      rw [Bool.not_eq_true] at hor
      rw [Condition.demandsList_of_noOr (Condition.hasTopLevelOr_append_notDeleted hor),
        List.any_append, List.any_cons, Condition.demands_notDeleted, Bool.true_or, Bool.or_true]

end Statement

/-! ### JSON predicates -/

namespace BoundClauses

/-- A property of every JSON predicate that a call can add. -/
structure OfJson (P : BoundText → Prop) : Prop where
  path : ∀ (d : Dialect) (q : Quoting) (column : String) (path : Value) (op : Operator)
    (value : Value), P (d.pathText q column path op value)
  contains : ∀ (d : Dialect) (q : Quoting) (column : String) (value : Json),
    P (d.containsText q column value)

variable {k : BoundClauses} {P : BoundText → Prop}

theorem forall_json_addJson (h : ∀ t ∈ k.jsonConditions, P t) {t : BoundText} (ht : P t) :
    ∀ u ∈ (k.addJson t).jsonConditions, P u := by
  intro u hu
  rcases List.mem_append.1 hu with hu | hu
  · exact h u hu
  · rw [List.mem_singleton.1 hu]
    exact ht

theorem OfJson.place (hP : OfJson P) (h : ∀ t ∈ k.jsonConditions, P t) (s : Statement)
    (c : Call) : ∀ t ∈ (place s k c).jsonConditions, P t := by
  cases c with
  | compare =>
      rw [BoundClauses.place, compare]
      split
      · exact h
      · exact h
  | compareSub =>
      rw [BoundClauses.place, compareSub]
      split
      · exact h
      · exact h
  | group =>
      rw [BoundClauses.place, addGroup]
      split
      · exact h
      · exact h
  | nullCheck =>
      rw [BoundClauses.place, nullCheck]
      simp only
      split
      · exact h
      · exact h
  | onlyTrashed =>
      rw [BoundClauses.place, onlyTrashed, nullCheck]
      simp only
      split
      · exact h
      · exact h
  | having =>
      rw [BoundClauses.place, setHaving]
      split
      · exact h
      · exact h
  | orderBy =>
      rw [BoundClauses.place, orderBy]
      split
      · exact h
      · exact h
  | orderByCase =>
      rw [BoundClauses.place, orderByCase]
      split
      · exact h
      · exact h
  | window =>
      rw [BoundClauses.place, window]
      split
      · exact h
      · exact h
  | jsonContains =>
      rw [BoundClauses.place]
      exact forall_json_addJson h (hP.contains _ _ _ _)
  | jsonCompare =>
      rw [BoundClauses.place, jsonCompare]
      split
      · exact h
      · exact forall_json_addJson h (hP.path _ _ _ _ _ _)
  | _ =>
      rw [BoundClauses.place]
      exact h

/-- **What holds of every JSON predicate** that a call can add holds of those of a construction. -/
theorem OfJson.placeAll (hP : OfJson P) (h : ∀ t ∈ k.jsonConditions, P t) (s : Statement)
    (calls : List Call) : ∀ t ∈ (placeAll s k calls).jsonConditions, P t := by
  induction calls generalizing s k with
  | nil => exact h
  | cons c calls ih =>
      rw [BoundClauses.placeAll]
      exact ih (hP.place h s c) (s.apply c)

/-- Every JSON predicate compares with a value. -/
def BindsJson (k : BoundClauses) : Prop :=
  ∀ t ∈ k.jsonConditions, t.values ≠ []

theorem values_pathText_ne_nil (d : Dialect) (q : Quoting) (column : String) (path : Value)
    (op : Operator) (value : Value) : (d.pathText q column path op value).values ≠ [] := by
  cases op <;> simp [Dialect.pathText, Dialect.extractText]

theorem values_containsText_ne_nil (d : Dialect) (q : Quoting) (column : String) (value : Json) :
    (d.containsText q column value).values ≠ [] := by
  cases d <;> simp [Dialect.containsText]

theorem bindsJson_placeAll (h : k.BindsJson) (s : Statement) (calls : List Call) :
    (placeAll s k calls).BindsJson :=
  OfJson.placeAll ⟨values_pathText_ne_nil, values_containsText_ne_nil⟩ h s calls

/-! ### The WHERE clause of a SELECT -/

/-- The words of the WHERE clause of a SELECT. -/
def selectWords (k : BoundClauses) (s : Statement) : List Word :=
  Word.allOf (whereParts s.quoting (k.selectConditions s) k.jsonConditions)

theorem whereParts_ne_nil {q : Quoting} {conditions : List BoundCondition} {json : List BoundText}
    (h : conditions ≠ []) : whereParts q conditions json ≠ [] := by
  unfold whereParts
  rw [if_neg fun hempty => h (List.isEmpty_iff.1 hempty)]
  split
  · exact List.cons_ne_nil _ _
  · exact List.cons_ne_nil _ _

/-- The words of the WHERE clause stand in the text of a SELECT after the keyword. -/
theorem exists_selectText {s : Statement} (h : k.selectConditions s ≠ []) :
    ∃ head tail, k.selectText s =
      head ++ (.ofText " WHERE " ++ Word.textOf (k.selectWords s)) ++ tail := by
  have hclause : k.whereClause s.quoting (k.selectConditions s) =
      .ofText " WHERE " ++ Word.textOf (k.selectWords s) := by
    rw [whereClause, whereText?,
      if_neg fun hempty => whereParts_ne_nil h (List.isEmpty_iff.1 hempty)]
    rfl
  rw [← hclause]
  exact k.exists_selectText_eq s

/-- Among the rows that are marked alike one satisfies the WHERE clause of a SELECT if any does.  It
does if and only if the conditions of the SELECT do not demand the test for the opposite. -/
theorem satisfied_most {s : Statement} (hs : s.fragments = k.fragments) (hk : k.BindsJson)
    (mark : String) (marked : Bool) :
    Word.satisfied (RowView.most s.quoting mark marked).satisfies (k.selectWords s) =
      !Condition.demandsList s.quoting mark (!marked) s.selectConditions := by
  have hjson : k.jsonConditions.all (RowView.most s.quoting mark marked).satisfies = true :=
    List.all_eq_true.2 fun t ht =>
      RowView.most_satisfies (RowView.not_testsMark_of_values (hk t ht))
  rw [selectWords, satisfied_allOf_whereParts, hjson, Bool.and_true, BoundCondition.holdsList,
    BoundCondition.holdsList_most, conditions_selectConditions hs]

end BoundClauses

namespace Statement

open BoundClauses

variable {s : Statement}

theorem selectConditions_ne_nil (h : s.filtersDeleted = true) : s.selectConditions ≠ [] := by
  unfold selectConditions
  rw [h, Bool.not_true, if_neg Bool.false_ne_true]
  split
  · rename_i hcheck
    intro hnil
    rw [hnil] at hcheck
    exact Bool.false_ne_true hcheck
  · split
    · exact List.cons_ne_nil _ _
    · exact List.append_ne_nil_of_right_ne_nil _ (List.cons_ne_nil _ _)

/-- **When a SELECT leaves out all rows that are marked as deleted.**  The SELECT of a class with
marks of deletion, in the mode that is to leave them out, has a WHERE clause, and no row with a mark
satisfies it if and only if the statement has no test of the mark for null between its other
conditions, or has one in each of their alternatives. -/
theorem select_excludes_marked_iff {context : Context} {calls : List Call} {query : Compiled}
    (hkind : (build context calls).kind = .select)
    (hfilters : (build context calls).filtersDeleted = true)
    (h : (build context calls).compile = .ok query) :
    let s := build context calls
    let words := (placeAll (.new context) {} calls).selectWords s
    (emitted context calls).sql = query.sql ∧
    (∃ head tail,
      emitted context calls = head ++ (.ofText " WHERE " ++ Word.textOf words) ++ tail) ∧
    ((∀ row : RowView s.quoting s.softDeleteColumn, Word.satisfied row.satisfies words = true →
        row.marked = false) ↔
      s.conditions.any (Condition.isNullCheck s.quoting s.softDeleteColumn false .and) = false ∨
        Condition.demandsList s.quoting s.softDeleteColumn false s.conditions = true) := by
  intro s words
  obtain ⟨haccepted, -, -, -, -⟩ := compile_of_ok h
  have hfragments : s.fragments = (placeAll (.new context) {} calls).fragments :=
    fragments_applyAll calls haccepted rfl
  have hjson : (placeAll (.new context) {} calls).BindsJson :=
    bindsJson_placeAll (fun t ht => absurd ht List.not_mem_nil) _ calls
  refine ⟨sql_emitted h, ?_, ?_⟩
  · have hconditions := conditions_selectConditions hfragments
    have hne : (placeAll (.new context) {} calls).selectConditions s ≠ [] := by
      intro hnil
      rw [hnil] at hconditions
      exact selectConditions_ne_nil hfilters hconditions.symm
    obtain ⟨head, tail, htext⟩ := exists_selectText hne
    refine ⟨head, tail, ?_⟩
    rw [emitted, BoundClauses.text, hkind]
    exact htext
  · have hmost := satisfied_most hfragments hjson s.softDeleteColumn true
    rw [Bool.not_true, demandsList_selectConditions hfilters] at hmost
    refine (RowView.forall_marked_iff true words).trans ?_
    rw [hmost, Bool.not_eq_false', Bool.or_eq_true, Bool.not_eq_true']

/-- The calls of a SELECT of a class with marks of deletion, which compares one column. -/
def comparedUsers (connector : Connector) (column : String) : List Call :=
  [.model ⟨"app::models::User", "users", "id", true, []⟩, .withoutTrashed,
    .compare connector column "=" (.int 1)]

theorem select_excludes_marked_iff_plain :
    (build {} (comparedUsers .and "id")).filtersDeleted = true ∧
      ∀ row : RowView {} "deleted_at", Word.satisfied row.satisfies
        ((placeAll (.new {}) {} (comparedUsers .and "id")).selectWords
          (build {} (comparedUsers .and "id"))) = true → row.marked = false := by
  have hcompile : (build {} (comparedUsers .and "id")).compile =
      .ok ⟨"SELECT * FROM users WHERE deleted_at IS NULL AND \x60id\x60 = ?", [.int 1]⟩ := rfl
  have hiff := (@select_excludes_marked_iff {} (comparedUsers .and "id") _ rfl rfl hcompile).2.2
  exact ⟨rfl, hiff.2 (.inr (by decide))⟩

/-- A SELECT that does not exclude marked rows again, though it was asked to: the test stands in one
alternative only. -/
theorem select_includes_marked_users :
    (build {} (comparedUsers .or "admin")).compile =
        .ok ⟨"SELECT * FROM users WHERE deleted_at IS NULL OR \x60admin\x60 = ?", [.int 1]⟩ ∧
      ∃ row : RowView {} "deleted_at", row.marked = true ∧ Word.satisfied row.satisfies
        ((placeAll (.new {}) {} (comparedUsers .or "admin")).selectWords
          (build {} (comparedUsers .or "admin"))) = true := by
  refine ⟨rfl, RowView.most {} "deleted_at" true, rfl, ?_⟩
  have hfragments : (build {} (comparedUsers .or "admin")).fragments =
      (placeAll (.new {}) {} (comparedUsers .or "admin")).fragments :=
    fragments_applyAll (comparedUsers .or "admin") rfl rfl
  have hjson : (placeAll (.new {}) {} (comparedUsers .or "admin")).BindsJson :=
    bindsJson_placeAll (fun t ht => absurd ht List.not_mem_nil) _ (comparedUsers .or "admin")
  refine (satisfied_most hfragments hjson "deleted_at" true).trans ?_
  decide

end Statement
end EntityQuery

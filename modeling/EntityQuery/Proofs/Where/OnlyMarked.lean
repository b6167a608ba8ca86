/-
# SELECTs of marked rows only

A statement that is to give marked rows only tests its mark for not null.  That
the test was asked for is certain: the mode is set by one call only, and this call
adds it (`exists_onlyTrashed`).  It stays unless the opposite test is asked for
later on, so it is one of the conditions, connected with AND
(`exists_notNullCheck`).

It is one condition among others, though, and compiling the SELECT adds nothing to
it.  `select_only_marked_iff` says when it is enough: every alternative between
two ORs must have a test of the mark, and an alternative that the other calls
brought in need not have one.
-/

import EntityQuery.Proofs.Where.Isolation
import Mathlib.Data.List.Induction

namespace EntityQuery
namespace Statement

open BoundClauses

/-! ### The call that set the mode -/

/-- Only marked rows are given because a call asked for it that no call on the mode followed. -/
theorem exists_onlyTrashed {context : Context} {calls : List Call}
    (haccepted : (build context calls).buildError = none)
    (hmode : (build context calls).softDeleteMode = .only) :
    ∃ before after, calls = before ++ .onlyTrashed :: after ∧
      ∀ c ∈ after, c.setsMode = false := by
  induction calls using List.reverseRecOn with
  | nil => exact nomatch hmode
  | append_singleton calls c ih =>
      have hstep : build context (calls ++ [c]) = (build context calls).apply c :=
        build_append context calls [c]
      rw [hstep] at haccepted hmode
      by_cases hc : c.setsMode = true
      · cases c with
        | onlyTrashed => exact ⟨calls, [], rfl, fun c hc => absurd hc List.not_mem_nil⟩
        | withTrashed =>
            rw [apply] at hmode
            exact nomatch hmode
        | withoutTrashed =>
            rw [apply, withoutTrashed_eq] at hmode
            exact nomatch hmode
        | restore =>
            rw [apply, restore, update] at haccepted hmode
            rw [(setMutation_of_accepted haccepted).2.2.2.2] at hmode
            exact nomatch hmode
        | _ => exact nomatch hc
      · rw [Bool.not_eq_true] at hc
        have hframe := frame_apply haccepted
        rw [hframe.softDeleteMode hc] at hmode
        obtain ⟨before, after, rfl, hafter⟩ := ih hframe.accepted hmode
        refine ⟨before, after ++ [c], by rw [List.append_assoc, List.cons_append], ?_⟩
        intro c' hc'
        rcases List.mem_append.1 hc' with hc' | hc'
        · exact hafter c' hc'
        · rw [List.mem_singleton.1 hc']
          exact hc

/-- A test for not null is never left to the SELECT. -/
theorem leavesNullCheck_notNull (s : Statement) (column : String) :
    s.leavesNullCheck true column = false := by
  rw [leavesNullCheck, Bool.not_true, Bool.false_and, Bool.false_and]

theorem exists_notNullCheck_onlyTrashed {s : Statement} (h : s.onlyTrashed.buildError = none) :
    ∃ d ∈ s.onlyTrashed.conditions,
      d.isNullCheck s.quoting (Text.trim s.softDeleteColumn) true .and = true := by
  unfold onlyTrashed at h ⊢
  exact exists_nullCheck h (leavesNullCheck_notNull _ _)

/-- The test that keeps marked rows is among the conditions, unless the opposite one was asked for
after it. -/
theorem exists_notNullCheck {context : Context} {before after : List Call}
    (haccepted : (build context (before ++ .onlyTrashed :: after)).buildError = none)
    (hmode : ∀ c ∈ after, c.setsMode = false)
    (hopposite : ∀ column, .nullCheck .and false column ∈ after →
      context.config.quoting.unwrap (Text.trim column) ≠
        context.config.quoting.unwrap (Text.trim context.config.softDeleteColumn)) :
    ∃ d ∈ (build context (before ++ .onlyTrashed :: after)).conditions,
      d.isNullCheck context.config.quoting (Text.trim context.config.softDeleteColumn) true .and =
        true := by
  have hsplit : build context (before ++ .onlyTrashed :: after) =
      (build context before).onlyTrashed.applyAll after := by
    rw [build_append, applyAll, apply]
  rw [hsplit] at haccepted ⊢
  have hcall : (build context before).onlyTrashed.buildError = none :=
    accepted_of_applyAll haccepted
  have hbefore : (build context before).context = context :=
    context_applyAll (onlyTrashed_of_accepted hcall).1
  have hcontext : (build context before).onlyTrashed.context = context := by
    rw [(onlyTrashed_of_accepted hcall).2]
    exact hbefore
  obtain ⟨d, hd, hcheck⟩ := exists_notNullCheck_onlyTrashed hcall
  rw [quoting, softDeleteColumn, hbefore] at hcheck
  refine ⟨d, mem_conditions_applyAll haccepted hd fun c hc => ?_, hcheck⟩
  rw [quoting, softDeleteColumn, hcontext]
  refine Call.drops_eq_false_of_isNullCheck hcheck (hmode c hc) fun column heq => ?_
  rw [heq] at hc
  exact hopposite column hc

/-! ### The rows that are given -/

theorem selectConditions_of_only {s : Statement} (hmode : s.softDeleteMode = .only) :
    s.selectConditions = s.conditions := by
  have hfilters : s.filtersDeleted = false := by
    rw [filtersDeleted, hmode]
    rfl
  rw [selectConditions, hfilters, Bool.not_false, if_pos rfl]

/-- **When a SELECT of marked rows gives no others.**  A SELECT in the mode that is to keep only
rows that are marked as deleted was asked for them by a call after which none sets the mode; unless
the opposite test was asked for later on, the test of the mark for not null stands in the WHERE
clause, connected with AND.  No row without a mark satisfies the clause if and only if each
alternative of the conditions has such a test. -/
theorem select_only_marked_iff {context : Context} {calls : List Call} {query : Compiled}
    (hkind : (build context calls).kind = .select)
    (hmode : (build context calls).softDeleteMode = .only)
    (h : (build context calls).compile = .ok query) :
    let s := build context calls
    let q := context.config.quoting
    let mark := Text.trim context.config.softDeleteColumn
    let words := (placeAll (.new context) {} calls).selectWords s
    (emitted context calls).sql = query.sql ∧
    (∃ before after, calls = before ++ .onlyTrashed :: after ∧
      (∀ c ∈ after, c.setsMode = false) ∧
      ((∀ column, .nullCheck .and false column ∈ after →
          q.unwrap (Text.trim column) ≠ q.unwrap mark) →
        (∃ d ∈ s.conditions, d.isNullCheck q mark true .and = true) ∧
        ∃ head tail,
          emitted context calls = head ++ (.ofText " WHERE " ++ Word.textOf words) ++ tail)) ∧
    ((∀ row : RowView q mark, Word.satisfied row.satisfies words = true → row.marked = true) ↔
      Condition.demandsList q mark true s.conditions = true) := by
  intro s q mark words
  obtain ⟨haccepted, -, -, -, -⟩ := compile_of_ok h
  have hfragments : s.fragments = (placeAll (.new context) {} calls).fragments :=
    fragments_applyAll calls haccepted rfl
  have hjson : (placeAll (.new context) {} calls).BindsJson :=
    bindsJson_placeAll (fun t ht => absurd ht List.not_mem_nil) _ calls
  have hquoting : s.quoting = q := (settings_build haccepted).1
  refine ⟨sql_emitted h, ?_, ?_⟩
  · obtain ⟨before, after, rfl, hafter⟩ := exists_onlyTrashed haccepted hmode
    refine ⟨before, after, rfl, hafter, fun hopposite => ?_⟩
    obtain ⟨d, hd, hcheck⟩ := exists_notNullCheck haccepted hafter hopposite
    refine ⟨⟨d, hd, hcheck⟩, ?_⟩
    have hconditions := conditions_selectConditions hfragments
    rw [selectConditions_of_only hmode] at hconditions
    have hne : (placeAll (.new context) {} (before ++ .onlyTrashed :: after)).selectConditions s ≠
        [] := by
      intro hnil
      rw [hnil] at hconditions
      exact List.ne_nil_of_mem hd hconditions.symm
    obtain ⟨head, tail, htext⟩ := exists_selectText hne
    refine ⟨head, tail, ?_⟩
    rw [emitted, BoundClauses.text, hkind]
    exact htext
  · have hmost := satisfied_most hfragments hjson mark false
    rw [selectConditions_of_only hmode, hquoting] at hmost
    refine (RowView.forall_marked_iff false words).trans ?_
    rw [hmost, Bool.not_eq_false', Bool.not_false]

/-- The calls of a SELECT of marked rows only, which compares one column. -/
def trashedUsers (connector : Connector) (column : String) : List Call :=
  [.model ⟨"app::models::User", "users", "id", true, []⟩, .onlyTrashed,
    .compare connector column "=" (.int 1)]

theorem select_only_marked_iff_plain :
    (build {} (trashedUsers .and "id")).softDeleteMode = .only ∧
      ∀ row : RowView {} "deleted_at", Word.satisfied row.satisfies
        ((placeAll (.new {}) {} (trashedUsers .and "id")).selectWords
          (build {} (trashedUsers .and "id"))) = true → row.marked = true := by
  have hcompile : (build {} (trashedUsers .and "id")).compile =
      .ok ⟨"SELECT * FROM users WHERE deleted_at IS NOT NULL AND \x60id\x60 = ?", [.int 1]⟩ := rfl
  have hiff := (@select_only_marked_iff {} (trashedUsers .and "id") _ rfl rfl hcompile).2.2
  exact ⟨rfl, hiff.2 (by decide)⟩

/-- A SELECT of marked rows only that gives others as well: the test stands in one alternative
only. -/
theorem select_only_marked_gives_users :
    (build {} (trashedUsers .or "admin")).compile =
        .ok ⟨"SELECT * FROM users WHERE deleted_at IS NOT NULL OR \x60admin\x60 = ?", [.int 1]⟩ ∧
      ∃ row : RowView {} "deleted_at", row.marked = false ∧ Word.satisfied row.satisfies
        ((placeAll (.new {}) {} (trashedUsers .or "admin")).selectWords
          (build {} (trashedUsers .or "admin"))) = true := by
  refine ⟨rfl, RowView.most {} "deleted_at" false, rfl, ?_⟩
  have hfragments : (build {} (trashedUsers .or "admin")).fragments =
      (placeAll (.new {}) {} (trashedUsers .or "admin")).fragments :=
    fragments_applyAll (trashedUsers .or "admin") rfl rfl
  have hjson : (placeAll (.new {}) {} (trashedUsers .or "admin")).BindsJson :=
    bindsJson_placeAll (fun t ht => absurd ht List.not_mem_nil) _ (trashedUsers .or "admin")
  refine (satisfied_most hfragments hjson "deleted_at" false).trans ?_
  decide

end Statement
end EntityQuery

/-
# Statements have the parts of their kind

Compiling a mutation asks for a column, and compiling an UPSERT for a column of
its conflict.  Both were asked for when the call was made: a statement that was
built by accepted calls has the parts that its kind needs (`hasParts_build`).  So
its text is refused for one reason only, a DELETE without a predicate
(`text_of_hasParts`).
-/

import EntityQuery.Proofs.Built.Accepted

namespace EntityQuery
namespace Statement

/-- The parts that the kind of a statement needs are there. -/
structure HasParts (s : Statement) : Prop where
  columns : s.kind ≠ .select → s.kind ≠ .delete → s.mutationColumns ≠ []
  unique : s.kind = .upsert → s.upsertUnique ≠ []

variable {s : Statement}

theorem hasParts_new (context : Context) : (new context).HasParts where
  columns := fun h => absurd rfl h
  unique := fun h => nomatch h

theorem hasParts_setMutation {kind : Kind} {data : List (String × Value)}
    (h : (s.setMutation kind data).buildError = none) (hkind : kind ≠ .upsert) :
    (s.setMutation kind data).HasParts := by
  obtain ⟨-, -, hdata, -, heq⟩ := setMutation_of_accepted h
  rw [heq]
  exact ⟨fun _ _ hnil => hdata (List.map_eq_nil_iff.1 hnil), fun hupsert => absurd hupsert hkind⟩

theorem HasParts.of_frame {c : Call} {t : Statement} (hs : s.HasParts) (h : Frame c s t)
    (hc : c.setsKind = false) : t.HasParts where
  columns := by
    rw [h.kind hc, h.mutationColumns hc]
    exact hs.columns
  unique := by
    rw [h.kind hc, h.upsertUnique hc]
    exact hs.unique

/-- An accepted call keeps the parts of the kind, or sets the kind together with its parts. -/
theorem hasParts_apply {c : Call} (hs : s.HasParts) (h : (s.apply c).buildError = none) :
    (s.apply c).HasParts := by
  cases c with
  | softDelete =>
      rw [apply, softDelete, update] at h ⊢
      exact hasParts_setMutation h (by decide)
  | restore =>
      rw [apply, restore, update] at h ⊢
      exact hasParts_setMutation h (by decide)
  | insert =>
      rw [apply, insert] at h ⊢
      exact hasParts_setMutation h (by decide)
  | insertOrIgnore =>
      rw [apply, insertOrIgnore] at h ⊢
      exact hasParts_setMutation h (by decide)
  | update =>
      rw [apply, update] at h ⊢
      exact hasParts_setMutation h (by decide)
  | delete =>
      rw [apply, delete] at h ⊢
      rw [(setKind_of_accepted h).2.2]
      exact ⟨fun _ hdelete => absurd rfl hdelete, fun hupsert => nomatch hupsert⟩
  | upsert =>
      rw [apply] at h ⊢
      obtain ⟨hset, hunique, heq⟩ := upsert_of_accepted h
      obtain ⟨-, -, hdata, -, hmutation⟩ := setMutation_of_accepted hset
      rw [heq, hmutation]
      exact ⟨fun _ _ hnil => hdata (List.map_eq_nil_iff.1 hnil), fun _ => hunique⟩
  | _ => exact hs.of_frame (frame_apply h) rfl

theorem hasParts_applyAll {calls : List Call} (hs : s.HasParts)
    (h : (s.applyAll calls).buildError = none) : (s.applyAll calls).HasParts := by
  induction calls generalizing s with
  | nil => exact hs
  | cons c calls ih =>
      rw [applyAll] at h ⊢
      exact ih (hasParts_apply hs (accepted_of_applyAll h)) h

/-- **A statement that was built by accepted calls has the parts of its kind.** -/
theorem hasParts_build {context : Context} {calls : List Call}
    (h : (build context calls).buildError = none) : (build context calls).HasParts :=
  hasParts_applyAll (hasParts_new context) h

/-! ### Texts that are refused -/

theorem predicates_eq_nil (s : Statement) (conditions : List Condition) :
    s.predicates conditions = [] ↔ conditions = [] ∧ s.jsonConditions = [] := by
  unfold predicates
  simp only
  rw [List.append_eq_nil_iff]
  refine and_congr_left fun _ => ?_
  cases conditions with
  | nil => exact ⟨fun _ => rfl, fun _ => rfl⟩
  | cons c rest =>
      refine ⟨fun h => ?_, fun h => nomatch h⟩
      rw [List.isEmpty_cons, if_neg Bool.false_ne_true] at h
      split at h
      · exact nomatch h
      · exact nomatch h

theorem whereText?_eq_none (s : Statement) (conditions : List Condition) :
    s.whereText? conditions = none ↔ conditions = [] ∧ s.jsonConditions = [] := by
  rw [← predicates_eq_nil]
  unfold whereText?
  simp only
  split
  · rename_i h
    exact ⟨fun _ => List.isEmpty_iff.1 h, fun _ => rfl⟩
  · rename_i h
    exact ⟨fun hnone => (nomatch hnone), fun hnil => absurd (List.isEmpty_iff.2 hnil) h⟩

theorem deleteSql_of_unfiltered (hc : s.conditions = []) (hj : s.jsonConditions = []) :
    s.deleteSql = .error (.state (.unfilteredDelete s.table)) := by
  rw [deleteSql, (s.whereText?_eq_none s.conditions).2 ⟨hc, hj⟩]

theorem exists_deleteSql (h : s.conditions ≠ [] ∨ s.jsonConditions ≠ []) :
    ∃ sql, s.deleteSql = .ok sql := by
  unfold deleteSql
  split
  · rename_i hnone
    obtain ⟨hc, hj⟩ := (s.whereText?_eq_none s.conditions).1 hnone
    rcases h with h | h
    · exact absurd hc h
    · exact absurd hj h
  · exact ⟨_, rfl⟩

theorem mutationList_of_columns (h : s.mutationColumns ≠ []) :
    s.mutationList = .ok (s.mutationColumns.map s.quoting.column) := by
  rw [mutationList, if_neg fun hempty => h (List.isEmpty_iff.1 hempty)]

theorem exists_insertSql (h : s.mutationColumns ≠ []) : ∃ sql, s.insertSql = .ok sql := by
  simp only [insertSql, mutationList_of_columns h]
  exact ⟨_, rfl⟩

theorem exists_updateSql (h : s.mutationColumns ≠ []) : ∃ sql, s.updateSql = .ok sql := by
  simp only [updateSql, mutationList_of_columns h]
  exact ⟨_, rfl⟩

theorem exists_upsertSql (h : s.mutationColumns ≠ []) (hunique : s.upsertUnique ≠ []) :
    ∃ sql, s.upsertSql = .ok sql := by
  have hempty : ¬s.upsertUnique.isEmpty = true := fun hnil => hunique (List.isEmpty_iff.1 hnil)
  simp only [upsertSql, if_neg hempty, mutationList_of_columns h]
  exact ⟨_, rfl⟩

/-- **A statement with the parts of its kind has a text, unless it is a DELETE without a
predicate.** -/
theorem text_of_hasParts (hs : s.HasParts) :
    (∃ sql, s.text = .ok sql ∧
      (s.kind = .delete → s.conditions ≠ [] ∨ s.jsonConditions ≠ [])) ∨
    (s.kind = .delete ∧ s.conditions = [] ∧ s.jsonConditions = [] ∧
      s.text = .error (.state (.unfilteredDelete s.table))) := by
  obtain ⟨hcolumns, hunique⟩ := hs
  unfold text
  cases hkind : s.kind with
  | select => exact .inl ⟨_, rfl, fun h => nomatch h⟩
  | insert =>
      rw [hkind] at hcolumns
      obtain ⟨sql, hsql⟩ := exists_insertSql (hcolumns (by decide) (by decide))
      exact .inl ⟨sql, hsql, fun h => nomatch h⟩
  | insertIgnore =>
      rw [hkind] at hcolumns
      obtain ⟨sql, hsql⟩ := exists_insertSql (hcolumns (by decide) (by decide))
      exact .inl ⟨sql, hsql, fun h => nomatch h⟩
  | update =>
      rw [hkind] at hcolumns
      obtain ⟨sql, hsql⟩ := exists_updateSql (hcolumns (by decide) (by decide))
      exact .inl ⟨sql, hsql, fun h => nomatch h⟩
  | delete =>
      by_cases hpredicate : s.conditions ≠ [] ∨ s.jsonConditions ≠ []
      · obtain ⟨sql, hsql⟩ := exists_deleteSql hpredicate
        exact .inl ⟨sql, hsql, fun _ => hpredicate⟩
      · rw [not_or, not_ne_iff, not_ne_iff] at hpredicate
        obtain ⟨hc, hj⟩ := hpredicate
        exact .inr ⟨rfl, hc, hj, deleteSql_of_unfiltered hc hj⟩
  | upsert =>
      rw [hkind] at hcolumns
      obtain ⟨sql, hsql⟩ := exists_upsertSql (hcolumns (by decide) (by decide)) (hunique hkind)
      exact .inl ⟨sql, hsql, fun h => nomatch h⟩

end Statement
end EntityQuery

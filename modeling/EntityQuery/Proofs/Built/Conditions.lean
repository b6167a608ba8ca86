/-
# What becomes of a condition

A condition that a statement has stays there through all later calls that do not
drop it (`mem_conditions_apply`, `mem_conditions_applyAll`).  Few calls drop any
(`Call.drops`): a test for null drops the opposite test with the same connector,
and the calls that say how marked rows are treated drop tests of the mark.

A test for null is added unless the statement leaves it to the SELECT, which adds
it by itself (`exists_nullCheck`).  An UPDATE and a DELETE add nothing by
themselves, and yet the test is left out of them as well: `null_check_kept_iff`
says when exactly such a statement has the test it was asked for.
-/

import EntityQuery.Proofs.Built.Accepted

namespace EntityQuery

/-- A test of a column for null (or for not null) is a comparison with NULL. -/
theorem Condition.isNullCheck_iff {q : Quoting} {name : String} {notNull : Bool}
    {connector : Connector} {d : Condition} :
    d.isNullCheck q name notNull connector = true ↔
      ∃ column : ColumnRef, d = .compare connector column (nullOperator notNull) .null ∧
        q.unwrap column.name = q.unwrap name := by
  constructor
  · intro h
    unfold isNullCheck at h
    split at h
    · rename_i c column op
      simp only [Bool.and_eq_true, beq_iff_eq, ColumnRef.refersTo] at h
      obtain ⟨⟨rfl, rfl⟩, hname⟩ := h
      exact ⟨column, rfl, hname⟩
    · exact absurd h Bool.false_ne_true
  · rintro ⟨column, rfl, hname⟩
    simp [isNullCheck, ColumnRef.refersTo, hname]

theorem Condition.isNullCheck_self (q : Quoting) (name : String) (raw notNull : Bool)
    (connector : Connector) :
    isNullCheck q name notNull connector
      (.compare connector ⟨name, raw⟩ (nullOperator notNull) .null) = true :=
  isNullCheck_iff.2 ⟨_, rfl, rfl⟩

namespace Call

/-- Whether a call drops a condition from the statement it is made on. -/
def drops (q : Quoting) (mark : String) (d : Condition) : Call → Bool
  | .nullCheck connector notNull column =>
    d.isNullCheck q (Text.trim column) (!notNull) connector
  | .withTrashed => d.isNullCheck q mark false .and || d.isNullCheck q mark false .or
  | .restore => d.isNullCheck q mark false .and || d.isNullCheck q mark false .or
  | .onlyTrashed =>
    d.isNullCheck q mark false .and || d.isNullCheck q mark false .or ||
      d.isNullCheck q (Text.trim mark) false .and
  | .withoutTrashed => d.isNullCheck q mark true .and || d.isNullCheck q mark true .or
  | _ => false

/-- Whether a call asks for a column not to be null. -/
def asksNotNull (q : Quoting) (name : String) : Call → Bool
  | .nullCheck .and true column => q.unwrap (Text.trim column) == q.unwrap name
  | _ => false

/-- A test for null, or for not null, is dropped by the opposite test only, and by calls on marked
rows. -/
theorem drops_eq_false_of_isNullCheck {q : Quoting} {mark name : String} {notNull : Bool}
    {d : Condition} {c : Call} (hd : d.isNullCheck q name notNull .and = true)
    (hmode : c.setsMode = false)
    (hask : ∀ column, c = .nullCheck .and (!notNull) column →
      q.unwrap (Text.trim column) ≠ q.unwrap name) : c.drops q mark d = false := by
  cases c with
  | nullCheck connector asked column =>
      rw [drops, Bool.eq_false_iff]
      intro hdrop
      obtain ⟨column', rfl, hname⟩ := Condition.isNullCheck_iff.1 hd
      obtain ⟨column'', heq, hname'⟩ := Condition.isNullCheck_iff.1 hdrop
      obtain ⟨rfl, rfl, hop⟩ : Connector.and = connector ∧ column' = column'' ∧
          Condition.nullOperator notNull = Condition.nullOperator (!asked) := by
        simpa using heq
      have hasked : asked = !notNull := by
        cases asked <;> cases notNull <;> first | rfl | exact nomatch hop
      subst hasked
      exact hask column rfl (hname'.symm.trans hname)
  | withTrashed => exact nomatch hmode
  | onlyTrashed => exact nomatch hmode
  | withoutTrashed => exact nomatch hmode
  | restore => exact nomatch hmode
  | _ => rfl

theorem drops_eq_false {q : Quoting} {mark name : String} {d : Condition} {c : Call}
    (hd : d.isNullCheck q name false .and = true) (hmode : c.setsMode = false)
    (hask : c.asksNotNull q name = false) : c.drops q mark d = false := by
  refine drops_eq_false_of_isNullCheck hd hmode fun column hc => ?_
  rw [hc, Bool.not_false, asksNotNull, beq_eq_false_iff_ne] at hask
  exact hask

end Call

namespace Statement

variable {s : Statement}

/-! ### One call -/

theorem mem_dropMarkChecks {d : Condition} (hd : d ∈ s.conditions) {notNull : Bool}
    (hand : d.isNullCheck s.quoting s.softDeleteColumn notNull .and = false)
    (hor : d.isNullCheck s.quoting s.softDeleteColumn notNull .or = false) :
    d ∈ (s.dropMarkChecks notNull).conditions := by
  refine List.mem_filter.2 ⟨hd, ?_⟩
  rw [hand, hor]
  rfl

theorem mem_nullChecked {d : Condition} (hd : d ∈ s.conditions) {connector : Connector}
    {notNull : Bool} {column : String}
    (hkeep : d.isNullCheck s.quoting column (!notNull) connector = false) :
    d ∈ s.nullChecked connector notNull column := by
  have hkept : d ∈ s.conditions.filter
      fun c => !c.isNullCheck s.quoting column (!notNull) connector :=
    List.mem_filter.2 ⟨hd, by rw [hkeep]; rfl⟩
  unfold nullChecked
  simp only
  split
  · exact hkept
  · exact List.mem_append_left _ hkept

/-- **A call keeps every condition that it does not drop.** -/
theorem mem_conditions_apply {c : Call} {d : Condition} (h : (s.apply c).buildError = none)
    (hd : d ∈ s.conditions) (hkeep : c.drops s.quoting s.softDeleteColumn d = false) :
    d ∈ (s.apply c).conditions := by
  cases c with
  | compare =>
      rw [apply] at h ⊢
      obtain ⟨-, -, op, operand, values, -, -, heq⟩ := compare_of_accepted h
      rw [heq]
      exact List.mem_append_left _ hd
  | group =>
      rw [apply] at h ⊢
      rw [(addGroup_of_accepted h).2.2.2]
      split
      · exact hd
      · exact List.mem_append_left _ hd
  | compareSub =>
      rw [apply] at h ⊢
      obtain ⟨-, -, op, query, -, -, -, -, heq⟩ := compareSub_of_accepted h
      rw [heq]
      exact List.mem_append_left _ hd
  | inList =>
      rw [apply] at h ⊢
      rw [(inList_of_accepted h).2.2.2]
      exact List.mem_append_left _ hd
  | nullCheck =>
      rw [apply] at h ⊢
      rw [(nullCheck_of_accepted h).2.2]
      split
      · exact hd
      · exact mem_nullChecked hd hkeep
  | withTrashed =>
      rw [Call.drops, Bool.or_eq_false_iff] at hkeep
      rw [apply]
      exact mem_dropMarkChecks hd hkeep.1 hkeep.2
  | onlyTrashed =>
      rw [Call.drops, Bool.or_eq_false_iff, Bool.or_eq_false_iff] at hkeep
      rw [apply] at h ⊢
      rw [(onlyTrashed_of_accepted h).2]
      have hdropped := mem_dropMarkChecks hd hkeep.1.1 hkeep.1.2
      exact mem_nullChecked hdropped hkeep.2
  | withoutTrashed =>
      rw [Call.drops, Bool.or_eq_false_iff] at hkeep
      have hdropped := mem_dropMarkChecks hd hkeep.1 hkeep.2
      rw [apply, withoutTrashed_eq]
      simp only [unmarkedConditions]
      split
      · exact hdropped
      · exact List.mem_append_left _ hdropped
  | restore =>
      rw [Call.drops, Bool.or_eq_false_iff] at hkeep
      rw [apply, restore, update] at h ⊢
      obtain ⟨-, -, -, -, heq⟩ := setMutation_of_accepted h
      rw [heq]
      exact mem_dropMarkChecks hd hkeep.1 hkeep.2
  | _ =>
      rw [(frame_apply h).conditions rfl]
      exact hd

/-- **A construction keeps every condition that none of its calls drops.** -/
theorem mem_conditions_applyAll {calls : List Call} {d : Condition}
    (h : (s.applyAll calls).buildError = none) (hd : d ∈ s.conditions)
    (hkeep : ∀ c ∈ calls, c.drops s.quoting s.softDeleteColumn d = false) :
    d ∈ (s.applyAll calls).conditions := by
  induction calls generalizing s with
  | nil => exact hd
  | cons c calls ih =>
      rw [applyAll] at h ⊢
      have haccepted := accepted_of_applyAll h
      have hcontext := context_apply haccepted
      have hstep := mem_conditions_apply haccepted hd (hkeep c List.mem_cons_self)
      refine ih h hstep fun c' hc' => ?_
      rw [quoting, softDeleteColumn, hcontext]
      exact hkeep c' (List.mem_cons_of_mem _ hc')

/-! ### Tests for null -/

/-- A test for null that is not left to the SELECT is there once it was asked for. -/
theorem exists_nullCheck {connector : Connector} {notNull : Bool} {column : String}
    (h : (s.nullCheck connector notNull column).buildError = none)
    (hleft : s.leavesNullCheck notNull (Text.trim column) = false) :
    ∃ d ∈ (s.nullCheck connector notNull column).conditions,
      d.isNullCheck s.quoting (Text.trim column) notNull connector = true := by
  rw [(nullCheck_of_accepted h).2.2, hleft, if_neg Bool.false_ne_true]
  simp only [nullChecked]
  split
  · rename_i hthere
    exact List.any_eq_true.1 hthere
  · exact ⟨_, List.mem_append_right _ List.mem_cons_self, Condition.isNullCheck_self ..⟩

/-- The text of an UPDATE or a DELETE ends with the conditions of the statement. -/
theorem exists_head_of_filtered {sql : String} (hkind : s.kind = .update ∨ s.kind = .delete)
    (hsql : s.text = .ok sql) :
    ∃ head, sql = head ++ clause " WHERE " (s.whereText? s.conditions) := by
  unfold text at hsql
  rcases hkind with hkind | hkind
  · rw [hkind] at hsql
    simp only [updateSql, mutationList] at hsql
    split at hsql
    · exact nomatch hsql
    · exact ⟨_, (Except.ok.inj hsql).symm⟩
  · rw [hkind] at hsql
    simp only [deleteSql] at hsql
    split at hsql
    · exact nomatch hsql
    · rename_i filter hfilter
      refine ⟨"DELETE FROM " ++ s.table, ?_⟩
      rw [hfilter, ← Except.ok.inj hsql, clause]
      simp only [String.append_assoc]

theorem build_append (context : Context) (before after : List Call) :
    build context (before ++ after) = applyAll (build context before) after :=
  applyAll_append (new context) before after

/-- A test for null that is left to the SELECT leaves the statement as it is. -/
theorem nullCheck_of_left {connector : Connector} {notNull : Bool} {column : String}
    (h : (s.nullCheck connector notNull column).buildError = none)
    (hleft : s.leavesNullCheck notNull (Text.trim column) = true) :
    s.nullCheck connector notNull column = s := by
  rw [(nullCheck_of_accepted h).2.2, if_pos hleft]

theorem leavesNullCheck_iff {column : String} :
    s.leavesNullCheck false column = true ↔
      s.filtersDeleted = true ∧
        s.quoting.unwrap column = s.quoting.unwrap s.softDeleteColumn := by
  rw [leavesNullCheck, Bool.not_false, Bool.true_and, Bool.and_eq_true, beq_iff_eq, and_comm]

/-- **When an UPDATE or a DELETE has the test for null it was asked for.**  Among its conditions
there is a test of the column for null if and only if, at the time of the call, the statement was
not one whose SELECT would filter marked rows with the column as its mark, or the other calls ask
for the test themselves. -/
theorem null_check_kept_iff {context : Context} {before after : List Call} {column : String}
    {query : Compiled}
    (hafter : ∀ c ∈ after, c.setsMode = false ∧
      c.asksNotNull context.config.quoting (Text.trim column) = false)
    (hkind : (build context (before ++ .nullCheck .and false column :: after)).kind = .update ∨
      (build context (before ++ .nullCheck .and false column :: after)).kind = .delete)
    (h : (build context (before ++ .nullCheck .and false column :: after)).compile = .ok query) :
    let q := context.config.quoting
    let s := build context (before ++ .nullCheck .and false column :: after)
    (∃ head, query.sql = head ++ clause " WHERE " (s.whereText? s.conditions)) ∧
    ((∃ d ∈ s.conditions, d.isNullCheck q (Text.trim column) false .and = true) ↔
      ¬((build context before).filtersDeleted = true ∧
          q.unwrap (Text.trim column) = q.unwrap context.config.softDeleteColumn) ∨
        ∃ d ∈ (build context (before ++ after)).conditions,
          d.isNullCheck q (Text.trim column) false .and = true) := by
  intro q s
  obtain ⟨haccepted, -, hsql, -, -⟩ := compile_of_ok h
  refine ⟨exists_head_of_filtered hkind hsql, ?_⟩
  have hsplit : s = applyAll ((build context before).nullCheck .and false column) after := by
    have happend := build_append context before (.nullCheck .and false column :: after)
    rw [applyAll, apply] at happend
    exact happend
  have hs : s.buildError = none := haccepted
  have hcall : ((build context before).nullCheck .and false column).buildError = none := by
    rw [hsplit] at hs
    exact accepted_of_applyAll hs
  have hcontext : (build context before).context = context :=
    context_applyAll (nullCheck_of_accepted hcall).1
  have hafterward : ((build context before).nullCheck .and false column).context = context := by
    have hcalled : ((build context before).apply (.nullCheck .and false column)).buildError =
        none := by rwa [apply]
    have hkept := context_apply hcalled
    rw [apply] at hkept
    exact hkept.trans hcontext
  by_cases hleft : (build context before).leavesNullCheck false (Text.trim column) = true
  · have hsame : s = build context (before ++ after) := by
      rw [hsplit, nullCheck_of_left hcall hleft, build_append]
    obtain ⟨hfilters, hmark⟩ := leavesNullCheck_iff.1 hleft
    rw [quoting, softDeleteColumn, hcontext] at hmark
    rw [hsame]
    exact ⟨.inr, fun hor => hor.resolve_left fun hnot => hnot ⟨hfilters, hmark⟩⟩
  · -- The test was added by the call, and no call after it is one of those that drop it.
    rw [leavesNullCheck_iff, quoting, softDeleteColumn, hcontext] at hleft
    refine ⟨fun _ => .inl hleft, fun _ => ?_⟩
    have hadded : (build context before).leavesNullCheck false (Text.trim column) = false := by
      rw [Bool.eq_false_iff, ne_eq, leavesNullCheck_iff, quoting, softDeleteColumn, hcontext]
      exact hleft
    obtain ⟨d, hd, hcheck⟩ := exists_nullCheck hcall hadded
    rw [quoting, hcontext] at hcheck
    refine ⟨d, ?_, hcheck⟩
    rw [hsplit] at hs ⊢
    refine mem_conditions_applyAll hs hd fun c hc => ?_
    obtain ⟨hmode, hask⟩ := hafter c hc
    rw [quoting, hafterward]
    exact Call.drops_eq_false hcheck hmode hask

theorem null_check_kept_iff_plain :
    ∃ d ∈ (build {} [.fromTable "t", .nullCheck .and false "a", .delete]).conditions,
      d.isNullCheck {} "a" false .and = true := by
  have hcompile : (build {} [.fromTable "t", .nullCheck .and false "a", .delete]).compile =
      .ok ⟨"DELETE FROM t WHERE \x60a\x60 IS NULL", []⟩ := rfl
  have hafter : ∀ c ∈ [Call.delete], c.setsMode = false ∧
      c.asksNotNull {} (Text.trim "a") = false := by decide
  have hiff := (@null_check_kept_iff {} [.fromTable "t"] [.delete] "a" _ hafter (.inr rfl)
    hcompile).2
  exact hiff.2 (.inl (by decide))

/-- A DELETE on a class with marks of deletion that was to leave marked rows alone, and does not. -/
theorem null_check_dropped_by_delete :
    let calls : List Call :=
      [.model ⟨"app::models::User", "users", "id", true, []⟩, .delete,
        .compare .and "id" "=" (.int 1), .nullCheck .and false "deleted_at"]
    (build {} calls).compile = .ok ⟨"DELETE FROM users WHERE \x60id\x60 = ?", [.int 1]⟩ ∧
      ((build {} calls).conditions.any fun d => d.isNullCheck {} "deleted_at" false .and) = false :=
  ⟨rfl, rfl⟩

end Statement
end EntityQuery

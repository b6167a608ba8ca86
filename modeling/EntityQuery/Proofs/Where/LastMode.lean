/-
# The last call of mode

Of the calls that say how a SELECT treats marked rows only the last one should count:
the SELECT should have the test of the mark that it would have without the others.
Without them it has just the test of that call (`onMarkList_keepLastMode`), and the
calls that are left are accepted as they were before (`accepted_keepLastMode`).

With them it may have one more.  Including marked rows again drops the test for null
but not the one for not null, which therefore stays behind if only marked rows were
kept before.  `last_mode_decides_iff` says when nothing is left behind: the last call
keeps only marked rows itself, or rows were excluded again after every call that did.
-/

import EntityQuery.Proofs.Built.Marks
import EntityQuery.Proofs.Order.Family

namespace EntityQuery

open Condition

namespace Call

/-- The last call of mode in a sequence. -/
def lastMode? (calls : List Call) : Option Call :=
  (calls.filter isMode).getLast?

/-- A sequence of calls without its calls of mode but the last. -/
def keepLastMode : List Call → List Call
  | [] => []
  | c :: rest =>
    if c.isMode && rest.any isMode then keepLastMode rest else c :: keepLastMode rest

/-- The test of the mark that a call of mode stands for; without one marked rows are excluded. -/
def modeTests (q : Quoting) (mark : String) : Option Call → List Condition
  | some .withTrashed => []
  | some .onlyTrashed => [deleted q mark]
  | _ => [notDeleted mark]

theorem isMode_of_lastMode? {calls : List Call} {c : Call} (h : lastMode? calls = some c) :
    c.isMode = true :=
  (List.mem_filter.1 (List.mem_of_getLast? h)).2

/-- One call of mode is left, the last. -/
theorem filter_keepLastMode (calls : List Call) :
    (keepLastMode calls).filter isMode = (lastMode? calls).toList := by
  induction calls with
  | nil => rfl
  | cons c rest ih =>
      rw [keepLastMode, lastMode?]
      split
      · rename_i hc
        rw [Bool.and_eq_true, List.any_eq_true] at hc
        obtain ⟨hc, d, hd, hmode⟩ := hc
        have hne : rest.filter isMode ≠ [] := List.ne_nil_of_mem (List.mem_filter.2 ⟨hd, hmode⟩)
        rw [ih, List.filter_cons_of_pos hc, List.getLast?_cons, lastMode?,
          List.getLast?_eq_some_getLast hne]
        rfl
      · rename_i hc
        by_cases hmode : c.isMode = true
        · rw [hmode, Bool.true_and, List.any_eq_true] at hc
          have hnil : rest.filter isMode = [] := List.filter_eq_nil_iff.2 fun d hd hdm => hc ⟨d, hd, hdm⟩
          rw [List.filter_cons_of_pos hmode, List.filter_cons_of_pos hmode, ih, lastMode?, hnil]
          rfl
        · rw [List.filter_cons_of_neg hmode, List.filter_cons_of_neg hmode, ih, lastMode?]

theorem mem_of_mem_keepLastMode {calls : List Call} {c : Call} (h : c ∈ keepLastMode calls) :
    c ∈ calls := by
  induction calls with
  | nil => exact h
  | cons d rest ih =>
      rw [keepLastMode] at h
      split at h
      · exact List.mem_cons_of_mem _ (ih h)
      · rcases List.mem_cons.1 h with rfl | h
        · exact List.mem_cons_self
        · exact List.mem_cons_of_mem _ (ih h)

end Call

/-! ### The states that sequences of calls lead to -/

namespace MarkState

variable (tight : Bool)

theorem foldl_after_filter (calls : List Call) (m : MarkState) :
    calls.foldl (after tight) m = (calls.filter Call.isMode).foldl (after tight) m := by
  induction calls generalizing m with
  | nil => rfl
  | cons c calls ih =>
      by_cases hc : c.isMode = true
      · rw [List.filter_cons_of_pos hc, List.foldl_cons, List.foldl_cons, ih]
      · rw [List.filter_cons_of_neg hc, List.foldl_cons, ih,
          after_of_not_isMode (Bool.eq_false_iff.2 hc)]

/-- The state after the last call of mode alone. -/
def last (calls : List Call) : MarkState :=
  (Call.lastMode? calls).elim {} (after tight {})

theorem foldl_after_keepLastMode (calls : List Call) :
    (Call.keepLastMode calls).foldl (after tight) {} = last tight calls := by
  rw [foldl_after_filter, Call.filter_keepLastMode, last]
  cases Call.lastMode? calls <;> rfl

/-- The last call of mode decides about the mode and the test for null. -/
theorem foldl_after_eq (calls : List Call) :
    (calls.foldl (after tight) {}).mode = (last tight calls).mode ∧
      (calls.foldl (after tight) {}).null = (last tight calls).null := by
  rw [foldl_after_filter, last]
  cases hlast : Call.lastMode? calls with
  | none =>
      rw [List.getLast?_eq_none_iff.1 hlast]
      exact ⟨rfl, rfl⟩
  | some c =>
      have hmode := Call.isMode_of_lastMode? hlast
      obtain ⟨modes, hmodes⟩ := List.getLast?_eq_some_iff.1 hlast
      rw [hmodes, List.foldl_append]
      cases c with
      | withTrashed => exact ⟨rfl, rfl⟩
      | onlyTrashed => exact ⟨rfl, rfl⟩
      | withoutTrashed => exact ⟨rfl, rfl⟩
      | _ => exact nomatch hmode

/-- If the last call of mode keeps only marked rows, its test is there. -/
theorem notNull_of_lastMode? {calls : List Call}
    (h : Call.lastMode? calls = some .onlyTrashed) (m : MarkState) :
    (calls.foldl (after tight) m).notNull = true := by
  obtain ⟨modes, hmodes⟩ := List.getLast?_eq_some_iff.1 h
  rw [foldl_after_filter, hmodes, List.foldl_append]
  rfl

theorem notNull_last (calls : List Call) :
    (last tight calls).notNull = true ↔ Call.lastMode? calls = some .onlyTrashed := by
  rw [last]
  cases hlast : Call.lastMode? calls with
  | none => exact ⟨nofun, nofun⟩
  | some c =>
      have hmode := Call.isMode_of_lastMode? hlast
      cases c with
      | withTrashed => exact ⟨nofun, nofun⟩
      | onlyTrashed => exact ⟨fun _ => rfl, fun _ => rfl⟩
      | withoutTrashed => exact ⟨nofun, nofun⟩
      | _ => exact nomatch hmode

end MarkState

/-- Whether a call that keeps only marked rows leaves its test behind: rows are not excluded again
after it, or blanks around the mark keep the test from being recognized. -/
def Call.LeavesDeleted (tight : Bool) (calls : List Call) : Prop :=
  ∃ before rest, calls = before ++ .onlyTrashed :: rest ∧
    ¬(tight = true ∧ .withoutTrashed ∈ rest)

theorem Call.not_leavesDeleted_nil {tight : Bool} : ¬LeavesDeleted tight [] := by
  rintro ⟨before, rest, heq, -⟩
  exact absurd heq (by simp)

theorem Call.leavesDeleted_cons {tight : Bool} {c : Call} {calls : List Call} :
    LeavesDeleted tight (c :: calls) ↔
      (c = .onlyTrashed ∧ ¬(tight = true ∧ .withoutTrashed ∈ calls)) ∨
        LeavesDeleted tight calls := by
  constructor
  · rintro ⟨before, rest, heq, hrest⟩
    rcases List.cons_eq_append_iff.1 heq with ⟨-, heq⟩ | ⟨before, -, heq⟩
    · obtain ⟨rfl, rfl⟩ := List.cons.inj heq
      exact .inl ⟨rfl, hrest⟩
    · exact .inr ⟨before, rest, heq, hrest⟩
  · rintro (⟨rfl, hrest⟩ | ⟨before, rest, rfl, hrest⟩)
    · exact ⟨[], calls, rfl, hrest⟩
    · exact ⟨c :: before, rest, rfl, hrest⟩

namespace MarkState

variable (tight : Bool)

/-- The test for not null is there if it was there before or was added by a call, and rows were not
excluded again since. -/
theorem notNull_foldl_after (calls : List Call) (m : MarkState) :
    (calls.foldl (after tight) m).notNull = true ↔
      (m.notNull = true ∧ ¬(tight = true ∧ .withoutTrashed ∈ calls)) ∨
        Call.LeavesDeleted tight calls := by
  -- The state is general, since the calls before may have left the test there or not.
  induction calls generalizing m with
  | nil =>
      rw [or_iff_left Call.not_leavesDeleted_nil]
      exact ⟨fun h => ⟨h, fun hmem => absurd hmem.2 List.not_mem_nil⟩, And.left⟩
  | cons c calls ih =>
      rw [List.foldl_cons, ih, Call.leavesDeleted_cons, List.mem_cons]
      cases c with
      | withTrashed => simp [after]
      | onlyTrashed =>
          simp only [after, true_and, reduceCtorEq, false_or]
          exact ⟨.inr, fun h => h.elim (fun hbefore => .inl hbefore.2) id⟩
      | withoutTrashed => cases tight <;> simp [after]
      | _ => simp [after]

end MarkState

/-- The tests of a SELECT after the last call of mode alone. -/
theorem MarkState.markTests_last (q : Quoting) (mark : String) (calls : List Call) :
    markTests q mark (last (q.isTight mark) calls).notNull
        ((last (q.isTight mark) calls).mode == .exclude || (last (q.isTight mark) calls).null) =
      Call.modeTests q mark (Call.lastMode? calls) := by
  rw [last]
  cases hlast : Call.lastMode? calls with
  | none => rfl
  | some c =>
      have hmode := Call.isMode_of_lastMode? hlast
      cases c with
      | withTrashed => rfl
      | onlyTrashed => rfl
      | withoutTrashed => rfl
      | _ => exact nomatch hmode

/-! ### Calls for conditions and calls of mode -/

namespace Statement

variable {s t : Statement}

/-- A call of mode, or for conditions that are not on the mark. -/
def IsConditional (q : Quoting) (mark : String) (c : Call) : Prop :=
  c.isMode = true ∨ c.sparesMark q mark = true

instance {q : Quoting} {mark : String} {c : Call} : Decidable (IsConditional q mark c) :=
  inferInstanceAs (Decidable (_ ∨ _))

theorem kind_graft {f : Family} (hf : f ≠ .mutation) : (graft f s t).kind = s.kind := by
  cases f <;> first | rfl | exact absurd rfl hf

/-- Such a call leaves the source of a statement and its kind as they are. -/
theorem kept_apply {q : Quoting} {mark : String} {c : Call} (hc : IsConditional q mark c)
    (s : Statement) : (s.apply c).source = s.source ∧ (s.apply c).kind = s.kind := by
  have hfamily : ∃ f, c.families = [f] ∧ f ≠ .mutation := by
    rcases hc with hc | hc
    · cases c <;> first | exact ⟨_, rfl, by decide⟩ | exact nomatch hc
    · cases c <;> first | exact ⟨_, rfl, by decide⟩ | exact nomatch hc
  obtain ⟨f, hf, hne⟩ := hfamily
  have hlocal : s.apply c = graft f s ((s.only f).apply c) := isLocal_apply hf s
  rw [hlocal]
  exact ⟨source_graft, kind_graft hne⟩

theorem kept_applyAll {q : Quoting} {mark : String} {calls : List Call}
    (hcalls : ∀ c ∈ calls, IsConditional q mark c) (s : Statement) :
    (s.applyAll calls).source = s.source ∧ (s.applyAll calls).kind = s.kind := by
  induction calls generalizing s with
  | nil => exact ⟨rfl, rfl⟩
  | cons c calls ih =>
      obtain ⟨hsource, hkind⟩ := kept_apply (hcalls c List.mem_cons_self) s
      obtain ⟨hrest, hrestKind⟩ := ih (fun d hd => hcalls d (List.mem_cons_of_mem _ hd)) (s.apply c)
      exact ⟨hrest.trans hsource, hrestKind.trans hkind⟩

/-- What stands in the source of a statement. -/
theorem parts_of_source (h : t.source = s.source) :
    t.context = s.context ∧ t.table = s.table ∧ t.modelClass = s.modelClass ∧
      t.jsonDialect = s.jsonDialect ∧ t.scope = s.scope := by
  have hcontext := congrArg (fun u : Statement => u.context) h
  have htable := congrArg (fun u : Statement => u.table) h
  have hclass := congrArg (fun u : Statement => u.modelClass) h
  have hdialect := congrArg (fun u : Statement => u.jsonDialect) h
  have hscope := congrArg (fun u : Statement => u.scope) h
  exact ⟨hcontext, htable, hclass, hdialect, hscope⟩

theorem accepted_nullCheck (ht : t.buildError = none) {column : String}
    (hcolumn : Text.trim column ≠ "") (connector : Connector) (notNull : Bool) :
    (t.nullCheck connector notNull column).buildError = none := by
  unfold nullCheck
  rw [if_neg fun hempty => hcolumn (String.isEmpty_iff.1 hempty)]
  simp only
  split
  · exact ht
  · split
    · exact ht
    · exact ht

/-- Whether such a call is accepted depends on the source of the statement only. -/
theorem accepted_of_source {q : Quoting} {mark : String} {c : Call} (hc : IsConditional q mark c)
    (hsource : t.source = s.source) (ht : t.buildError = none)
    (h : (s.apply c).buildError = none) : (t.apply c).buildError = none := by
  obtain ⟨hcontext, -, -, hdialect, hscope⟩ := parts_of_source hsource
  cases c with
  | compare =>
      rw [apply] at h ⊢
      obtain ⟨-, hcolumn, op, operand, values, hop, hoperand, -⟩ := compare_of_accepted h
      rw [compare, if_neg fun hempty => hcolumn (String.isEmpty_iff.1 hempty), hop]
      simp only [hoperand]
      exact ht
  | group =>
      rw [apply] at h ⊢
      obtain ⟨-, hgroup, hjson, -⟩ := addGroup_of_accepted h
      rw [hscope, addGroup, hgroup, hjson]
      simp only
      split
      · rename_i hnonempty
        exact absurd hnonempty (by simp)
      · split
        · exact ht
        · exact ht
  | compareSub =>
      rw [apply] at h ⊢
      obtain ⟨-, hcolumn, op, query, hop, hspecial, hkind, hquery, -⟩ := compareSub_of_accepted h
      rw [hcontext, compareSub, if_neg fun hempty => hcolumn (String.isEmpty_iff.1 hempty), hop]
      simp only [if_neg hspecial, if_neg (not_not.2 hkind), hquery]
      exact ht
  | inList =>
      rw [apply] at h ⊢
      obtain ⟨-, hcolumn, hvalues, -⟩ := inList_of_accepted h
      rw [inList, if_neg fun hempty => hcolumn (String.isEmpty_iff.1 hempty),
        if_neg fun hempty => hvalues (List.isEmpty_iff.1 hempty)]
      exact ht
  | nullCheck connector notNull column =>
      rw [apply] at h ⊢
      exact accepted_nullCheck ht (nullCheck_of_accepted h).2.1 connector notNull
  | withTrashed =>
      rw [apply]
      exact ht
  | onlyTrashed =>
      -- The one call of mode that may be refused: it is if the mark is blank.
      rw [apply, onlyTrashed] at h ⊢
      have hmark : Text.trim s.softDeleteColumn ≠ "" := (nullCheck_of_accepted h).2.1
      have hkept : ({ t.dropMarkChecks false with softDeleteMode := .only } : Statement).buildError =
          none := ht
      rw [softDeleteColumn, ← hcontext, ← softDeleteColumn] at hmark
      exact accepted_nullCheck hkept hmark .and true
  | withoutTrashed =>
      rw [apply, withoutTrashed_eq]
      exact ht
  | jsonContains =>
      rw [apply]
      exact ht
  | jsonCompare =>
      rw [apply] at h ⊢
      obtain ⟨-, sql, values, hpredicate, -⟩ := jsonCompare_of_accepted h
      have hquoting : t.quoting = s.quoting := by rw [quoting, hcontext, quoting]
      rw [jsonCompare, hdialect, hquoting, hpredicate]
      exact ht
  | _ => exact absurd (hc.elim id id) Bool.false_ne_true

/-- **Without the calls of mode but the last** a construction is accepted as it was with them. -/
theorem accepted_keepLastMode {q : Quoting} {mark : String} {calls : List Call}
    (hcalls : ∀ c ∈ calls, IsConditional q mark c) (hsource : t.source = s.source)
    (ht : t.buildError = none) (h : (s.applyAll calls).buildError = none) :
    (t.applyAll (Call.keepLastMode calls)).buildError = none := by
  induction calls generalizing s t with
  | nil => exact ht
  | cons c rest ih =>
      have hc := hcalls c List.mem_cons_self
      have hrest := fun d hd => hcalls d (List.mem_cons_of_mem c hd)
      rw [applyAll] at h
      rw [Call.keepLastMode]
      split
      · refine ih hrest ?_ ht h
        rw [(kept_apply hc s).1, hsource]
      · rw [applyAll]
        refine ih hrest ?_ (accepted_of_source hc hsource ht (accepted_of_applyAll h)) h
        rw [(kept_apply hc t).1, (kept_apply hc s).1, hsource]

/-! ### The SELECT with all calls of mode and with the last one -/

section Select

variable {q : Quoting} {mark : String} {calls : List Call}

/-- A SELECT that excludes marked rows and has no condition on the mark yet. -/
theorem HasMarks.of_bare (hfilters : s.filtersDeleted = true)
    (hbare : onMarkList s.quoting s.softDeleteColumn s.conditions = []) : s.HasMarks {} := by
  rw [filtersDeleted, Bool.and_eq_true, beq_iff_eq] at hfilters
  exact ⟨hfilters.1, isShallow_of_onMarkList hbare, hbare⟩

/-- The conditions on the mark in the SELECT that a statement with such calls becomes. -/
theorem onMarkList_applyAll (hq : s.quoting = q) (hmark : s.softDeleteColumn = mark)
    (hfilters : s.filtersDeleted = true) (hbare : onMarkList q mark s.conditions = [])
    (hcalls : ∀ c ∈ calls, IsConditional q mark c) (h : (s.applyAll calls).buildError = none) :
    let m := calls.foldl (MarkState.after (q.isTight mark)) {}
    onMarkList q mark (s.applyAll calls).selectConditions =
      markTests q mark m.notNull (m.mode == .exclude || m.null) := by
  subst hq hmark
  intro m
  have hmarks : (s.applyAll calls).HasMarks m := (HasMarks.of_bare hfilters hbare).applyAll hcalls h
  obtain ⟨hcontext, -, hclass, -, -⟩ := parts_of_source (kept_applyAll hcalls s).1
  rw [filtersDeleted, Bool.and_eq_true, ← hclass] at hfilters
  have hselect := hmarks.selectConditions hfilters.2
  rw [quoting, softDeleteColumn, hcontext] at hselect
  exact hselect

/-- The last call of mode alone decides about the conditions on the mark. -/
theorem onMarkList_keepLastMode (hq : s.quoting = q) (hmark : s.softDeleteColumn = mark)
    (hfilters : s.filtersDeleted = true) (hbare : onMarkList q mark s.conditions = [])
    (hcalls : ∀ c ∈ calls, IsConditional q mark c)
    (h : (s.applyAll (Call.keepLastMode calls)).buildError = none) :
    onMarkList q mark (s.applyAll (Call.keepLastMode calls)).selectConditions =
      Call.modeTests q mark (Call.lastMode? calls) := by
  rw [onMarkList_applyAll hq hmark hfilters hbare
    (fun c hc => hcalls c (Call.mem_of_mem_keepLastMode hc)) h,
    MarkState.foldl_after_keepLastMode, MarkState.markTests_last]

/-- The test that keeps marked rows is left besides the test of the last call of mode, or it is
not. -/
theorem onMarkList_applyAll_of_last (hq : s.quoting = q) (hmark : s.softDeleteColumn = mark)
    (hfilters : s.filtersDeleted = true) (hbare : onMarkList q mark s.conditions = [])
    (hcalls : ∀ c ∈ calls, IsConditional q mark c) (h : (s.applyAll calls).buildError = none) :
    onMarkList q mark (s.applyAll calls).selectConditions =
        Call.modeTests q mark (Call.lastMode? calls) ∧
          (Call.lastMode? calls = some .onlyTrashed ∨
            ¬Call.LeavesDeleted (q.isTight mark) calls) ∨
      onMarkList q mark (s.applyAll calls).selectConditions =
          deleted q mark :: Call.modeTests q mark (Call.lastMode? calls) ∧
        Call.lastMode? calls ≠ some .onlyTrashed ∧
          Call.LeavesDeleted (q.isTight mark) calls := by
  have htests := onMarkList_applyAll hq hmark hfilters hbare hcalls h
  have hlast := MarkState.markTests_last q mark calls
  obtain ⟨hmode, hnull⟩ := MarkState.foldl_after_eq (q.isTight mark) calls
  have hleaves := MarkState.notNull_foldl_after (q.isTight mark) calls {}
  rw [or_iff_right fun hbefore => Bool.false_ne_true hbefore.1] at hleaves
  have honly := MarkState.notNull_last (q.isTight mark) calls
  simp only [hmode, hnull] at htests
  rw [htests, ← hlast]
  -- A last call that keeps only marked rows adds the test itself, so none can be left besides it.
  by_cases hthere : Call.lastMode? calls = some .onlyTrashed
  · refine .inl ⟨?_, .inl hthere⟩
    rw [MarkState.notNull_of_lastMode? (q.isTight mark) hthere, honly.2 hthere]
  · rw [Bool.eq_false_iff.2 fun heq => hthere (honly.1 heq)]
    by_cases hl : Call.LeavesDeleted (q.isTight mark) calls
    · refine .inr ⟨?_, hthere, hl⟩
      rw [hleaves.2 hl]
      rfl
    · refine .inl ⟨?_, .inr hl⟩
      rw [Bool.eq_false_iff.2 fun heq => hl (hleaves.1 heq)]

end Select

/-- **When the last call of mode decides.**  A SELECT of a class with marks of deletion is built on
with calls of mode and with calls for conditions that are not on the mark.  Without the calls of mode
but the last it is a SELECT as well, and its only condition on the mark is the test of that call.
With them it has the same if and only if that call keeps only marked rows or no call before it that
does leaves its test behind; otherwise that test is there besides. -/
theorem last_mode_decides_iff {context : Context} {before calls : List Call} {query : Compiled}
    (hkind : (build context before).kind = .select)
    (hfilters : (build context before).filtersDeleted = true)
    (hbare : onMarkList context.config.quoting context.config.softDeleteColumn
      (build context before).conditions = [])
    (hcalls : ∀ c ∈ calls,
      IsConditional context.config.quoting context.config.softDeleteColumn c)
    (h : (build context (before ++ calls)).compile = .ok query) :
    let q := context.config.quoting
    let mark := context.config.softDeleteColumn
    let s := build context (before ++ calls)
    let r := build context (before ++ Call.keepLastMode calls)
    query.sql = s.selectSql ∧
    (r.buildError = none ∧ r.table ≠ "" ∧ r.text = .ok r.selectSql) ∧
    onMarkList q mark r.selectConditions = Call.modeTests q mark (Call.lastMode? calls) ∧
    (onMarkList q mark s.selectConditions = onMarkList q mark r.selectConditions ↔
      Call.lastMode? calls = some .onlyTrashed ∨ ¬Call.LeavesDeleted (q.isTight mark) calls) ∧
    (Call.lastMode? calls ≠ some .onlyTrashed → Call.LeavesDeleted (q.isTight mark) calls →
      onMarkList q mark s.selectConditions =
        deleted q mark :: onMarkList q mark r.selectConditions) := by
  intro q mark s r
  have hs : s = (build context before).applyAll calls := build_append ..
  have hr : r = (build context before).applyAll (Call.keepLastMode calls) := build_append ..
  obtain ⟨haccepted, htable, -, -, -⟩ := compile_of_ok h
  have hsaccepted : ((build context before).applyAll calls).buildError = none := hs ▸ haccepted
  have hbefore : (build context before).buildError = none := accepted_of_applyAll hsaccepted
  have hraccepted : ((build context before).applyAll (Call.keepLastMode calls)).buildError = none :=
    accepted_keepLastMode hcalls rfl hbefore hsaccepted
  obtain ⟨hquoting, hmark⟩ := settings_build hbefore
  have hreduced := onMarkList_keepLastMode hquoting hmark hfilters hbare hcalls hraccepted
  have hwhole := onMarkList_applyAll_of_last hquoting hmark hfilters hbare hcalls hsaccepted
  rw [← hr] at hreduced
  rw [← hs] at hwhole
  obtain ⟨hssource, hskind⟩ := kept_applyAll hcalls (build context before)
  obtain ⟨hrsource, hrkind⟩ :=
    kept_applyAll (fun c hc => hcalls c (Call.mem_of_mem_keepLastMode hc)) (build context before)
  have hselect : s.kind = .select := by rw [hs, hskind, hkind]
  have hrselect : r.kind = .select := by rw [hr, hrkind, hkind]
  have htables : r.table = s.table := by
    rw [hs, hr]
    exact (parts_of_source (hrsource.trans hssource.symm)).2.1
  refine ⟨(compile_of_select hselect h).1,
    ⟨hr ▸ hraccepted, htables ▸ htable, text_of_select hrselect⟩, hreduced, ?_, ?_⟩
  · rw [hreduced]
    rcases hwhole with ⟨heq, hdecides⟩ | ⟨heq, hne, hleaves⟩
    · exact iff_of_true heq hdecides
    · refine iff_of_false (fun hsame => ?_) (not_or.2 ⟨hne, not_not.2 hleaves⟩)
      exact List.cons_ne_self _ _ (heq.symm.trans hsame)
  · intro hne hleaves
    rw [hreduced]
    rcases hwhole with ⟨-, hdecides⟩ | ⟨heq, -, -⟩
    · exact absurd (hdecides.resolve_left hne) (not_not.2 hleaves)
    · exact heq

/-- The calls of a SELECT of a class with marks of deletion. -/
def markedUsers : List Call :=
  [.model ⟨"app::models::User", "users", "id", true, []⟩]

/-- Calls of mode with conditions between them, in a group as well. -/
def switchedModes : List Call :=
  [.withTrashed, .compare .and "id" "=" (.int 1), .onlyTrashed,
    .group .or [.nullCheck .and true "team", .compare .or "admin" "=" (.int 1)], .withoutTrashed]

/-- After the last call, rows are excluded as if they always had been. -/
theorem last_mode_decides_iff_plain :
    (build {} (markedUsers ++ switchedModes)).compile =
        .ok ⟨"SELECT * FROM users WHERE `id` = ? OR (`team` IS NOT NULL OR `admin` = ?) AND " ++
          "deleted_at IS NULL", [.int 1, .int 1]⟩ ∧
      onMarkList {} "deleted_at" (build {} (markedUsers ++ switchedModes)).selectConditions =
        onMarkList {} "deleted_at"
          (build {} (markedUsers ++ Call.keepLastMode switchedModes)).selectConditions := by
  have hcompile : (build {} (markedUsers ++ switchedModes)).compile =
      .ok ⟨"SELECT * FROM users WHERE `id` = ? OR (`team` IS NOT NULL OR `admin` = ?) AND " ++
        "deleted_at IS NULL", [.int 1, .int 1]⟩ := rfl
  obtain ⟨-, -, -, hiff, -⟩ :=
    @last_mode_decides_iff {} markedUsers switchedModes _ rfl rfl rfl (by decide) hcompile
  refine ⟨hcompile, hiff.2 (.inr ?_)⟩
  have htight : Quoting.isTight ({} : Context).config.quoting
      ({} : Context).config.softDeleteColumn = true := by decide
  rw [htight]
  simp [switchedModes, Call.leavesDeleted_cons, Call.not_leavesDeleted_nil]

/-- Including marked rows after only they were kept gives them only: the test is left behind that
the last call of mode alone would not have. -/
theorem last_mode_leaves_test :
    (build {} (markedUsers ++ [.onlyTrashed, .withTrashed])).compile =
        .ok ⟨"SELECT * FROM users WHERE deleted_at IS NOT NULL", []⟩ ∧
      (build {} (markedUsers ++ Call.keepLastMode [.onlyTrashed, .withTrashed])).compile =
        .ok ⟨"SELECT * FROM users", []⟩ ∧
      (∀ c ∈ [Call.onlyTrashed, .withTrashed], IsConditional {} "deleted_at" c) ∧
      Call.lastMode? [.onlyTrashed, .withTrashed] = some .withTrashed ∧
      onMarkList {} "deleted_at"
          (build {} (markedUsers ++ [.onlyTrashed, .withTrashed])).selectConditions =
        [deleted {} "deleted_at"] ∧
      onMarkList {} "deleted_at" (build {}
          (markedUsers ++ Call.keepLastMode [.onlyTrashed, .withTrashed])).selectConditions = [] :=
  ⟨rfl, rfl, by decide, rfl, rfl, rfl⟩

end Statement
end EntityQuery

/-
# The tests of the mark of deletion

Three calls say how a SELECT treats rows that are marked as deleted, and each of them
drops one of the two tests of the mark and adds the other, or none.  What a sequence of
such calls comes to depends on the tests that the calls before have left, which a small
machine keeps (`MarkState`): whether there is a test for a mark, and whether there is one
for none.

`HasMarks` ties the machine to a statement: the conditions on the mark, in groups or not,
are the tests that the state says, each once.  A call of mode moves the statement as it
moves the machine (`HasMarks.mode_apply`), and a call for conditions that are not on the
mark moves neither, however deep its groups go (`HasMarks.spares_apply`).
`HasMarks.applyAll` is the whole run.
-/

import EntityQuery.Proofs.Built.Conditions

namespace EntityQuery

/-- Whether a name is that of the mark, with the blanks around it or without, quotes aside. -/
def Quoting.namesMark (q : Quoting) (mark name : String) : Bool :=
  q.unwrap name == q.unwrap mark || q.unwrap name == q.unwrap (Text.trim mark)

/-! ### Conditions on the mark -/

namespace Condition

variable {q : Quoting} {mark : String}

mutual

/-- The conditions on the mark in a condition: the condition itself, or those in a group. -/
def onMark (q : Quoting) (mark : String) : Condition → List Condition
  | .compare connector column op operand =>
    if q.namesMark mark column.name then [.compare connector column op operand] else []
  | .list connector column negated count =>
    if q.namesMark mark column.name then [.list connector column negated count] else []
  | .subquery connector column op sql =>
    if q.namesMark mark column.name then [.subquery connector column op sql] else []
  | .group _ members => onMarkList q mark members

/-- The conditions on the mark in a list of conditions. -/
def onMarkList (q : Quoting) (mark : String) : List Condition → List Condition
  | [] => []
  | c :: rest => onMark q mark c ++ onMarkList q mark rest

end

theorem onMarkList_append (cs ds : List Condition) :
    onMarkList q mark (cs ++ ds) = onMarkList q mark cs ++ onMarkList q mark ds := by
  induction cs with
  | nil => rfl
  | cons c cs ih => rw [List.cons_append, onMarkList, onMarkList, ih, List.append_assoc]

/-- No group holds a condition on the mark. -/
def IsShallow (q : Quoting) (mark : String) (cs : List Condition) : Prop :=
  ∀ c ∈ cs, onMark q mark c = [] ∨ onMark q mark c = [c]

theorem isShallow_of_onMarkList {cs : List Condition} (h : onMarkList q mark cs = []) :
    IsShallow q mark cs := by
  induction cs with
  | nil => exact fun c hc => absurd hc List.not_mem_nil
  | cons c cs ih =>
      rw [onMarkList, List.append_eq_nil_iff] at h
      exact List.forall_mem_cons.2 ⟨.inl h.1, ih h.2⟩

theorem IsShallow.append {cs : List Condition} {d : Condition} (h : IsShallow q mark cs)
    (hd : onMark q mark d = [] ∨ onMark q mark d = [d]) : IsShallow q mark (cs ++ [d]) := by
  intro c hc
  rcases List.mem_append.1 hc with hc | hc
  · exact h c hc
  · rw [List.mem_singleton.1 hc]
    exact hd

theorem IsShallow.filter {cs : List Condition} (h : IsShallow q mark cs) (p : Condition → Bool) :
    IsShallow q mark (cs.filter p) :=
  fun c hc => h c (List.mem_filter.1 hc).1

/-- What is dropped from the conditions is dropped from those on the mark. -/
theorem IsShallow.onMarkList_filter {cs : List Condition} (h : IsShallow q mark cs)
    (p : Condition → Bool) :
    onMarkList q mark (cs.filter p) = (onMarkList q mark cs).filter p := by
  induction cs with
  | nil => rfl
  | cons c cs ih =>
      have hrest := ih fun d hd => h d (List.mem_cons_of_mem _ hd)
      rw [onMarkList, List.filter_append, ← hrest]
      rcases h c List.mem_cons_self with hc | hc
      · rw [hc, List.filter_nil, List.nil_append]
        by_cases hp : p c = true
        · rw [List.filter_cons_of_pos hp, onMarkList, hc, List.nil_append]
        · rw [List.filter_cons_of_neg hp]
      · rw [hc]
        by_cases hp : p c = true
        · rw [List.filter_cons_of_pos hp, List.filter_cons_of_pos hp, onMarkList, hc,
            List.filter_nil]
        · rw [List.filter_cons_of_neg hp, List.filter_cons_of_neg hp, List.filter_nil,
            List.nil_append]

/-- A property of conditions on the mark only is looked for among these. -/
theorem IsShallow.any_onMarkList {cs : List Condition} (h : IsShallow q mark cs)
    {p : Condition → Bool} (hp : ∀ c, p c = true → onMark q mark c = [c]) :
    cs.any p = (onMarkList q mark cs).any p := by
  induction cs with
  | nil => rfl
  | cons c cs ih =>
      rw [onMarkList, List.any_append, List.any_cons, ih fun d hd => h d (List.mem_cons_of_mem _ hd)]
      rcases h c List.mem_cons_self with hc | hc
      · have hpc : p c = false := by
          rw [Bool.eq_false_iff]
          intro hpc
          have hself := hp c hpc
          rw [hc] at hself
          exact List.cons_ne_nil _ _ hself.symm
        rw [hc, hpc]
        rfl
      · rw [hc, List.any_cons, List.any_nil, Bool.or_false]

/-- A test for null of a column that names the mark is a condition on the mark. -/
theorem onMark_of_isNullCheck {name : String} (hname : q.namesMark mark name = true)
    {notNull : Bool} {connector : Connector} {c : Condition}
    (h : c.isNullCheck q name notNull connector = true) : onMark q mark c = [c] := by
  obtain ⟨column, rfl, hcolumn⟩ := isNullCheck_iff.1 h
  have hmark : q.namesMark mark column.name = true := by
    rw [Quoting.namesMark, hcolumn]
    exact hname
  rw [onMark, if_pos hmark]

/-- A test of the mark that is added unless it is there already. -/
theorem IsShallow.putTest {cs : List Condition} (h : IsShallow q mark cs) {name : String}
    (hname : q.namesMark mark name = true) (notNull : Bool) {d : Condition}
    (hd : onMark q mark d = [d]) :
    IsShallow q mark (if cs.any (isNullCheck q name notNull .and) then cs else cs ++ [d]) ∧
      onMarkList q mark (if cs.any (isNullCheck q name notNull .and) then cs else cs ++ [d]) =
        if (onMarkList q mark cs).any (isNullCheck q name notNull .and) then onMarkList q mark cs
        else onMarkList q mark cs ++ [d] := by
  have hany : cs.any (isNullCheck q name notNull .and) =
      (onMarkList q mark cs).any (isNullCheck q name notNull .and) :=
    h.any_onMarkList fun _ => onMark_of_isNullCheck hname
  rw [← hany]
  split
  · exact ⟨h, rfl⟩
  · refine ⟨h.append (.inr hd), ?_⟩
    rw [onMarkList_append, onMarkList, onMarkList, hd]
    rfl

/-- The test that keeps marked rows, as a statement adds it: the blanks around the mark are
dropped. -/
def deleted (q : Quoting) (mark : String) : Condition :=
  .compare .and ⟨Text.trim mark, q.unwrap (Text.trim mark) == q.unwrap mark⟩ .isNot .null

/-- The tests of the mark for not null and for null. -/
def markTests (q : Quoting) (mark : String) (notNull null : Bool) : List Condition :=
  (if notNull then [deleted q mark] else []) ++ (if null then [notDeleted mark] else [])

end Condition

namespace Quoting

variable (q : Quoting) (mark : String)

theorem namesMark_self : q.namesMark mark mark = true := by
  rw [namesMark, beq_self_eq_true, Bool.true_or]

theorem namesMark_trim : q.namesMark mark (Text.trim mark) = true := by
  rw [namesMark, beq_self_eq_true, Bool.or_true]

/-- Whether the mark is the same without the blanks around it, quotes aside. -/
def isTight : Bool :=
  q.unwrap (Text.trim mark) == q.unwrap mark

end Quoting

namespace Condition

variable (q : Quoting) (mark : String) (notNull null : Bool)

theorem onMark_deleted : onMark q mark (deleted q mark) = [deleted q mark] := by
  rw [deleted, onMark, if_pos (q.namesMark_trim mark)]

theorem onMark_notDeleted : onMark q mark (notDeleted mark) = [notDeleted mark] := by
  rw [notDeleted, onMark, if_pos (q.namesMark_self mark)]

theorem isNullCheck_deleted (name : String) (asked : Bool) (connector : Connector) :
    (deleted q mark).isNullCheck q name asked connector =
      (asked && connector == .and && q.unwrap (Text.trim mark) == q.unwrap name) := by
  cases asked <;> cases connector <;> rfl

theorem isNullCheck_notDeleted (name : String) (asked : Bool) (connector : Connector) :
    (notDeleted mark).isNullCheck q name asked connector =
      (!asked && connector == .and && q.unwrap mark == q.unwrap name) := by
  cases asked <;> cases connector <;> rfl

/-- A test of the mark is no test of a column that does not name it. -/
theorem isNullCheck_of_mem_markTests {name : String} (hname : q.namesMark mark name = false)
    {c : Condition} (hc : c ∈ markTests q mark notNull null) (asked : Bool)
    (connector : Connector) : c.isNullCheck q name asked connector = false := by
  rw [Quoting.namesMark, Bool.or_eq_false_iff, beq_eq_false_iff_ne, beq_eq_false_iff_ne] at hname
  rcases List.mem_append.1 hc with hc | hc
  · split at hc
    · rw [List.mem_singleton.1 hc, isNullCheck_deleted, beq_eq_false_iff_ne.2 (Ne.symm hname.2),
        Bool.and_false]
    · exact absurd hc List.not_mem_nil
  · split at hc
    · rw [List.mem_singleton.1 hc, isNullCheck_notDeleted,
        beq_eq_false_iff_ne.2 (Ne.symm hname.1), Bool.and_false]
    · exact absurd hc List.not_mem_nil

/-! ### Dropping and adding tests of the mark -/

/-- The conditions on the mark are its tests, each once, and in no group. -/
structure HoldTests (q : Quoting) (mark : String) (notNull null : Bool) (cs : List Condition) :
    Prop where
  shallow : IsShallow q mark cs
  tests : onMarkList q mark cs = markTests q mark notNull null

variable {q mark notNull null} {cs : List Condition}

theorem HoldTests.filter (h : HoldTests q mark notNull null cs) {p : Condition → Bool}
    {notNull' null' : Bool}
    (hp : (markTests q mark notNull null).filter p = markTests q mark notNull' null') :
    HoldTests q mark notNull' null' (cs.filter p) where
  shallow := h.shallow.filter p
  tests := by rw [h.shallow.onMarkList_filter, h.tests, hp]

theorem HoldTests.dropNull (h : HoldTests q mark notNull null cs) :
    HoldTests q mark notNull false
      (cs.filter fun c => !c.isNullCheck q mark false .and && !c.isNullCheck q mark false .or) := by
  refine h.filter ?_
  cases notNull <;> cases null <;> simp [markTests, isNullCheck_deleted, isNullCheck_notDeleted]

/-- The test for not null is recognized unless the mark has blanks around it. -/
theorem HoldTests.dropNotNull (h : HoldTests q mark notNull null cs) :
    HoldTests q mark (notNull && !q.isTight mark) null
      (cs.filter fun c => !c.isNullCheck q mark true .and && !c.isNullCheck q mark true .or) := by
  have hdeleted : ∀ connector, (deleted q mark).isNullCheck q mark true connector =
      (connector == .and && q.isTight mark) := by
    intro connector
    rw [isNullCheck_deleted, Bool.true_and, Quoting.isTight]
  refine h.filter ?_
  cases htight : q.isTight mark <;> cases notNull <;> cases null <;>
    simp [markTests, hdeleted, isNullCheck_notDeleted, htight]

theorem HoldTests.putDeleted (h : HoldTests q mark notNull false cs) :
    HoldTests q mark true false
      (let kept := cs.filter fun c => !c.isNullCheck q (Text.trim mark) false .and
        if kept.any (isNullCheck q (Text.trim mark) true .and) then kept
        else kept ++ [deleted q mark]) := by
  have hkept : HoldTests q mark notNull false
      (cs.filter fun c => !c.isNullCheck q (Text.trim mark) false .and) := by
    refine h.filter ?_
    cases notNull <;> simp [markTests, isNullCheck_deleted]
  obtain ⟨hshallow, htests⟩ :=
    hkept.shallow.putTest (q.namesMark_trim mark) true (onMark_deleted q mark)
  refine ⟨hshallow, htests.trans ?_⟩
  rw [hkept.tests]
  cases notNull <;> simp [markTests, isNullCheck_deleted]

theorem HoldTests.putNotDeleted (h : HoldTests q mark notNull null cs) :
    HoldTests q mark notNull true
      (if cs.any (isNullCheck q mark false .and) then cs else cs ++ [notDeleted mark]) := by
  obtain ⟨hshallow, htests⟩ :=
    h.shallow.putTest (q.namesMark_self mark) false (onMark_notDeleted q mark)
  refine ⟨hshallow, htests.trans ?_⟩
  rw [h.tests]
  cases notNull <;> cases null <;> simp [markTests, isNullCheck_deleted, isNullCheck_notDeleted]

/-- Conditions that are not on the mark may be added. -/
theorem HoldTests.append (h : HoldTests q mark notNull null cs) {d : Condition}
    (hd : onMark q mark d = []) : HoldTests q mark notNull null (cs ++ [d]) where
  shallow := h.shallow.append (.inl hd)
  tests := by
    rw [onMarkList_append, onMarkList, onMarkList, hd, h.tests]
    exact List.append_nil _

end Condition

/-! ### What calls make of the tests -/

namespace Call

/-- Whether a call says how a SELECT treats rows that are marked as deleted. -/
def isMode : Call → Bool
  | .withTrashed => true
  | .onlyTrashed => true
  | .withoutTrashed => true
  | _ => false

mutual

/-- Whether a call asks for conditions none of which is on the mark. -/
def sparesMark (q : Quoting) (mark : String) : Call → Bool
  | .compare _ column _ _ => !q.namesMark mark (Text.trim column)
  | .group _ calls => sparesMarkAll q mark calls
  | .compareSub _ column _ _ => !q.namesMark mark (Text.trim column)
  | .inList _ _ column _ => !q.namesMark mark (Text.trim column)
  | .nullCheck _ _ column => !q.namesMark mark (Text.trim column)
  | .jsonContains column _ => !q.namesMark mark (Text.trim column)
  | .jsonCompare column _ _ _ => !q.namesMark mark (Text.trim column)
  | _ => false

/-- Whether all calls of a sequence do. -/
def sparesMarkAll (q : Quoting) (mark : String) : List Call → Bool
  | [] => true
  | c :: rest => sparesMark q mark c && sparesMarkAll q mark rest

end

end Call

/-- How marked rows are treated, and whether there is a test of the mark for not null and one for
null. -/
structure MarkState where
  mode : SoftDeleteMode := .exclude
  notNull : Bool := false
  null : Bool := false

/-- The state after a call.  Including marked rows drops the test for null only, and excluding them
drops the test for not null unless blanks around the mark keep it from being recognized. -/
def MarkState.after (tight : Bool) (m : MarkState) : Call → MarkState
  | .withTrashed => ⟨.include, m.notNull, false⟩
  | .onlyTrashed => ⟨.only, true, false⟩
  | .withoutTrashed => ⟨.exclude, m.notNull && !tight, true⟩
  | _ => m

theorem Call.isMode_eq_false_of_sparesMark {q : Quoting} {mark : String} {c : Call}
    (hc : c.sparesMark q mark = true) : c.isMode = false := by
  cases c with
  | withTrashed => exact nomatch hc
  | onlyTrashed => exact nomatch hc
  | withoutTrashed => exact nomatch hc
  | _ => rfl

theorem MarkState.after_of_not_isMode {c : Call} (hc : c.isMode = false) (tight : Bool)
    (m : MarkState) : m.after tight c = m := by
  cases c with
  | withTrashed => exact nomatch hc
  | onlyTrashed => exact nomatch hc
  | withoutTrashed => exact nomatch hc
  | _ => rfl

namespace Statement

open Condition

/-- The conditions of a statement on the mark are the tests of a state. -/
structure HasMarks (s : Statement) (m : MarkState) : Prop where
  mode : s.softDeleteMode = m.mode
  conditions : HoldTests s.quoting s.softDeleteColumn m.notNull m.null s.conditions

variable {s t : Statement} {m : MarkState}

/-- **A call of mode moves a statement as it moves the state.** -/
theorem HasMarks.mode_apply {c : Call} (h : s.HasMarks m) (hc : c.isMode = true)
    (ha : (s.apply c).buildError = none) :
    (s.apply c).HasMarks (m.after (s.quoting.isTight s.softDeleteColumn) c) := by
  cases c with
  | withTrashed =>
      rw [apply]
      exact ⟨rfl, h.conditions.dropNull⟩
  | onlyTrashed =>
      rw [apply] at ha ⊢
      rw [(onlyTrashed_of_accepted ha).2]
      exact ⟨rfl, h.conditions.dropNull.putDeleted⟩
  | withoutTrashed =>
      rw [apply, withoutTrashed_eq]
      exact ⟨rfl, h.conditions.dropNotNull.putNotDeleted⟩
  | _ => exact nomatch hc

/-! ### Conditions that are not on the mark -/

/-- An accepted call that does not set the mode keeps the state if it keeps the tests. -/
theorem HasMarks.of_frame {c : Call} (h : s.HasMarks m) (ha : (s.apply c).buildError = none)
    (hmode : c.setsMode = false)
    (hconditions :
      HoldTests s.quoting s.softDeleteColumn m.notNull m.null (s.apply c).conditions) :
    (s.apply c).HasMarks m where
  mode := ((frame_apply ha).softDeleteMode hmode).trans h.mode
  conditions := by
    rw [quoting, softDeleteColumn, context_apply ha]
    exact hconditions

theorem HasMarks.scope (s : Statement) : s.scope.HasMarks {} :=
  ⟨rfl, fun _ hc => absurd hc List.not_mem_nil, rfl⟩

/-- A test for null of another column keeps the tests of the mark. -/
theorem HasMarks.nullChecked (h : s.HasMarks m) {column : String}
    (hcolumn : s.quoting.namesMark s.softDeleteColumn column = false) (connector : Connector)
    (notNull : Bool) :
    HoldTests s.quoting s.softDeleteColumn m.notNull m.null
      (s.nullChecked connector notNull column) := by
  have hkept : HoldTests s.quoting s.softDeleteColumn m.notNull m.null
      (s.conditions.filter fun c => !c.isNullCheck s.quoting column (!notNull) connector) := by
    refine h.conditions.filter (List.filter_eq_self.2 fun c hc => ?_)
    rw [isNullCheck_of_mem_markTests _ _ _ _ hcolumn hc]
    rfl
  have hadded : onMark s.quoting s.softDeleteColumn
      (.compare connector ⟨column, s.quoting.unwrap column == s.quoting.unwrap s.softDeleteColumn⟩
        (nullOperator notNull) .null) = [] := by
    rw [onMark, if_neg (by simp [hcolumn])]
  unfold Statement.nullChecked
  simp only
  split
  · exact hkept
  · exact hkept.append hadded

mutual

/-- **A call for conditions that are not on the mark moves nothing.** -/
theorem HasMarks.spares_apply {s : Statement} {m : MarkState} (c : Call)
    (hc : c.sparesMark s.quoting s.softDeleteColumn = true) (ha : (s.apply c).buildError = none)
    (h : s.HasMarks m) : (s.apply c).HasMarks m := by
  cases c with
  | compare connector column operator value =>
      rw [Call.sparesMark, Bool.not_eq_true'] at hc
      refine h.of_frame ha rfl ?_
      rw [apply] at ha ⊢
      obtain ⟨-, -, op, operand, values, -, -, heq⟩ := compare_of_accepted ha
      rw [heq]
      exact h.conditions.append (by rw [onMark, if_neg (by simp [hc])])
  | group connector calls =>
      rw [Call.sparesMark] at hc
      refine h.of_frame ha rfl ?_
      rw [apply] at ha ⊢
      obtain ⟨-, hgroup, -, heq⟩ := addGroup_of_accepted ha
      -- The members are built on their own, from a scope without any tests.
      have hmembers := (HasMarks.scope s).spares_applyAll calls hc hgroup
      rw [heq]
      split
      · exact h.conditions
      · refine h.conditions.append ?_
        have htests := hmembers.conditions.tests
        rw [quoting, softDeleteColumn, context_applyAll hgroup] at htests
        exact htests
  | compareSub connector column operator sub =>
      rw [Call.sparesMark, Bool.not_eq_true'] at hc
      refine h.of_frame ha rfl ?_
      rw [apply] at ha ⊢
      obtain ⟨-, -, op, query, -, -, -, -, heq⟩ := compareSub_of_accepted ha
      rw [heq]
      exact h.conditions.append (by rw [onMark, if_neg (by simp [hc])])
  | inList connector negated column values =>
      rw [Call.sparesMark, Bool.not_eq_true'] at hc
      refine h.of_frame ha rfl ?_
      rw [apply] at ha ⊢
      rw [(inList_of_accepted ha).2.2.2]
      exact h.conditions.append (by rw [onMark, if_neg (by simp [hc])])
  | nullCheck connector notNull column =>
      rw [Call.sparesMark, Bool.not_eq_true'] at hc
      refine h.of_frame ha rfl ?_
      rw [apply] at ha ⊢
      rw [(nullCheck_of_accepted ha).2.2]
      split
      · exact h.conditions
      · exact h.nullChecked hc connector notNull
  | jsonContains column value =>
      refine h.of_frame ha rfl ?_
      rw [(frame_apply ha).conditions rfl]
      exact h.conditions
  | jsonCompare column path operator value =>
      refine h.of_frame ha rfl ?_
      rw [(frame_apply ha).conditions rfl]
      exact h.conditions
  | _ => exact nomatch hc

theorem HasMarks.spares_applyAll {s : Statement} {m : MarkState} (h : s.HasMarks m)
    (calls : List Call) (hc : Call.sparesMarkAll s.quoting s.softDeleteColumn calls = true)
    (ha : (s.applyAll calls).buildError = none) : (s.applyAll calls).HasMarks m := by
  cases calls with
  | nil => exact h
  | cons c rest =>
      rw [Call.sparesMarkAll, Bool.and_eq_true] at hc
      rw [applyAll] at ha ⊢
      have hfirst := accepted_of_applyAll ha
      refine (spares_apply c hc.1 hfirst h).spares_applyAll rest ?_ ha
      rw [quoting, softDeleteColumn, context_apply hfirst]
      exact hc.2

end

/-! ### Whole constructions -/

/-- **The tests of the mark after a construction** are those of the state after its calls. -/
theorem HasMarks.applyAll {calls : List Call} (h : s.HasMarks m)
    (hcalls : ∀ c ∈ calls,
      c.isMode = true ∨ c.sparesMark s.quoting s.softDeleteColumn = true)
    (ha : (s.applyAll calls).buildError = none) :
    (s.applyAll calls).HasMarks
      (calls.foldl (MarkState.after (s.quoting.isTight s.softDeleteColumn)) m) := by
  induction calls generalizing s m with
  | nil => exact h
  | cons c calls ih =>
      rw [Statement.applyAll] at ha ⊢
      have hfirst := accepted_of_applyAll ha
      have hstep : (s.apply c).HasMarks
          (m.after (s.quoting.isTight s.softDeleteColumn) c) := by
        rcases hcalls c List.mem_cons_self with hc | hc
        · exact h.mode_apply hc hfirst
        · rw [MarkState.after_of_not_isMode (Call.isMode_eq_false_of_sparesMark hc)]
          exact h.spares_apply c hc hfirst
      have hcontext := context_apply hfirst
      have hrest := ih hstep (fun d hd => by
        rw [quoting, softDeleteColumn, hcontext]
        exact hcalls d (List.mem_cons_of_mem _ hd)) ha
      rw [quoting, softDeleteColumn, hcontext] at hrest
      exact hrest

/-- **The tests of the mark in a SELECT** of a class with marks of deletion: compiling adds the test
for null if it is not there and marked rows are to be excluded. -/
theorem HasMarks.selectConditions (h : s.HasMarks m)
    (hclass : s.modelClass.any ModelClass.softDeletes = true) :
    onMarkList s.quoting s.softDeleteColumn s.selectConditions =
      markTests s.quoting s.softDeleteColumn m.notNull (m.mode == .exclude || m.null) := by
  have hfilters : s.filtersDeleted = (m.mode == .exclude) := by
    rw [filtersDeleted, hclass, h.mode, Bool.and_true]
  have hany : s.conditions.any (isNullCheck s.quoting s.softDeleteColumn false .and) = m.null := by
    rw [h.conditions.shallow.any_onMarkList fun _ =>
      onMark_of_isNullCheck (s.quoting.namesMark_self s.softDeleteColumn), h.conditions.tests]
    cases m.notNull <;> cases m.null <;> simp [markTests, isNullCheck_deleted, isNullCheck_notDeleted]
  have happended : ∀ cs : List Condition,
      onMarkList s.quoting s.softDeleteColumn cs =
        onMarkList s.quoting s.softDeleteColumn s.conditions →
      onMarkList s.quoting s.softDeleteColumn (cs ++ [notDeleted s.softDeleteColumn]) =
        markTests s.quoting s.softDeleteColumn m.notNull m.null ++
          [notDeleted s.softDeleteColumn] := by
    intro cs hcs
    rw [onMarkList_append, hcs, h.conditions.tests, onMarkList, onMarkList, onMark_notDeleted]
    rfl
  unfold Statement.selectConditions
  rw [hfilters, hany]
  cases m.mode == .exclude with
  | false => exact h.conditions.tests
  | true =>
      rw [Bool.not_true, if_neg Bool.false_ne_true, Bool.true_or]
      cases hnull : m.null with
      | true =>
          rw [if_pos rfl, h.conditions.tests, hnull]
      | false =>
          rw [if_neg Bool.false_ne_true]
          have hadded : markTests s.quoting s.softDeleteColumn m.notNull m.null ++
              [notDeleted s.softDeleteColumn] =
                markTests s.quoting s.softDeleteColumn m.notNull true := by
            rw [hnull]
            cases m.notNull <;> rfl
          rw [← hadded]
          split
          · refine happended [.group .and s.conditions] ?_
            rw [onMarkList, onMarkList, onMark, List.append_nil]
          · exact happended s.conditions rfl

end Statement
end EntityQuery

/-
# No column is tested for null twice

Tests for null come from five kinds of calls: the calls that ask for one, and those that
say how marked rows are treated.  Each of them looks for the tests that are there already,
drops some and adds one where there is none left.

`Edits` says what all calls together can do to a list of conditions: add a condition that
is no test for null, drop conditions, and add a test of a column that has none with its
connector (`edits_apply`, `edits_applyAll`).  No such edit makes two tests of a column
with one connector out of one (`Edits.testsOnce`), so no construction has two, and
`null_tests_unique` says so.  The one way around it is a comparison with the operators IS
and IS NOT, which is added like any other (`Call.comparesWithNull`).

Rejected calls are among these calls: what they do before they are refused is an edit too.
-/

import EntityQuery.Proofs.Built.Conditions
import EntityQuery.Proofs.Built.Rejected

namespace EntityQuery
namespace Condition

variable {q : Quoting} {name : String} {connector : Connector} {cs ds : List Condition}
variable {d : Condition}

/-! ### Tests of a column -/

/-- Whether a condition tests a column for null, or for not null, and has a connector. -/
def isNullTest (q : Quoting) (name : String) (connector : Connector) (d : Condition) : Bool :=
  d.isNullCheck q name false connector || d.isNullCheck q name true connector

/-- The tests of a column for null and for not null among conditions, for one connector. -/
def nullTests (q : Quoting) (name : String) (connector : Connector) (cs : List Condition) :
    List Condition :=
  cs.filter (isNullTest q name connector)

/-- No column has two tests with the same connector, be they for null or for not null. -/
def TestsOnce (q : Quoting) (cs : List Condition) : Prop :=
  ∀ name connector, (nullTests q name connector cs).length ≤ 1

/-- Whether a condition is a comparison with NULL. -/
def isNullComparison : Condition → Bool
  | .compare _ _ .is .null => true
  | .compare _ _ .isNot .null => true
  | _ => false

theorem isNullTest_iff :
    d.isNullTest q name connector = true ↔
      ∃ notNull, d.isNullCheck q name notNull connector = true := by
  rw [isNullTest, Bool.or_eq_true]
  constructor
  · rintro (h | h)
    · exact ⟨false, h⟩
    · exact ⟨true, h⟩
  · rintro ⟨notNull, h⟩
    cases notNull with
    | false => exact .inl h
    | true => exact .inr h

theorem isNullTest_of_not_isNullComparison (hd : d.isNullComparison = false) :
    d.isNullTest q name connector = false := by
  rw [Bool.eq_false_iff]
  intro h
  obtain ⟨notNull, hcheck⟩ := isNullTest_iff.1 h
  obtain ⟨column, rfl, -⟩ := isNullCheck_iff.1 hcheck
  cases notNull with
  | false => exact nomatch hd
  | true => exact nomatch hd

/-- A test counts for every column that has the name of its own, quotes aside. -/
theorem isNullTest_compare_iff {asked : Connector} {column : ColumnRef} {notNull : Bool} :
    (compare asked column (nullOperator notNull) .null).isNullTest q name connector = true ↔
      asked = connector ∧ q.unwrap column.name = q.unwrap name := by
  rw [isNullTest_iff]
  constructor
  · rintro ⟨_, hcheck⟩
    obtain ⟨column', heq, hname⟩ := isNullCheck_iff.1 hcheck
    obtain ⟨rfl, rfl, -⟩ := Condition.compare.inj heq
    exact ⟨rfl, hname⟩
  · rintro ⟨rfl, hname⟩
    exact ⟨notNull, isNullCheck_iff.2 ⟨column, rfl, hname⟩⟩

theorem nullTests_eq_nil
    (h : ∀ notNull, cs.any (isNullCheck q name notNull connector) = false) :
    nullTests q name connector cs = [] := by
  refine List.filter_eq_nil_iff.2 fun d hd htest => ?_
  obtain ⟨notNull, hcheck⟩ := isNullTest_iff.1 htest
  exact Bool.false_ne_true ((h notNull).symm.trans (List.any_eq_true.2 ⟨d, hd, hcheck⟩))

/-- Two names that are the same without quotes have the same tests. -/
theorem nullTests_congr {other : String} (h : q.unwrap name = q.unwrap other) :
    nullTests q name connector cs = nullTests q other connector cs := by
  have hcheck : ∀ notNull, isNullCheck q name notNull connector =
      isNullCheck q other notNull connector := by
    intro notNull
    funext d
    rw [Bool.eq_iff_iff, isNullCheck_iff, isNullCheck_iff, h]
  have htest : isNullTest q name connector = isNullTest q other connector := by
    funext d
    rw [isNullTest, isNullTest, hcheck, hcheck]
  rw [nullTests, nullTests, htest]

/-! ### Edits -/

/-- What calls may make of a list of conditions. -/
inductive Edits (q : Quoting) : List Condition → List Condition → Prop where
  | keep (cs : List Condition) : Edits q cs cs
  | add (cs : List Condition) {d : Condition} (h : d.isNullComparison = false) :
      Edits q cs (cs ++ [d])
  | drop (cs : List Condition) (kept : Condition → Bool) : Edits q cs (cs.filter kept)
  | test (cs : List Condition) (connector : Connector) (column : ColumnRef) (notNull : Bool)
      (h : ∀ asked, cs.any (isNullCheck q column.name asked connector) = false) :
      Edits q cs (cs ++ [.compare connector column (nullOperator notNull) .null])
  | trans {cs ds es : List Condition} : Edits q cs ds → Edits q ds es → Edits q cs es

theorem TestsOnce.filter (h : TestsOnce q cs) (kept : Condition → Bool) :
    TestsOnce q (cs.filter kept) :=
  fun name connector =>
    Nat.le_trans (List.filter_sublist.filter (isNullTest q name connector)).length_le
      (h name connector)

theorem TestsOnce.add (h : TestsOnce q cs) (hd : d.isNullComparison = false) :
    TestsOnce q (cs ++ [d]) := by
  intro name connector
  have hnone : [d].filter (isNullTest q name connector) = [] :=
    List.filter_eq_nil_iff.2 fun d' hd' htest => by
      rw [List.mem_singleton.1 hd', isNullTest_of_not_isNullComparison hd] at htest
      exact Bool.false_ne_true htest
  rw [nullTests, List.filter_append, hnone, List.append_nil]
  exact h name connector

/-- A test may be added if the column has none with its connector. -/
theorem TestsOnce.test (h : TestsOnce q cs) {asked : Connector} {column : ColumnRef}
    (notNull : Bool) (hnone : nullTests q column.name asked cs = []) :
    TestsOnce q (cs ++ [.compare asked column (nullOperator notNull) .null]) := by
  intro name connector
  rw [nullTests, List.filter_append, ← nullTests, List.length_append]
  by_cases htest : (compare asked column (nullOperator notNull) .null).isNullTest q name
      connector = true
  · -- The new test is one of this column, which then had none before.
    obtain ⟨rfl, hname⟩ := isNullTest_compare_iff.1 htest
    rw [← nullTests_congr hname, hnone, List.filter_cons_of_pos htest]
    exact Nat.le_refl 1
  · rw [List.filter_cons_of_neg htest]
    exact h name connector

/-- **No edit makes two tests out of one.** -/
theorem Edits.testsOnce (h : Edits q cs ds) (hcs : TestsOnce q cs) : TestsOnce q ds := by
  induction h with
  | keep => exact hcs
  | add _ hd => exact hcs.add hd
  | drop _ kept => exact hcs.filter kept
  | test _ connector column notNull hnone => exact hcs.test notNull (nullTests_eq_nil hnone)
  | trans _ _ ihfirst ihsecond => exact ihsecond (ihfirst hcs)

/-- A test is added unless it is there, once the opposite one was dropped. -/
theorem Edits.putTest (connector : Connector) (column : ColumnRef) (notNull : Bool)
    (hopposite : cs.any (isNullCheck q column.name (!notNull) connector) = false) :
    Edits q cs
      (if cs.any (isNullCheck q column.name notNull connector) then cs
      else cs ++ [.compare connector column (nullOperator notNull) .null]) := by
  split
  · exact .keep cs
  · rename_i hasked
    refine .test cs connector column notNull fun asked => ?_
    by_cases heq : asked = notNull
    · rw [heq, Bool.eq_false_iff]
      exact hasked
    · rw [Bool.eq_not_of_ne heq]
      exact hopposite

/-- What is not kept is not there afterwards. -/
theorem any_filter_eq_false {p kept : Condition → Bool}
    (h : ∀ d, kept d = true → p d = false) (cs : List Condition) :
    (cs.filter kept).any p = false := by
  rw [List.any_eq_false]
  intro d hd
  rw [h d (List.mem_filter.1 hd).2]
  exact Bool.false_ne_true

end Condition

/-- Whether a call compares a column with NULL by the operator IS or IS NOT. -/
def Call.comparesWithNull : Call → Bool
  | .compare _ _ operator _ =>
    Operator.parse? operator == some .is || Operator.parse? operator == some .isNot
  | _ => false

namespace Statement

open Condition

variable {s t u : Statement} {c : Call} {calls : List Call}

/-! ### What a call makes of the conditions -/

/-- The second statement has the context of the first, and its conditions with an edit. -/
structure EditsTo (s t : Statement) : Prop where
  context : t.context = s.context
  conditions : Edits s.quoting s.conditions t.conditions

theorem EditsTo.of_conditions (hcontext : t.context = s.context)
    (hconditions : t.conditions = s.conditions) : EditsTo s t where
  context := hcontext
  conditions := by
    rw [hconditions]
    exact .keep _

theorem EditsTo.refl (s : Statement) : EditsTo s s :=
  .of_conditions rfl rfl

theorem EditsTo.trans (h : EditsTo s t) (h' : EditsTo t u) : EditsTo s u where
  context := h'.context.trans h.context
  conditions := by
    have hsecond := h'.conditions
    rw [quoting, h.context] at hsecond
    exact h.conditions.trans hsecond

theorem editsTo_of_contents (h : t.contents = s.contents) : EditsTo s t :=
  have hcontext : t.contents.context = s.contents.context := congrArg Statement.context h
  .of_conditions hcontext (conditions_of_contents h)

theorem editsTo_fail (s : Statement) (e : Error) : EditsTo s (s.fail e) :=
  editsTo_of_contents (contents_fail s e)

theorem editsTo_misuse (s : Statement) (m : Misuse) : EditsTo s (s.misuse m) :=
  editsTo_of_contents (contents_misuse s m)

/-- Adding a condition that is no comparison with NULL. -/
theorem editsTo_addCondition (s : Statement) {d : Condition} (hd : d.isNullComparison = false)
    (values : List Value) : EditsTo s (s.addCondition d values) :=
  ⟨rfl, .add _ hd⟩

theorem editsTo_compare (s : Statement) (connector : Connector) (column operator : String)
    (value : Value) (hop : Operator.parse? operator ≠ some .is)
    (hop' : Operator.parse? operator ≠ some .isNot) :
    EditsTo s (s.compare connector column operator value) := by
  unfold compare
  simp only
  split
  · exact editsTo_misuse s _
  · split
    · exact editsTo_misuse s _
    · rename_i op hparsed
      split
      · exact editsTo_misuse s _
      · refine editsTo_addCondition s ?_ _
        rw [hparsed] at hop hop'
        cases op with
        | is => exact absurd rfl hop
        | isNot => exact absurd rfl hop'
        | _ => rfl

theorem editsTo_addGroup (s : Statement) (connector : Connector) (group : Statement) :
    EditsTo s (s.addGroup connector group) := by
  unfold addGroup
  split
  · exact editsTo_fail s _
  · split
    · exact editsTo_misuse s _
    · split
      · exact .refl s
      · exact editsTo_addCondition s rfl _

theorem editsTo_compareSub (s : Statement) (connector : Connector) (column operator : String)
    (sub : Statement) : EditsTo s (s.compareSub connector column operator sub) := by
  unfold compareSub
  simp only
  split
  · exact editsTo_misuse s _
  · split
    · exact editsTo_misuse s _
    · split
      · exact editsTo_misuse s _
      · split
        · exact editsTo_misuse s _
        · split
          · exact editsTo_fail s _
          · exact editsTo_addCondition s rfl _

theorem editsTo_inList (s : Statement) (connector : Connector) (negated : Bool) (column : String)
    (values : List Value) : EditsTo s (s.inList connector negated column values) := by
  unfold inList
  simp only
  split
  · exact editsTo_misuse s _
  · split
    · exact editsTo_misuse s _
    · exact editsTo_addCondition s rfl _

/-- A test that is asked for is put where the opposite one was dropped. -/
theorem edits_nullChecked (s : Statement) (connector : Connector) (notNull : Bool)
    (column : String) :
    Edits s.quoting s.conditions (s.nullChecked connector notNull column) := by
  unfold nullChecked
  refine (Edits.drop _ _).trans (Edits.putTest connector ⟨column, _⟩ notNull ?_)
  refine any_filter_eq_false (fun d hd => ?_) _
  rwa [Bool.not_eq_true'] at hd

theorem editsTo_nullCheck (s : Statement) (connector : Connector) (notNull : Bool)
    (column : String) : EditsTo s (s.nullCheck connector notNull column) := by
  have hput := s.edits_nullChecked connector notNull (Text.trim column)
  unfold nullCheck
  unfold nullChecked at hput
  simp only at hput ⊢
  split
  · exact editsTo_misuse s _
  · split
    · exact .refl s
    · split
      · rename_i hthere
        rw [if_pos hthere] at hput
        exact ⟨rfl, hput⟩
      · rename_i hthere
        rw [if_neg hthere] at hput
        exact ⟨rfl, hput⟩

theorem editsTo_withTrashed (s : Statement) : EditsTo s s.withTrashed :=
  ⟨rfl, .drop _ _⟩

/-- If the test for not null is refused, those for null are dropped all the same. -/
theorem editsTo_onlyTrashed (s : Statement) : EditsTo s s.onlyTrashed :=
  EditsTo.trans (t := { s.dropMarkChecks false with softDeleteMode := .only }) ⟨rfl, .drop _ _⟩
    (editsTo_nullCheck _ .and true s.softDeleteColumn)

/-- The test of the mark for null is put where the one for not null was dropped. -/
theorem editsTo_withoutTrashed (s : Statement) : EditsTo s s.withoutTrashed := by
  rw [withoutTrashed_eq, unmarkedConditions]
  refine ⟨rfl, (Edits.drop _ _).trans (Edits.putTest .and ⟨s.softDeleteColumn, true⟩ false ?_)⟩
  refine any_filter_eq_false (fun d hd => ?_) _
  rw [Bool.and_eq_true, Bool.not_eq_true'] at hd
  exact hd.1

theorem editsTo_setMutation (s : Statement) (kind : Kind) (data : List (String × Value)) :
    EditsTo s (s.setMutation kind data) := by
  have hcontext : (s.setMutation kind data).contents.context = s.contents.context := by
    rw [contents_setMutation]
    split
    · rfl
    · rfl
  exact .of_conditions hcontext (conditions_setMutation s kind data)

theorem editsTo_upsert (s : Statement) (data : List (String × Value)) (unique : List String) :
    EditsTo s (s.upsert data unique) := by
  have hcontext : (s.upsert data unique).contents.context =
      (s.setMutation .upsert data).contents.context := by rw [contents_upsert]
  have hconditions : (s.upsert data unique).contents.conditions =
      (s.setMutation .upsert data).contents.conditions := by rw [contents_upsert]
  exact (editsTo_setMutation s .upsert data).trans (.of_conditions hcontext hconditions)

theorem editsTo_setKind (s : Statement) (kind : Kind) : EditsTo s (s.setKind kind) := by
  have hcontext : (s.setKind kind).contents.context = s.contents.context := by
    rw [contents_setKind]
  have hconditions : (s.setKind kind).contents.conditions = s.contents.conditions := by
    rw [contents_setKind]
  exact .of_conditions hcontext hconditions

theorem editsTo_having (s : Statement) (column operator : String) (value : Value) :
    EditsTo s (s.having column operator value) := by
  unfold having
  split
  · exact editsTo_misuse s _
  · split
    · exact editsTo_misuse s _
    · exact .of_conditions rfl rfl

theorem editsTo_orderByCase (s : Statement) (column : String) (ranks : List (Value × Int))
    (otherwise direction : String) :
    EditsTo s (s.orderByCase column ranks otherwise direction) := by
  unfold orderByCase
  split
  · exact editsTo_misuse s _
  · split
    · exact editsTo_misuse s _
    · exact .of_conditions rfl rfl

theorem editsTo_withRelations (s : Statement) (names : List String) :
    EditsTo s (s.withRelations names) := by
  unfold withRelations
  split
  · exact editsTo_misuse s _
  · exact .of_conditions rfl rfl

theorem editsTo_withConstraint (s : Statement) (name : String) (calls : List Call) :
    EditsTo s (s.withConstraint name calls) := by
  refine (editsTo_withRelations s [name]).trans ?_
  unfold withConstraint
  simp only
  split
  · exact .refl _
  · exact .of_conditions rfl rfl

/-- **What any call makes of the conditions is an edit**, unless it compares with NULL; whether the
call is accepted does not matter. -/
theorem editsTo_apply (s : Statement) (hc : c.comparesWithNull = false) :
    EditsTo s (s.apply c) := by
  cases c with
  | compare connector column operator value =>
      rw [Call.comparesWithNull, Bool.or_eq_false_iff, beq_eq_false_iff_ne,
        beq_eq_false_iff_ne] at hc
      rw [apply]
      exact editsTo_compare s connector column operator value hc.1 hc.2
  | group connector calls =>
      rw [apply]
      exact editsTo_addGroup s connector _
  | compareSub connector column operator sub =>
      rw [apply]
      exact editsTo_compareSub s connector column operator _
  | inList connector negated column values =>
      rw [apply]
      exact editsTo_inList s connector negated column values
  | nullCheck connector notNull column =>
      rw [apply]
      exact editsTo_nullCheck s connector notNull column
  | withTrashed =>
      rw [apply]
      exact editsTo_withTrashed s
  | onlyTrashed =>
      rw [apply]
      exact editsTo_onlyTrashed s
  | withoutTrashed =>
      rw [apply]
      exact editsTo_withoutTrashed s
  | restore =>
      rw [apply, restore, update]
      exact (editsTo_withTrashed s).trans (editsTo_setMutation _ _ _)
  | softDelete =>
      rw [apply, softDelete, update]
      exact editsTo_setMutation s _ _
  | insert data =>
      rw [apply]
      exact editsTo_setMutation s .insert data
  | insertOrIgnore data =>
      rw [apply]
      exact editsTo_setMutation s .insertIgnore data
  | update data =>
      rw [apply]
      exact editsTo_setMutation s .update data
  | upsert data unique =>
      rw [apply]
      exact editsTo_upsert s data unique
  | delete =>
      rw [apply]
      exact editsTo_setKind s .delete
  | joinSub kind sub =>
      rw [apply, joinSub]
      split
      · exact editsTo_fail s _
      · exact .of_conditions rfl rfl
  | union sub =>
      rw [apply, union]
      split
      · exact editsTo_fail s _
      · exact .of_conditions rfl rfl
  | window =>
      rw [apply, window]
      split
      · exact editsTo_fail s _
      · exact .of_conditions rfl rfl
  | jsonCompare =>
      rw [apply, jsonCompare]
      split
      · exact editsTo_fail s _
      · exact .of_conditions rfl rfl
  | orderBy =>
      rw [apply, orderBy]
      split
      · exact editsTo_misuse s _
      · exact .of_conditions rfl rfl
  | having =>
      rw [apply]
      exact editsTo_having s _ _ _
  | orderByCase =>
      rw [apply]
      exact editsTo_orderByCase s _ _ _ _
  | withRelations =>
      rw [apply]
      exact editsTo_withRelations s _
  | withConstraint =>
      rw [apply]
      exact editsTo_withConstraint s _ _
  | _ =>
      rw [apply]
      exact .of_conditions rfl rfl

/-! ### Whole constructions -/

/-- What a construction makes of the conditions is an edit. -/
theorem editsTo_applyAll (s : Statement) (hcalls : ∀ c ∈ calls, c.comparesWithNull = false) :
    EditsTo s (s.applyAll calls) := by
  induction calls generalizing s with
  | nil => exact .refl s
  | cons c rest ih =>
      rw [applyAll]
      exact (editsTo_apply s (hcalls c List.mem_cons_self)).trans
        (ih (s.apply c) fun d hd => hcalls d (List.mem_cons_of_mem _ hd))

/-- No construction without such comparisons tests a column twice. -/
theorem testsOnce_build {context : Context}
    (hcalls : ∀ c ∈ calls, c.comparesWithNull = false) :
    TestsOnce context.config.quoting (build context calls).conditions := by
  have hedits : EditsTo (new context) (build context calls) := editsTo_applyAll _ hcalls
  exact hedits.conditions.testsOnce fun _ _ => Nat.zero_le 1

theorem quoting_build {context : Context}
    (hcalls : ∀ c ∈ calls, c.comparesWithNull = false) :
    (build context calls).quoting = context.config.quoting := by
  have hedits : EditsTo (new context) (build context calls) := editsTo_applyAll _ hcalls
  rw [quoting, hedits.context]
  rfl

/-- A test that is asked for and not left to the SELECT is there afterwards. -/
theorem exists_nullTest (s : Statement) (connector : Connector) {notNull : Bool} {column : String}
    (hcolumn : Text.trim column ≠ "")
    (hleft : s.leavesNullCheck notNull (Text.trim column) = false) :
    ∃ d ∈ (s.nullCheck connector notNull column).conditions,
      d.isNullCheck s.quoting (Text.trim column) notNull connector = true := by
  rw [leavesNullCheck] at hleft
  unfold nullCheck
  simp only [hleft, Bool.false_eq_true, if_false, String.isEmpty_iff, hcolumn]
  split
  · rename_i hthere
    exact List.any_eq_true.1 hthere
  · exact ⟨_, List.mem_append_right _ List.mem_cons_self, Condition.isNullCheck_self ..⟩

/-- **No column is tested for null twice.**  A statement is built by any calls, none of which
compares with NULL by the operator IS or IS NOT.  With each connector a column, quotes aside, has at
most one test among the conditions at the top level, be it for null or for not null; and after a
call that asks for a test and does not leave it to the SELECT, that test is the only one. -/
theorem null_tests_unique {context : Context} {calls : List Call}
    (hcalls : ∀ c ∈ calls, c.comparesWithNull = false) (connector : Connector) :
    let q := context.config.quoting
    let s := build context calls
    (∀ name, (nullTests q name connector s.conditions).length ≤ 1) ∧
    ∀ notNull column, Text.trim column ≠ "" →
      s.leavesNullCheck notNull (Text.trim column) = false →
      ∃ d, d.isNullCheck q (Text.trim column) notNull connector = true ∧
        nullTests q (Text.trim column) connector
          (build context (calls ++ [.nullCheck connector notNull column])).conditions = [d] := by
  intro q s
  refine ⟨fun name => testsOnce_build hcalls name connector, ?_⟩
  intro notNull column hcolumn hleft
  have hall : ∀ c ∈ calls ++ [Call.nullCheck connector notNull column],
      c.comparesWithNull = false := by
    intro c hc
    rcases List.mem_append.1 hc with hc | hc
    · exact hcalls c hc
    · rw [List.mem_singleton.1 hc]
      rfl
  have hone : (nullTests q (Text.trim column) connector
      (build context (calls ++ [.nullCheck connector notNull column])).conditions).length ≤ 1 :=
    testsOnce_build hall (Text.trim column) connector
  have hlast : build context (calls ++ [.nullCheck connector notNull column]) =
      s.nullCheck connector notNull column := build_append ..
  obtain ⟨d, hd, hcheck⟩ := s.exists_nullTest connector hcolumn hleft
  rw [quoting_build hcalls] at hcheck
  rw [hlast] at hone ⊢
  refine ⟨d, hcheck, ?_⟩
  have hmem : d ∈ nullTests q (Text.trim column) connector
      (s.nullCheck connector notNull column).conditions :=
    List.mem_filter.2 ⟨hd, isNullTest_iff.2 ⟨notNull, hcheck⟩⟩
  -- One of at most one is all of them.
  obtain ⟨d', hd'⟩ := List.length_eq_one_iff.1 (Nat.le_antisymm hone (List.length_pos_of_mem hmem))
  rw [hd'] at hmem ⊢
  rw [List.mem_singleton.1 hmem]

/-- Calls that ask for tests of two columns again and again, in different spellings. -/
def repeatedTests : List Call :=
  [.model ⟨"app::models::User", "users", "id", true, []⟩, .nullCheck .and false " team ",
    .nullCheck .or true "\x60team\x60", .onlyTrashed, .nullCheck .and true "team",
    .withoutTrashed, .nullCheck .and true "\x60deleted_at\x60", .withoutTrashed, .insert []]

theorem null_tests_unique_spelled :
    (∀ c ∈ repeatedTests, c.comparesWithNull = false) ∧
      (nullTests {} "deleted_at" .and (build {} repeatedTests).conditions).length ≤ 1 ∧
      ∃ d, d.isNullCheck {} "team" false .and = true ∧
        nullTests {} "team" .and
          (build {} (repeatedTests ++ [.nullCheck .and false "\x60team\x60"])).conditions =
            [d] := by
  have hcalls : ∀ c ∈ repeatedTests, c.comparesWithNull = false := by decide
  obtain ⟨hone, htest⟩ := @null_tests_unique {} repeatedTests hcalls .and
  obtain ⟨d, hd, hlast⟩ := htest false "\x60team\x60" (by decide) (by decide)
  have hname : Quoting.unwrap {} (Text.trim "\x60team\x60") = Quoting.unwrap {} "team" := by decide
  refine ⟨hcalls, hone "deleted_at", d, ?_, ?_⟩
  · obtain ⟨column, heq, hcolumn⟩ := isNullCheck_iff.1 hd
    exact isNullCheck_iff.2 ⟨column, heq, hcolumn.trans hname⟩
  · rw [← nullTests_congr hname]
    exact hlast

end Statement
end EntityQuery

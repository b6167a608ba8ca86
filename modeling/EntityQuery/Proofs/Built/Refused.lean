/-
# Refused calls

The first call that is refused decides what becomes of a statement.  Its error
stays through every call that follows (`keepsError_apply`,
`buildError_applyAll`), and compiling the statement gives that error and nothing
else (`compile_of_refused`, `compileCount_of_refused`).

A call that carries other calls hands on what these run into: the error of a
group is the error of the statement it was to be added to, and so is the error of
a sub-statement that does not compile (`Call.RaisesWithin`,
`buildError_of_raisesWithin`).
-/

import EntityQuery.Proofs.Built.Accepted

namespace EntityQuery
namespace Statement

/-- The error of the first statement, if it has one, is the error of the second. -/
def KeepsError (s t : Statement) : Prop :=
  ∀ e, s.buildError = some e → t.buildError = some e

variable {s t u : Statement}

theorem KeepsError.trans (h : KeepsError s t) (h' : KeepsError t u) : KeepsError s u :=
  fun e he => h' e (h e he)

theorem keepsError_of_eq (h : t.buildError = s.buildError) : KeepsError s t :=
  fun _ he => h.trans he

theorem keepsError_fail (s : Statement) (e : Error) : KeepsError s (s.fail e) := by
  intro e' he
  rw [buildError_fail, he, Option.getD_some]

theorem keepsError_misuse (s : Statement) (m : Misuse) : KeepsError s (s.misuse m) :=
  keepsError_fail s (.argument m)

/-! ### One call -/

theorem keepsError_setKind (s : Statement) (kind : Kind) : KeepsError s (s.setKind kind) := by
  unfold setKind
  split
  · exact keepsError_fail s _
  · exact keepsError_of_eq rfl

theorem keepsError_setMutation (s : Statement) (kind : Kind) (data : List (String × Value)) :
    KeepsError s (s.setMutation kind data) := by
  refine (keepsError_setKind s kind).trans ?_
  unfold setMutation
  simp only
  split
  · exact keepsError_misuse _ _
  · split
    · exact keepsError_misuse _ _
    · exact keepsError_of_eq rfl

theorem keepsError_upsert (s : Statement) (data : List (String × Value)) (unique : List String) :
    KeepsError s (s.upsert data unique) := by
  refine (keepsError_setMutation s .upsert data).trans ?_
  unfold upsert
  simp only
  split
  · exact keepsError_fail { s.setMutation .upsert data with
      upsertUnique := (unique.map Text.trim).filter fun c => !c.isEmpty } _
  · exact keepsError_of_eq rfl

theorem keepsError_compare (s : Statement) (connector : Connector) (column operator : String)
    (value : Value) : KeepsError s (s.compare connector column operator value) := by
  unfold compare
  simp only
  split
  · exact keepsError_misuse s _
  · split
    · exact keepsError_misuse s _
    · split
      · exact keepsError_misuse s _
      · exact keepsError_of_eq rfl

theorem keepsError_addGroup (s : Statement) (connector : Connector) (group : Statement) :
    KeepsError s (s.addGroup connector group) := by
  unfold addGroup
  split
  · exact keepsError_fail s _
  · split
    · exact keepsError_misuse s _
    · split
      · exact keepsError_of_eq rfl
      · exact keepsError_of_eq rfl

theorem keepsError_compareSub (s : Statement) (connector : Connector) (column operator : String)
    (sub : Statement) : KeepsError s (s.compareSub connector column operator sub) := by
  unfold compareSub
  simp only
  split
  · exact keepsError_misuse s _
  · split
    · exact keepsError_misuse s _
    · split
      · exact keepsError_misuse s _
      · split
        · exact keepsError_misuse s _
        · split
          · exact keepsError_fail s _
          · exact keepsError_of_eq rfl

theorem keepsError_inList (s : Statement) (connector : Connector) (negated : Bool)
    (column : String) (values : List Value) :
    KeepsError s (s.inList connector negated column values) := by
  unfold inList
  simp only
  split
  · exact keepsError_misuse s _
  · split
    · exact keepsError_misuse s _
    · exact keepsError_of_eq rfl

theorem keepsError_nullCheck (s : Statement) (connector : Connector) (notNull : Bool)
    (column : String) : KeepsError s (s.nullCheck connector notNull column) := by
  unfold nullCheck
  simp only
  split
  · exact keepsError_misuse s _
  · split
    · exact keepsError_of_eq rfl
    · split
      · exact keepsError_of_eq rfl
      · exact keepsError_of_eq rfl

theorem keepsError_onlyTrashed (s : Statement) : KeepsError s s.onlyTrashed :=
  keepsError_nullCheck { s.dropMarkChecks false with softDeleteMode := .only } .and true
    s.softDeleteColumn

theorem keepsError_withoutTrashed (s : Statement) : KeepsError s s.withoutTrashed := by
  rw [withoutTrashed_eq]
  exact keepsError_of_eq rfl

theorem keepsError_joinSub (s : Statement) (kind : JoinKind) (sub : Statement)
    (label left operator right : String) :
    KeepsError s (s.joinSub kind sub label left operator right) := by
  unfold joinSub
  split
  · exact keepsError_fail s _
  · exact keepsError_of_eq rfl

theorem keepsError_union (s : Statement) (sub : Statement) (all : Bool) :
    KeepsError s (s.union sub all) := by
  unfold union
  split
  · exact keepsError_fail s _
  · exact keepsError_of_eq rfl

theorem keepsError_having (s : Statement) (column operator : String) (value : Value) :
    KeepsError s (s.having column operator value) := by
  unfold having
  split
  · exact keepsError_misuse s _
  · split
    · exact keepsError_misuse s _
    · exact keepsError_of_eq rfl

theorem keepsError_orderBy (s : Statement) (column direction : String) :
    KeepsError s (s.orderBy column direction) := by
  unfold orderBy
  split
  · exact keepsError_misuse s _
  · exact keepsError_of_eq rfl

theorem keepsError_orderByCase (s : Statement) (column : String) (ranks : List (Value × Int))
    (otherwise direction : String) :
    KeepsError s (s.orderByCase column ranks otherwise direction) := by
  unfold orderByCase
  split
  · exact keepsError_misuse s _
  · split
    · exact keepsError_misuse s _
    · exact keepsError_of_eq rfl

theorem keepsError_window (s : Statement) (function : WindowFunction) (w : Window)
    (label : String) : KeepsError s (s.window function w label) := by
  unfold window
  split
  · exact keepsError_fail s _
  · exact keepsError_of_eq rfl

theorem keepsError_jsonCompare (s : Statement) (column path operator : String) (value : Value) :
    KeepsError s (s.jsonCompare column path operator value) := by
  unfold jsonCompare
  split
  · exact keepsError_fail s _
  · exact keepsError_of_eq rfl

theorem keepsError_withRelations (s : Statement) (names : List String) :
    KeepsError s (s.withRelations names) := by
  unfold withRelations
  split
  · exact keepsError_misuse s _
  · exact keepsError_of_eq rfl

theorem keepsError_withConstraint (s : Statement) (name : String) (calls : List Call) :
    KeepsError s (s.withConstraint name calls) := by
  refine (keepsError_withRelations s [name]).trans ?_
  unfold withConstraint
  simp only
  split
  · exact keepsError_of_eq rfl
  · exact keepsError_of_eq rfl

/-- **No call takes an error away or replaces it.** -/
theorem keepsError_apply (s : Statement) (c : Call) : KeepsError s (s.apply c) := by
  cases c with
  | compare connector column operator value =>
      rw [apply]
      exact keepsError_compare s connector column operator value
  | group connector calls =>
      rw [apply]
      exact keepsError_addGroup s connector _
  | compareSub connector column operator sub =>
      rw [apply]
      exact keepsError_compareSub s connector column operator _
  | inList connector negated column values =>
      rw [apply]
      exact keepsError_inList s connector negated column values
  | nullCheck connector notNull column =>
      rw [apply]
      exact keepsError_nullCheck s connector notNull column
  | onlyTrashed =>
      rw [apply]
      exact keepsError_onlyTrashed s
  | withoutTrashed =>
      rw [apply]
      exact keepsError_withoutTrashed s
  | softDelete now =>
      rw [apply, softDelete, update]
      exact keepsError_setMutation s .update _
  | restore =>
      rw [apply, restore, update]
      exact keepsError_setMutation s.withTrashed .update _
  | joinSub kind sub label left operator right =>
      rw [apply]
      exact keepsError_joinSub s kind _ label left operator right
  | having column operator value =>
      rw [apply]
      exact keepsError_having s column operator value
  | orderBy column direction =>
      rw [apply]
      exact keepsError_orderBy s column direction
  | orderByCase column ranks otherwise direction =>
      rw [apply]
      exact keepsError_orderByCase s column ranks otherwise direction
  | union sub all =>
      rw [apply]
      exact keepsError_union s _ all
  | window function w label =>
      rw [apply]
      exact keepsError_window s function w label
  | jsonCompare column path operator value =>
      rw [apply]
      exact keepsError_jsonCompare s column path operator value
  | insert data =>
      rw [apply, insert]
      exact keepsError_setMutation s .insert data
  | insertOrIgnore data =>
      rw [apply, insertOrIgnore]
      exact keepsError_setMutation s .insertIgnore data
  | update data =>
      rw [apply, update]
      exact keepsError_setMutation s .update data
  | delete =>
      rw [apply, delete]
      exact keepsError_setKind s .delete
  | upsert data unique =>
      rw [apply]
      exact keepsError_upsert s data unique
  | withRelations names =>
      rw [apply]
      exact keepsError_withRelations s names
  | withConstraint name calls =>
      rw [apply]
      exact keepsError_withConstraint s name calls
  | _ =>
      rw [apply]
      exact keepsError_of_eq rfl

/-! ### Many calls -/

/-- **The first error stays.** -/
theorem buildError_applyAll {e : Error} (calls : List Call) (h : s.buildError = some e) :
    (s.applyAll calls).buildError = some e := by
  induction calls generalizing s with
  | nil => exact h
  | cons c calls ih => exact ih (keepsError_apply s c e h)

/-! ### Compiling -/

/-- A refused statement compiles to its error. -/
theorem compile_of_refused {e : Error} (h : s.buildError = some e) : s.compile = .error e := by
  unfold compile
  rw [h]

/-- The query that counts the rows of a refused SELECT compiles to its error. -/
theorem compileCount_of_refused {e : Error} (h : s.buildError = some e) (hkind : s.kind = .select) :
    s.compileCount = .error e := by
  have hbase : s.unordered.buildError = some e := h
  unfold compileCount
  rw [if_neg (not_not.2 hkind)]
  simp only
  split
  · rw [compile_of_refused hbase]
  · exact compile_of_refused hbase

/-- Counting the rows of a refused statement of any kind is an error. -/
theorem exists_compileCount_of_refused {e : Error} (h : s.buildError = some e) :
    ∃ f, s.compileCount = .error f := by
  by_cases hkind : s.kind = .select
  · exact ⟨e, compileCount_of_refused h hkind⟩
  · unfold compileCount
    exact ⟨_, if_pos hkind⟩

end Statement

/-! ### Errors from within -/

/-- Whether the calls that a call carries run into an error: those of its group do, or those of its
sub-statement build one that does not compile. -/
def Call.RaisesWithin (s : Statement) (e : Error) : Call → Prop
  | .group _ calls => (s.scope.applyAll calls).buildError = some e
  | .compareSub _ column operator sub =>
    Text.trim column ≠ "" ∧
      (∃ op, Operator.parse? operator = some op ∧ op ≠ .between ∧ op ≠ .is ∧ op ≠ .isNot) ∧
      (Statement.build s.context sub).kind = .select ∧
      (Statement.build s.context sub).compile = .error e
  | .joinSub _ sub _ _ _ _ => (Statement.build s.context sub).compile = .error e
  | .union sub _ => (Statement.build s.context sub).compile = .error e
  | _ => False

namespace Statement

variable {s : Statement} {e : Error}

theorem buildError_fail_of_accepted (h : s.buildError = none) (e : Error) :
    (s.fail e).buildError = some e := by
  rw [buildError_fail, h, Option.getD_none]

/-- **An error from within is handed on.**  The first error of a group, or of a sub-statement, is
the first error of the statement it was meant for. -/
theorem buildError_of_raisesWithin {c : Call} (h : s.buildError = none)
    (hc : c.RaisesWithin s e) : (s.apply c).buildError = some e := by
  cases c with
  | group connector calls =>
      have hgroup : (s.scope.applyAll calls).buildError = some e := hc
      rw [apply, addGroup, hgroup]
      exact buildError_fail_of_accepted h e
  | compareSub connector column operator sub =>
      obtain ⟨hcolumn, ⟨op, hop, hbetween, his, hisNot⟩, hkind, hcompile⟩ := hc
      have hempty : ¬(Text.trim column).isEmpty = true :=
        fun hblank => hcolumn (String.isEmpty_iff.1 hblank)
      rw [build] at hkind hcompile
      rw [apply, compareSub]
      simp only [if_neg hempty, hop]
      rw [if_neg (by simp [hbetween, his, hisNot]), if_neg (not_not.2 hkind), hcompile]
      exact buildError_fail_of_accepted h e
  | joinSub kind sub label left operator right =>
      have hcompile : (build s.context sub).compile = .error e := hc
      rw [build] at hcompile
      rw [apply, joinSub, hcompile]
      exact buildError_fail_of_accepted h e
  | union sub all =>
      have hcompile : (build s.context sub).compile = .error e := hc
      rw [build] at hcompile
      rw [apply, union, hcompile]
      exact buildError_fail_of_accepted h e
  | _ => exact hc.elim

end Statement
end EntityQuery

/-
# Statements under another log limit

The limit of the log is a setting of the context, and a context goes into statements,
their groups and sub-statements, and the queries of relations.  Nothing in building or
compiling reads it: the same calls under another limit build the same statement
(`applyAll_logging`), which compiles to the same text (`compile_logging`).
-/

import EntityQuery.Proofs.Built.Accepted
import EntityQuery.Proofs.Run.Action
import EntityQuery.Relation.Lazy

namespace EntityQuery

/-- A context that logs texts up to another length, or whole. -/
def Context.logging (limit : Option Nat) (context : Context) : Context :=
  { context with config := { context.config with maxSqlLogLength := limit } }

namespace Statement

/-- A statement on the context that logs texts up to another length. -/
def logging (limit : Option Nat) (s : Statement) : Statement :=
  { s with context := s.context.logging limit }

variable {limit : Option Nat}

/-! ### What does not depend on the limit -/

@[simp] theorem kind_logging (s : Statement) : (s.logging limit).kind = s.kind :=
  rfl

@[simp] theorem kindLocked_logging (s : Statement) :
    (s.logging limit).kindLocked = s.kindLocked :=
  rfl

@[simp] theorem modelClass_logging (s : Statement) :
    (s.logging limit).modelClass = s.modelClass :=
  rfl

@[simp] theorem conditions_logging (s : Statement) :
    (s.logging limit).conditions = s.conditions :=
  rfl

@[simp] theorem jsonConditions_logging (s : Statement) :
    (s.logging limit).jsonConditions = s.jsonConditions :=
  rfl

@[simp] theorem buildError_logging (s : Statement) :
    (s.logging limit).buildError = s.buildError :=
  rfl

@[simp] theorem quoting_logging (s : Statement) : (s.logging limit).quoting = s.quoting :=
  rfl

@[simp] theorem softDeleteColumn_logging (s : Statement) :
    (s.logging limit).softDeleteColumn = s.softDeleteColumn :=
  rfl

@[simp] theorem filtersDeleted_logging (s : Statement) :
    (s.logging limit).filtersDeleted = s.filtersDeleted :=
  rfl

@[simp] theorem jsonDialect_logging (s : Statement) :
    (s.logging limit).jsonDialect = s.jsonDialect :=
  rfl

/-- **The text that is sent does not depend on the limit.** -/
@[simp] theorem compile_logging (s : Statement) : (s.logging limit).compile = s.compile :=
  rfl

/-! ### One call -/

theorem fail_logging (s : Statement) (e : Error) :
    (s.logging limit).fail e = (s.fail e).logging limit := by
  unfold fail
  rw [buildError_logging]
  split
  · rfl
  · rfl

theorem misuse_logging (s : Statement) (m : Misuse) :
    (s.logging limit).misuse m = (s.misuse m).logging limit :=
  fail_logging s _

theorem setKind_logging (s : Statement) (kind : Kind) :
    (s.logging limit).setKind kind = (s.setKind kind).logging limit := by
  unfold setKind
  rw [kind_logging, kindLocked_logging]
  split
  · exact fail_logging s _
  · rfl

theorem setMutation_logging (s : Statement) (kind : Kind) (data : List (String × Value)) :
    (s.logging limit).setMutation kind data = (s.setMutation kind data).logging limit := by
  unfold setMutation
  rw [setKind_logging]
  dsimp only
  split
  · exact misuse_logging _ _
  · split
    · exact misuse_logging _ _
    · rfl

theorem upsert_logging (s : Statement) (data : List (String × Value)) (unique : List String) :
    (s.logging limit).upsert data unique = (s.upsert data unique).logging limit := by
  unfold upsert
  rw [setMutation_logging]
  dsimp only
  split
  · exact misuse_logging { s.setMutation .upsert data with
      upsertUnique := (unique.map Text.trim).filter fun c => !c.isEmpty } _
  · rfl

theorem compare_logging (s : Statement) (connector : Connector) (column operator : String)
    (value : Value) : (s.logging limit).compare connector column operator value =
      (s.compare connector column operator value).logging limit := by
  unfold compare
  dsimp only
  split
  · exact misuse_logging s _
  · split
    · exact misuse_logging s _
    · split
      · exact misuse_logging s _
      · rfl

theorem addGroup_logging (s : Statement) (connector : Connector) (group : Statement) :
    (s.logging limit).addGroup connector (group.logging limit) =
      (s.addGroup connector group).logging limit := by
  unfold addGroup
  rw [buildError_logging, jsonConditions_logging, conditions_logging]
  split
  · exact fail_logging s _
  · split
    · exact misuse_logging s _
    · split
      · rfl
      · rfl

theorem compareSub_logging (s : Statement) (connector : Connector) (column operator : String)
    (sub : Statement) : (s.logging limit).compareSub connector column operator (sub.logging limit) =
      (s.compareSub connector column operator sub).logging limit := by
  unfold compareSub
  rw [compile_logging, kind_logging]
  dsimp only
  split
  · exact misuse_logging s _
  · split
    · exact misuse_logging s _
    · split
      · exact misuse_logging s _
      · split
        · exact misuse_logging s _
        · split
          · exact fail_logging s _
          · rfl

theorem inList_logging (s : Statement) (connector : Connector) (negated : Bool) (column : String)
    (values : List Value) : (s.logging limit).inList connector negated column values =
      (s.inList connector negated column values).logging limit := by
  unfold inList
  dsimp only
  split
  · exact misuse_logging s _
  · split
    · exact misuse_logging s _
    · rfl

theorem nullCheck_logging (s : Statement) (connector : Connector) (notNull : Bool)
    (column : String) : (s.logging limit).nullCheck connector notNull column =
      (s.nullCheck connector notNull column).logging limit := by
  unfold nullCheck
  rw [quoting_logging, softDeleteColumn_logging, filtersDeleted_logging, conditions_logging]
  dsimp only
  split
  · exact misuse_logging s _
  · split
    · rfl
    · split
      · rfl
      · rfl

theorem withTrashed_logging (s : Statement) :
    (s.logging limit).withTrashed = s.withTrashed.logging limit :=
  rfl

theorem onlyTrashed_logging (s : Statement) :
    (s.logging limit).onlyTrashed = s.onlyTrashed.logging limit :=
  nullCheck_logging { s.dropMarkChecks false with softDeleteMode := .only } .and true
    s.softDeleteColumn

theorem withoutTrashed_logging (s : Statement) :
    (s.logging limit).withoutTrashed = s.withoutTrashed.logging limit := by
  rw [withoutTrashed_eq, withoutTrashed_eq]
  rfl

theorem joinSub_logging (s : Statement) (kind : JoinKind) (sub : Statement)
    (label left operator right : String) :
    (s.logging limit).joinSub kind (sub.logging limit) label left operator right =
      (s.joinSub kind sub label left operator right).logging limit := by
  unfold joinSub
  rw [compile_logging]
  split
  · exact fail_logging s _
  · rfl

theorem union_logging (s : Statement) (sub : Statement) (all : Bool) :
    (s.logging limit).union (sub.logging limit) all = (s.union sub all).logging limit := by
  unfold union
  rw [compile_logging]
  split
  · exact fail_logging s _
  · rfl

theorem having_logging (s : Statement) (column operator : String) (value : Value) :
    (s.logging limit).having column operator value =
      (s.having column operator value).logging limit := by
  unfold having
  split
  · exact misuse_logging s _
  · split
    · exact misuse_logging s _
    · rfl

theorem orderBy_logging (s : Statement) (column direction : String) :
    (s.logging limit).orderBy column direction = (s.orderBy column direction).logging limit := by
  unfold orderBy
  split
  · exact misuse_logging s _
  · rfl

theorem orderByCase_logging (s : Statement) (column : String) (ranks : List (Value × Int))
    (otherwise direction : String) :
    (s.logging limit).orderByCase column ranks otherwise direction =
      (s.orderByCase column ranks otherwise direction).logging limit := by
  unfold orderByCase
  split
  · exact misuse_logging s _
  · split
    · exact misuse_logging s _
    · rfl

theorem window_logging (s : Statement) (function : WindowFunction) (w : Window) (label : String) :
    (s.logging limit).window function w label = (s.window function w label).logging limit := by
  unfold window
  rw [quoting_logging]
  split
  · exact fail_logging s _
  · rfl

theorem jsonCompare_logging (s : Statement) (column path operator : String) (value : Value) :
    (s.logging limit).jsonCompare column path operator value =
      (s.jsonCompare column path operator value).logging limit := by
  unfold jsonCompare
  rw [quoting_logging, jsonDialect_logging]
  split
  · exact fail_logging s _
  · rfl

theorem withRelations_logging (s : Statement) (names : List String) :
    (s.logging limit).withRelations names = (s.withRelations names).logging limit := by
  unfold withRelations
  rw [modelClass_logging]
  split
  · exact misuse_logging s _
  · rfl

theorem withConstraint_logging (s : Statement) (name : String) (calls : List Call) :
    (s.logging limit).withConstraint name calls =
      (s.withConstraint name calls).logging limit := by
  unfold withConstraint
  rw [withRelations_logging]
  dsimp only
  rw [buildError_logging]
  split
  · rfl
  · rfl

mutual

theorem apply_logging (s : Statement) (c : Call) :
    (s.logging limit).apply c = (s.apply c).logging limit := by
  cases c with
  | compare connector column operator value =>
      rw [apply, apply]
      exact compare_logging s connector column operator value
  | group connector calls =>
      have hgroup := applyAll_logging s.scope calls
      rw [apply, apply, ← addGroup_logging, ← hgroup]
      rfl
  | compareSub connector column operator sub =>
      have hsub := applyAll_logging (new s.context) sub
      rw [apply, apply, ← compareSub_logging, ← hsub]
      rfl
  | inList connector negated column values =>
      rw [apply, apply]
      exact inList_logging s connector negated column values
  | nullCheck connector notNull column =>
      rw [apply, apply]
      exact nullCheck_logging s connector notNull column
  | onlyTrashed =>
      rw [apply, apply]
      exact onlyTrashed_logging s
  | withoutTrashed =>
      rw [apply, apply]
      exact withoutTrashed_logging s
  | softDelete now =>
      rw [apply, apply, softDelete, softDelete, update, update, softDeleteColumn_logging]
      exact setMutation_logging s .update _
  | restore =>
      rw [apply, apply, restore, restore, update, update, softDeleteColumn_logging,
        withTrashed_logging]
      exact setMutation_logging s.withTrashed .update _
  | joinSub kind sub label left operator right =>
      have hsub := applyAll_logging (new s.context) sub
      rw [apply, apply, ← joinSub_logging, ← hsub]
      rfl
  | having column operator value =>
      rw [apply, apply]
      exact having_logging s column operator value
  | orderBy column direction =>
      rw [apply, apply]
      exact orderBy_logging s column direction
  | orderByCase column ranks otherwise direction =>
      rw [apply, apply]
      exact orderByCase_logging s column ranks otherwise direction
  | union sub all =>
      have hsub := applyAll_logging (new s.context) sub
      rw [apply, apply, ← union_logging, ← hsub]
      rfl
  | window function w label =>
      rw [apply, apply]
      exact window_logging s function w label
  | jsonCompare column path operator value =>
      rw [apply, apply]
      exact jsonCompare_logging s column path operator value
  | insert data =>
      rw [apply, apply, insert, insert]
      exact setMutation_logging s .insert data
  | insertOrIgnore data =>
      rw [apply, apply, insertOrIgnore, insertOrIgnore]
      exact setMutation_logging s .insertIgnore data
  | update data =>
      rw [apply, apply, update, update]
      exact setMutation_logging s .update data
  | delete =>
      rw [apply, apply, delete, delete]
      exact setKind_logging s .delete
  | upsert data unique =>
      rw [apply, apply]
      exact upsert_logging s data unique
  | withRelations names =>
      rw [apply, apply]
      exact withRelations_logging s names
  | withConstraint name calls =>
      rw [apply, apply]
      exact withConstraint_logging s name calls
  | _ =>
      rw [apply, apply]
      rfl

/-- **The same calls build the same statement.** -/
theorem applyAll_logging (s : Statement) (calls : List Call) :
    (s.logging limit).applyAll calls = (s.applyAll calls).logging limit := by
  cases calls with
  | nil => rfl
  | cons c rest => rw [applyAll, applyAll, apply_logging s c, applyAll_logging (s.apply c) rest]

end

theorem searchFilter_logging (s : Statement) (columns : List String) (term : String) :
    (s.logging limit).searchFilter columns term =
      (s.searchFilter columns term).map (logging limit) := by
  have hcompares : ∀ (q : Statement) (value : Value),
      columns.foldl (fun q column => q.compare .or column "LIKE" value) (q.logging limit) =
        (columns.foldl (fun q column => q.compare .or column "LIKE" value) q).logging limit := by
    intro q value
    induction columns generalizing q with
    | nil => rfl
    | cons column rest ih => rw [List.foldl_cons, List.foldl_cons, compare_logging, ih]
  unfold searchFilter
  dsimp only
  split
  · rfl
  · rw [Except.map, group, group, ← addGroup_logging, ← hcompares]
    rfl

end Statement
end EntityQuery

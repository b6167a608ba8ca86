/-
# Accepted calls

A call that is refused leaves an error behind, and no call takes an error away.
So a statement without an error was built by accepted calls only, and an
accepted call did one definite thing.  For every call that can be refused the
lemma `..._of_accepted` says which: the guards that let the call pass, and the
statement it left.

`frame_apply` sums up what an accepted call leaves as it was, the absence of an
error included.  `accepted_of_applyAll` takes that absence back from the end of a
construction to its beginning.
-/

import EntityQuery.Statement.Apply
import Mathlib.Logic.Basic

namespace EntityQuery

/-- Whether a call sets the kind of the statement. -/
def Call.setsKind : Call → Bool
  | .softDelete _ => true
  | .restore => true
  | .insert _ => true
  | .insertOrIgnore _ => true
  | .update _ => true
  | .delete => true
  | .upsert _ _ => true
  | _ => false

/-- Whether a call is on the conditions of the statement. -/
def Call.setsConditions : Call → Bool
  | .compare _ _ _ _ => true
  | .group _ _ => true
  | .compareSub _ _ _ _ => true
  | .inList _ _ _ _ => true
  | .nullCheck _ _ _ => true
  | .withTrashed => true
  | .onlyTrashed => true
  | .withoutTrashed => true
  | .restore => true
  | _ => false

/-- Whether a call says how rows that are marked as deleted are treated. -/
def Call.setsMode : Call → Bool
  | .withTrashed => true
  | .onlyTrashed => true
  | .withoutTrashed => true
  | .restore => true
  | _ => false

namespace Statement

variable {s : Statement}

@[simp] theorem buildError_fail (s : Statement) (e : Error) :
    (s.fail e).buildError = some (s.buildError.getD e) := by
  unfold fail
  split
  · rename_i e' h
    rw [h, Option.getD_some]
  · rename_i h
    rw [h, Option.getD_none]

theorem fail_ne_accepted {s : Statement} {e : Error} : ¬(s.fail e).buildError = none := by
  rw [buildError_fail]
  exact Option.some_ne_none _

theorem misuse_ne_accepted {s : Statement} {m : Misuse} : ¬(s.misuse m).buildError = none :=
  fail_ne_accepted

/-! ### Kinds and mutations -/

theorem setKind_of_accepted {kind : Kind} (h : (s.setKind kind).buildError = none) :
    s.buildError = none ∧ (s.kindLocked = true → s.kind = kind) ∧
      s.setKind kind = { s with kind := kind, kindLocked := true } := by
  unfold setKind at h ⊢
  split at h
  · exact absurd h fail_ne_accepted
  · rename_i hlock
    rw [Bool.and_eq_true, bne_iff_ne] at hlock
    exact ⟨h, fun hl => by_contra fun hk => hlock ⟨hl, hk⟩,
      if_neg (by rwa [Bool.and_eq_true, bne_iff_ne])⟩

theorem setMutation_of_accepted {kind : Kind} {data : List (String × Value)}
    (h : (s.setMutation kind data).buildError = none) :
    s.buildError = none ∧ (s.kindLocked = true → s.kind = kind) ∧ data ≠ [] ∧
      (∀ d ∈ data, Text.trim d.1 ≠ "") ∧
      s.setMutation kind data =
        { s with
          kind := kind
          kindLocked := true
          mutationColumns := data.map fun d => Text.trim d.1
          bindings := s.bindings.set .mutation (data.map Prod.snd) } := by
  unfold setMutation at h ⊢
  simp only at h ⊢
  split at h
  · exact absurd h misuse_ne_accepted
  · rename_i hcolumns
    split at h
    · exact absurd h misuse_ne_accepted
    · rename_i hblank
      obtain ⟨hs, hlock, hkind⟩ := setKind_of_accepted (s := s) h
      refine ⟨hs, hlock, ?_, ?_, ?_⟩
      · rintro rfl
        exact hcolumns rfl
      · intro d hd hempty
        refine hblank (List.any_eq_true.2 ⟨_, List.mem_map_of_mem hd, ?_⟩)
        rw [hempty]
        rfl
      · rw [if_neg hcolumns, if_neg hblank, hkind]

theorem upsert_of_accepted {data : List (String × Value)} {unique : List String}
    (h : (s.upsert data unique).buildError = none) :
    (s.setMutation .upsert data).buildError = none ∧
      ((unique.map Text.trim).filter fun c => !c.isEmpty) ≠ [] ∧
      s.upsert data unique =
        { s.setMutation .upsert data with
          upsertUnique := (unique.map Text.trim).filter fun c => !c.isEmpty } := by
  unfold upsert at h ⊢
  simp only at h ⊢
  split at h
  · exact absurd h misuse_ne_accepted
  · rename_i hunique
    exact ⟨h, fun hnil => hunique (List.isEmpty_iff.2 hnil), if_neg hunique⟩

/-! ### Conditions -/

theorem compare_of_accepted {connector : Connector} {column operator : String} {value : Value}
    (h : (s.compare connector column operator value).buildError = none) :
    s.buildError = none ∧ Text.trim column ≠ "" ∧
      ∃ op operand values, Operator.parse? operator = some op ∧
        operandOf op (Text.trim column) value = .ok (operand, values) ∧
        s.compare connector column operator value =
          s.addCondition (.compare connector ⟨Text.trim column, false⟩ op operand) values := by
  unfold compare at h ⊢
  simp only at h ⊢
  split at h
  · exact absurd h misuse_ne_accepted
  · rename_i hcolumn
    rw [if_neg hcolumn]
    split at h
    · exact absurd h misuse_ne_accepted
    · rename_i op hop
      split at h
      · exact absurd h misuse_ne_accepted
      · rename_i operand values hoperand
        exact ⟨h, fun hempty => hcolumn (by rw [hempty]; rfl), op, operand, values, hop, hoperand,
          rfl⟩

theorem addGroup_of_accepted {connector : Connector} {group : Statement}
    (h : (s.addGroup connector group).buildError = none) :
    s.buildError = none ∧ group.buildError = none ∧ group.jsonConditions = [] ∧
      s.addGroup connector group =
        if group.conditions.isEmpty then s
        else
          s.addCondition (.group connector group.conditions) (group.bindings.get .whereTree) := by
  unfold addGroup at h ⊢
  split at h
  · exact absurd h fail_ne_accepted
  · rename_i hgroup
    split at h
    · exact absurd h misuse_ne_accepted
    · rename_i hjson
      rw [Bool.not_eq_true, Bool.not_eq_false', List.isEmpty_iff] at hjson
      refine ⟨?_, hgroup, hjson, by rw [if_neg (by simp [hjson])]⟩
      split at h
      · exact h
      · exact h

theorem compareSub_of_accepted {connector : Connector} {column operator : String} {sub : Statement}
    (h : (s.compareSub connector column operator sub).buildError = none) :
    s.buildError = none ∧ Text.trim column ≠ "" ∧
      ∃ op query, Operator.parse? operator = some op ∧
        ¬(op = .between ∨ op = .is ∨ op = .isNot) ∧ sub.kind = .select ∧
        sub.compile = .ok query ∧
        s.compareSub connector column operator sub =
          s.addCondition (.subquery connector ⟨Text.trim column, false⟩ op query.sql)
            query.bindings := by
  unfold compareSub at h ⊢
  simp only at h ⊢
  split at h
  · exact absurd h misuse_ne_accepted
  · rename_i hcolumn
    rw [if_neg hcolumn]
    split at h
    · exact absurd h misuse_ne_accepted
    · rename_i op hop
      rw [hop]
      split at h
      · exact absurd h misuse_ne_accepted
      · rename_i hspecial
        simp only [if_neg hspecial]
        split at h
        · exact absurd h misuse_ne_accepted
        · rename_i hkind
          rw [if_neg hkind]
          split at h
          · exact absurd h fail_ne_accepted
          · rename_i query hquery
            exact ⟨h, fun hempty => hcolumn (by rw [hempty]; rfl), op, query, rfl,
              hspecial, not_not.1 hkind, hquery, rfl⟩

theorem inList_of_accepted {connector : Connector} {negated : Bool} {column : String}
    {values : List Value} (h : (s.inList connector negated column values).buildError = none) :
    s.buildError = none ∧ Text.trim column ≠ "" ∧ values ≠ [] ∧
      s.inList connector negated column values =
        s.addCondition (.list connector ⟨Text.trim column, false⟩ negated values.length)
          values := by
  unfold inList at h ⊢
  simp only at h ⊢
  split at h
  · exact absurd h misuse_ne_accepted
  · rename_i hcolumn
    split at h
    · exact absurd h misuse_ne_accepted
    · rename_i hvalues
      refine ⟨h, fun hempty => hcolumn (by rw [hempty]; rfl),
        fun hnil => hvalues (List.isEmpty_iff.2 hnil), ?_⟩
      rw [if_neg hcolumn, if_neg hvalues]

/-- The conditions that a test for null leaves: the opposite test with the same connector is
dropped, and the test follows unless it is there already. -/
def nullChecked (s : Statement) (connector : Connector) (notNull : Bool) (column : String) :
    List Condition :=
  let q := s.quoting
  let kept := s.conditions.filter fun c => !c.isNullCheck q column (!notNull) connector
  if kept.any (Condition.isNullCheck q column notNull connector) then kept
  else
    kept ++ [.compare connector ⟨column, q.unwrap column == q.unwrap s.softDeleteColumn⟩
      (Condition.nullOperator notNull) .null]

/-- Whether a test for null is left to the SELECT, which adds it by itself. -/
def leavesNullCheck (s : Statement) (notNull : Bool) (column : String) : Bool :=
  !notNull && s.quoting.unwrap column == s.quoting.unwrap s.softDeleteColumn && s.filtersDeleted

theorem nullCheck_of_accepted {connector : Connector} {notNull : Bool} {column : String}
    (h : (s.nullCheck connector notNull column).buildError = none) :
    s.buildError = none ∧ Text.trim column ≠ "" ∧
      s.nullCheck connector notNull column =
        if s.leavesNullCheck notNull (Text.trim column) then s
        else { s with conditions := s.nullChecked connector notNull (Text.trim column) } := by
  unfold nullCheck at h ⊢
  simp only at h ⊢
  split at h
  · exact absurd h misuse_ne_accepted
  · rename_i hcolumn
    rw [if_neg hcolumn]
    refine ⟨?_, fun hempty => hcolumn (by rw [hempty]; rfl), ?_⟩
    · split at h
      · exact h
      · split at h
        · exact h
        · exact h
    · unfold leavesNullCheck nullChecked
      split
      · rfl
      · simp only
        split
        · rfl
        · rfl

/-! ### Joins, orders, unions -/

theorem joinSub_of_accepted {kind : JoinKind} {sub : Statement}
    {label left operator right : String}
    (h : (s.joinSub kind sub label left operator right).buildError = none) :
    s.buildError = none ∧ ∃ query, sub.compile = .ok query ∧
      s.joinSub kind sub label left operator right =
        { s with
          joins := s.joins ++
            [kind.sql ++ " (" ++ query.sql ++ ") AS " ++ s.quoting.label (Text.trim label) ++
              joinCondition s.quoting left operator right]
          bindings := s.bindings.extend .join query.bindings } := by
  unfold joinSub at h ⊢
  split at h
  · exact absurd h fail_ne_accepted
  · rename_i query hquery
    exact ⟨h, query, hquery, rfl⟩

theorem union_of_accepted {sub : Statement} {all : Bool}
    (h : (s.union sub all).buildError = none) :
    s.buildError = none ∧ ∃ query, sub.compile = .ok query ∧
      s.union sub all =
        { s with
          unions := s.unions ++ [unionKeyword all ++ query.sql]
          bindings := s.bindings.extend .union query.bindings } := by
  unfold union at h ⊢
  split at h
  · exact absurd h fail_ne_accepted
  · rename_i query hquery
    exact ⟨h, query, hquery, rfl⟩

theorem having_of_accepted {column operator : String} {value : Value}
    (h : (s.having column operator value).buildError = none) :
    s.buildError = none ∧ ∃ op, Operator.parse? operator = some op ∧ op.isSpecial = false ∧
      s.having column operator value =
        { s with
          havingClause := some (s.quoting.label (Text.trim column) ++ " " ++ op.sql ++ " ?")
          bindings := s.bindings.set .having [value] } := by
  unfold having at h ⊢
  split at h
  · exact absurd h misuse_ne_accepted
  · rename_i op hop
    split at h
    · exact absurd h misuse_ne_accepted
    · rename_i hspecial
      rw [hop]
      exact ⟨h, op, rfl, Bool.eq_false_iff.2 hspecial, if_neg hspecial⟩

theorem orderBy_of_accepted {column direction : String}
    (h : (s.orderBy column direction).buildError = none) :
    s.buildError = none ∧ ∃ d, Direction.parse? direction = some d ∧
      s.orderBy column direction =
        { s with orders := s.orders ++ [s.quoting.column (Text.trim column) ++ " " ++ d.sql] } := by
  unfold orderBy at h ⊢
  split at h
  · exact absurd h misuse_ne_accepted
  · rename_i d hd
    exact ⟨h, d, hd, rfl⟩

theorem orderByCase_of_accepted {column : String} {ranks : List (Value × Int)}
    {otherwise direction : String}
    (h : (s.orderByCase column ranks otherwise direction).buildError = none) :
    s.buildError = none ∧ ∃ d, Direction.parse? direction = some d ∧ ranks ≠ [] ∧
      s.orderByCase column ranks otherwise direction =
        { s with
          orders := s.orders ++
            ["CASE " ++ s.quoting.column (Text.trim column) ++
              Text.eachAfter "" (ranks.map fun r => rankBranch r.2) ++
              " ELSE " ++ literal otherwise ++ " END " ++ d.sql]
          bindings := s.bindings.extend .order (ranks.map Prod.fst) } := by
  unfold orderByCase at h ⊢
  split at h
  · exact absurd h misuse_ne_accepted
  · rename_i d hd
    split at h
    · exact absurd h misuse_ne_accepted
    · rename_i hranks
      rw [hd]
      exact ⟨h, d, rfl, fun hnil => hranks (List.isEmpty_iff.2 hnil), if_neg hranks⟩

/-! ### Windows and JSON -/

theorem window_of_accepted {function : WindowFunction} {w : Window} {label : String}
    (h : (s.window function w label).buildError = none) :
    s.buildError = none ∧ ∃ sql,
      w.column s.quoting (function.sql s.quoting) (Text.trim label) = .ok sql ∧
      s.window function w label = { s with expressions := s.expressions ++ [sql] } := by
  unfold window at h ⊢
  split at h
  · exact absurd h fail_ne_accepted
  · rename_i sql hsql
    exact ⟨h, sql, hsql, rfl⟩

theorem jsonCompare_of_accepted {column path operator : String} {value : Value}
    (h : (s.jsonCompare column path operator value).buildError = none) :
    s.buildError = none ∧ ∃ sql values,
      s.jsonDialect.pathPredicate s.quoting (Text.trim column) path operator value =
        .ok (sql, values) ∧
      s.jsonCompare column path operator value =
        { s with
          jsonConditions := s.jsonConditions ++ [sql]
          bindings := s.bindings.extend .jsonWhere values } := by
  unfold jsonCompare at h ⊢
  split at h
  · exact absurd h fail_ne_accepted
  · rename_i sql values hpredicate
    exact ⟨h, sql, values, hpredicate, rfl⟩

/-! ### Eager loading -/

theorem withRelations_of_accepted {names : List String}
    (h : (s.withRelations names).buildError = none) :
    s.buildError = none ∧
      s.withRelations names = { s with eager := names.foldl addEager s.eager } := by
  unfold withRelations at h ⊢
  split at h
  · exact absurd h misuse_ne_accepted
  · rename_i hmodel
    exact ⟨h, if_neg hmodel⟩

theorem withConstraint_of_accepted {name : String} {calls : List Call}
    (h : (s.withConstraint name calls).buildError = none) :
    s.buildError = none ∧
      s.withConstraint name calls =
        { s with
          eager := [name].foldl addEager s.eager
          constraints := Keyed.put (Text.trim name) calls s.constraints } := by
  unfold withConstraint at h ⊢
  simp only at h ⊢
  split at h
  · rename_i hrefused
    rw [h] at hrefused
    exact absurd hrefused Bool.false_ne_true
  · rename_i hpassed
    have haccepted : (s.withRelations [name]).buildError = none := h
    obtain ⟨hs, heq⟩ := withRelations_of_accepted haccepted
    refine ⟨hs, ?_⟩
    rw [if_neg hpassed, heq]

/-! ### Marks of deletion -/

/-- The conditions once only marked rows are kept: tests for rows without a mark are dropped, and
the test for a mark follows unless it is there already. -/
def markedConditions (s : Statement) : List Condition :=
  (s.dropMarkChecks false).nullChecked .and true (Text.trim s.softDeleteColumn)

theorem onlyTrashed_of_accepted (h : s.onlyTrashed.buildError = none) :
    s.buildError = none ∧
      s.onlyTrashed = { s with softDeleteMode := .only, conditions := s.markedConditions } := by
  unfold onlyTrashed at h ⊢
  obtain ⟨hs, -, heq⟩ := nullCheck_of_accepted h
  refine ⟨hs, ?_⟩
  rw [heq, leavesNullCheck, Bool.not_true, Bool.false_and, Bool.false_and]
  rfl

/-- The conditions once marked rows are excluded again: tests for marked rows are dropped, and the
test for rows without a mark follows unless it is there already. -/
def unmarkedConditions (s : Statement) : List Condition :=
  let kept := (s.dropMarkChecks true).conditions
  if kept.any (Condition.isNullCheck s.quoting s.softDeleteColumn false .and) then kept
  else kept ++ [Condition.notDeleted s.softDeleteColumn]

theorem withoutTrashed_eq (s : Statement) :
    s.withoutTrashed =
      { s with softDeleteMode := .exclude, conditions := s.unmarkedConditions } := by
  unfold withoutTrashed unmarkedConditions
  simp only
  split
  · rename_i h
    rw [if_pos (by exact h)]
    rfl
  · rename_i h
    rw [if_neg (by exact h)]
    rfl

/-! ### What a call leaves alone -/

/-- What an accepted call leaves as it was.  Apart from the context these are the parts that a kind
needs, unless the call sets the kind, how marked rows are treated, unless it says so, and the
conditions, unless it is on them. -/
structure Frame (c : Call) (s t : Statement) : Prop where
  accepted : s.buildError = none
  context : t.context = s.context
  kind : c.setsKind = false → t.kind = s.kind
  mutationColumns : c.setsKind = false → t.mutationColumns = s.mutationColumns
  upsertUnique : c.setsKind = false → t.upsertUnique = s.upsertUnique
  softDeleteMode : c.setsMode = false → t.softDeleteMode = s.softDeleteMode
  conditions : c.setsConditions = false → t.conditions = s.conditions

theorem frame_setMutation {c : Call} {kind : Kind} {data : List (String × Value)}
    (h : (s.setMutation kind data).buildError = none) (hkind : c.setsKind = true) :
    Frame c s (s.setMutation kind data) := by
  have hsets : c.setsKind ≠ false := fun hf => Bool.false_ne_true (hf.symm.trans hkind)
  obtain ⟨hs, -, -, -, heq⟩ := setMutation_of_accepted h
  rw [heq]
  exact ⟨hs, rfl, fun hf => absurd hf hsets, fun hf => absurd hf hsets,
    fun hf => absurd hf hsets, fun _ => rfl, fun _ => rfl⟩

/-- **An accepted call was made on an accepted statement and changes only what it is about.** -/
theorem frame_apply {c : Call} (h : (s.apply c).buildError = none) : Frame c s (s.apply c) := by
  cases c with
  | compare =>
      rw [apply] at h ⊢
      obtain ⟨hs, -, op, operand, values, -, -, heq⟩ := compare_of_accepted h
      rw [heq]
      exact ⟨hs, rfl, fun _ => rfl, fun _ => rfl, fun _ => rfl, fun _ => rfl, nofun⟩
  | group =>
      rw [apply] at h ⊢
      obtain ⟨hs, -, -, heq⟩ := addGroup_of_accepted h
      rw [heq]
      split
      · exact ⟨hs, rfl, fun _ => rfl, fun _ => rfl, fun _ => rfl, fun _ => rfl, fun _ => rfl⟩
      · exact ⟨hs, rfl, fun _ => rfl, fun _ => rfl, fun _ => rfl, fun _ => rfl, nofun⟩
  | compareSub =>
      rw [apply] at h ⊢
      obtain ⟨hs, -, op, query, -, -, -, -, heq⟩ := compareSub_of_accepted h
      rw [heq]
      exact ⟨hs, rfl, fun _ => rfl, fun _ => rfl, fun _ => rfl, fun _ => rfl, nofun⟩
  | inList =>
      rw [apply] at h ⊢
      obtain ⟨hs, -, -, heq⟩ := inList_of_accepted h
      rw [heq]
      exact ⟨hs, rfl, fun _ => rfl, fun _ => rfl, fun _ => rfl, fun _ => rfl, nofun⟩
  | nullCheck =>
      rw [apply] at h ⊢
      obtain ⟨hs, -, heq⟩ := nullCheck_of_accepted h
      rw [heq]
      split
      · exact ⟨hs, rfl, fun _ => rfl, fun _ => rfl, fun _ => rfl, fun _ => rfl, fun _ => rfl⟩
      · exact ⟨hs, rfl, fun _ => rfl, fun _ => rfl, fun _ => rfl, fun _ => rfl, nofun⟩
  | withTrashed =>
      rw [apply] at h ⊢
      exact ⟨h, rfl, fun _ => rfl, fun _ => rfl, fun _ => rfl, nofun, nofun⟩
  | onlyTrashed =>
      rw [apply] at h ⊢
      obtain ⟨hs, heq⟩ := onlyTrashed_of_accepted h
      rw [heq]
      exact ⟨hs, rfl, fun _ => rfl, fun _ => rfl, fun _ => rfl, nofun, nofun⟩
  | withoutTrashed =>
      rw [apply, withoutTrashed_eq] at h ⊢
      exact ⟨h, rfl, fun _ => rfl, fun _ => rfl, fun _ => rfl, nofun, nofun⟩
  | softDelete =>
      rw [apply, softDelete, update] at h ⊢
      exact frame_setMutation h rfl
  | restore =>
      rw [apply, restore, update] at h ⊢
      have hset : Frame .restore s.withTrashed _ := frame_setMutation h rfl
      exact ⟨hset.accepted, hset.context, hset.kind, hset.mutationColumns, hset.upsertUnique,
        nofun, nofun⟩
  | joinSub =>
      rw [apply] at h ⊢
      obtain ⟨hs, query, -, heq⟩ := joinSub_of_accepted h
      rw [heq]
      exact ⟨hs, rfl, fun _ => rfl, fun _ => rfl, fun _ => rfl, fun _ => rfl, fun _ => rfl⟩
  | having =>
      rw [apply] at h ⊢
      obtain ⟨hs, op, -, -, heq⟩ := having_of_accepted h
      rw [heq]
      exact ⟨hs, rfl, fun _ => rfl, fun _ => rfl, fun _ => rfl, fun _ => rfl, fun _ => rfl⟩
  | orderBy =>
      rw [apply] at h ⊢
      obtain ⟨hs, d, -, heq⟩ := orderBy_of_accepted h
      rw [heq]
      exact ⟨hs, rfl, fun _ => rfl, fun _ => rfl, fun _ => rfl, fun _ => rfl, fun _ => rfl⟩
  | orderByCase =>
      rw [apply] at h ⊢
      obtain ⟨hs, d, -, -, heq⟩ := orderByCase_of_accepted h
      rw [heq]
      exact ⟨hs, rfl, fun _ => rfl, fun _ => rfl, fun _ => rfl, fun _ => rfl, fun _ => rfl⟩
  | union =>
      rw [apply] at h ⊢
      obtain ⟨hs, query, -, heq⟩ := union_of_accepted h
      rw [heq]
      exact ⟨hs, rfl, fun _ => rfl, fun _ => rfl, fun _ => rfl, fun _ => rfl, fun _ => rfl⟩
  | window =>
      rw [apply] at h ⊢
      obtain ⟨hs, sql, -, heq⟩ := window_of_accepted h
      rw [heq]
      exact ⟨hs, rfl, fun _ => rfl, fun _ => rfl, fun _ => rfl, fun _ => rfl, fun _ => rfl⟩
  | jsonCompare =>
      rw [apply] at h ⊢
      obtain ⟨hs, sql, values, -, heq⟩ := jsonCompare_of_accepted h
      rw [heq]
      exact ⟨hs, rfl, fun _ => rfl, fun _ => rfl, fun _ => rfl, fun _ => rfl, fun _ => rfl⟩
  | insert =>
      rw [apply, insert] at h ⊢
      exact frame_setMutation h rfl
  | insertOrIgnore =>
      rw [apply, insertOrIgnore] at h ⊢
      exact frame_setMutation h rfl
  | update =>
      rw [apply, update] at h ⊢
      exact frame_setMutation h rfl
  | delete =>
      rw [apply, delete] at h ⊢
      obtain ⟨hs, -, heq⟩ := setKind_of_accepted h
      rw [heq]
      exact ⟨hs, rfl, nofun, fun _ => rfl, fun _ => rfl, fun _ => rfl, fun _ => rfl⟩
  | upsert data =>
      rw [apply] at h ⊢
      obtain ⟨hset, -, heq⟩ := upsert_of_accepted h
      have hframe : Frame (.upsert data []) s _ := frame_setMutation hset rfl
      rw [heq]
      exact ⟨hframe.accepted, hframe.context, nofun, nofun,
        nofun, hframe.softDeleteMode, hframe.conditions⟩
  | withRelations =>
      rw [apply] at h ⊢
      obtain ⟨hs, heq⟩ := withRelations_of_accepted h
      rw [heq]
      exact ⟨hs, rfl, fun _ => rfl, fun _ => rfl, fun _ => rfl, fun _ => rfl, fun _ => rfl⟩
  | withConstraint =>
      rw [apply] at h ⊢
      obtain ⟨hs, heq⟩ := withConstraint_of_accepted h
      rw [heq]
      exact ⟨hs, rfl, fun _ => rfl, fun _ => rfl, fun _ => rfl, fun _ => rfl, fun _ => rfl⟩
  | _ =>
      rw [apply] at h ⊢
      exact ⟨h, rfl, fun _ => rfl, fun _ => rfl, fun _ => rfl, fun _ => rfl, fun _ => rfl⟩

/-! ### Whole constructions -/

theorem applyAll_append (s : Statement) (before after : List Call) :
    s.applyAll (before ++ after) = (s.applyAll before).applyAll after := by
  induction before generalizing s with
  | nil => rfl
  | cons c before ih =>
      rw [List.cons_append, applyAll, applyAll]
      exact ih (s.apply c)

/-- An error is never taken away by a call. -/
theorem accepted_of_apply {c : Call} (h : (s.apply c).buildError = none) : s.buildError = none :=
  (frame_apply h).accepted

/-- No call changes the context. -/
theorem context_apply {c : Call} (h : (s.apply c).buildError = none) :
    (s.apply c).context = s.context :=
  (frame_apply h).context

/-- An error is never taken away by further calls. -/
theorem accepted_of_applyAll {calls : List Call} (h : (s.applyAll calls).buildError = none) :
    s.buildError = none := by
  induction calls generalizing s with
  | nil => exact h
  | cons c calls ih => exact accepted_of_apply (ih h)

/-- No construction changes the context. -/
theorem context_applyAll {calls : List Call} (h : (s.applyAll calls).buildError = none) :
    (s.applyAll calls).context = s.context := by
  induction calls generalizing s with
  | nil => rfl
  | cons c calls ih =>
      rw [applyAll] at h ⊢
      rw [ih h, context_apply (accepted_of_applyAll h)]

/-- A construction keeps the quoting and the mark of its context. -/
theorem settings_build {context : Context} {calls : List Call}
    (h : (build context calls).buildError = none) :
    (build context calls).quoting = context.config.quoting ∧
      (build context calls).softDeleteColumn = context.config.softDeleteColumn := by
  have hcontext : (build context calls).context = context := context_applyAll h
  rw [quoting, softDeleteColumn, hcontext]
  exact ⟨rfl, rfl⟩

/-! ### Compiled statements -/

/-- What a statement that compiles is like. -/
theorem compile_of_ok {query : Compiled} (h : s.compile = .ok query) :
    s.buildError = none ∧ s.table ≠ "" ∧ s.text = .ok query.sql ∧ query.bindings = s.values ∧
      Placeholder.count s.quoting.quote query.sql = s.values.length := by
  unfold compile at h
  split at h
  · exact absurd h (by simp)
  · rename_i hs
    split at h
    · exact absurd h (by simp)
    · rename_i htable
      split at h
      · exact absurd h (by simp)
      · rename_i sql hsql
        simp only at h
        split at h
        · rename_i hcount
          obtain rfl := Except.ok.inj h
          exact ⟨hs, fun hempty => htable (by rw [hempty]; rfl), hsql, rfl, hcount⟩
        · exact absurd h (by simp)

theorem text_of_select (hkind : s.kind = .select) : s.text = .ok s.selectSql := by
  rw [text, hkind]

/-- What a SELECT compiles to. -/
theorem compile_of_select {query : Compiled} (hkind : s.kind = .select)
    (h : s.compile = .ok query) :
    query.sql = s.selectSql ∧ query.bindings = s.bindings.merged .select := by
  obtain ⟨-, -, htext, hbindings, -⟩ := compile_of_ok h
  refine ⟨Except.ok.inj (htext.symm.trans (text_of_select hkind)), ?_⟩
  rw [hbindings, values, hkind]

end Statement
end EntityQuery

/-
# What rejected calls leave behind

A call that records an error should change nothing else.  Most calls look at all
their arguments before they write: they succeed, or they leave the statement with
the error and nothing more (`AllOrNothing`, `allOrNothing_apply`).

The others work in steps (`Call.hasSteps`).  A mutation fixes the kind, looks at its
data and writes them, and goes on when a step before was refused: a mutation of
another kind is refused, and its columns and values are written all the same.
`Call.Spares` says when such a call writes only what was there before, and
`contents_apply_iff` that it is then, and only then, that a rejected call leaves
the statement as it was.
-/

import EntityQuery.Proofs.Built.Refused

namespace EntityQuery
namespace Statement

variable {s t : Statement} {c : Call} {e : Error}

/-- The statement without the lock of its kind, its mode for deleted rows and its error. -/
def contents (s : Statement) : Statement :=
  { s with kindLocked := false, softDeleteMode := .exclude, buildError := none }

@[simp] theorem contents_fail (s : Statement) (e : Error) : (s.fail e).contents = s.contents := by
  unfold fail
  split
  · rfl
  · rfl

@[simp] theorem contents_misuse (s : Statement) (m : Misuse) :
    (s.misuse m).contents = s.contents :=
  contents_fail s (.argument m)

theorem kind_of_contents (h : t.contents = s.contents) : t.kind = s.kind := by
  have hkind : t.contents.kind = s.contents.kind := congrArg Statement.kind h
  exact hkind

theorem bindings_of_contents (h : t.contents = s.contents) : t.bindings = s.bindings := by
  have hbindings : t.contents.bindings = s.contents.bindings := congrArg Statement.bindings h
  exact hbindings

theorem conditions_of_contents (h : t.contents = s.contents) : t.conditions = s.conditions := by
  have hconditions : t.contents.conditions = s.contents.conditions :=
    congrArg Statement.conditions h
  exact hconditions

/-- The values that a statement binds are part of its contents. -/
theorem values_of_contents (h : t.contents = s.contents) : t.values = s.values := by
  rw [values, values, kind_of_contents h, bindings_of_contents h]

/-! ### Calls that look before they write -/

/-- The second statement has the error of the first, or it is the first with an error recorded. -/
def AllOrNothing (s t : Statement) : Prop :=
  t.buildError = s.buildError ∨ ∃ e, t = s.fail e

theorem allOrNothing_of_eq (h : t.buildError = s.buildError) : AllOrNothing s t :=
  .inl h

theorem allOrNothing_fail (s : Statement) (e : Error) : AllOrNothing s (s.fail e) :=
  .inr ⟨e, rfl⟩

theorem allOrNothing_misuse (s : Statement) (m : Misuse) : AllOrNothing s (s.misuse m) :=
  allOrNothing_fail s (.argument m)

/-- A statement that got its error from such a call is otherwise as it was. -/
theorem AllOrNothing.eq_of_rejected (h : AllOrNothing s t) (hs : s.buildError = none)
    (ht : t.buildError = some e) : t = { s with buildError := some e } := by
  obtain heq | ⟨e', rfl⟩ := h
  · rw [heq, hs] at ht
    exact nomatch ht
  · rw [buildError_fail_of_accepted hs] at ht
    obtain rfl := Option.some.inj ht
    unfold fail
    rw [hs]

theorem AllOrNothing.contents_of_rejected (h : AllOrNothing s t) (hs : s.buildError = none)
    (ht : t.buildError = some e) : t.contents = s.contents := by
  rw [h.eq_of_rejected hs ht]
  rfl

theorem allOrNothing_setKind (s : Statement) (kind : Kind) : AllOrNothing s (s.setKind kind) := by
  unfold setKind
  split
  · exact allOrNothing_fail s _
  · exact allOrNothing_of_eq rfl

theorem allOrNothing_compare (s : Statement) (connector : Connector) (column operator : String)
    (value : Value) : AllOrNothing s (s.compare connector column operator value) := by
  unfold compare
  simp only
  split
  · exact allOrNothing_misuse s _
  · split
    · exact allOrNothing_misuse s _
    · split
      · exact allOrNothing_misuse s _
      · exact allOrNothing_of_eq rfl

theorem allOrNothing_addGroup (s : Statement) (connector : Connector) (group : Statement) :
    AllOrNothing s (s.addGroup connector group) := by
  unfold addGroup
  split
  · exact allOrNothing_fail s _
  · split
    · exact allOrNothing_misuse s _
    · split
      · exact allOrNothing_of_eq rfl
      · exact allOrNothing_of_eq rfl

theorem allOrNothing_compareSub (s : Statement) (connector : Connector) (column operator : String)
    (sub : Statement) : AllOrNothing s (s.compareSub connector column operator sub) := by
  unfold compareSub
  simp only
  split
  · exact allOrNothing_misuse s _
  · split
    · exact allOrNothing_misuse s _
    · split
      · exact allOrNothing_misuse s _
      · split
        · exact allOrNothing_misuse s _
        · split
          · exact allOrNothing_fail s _
          · exact allOrNothing_of_eq rfl

theorem allOrNothing_inList (s : Statement) (connector : Connector) (negated : Bool)
    (column : String) (values : List Value) :
    AllOrNothing s (s.inList connector negated column values) := by
  unfold inList
  simp only
  split
  · exact allOrNothing_misuse s _
  · split
    · exact allOrNothing_misuse s _
    · exact allOrNothing_of_eq rfl

theorem allOrNothing_nullCheck (s : Statement) (connector : Connector) (notNull : Bool)
    (column : String) : AllOrNothing s (s.nullCheck connector notNull column) := by
  unfold nullCheck
  simp only
  split
  · exact allOrNothing_misuse s _
  · split
    · exact allOrNothing_of_eq rfl
    · split
      · exact allOrNothing_of_eq rfl
      · exact allOrNothing_of_eq rfl

theorem allOrNothing_withoutTrashed (s : Statement) : AllOrNothing s s.withoutTrashed := by
  rw [withoutTrashed_eq]
  exact allOrNothing_of_eq rfl

theorem allOrNothing_joinSub (s : Statement) (kind : JoinKind) (sub : Statement)
    (label left operator right : String) :
    AllOrNothing s (s.joinSub kind sub label left operator right) := by
  unfold joinSub
  split
  · exact allOrNothing_fail s _
  · exact allOrNothing_of_eq rfl

theorem allOrNothing_union (s : Statement) (sub : Statement) (all : Bool) :
    AllOrNothing s (s.union sub all) := by
  unfold union
  split
  · exact allOrNothing_fail s _
  · exact allOrNothing_of_eq rfl

theorem allOrNothing_having (s : Statement) (column operator : String) (value : Value) :
    AllOrNothing s (s.having column operator value) := by
  unfold having
  split
  · exact allOrNothing_misuse s _
  · split
    · exact allOrNothing_misuse s _
    · exact allOrNothing_of_eq rfl

theorem allOrNothing_orderBy (s : Statement) (column direction : String) :
    AllOrNothing s (s.orderBy column direction) := by
  unfold orderBy
  split
  · exact allOrNothing_misuse s _
  · exact allOrNothing_of_eq rfl

theorem allOrNothing_orderByCase (s : Statement) (column : String) (ranks : List (Value × Int))
    (otherwise direction : String) :
    AllOrNothing s (s.orderByCase column ranks otherwise direction) := by
  unfold orderByCase
  split
  · exact allOrNothing_misuse s _
  · split
    · exact allOrNothing_misuse s _
    · exact allOrNothing_of_eq rfl

theorem allOrNothing_window (s : Statement) (function : WindowFunction) (w : Window)
    (label : String) : AllOrNothing s (s.window function w label) := by
  unfold window
  split
  · exact allOrNothing_fail s _
  · exact allOrNothing_of_eq rfl

theorem allOrNothing_jsonCompare (s : Statement) (column path operator : String) (value : Value) :
    AllOrNothing s (s.jsonCompare column path operator value) := by
  unfold jsonCompare
  split
  · exact allOrNothing_fail s _
  · exact allOrNothing_of_eq rfl

theorem allOrNothing_withRelations (s : Statement) (names : List String) :
    AllOrNothing s (s.withRelations names) := by
  unfold withRelations
  split
  · exact allOrNothing_misuse s _
  · exact allOrNothing_of_eq rfl

theorem allOrNothing_withConstraint (s : Statement) (name : String) (calls : List Call) :
    AllOrNothing s (s.withConstraint name calls) := by
  unfold withConstraint
  simp only
  split
  · exact allOrNothing_withRelations s [name]
  · rename_i hfree
    obtain heq | ⟨e, he⟩ := allOrNothing_withRelations s [name]
    · exact allOrNothing_of_eq heq
    · refine absurd ?_ hfree
      rw [he, buildError_fail]
      rfl

end Statement

/-- Whether a call is performed in steps that go on when one of them was refused. -/
def Call.hasSteps : Call → Bool
  | .insert _ | .insertOrIgnore _ | .update _ | .upsert _ _ => true
  | .softDelete _ | .restore | .onlyTrashed => true
  | _ => false

namespace Statement

variable {s t : Statement} {c : Call} {e : Error}

/-- **A call without steps is performed, or it records its error and does nothing else.** -/
theorem allOrNothing_apply (s : Statement) (h : c.hasSteps = false) :
    AllOrNothing s (s.apply c) := by
  cases c with
  | compare connector column operator value =>
      rw [apply]
      exact allOrNothing_compare s connector column operator value
  | group connector calls =>
      rw [apply]
      exact allOrNothing_addGroup s connector _
  | compareSub connector column operator sub =>
      rw [apply]
      exact allOrNothing_compareSub s connector column operator _
  | inList connector negated column values =>
      rw [apply]
      exact allOrNothing_inList s connector negated column values
  | nullCheck connector notNull column =>
      rw [apply]
      exact allOrNothing_nullCheck s connector notNull column
  | withoutTrashed =>
      rw [apply]
      exact allOrNothing_withoutTrashed s
  | joinSub kind sub label left operator right =>
      rw [apply]
      exact allOrNothing_joinSub s kind _ label left operator right
  | having column operator value =>
      rw [apply]
      exact allOrNothing_having s column operator value
  | orderBy column direction =>
      rw [apply]
      exact allOrNothing_orderBy s column direction
  | orderByCase column ranks otherwise direction =>
      rw [apply]
      exact allOrNothing_orderByCase s column ranks otherwise direction
  | union sub all =>
      rw [apply]
      exact allOrNothing_union s _ all
  | window function w label =>
      rw [apply]
      exact allOrNothing_window s function w label
  | jsonCompare column path operator value =>
      rw [apply]
      exact allOrNothing_jsonCompare s column path operator value
  | delete =>
      rw [apply, delete]
      exact allOrNothing_setKind s .delete
  | withRelations names =>
      rw [apply]
      exact allOrNothing_withRelations s names
  | withConstraint name calls =>
      rw [apply]
      exact allOrNothing_withConstraint s name calls
  | insert | insertOrIgnore | update | upsert | softDelete | restore | onlyTrashed =>
      exact nomatch h
  | _ =>
      rw [apply]
      exact allOrNothing_of_eq rfl

/-! ### Calls with steps -/

/-- Replacing the values of a bucket changes nothing when they are the values of the bucket. -/
theorem bindings_set_eq_self_iff {b : Bindings} {bucket : Bucket} {values : List Value} :
    b.set bucket values = b ↔ b.get bucket = values := by
  constructor
  · intro h
    rw [← h, Bindings.get_set_self]
  · rintro rfl
    cases bucket <;> rfl

/-- The columns that a mutation writes. -/
def columnsOf (data : List (String × Value)) : List String :=
  data.map fun d => Text.trim d.1

/-- Whether a mutation has columns, and none without a name. -/
def isWritable (data : List (String × Value)) : Bool :=
  !(columnsOf data).isEmpty && !(columnsOf data).any String.isEmpty

/-- The unique columns of an UPSERT, without those that have no name. -/
def uniqueColumns (columns : List String) : List String :=
  (columns.map Text.trim).filter fun c => !c.isEmpty

/-- Whether a mutation would write what is there already: its kind cannot be set or is the kind, and
data that are written are the data of the statement. -/
def SparesMutation (s : Statement) (kind : Kind) (data : List (String × Value)) : Prop :=
  (s.kindLocked = true ∨ s.kind = kind) ∧
    (isWritable data = true →
      s.mutationColumns = columnsOf data ∧ s.bindings.get .mutation = data.map Prod.snd)

/-- Fixing the kind changes the kind only. -/
theorem contents_setKind (s : Statement) (kind : Kind) :
    (s.setKind kind).contents = { s.contents with kind := (s.setKind kind).kind } := by
  unfold setKind
  split
  · unfold fail
    split
    · rfl
    · rfl
  · rfl

/-- The kind stays as it is when it is locked, or when it is the kind that is set. -/
theorem kind_setKind_eq_iff (s : Statement) (kind : Kind) :
    (s.setKind kind).kind = s.kind ↔ s.kindLocked = true ∨ s.kind = kind := by
  unfold setKind
  split
  · rename_i hconflict
    have hlocked : s.kindLocked = true := (Bool.and_eq_true_iff.1 hconflict).1
    exact iff_of_true (kind_of_contents (contents_fail s _)) (.inl hlocked)
  · rename_i hconflict
    constructor
    · exact fun h => .inr h.symm
    · rintro (hlocked | hkind)
      · simp only [hlocked, Bool.true_and, bne_iff_ne, not_not] at hconflict
        exact hconflict.symm
      · exact hkind.symm

theorem setMutation_of_writable (s : Statement) (kind : Kind) {data : List (String × Value)}
    (h : isWritable data = true) :
    s.setMutation kind data =
      { s.setKind kind with
        mutationColumns := columnsOf data
        bindings := (s.setKind kind).bindings.set .mutation (data.map Prod.snd) } := by
  obtain ⟨hcolumns, hnamed⟩ := Bool.and_eq_true_iff.1 h
  rw [columnsOf, Bool.not_eq_true'] at hcolumns hnamed
  unfold setMutation
  simp only
  rw [if_neg (ne_true_of_eq_false hcolumns), if_neg (ne_true_of_eq_false hnamed), columnsOf]

theorem setMutation_of_not_writable (s : Statement) (kind : Kind) {data : List (String × Value)}
    (h : isWritable data = false) :
    ∃ m, s.setMutation kind data = (s.setKind kind).misuse m := by
  unfold setMutation
  simp only
  split
  · exact ⟨_, rfl⟩
  · rename_i hcolumns
    split
    · exact ⟨_, rfl⟩
    · rename_i hnamed
      rw [isWritable, columnsOf, eq_false_of_ne_true hcolumns, eq_false_of_ne_true hnamed] at h
      exact nomatch h

/-- What a mutation leaves: the kind is set when it can be, and data that can be written are
written, whether the kind was set or refused. -/
theorem contents_setMutation (s : Statement) (kind : Kind) (data : List (String × Value)) :
    (s.setMutation kind data).contents =
      if isWritable data then
        { s.contents with
          kind := (s.setKind kind).kind
          mutationColumns := columnsOf data
          bindings := s.bindings.set .mutation (data.map Prod.snd) }
      else { s.contents with kind := (s.setKind kind).kind } := by
  have hkind := contents_setKind s kind
  split
  · rename_i hdata
    have hbindings : (s.setKind kind).bindings = s.bindings := by
      have h : (s.setKind kind).contents.bindings = s.contents.bindings := by rw [hkind]
      exact h
    rw [setMutation_of_writable s kind hdata, hbindings]
    exact congrArg (fun u : Statement =>
      { u with
        mutationColumns := columnsOf data
        bindings := s.bindings.set .mutation (data.map Prod.snd) }) hkind
  · rename_i hdata
    obtain ⟨m, hm⟩ := setMutation_of_not_writable s kind (eq_false_of_ne_true hdata)
    rw [hm, contents_misuse, hkind]

theorem conditions_setMutation (s : Statement) (kind : Kind) (data : List (String × Value)) :
    (s.setMutation kind data).conditions = s.conditions := by
  have h : (s.setMutation kind data).contents.conditions = s.contents.conditions := by
    rw [contents_setMutation]
    split
    · rfl
    · rfl
  exact h

/-- **A mutation leaves the contents alone exactly when it would write what is there.** -/
theorem contents_setMutation_iff (s : Statement) (kind : Kind) (data : List (String × Value)) :
    (s.setMutation kind data).contents = s.contents ↔ s.SparesMutation kind data := by
  rw [SparesMutation, ← kind_setKind_eq_iff, contents_setMutation]
  cases isWritable data with
  | false => simp [contents]
  | true => simp [contents, bindings_set_eq_self_iff, eq_comm (a := columnsOf data)]

/-- An UPSERT writes its unique columns too. -/
theorem contents_upsert (s : Statement) (data : List (String × Value)) (unique : List String) :
    (s.upsert data unique).contents =
      { (s.setMutation .upsert data).contents with upsertUnique := uniqueColumns unique } := by
  unfold upsert
  simp only
  split
  · exact contents_misuse _ _
  · rfl

theorem contents_upsert_iff (s : Statement) (data : List (String × Value)) (unique : List String) :
    (s.upsert data unique).contents = s.contents ↔
      s.SparesMutation .upsert data ∧ s.upsertUnique = uniqueColumns unique := by
  have hunique : (s.setMutation .upsert data).contents.upsertUnique = s.contents.upsertUnique := by
    rw [contents_setMutation]
    split
    · rfl
    · rfl
  rw [contents_upsert, ← contents_setMutation_iff]
  constructor
  · intro h
    have hnamed : uniqueColumns unique = s.contents.upsertUnique :=
      congrArg Statement.upsertUnique h
    refine ⟨?_, hnamed.symm⟩
    rw [← h, hnamed, ← hunique]
  · rintro ⟨h, hnamed⟩
    rw [h, ← hnamed]
    rfl

/-- Including deleted rows leaves the contents alone exactly when it drops no condition. -/
theorem contents_withTrashed_iff (s : Statement) :
    s.withTrashed.contents = s.contents ↔ (s.dropMarkChecks false).conditions = s.conditions := by
  simp [withTrashed, dropMarkChecks, contents]

theorem contents_restore_iff (s : Statement) :
    s.restore.contents = s.contents ↔
      (s.dropMarkChecks false).conditions = s.conditions ∧
        s.SparesMutation .update [(s.softDeleteColumn, .null)] := by
  have hspares : s.withTrashed.SparesMutation .update [(s.softDeleteColumn, .null)] ↔
      s.SparesMutation .update [(s.softDeleteColumn, .null)] := Iff.rfl
  rw [← hspares, ← contents_setMutation_iff, ← contents_withTrashed_iff]
  constructor
  · intro h
    have hset : (s.withTrashed.setMutation .update [(s.softDeleteColumn, .null)]).contents =
        s.contents := h
    have hconditions : s.withTrashed.contents = s.contents := by
      rw [contents_withTrashed_iff]
      have hkept := conditions_of_contents hset
      rw [conditions_setMutation] at hkept
      exact hkept
    exact ⟨hconditions, hset.trans hconditions.symm⟩
  · rintro ⟨hconditions, hset⟩
    exact hset.trans hconditions

/-- When `onlyTrashed` is rejected, it has dropped conditions all the same. -/
theorem contents_onlyTrashed (hs : s.buildError = none) (hc : s.onlyTrashed.buildError = some e) :
    s.onlyTrashed.contents = s.withTrashed.contents := by
  have hnull := allOrNothing_nullCheck { s.dropMarkChecks false with softDeleteMode := .only } .and
    true s.softDeleteColumn
  exact hnull.contents_of_rejected hs hc

end Statement

/-- Whether a call with steps writes only what is there already. -/
def Call.Spares (s : Statement) : Call → Prop
  | .insert data => s.SparesMutation .insert data
  | .insertOrIgnore data => s.SparesMutation .insertIgnore data
  | .update data => s.SparesMutation .update data
  | .upsert data unique =>
    s.SparesMutation .upsert data ∧ s.upsertUnique = Statement.uniqueColumns unique
  | .softDelete now => s.SparesMutation .update [(s.softDeleteColumn, .timestamp now)]
  | .restore =>
    (s.dropMarkChecks false).conditions = s.conditions ∧
      s.SparesMutation .update [(s.softDeleteColumn, .null)]
  | .onlyTrashed => (s.dropMarkChecks false).conditions = s.conditions
  | _ => True

namespace Statement

variable {s : Statement} {c : Call} {e : Error}

/-- A rejected call leaves the contents alone exactly when its steps write what is there. -/
theorem contents_apply_iff (hs : s.buildError = none) (hc : (s.apply c).buildError = some e) :
    (s.apply c).contents = s.contents ↔ c.Spares s := by
  have hwhole : c.hasSteps = false → (s.apply c).contents = s.contents :=
    fun hsteps => (allOrNothing_apply s hsteps).contents_of_rejected hs hc
  cases c with
  | insert data =>
      simp only [apply, insert, Call.Spares]
      exact contents_setMutation_iff s .insert data
  | insertOrIgnore data =>
      simp only [apply, insertOrIgnore, Call.Spares]
      exact contents_setMutation_iff s .insertIgnore data
  | update data =>
      simp only [apply, update, Call.Spares]
      exact contents_setMutation_iff s .update data
  | upsert data unique =>
      simp only [apply, Call.Spares]
      exact contents_upsert_iff s data unique
  | softDelete now =>
      simp only [apply, softDelete, update, Call.Spares]
      exact contents_setMutation_iff s .update _
  | restore =>
      simp only [apply, Call.Spares]
      exact contents_restore_iff s
  | onlyTrashed =>
      simp only [apply] at hc
      simp only [apply, Call.Spares]
      rw [contents_onlyTrashed hs hc]
      exact contents_withTrashed_iff s
  | _ => exact iff_of_true (hwhole rfl) trivial

/-- **What a rejected call leaves behind.**  A call without steps leaves the error and nothing else.
Any rejected call leaves the contents of the statement, and so its values, as they were exactly
when its steps write what is there already. -/
theorem apply_of_rejected (hs : s.buildError = none) (hc : (s.apply c).buildError = some e) :
    (c.hasSteps = false → s.apply c = { s with buildError := some e }) ∧
      ((s.apply c).contents = s.contents ↔ c.Spares s) ∧
      (c.Spares s → (s.apply c).values = s.values) := by
  have hiff := contents_apply_iff hs hc
  refine ⟨?_, hiff, fun hspares => values_of_contents (hiff.2 hspares)⟩
  exact fun hsteps => (allOrNothing_apply s hsteps).eq_of_rejected hs hc

/-- A second mutation with the data of the first is rejected and spares the statement. -/
theorem apply_of_rejected_again :
    ((build {} [.insert [("a", .int 1)]]).apply (.update [("a", .int 1)])).values = [.int 1] :=
  (apply_of_rejected (s := build {} [.insert [("a", .int 1)]]) (c := .update [("a", .int 1)])
    (e := .state (.kindChange .insert .update)) rfl rfl).2.2
    ⟨.inl rfl, fun _ => ⟨rfl, rfl⟩⟩

/-- **An UPDATE after an INSERT is rejected, and its values take the place of those inserted.** -/
theorem rejected_update_replaces_values :
    let s := build {} [.insert [("a", .int 1)]]
    let t := s.apply (.update [("a", .int 2)])
    s.buildError = none ∧ t.buildError = some (.state (.kindChange .insert .update)) ∧
      t.kind = s.kind ∧ s.values = [.int 1] ∧ t.values = [.int 2] := by
  exact ⟨rfl, rfl, rfl, rfl, rfl⟩

end Statement
end EntityQuery

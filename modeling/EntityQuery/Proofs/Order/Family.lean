/-
# Calls by families

Every call on a statement is about one of its clauses, about its mutation or about
the relations that are loaded with it: these are the families.  A call reads and
changes the clauses of its own family and nothing else (`isLocal_apply`).  It may
look at the source of the statement, which is its context, table, model class and
dialect, and it may leave an error behind.

That is said by one equation for each call.  `only f s` is the source of a statement
with the clauses of the family `f` alone, and `graft f s t` is `s` with these clauses,
and the error, of `t`.  An operation is local to a family (`IsLocal`) when performing it
is performing it on `only f s` and grafting the outcome.

So an accepted call leaves the clauses of all families alone that are not its own
(`graft_apply_of_notMem`).

The calls on the source itself belong to no family, and neither does `restore`, which
is a mutation and a call on the conditions at once.
-/

import EntityQuery.Proofs.Built.Accepted

namespace EntityQuery

/-- What a call is about: a clause of a statement, its mutation, or its relations. -/
inductive Family where
  | selection
  | expressions
  | joins
  | conditions
  | jsonConditions
  | groups
  | having
  | orders
  | unions
  | limit
  | offset
  | mutation
  | eager
  deriving DecidableEq, Repr

/-- The families of a call.  A page is a limit and an offset. -/
def Call.families : Call → List Family
  | .select _ => [.selection]
  | .addSelect _ => [.selection]
  | .distinct => [.selection]
  | .window _ _ _ => [.expressions]
  | .jsonExtract _ _ _ => [.expressions]
  | .join _ _ _ _ _ => [.joins]
  | .joinSub _ _ _ _ _ _ => [.joins]
  | .joinRaw _ _ => [.joins]
  | .compare _ _ _ _ => [.conditions]
  | .group _ _ => [.conditions]
  | .compareSub _ _ _ _ => [.conditions]
  | .inList _ _ _ _ => [.conditions]
  | .nullCheck _ _ _ => [.conditions]
  | .withTrashed => [.conditions]
  | .onlyTrashed => [.conditions]
  | .withoutTrashed => [.conditions]
  | .jsonContains _ _ => [.jsonConditions]
  | .jsonCompare _ _ _ _ => [.jsonConditions]
  | .groupBy _ => [.groups]
  | .having _ _ _ => [.having]
  | .orderBy _ _ => [.orders]
  | .orderByRaw _ => [.orders]
  | .orderByCase _ _ _ _ => [.orders]
  | .union _ _ => [.unions]
  | .unionRaw _ _ => [.unions]
  | .limit _ => [.limit]
  | .offset _ => [.offset]
  | .forPage _ _ => [.limit, .offset]
  | .softDelete _ => [.mutation]
  | .insert _ => [.mutation]
  | .insertOrIgnore _ => [.mutation]
  | .update _ => [.mutation]
  | .delete => [.mutation]
  | .upsert _ _ => [.mutation]
  | .upsertColumns _ => [.mutation]
  | .withRelations _ => [.eager]
  | .withConstraint _ _ => [.eager]
  | .fromTable _ => []
  | .model _ => []
  | .dialect _ => []
  | .restore => []

namespace Statement

/-- A statement with the clauses of a family, and the error, of another one. -/
def graft (f : Family) (s t : Statement) : Statement :=
  match f with
  | .selection =>
    { s with columns := t.columns, isDistinct := t.isDistinct, buildError := t.buildError }
  | .expressions =>
    { s with
      expressions := t.expressions
      bindings := s.bindings.set .select t.bindings.select
      buildError := t.buildError }
  | .joins =>
    { s with
      joins := t.joins
      bindings := s.bindings.set .join t.bindings.join
      buildError := t.buildError }
  | .conditions =>
    { s with
      conditions := t.conditions
      softDeleteMode := t.softDeleteMode
      bindings := s.bindings.set .whereTree t.bindings.whereTree
      buildError := t.buildError }
  | .jsonConditions =>
    { s with
      jsonConditions := t.jsonConditions
      bindings := s.bindings.set .jsonWhere t.bindings.jsonWhere
      buildError := t.buildError }
  | .groups => { s with groups := t.groups, buildError := t.buildError }
  | .having =>
    { s with
      havingClause := t.havingClause
      bindings := s.bindings.set .having t.bindings.having
      buildError := t.buildError }
  | .orders =>
    { s with
      orders := t.orders
      bindings := s.bindings.set .order t.bindings.order
      buildError := t.buildError }
  | .unions =>
    { s with
      unions := t.unions
      bindings := s.bindings.set .union t.bindings.union
      buildError := t.buildError }
  | .limit => { s with limitCount := t.limitCount, buildError := t.buildError }
  | .offset => { s with offsetCount := t.offsetCount, buildError := t.buildError }
  | .mutation =>
    { s with
      kind := t.kind
      kindLocked := t.kindLocked
      mutationColumns := t.mutationColumns
      upsertUnique := t.upsertUnique
      upsertUpdate := t.upsertUpdate
      bindings := s.bindings.set .mutation t.bindings.mutation
      buildError := t.buildError }
  | .eager =>
    { s with eager := t.eager, constraints := t.constraints, buildError := t.buildError }

/-- The source of a statement, without any clause. -/
def source (s : Statement) : Statement :=
  { context := s.context
    table := s.table
    modelClass := s.modelClass
    jsonDialect := s.jsonDialect }

/-- The source with the clauses of one family only. -/
def only (f : Family) (s : Statement) : Statement :=
  graft f s.source s

variable {f g : Family} {s t u : Statement}

@[simp] theorem context_only : (s.only f).context = s.context := by cases f <;> rfl
@[simp] theorem modelClass_only : (s.only f).modelClass = s.modelClass := by cases f <;> rfl
@[simp] theorem jsonDialect_only : (s.only f).jsonDialect = s.jsonDialect := by cases f <;> rfl
@[simp] theorem quoting_only : (s.only f).quoting = s.quoting := by cases f <;> rfl
@[simp] theorem scope_only : (s.only f).scope = s.scope := by cases f <;> rfl
@[simp] theorem buildError_only : (s.only f).buildError = s.buildError := by cases f <;> rfl

theorem buildError_graft : (graft f s t).buildError = t.buildError := by cases f <;> rfl

theorem source_graft : (graft f s t).source = s.source := by cases f <;> rfl

theorem graft_graft : graft f s (graft f t u) = graft f s u := by cases f <;> rfl

theorem source_only : (s.only f).source = s.source := by cases f <;> rfl

theorem graft_left : graft f (graft f s t) u = graft f s u := by cases f <;> rfl

theorem only_graft : (graft f s t).only f = graft f s.source t := by
  rw [only, source_graft, graft_graft]

theorem graft_graft_of_ne (h : f ≠ g) (hu : u.buildError = t.buildError) :
    graft f s (graft g t u) = graft f s t := by
  cases f <;> cases g <;> first | exact absurd rfl h | simp only [graft, hu] <;> rfl

/-- An operation on a statement that reads and changes the clauses of one family only. -/
def IsLocal (f : Family) (op : Statement → Statement) : Prop :=
  ∀ s, op s = graft f s (op (s.only f))

/-- Two operations on one family, one after the other. -/
theorem IsLocal.comp {op₁ op₂ : Statement → Statement} (h₁ : IsLocal f op₁)
    (h₂ : IsLocal f op₂) : IsLocal f fun s => op₂ (op₁ s) := by
  intro s
  have hsource : (op₁ (s.only f)).source = s.source := by
    rw [h₁ (s.only f), source_graft, source_only]
  have honly : (op₁ s).only f = (op₁ (s.only f)).only f := by
    rw [h₁ s, only_graft, ← hsource]
    rfl
  calc op₂ (op₁ s)
      = graft f (op₁ s) (op₂ ((op₁ s).only f)) := h₂ _
    _ = graft f (graft f s (op₁ (s.only f))) (op₂ ((op₁ (s.only f)).only f)) := by
        rw [honly, ← h₁ s]
    _ = graft f s (graft f (op₁ (s.only f)) (op₂ ((op₁ (s.only f)).only f))) := by
        rw [graft_left, graft_graft]
    _ = graft f s (op₂ (op₁ (s.only f))) := by rw [← h₂]

theorem isLocal_fail (f : Family) (e : Error) : IsLocal f (·.fail e) := by
  intro s
  simp only [fail, buildError_only]
  split
  · cases f <;> rfl
  · cases f <;> rfl

theorem isLocal_misuse (f : Family) (m : Misuse) : IsLocal f (·.misuse m) :=
  isLocal_fail f _

theorem isLocal_compare (connector : Connector) (column operator : String) (value : Value) :
    IsLocal .conditions (·.compare connector column operator value) := by
  intro s
  simp only [compare]
  split
  · exact isLocal_misuse _ _ s
  · split
    · exact isLocal_misuse _ _ s
    · split
      · exact isLocal_misuse _ _ s
      · rfl

theorem isLocal_group (connector : Connector) (calls : List Call) :
    IsLocal .conditions fun s => s.addGroup connector (s.scope.applyAll calls) := by
  intro s
  simp only [scope_only]
  generalize s.scope.applyAll calls = group
  simp only [addGroup]
  split
  · exact isLocal_fail _ _ s
  · split
    · exact isLocal_misuse _ _ s
    · split
      · rfl
      · rfl

theorem isLocal_compareSub (connector : Connector) (column operator : String) (sub : List Call) :
    IsLocal .conditions fun s =>
      s.compareSub connector column operator ((new s.context).applyAll sub) := by
  intro s
  simp only [context_only]
  generalize (new s.context).applyAll sub = sub
  simp only [compareSub]
  split
  · exact isLocal_misuse _ _ s
  · split
    · exact isLocal_misuse _ _ s
    · split
      · exact isLocal_misuse _ _ s
      · split
        · exact isLocal_misuse _ _ s
        · split
          · exact isLocal_fail _ _ s
          · rfl

theorem isLocal_inList (connector : Connector) (negated : Bool) (column : String)
    (values : List Value) : IsLocal .conditions (·.inList connector negated column values) := by
  intro s
  simp only [inList]
  split
  · exact isLocal_misuse _ _ s
  · split
    · exact isLocal_misuse _ _ s
    · rfl

theorem isLocal_nullCheck (connector : Connector) (notNull : Bool) (column : String) :
    IsLocal .conditions (·.nullCheck connector notNull column) := by
  intro s
  have hfilters : (s.only .conditions).filtersDeleted = s.filtersDeleted := rfl
  have hmark : (s.only .conditions).softDeleteColumn = s.softDeleteColumn := rfl
  have hconditions : (s.only .conditions).conditions = s.conditions := rfl
  simp only [nullCheck, quoting_only, hfilters, hmark, hconditions]
  split
  · exact isLocal_misuse _ _ s
  · split
    · rfl
    · split
      · rfl
      · rfl

theorem isLocal_onlyTrashed : IsLocal .conditions onlyTrashed := by
  have hmode : IsLocal .conditions fun s =>
      { s.dropMarkChecks false with softDeleteMode := .only } := fun _ => rfl
  exact fun s => (hmode.comp (isLocal_nullCheck .and true s.softDeleteColumn)) s

theorem isLocal_withoutTrashed : IsLocal .conditions withoutTrashed := by
  intro s
  rw [withoutTrashed_eq, withoutTrashed_eq]
  rfl

theorem isLocal_joinSub (kind : JoinKind) (sub : List Call) (label left operator right : String) :
    IsLocal .joins fun s =>
      s.joinSub kind ((new s.context).applyAll sub) label left operator right := by
  intro s
  simp only [context_only]
  generalize (new s.context).applyAll sub = sub
  simp only [joinSub]
  split
  · exact isLocal_fail _ _ s
  · rfl

theorem isLocal_union (sub : List Call) (all : Bool) :
    IsLocal .unions fun s => s.union ((new s.context).applyAll sub) all := by
  intro s
  simp only [context_only]
  generalize (new s.context).applyAll sub = sub
  simp only [union]
  split
  · exact isLocal_fail _ _ s
  · rfl

theorem isLocal_having (column operator : String) (value : Value) :
    IsLocal .having (·.having column operator value) := by
  intro s
  simp only [having]
  split
  · exact isLocal_misuse _ _ s
  · split
    · exact isLocal_misuse _ _ s
    · rfl

theorem isLocal_orderBy (column direction : String) :
    IsLocal .orders (·.orderBy column direction) := by
  intro s
  simp only [orderBy]
  split
  · exact isLocal_misuse _ _ s
  · rfl

theorem isLocal_orderByCase (column : String) (ranks : List (Value × Int))
    (otherwise direction : String) :
    IsLocal .orders (·.orderByCase column ranks otherwise direction) := by
  intro s
  simp only [orderByCase]
  split
  · exact isLocal_misuse _ _ s
  · split
    · exact isLocal_misuse _ _ s
    · rfl

theorem isLocal_window (function : WindowFunction) (w : Window) (label : String) :
    IsLocal .expressions (·.window function w label) := by
  intro s
  simp only [window, quoting_only]
  split
  · exact isLocal_fail _ _ s
  · rfl

theorem isLocal_jsonCompare (column path operator : String) (value : Value) :
    IsLocal .jsonConditions (·.jsonCompare column path operator value) := by
  intro s
  simp only [jsonCompare, quoting_only, jsonDialect_only]
  split
  · exact isLocal_fail _ _ s
  · rfl

theorem isLocal_setKind (kind : Kind) : IsLocal .mutation (·.setKind kind) := by
  intro s
  have hlocked : (s.only .mutation).kindLocked = s.kindLocked := rfl
  have hkind : (s.only .mutation).kind = s.kind := rfl
  simp only [setKind, hlocked, hkind]
  split
  · exact isLocal_fail _ _ s
  · rfl

/-- What remains to be done for a mutation once its kind is set. -/
def putMutation (s : Statement) (kind : Kind) (data : List (String × Value)) : Statement :=
  let columns := data.map fun d => Text.trim d.1
  if columns.isEmpty then s.misuse (.noColumns kind)
  else if columns.any String.isEmpty then s.misuse (.blankColumn kind)
  else
    { s with
      mutationColumns := columns
      bindings := s.bindings.set .mutation (data.map Prod.snd) }

theorem setMutation_eq (s : Statement) (kind : Kind) (data : List (String × Value)) :
    s.setMutation kind data = (s.setKind kind).putMutation kind data :=
  rfl

theorem isLocal_putMutation (kind : Kind) (data : List (String × Value)) :
    IsLocal .mutation (·.putMutation kind data) := by
  intro s
  simp only [putMutation]
  split
  · exact isLocal_misuse _ _ s
  · split
    · exact isLocal_misuse _ _ s
    · rfl

theorem isLocal_setMutation (kind : Kind) (data : List (String × Value)) :
    IsLocal .mutation (·.setMutation kind data) := by
  simp only [setMutation_eq]
  exact (isLocal_setKind kind).comp (isLocal_putMutation kind data)

theorem isLocal_upsert (data : List (String × Value)) (unique : List String) :
    IsLocal .mutation (·.upsert data unique) := by
  generalize hcolumns : ((unique.map Text.trim).filter fun c => !c.isEmpty) = columns
  have hnamed : IsLocal .mutation fun s => { s with upsertUnique := columns } := fun _ => rfl
  have hset := (isLocal_setMutation .upsert data).comp hnamed
  intro s
  simp only [upsert, hcolumns]
  split
  · exact (hset.comp (isLocal_misuse _ .noUniqueColumns)) s
  · exact hset s

theorem isLocal_withRelations (names : List String) :
    IsLocal .eager (·.withRelations names) := by
  intro s
  simp only [withRelations, modelClass_only]
  split
  · exact isLocal_misuse _ _ s
  · rfl

/-- What remains to be done for a constraint once its relation is asked for. -/
def putConstraint (s : Statement) (name : String) (calls : List Call) : Statement :=
  if s.buildError.isSome then s
  else { s with constraints := Keyed.put (Text.trim name) calls s.constraints }

theorem withConstraint_eq (s : Statement) (name : String) (calls : List Call) :
    s.withConstraint name calls = (s.withRelations [name]).putConstraint name calls :=
  rfl

theorem isLocal_putConstraint (name : String) (calls : List Call) :
    IsLocal .eager (·.putConstraint name calls) := by
  intro s
  simp only [putConstraint, buildError_only]
  split
  · rfl
  · rfl

theorem isLocal_withConstraint (name : String) (calls : List Call) :
    IsLocal .eager (·.withConstraint name calls) := by
  simp only [withConstraint_eq]
  exact (isLocal_withRelations [name]).comp (isLocal_putConstraint name calls)

/-- **A call of one family reads and changes the clauses of its family only.** -/
theorem isLocal_apply {c : Call} (h : c.families = [f]) : IsLocal f (·.apply c) := by
  cases c with
  | compare connector column operator value =>
      obtain rfl := List.singleton_inj.1 h
      simpa only [apply] using isLocal_compare connector column operator value
  | group connector calls =>
      obtain rfl := List.singleton_inj.1 h
      simpa only [apply] using isLocal_group connector calls
  | compareSub connector column operator sub =>
      obtain rfl := List.singleton_inj.1 h
      simpa only [apply] using isLocal_compareSub connector column operator sub
  | inList connector negated column values =>
      obtain rfl := List.singleton_inj.1 h
      simpa only [apply] using isLocal_inList connector negated column values
  | nullCheck connector notNull column =>
      obtain rfl := List.singleton_inj.1 h
      simpa only [apply] using isLocal_nullCheck connector notNull column
  | onlyTrashed =>
      obtain rfl := List.singleton_inj.1 h
      simpa only [apply] using isLocal_onlyTrashed
  | withoutTrashed =>
      obtain rfl := List.singleton_inj.1 h
      simpa only [apply] using isLocal_withoutTrashed
  | joinSub kind sub label left operator right =>
      obtain rfl := List.singleton_inj.1 h
      simpa only [apply] using isLocal_joinSub kind sub label left operator right
  | having column operator value =>
      obtain rfl := List.singleton_inj.1 h
      simpa only [apply] using isLocal_having column operator value
  | orderBy column direction =>
      obtain rfl := List.singleton_inj.1 h
      simpa only [apply] using isLocal_orderBy column direction
  | orderByCase column ranks otherwise direction =>
      obtain rfl := List.singleton_inj.1 h
      simpa only [apply] using isLocal_orderByCase column ranks otherwise direction
  | union sub all =>
      obtain rfl := List.singleton_inj.1 h
      simpa only [apply] using isLocal_union sub all
  | window function w label =>
      obtain rfl := List.singleton_inj.1 h
      simpa only [apply] using isLocal_window function w label
  | jsonCompare column path operator value =>
      obtain rfl := List.singleton_inj.1 h
      simpa only [apply] using isLocal_jsonCompare column path operator value
  | softDelete now =>
      obtain rfl := List.singleton_inj.1 h
      intro s
      simp only [apply]
      exact isLocal_setMutation .update [(s.softDeleteColumn, .timestamp now)] s
  | insert data =>
      obtain rfl := List.singleton_inj.1 h
      simpa only [apply, insert] using isLocal_setMutation .insert data
  | insertOrIgnore data =>
      obtain rfl := List.singleton_inj.1 h
      simpa only [apply, insertOrIgnore] using isLocal_setMutation .insertIgnore data
  | update data =>
      obtain rfl := List.singleton_inj.1 h
      simpa only [apply, update] using isLocal_setMutation .update data
  | delete =>
      obtain rfl := List.singleton_inj.1 h
      simpa only [apply, delete] using isLocal_setKind .delete
  | upsert data unique =>
      obtain rfl := List.singleton_inj.1 h
      simpa only [apply] using isLocal_upsert data unique
  | withRelations names =>
      obtain rfl := List.singleton_inj.1 h
      simpa only [apply] using isLocal_withRelations names
  | withConstraint name calls =>
      obtain rfl := List.singleton_inj.1 h
      simpa only [apply] using isLocal_withConstraint name calls
  | fromTable => exact nomatch h
  | model => exact nomatch h
  | dialect => exact nomatch h
  | restore => exact nomatch h
  | forPage => exact nomatch h
  | _ =>
      obtain rfl := List.singleton_inj.1 h
      intro s
      simp only [apply]
      rfl

/-! ### The other families -/

/-- An accepted operation on one family leaves the clauses of all others alone. -/
theorem IsLocal.graft_of_ne {op : Statement → Statement} (hop : IsLocal g op) (hfg : f ≠ g)
    (hs : s.buildError = none) (h : (op s).buildError = none) :
    graft f t (op s) = graft f t s := by
  rw [hop s] at h ⊢
  rw [buildError_graft] at h
  exact graft_graft_of_ne hfg (h.trans hs.symm)

/-- **An accepted call leaves the clauses of all other families alone.**  What `restore` changes are
the conditions and the mutation. -/
theorem graft_apply_of_notMem {c : Call} (hf : f ∉ c.families)
    (hrestore : f ≠ .conditions ∧ f ≠ .mutation) (h : (s.apply c).buildError = none) :
    graft f t (s.apply c) = graft f t s := by
  have hlocal : ∀ g, c.families = [g] → graft f t (s.apply c) = graft f t s := by
    intro g hg
    rw [hg, List.mem_singleton] at hf
    exact (isLocal_apply hg).graft_of_ne hf (accepted_of_apply h) h
  cases c with
  | fromTable =>
      simp only [apply]
      cases f <;> rfl
  | model =>
      simp only [apply]
      cases f <;> rfl
  | dialect =>
      simp only [apply]
      cases f <;> rfl
  | restore =>
      have hs : s.buildError = none := accepted_of_apply h
      have htrashed : s.withTrashed.buildError = none := hs
      simp only [apply, restore, update] at h ⊢
      rw [(isLocal_setMutation .update _).graft_of_ne hrestore.2 htrashed h]
      cases f <;> first | rfl | exact absurd rfl hrestore.1
  | forPage page perPage =>
      have hlimit : f ≠ .limit := fun heq => hf (heq ▸ List.mem_cons_self)
      have hoffset : f ≠ .offset := fun heq => hf (heq ▸ List.mem_cons_of_mem _ List.mem_cons_self)
      simp only [apply]
      cases f <;> first | rfl | exact absurd rfl hlimit | exact absurd rfl hoffset
  | _ => exact hlocal _ rfl

end Statement
end EntityQuery

/-
# Loading in place

A relation is loaded onto a list of parents that belongs to the caller.  The steps of a
load are then steps on this list and on the session together (`InPlace`), and what was
written stays written when a later step fails.  `Entity.loadInPlace` takes the steps in
their order: the class of the first parent, the classes of the relation, the query, and
last the writing.

Since nothing can fail after the writing, a load that fails leaves the parents as they
were, and one that succeeds leaves the parents that `Entity.loadRelation` gives
(`perform_loadInPlace`).  What it writes on a parent is found by the attributes of the
parent alone (`Batch.load_eq_map_stored`).
-/

import EntityQuery.Proofs.Run.Action
import EntityQuery.Relation.Lazy

namespace EntityQuery

/-- A computation on a list of entities and a session.  When it fails, what it wrote before stays
written. -/
abbrev InPlace (α : Type) := ReaderT Connection (ExceptT Error (StateM (List Entity × Session))) α

namespace InPlace

variable {α β : Type}

/-- Runs the computation; entities and session are given back also when it fails. -/
def perform (steps : InPlace α) (connection : Connection) (state : List Entity × Session) :
    Except Error α × List Entity × Session :=
  (steps.run connection).run.run state

/-- What the computation leaves, whether it fails or not. -/
def leaves (steps : InPlace α) (connection : Connection) (state : List Entity × Session) :
    List Entity × Session :=
  (steps.perform connection state).2

/-- The entities as they are. -/
def entities : InPlace (List Entity) :=
  fun _ => ExceptT.mk fun state => (.ok state.1, state)

/-- An action, which leaves the entities. -/
def act (action : Action α) : InPlace α :=
  fun connection => ExceptT.mk fun state =>
    let ended := action.perform connection state.2
    (ended.1, state.1, ended.2)

/-- Writes every entity. -/
def write (f : Entity → Entity) : InPlace Unit :=
  fun _ => ExceptT.mk fun state => (.ok (), state.1.map f, state.2)

variable {steps : InPlace α} {connection : Connection} {state state' : List Entity × Session}

@[simp] theorem perform_entities (connection : Connection) (state : List Entity × Session) :
    entities.perform connection state = (.ok state.1, state) :=
  rfl

@[simp] theorem perform_act (action : Action α) (connection : Connection)
    (state : List Entity × Session) :
    (act action).perform connection state =
      ((action.perform connection state.2).1, state.1, (action.perform connection state.2).2) :=
  rfl

theorem perform_bind_ok {a : α} (f : α → InPlace β)
    (h : steps.perform connection state = (.ok a, state')) :
    (steps >>= f).perform connection state = (f a).perform connection state' := by
  unfold perform at h ⊢
  simp only [ReaderT.run_bind, ExceptT.run_bind, StateT.run_bind]
  rw [h]
  rfl

theorem perform_bind_error {e : Error} (f : α → InPlace β)
    (h : steps.perform connection state = (.error e, state')) :
    (steps >>= f).perform connection state = (.error e, state') := by
  unfold perform at h ⊢
  simp only [ReaderT.run_bind, ExceptT.run_bind, StateT.run_bind]
  rw [h]
  rfl

/-- The steps come to the same as an action on the session, and then writing its result; if the
action fails, nothing is written. -/
def Mirrors (steps : InPlace Unit) (action : Action β) (f : β → Entity → Entity)
    (connection : Connection) (parents : List Entity) : Prop :=
  ∀ session, steps.perform connection (parents, session) =
    match action.perform connection session with
    | (.ok b, session') => (.ok (), parents.map (f b), session')
    | (.error e, session') => (.error e, parents, session')

/-- An action may be taken before both. -/
theorem Mirrors.act_bind {rest : α → InPlace Unit} {further : α → Action β}
    {f : β → Entity → Entity} {parents : List Entity} (action : Action α)
    (h : ∀ a, Mirrors (rest a) (further a) f connection parents) :
    Mirrors (act action >>= rest) (action >>= further) f connection parents := by
  intro session
  cases hrun : action.perform connection session with
  | mk result session' =>
      have hact : (act action).perform connection (parents, session) =
          (result, parents, session') := by
        rw [perform_act, hrun]
      cases result with
      | ok a => rw [perform_bind_ok rest hact, Action.perform_bind_ok further hrun, h a session']
      | error e => rw [perform_bind_error rest hact, Action.perform_bind_error further hrun]

/-- Steps that succeed have written a result of the action. -/
theorem Mirrors.of_ok {action : Action β} {f : β → Entity → Entity} {parents : List Entity}
    {steps : InPlace Unit} {session : Session} (h : Mirrors steps action f connection parents)
    (hok : (steps.perform connection (parents, session)).1 = .ok ()) :
    ∃ b, (steps.leaves connection (parents, session)).1 = parents.map (f b) := by
  rw [leaves, h session]
  rw [h session] at hok
  cases hrun : action.perform connection session with
  | mk result session' =>
      cases result with
      | ok b => exact ⟨b, rfl⟩
      | error e =>
          rw [hrun] at hok
          exact nomatch hok

theorem mirrors_write (f : β → Entity → Entity) (b : β) (connection : Connection)
    (parents : List Entity) : Mirrors (write (f b)) (pure b) f connection parents :=
  fun _ => rfl

end InPlace

/-! ### The steps of a load -/

namespace Batch

/-- What a parent is given of some children, by its attributes. -/
def storedBy (b : Batch) (d : RelationDef) (children : List Entity) (row : Row) : Related :=
  d.shape (((row.get? b.parentColumn).bind Value.key?).bind fun key =>
    Keyed.find? key (d.groupByKey children))

/-- Stores a relation on an entity, by its attributes. -/
def storeOn (name : String) (related : Row → Related) (e : Entity) : Entity :=
  e.setRelated name (related e.attributes)

/-- The steps that find out what is stored on some parents. -/
def stored (fetch : Statement → Action (List Entity)) (context : Context) (name : String)
    (constraint : List Call) : List Entity → Action (Row → Related)
  | [] => return fun _ => .many []
  | parent :: rest => do
    let d ← Action.ofExcept (parent.modelClass.requireRelation name)
    let b ← Action.resolving (ofDef context name d)
    let children ← match b.queryFor? (parent :: rest) constraint with
      | none => pure []
      | some query => fetch query
    return b.storedBy d children

/-- The steps of a load, taken in place. -/
def loadInPlace (fetch : Statement → Action (List Entity)) (context : Context) (name : String)
    (constraint : List Call) : InPlace Unit := do
  match ← InPlace.entities with
  | [] => return
  | parent :: rest =>
    let d ← InPlace.act (Action.ofExcept (parent.modelClass.requireRelation name))
    let b ← InPlace.act (Action.resolving (ofDef context name d))
    let children ← match b.queryFor? (parent :: rest) constraint with
      | none => pure []
      | some query => InPlace.act (fetch query)
    InPlace.write (storeOn name (b.storedBy d children))

/-- **A load finds out what to store, and then stores it.** -/
theorem load_eq_map_stored (fetch : Statement → Action (List Entity)) (context : Context)
    (name : String) (constraint : List Call) (parents : List Entity) :
    load fetch context name constraint parents =
      (fun related => parents.map (storeOn name related)) <$>
        stored fetch context name constraint parents := by
  cases parents with
  | nil => rfl
  | cons parent rest =>
      unfold load stored
      simp only [map_eq_pure_bind, bind_assoc, pure_bind]
      congr 1
      funext d
      congr 1
      funext b
      cases b.queryFor? (parent :: rest) constraint with
      | none => rfl
      | some query =>
          simp only [bind_assoc, pure_bind]
          rfl

/-- In place, too, it stores what it found out, unless it fails. -/
theorem mirrors_loadInPlace (fetch : Statement → Action (List Entity)) (context : Context)
    (name : String) (constraint : List Call) (connection : Connection) (parents : List Entity) :
    InPlace.Mirrors (loadInPlace fetch context name constraint)
      (stored fetch context name constraint parents) (storeOn name) connection parents := by
  intro session
  rw [loadInPlace, InPlace.perform_bind_ok _ (InPlace.perform_entities connection _)]
  cases parents with
  | nil => rfl
  | cons parent rest =>
      refine InPlace.Mirrors.act_bind _ (fun d => ?_) session
      refine InPlace.Mirrors.act_bind _ fun b => ?_
      have hwrite : ∀ children, InPlace.Mirrors
          (InPlace.write (storeOn name (b.storedBy d children))) (pure (b.storedBy d children))
          (storeOn name) connection (parent :: rest) :=
        fun children => InPlace.mirrors_write _ _ _ _
      cases b.queryFor? (parent :: rest) constraint with
      | none => exact hwrite []
      | some query => exact InPlace.Mirrors.act_bind _ hwrite

end Batch

/-! ### The parents afterwards -/

namespace Entity

/-- Loads a relation onto parents of one class in their place, its query being constrained by
calls. -/
def loadInPlace (context : Context) (name : String) (constraint : List Call) : InPlace Unit :=
  Batch.loadInPlace (Statement.getWithin (Call.constraintDepthOf constraint + 1)) context name
    constraint

/-- What is stored on the parents by such a load. -/
def storedFor (context : Context) (name : String) (constraint : List Call)
    (parents : List Entity) : Action (Row → Related) :=
  Batch.stored (Statement.getWithin (Call.constraintDepthOf constraint + 1)) context name constraint
    parents

theorem mirrors_loadInPlace (context : Context) (name : String) (constraint : List Call)
    (connection : Connection) (parents : List Entity) :
    InPlace.Mirrors (loadInPlace context name constraint)
      (storedFor context name constraint parents) (Batch.storeOn name) connection parents :=
  Batch.mirrors_loadInPlace _ context name constraint connection parents

/-- **Loading in place leaves the loaded parents,** or the parents as they were, if it fails. -/
theorem perform_loadInPlace (context : Context) (name : String) (constraint : List Call)
    (connection : Connection) (parents : List Entity) (session : Session) :
    (loadInPlace context name constraint).perform connection (parents, session) =
      match (loadRelation context name constraint parents).perform connection session with
      | (.ok loaded, session') => (.ok (), loaded, session')
      | (.error e, session') => (.error e, parents, session') := by
  rw [mirrors_loadInPlace context name constraint connection parents session, loadRelation,
    Batch.load_eq_map_stored, ← storedFor]
  cases hstored : (storedFor context name constraint parents).perform connection session with
  | mk result session' =>
      cases result with
      | ok related => rw [Action.perform_map_ok _ hstored]
      | error e => rw [Action.perform_map_error _ hstored]

/-- The entities are the same but for one relation. -/
structure AgreeBut (name : String) (e e' : Entity) : Prop where
  modelClass : e'.modelClass = e.modelClass
  attributes : e'.attributes = e.attributes
  related : ∀ other ≠ name, e'.related? other = e.related? other

theorem agreeBut_storeOn (name : String) (related : Row → Related) (e : Entity) :
    AgreeBut name e (Batch.storeOn name related e) :=
  ⟨rfl, rfl, fun _ hother => Keyed.find?_insertSorted_of_ne hother _ _⟩

end Entity
end EntityQuery

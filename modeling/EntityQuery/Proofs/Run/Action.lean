/-
# Running actions

What an action gives and what it leaves of the session, one lemma for each way to
build one; and before that the same for the loading of classes, which changes the
registry alone.  `perform_bind_ok` and `perform_bind_error` run a sequence: its second
part starts from the session that the first part left, and is not run at all
after an error.

An action refuses (`Action.Refuses`) when it fails on every connection and leaves
every session as it was.  A request is recorded in the session when it is sent
(`perform_send`), so an action that refuses sends none; and a sequence refuses as
soon as its first part does (`Refuses.bind`).
-/

import EntityQuery.Session.Basic

namespace EntityQuery

namespace Resolving

variable {α β : Type} {loading : Resolving α} {registry registry' : Registry}

theorem run_bind_ok {a : α} (f : α → Resolving β) (h : loading.run registry = (.ok a, registry')) :
    (loading >>= f).run registry = (f a).run registry' := by
  have hrun : loading.run.run registry = _ := h
  change (loading >>= f).run.run registry = _
  rw [ExceptT.run_bind, StateT.run_bind, hrun]
  rfl

theorem run_bind_error {e : Error} (f : α → Resolving β)
    (h : loading.run registry = (.error e, registry')) :
    (loading >>= f).run registry = (.error e, registry') := by
  have hrun : loading.run.run registry = _ := h
  change (loading >>= f).run.run registry = _
  rw [ExceptT.run_bind, StateT.run_bind, hrun]
  rfl

theorem run_map (f : α → β) (loading : Resolving α) (registry : Registry) :
    (f <$> loading).run registry =
      ((loading.run registry).1.map f, (loading.run registry).2) := by
  cases h : loading.run registry with
  | mk result registry' =>
      cases result with
      | ok a =>
          rw [map_eq_pure_bind, run_bind_ok _ h]
          rfl
      | error e =>
          rw [map_eq_pure_bind, run_bind_error _ h]
          rfl

end Resolving

namespace Action

variable {α β : Type} {action : Action α} {connection : Connection} {session session' : Session}
variable {e : Error}

/-! ### Results -/

@[simp] theorem perform_pure (a : α) (connection : Connection) (session : Session) :
    (pure a : Action α).perform connection session = (.ok a, session) :=
  rfl

@[simp] theorem perform_ofExcept (result : Except Error α) (connection : Connection)
    (session : Session) :
    (ofExcept result).perform connection session = (result, session) :=
  rfl

@[simp] theorem perform_resolving (loading : Resolving α) (connection : Connection)
    (session : Session) :
    (resolving loading).perform connection session =
      ((loading.run session.registry).1,
        { session with registry := (loading.run session.registry).2 }) :=
  rfl

/-- What is sent is recorded, and the connection answers it by what was sent before. -/
@[simp] theorem perform_send (method : Method)
    (answer : Connection → List Request → String → List Value → Except Error α) (sql : String)
    (bindings : List Value) (connection : Connection) (session : Session) :
    (send method answer sql bindings).perform connection session =
      (answer connection session.requests sql bindings,
        { session with requests := session.requests ++ [⟨method, sql, bindings⟩] }) :=
  rfl

@[simp] theorem perform_note (entry : LogEntry) (connection : Connection) (session : Session) :
    (note entry).perform connection session =
      (.ok (), { session with log := session.log ++ [entry] }) :=
  rfl

/-! ### Sequences -/

theorem perform_bind_ok {a : α} (f : α → Action β)
    (h : action.perform connection session = (.ok a, session')) :
    (action >>= f).perform connection session = (f a).perform connection session' := by
  unfold perform at h ⊢
  simp only [ReaderT.run_bind, ExceptT.run_bind, StateT.run_bind]
  rw [h]
  rfl

theorem perform_bind_error (f : α → Action β)
    (h : action.perform connection session = (.error e, session')) :
    (action >>= f).perform connection session = (.error e, session') := by
  unfold perform at h ⊢
  simp only [ReaderT.run_bind, ExceptT.run_bind, StateT.run_bind]
  rw [h]
  rfl

/-- The error of a first part is the error of the sequence, whatever it leaves of the session. -/
theorem fst_perform_bind_error (f : α → Action β)
    (h : (action.perform connection session).1 = .error e) :
    ((action >>= f).perform connection session).1 = .error e := by
  have hpair : action.perform connection session =
      (.error e, (action.perform connection session).2) :=
    Prod.ext h rfl
  rw [perform_bind_error f hpair]

theorem perform_map_ok {a : α} (f : α → β)
    (h : action.perform connection session = (.ok a, session')) :
    (f <$> action).perform connection session = (.ok (f a), session') := by
  rw [map_eq_pure_bind, perform_bind_ok _ h]
  rfl

theorem perform_map_error (f : α → β)
    (h : action.perform connection session = (.error e, session')) :
    (f <$> action).perform connection session = (.error e, session') := by
  rw [map_eq_pure_bind]
  exact perform_bind_error _ h

/-! ### Refusal -/

/-- The action fails with an error on every connection, and leaves every session as it was. -/
def Refuses (action : Action α) (e : Error) : Prop :=
  ∀ connection session, action.perform connection session = (.error e, session)

theorem refuses_ofExcept (e : Error) : (ofExcept (.error e) : Action α).Refuses e :=
  fun _ _ => rfl

/-- **A sequence that fails at once sends nothing.** -/
theorem Refuses.bind (h : action.Refuses e) (f : α → Action β) : (action >>= f).Refuses e :=
  fun connection session => perform_bind_error f (h connection session)

theorem Refuses.map (h : action.Refuses e) (f : α → β) : (f <$> action).Refuses e :=
  fun connection session => perform_map_error f (h connection session)

end Action
end EntityQuery

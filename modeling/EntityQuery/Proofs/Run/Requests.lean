/-
# The requests of a run

Every use of a statement compiles it, logs it and sends it once, and what is then in
the session is known beforehand (`Statement.afterSending`).  So the requests that
counting and fetching send are the compiled texts (`perform_count`,
`perform_fetchRows`), whatever they are answered with.

What was sent stays sent: an action only adds requests to those of the session
(`Action.Adds`).  That holds for the parts from which all actions are made, so it
holds for the entities of a statement with all the relations that are loaded for
them (`adds_getWithin`).
-/

import EntityQuery.Proofs.Run.Refused

namespace EntityQuery

variable {α β : Type} {connection : Connection} {session session' : Session}

namespace Action

/-- A sequence that succeeds is a success of its first part and one of the second after it. -/
theorem perform_bind_eq_ok {action : Action α} {f : α → Action β} {b : β}
    (h : (action >>= f).perform connection session = (.ok b, session')) :
    ∃ a middle, action.perform connection session = (.ok a, middle) ∧
      (f a).perform connection middle = (.ok b, session') := by
  cases haction : action.perform connection session with
  | mk result middle =>
      cases result with
      | ok a =>
          rw [perform_bind_ok f haction] at h
          exact ⟨a, middle, rfl, h⟩
      | error e =>
          rw [perform_bind_error f haction] at h
          exact nomatch h

/-! ### Adding requests -/

/-- The action keeps the requests of the session and at most adds some. -/
def Adds (action : Action α) : Prop :=
  ∀ connection session, session.requests <+: (action.perform connection session).2.requests

theorem adds_ofExcept (result : Except Error α) : (ofExcept result).Adds :=
  fun _ _ => List.prefix_refl _

theorem adds_pure (a : α) : (pure a : Action α).Adds :=
  fun _ _ => List.prefix_refl _

theorem adds_resolving (loading : Resolving α) : (resolving loading).Adds :=
  fun _ _ => List.prefix_refl _

theorem adds_note (entry : LogEntry) : (note entry).Adds :=
  fun _ _ => List.prefix_refl _

theorem adds_fetchAll (sql : String) (bindings : List Value) : (fetchAll sql bindings).Adds :=
  fun _ _ => List.prefix_append _ _

theorem Adds.bind {action : Action α} {f : α → Action β} (h : action.Adds)
    (hf : ∀ a, (f a).Adds) : (action >>= f).Adds := by
  intro connection session
  cases haction : action.perform connection session with
  | mk result middle =>
      have hfirst := h connection session
      rw [haction] at hfirst
      cases result with
      | ok a =>
          rw [perform_bind_ok f haction]
          exact hfirst.trans (hf a connection middle)
      | error e =>
          rw [perform_bind_error f haction]
          exact hfirst

end Action

namespace Statement

open EntityQuery.Action

variable {s : Statement} {query : Compiled}

/-! ### One statement -/

/-- The session once the compiled statement was logged and sent. -/
def afterSending (s : Statement) (method : Method) (query : Compiled) (session : Session) :
    Session :=
  { session with
    log := session.log ++ [s.logEntry query]
    requests := session.requests ++ [⟨method, query.sql, query.bindings⟩] }

/-- A query that compiled is logged and sent. -/
theorem perform_dispatch {compiled : Except Error Compiled} (h : compiled = .ok query)
    (send : String → List Value → Action α) :
    (s.dispatch compiled send).perform connection session =
      (send query.sql query.bindings).perform connection
        { session with log := session.log ++ [s.logEntry query] } := by
  rw [dispatch, h, perform_bind_ok _ (perform_ofExcept _ _ _),
    perform_bind_ok _ (perform_note _ _ _)]

/-- A statement that compiles is sent once, and answered by what was sent before. -/
theorem perform_fetchRows (h : s.compile = .ok query) :
    s.fetchRows.perform connection session =
      (connection.fetchAll session.requests query.sql query.bindings,
        s.afterSending .fetchAll query session) :=
  perform_dispatch h _

/-- Decoding the rows sends nothing more. -/
theorem snd_perform_fetchAllAs (α : Type) [FromRow α] :
    ((s.fetchAllAs α).perform connection session).2 =
      (s.fetchRows.perform connection session).2 := by
  rw [fetchAllAs]
  cases hrows : s.fetchRows.perform connection session with
  | mk result session' =>
      cases result with
      | ok rows => rw [perform_bind_ok _ hrows, perform_ofExcept]
      | error e => rw [perform_bind_error _ hrows]

/-- Entities are the rows, of the model class. -/
theorem perform_fetchEntities {c : ModelClass} (hmodel : s.modelClass = some c) :
    s.fetchEntities.perform connection session =
      ((s.fetchRows.perform connection session).1.map (List.map (Entity.ofRow c)),
        (s.fetchRows.perform connection session).2) := by
  rw [fetchEntities, requireModel, hmodel, perform_bind_ok _ (perform_ofExcept _ _ _)]
  cases hrows : s.fetchRows.perform connection session with
  | mk result session' =>
      cases result with
      | ok rows =>
          rw [perform_bind_ok _ hrows]
          rfl
      | error e =>
          rw [perform_bind_error _ hrows]
          rfl

/-- Counting sends the counting query, and reads the number in its answer. -/
theorem perform_count (h : s.compileCount = .ok query) :
    s.count.perform connection session =
      ((connection.fetchOne session.requests query.sql query.bindings).bind countOf,
        s.afterSending .fetchOne query session) := by
  have hrow : (s.dispatch s.compileCount fetchOne).perform connection session =
      (connection.fetchOne session.requests query.sql query.bindings,
        s.afterSending .fetchOne query session) :=
    perform_dispatch h _
  rw [count]
  cases hanswer : connection.fetchOne session.requests query.sql query.bindings with
  | ok row =>
      rw [hanswer] at hrow
      rw [perform_bind_ok _ hrow]
      rfl
  | error e =>
      rw [hanswer] at hrow
      rw [perform_bind_error _ hrow]
      rfl

/-- If rows were counted, their counting query was sent. -/
theorem compileCount_of_perform {total : Nat}
    (h : s.count.perform connection session = (.ok total, session')) :
    ∃ counted, s.compileCount = .ok counted ∧
      session' = s.afterSending .fetchOne counted session := by
  cases hcounted : s.compileCount with
  | error e =>
      have hrefuses : s.count.Refuses e := (dispatch_refuses _ hcounted).bind _
      rw [hrefuses connection session] at h
      exact nomatch h
  | ok counted =>
      rw [perform_count hcounted] at h
      exact ⟨counted, rfl, (congrArg Prod.snd h).symm⟩

/-! ### With relations -/

/-- Without relations to load, getting entities is fetching them. -/
theorem perform_getWithin_of_noRelations (h : s.eager = []) (depth : Nat) :
    (getWithin depth s).perform connection session = s.fetchEntities.perform connection session := by
  cases depth with
  | zero => rfl
  | succ depth =>
      rw [getWithin, h]
      cases hentities : s.fetchEntities.perform connection session with
      | mk result session' =>
          cases result with
          | ok entities => rw [perform_bind_ok _ hentities, loadAll, perform_pure]
          | error e => rw [perform_bind_error _ hentities]

theorem adds_fetchRows (s : Statement) : s.fetchRows.Adds :=
  (adds_ofExcept _).bind fun _ => (adds_note _).bind fun _ => adds_fetchAll _ _

theorem adds_fetchEntities (s : Statement) : s.fetchEntities.Adds :=
  (adds_ofExcept _).bind fun _ => (adds_fetchRows s).bind fun _ => adds_pure _

theorem adds_loadAll {fetch : Statement → Action (List Entity)} (hfetch : ∀ t, (fetch t).Adds)
    (s : Statement) (names : List String) (entities : List Entity) :
    (loadAll fetch s names entities).Adds := by
  induction names generalizing entities with
  | nil => exact adds_pure entities
  | cons name rest ih =>
      refine Adds.bind ?_ fun _ => ih _
      cases entities with
      | nil => exact adds_pure []
      | cons parent others =>
          refine (adds_ofExcept _).bind fun d => (adds_resolving _).bind fun b => ?_
          dsimp only
          split
          · exact (adds_pure []).bind fun _ => adds_pure _
          · exact (hfetch _).bind fun _ => adds_pure _

/-- **Getting entities only adds requests.** -/
theorem adds_getWithin (depth : Nat) (s : Statement) : (getWithin depth s).Adds := by
  induction depth generalizing s with
  | zero => exact adds_fetchEntities s
  | succ depth ih => exact (adds_fetchEntities s).bind fun _ => adds_loadAll ih s _ _

/-- Getting entities starts with the query of the statement. -/
theorem prefix_requests_getWithin {c : ModelClass} (hmodel : s.modelClass = some c)
    (h : s.compile = .ok query) (depth : Nat) :
    session.requests ++ [⟨.fetchAll, query.sql, query.bindings⟩] <+:
      ((getWithin depth s).perform connection session).2.requests := by
  have hentities : s.fetchEntities.perform connection session = _ := perform_fetchEntities hmodel
  rw [perform_fetchRows h] at hentities
  cases depth with
  | zero =>
      rw [getWithin, hentities]
      exact List.prefix_refl _
  | succ depth =>
      rw [getWithin]
      cases hrows : connection.fetchAll session.requests query.sql query.bindings with
      | ok rows =>
          rw [hrows] at hentities
          rw [perform_bind_ok _ hentities]
          exact adds_loadAll (adds_getWithin depth) s _ _ connection
            (s.afterSending .fetchAll query session)
      | error e =>
          rw [hrows] at hentities
          rw [perform_bind_error _ hentities]
          exact List.prefix_refl _

/-- Nothing is sent for a statement that does not compile. -/
theorem getWithin_refuses_of_compile {c : ModelClass} {e : Error} (hmodel : s.modelClass = some c)
    (h : s.compile = .error e) (depth : Nat) : (getWithin depth s).Refuses e := by
  have hrows : s.fetchRows.Refuses e := dispatch_refuses _ h
  have hentities : s.fetchEntities.Refuses e := by
    intro connection session
    rw [perform_fetchEntities hmodel, hrows connection session]
    rfl
  cases depth with
  | zero => exact hentities
  | succ depth => exact hentities.bind _

end Statement
end EntityQuery

/-
# Loads that end alike

A load reads more than its parents: a connection may answer by what was asked before,
and the loader of a registry, which the application brings along, may find a class by
what was loaded before.  If the connection answers each query always the same way
(`Connection.AnswersAlike`), and a name leads to the same class whatever was resolved in
between (`Context.ResolvesAlike`), then neither is of any effect: getting entities with
their relations ends alike whenever it is done (`endsAlike_getWithin`), and so does
finding out what a load stores (`endsAlike_storedFor`).

A registry without a loader resolves alike, since a request does not change it, and so
does one whose classes are registered under their own names.

Ending alike is put together like an action is (`Action.EndsAlike.bind`), so the proof
follows the recursion of the load: relations of relations to a depth, the relations of
one statement in their order, and the steps of one load.
-/

import EntityQuery.Proofs.Registered.History
import EntityQuery.Proofs.Related.Bounded
import EntityQuery.Proofs.Related.InPlace

namespace EntityQuery

/-- The connection answers each query always the same way. -/
def Connection.AnswersAlike (connection : Connection) : Prop :=
  ∀ before before' sql bindings,
    connection.fetchAll before sql bindings = connection.fetchAll before' sql bindings

namespace Context

/-- The registries that resolving names leads to. -/
inductive Reaches (context : Context) (registry : Registry) : Registry → Prop
  | start : Reaches context registry registry
  | resolve {r : Registry} (h : Reaches context registry r) (input : String) :
    Reaches context registry ((context.resolve input).run r).2

/-- Whatever was resolved before, a name leads to the class that it led to at first, or again to
none. -/
def ResolvesAlike (context : Context) (registry : Registry) : Prop :=
  ∀ r, context.Reaches registry r → ∀ input,
    ((context.resolve input).run r).1.toOption =
      ((context.resolve input).run registry).1.toOption

theorem resolve_of_some {context : Context} {input name : String}
    (h : context.resolver.target? input = some name) (r : Registry) :
    (context.resolve input).run r = r.loadModel input name := by
  change context.resolver.resolve input r = _
  rw [Resolver.resolve, h]

theorem resolve_of_none {context : Context} {input : String}
    (h : context.resolver.target? input = none) (r : Registry) :
    (context.resolve input).run r = (.error (Resolver.unresolved input), r) := by
  change context.resolver.resolve input r = _
  rw [Resolver.resolve, h]

/-- **A registry without a loader resolves alike.** -/
theorem resolvesAlike_of_no_loader (context : Context) {registry : Registry}
    (h : registry.loader = none) : context.ResolvesAlike registry := by
  have hkept : ∀ input name, (registry.loadModel input name).2 = registry := by
    intro input name
    unfold Registry.loadModel Registry.loadWithin
    cases registry.state name <;> simp only [h]
  have hsame : ∀ r, context.Reaches registry r → r = registry := by
    intro r hr
    induction hr with
    | start => rfl
    | resolve _ input ih =>
        rw [ih]
        cases htarget : context.resolver.target? input with
        | some name => rw [resolve_of_some htarget, hkept]
        | none => rw [resolve_of_none htarget]
  intro r hr input
  rw [hsame r hr]

/-- **Classes that are registered under their own names resolve alike.** -/
theorem resolvesAlike_of_ownNames (context : Context) {registrations : List (String × ClassInfo)}
    (h : ∀ entry ∈ registrations, entry.2.name = entry.1) :
    context.ResolvesAlike { loader := some (.ofRegistrations registrations) } := by
  have hrequests : ∀ r, context.Reaches { loader := some (.ofRegistrations registrations) } r →
      ∃ requests, r = Registry.afterRequests registrations requests := by
    intro r hr
    induction hr with
    | start => exact ⟨[], rfl⟩
    | resolve _ input ih =>
        obtain ⟨requests, rfl⟩ := ih
        cases htarget : context.resolver.target? input with
        | some name =>
            refine ⟨requests ++ [(input, name)], ?_⟩
            rw [resolve_of_some htarget, Registry.afterRequests, Registry.afterRequests,
              List.map_append, Registry.callAll, Registry.callAll, List.foldl_append]
            rfl
        | none => exact ⟨requests, by rw [resolve_of_none htarget]⟩
  have houtcome : ∀ answer : Except Error ModelClass,
      answer.toOption = (Registry.outcome answer).toOption := by
    intro answer
    cases answer <;> rfl
  intro r hr input
  obtain ⟨requests, rfl⟩ := hrequests r hr
  cases htarget : context.resolver.target? input with
  | some name =>
      have hagrees := Registry.agrees_of_ownNames h name
      rw [resolve_of_some htarget, resolve_of_some htarget, houtcome, houtcome,
        Registry.outcome_of_agrees hagrees requests]
      exact congrArg Except.toOption (Registry.outcome_of_agrees hagrees [] input).symm
  | none => rw [resolve_of_none htarget, resolve_of_none htarget]

end Context

variable {α β : Type} {connection : Connection} {context : Context} {registry : Registry}

namespace Action

/-- Whatever was resolved and asked before, the action gives the same, or always fails. -/
def EndsAlike (action : Action α) (connection : Connection) (context : Context)
    (registry : Registry) : Prop :=
  ∃ result : Option α, ∀ session : Session, context.Reaches registry session.registry →
    (action.perform connection session).1.toOption = result ∧
      context.Reaches registry (action.perform connection session).2.registry

variable {action : Action α}

/-- An action that depends on nothing and resolves nothing ends alike. -/
theorem endsAlike_of_fixed {result : Except Error α}
    (h : ∀ session, (action.perform connection session).1 = result ∧
      (action.perform connection session).2.registry = session.registry) :
    action.EndsAlike connection context registry := by
  refine ⟨result.toOption, fun session hsession => ?_⟩
  rw [(h session).1, (h session).2]
  exact ⟨rfl, hsession⟩

theorem endsAlike_pure (a : α) : (pure a : Action α).EndsAlike connection context registry :=
  endsAlike_of_fixed fun _ => ⟨rfl, rfl⟩

theorem endsAlike_ofExcept (result : Except Error α) :
    (ofExcept result).EndsAlike connection context registry :=
  endsAlike_of_fixed fun _ => ⟨rfl, rfl⟩

theorem endsAlike_note (entry : LogEntry) : (note entry).EndsAlike connection context registry :=
  endsAlike_of_fixed fun _ => ⟨rfl, rfl⟩

theorem endsAlike_fetchAll (h : connection.AnswersAlike) (sql : String) (bindings : List Value) :
    (fetchAll sql bindings).EndsAlike connection context registry :=
  endsAlike_of_fixed fun session => ⟨h session.requests [] sql bindings, rfl⟩

theorem Refuses.endsAlike {e : Error} (h : action.Refuses e) :
    action.EndsAlike connection context registry :=
  endsAlike_of_fixed fun session => by rw [h connection session]; exact ⟨rfl, rfl⟩

theorem endsAlike_resolve (h : context.ResolvesAlike registry) (input : String) :
    (resolving (context.resolve input)).EndsAlike connection context registry :=
  ⟨_, fun session hsession => ⟨h session.registry hsession input, hsession.resolve input⟩⟩

/-- **A sequence ends alike if its parts do.**  The second part has to only for what the first part
gives. -/
theorem EndsAlike.bind {f : α → Action β} (h : action.EndsAlike connection context registry)
    (hf : ∀ a session session', action.perform connection session = (.ok a, session') →
      (f a).EndsAlike connection context registry) :
    (action >>= f).EndsAlike connection context registry := by
  obtain ⟨result, hresult⟩ := h
  cases result with
  | none =>
      refine ⟨none, fun session hsession => ?_⟩
      obtain ⟨hnone, hreaches⟩ := hresult session hsession
      cases hrun : action.perform connection session with
      | mk ended session' =>
          rw [hrun] at hnone hreaches
          cases ended with
          | ok a => exact nomatch hnone
          | error e =>
              rw [perform_bind_error f hrun]
              exact ⟨rfl, hreaches⟩
  | some a =>
      have hok : ∀ session : Session, context.Reaches registry session.registry →
          ∃ session', action.perform connection session = (.ok a, session') ∧
            context.Reaches registry session'.registry := by
        intro session hsession
        obtain ⟨hsome, hreaches⟩ := hresult session hsession
        cases hrun : action.perform connection session with
        | mk ended session' =>
            rw [hrun] at hsome hreaches
            cases ended with
            | ok a' =>
                obtain rfl : a' = a := Option.some.inj hsome
                exact ⟨session', rfl, hreaches⟩
            | error e => exact nomatch hsome
      obtain ⟨first, hfirst, -⟩ := hok { registry := registry } .start
      obtain ⟨result', hresult'⟩ := hf a _ _ hfirst
      refine ⟨result', fun session hsession => ?_⟩
      obtain ⟨session', hrun, hreaches⟩ := hok session hsession
      rw [perform_bind_ok f hrun]
      exact hresult' session' hreaches

/-- Loading one class after another. -/
theorem resolving_bind (loading : Resolving α) (f : α → Resolving β) :
    resolving (loading >>= f) = resolving loading >>= fun a => resolving (f a) := by
  have hperform : ∀ connection session, (resolving (loading >>= f)).perform connection session =
      (resolving loading >>= fun a => resolving (f a)).perform connection session := by
    intro connection session
    have hloading : (resolving loading).perform connection session = _ := perform_resolving ..
    rw [perform_resolving]
    cases hrun : loading.run session.registry with
    | mk result registry' =>
        rw [hrun] at hloading
        cases result with
        | ok a => rw [Resolving.run_bind_ok f hrun, perform_bind_ok _ hloading, perform_resolving]
        | error e => rw [Resolving.run_bind_error f hrun, perform_bind_error _ hloading]
  exact funext fun connection => funext fun session => hperform connection session

/-- The classes of a batch are found alike. -/
theorem endsAlike_ofDef (h : context.ResolvesAlike registry) (name : String) (d : RelationDef) :
    (resolving (Batch.ofDef context name d)).EndsAlike connection context registry := by
  have hpure : ∀ b : Batch, (resolving (pure b)).EndsAlike connection context registry :=
    fun b => endsAlike_pure b
  have hone : ∀ input (f : ModelClass → Resolving Batch),
      (∀ c, (resolving (f c)).EndsAlike connection context registry) →
        (resolving (context.resolve input >>= f)).EndsAlike connection context registry := by
    intro input f hf
    rw [resolving_bind]
    exact (endsAlike_resolve h input).bind fun c _ _ _ => hf c
  cases d with
  | hasOneThrough => exact hone _ _ fun _ => hone _ _ fun _ => hpure _
  | _ => exact hone _ _ fun _ => hpure _

end Action

/-! ### Loads -/

namespace Batch

open EntityQuery.Action

variable {fetch : Statement → Action (List Entity)}

/-- The SELECT of a batch is built in the context of the load. -/
theorem context_of_ofDef {name : String} {d : RelationDef} {b : Batch}
    {registry' : Registry} (h : (ofDef context name d).run registry = (.ok b, registry')) :
    b.source.context = context := by
  obtain ⟨link, hlink, rfl⟩ := run_ofDef_eq_ok h
  have hsource : link.source.context = context := by
    rcases Link.source_of_ofDef hlink with heq | ⟨_, _, _, heq⟩ <;> rw [heq] <;> rfl
  cases htag : d.tag? with
  | none => rw [← hsource]; rfl
  | some label => rw [← hsource]; rfl

theorem context_of_queryFor? {b : Batch} {parents : List Entity} {constraint : List Call}
    {query : Statement} (h : b.queryFor? parents constraint = some query)
    (haccepted : query.buildError = none) : query.context = b.source.context := by
  rw [queryFor?] at h
  split at h
  · exact nomatch h
  · obtain rfl := Option.some.inj h
    have hin := (Statement.inList_of_accepted (Statement.accepted_of_applyAll haccepted)).2.2.2
    rw [Statement.context_applyAll haccepted, Batch.query, hin]
    rfl

/-- What a load stores is found alike, if the children are. -/
theorem endsAlike_stored (hresolves : context.ResolvesAlike registry)
    (hfetch : ∀ s : Statement, (s.buildError = none → s.context = context) →
      (fetch s).EndsAlike connection context registry)
    (name : String) (constraint : List Call) (parents : List Entity) :
    (stored fetch context name constraint parents).EndsAlike connection context registry := by
  cases parents with
  | nil => exact endsAlike_pure _
  | cons parent rest =>
      refine (endsAlike_ofExcept _).bind fun d _ _ _ =>
        (endsAlike_ofDef hresolves name d).bind fun b session session' hb => ?_
      rw [perform_resolving] at hb
      obtain ⟨hb, -⟩ := Prod.mk.inj hb
      have hbatch := context_of_ofDef (Prod.ext hb rfl)
      dsimp only
      cases hquery : b.queryFor? (parent :: rest) constraint with
      | none => exact (endsAlike_pure _).bind fun _ _ _ _ => endsAlike_pure _
      | some query =>
          refine (hfetch query fun haccepted => ?_).bind fun _ _ _ _ => endsAlike_pure _
          rw [context_of_queryFor? hquery haccepted, hbatch]

end Batch

namespace Statement

open EntityQuery.Action

variable {s : Statement} {fetch : Statement → Action (List Entity)}

theorem endsAlike_fetchEntities (h : connection.AnswersAlike) (s : Statement) :
    s.fetchEntities.EndsAlike connection context registry := by
  refine (endsAlike_ofExcept _).bind fun c _ _ _ => EndsAlike.bind ?_ fun _ _ _ _ =>
    endsAlike_pure _
  exact (endsAlike_ofExcept _).bind fun query _ _ _ =>
    (endsAlike_note _).bind fun _ _ _ _ => endsAlike_fetchAll h query.sql query.bindings

theorem endsAlike_loadAll (hresolves : s.context.ResolvesAlike registry)
    (hfetch : ∀ t : Statement, (t.buildError = none → t.context = s.context) →
      (fetch t).EndsAlike connection s.context registry)
    (names : List String) (entities : List Entity) :
    (loadAll fetch s names entities).EndsAlike connection s.context registry := by
  induction names generalizing entities with
  | nil => exact endsAlike_pure entities
  | cons name rest ih =>
      rw [loadAll, Batch.load_eq_map_stored, map_eq_pure_bind]
      exact ((Batch.endsAlike_stored hresolves hfetch _ _ _).bind fun _ _ _ _ =>
        endsAlike_pure _).bind fun _ _ _ _ => ih _

/-- **Getting entities with their relations ends alike,** to whatever depth. -/
theorem endsAlike_getWithin (hanswers : connection.AnswersAlike)
    (hresolves : context.ResolvesAlike registry) (depth : Nat)
    (hs : s.buildError = none → s.context = context) :
    (getWithin depth s).EndsAlike connection context registry := by
  induction depth generalizing s with
  | zero => exact endsAlike_fetchEntities hanswers s
  | succ depth ih =>
      cases herror : s.buildError with
      | some e =>
          obtain ⟨f, hrefuses⟩ := getWithin_refuses herror (depth + 1)
          exact hrefuses.endsAlike
      | none =>
          obtain rfl := hs herror
          exact (endsAlike_fetchEntities hanswers s).bind fun entities _ _ _ =>
            endsAlike_loadAll hresolves (fun t ht => ih ht) s.eager entities

end Statement

/-- **What a load stores is always the same.** -/
theorem Entity.endsAlike_storedFor (hanswers : connection.AnswersAlike)
    (hresolves : context.ResolvesAlike registry) (name : String) (constraint : List Call)
    (parents : List Entity) :
    (storedFor context name constraint parents).EndsAlike connection context registry :=
  Batch.endsAlike_stored hresolves
    (fun _ hs => Statement.endsAlike_getWithin hanswers hresolves _ hs) name constraint parents

end EntityQuery

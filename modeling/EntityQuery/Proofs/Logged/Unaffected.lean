/-
# What is logged changes nothing

A statement is logged when it is sent.  The log is only written, so two sessions that
differ in the texts of their logs run alike (`Action.Alike`): they get the same
answers, send the same requests and load the same classes.  That holds for the parts
of an action and for sequences of them, and for statements under two limits it is
then a matter of going through the ways to use them (`runsAlike_logging`).

`logged_within_limit` joins this with `Text.logged?_some`: what is logged is the text
up to the last whole character within the limit, and what is sent is the text.
-/

import EntityQuery.Proofs.Logged.Boundaries
import EntityQuery.Proofs.Logged.Relogged
import EntityQuery.Proofs.Run.Requests

namespace EntityQuery

/-! ### Sessions and actions -/

/-- What is logged besides the text. -/
def LogEntry.subject (entry : LogEntry) : Kind × String × Nat :=
  (entry.kind, entry.table, entry.parameters)

/-- Two sessions differ at most in the texts that were logged. -/
structure Session.Alike (session other : Session) : Prop where
  registry : session.registry = other.registry
  requests : session.requests = other.requests
  log : session.log.map LogEntry.subject = other.log.map LogEntry.subject

namespace Action

variable {α β : Type} {action other : Action α}

/-- Two actions run alike: from sessions that differ in logged texts they come to the same result
and to sessions that differ in logged texts. -/
def Alike (action other : Action α) : Prop :=
  ∀ connection {session session' : Session}, session.Alike session' →
    (action.perform connection session).1 = (other.perform connection session').1 ∧
      (action.perform connection session).2.Alike (other.perform connection session').2

theorem alike_pure (a : α) : (pure a : Action α).Alike (pure a) :=
  fun _ _ _ h => ⟨rfl, h⟩

theorem alike_ofExcept (result : Except Error α) : (ofExcept result).Alike (ofExcept result) :=
  fun _ _ _ h => ⟨rfl, h⟩

theorem alike_note {entry entry' : LogEntry} (hsubject : entry.subject = entry'.subject) :
    (note entry).Alike (note entry') :=
  fun _ _ _ h => ⟨rfl, h.registry, h.requests, by
    rw [perform_note, perform_note, List.map_append, List.map_append, h.log, List.map_singleton,
      List.map_singleton, hsubject]⟩

/-- The answer depends on the requests alone. -/
theorem alike_send (method : Method)
    (answer : Connection → List Request → String → List Value → Except Error α) (sql : String)
    (bindings : List Value) :
    (send method answer sql bindings).Alike (send method answer sql bindings) := by
  intro connection session session' h
  rw [perform_send, perform_send, h.requests]
  exact ⟨rfl, h.registry, rfl, h.log⟩

theorem alike_resolving (loading : Resolving α) :
    (resolving loading).Alike (resolving loading) := by
  intro connection session session' h
  rw [perform_resolving, perform_resolving, h.registry]
  exact ⟨rfl, rfl, h.requests, h.log⟩

/-- Sequences run alike if their second parts do for what the first parts give. -/
theorem Alike.bind {f g : α → Action β} (h : action.Alike other) (hf : ∀ a, (f a).Alike (g a)) :
    (action >>= f).Alike (other >>= g) := by
  intro connection session session' hsession
  obtain ⟨hresult, hleft⟩ := h connection hsession
  cases hfirst : action.perform connection session with
  | mk result middle =>
      cases hother : other.perform connection session' with
      | mk result' middle' =>
          rw [hfirst, hother] at hresult hleft
          dsimp only at hresult hleft
          subst hresult
          cases result with
          | ok a =>
              rw [perform_bind_ok f hfirst, perform_bind_ok g hother]
              exact hf a connection hleft
          | error e =>
              rw [perform_bind_error f hfirst, perform_bind_error g hother]
              exact ⟨rfl, hleft⟩

theorem Alike.map (h : action.Alike other) (f : α → β) : (f <$> action).Alike (f <$> other) := by
  rw [map_eq_pure_bind, map_eq_pure_bind]
  exact h.bind fun a => alike_pure (f a)

theorem ofExcept_map (f : α → β) (result : Except Error α) :
    ofExcept (result.map f) = f <$> ofExcept result := by
  cases result with
  | ok a => rfl
  | error e => rfl

theorem resolving_map (f : α → β) (loading : Resolving α) :
    resolving (f <$> loading) = f <$> resolving loading := by
  funext connection session
  change (resolving (f <$> loading)).perform connection session =
    (f <$> resolving loading).perform connection session
  rw [perform_resolving, Resolving.run_map]
  cases hrun : loading.run session.registry with
  | mk result registry =>
      have hperform : (resolving loading).perform connection session =
          (result, { session with registry := registry }) := by
        rw [perform_resolving, hrun]
      cases result with
      | ok a => exact (perform_map_ok f hperform).symm
      | error e => exact (perform_map_error f hperform).symm

end Action

/-! ### Relations -/

section

variable {limit : Option Nat}

/-- The batch of the same definition, its query under another limit. -/
def Batch.logging (limit : Option Nat) (b : Batch) : Batch :=
  { b with source := b.source.logging limit }

theorem Batch.ofDef_logging (context : Context) (relation : String) (d : RelationDef) :
    ofDef (context.logging limit) relation d = logging limit <$> ofDef context relation d := by
  cases d with
  | hasOneThrough related through firstKey secondKey localKey secondLocalKey =>
      rw [ofDef, ofDef, map_bind]
      refine bind_congr fun related => ?_
      rw [map_bind]
      refine bind_congr fun through => ?_
      rw [map_pure]
      rfl
  | _ =>
      rw [ofDef, ofDef, map_bind]
      refine bind_congr fun related => ?_
      rw [map_pure]
      rfl

theorem Batch.queryFor?_logging (b : Batch) (parents : List Entity) (constraint : List Call) :
    (b.logging limit).queryFor? parents constraint =
      (b.queryFor? parents constraint).map (Statement.logging limit) := by
  unfold queryFor?
  dsimp only [logging]
  split
  · rfl
  · rw [query, query, Statement.inList_logging, Statement.applyAll_logging]
    rfl

/-- A relation is loaded alike if its query is fetched alike. -/
theorem Batch.alike_load {fetch : Statement → Action (List Entity)}
    (hfetch : ∀ s : Statement, (fetch (s.logging limit)).Alike (fetch s)) (context : Context)
    (name : String) (constraint : List Call) (parents : List Entity) :
    (load fetch (context.logging limit) name constraint parents).Alike
      (load fetch context name constraint parents) := by
  cases parents with
  | nil => exact Action.alike_pure []
  | cons parent rest =>
      refine (Action.alike_ofExcept _).bind fun d => ?_
      rw [ofDef_logging, Action.resolving_map, bind_map_left]
      refine (Action.alike_resolving _).bind fun b => ?_
      dsimp only
      rw [queryFor?_logging]
      cases b.queryFor? (parent :: rest) constraint with
      | none => exact (Action.alike_pure []).bind fun _ => Action.alike_pure _
      | some query => exact (hfetch query).bind fun _ => Action.alike_pure _

end

namespace Statement

open EntityQuery.Action

variable {α : Type} {limit : Option Nat}

/-! ### One statement -/

/-- **What is sent does not depend on what is logged.** -/
theorem alike_dispatch {send : String → List Value → Action α}
    (hsend : ∀ sql bindings, (send sql bindings).Alike (send sql bindings)) (s : Statement)
    (compiled : Except Error Compiled) :
    ((s.logging limit).dispatch compiled send).Alike (s.dispatch compiled send) :=
  (alike_ofExcept compiled).bind fun query =>
    Alike.bind (alike_note rfl) fun _ => hsend query.sql query.bindings

theorem alike_execute (s : Statement) : (s.logging limit).execute.Alike s.execute :=
  alike_dispatch (alike_send .execute Connection.execute) s s.compile

theorem alike_fetchRows (s : Statement) : (s.logging limit).fetchRows.Alike s.fetchRows :=
  alike_dispatch (alike_send .fetchAll Connection.fetchAll) s s.compile

theorem alike_fetchFirstRow (s : Statement) :
    (s.logging limit).fetchFirstRow.Alike s.fetchFirstRow :=
  alike_dispatch (alike_send .fetchOne Connection.fetchOne) (s.limit 1) (s.limit 1).compile

theorem alike_fetchAllAs (α : Type) [FromRow α] (s : Statement) :
    ((s.logging limit).fetchAllAs α).Alike (s.fetchAllAs α) :=
  (alike_fetchRows s).bind fun _ => alike_ofExcept _

theorem alike_fetchOneAs (α : Type) [FromRow α] (s : Statement) :
    ((s.logging limit).fetchOneAs α).Alike (s.fetchOneAs α) := by
  refine (alike_fetchFirstRow s).bind fun row => ?_
  cases row with
  | none => exact alike_pure none
  | some row => exact (alike_ofExcept _).map some

/-! ### Entities -/

theorem alike_fetchEntities (s : Statement) :
    (s.logging limit).fetchEntities.Alike s.fetchEntities :=
  (alike_ofExcept s.requireModel).bind fun c =>
    (alike_fetchRows s).bind fun rows => alike_pure (rows.map (Entity.ofRow c))

theorem alike_loadAll {fetch : Statement → Action (List Entity)}
    (hfetch : ∀ s : Statement, (fetch (s.logging limit)).Alike (fetch s)) (s : Statement)
    (names : List String) (entities : List Entity) :
    (loadAll fetch (s.logging limit) names entities).Alike (loadAll fetch s names entities) := by
  induction names generalizing entities with
  | nil => exact alike_pure entities
  | cons name rest ih =>
      exact (Batch.alike_load hfetch s.context name (s.constraintOn name) entities).bind ih

/-- **Relations within relations are loaded alike.** -/
theorem alike_getWithin (depth : Nat) (s : Statement) :
    (getWithin depth (s.logging limit)).Alike (getWithin depth s) := by
  induction depth generalizing s with
  | zero => exact alike_fetchEntities s
  | succ depth ih => exact (alike_fetchEntities s).bind fun _ => alike_loadAll ih s s.eager _

theorem alike_get (s : Statement) : (s.logging limit).get.Alike s.get :=
  alike_getWithin s.eagerDepth s

theorem alike_first (s : Statement) : (s.logging limit).first.Alike s.first :=
  (alike_get (s.limit 1)).map List.head?

theorem alike_firstOrFail (s : Statement) : (s.logging limit).firstOrFail.Alike s.firstOrFail := by
  refine (alike_first s).bind fun found => ?_
  cases found with
  | none => exact alike_ofExcept (.error _)
  | some e => exact alike_pure e

/-! ### Numbers and pages -/

theorem alike_count (s : Statement) : (s.logging limit).count.Alike s.count :=
  (alike_dispatch (alike_send .fetchOne Connection.fetchOne) s s.compileCount).bind fun row =>
    alike_ofExcept (countOf row)

theorem alike_hasRows (s : Statement) : (s.logging limit).hasRows.Alike s.hasRows :=
  (alike_count s).map _

theorem alike_paginateWith {fetch : Statement → Action (List α)}
    (hfetch : ∀ s : Statement, (fetch (s.logging limit)).Alike (fetch s)) (s : Statement)
    (page : Nat) (perPage : Option Nat) :
    (paginateWith fetch (s.logging limit) page perPage).Alike
      (paginateWith fetch s page perPage) :=
  (alike_count s).bind fun total =>
    (hfetch (s.onPage (s.pageOf total page perPage))).bind fun _ => alike_pure _

theorem alike_search (α : Type) [FromRow α] (s : Statement) (columns : List String)
    (term : String) (page : Nat) (perPage : Option Nat) :
    ((s.logging limit).search α columns term page perPage).Alike
      (s.search α columns term page perPage) := by
  rw [search, search, searchFilter_logging, ofExcept_map, bind_map_left]
  exact (alike_ofExcept _).bind fun filtered =>
    alike_paginateWith (alike_fetchAllAs α) filtered page perPage

/-! ### Every use -/

/-- Every use of two statements runs alike, on every connection. -/
structure RunsAlike (s t : Statement) : Prop where
  execute : s.execute.Alike t.execute
  fetchRows : s.fetchRows.Alike t.fetchRows
  fetchFirstRow : s.fetchFirstRow.Alike t.fetchFirstRow
  fetchAllAs : ∀ (α : Type) [FromRow α], (s.fetchAllAs α).Alike (t.fetchAllAs α)
  fetchOneAs : ∀ (α : Type) [FromRow α], (s.fetchOneAs α).Alike (t.fetchOneAs α)
  get : s.get.Alike t.get
  first : s.first.Alike t.first
  firstOrFail : s.firstOrFail.Alike t.firstOrFail
  count : s.count.Alike t.count
  hasRows : s.hasRows.Alike t.hasRows
  paginate : ∀ (α : Type) [FromRow α] (page : Nat) (perPage : Option Nat),
    (s.paginate α page perPage).Alike (t.paginate α page perPage)
  paginateEntities : ∀ (page : Nat) (perPage : Option Nat),
    (s.paginateEntities page perPage).Alike (t.paginateEntities page perPage)
  search : ∀ (α : Type) [FromRow α] (columns : List String) (term : String) (page : Nat)
    (perPage : Option Nat),
    (s.search α columns term page perPage).Alike (t.search α columns term page perPage)

/-- **The limit of the log affects no use of a statement.** -/
theorem runsAlike_logging (s : Statement) : (s.logging limit).RunsAlike s where
  execute := alike_execute s
  fetchRows := alike_fetchRows s
  fetchFirstRow := alike_fetchFirstRow s
  fetchAllAs α := alike_fetchAllAs α s
  fetchOneAs α := alike_fetchOneAs α s
  get := alike_get s
  first := alike_first s
  firstOrFail := alike_firstOrFail s
  count := alike_count s
  hasRows := alike_hasRows s
  paginate α := alike_paginateWith (alike_fetchAllAs α) s
  paginateEntities := alike_paginateWith alike_get s
  search α := alike_search α s

/-- **What is logged of a statement, and what is sent.**  For every text and every limit the search
for a place to cut ends at a boundary, and shortening has a result.  What is logged is the whole
text if there is no limit or the text is within it, and else the longest beginning of the text in
whole characters within the limit, and three dots.  What is sent is the whole text; under another
limit every use of the statement comes to the same result and sends the same requests, and the same
calls build the same statement. -/
theorem logged_within_limit (s : Statement) (query : Compiled) (limit : Option Nat) :
    let logged := ((s.logging limit).logEntry query).sql
    (∀ n, Text.isBoundary (Text.utf8 query.sql) (Text.boundaryFrom (Text.utf8 query.sql) n) =
      true) ∧
    Text.logged? limit query.sql = some logged ∧
    (limit = none → logged = query.sql) ∧
    (∀ n, limit = some n → (Text.utf8 query.sql).length ≤ n → logged = query.sql) ∧
    (∀ n, limit = some n → n < (Text.utf8 query.sql).length →
      ∃ kept : String, logged = kept ++ "..." ∧ kept.toList <+: query.sql.toList ∧
        (Text.utf8 kept).length ≤ n ∧
        ∀ other : String, other.toList <+: query.sql.toList → (Text.utf8 other).length ≤ n →
          other.toList <+: kept.toList) ∧
    (∀ (α : Type) (send : String → List Value → Action α) (connection : Connection)
      (session : Session),
      ((s.logging limit).dispatch (.ok query) send).perform connection session =
        (send query.sql query.bindings).perform connection
          { session with log := session.log ++ [(s.logging limit).logEntry query] }) ∧
    (s.logging limit).RunsAlike s ∧
    ∀ context calls, build (context.logging limit) calls = (build context calls).logging limit := by
  intro logged
  refine ⟨Text.isBoundary_boundaryFrom _, ?_, ?_, ?_, ?_, fun α send connection session => ?_,
    runsAlike_logging s, fun context calls => applyAll_logging (new context) calls⟩
  · cases limit with
    | none => rfl
    | some n => exact Text.logged?_some n query.sql
  · rintro rfl
    rfl
  · rintro n rfl hfits
    exact Text.shorten_of_le hfits
  · rintro n rfl hlong
    exact Text.exists_shorten_of_lt hlong
  · exact perform_dispatch rfl send

end Statement
end EntityQuery

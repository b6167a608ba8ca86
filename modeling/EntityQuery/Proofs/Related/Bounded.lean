/-
# How many queries loading relations takes

The entities of a statement are fetched by its own query.  Then every relation that was
asked for takes at most one more, for all entities together: none if there are no
entities, or none of them has a key that could be looked for, and otherwise the query of
the batch, constrained by what was asked for last (`AsksFor`).

`load_eq_ok` says so of one relation and `loadAll_eq_ok` of all of them, one after the
other.  Loading a relation changes neither the class nor the attributes of an entity
(`AreOf`), so the keys that are looked for are always those of the rows, and what was
loaded before stays loaded.

The query of a batch loads no relations of its own, as long as its constraint asks for
none; so that it is sent is all that happens (`getWithin_alone`).
-/

import EntityQuery.Proofs.Related.Loading
import EntityQuery.Proofs.Related.Requested
import EntityQuery.Proofs.Run.Requests

namespace EntityQuery

/-! ### Loaded relations -/

namespace Entity

theorem isLoaded_setRelated_self (e : Entity) (name : String) (related : Related) :
    (e.setRelated name related).isLoaded name = true := by
  rw [isLoaded, related?_setRelated_self]
  rfl

/-- What was loaded before stays loaded. -/
theorem isLoaded_setRelated {e : Entity} {other : String} (h : e.isLoaded other = true)
    (name : String) (related : Related) : (e.setRelated name related).isLoaded other = true := by
  by_cases hname : other = name
  · rw [hname, isLoaded_setRelated_self]
  · rw [isLoaded, related?, setRelated, Keyed.find?_insertSorted_of_ne hname]
    exact h

/-- The entities are those of some rows, in order, whatever was loaded for them. -/
def AreOf (c : ModelClass) (entities : List Entity) (rows : List Row) : Prop :=
  List.Forall₂ (fun e row => e.modelClass = c ∧ e.attributes = row) entities rows

variable {c : ModelClass} {entities : List Entity} {rows : List Row}

theorem areOf_map_ofRow (c : ModelClass) (rows : List Row) :
    AreOf c (rows.map (ofRow c)) rows := by
  induction rows with
  | nil => exact .nil
  | cons row rows ih => exact .cons ⟨rfl, rfl⟩ ih

theorem AreOf.map_setRelated (h : AreOf c entities rows) (name : String)
    (related : Entity → Related) :
    AreOf c (entities.map fun e => e.setRelated name (related e)) rows := by
  induction h with
  | nil => exact .nil
  | cons he _ ih => exact .cons he ih

/-- The keys that are looked for are those of the rows. -/
theorem AreOf.distinctKeys (h : AreOf c entities rows) (column : String) :
    distinctKeys column entities = distinctKeys column (rows.map (ofRow c)) := by
  unfold Entity.distinctKeys
  generalize ([] : List String) = seen
  induction h generalizing seen with
  | nil => rfl
  | @cons e row _ _ he _ ih =>
      have hget : e.get? column = (ofRow c row).get? column := by
        rw [get?, he.2]
        rfl
      simp only [List.map_cons, distinctKeysFrom, hget, ih]

end Entity

/-! ### One relation -/

variable {context : Context} {c : ModelClass} {name : String} {connection : Connection}
variable {session session' : Session} {rows : List Row} {constraint : List Call}

/-- Whether a row has a key in a column. -/
def Row.hasKey (row : Row) (column : String) : Bool :=
  ((row.get? column).bind Value.key?).isSome

/-- What a relation of a class takes for all entities of some rows: no request, or one. -/
inductive AsksFor (context : Context) (c : ModelClass) (rows : List Row) (constraint : List Call)
    (name : String) : Option Request → Prop
  /-- There are no entities to load it for. -/
  | noRows (h : rows = []) : AsksFor context c rows constraint name none
  /-- None of them has a key. -/
  | noKeys {link : Link} {registry registry' : Registry}
    (hlink : (Link.ofClass context c name).run registry = (.ok link, registry'))
    (hkeys : ∀ row ∈ rows, row.hasKey link.parentColumn = false) :
    AsksFor context c rows constraint name none
  /-- The query of the batch for their keys, with the constraint. -/
  | batch {d : RelationDef} {link : Link} {registry registry' : Registry} {query : Compiled}
    (hd : c.relation? name = some d)
    (hlink : (Link.ofClass context c name).run registry = (.ok link, registry'))
    (hkeys : ∃ row ∈ rows, row.hasKey link.parentColumn = true)
    (hquery : ((link.batchQuery d.tag? (Entity.distinctKeys link.parentColumn
      (rows.map (Entity.ofRow c)))).applyAll constraint).compile = .ok query) :
    AsksFor context c rows constraint name (some ⟨.fetchAll, query.sql, query.bindings⟩)

/-- There are keys to look for if a row has one. -/
theorem distinctKeys_eq_nil_iff {column : String} :
    Entity.distinctKeys column (rows.map (Entity.ofRow c)) = [] ↔
      ∀ row ∈ rows, row.hasKey column = false := by
  constructor
  · intro h row hrow
    have hnone := Entity.matchKey?_of_noKeys h (List.mem_map_of_mem hrow)
    rw [Row.hasKey, Option.isSome_eq_false_iff, Option.isNone_iff_eq_none]
    exact hnone
  · intro h
    unfold Entity.distinctKeys
    induction rows with
    | nil => rfl
    | cons row rows ih =>
        have hrest := ih fun other hother => h other (List.mem_cons_of_mem row hother)
        have hrow := h row List.mem_cons_self
        rw [Row.hasKey, Option.isSome_eq_false_iff, Option.isNone_iff_eq_none] at hrow
        have hget : (Entity.ofRow c row).get? column = row.get? column := rfl
        rw [List.map_cons, Entity.distinctKeysFrom, hget]
        cases hv : row.get? column with
        | none => exact hrest
        | some v =>
            rw [hv, Option.bind_some] at hrow
            simpa only [hrow] using hrest

namespace Statement

variable {s t : Statement} {entities : List Entity} {depth : Nat}

/-- Entities that were fetched are the rows with which the query was answered. -/
theorem fetchEntities_eq_ok
    (h : s.fetchEntities.perform connection session = (.ok entities, session')) :
    ∃ c query rows, s.modelClass = some c ∧ s.compile = .ok query ∧
      connection.fetchAll session.requests query.sql query.bindings = .ok rows ∧
      entities = rows.map (Entity.ofRow c) ∧ session' = s.afterSending .fetchAll query session := by
  cases hmodel : s.modelClass with
  | none =>
      have hrefuses : s.fetchEntities.Refuses (.argument (.noModel s.table)) := by
        rw [fetchEntities, requireModel, hmodel]
        exact (Action.refuses_ofExcept _).bind _
      rw [hrefuses connection session] at h
      cases h
  | some c =>
      rw [perform_fetchEntities hmodel] at h
      cases hcompile : s.compile with
      | error e =>
          have hrefuses : s.fetchRows.Refuses e := dispatch_refuses _ hcompile
          rw [hrefuses connection session] at h
          cases h
      | ok query =>
          rw [perform_fetchRows hcompile] at h
          cases hrows : connection.fetchAll session.requests query.sql query.bindings with
          | error e =>
              rw [hrows] at h
              cases h
          | ok rows =>
              rw [hrows] at h
              obtain ⟨hentities, hsession⟩ := Prod.mk.inj h
              exact ⟨c, query, rows, rfl, rfl, hrows, (Except.ok.inj hentities).symm, hsession.symm⟩

/-- **A statement that asks for no relations sends its own query and no other.** -/
theorem getWithin_alone (heager : t.buildError = none → t.eager = [])
    (h : (getWithin depth t).perform connection session = (.ok entities, session')) :
    ∃ query, t.compile = .ok query ∧
      session'.requests = session.requests ++ [⟨.fetchAll, query.sql, query.bindings⟩] := by
  cases herror : t.buildError with
  | some e =>
      obtain ⟨f, hrefuses⟩ := getWithin_refuses herror depth
      rw [hrefuses connection session] at h
      exact nomatch h
  | none =>
      rw [perform_getWithin_of_noRelations (heager herror)] at h
      obtain ⟨c, query, rows, -, hcompile, -, -, rfl⟩ := fetchEntities_eq_ok h
      exact ⟨query, hcompile, rfl⟩

end Statement

/-- The query of a batch with a constraint that asks for no relations asks for none. -/
theorem Link.eager_batchQuery {link : Link} {d : RelationDef} (hlink : link.Reads d)
    {keys : List Value} (hplain : ∀ call ∈ constraint, Family.eager ∉ call.families)
    (h : ((link.batchQuery d.tag? keys).applyAll constraint).buildError = none) :
    ((link.batchQuery d.tag? keys).applyAll constraint).eager = [] := by
  rw [Statement.eager_of_noRelations hplain h]
  exact (batchQuery_of_accepted hlink (Statement.accepted_of_applyAll h)).2

/-- What a batch is when its classes are found. -/
theorem Batch.run_ofDef_eq_ok {d : RelationDef} {b : Batch} {registry registry' : Registry}
    (h : (Batch.ofDef context name d).run registry = (.ok b, registry')) :
    ∃ link, (Link.ofDef context (d.relatedName name) d).run registry = (.ok link, registry') ∧
      b = link.toBatch d.tag? := by
  rw [Batch.ofDef_eq, Resolving.run_map] at h
  cases hlink : (Link.ofDef context (d.relatedName name) d).run registry with
  | mk result registry₁ =>
      rw [hlink] at h
      cases result with
      | error e => exact nomatch h
      | ok link =>
          obtain ⟨hb, rfl⟩ := Prod.mk.inj h
          exact ⟨link, rfl, (Except.ok.inj hb).symm⟩

open Entity in
/-- **Loading a relation takes at most one request.**  The entities keep their rows, and the
relation is stored on each of them. -/
theorem Batch.load_eq_ok {parents loaded : List Entity} {depth : Nat}
    (hparents : AreOf c parents rows) (hplain : ∀ call ∈ constraint, Family.eager ∉ call.families)
    (h : (Batch.load (Statement.getWithin depth) context name constraint parents).perform
      connection session = (.ok loaded, session')) :
    ∃ asked, AsksFor context c rows constraint name asked ∧
      session'.requests = session.requests ++ asked.toList ∧
      ∃ related : Entity → Related,
        loaded = parents.map fun parent => parent.setRelated name (related parent) := by
  have hkeysOf := hparents.distinctKeys
  cases hparents with
  | nil =>
      obtain ⟨hloaded, rfl⟩ := Prod.mk.inj h
      exact ⟨none, .noRows rfl, (List.append_nil _).symm, fun _ => .one none,
        (Except.ok.inj hloaded).symm⟩
  | @cons parent row parents rows hparent hrest =>
      obtain ⟨d, middle, hd, h⟩ := Action.perform_bind_eq_ok h
      obtain ⟨b, middle', hb, h⟩ := Action.perform_bind_eq_ok h
      rw [Action.perform_ofExcept] at hd
      rw [Action.perform_resolving] at hb
      obtain ⟨hfound, rfl⟩ := Prod.mk.inj hd
      obtain ⟨hbatch, rfl⟩ := Prod.mk.inj hb
      rw [hparent.1] at hfound
      have hrelation := ModelClass.relation?_of_requireRelation hfound
      obtain ⟨link, hlink, rfl⟩ := Batch.run_ofDef_eq_ok (Prod.ext hbatch rfl)
      have hreads := Link.reads_of_ofDef hlink
      rw [← Link.ofClass_of_some hrelation] at hlink
      have hquery : (link.toBatch d.tag?).queryFor? (parent :: parents) constraint =
          if (distinctKeys link.parentColumn ((row :: rows).map (ofRow c))).isEmpty then none
          else some ((link.batchQuery d.tag? (distinctKeys link.parentColumn
            ((row :: rows).map (ofRow c)))).applyAll constraint) := by
        rw [← hkeysOf]
        rfl
      dsimp only at h
      rw [hquery] at h
      by_cases hkeys : distinctKeys link.parentColumn ((row :: rows).map (ofRow c)) = []
      · rw [if_pos (List.isEmpty_iff.2 hkeys)] at h
        obtain ⟨hloaded, rfl⟩ := Prod.mk.inj h
        exact ⟨none, .noKeys hlink (distinctKeys_eq_nil_iff.1 hkeys), (List.append_nil _).symm, _,
          (Except.ok.inj hloaded).symm⟩
      · rw [if_neg fun hempty => hkeys (List.isEmpty_iff.1 hempty)] at h
        obtain ⟨children, final, hchildren, h⟩ := Action.perform_bind_eq_ok h
        obtain ⟨query, hcompile, hrequests⟩ :=
          Statement.getWithin_alone (Link.eager_batchQuery hreads hplain) hchildren
        obtain ⟨hloaded, rfl⟩ := Prod.mk.inj h
        refine ⟨_, .batch hrelation hlink ?_ hcompile, hrequests, _, (Except.ok.inj hloaded).symm⟩
        by_contra hnone
        refine hkeys (distinctKeys_eq_nil_iff.2 fun row' hrow' => ?_)
        exact Bool.eq_false_iff.2 fun hkey => hnone ⟨row', hrow', hkey⟩

/-! ### All relations -/

namespace Statement

open Entity

variable {s : Statement} {entities loaded : List Entity} {names : List String} {depth : Nat}

/-- **Loading relations takes at most one request for each,** in their order. -/
theorem loadAll_eq_ok (hentities : AreOf c entities rows)
    (hplain : ∀ name, ∀ call ∈ s.constraintOn name, Family.eager ∉ call.families)
    (h : (loadAll (getWithin depth) s names entities).perform connection session =
      (.ok loaded, session')) :
    ∃ asked : List (Option Request),
      List.Forall₂ (fun name => AsksFor s.context c rows (s.constraintOn name) name) names asked ∧
        session'.requests = session.requests ++ asked.flatMap Option.toList ∧
        AreOf c loaded rows ∧
        ∀ name, name ∈ names ∨ (∀ e ∈ entities, e.isLoaded name = true) →
          ∀ e ∈ loaded, e.isLoaded name = true := by
  induction names generalizing entities session with
  | nil =>
      obtain ⟨hloaded, rfl⟩ := Prod.mk.inj h
      obtain rfl := Except.ok.inj hloaded
      exact ⟨[], .nil, (List.append_nil _).symm, hentities,
        fun name hname => hname.resolve_left List.not_mem_nil⟩
  | cons first names ih =>
      obtain ⟨parents, middle, hfirst, hrest⟩ := Action.perform_bind_eq_ok h
      obtain ⟨asked₁, hasks, hrequests, related, rfl⟩ :=
        Batch.load_eq_ok hentities (hplain first) hfirst
      obtain ⟨asked, hall, hrequests', hloaded, hkept⟩ :=
        ih (hentities.map_setRelated first related) hrest
      refine ⟨asked₁ :: asked, .cons hasks hall, ?_, hloaded, fun name hname => hkept name ?_⟩
      · rw [hrequests', hrequests, List.flatMap_cons, List.append_assoc]
      · by_cases hlater : name ∈ names
        · exact .inl hlater
        · refine .inr fun e he => ?_
          obtain ⟨parent, hparent, rfl⟩ := List.mem_map.1 he
          rcases hname with hname | hname
          · rcases List.mem_cons.1 hname with rfl | hname
            · exact isLoaded_setRelated_self _ _ _
            · exact absurd hname hlater
          · exact isLoaded_setRelated (hname parent hparent) _ _

/-- A constraint of calls is one of theirs. -/
theorem mem_of_mem_lastConstraint {calls : List Call} {call : Call}
    (h : call ∈ lastConstraint calls name) :
    ∃ given inner, Call.withConstraint given inner ∈ calls ∧ call ∈ inner := by
  unfold lastConstraint at h
  cases hlast : calls.reverse.findSome? (Call.constraintOn? name) with
  | none =>
      rw [hlast] at h
      exact absurd h List.not_mem_nil
  | some inner =>
      rw [hlast] at h
      obtain ⟨c, hc, hinner⟩ := List.exists_of_findSome?_eq_some hlast
      cases c with
      | withConstraint given calls' =>
          rw [Call.constraintOn?] at hinner
          split at hinner
          · exact ⟨given, calls', List.mem_reverse.1 hc, Option.some.inj hinner ▸ h⟩
          · cases hinner
      | _ => cases hinner

/-- **Queries for relations are bounded.**  A statement with a model class is built by calls whose
constraints on relations ask for no further ones.  If its entities are got, its own query was sent
first, and then for each relation asked for, in the order of first request, at most one query, for
the keys of all entities and with the last constraint on the relation: none if there is no entity,
or none with a key.  The entities are the fetched rows in order, and each has all relations asked
for. -/
theorem get_sends_bounded {context : Context} {calls : List Call} {entities : List Entity}
    (hmodel : (build context calls).modelClass = some c)
    (hplain : ∀ given inner, Call.withConstraint given inner ∈ calls →
      ∀ call ∈ inner, Family.eager ∉ call.families)
    (hget : (build context calls).get.perform connection session = (.ok entities, session')) :
    ∃ (query : Compiled) (rows : List Row) (asked : List (Option Request)),
      (build context calls).compile = .ok query ∧
        connection.fetchAll session.requests query.sql query.bindings = .ok rows ∧
        session'.requests = session.requests ++
          ⟨.fetchAll, query.sql, query.bindings⟩ :: asked.flatMap Option.toList ∧
        (askedRelations calls).Nodup ∧
        List.Forall₂ (fun name => AsksFor context c rows (lastConstraint calls name) name)
          (askedRelations calls) asked ∧
        AreOf c entities rows ∧
        ∀ e ∈ entities, ∀ name ∈ askedRelations calls, e.isLoaded name = true := by
  obtain ⟨fetched, middle, hfetched, hload⟩ := Action.perform_bind_eq_ok hget
  obtain ⟨c', query, rows, hmodel', hcompile, hrows, rfl, rfl⟩ := fetchEntities_eq_ok hfetched
  obtain rfl : c' = c := Option.some.inj (hmodel'.symm.trans hmodel)
  have haccepted := (compile_of_ok hcompile).1
  have hcontext : (build context calls).context = context := context_applyAll haccepted
  have hlast : ∀ name, (build context calls).constraintOn name = lastConstraint calls name :=
    fun name => constraintOn_build haccepted
  rw [eager_build haccepted] at hload
  obtain ⟨asked, hall, hrequests, hentities, hloaded⟩ :=
    loadAll_eq_ok (areOf_map_ofRow c' rows) (fun name call hcall => by
      rw [hlast] at hcall
      obtain ⟨given, inner, hgiven, hinner⟩ := mem_of_mem_lastConstraint hcall
      exact hplain given inner hgiven call hinner) hload
  rw [hcontext] at hall
  simp only [hlast] at hall
  refine ⟨query, rows, asked, hcompile, hrows, ?_, nodup_askedRelations calls, hall, hentities,
    fun e he name hname => hloaded name (.inl hname) e he⟩
  rw [hrequests, List.append_cons]
  rfl

/-- Users with their posts, which are asked for more than once. -/
def repeatedCalls : List Call :=
  [.model userClass, .withRelations [" posts ", "", "posts"],
    .withConstraint "posts" [.compare .and "title" "=" (.text "x")],
    .withConstraint " posts" [.orderBy "id" "desc"]]

/-- A database with three users, one of them without an id, and the posts of `postsConnection`. -/
def usersConnection : Connection where
  driver := .ok "mysql"
  execute _ _ _ := .ok 0
  fetchOne _ _ _ := .ok none
  fetchAll history sql bindings :=
    if bindings.isEmpty then .ok [⟨[("id", .int 1)]⟩, ⟨[("id", .null)]⟩, ⟨[("id", .int 2)]⟩]
    else postsConnection.fetchAll history sql bindings

set_option maxRecDepth 20000 in
theorem get_sends_bounded_repeated :
    ∃ (entities : List Entity) (session : Session),
      (build {} repeatedCalls).get.perform usersConnection postsSession = (.ok entities, session) ∧
        session.requests.map Request.sql =
          ["SELECT * FROM users",
            "SELECT * FROM posts WHERE \x60user_id\x60 IN (?, ?) ORDER BY \x60id\x60 DESC"] ∧
        (entities.map fun e => (e.relatedMany "posts").filterMap fun post => post.get? "id") =
          [[.int 7, .int 9], [], [.int 8]] ∧
        ∀ e ∈ entities, ∀ name ∈ askedRelations repeatedCalls, e.isLoaded name = true := by
  have hmodel : (build {} repeatedCalls).modelClass = some userClass := rfl
  have hplain : ∀ given inner, Call.withConstraint given inner ∈ repeatedCalls →
      ∀ call ∈ inner, Family.eager ∉ call.families := by
    intro given inner hgiven call hcall
    simp only [repeatedCalls, List.mem_cons, List.not_mem_nil, or_false, reduceCtorEq, false_or,
      Call.withConstraint.injEq] at hgiven
    rcases hgiven with ⟨-, rfl⟩ | ⟨-, rfl⟩
    · rw [List.mem_singleton.1 hcall]
      decide
    · rw [List.mem_singleton.1 hcall]
      decide
  have hget : (build {} repeatedCalls).get.perform usersConnection postsSession =
      (.ok _, _) := rfl
  obtain ⟨-, -, -, -, -, -, -, -, -, hloaded⟩ := get_sends_bounded hmodel hplain hget
  exact ⟨_, _, hget, rfl, rfl, hloaded⟩

end Statement
end EntityQuery

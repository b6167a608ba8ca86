/-
# Rows are matched with parents by their keys

A relation was loaded for parents of one class.  Then nothing was lost, doubled or given
to a wrong parent: one query was sent, whose IN list is made of the keys of the parents
(`Entity.FirstSeen`), or none if there is no key.  Each parent holds the rows that
came back with its key, in the order in which they came, and without the tag
(`loaded_matches_keys`).

The query may be constrained by calls that add clauses.  They cannot take its IN list
away (`Statement.AsksAmong`), and what they leave out of the SELECT list is missing
from the rows, so that the parents are given nothing rather than something else.
-/

import EntityQuery.Proofs.Related.Bounded
import EntityQuery.Proofs.Related.Constrained
import EntityQuery.Proofs.Related.FirstSeen

namespace EntityQuery

variable {context : Context} {c : ModelClass} {name : String} {d : RelationDef} {link : Link}
variable {connection : Connection} {session session' : Session} {constraint : List Call}

/-! ### Rows without their tag -/

/-- With distinct keys, removing one is leaving out its entry. -/
theorem Keyed.erase_eq_filter {α : Type} {key : String} {entries : List (String × α)}
    (h : (keys entries).Nodup) :
    erase key entries = entries.filter fun entry => entry.1 != key := by
  induction entries with
  | nil => rfl
  | cons entry rest ih =>
      obtain ⟨k, v⟩ := entry
      obtain ⟨hnew, hrest⟩ := List.nodup_cons.1 h
      by_cases hk : k = key
      · subst hk
        have hkept : (rest.filter fun entry => entry.1 != k) = rest := by
          refine List.filter_eq_self.2 fun entry hentry => bne_iff_ne.2 fun heq => hnew ?_
          exact List.mem_map.2 ⟨entry, hentry, heq⟩
        rw [erase, if_pos rfl, List.filter_cons_of_neg (by simp), hkept]
      · rw [erase, if_neg hk, List.filter_cons_of_pos (by simpa using hk), ih hrest]

/-- A row without its tag has its other columns, in order. -/
theorem Link.fields_untagRow {tag : Option String} {row : Row} (h : row.columns.Nodup) :
    (untagRow tag row).fields = row.fields.filter fun field => some field.1 != tag := by
  cases tag with
  | none => exact (List.filter_eq_self.2 fun _ _ => rfl).symm
  | some label =>
      rw [untagRow, Row.erase, Keyed.erase_eq_filter h]
      exact List.filter_congr fun field _ => by simp [bne, Option.some_beq_some]

/-! ### The query that was sent -/

/-- The query of a statement asks for the rows whose column is among some keys: the IN list stands
right behind WHERE, and the keys are bound to it. -/
structure Statement.AsksAmong (s : Statement) (column : String) (keys : List Value)
    (query : Compiled) : Prop where
  compile : s.compile = .ok query
  sql : ∃ opening ∈ ["", "("], ∃ tail, query.sql = s.headSql ++ opening ++
    (s.quoting.column (Text.trim column) ++ " IN (" ++ placeholders keys.length ++ ")") ++ tail
  bindings : ∃ after,
    query.bindings = s.bindings.get .select ++ s.bindings.get .join ++ keys ++ after

/-- The SELECT of a batch has no conditions before the keys are asked for. -/
theorem Link.batchSource_of_ofDef {related : String} {registry registry' : Registry}
    (hlink : (Link.ofDef context related d).run registry = (.ok link, registry'))
    (tag : Option String) :
    (link.batchSource tag).kind = .select ∧ (link.batchSource tag).conditions = [] ∧
      (link.batchSource tag).bindings.get .whereTree = [] := by
  rcases Link.source_of_ofDef hlink with heq | ⟨_, _, _, heq⟩ <;>
    cases tag <;> rw [batchSource, heq] <;> exact ⟨rfl, rfl, rfl⟩

/-- The IN list is its first condition, and the keys are the first values. -/
theorem Link.leads_batchQuery {related : String} {registry registry' : Registry}
    (hlink : (Link.ofDef context related d).run registry = (.ok link, registry'))
    {tag : Option String} {keys : List Value}
    (haccepted : (link.batchQuery tag keys).buildError = none) :
    (link.batchQuery tag keys).kind = .select ∧ (link.batchQuery tag keys).Leads
      (.list .and ⟨Text.trim link.matchColumn, false⟩ false keys.length) keys := by
  obtain ⟨hkind, hconditions, hvalues⟩ := batchSource_of_ofDef hlink tag
  have hin := (Statement.inList_of_accepted haccepted).2.2.2
  rw [batchQuery, hin]
  refine ⟨hkind, ⟨[], ?_⟩, [], ?_⟩
  · rw [Statement.addCondition, hconditions, List.nil_append]
  · rw [Statement.addCondition, Bindings.extend, Bindings.get_set_self, hvalues,
      List.nil_append, List.append_nil]

/-- The query of a batch asks for its keys, whatever clauses are added to it. -/
theorem Link.asksAmong_batchQuery {related : String} {registry registry' : Registry}
    (hlink : (Link.ofDef context related d).run registry = (.ok link, registry'))
    (hcalls : ∀ call ∈ constraint, call.addsClauses = true) {tag : Option String}
    {keys : List Value} {query : Compiled}
    (h : ((link.batchQuery tag keys).applyAll constraint).compile = .ok query) :
    ((link.batchQuery tag keys).applyAll constraint).AsksAmong link.matchColumn keys query := by
  have haccepted := (Statement.compile_of_ok h).1
  obtain ⟨hkind, hleads⟩ := leads_batchQuery hlink (Statement.accepted_of_applyAll haccepted)
  have hall := hleads.applyAll (fun _ _ _ _ => rfl) hcalls haccepted
  have hselect : ((link.batchQuery tag keys).applyAll constraint).kind = .select :=
    (Statement.kept_applyAll_of_addsClauses hcalls _).2.1.trans hkind
  obtain ⟨hsql, hbindings⟩ := Statement.compile_of_select hselect h
  refine ⟨h, ?_, ?_⟩
  · obtain ⟨opening, hopening, tail, htext⟩ := hall.exists_sql
    rw [hsql, htext, Condition.sql, ColumnRef.sql, if_neg Bool.false_ne_true,
      if_neg Bool.false_ne_true]
    exact ⟨opening, hopening, tail, rfl⟩
  · rw [hbindings]
    exact hall.exists_values

/-! ### What was loaded -/

/-- The parts of a load: the link of the relation, the children that were fetched for the keys of
the parents, and the parents with their groups of them. -/
theorem Batch.children_of_load {fetch : Statement → Action (List Entity)}
    {parents loaded : List Entity} (hne : parents ≠ [])
    (hclass : ∀ parent ∈ parents, parent.modelClass = c) (hd : c.relation? name = some d)
    (h : (load fetch context name constraint parents).perform connection session =
      (.ok loaded, session')) :
    ∃ link registry children,
      (Link.ofClass context c name).run session.registry = (.ok link, registry) ∧
      (let keys := Entity.distinctKeys link.parentColumn parents
       if keys = [] then children = [] ∧ session' = { session with registry := registry }
       else (fetch ((link.batchQuery d.tag? keys).applyAll constraint)).perform connection
         { session with registry := registry } = (.ok children, session')) ∧
      loaded = (link.toBatch d.tag?).attach d name parents (d.groupByKey children) := by
  cases parents with
  | nil => exact absurd rfl hne
  | cons parent rest =>
      rw [load, hclass parent List.mem_cons_self, ModelClass.requireRelation_of_some hd,
        Action.perform_bind_ok _ (Action.perform_ofExcept _ _ _)] at h
      obtain ⟨b, middle, hresolving, h⟩ := Action.perform_bind_eq_ok h
      rw [Action.perform_resolving] at hresolving
      obtain ⟨hbatch, rfl⟩ := Prod.mk.inj hresolving
      obtain ⟨link, hlink, rfl⟩ := run_ofDef_eq_ok (Prod.ext hbatch rfl)
      rw [← Link.ofClass_of_some hd] at hlink
      refine ⟨link, ((ofDef context name d).run session.registry).2, ?_⟩
      unfold queryFor? at h
      by_cases hkeys : Entity.distinctKeys link.parentColumn (parent :: rest) = []
      · have hempty : (Entity.distinctKeys (link.toBatch d.tag?).parentColumn
            (parent :: rest)).isEmpty = true := List.isEmpty_iff.2 hkeys
        rw [if_pos hempty] at h
        obtain ⟨hloaded, rfl⟩ := Prod.mk.inj h
        exact ⟨[], hlink, by rw [if_pos hkeys]; exact ⟨rfl, rfl⟩, (Except.ok.inj hloaded).symm⟩
      · have hempty : ¬(Entity.distinctKeys (link.toBatch d.tag?).parentColumn
            (parent :: rest)).isEmpty = true := fun hempty => hkeys (List.isEmpty_iff.1 hempty)
        rw [if_neg hempty] at h
        obtain ⟨children, final, hchildren, h⟩ := Action.perform_bind_eq_ok h
        obtain ⟨hloaded, rfl⟩ := Prod.mk.inj h
        exact ⟨children, hlink, by rw [if_neg hkeys]; exact hchildren,
          (Except.ok.inj hloaded).symm⟩

/-- The children of a batch are the rows that answer the one query for them. -/
theorem Link.rows_of_batchQuery {related : String} {registry registry' : Registry}
    (hlink : (Link.ofDef context related d).run registry = (.ok link, registry'))
    (hcalls : ∀ call ∈ constraint, call.addsClauses = true) {keys : List Value} {depth : Nat}
    {children : List Entity}
    (h : (Statement.getWithin depth ((link.batchQuery d.tag? keys).applyAll constraint)).perform
      connection session = (.ok children, session')) :
    ∃ query rows,
      ((link.batchQuery d.tag? keys).applyAll constraint).AsksAmong link.matchColumn keys query ∧
        session'.requests = session.requests ++ [⟨.fetchAll, query.sql, query.bindings⟩] ∧
        connection.fetchAll session.requests query.sql query.bindings = .ok rows ∧
        children = rows.map (Entity.ofRow link.related) := by
  cases herror : ((link.batchQuery d.tag? keys).applyAll constraint).buildError with
  | some e =>
      obtain ⟨f, hrefuses⟩ := Statement.getWithin_refuses herror depth
      rw [hrefuses connection session] at h
      exact nomatch h
  | none =>
      obtain ⟨hmodel, heager⟩ := batchQuery_of_accepted (Link.reads_of_ofDef hlink)
        (Statement.accepted_of_applyAll herror)
      obtain ⟨hclass, -, hkept⟩ := Statement.kept_applyAll_of_addsClauses hcalls
        (link.batchQuery d.tag? keys)
      rw [Statement.perform_getWithin_of_noRelations (hkept.trans heager)] at h
      obtain ⟨c', query, rows, hmodel', hcompile, hrows, rfl, rfl⟩ :=
        Statement.fetchEntities_eq_ok h
      obtain rfl : link.related = c' := Option.some.inj (by rw [← hmodel, ← hclass, hmodel'])
      exact ⟨query, rows, asksAmong_batchQuery hlink hcalls hcompile, rfl, hrows, rfl⟩

/-- What a parent holds of the rows of a batch: those that carry its key, as entities without
their tag, or the first of them, if the relation is single. -/
structure Link.Holds (link : Link) (d : RelationDef) (rows : List Row) (parent : Entity)
    (stored : Related) : Prop where
  noKey : parent.matchKey? link.parentColumn = none →
    stored = if d.isSingle then .one none else .many []
  matched : ∀ key, parent.matchKey? link.parentColumn = some key →
    let own := (rows.filter fun row => (row.get? d.matchAttribute).bind Value.key? == some key).map
      fun row => Entity.ofRow link.related (untagRow d.tag? row)
    stored = if d.isSingle then .one own.head? else .many own

theorem Link.holds_relatedOf (hlink : link.Reads d) (rows : List Row) (parent : Entity) :
    link.Holds d rows parent (link.relatedOf d.tag? rows parent) := by
  refine ⟨fun hnone => ?_, fun key hkey => ?_⟩
  · rw [Entity.matchKey?_eq] at hnone
    rw [relatedOf, ownRows, hnone, hlink.isSingle]
    rfl
  · rw [Entity.matchKey?_eq] at hkey
    have hown : link.ownRows d.tag? rows parent = link.rowsOf d.tag? rows key := by
      rw [ownRows, hkey]
    rw [relatedOf, hown, hlink.isSingle, rowsOf, ← hlink.matchAttribute, List.map_map]
    rfl

/-- **Rows are matched with parents by their keys.**  A relation was loaded for parents of one
class, its query being constrained by calls that add clauses.  There are keys that stand for those
of the parents.  If there are none, nothing was sent and there are no rows; otherwise one query was
sent, which asks for the rows among the keys, and the rows are its answer.  Each parent holds the
rows with its key, as its relation reads back, and is otherwise as it was. -/
theorem Entity.loaded_matches_keys {parents loaded : List Entity} (hne : parents ≠ [])
    (hclass : ∀ parent ∈ parents, parent.modelClass = c) (hd : c.relation? name = some d)
    (hcalls : ∀ call ∈ constraint, call.addsClauses = true)
    (h : (loadRelation context name constraint parents).perform connection session =
      (.ok loaded, session')) :
    ∃ link registry keys rows,
      (Link.ofClass context c name).run session.registry = (.ok link, registry) ∧
      FirstSeen link.parentColumn parents keys ∧
      (keys = [] → session'.requests = session.requests ∧ rows = []) ∧
      (keys ≠ [] → ∃ query,
        ((link.batchQuery d.tag? keys).applyAll constraint).AsksAmong link.matchColumn keys query ∧
          session'.requests = session.requests ++ [⟨.fetchAll, query.sql, query.bindings⟩] ∧
          connection.fetchAll session.requests query.sql query.bindings = .ok rows) ∧
      (∀ row ∈ rows, row.columns.Nodup → (Link.untagRow d.tag? row).fields =
        row.fields.filter fun field => some field.1 != d.tag?) ∧
      ∃ stored : Entity → Related,
        loaded = parents.map (fun parent => parent.setRelated name (stored parent)) ∧
          ∀ parent ∈ parents,
            (parent.setRelated name (stored parent)).related? name = some (stored parent) ∧
              link.Holds d rows parent (stored parent) := by
  obtain ⟨link, registry, children, hlink, hchildren, rfl⟩ := Batch.children_of_load hne hclass hd h
  have hlinkDef := hlink
  rw [Link.ofClass_of_some hd] at hlinkDef
  have hreads := Link.reads_of_ofDef hlinkDef
  have hstored : ∀ rows, (link.toBatch d.tag?).attach d name parents
      (d.groupByKey (rows.map (ofRow link.related))) =
        parents.map fun parent => parent.setRelated name (link.relatedOf d.tag? rows parent) :=
    fun rows => List.map_congr_left fun parent _ => by rw [← Link.shape_of_rows hreads]; rfl
  by_cases hkeys : distinctKeys link.parentColumn parents = []
  · rw [if_pos hkeys] at hchildren
    obtain ⟨rfl, rfl⟩ := hchildren
    exact ⟨link, registry, _, [], hlink, firstSeen_distinctKeys _ _, fun _ => ⟨rfl, rfl⟩,
      fun hsome => absurd hkeys hsome, fun _ hrow => absurd hrow List.not_mem_nil, _, hstored [],
      fun parent _ =>
        ⟨related?_setRelated_self parent name _, Link.holds_relatedOf hreads [] parent⟩⟩
  · rw [if_neg hkeys] at hchildren
    obtain ⟨query, rows, hasks, hrequests, hrows, rfl⟩ :=
      Link.rows_of_batchQuery hlinkDef hcalls hchildren
    exact ⟨link, registry, _, rows, hlink, firstSeen_distinctKeys _ _,
      fun hnone => absurd hnone hkeys, fun _ => ⟨query, hasks, hrequests, hrows⟩,
      fun row _ hrow => Link.fields_untagRow hrow, _, hstored rows,
      fun parent _ =>
        ⟨related?_setRelated_self parent name _, Link.holds_relatedOf hreads rows parent⟩⟩

/-- Posts of some users, or those that are pinned, but not too many of them. -/
def pinnedConstraint : List Call :=
  [.compare .or "pinned" "=" (.bool true), .orderBy "id" "desc", .limit 10]

set_option maxRecDepth 20000 in
theorem Entity.loaded_matches_keys_pinned :
    ∃ (loaded : List Entity) (session' : Session) (link : Link) (stored : Entity → Related),
      (loadRelation {} "posts" pinnedConstraint
        ([.int 2, .null, .int 1, .int 2].map userOf)).perform postsConnection postsSession =
          (.ok loaded, session') ∧
      session'.requests.map Request.sql =
        ["SELECT * FROM posts WHERE \x60user_id\x60 IN (?, ?) OR \x60pinned\x60 = ? " ++
          "ORDER BY \x60id\x60 DESC LIMIT 10"] ∧
      loaded = ([.int 2, .null, .int 1, .int 2].map userOf).map
        (fun user => user.setRelated "posts" (stored user)) ∧
      ∀ user ∈ [.int 2, .null, .int 1, .int 2].map userOf, ∃ rows,
        link.Holds (.hasMany "app::models::Post" "user_id" "id") rows user (stored user) := by
  have hclass : ∀ user ∈ [.int 2, .null, .int 1, .int 2].map userOf,
      user.modelClass = userClass := by
    intro user huser
    obtain ⟨id, -, rfl⟩ := List.mem_map.1 huser
    rfl
  have hcalls : ∀ call ∈ pinnedConstraint, call.addsClauses = true := by decide
  have hload : (loadRelation {} "posts" pinnedConstraint
      ([.int 2, .null, .int 1, .int 2].map userOf)).perform postsConnection postsSession =
        (.ok _, _) := rfl
  obtain ⟨link, -, -, rows, -, -, -, -, -, stored, hloaded, hholds⟩ :=
    loaded_matches_keys (List.cons_ne_nil _ _) hclass rfl hcalls hload
  exact ⟨_, _, link, stored, hload, rfl, hloaded,
    fun user huser => ⟨rows, (hholds user huser).2⟩⟩

end EntityQuery

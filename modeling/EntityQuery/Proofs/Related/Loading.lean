/-
# Loading for many parents agrees with fetching for each

A relation can be loaded onto a list of parents by one query, or fetched for every
parent by a query of its own.  The database decides what these queries are
answered with (`Connection.Answers`).  If it answers the query of a parent with
those rows of the batch that carry the key of the parent (`Link.AnswersAlone`),
then what is stored on the parent is what would have been fetched for it:
`load_agrees_with_fetch`.

A relation that is not declared or leads to a class that is not found
(`Unresolved`) fails in the same way in both cases, before anything is sent.
-/

import EntityQuery.Proofs.Built.Accepted
import EntityQuery.Proofs.Related.Batch
import EntityQuery.Proofs.Run.Requests
import EntityQuery.Relation.Lazy

namespace EntityQuery

variable {context : Context} {c : ModelClass} {name : String} {registry registry' : Registry}
variable {connection : Connection} {session : Session}

/-! ### Relations that are not found -/

/-- Why a relation of a class is not found: the class does not declare it, or a class that it leads
to is not found. -/
inductive Unresolved (context : Context) (c : ModelClass) (name : String) (registry : Registry) :
    Error → Prop
  | undeclared (h : c.relation? name = none) :
    Unresolved context c name registry (.argument (.unknownRelation name c.name))
  | related {d : RelationDef} {e : Error} {registry' : Registry} (hd : c.relation? name = some d)
    (h : (context.resolve (d.relatedName name)).run registry = (.error e, registry')) :
    Unresolved context c name registry e
  | through {related through firstKey secondKey localKey secondLocalKey : String}
    {found : ModelClass} {e : Error} {registry₁ registry₂ : Registry}
    (hd : c.relation? name =
      some (.hasOneThrough related through firstKey secondKey localKey secondLocalKey))
    (hrelated : (context.resolve related).run registry = (.ok found, registry₁))
    (h : (context.resolve through).run registry₁ = (.error e, registry₂)) :
    Unresolved context c name registry e

theorem ModelClass.requireRelation_of_some {d : RelationDef} (h : c.relation? name = some d) :
    c.requireRelation name = .ok d := by
  rw [requireRelation, h]

theorem ModelClass.requireRelation_of_none (h : c.relation? name = none) :
    c.requireRelation name = .error (.argument (.unknownRelation name c.name)) := by
  rw [requireRelation, h]

theorem ModelClass.relation?_of_requireRelation {d : RelationDef}
    (h : c.requireRelation name = .ok d) : c.relation? name = some d := by
  cases hd : c.relation? name with
  | none =>
      rw [requireRelation_of_none hd] at h
      exact nomatch h
  | some d' =>
      rw [requireRelation_of_some hd] at h
      rw [Except.ok.inj h]

theorem Link.ofClass_of_some {d : RelationDef} (h : c.relation? name = some d) :
    Link.ofClass context c name = Link.ofDef context (d.relatedName name) d := by
  rw [ofClass, ModelClass.requireRelation_of_some h]

theorem Link.ofClass_of_none (h : c.relation? name = none) :
    Link.ofClass context c name = throw (.argument (.unknownRelation name c.name)) := by
  rw [ofClass, ModelClass.requireRelation_of_none h]

/-- The link of a relation fails for these reasons. -/
theorem Unresolved.run_ofClass {e : Error} (h : Unresolved context c name registry e) :
    ((Link.ofClass context c name).run registry).1 = .error e := by
  cases h with
  | undeclared hd =>
      rw [Link.ofClass_of_none hd]
      rfl
  | related hd hfail =>
      rw [Link.ofClass_of_some hd, Link.ofDef, Resolving.run_bind_error _ hfail]
  | through hd hrelated hfail =>
      rw [Link.ofClass_of_some hd, Link.ofDef, Resolving.run_bind_ok _ (by exact hrelated)]
      exact congrArg Prod.fst (Resolving.run_bind_error _ hfail)

/-! ### Answers -/

/-- The rows with which a connection answers a statement, after the requests before it. -/
def Connection.Answers (connection : Connection) (history : List Request) (s : Statement)
    (rows : List Row) : Prop :=
  ∃ query, s.compile = .ok query ∧
    connection.fetchAll history query.sql query.bindings = .ok rows

namespace Statement

variable {s : Statement} {rows : List Row}

theorem fetchRows_of_answers (h : connection.Answers session.requests s rows) :
    ∃ session', s.fetchRows.perform connection session = (.ok rows, session') := by
  obtain ⟨query, hcompile, hrows⟩ := h
  refine ⟨s.afterSending .fetchAll query session, ?_⟩
  rw [perform_fetchRows hcompile, hrows]

/-- A statement that asks for no relations gives the entities of its rows. -/
theorem getWithin_of_answers (hmodel : s.modelClass = some c) (heager : s.eager = [])
    (h : connection.Answers session.requests s rows) (depth : Nat) :
    ∃ session', (getWithin depth s).perform connection session =
      (.ok (rows.map (Entity.ofRow c)), session') := by
  obtain ⟨session', hrows⟩ := fetchRows_of_answers h
  refine ⟨session', ?_⟩
  rw [perform_getWithin_of_noRelations heager, perform_fetchEntities hmodel, hrows]
  rfl

end Statement

namespace Connection

variable {history : List Request} {s : Statement} {rows : List Row}

/-- A statement that is answered was accepted. -/
theorem Answers.accepted (h : connection.Answers history s rows) : s.buildError = none := by
  obtain ⟨query, hcompile, -⟩ := h
  exact (Statement.compile_of_ok hcompile).1

end Connection

/-! ### One parent -/

namespace Link

variable {link : Link} {tag : Option String} {rows : List Row} {parent : Entity}

/-- The rows of a batch that belong to a parent; none, if it has no key. -/
def ownRows (link : Link) (tag : Option String) (rows : List Row) (parent : Entity) : List Row :=
  match (parent.value link.parentColumn).key? with
  | some key => link.rowsOf tag rows key
  | none => []

/-- The connection answers the query of a parent with the rows of a batch that belong to it, or at
least with the first of them if no more than one is asked for. -/
def AnswersAlone (link : Link) (tag : Option String) (connection : Connection)
    (history : List Request) (rows : List Row) (parent : Entity) : Prop :=
  if link.isSingle then
    ∃ first, first.head? = (link.ownRows tag rows parent).head? ∧
      connection.Answers history ((Relation.ofLink parent link).query.limit 1) first
  else connection.Answers history (Relation.ofLink parent link).query (link.ownRows tag rows parent)

/-- The related entities of a parent, given the rows of a batch. -/
def relatedOf (link : Link) (tag : Option String) (rows : List Row) (parent : Entity) : Related :=
  let entities := (link.ownRows tag rows parent).map (Entity.ofRow link.related)
  if link.isSingle then .one entities.head? else .many entities

/-- The query of a parent asks for entities of the related class, without relations. -/
theorem query_of_accepted {d : RelationDef} (hlink : link.Reads d)
    (h : (Relation.ofLink parent link).query.buildError = none) :
    (Relation.ofLink parent link).query.modelClass = some link.related ∧
      (Relation.ofLink parent link).query.eager = [] := by
  unfold Relation.query at h ⊢
  obtain ⟨-, -, op, operand, values, -, -, heq⟩ := Statement.compare_of_accepted h
  rw [heq]
  exact ⟨hlink.modelClass, hlink.eager⟩

/-- The query of a batch does so, too. -/
theorem batchQuery_of_accepted {d : RelationDef} (hlink : link.Reads d) {keys : List Value}
    (h : (link.batchQuery tag keys).buildError = none) :
    (link.batchQuery tag keys).modelClass = some link.related ∧
      (link.batchQuery tag keys).eager = [] := by
  unfold batchQuery at h ⊢
  obtain ⟨-, -, -, heq⟩ := Statement.inList_of_accepted h
  rw [heq]
  cases tag with
  | none => exact ⟨hlink.modelClass, hlink.eager⟩
  | some label => exact ⟨hlink.modelClass, hlink.eager⟩

/-- What is fetched for one parent alone. -/
theorem fetch_of_answersAlone {d : RelationDef} (hlink : link.Reads d)
    (h : link.AnswersAlone tag connection session.requests rows parent) :
    ((Relation.ofLink parent link).fetch.perform connection session).1 =
      .ok (link.relatedOf tag rows parent) := by
  have hofLink : (Relation.ofLink parent link).link = link := rfl
  have hquery : (Relation.ofLink parent link).query.buildError = none →
      (Relation.ofLink parent link).query.modelClass = some link.related ∧
        (Relation.ofLink parent link).query.eager = [] :=
    query_of_accepted hlink
  unfold AnswersAlone at h
  unfold Relation.fetch Relation.first Relation.get relatedOf
  generalize (Relation.ofLink parent link).query = query at h hquery ⊢
  rw [hofLink]
  by_cases hsingle : link.isSingle = true
  · rw [if_pos hsingle] at h
    obtain ⟨first, hfirst, hanswers⟩ := h
    have haccepted : query.buildError = none := hanswers.accepted
    have hlimit : (query.limit 1).modelClass = some link.related := (hquery haccepted).1
    obtain ⟨session', hget⟩ := Statement.getWithin_of_answers hlimit (hquery haccepted).2 hanswers
      (query.limit 1).eagerDepth
    rw [if_pos hsingle, if_pos hsingle, Statement.first, Statement.get,
      Action.perform_map_ok _ (Action.perform_map_ok _ hget), List.head?_map, List.head?_map,
      hfirst]
  · rw [if_neg hsingle] at h
    obtain ⟨hmodel, heager⟩ := hquery h.accepted
    obtain ⟨session', hget⟩ := Statement.getWithin_of_answers hmodel heager h query.eagerDepth
    rw [if_neg hsingle, if_neg hsingle, Statement.get, Action.perform_map_ok _ hget]

/-! ### Many parents -/

/-- The entities of a batch, without their tag, are those of its rows without the tag. -/
theorem childrenOf_ofRow {d : RelationDef} (hlink : link.Reads d) (key : String) :
    d.childrenOf (rows.map (Entity.ofRow link.related)) key =
      (link.rowsOf d.tag? rows key).map (Entity.ofRow link.related) := by
  have huntag : ∀ row, d.untag (Entity.ofRow link.related row) =
      Entity.ofRow link.related (untagRow d.tag? row) := by
    intro row
    unfold RelationDef.untag untagRow
    cases d <;> rfl
  unfold RelationDef.childrenOf rowsOf
  rw [List.filter_map, List.map_map, List.map_map, hlink.matchAttribute]
  exact List.map_congr_left fun row _ => huntag row

/-- A parent finds in the groups what its rows of the batch are. -/
theorem shape_of_rows {d : RelationDef} (hlink : link.Reads d) (rows : List Row)
    (parent : Entity) :
    d.shape ((parent.matchKey? link.parentColumn).bind fun key =>
        Keyed.find? key (d.groupByKey (rows.map (Entity.ofRow link.related)))) =
      link.relatedOf d.tag? rows parent := by
  rw [RelationDef.shape_eq, Entity.matchKey?_eq, relatedOf, ownRows, hlink.isSingle]
  cases (parent.value link.parentColumn).key? with
  | none => rfl
  | some key =>
      rw [Option.bind_some, RelationDef.getD_find?_groupByKey, childrenOf_ofRow hlink]

end Link

namespace Entity

variable {d : RelationDef} {link : Link} {rows : List Row} {parents : List Entity}

/-- What is stored on the parents. -/
theorem loadRelation_of_answers (hne : parents ≠ [])
    (hclass : ∀ parent ∈ parents, parent.modelClass = c) (hd : c.relation? name = some d)
    (hlink : (Link.ofClass context c name).run session.registry = (.ok link, registry))
    (hrows : distinctKeys link.parentColumn parents ≠ [] → connection.Answers session.requests
      (link.batchQuery d.tag? (distinctKeys link.parentColumn parents)) rows) :
    ((loadRelation context name [] parents).perform connection session).1 =
      .ok (parents.map fun parent =>
        parent.setRelated name (link.relatedOf d.tag? rows parent)) := by
  rw [Link.ofClass_of_some hd] at hlink
  have hreads := Link.reads_of_ofDef hlink
  have hbatch : (Action.resolving (Batch.ofDef context name d)).perform connection session =
      (.ok (link.toBatch d.tag?), { session with registry := registry }) := by
    rw [Action.perform_resolving, Batch.ofDef_eq, Resolving.run_map, hlink]
    rfl
  cases parents with
  | nil => exact absurd rfl hne
  | cons parent rest =>
      rw [loadRelation, Batch.load, hclass parent List.mem_cons_self,
        ModelClass.requireRelation_of_some hd,
        Action.perform_bind_ok _ (Action.perform_ofExcept _ _ _), Action.perform_bind_ok _ hbatch,
        Link.queryFor?_toBatch]
      by_cases hkeys : distinctKeys link.parentColumn (parent :: rest) = []
      · -- No parent has a key, and a parent without a key gets none of whatever rows there are.
        rw [if_pos (List.isEmpty_iff.2 hkeys)]
        refine congrArg Except.ok (List.map_congr_left fun p hp => ?_)
        have hshape := Link.shape_of_rows hreads rows p
        rw [matchKey?_of_noKeys hkeys hp] at hshape
        rw [← hshape, Link.toBatch, matchKey?_of_noKeys hkeys hp]
        rfl
      · rw [if_neg fun hempty => hkeys (List.isEmpty_iff.1 hempty)]
        obtain ⟨hmodel, heager⟩ := Link.batchQuery_of_accepted hreads (hrows hkeys).accepted
        have hanswers : connection.Answers { session with registry := registry }.requests _ rows :=
          hrows hkeys
        obtain ⟨session', hget⟩ := Statement.getWithin_of_answers hmodel heager hanswers
          (Call.constraintDepthOf [] + 1)
        rw [Action.perform_bind_ok _ hget]
        refine congrArg Except.ok (List.map_congr_left fun p _ => ?_)
        rw [← Link.shape_of_rows hreads rows p]
        rfl

/-- What is fetched for a parent. -/
theorem fetchRelated_of_answers {parent : Entity} (hclass : parent.modelClass = c)
    (hd : c.relation? name = some d)
    (hlink : (Link.ofClass context c name).run session.registry = (.ok link, registry))
    (h : link.AnswersAlone d.tag? connection session.requests rows parent) :
    ((parent.fetchRelated context name).perform connection session).1 =
      .ok (link.relatedOf d.tag? rows parent) := by
  have hrelation : (Action.resolving (Relation.ofEntity context parent name)).perform connection
      session = (.ok (Relation.ofLink parent link), { session with registry := registry }) := by
    rw [Action.perform_resolving, Relation.ofEntity, hclass, Resolving.run_map, hlink]
    rfl
  rw [Link.ofClass_of_some hd] at hlink
  rw [fetchRelated, Action.perform_bind_ok _ hrelation]
  have halone : link.AnswersAlone d.tag? connection
      { session with registry := registry }.requests rows parent := h
  exact Link.fetch_of_answersAlone (Link.reads_of_ofDef hlink) halone

variable {e : Error}

/-- A batch fails as the link of one parent does. -/
theorem loadRelation_of_error (hne : parents ≠ [])
    (hclass : ∀ parent ∈ parents, parent.modelClass = c)
    (h : ((Link.ofClass context c name).run session.registry).1 = .error e) :
    ((loadRelation context name [] parents).perform connection session).1 = .error e := by
  cases parents with
  | nil => exact absurd rfl hne
  | cons parent rest =>
      rw [loadRelation, Batch.load, hclass parent List.mem_cons_self]
      cases hd : c.relation? name with
      | none =>
          rw [Link.ofClass_of_none hd] at h
          obtain rfl := Except.error.inj h
          rw [ModelClass.requireRelation_of_none hd]
          exact Action.fst_perform_bind_error _ rfl
      | some d =>
          rw [Link.ofClass_of_some hd] at h
          rw [ModelClass.requireRelation_of_some hd,
            Action.perform_bind_ok _ (Action.perform_ofExcept _ _ _)]
          refine Action.fst_perform_bind_error _ ?_
          rw [Action.perform_resolving, Batch.ofDef_eq, Resolving.run_map, h]
          rfl

theorem fetchRelated_of_error {parent : Entity} (hclass : parent.modelClass = c)
    (h : ((Link.ofClass context c name).run session.registry).1 = .error e) :
    ((parent.fetchRelated context name).perform connection session).1 = .error e := by
  rw [fetchRelated]
  refine Action.fst_perform_bind_error _ ?_
  rw [Action.perform_resolving, Relation.ofEntity, hclass, Resolving.run_map, h]
  rfl

end Entity

/-- **Loading a relation for many parents agrees with fetching it for each.**  All parents are of
one class.  If the relation is not found, both fail with the same error.  Otherwise both start from
the same link, and it is stored on each parent, and read back from it, what is fetched for that
parent alone, whenever the connection answers the batched query with some rows and the query of the
parent with those of them that carry its key. -/
theorem load_agrees_with_fetch (context : Context) (name : String) {c : ModelClass}
    {parents : List Entity} (connection : Connection) (session : Session) (hne : parents ≠ [])
    (hclass : ∀ parent ∈ parents, parent.modelClass = c) :
    (∀ e, Unresolved context c name session.registry e →
      ((Entity.loadRelation context name [] parents).perform connection session).1 = .error e ∧
        ∀ parent ∈ parents,
          ((parent.fetchRelated context name).perform connection session).1 = .error e) ∧
    ∀ d link registry rows, c.relation? name = some d →
      (Link.ofClass context c name).run session.registry = (.ok link, registry) →
      (let keys := Entity.distinctKeys link.parentColumn parents
       keys ≠ [] → connection.Answers session.requests (link.batchQuery d.tag? keys) rows) →
      ∃ related : Entity → Related,
        ((Entity.loadRelation context name [] parents).perform connection session).1 =
          .ok (parents.map fun parent => parent.setRelated name (related parent)) ∧
        (∀ parent ∈ parents,
          (parent.setRelated name (related parent)).related? name = some (related parent)) ∧
        ∀ parent ∈ parents, ∀ alone : Session, alone.registry = session.registry →
          link.AnswersAlone d.tag? connection alone.requests rows parent →
            ((parent.fetchRelated context name).perform connection alone).1 =
              .ok (related parent) := by
  refine ⟨fun e he => ?_, fun d link registry rows hd hlink hrows => ?_⟩
  · have hfail := he.run_ofClass
    exact ⟨Entity.loadRelation_of_error hne hclass hfail,
      fun parent hparent => Entity.fetchRelated_of_error (hclass parent hparent) hfail⟩
  · refine ⟨link.relatedOf d.tag? rows,
      Entity.loadRelation_of_answers hne hclass hd hlink hrows,
      fun parent _ => Entity.related?_setRelated_self parent name _,
      fun parent hparent alone hregistry halone => ?_⟩
    rw [← hregistry] at hlink
    exact Entity.fetchRelated_of_answers (hclass parent hparent) hd hlink halone

/-- Users, each with the posts that have its id. -/
def userClass : ModelClass :=
  ⟨"app::models::User", "users", "id", false,
    [("posts", .hasMany "app::models::Post" "user_id" "id")]⟩

/-- A session in which the class of posts is known. -/
def postsSession : Session :=
  { registry := Registry.ofClasses [.model ⟨"app::models::Post", "posts", "id", false, []⟩] }

/-- A post of a user. -/
def postOf (id user : Int64) : Row :=
  ⟨[("id", .int id), ("user_id", .int user)]⟩

/-- A database in which the first user has two posts and the second has one. -/
def postsConnection : Connection where
  driver := .ok "mysql"
  execute _ _ _ := .ok 0
  fetchOne _ _ _ := .ok none
  fetchAll _ _ bindings :=
    .ok ([postOf 7 1, postOf 8 2, postOf 9 1].filter fun post =>
      bindings.any fun v => (post.get? "user_id").bind Value.asInt? == v.asInt?)

/-- A user with an id. -/
def userOf (id : Value) : Entity :=
  Entity.ofRow userClass ⟨[("id", id)]⟩

theorem load_agrees_with_fetch_posts :
    ∃ related : Entity → Related,
      ((Entity.loadRelation {} "posts" [] ([.int 1, .int 2, .null].map userOf)).perform
          postsConnection postsSession).1 =
        .ok (([.int 1, .int 2, .null].map userOf).map fun user =>
          user.setRelated "posts" (related user)) ∧
      ∀ user ∈ [.int 1, .int 2, .null].map userOf,
        ((user.fetchRelated {} "posts").perform postsConnection postsSession).1 =
          .ok (related user) := by
  have hclass : ∀ user ∈ [.int 1, .int 2, .null].map userOf, user.modelClass = userClass := by
    intro user huser
    obtain ⟨id, -, rfl⟩ := List.mem_map.1 huser
    rfl
  obtain ⟨related, hload, -, hfetch⟩ :=
    (load_agrees_with_fetch {} "posts" postsConnection postsSession
      (List.cons_ne_nil _ _) hclass).2 _ _ _ _ rfl rfl fun _ => ⟨_, rfl, rfl⟩
  refine ⟨related, hload, fun user huser => hfetch user huser postsSession rfl ?_⟩
  simp only [List.map_cons, List.map_nil, List.mem_cons, List.not_mem_nil, or_false] at huser
  obtain rfl | rfl | rfl := huser
  · exact ⟨_, rfl, rfl⟩
  · exact ⟨_, rfl, rfl⟩
  · exact ⟨_, rfl, rfl⟩
end EntityQuery

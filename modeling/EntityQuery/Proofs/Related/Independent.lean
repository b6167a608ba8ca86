/-
# Loading a relation touches no other

Parents onto which a relation was loaded in place are the parents from before, in number
and order, and agree with them in everything but this relation; if the load failed, they
are the parents from before.

What a load stores on a parent is found by the attributes of the parents
(`stored_map_storeOn`), which no load changes.  If nothing else can change what is found
either (`EndsAlike`), two loads do to the parents what each does alone.  So relations
that differ may be loaded in either order, and loading one again does nothing
(`loadInPlace_touches_one`).

A loader that brings a class along when it is asked for another one can change what is
found: then the order shows, and so does loading again (`loadInPlace_order_of_classes`).
-/

import EntityQuery.Proofs.Related.Repeated

namespace EntityQuery

/-! ### Two entries of a keyed list -/

namespace Keyed

variable {α : Type}

theorem insertSorted_comm_of_lt {key other : String} (h : key < other) (value value' : α)
    (entries : List (String × α)) :
    insertSorted other value' (insertSorted key value entries) =
      insertSorted key value (insertSorted other value' entries) := by
  have hne : key ≠ other := fun heq => String.lt_irrefl other (heq ▸ h)
  have hgt : ¬other < key := String.lt_asymm h
  induction entries with
  | nil => simp only [insertSorted, hne, hne.symm, h, hgt, if_true, if_false]
  | cons entry rest ih =>
      obtain ⟨k, v⟩ := entry
      by_cases hkey : k = key
      · subst hkey
        simp only [insertSorted, hne, hgt, if_true, if_false]
      by_cases hother : k = other
      · subst hother
        simp only [insertSorted, hkey, hne, h, hgt, if_true, if_false]
      -- Before `k` go both keys, or the smaller one alone, or none.
      by_cases hlt : key < k
      · by_cases hlt' : other < k
        · simp only [insertSorted, hkey, hother, hne, hne.symm, h, hgt, hlt, hlt', if_true,
            if_false]
        · simp only [insertSorted, hkey, hother, hne, hgt, hlt, hlt', if_true, if_false]
      · have hlt' : ¬other < k := fun hlt' => hlt (String.lt_trans h hlt')
        simp only [insertSorted, hkey, hother, hlt, hlt', if_false, ih]

/-- Keys that differ may be sorted in either order. -/
theorem insertSorted_comm {key other : String} (h : other ≠ key) (value value' : α)
    (entries : List (String × α)) :
    insertSorted other value' (insertSorted key value entries) =
      insertSorted key value (insertSorted other value' entries) := by
  by_cases hlt : key < other
  · exact insertSorted_comm_of_lt hlt value value' entries
  · have hgt : other < key := Std.lt_of_le_of_ne (String.not_lt.1 hlt) h
    exact (insertSorted_comm_of_lt hgt value' value entries).symm

/-- A key that is sorted in twice has its last value. -/
theorem insertSorted_insertSorted (key : String) (value value' : α)
    (entries : List (String × α)) :
    insertSorted key value' (insertSorted key value entries) = insertSorted key value' entries := by
  induction entries with
  | nil => simp [insertSorted]
  | cons entry rest ih =>
      obtain ⟨k, v⟩ := entry
      by_cases hk : k = key
      · simp [insertSorted, hk]
      · by_cases hlt : key < k
        · simp [insertSorted, hk, hlt]
        · simp [insertSorted, hk, hlt, ih]

end Keyed

variable {context : Context} {name other : String} {connection : Connection} {registry : Registry}

/-! ### Two relations of an entity -/

namespace Batch

theorem storeOn_comm (h : other ≠ name) (related related' : Row → Related) (e : Entity) :
    storeOn other related' (storeOn name related e) =
      storeOn name related (storeOn other related' e) := by
  rw [storeOn, storeOn, storeOn, storeOn, Entity.setRelated, Entity.setRelated,
    Keyed.insertSorted_comm h]
  rfl

theorem storeOn_storeOn (name : String) (related : Row → Related) (e : Entity) :
    storeOn name related (storeOn name related e) = storeOn name related e := by
  rw [storeOn, storeOn, Entity.setRelated, Entity.setRelated, Keyed.insertSorted_insertSorted]

/-- The keys that are asked for do not depend on what is stored. -/
theorem distinctKeys_map_storeOn (column name : String) (related : Row → Related)
    (parents : List Entity) :
    Entity.distinctKeys column (parents.map (storeOn name related)) =
      Entity.distinctKeys column parents := by
  unfold Entity.distinctKeys
  generalize ([] : List String) = seen
  induction parents generalizing seen with
  | nil => rfl
  | cons parent rest ih =>
      have hget : (storeOn name related parent).get? column = parent.get? column := rfl
      simp only [List.map_cons, Entity.distinctKeysFrom, hget, ih]

/-- **What a load stores does not depend on what other loads stored.** -/
theorem stored_map_storeOn (fetch : Statement → Action (List Entity)) (context : Context)
    (name : String) (constraint : List Call) (other : String) (related : Row → Related)
    (parents : List Entity) :
    stored fetch context name constraint (parents.map (storeOn other related)) =
      stored fetch context name constraint parents := by
  cases parents with
  | nil => rfl
  | cons parent rest =>
      have hquery : ∀ b : Batch, b.queryFor? ((parent :: rest).map (storeOn other related))
          constraint = b.queryFor? (parent :: rest) constraint := by
        intro b
        rw [queryFor?, queryFor?, distinctKeys_map_storeOn]
      rw [List.map_cons] at hquery ⊢
      unfold stored
      simp only [hquery]
      rfl

/-- What a load does to a parent: nothing, if it fails, and otherwise it stores the relation. -/
inductive Stores (name : String) : (Entity → Entity) → Prop
  | nothing : Stores name id
  | relation (related : Row → Related) : Stores name (storeOn name related)

theorem Stores.comm {f g : Entity → Entity} (hf : Stores name f) (hg : Stores other g)
    (h : other ≠ name) (e : Entity) : g (f e) = f (g e) := by
  cases hf with
  | nothing => rfl
  | relation related =>
      cases hg with
      | nothing => rfl
      | relation related' => exact storeOn_comm h related related' e

theorem Stores.idem {f : Entity → Entity} (hf : Stores name f) (e : Entity) : f (f e) = f e := by
  cases hf with
  | nothing => rfl
  | relation related => exact storeOn_storeOn name related e

theorem Stores.storedFor_map {f : Entity → Entity} (hf : Stores other f) (context : Context)
    (name : String) (constraint : List Call) (parents : List Entity) :
    Entity.storedFor context name constraint (parents.map f) =
      Entity.storedFor context name constraint parents := by
  cases hf with
  | nothing => rw [List.map_id]
  | relation related => exact stored_map_storeOn _ context name constraint other related parents

end Batch

namespace Entity

/-- **What a load does to the parents is always the same,** whatever another load did to them
before. -/
theorem exists_loadInPlace_eq_map (hanswers : connection.AnswersAlike)
    (hresolves : context.ResolvesAlike registry) (name : String) (constraint : List Call)
    (parents : List Entity) :
    ∃ f, Batch.Stores name f ∧ ∀ other done, Batch.Stores other done → ∀ session : Session,
      context.Reaches registry session.registry → ∃ session' : Session,
        context.Reaches registry session'.registry ∧
          (loadInPlace context name constraint).leaves connection (parents.map done, session) =
            ((parents.map done).map f, session') := by
  obtain ⟨result, hresult⟩ := endsAlike_storedFor hanswers hresolves name constraint parents
  refine ⟨result.elim id (Batch.storeOn name), ?_, fun other done hdone session hsession => ?_⟩
  · cases result with
    | none => exact .nothing
    | some related => exact .relation related
  · obtain ⟨hends, hreaches⟩ := hresult session hsession
    refine ⟨_, hreaches, ?_⟩
    rw [InPlace.leaves, mirrors_loadInPlace context name constraint connection _ session,
      hdone.storedFor_map]
    cases hrun : (storedFor context name constraint parents).perform connection session with
    | mk ended session' =>
        rw [hrun] at hends
        cases ended with
        | ok related =>
            obtain rfl : result = some related := hends.symm
            rfl
        | error e =>
            obtain rfl : result = none := hends.symm
            exact congrArg (·, session') (List.map_id _).symm

/-- **Loading a relation touches no other.**  Taken in place, a load that fails leaves the parents
as they were.  One that succeeds leaves as many parents in the same order, each as it was but for
this relation.  If the connection answers each query always the same way, and names lead to the same
classes whatever was resolved before, then two relations may be loaded in either order, and loading
one twice is loading it once, whether the loads succeed or not. -/
theorem loadInPlace_touches_one (context : Context) (name : String) (constraint : List Call)
    (connection : Connection) (parents : List Entity) (session : Session) :
    let load := fun name constraint => (loadInPlace context name constraint).leaves connection
    let loaded := load name constraint (parents, session)
    ((loadInPlace context name constraint).perform connection (parents, session) =
      match (loadRelation context name constraint parents).perform connection session with
      | (.ok parents', session') => (.ok (), parents', session')
      | (.error e, session') => (.error e, parents, session')) ∧
    (((loadInPlace context name constraint).perform connection (parents, session)).1 = .ok () →
      List.Forall₂ (AgreeBut name) parents loaded.1) ∧
    (connection.AnswersAlike → context.ResolvesAlike session.registry →
      (∀ other constraint', other ≠ name →
        (load other constraint' loaded).1 =
          (load name constraint (load other constraint' (parents, session))).1) ∧
      (load name constraint loaded).1 = loaded.1) := by
  refine ⟨perform_loadInPlace context name constraint connection parents session, fun hended => ?_,
    fun hanswers hresolves => ?_⟩
  · obtain ⟨related, hloaded⟩ := (mirrors_loadInPlace _ _ _ _ _).of_ok hended
    dsimp only
    rw [hloaded, List.forall₂_map_right_iff, List.forall₂_same]
    exact fun parent _ => agreeBut_storeOn name related parent
  · obtain ⟨f, hf, hleaves⟩ :=
      exists_loadInPlace_eq_map hanswers hresolves name constraint parents
    obtain ⟨session₁, hsession₁, hfirst⟩ := hleaves name id .nothing session .start
    rw [List.map_id] at hfirst
    refine ⟨fun other constraint' hother => ?_, ?_⟩
    · obtain ⟨g, hg, hleaves'⟩ :=
        exists_loadInPlace_eq_map hanswers hresolves other constraint' parents
      obtain ⟨session₂, hsession₂, hsecond⟩ := hleaves' other id .nothing session .start
      rw [List.map_id] at hsecond
      obtain ⟨_, -, hthen⟩ := hleaves' name f hf session₁ hsession₁
      obtain ⟨_, -, hthen'⟩ := hleaves other g hg session₂ hsession₂
      dsimp only
      rw [hfirst, hthen, hsecond, hthen', List.map_map, List.map_map]
      exact List.map_congr_left fun parent _ => hf.comm hg hother parent
    · obtain ⟨_, -, hagain⟩ := hleaves name f hf session₁ hsession₁
      dsimp only
      rw [hfirst, hagain, List.map_map]
      exact List.map_congr_left fun parent _ => hf.idem parent

/-- Users with their posts, and with the first of them alone. -/
def authorClass : ModelClass :=
  ⟨"app::models::User", "users", "id", false,
    [("first", .hasOne "app::models::Post" "user_id" "id"),
      ("posts", .hasMany "app::models::Post" "user_id" "id")]⟩

/-- Two users, one of them without an id. -/
def authors : List Entity :=
  [ofRow authorClass ⟨[("id", .int 1)]⟩, ofRow authorClass ⟨[("id", .null)]⟩]

/-- The class of posts, under its own name. -/
def postRegistrations : List (String × ClassInfo) :=
  [("app::models::Post", .model ⟨"app::models::Post", "posts", "id", false, []⟩)]

/-- A session in which no class is known yet, and these may be loaded. -/
def loadingSession (registrations : List (String × ClassInfo)) : Session :=
  { registry := { loader := some (.ofRegistrations registrations) } }

set_option maxRecDepth 20000 in
theorem loadInPlace_touches_one_authors :
    let load := fun name constraint => (loadInPlace {} name constraint).leaves postsConnection
    let loaded := load "posts" [] (authors, loadingSession postRegistrations)
    (loaded.1.map fun author => (author.relatedMany "posts").length) = [2, 0] ∧
      List.Forall₂ (AgreeBut "posts") authors loaded.1 ∧
      (load "first" [.limit 1] loaded).1 =
        (load "posts" [] (load "first" [.limit 1]
          (authors, loadingSession postRegistrations))).1 ∧
      (load "posts" [] loaded).1 = loaded.1 := by
  have hanswers : postsConnection.AnswersAlike := fun _ _ _ _ => rfl
  obtain ⟨-, hframe, hpair⟩ :=
    loadInPlace_touches_one {} "posts" [] postsConnection authors (loadingSession postRegistrations)
  obtain ⟨hcommute, htwice⟩ := hpair hanswers
    (Context.resolvesAlike_of_ownNames {} (List.forall_mem_singleton.2 rfl))
  exact ⟨rfl, hframe rfl, hcommute "first" [.limit 1] (by decide), htwice⟩

/-- A depot with its parts, with its tools, and with the tool that a part of it has. -/
def depotClass : ModelClass :=
  ⟨"app::Depot", "depots", "id", false,
    [("parts", .hasMany "app::Part" "depot_id" "id"),
      ("tool", .hasOneThrough "app::Tool" "app::Part" "depot_id" "part_id" "id" "id"),
      ("tools", .hasMany "app::Tool" "depot_id" "id")]⟩

/-- With the class of parts comes one that has the name of another class. -/
def depotRegistrations : List (String × ClassInfo) :=
  [("app::Part", .model ⟨"app::Part", "parts", "id", false, []⟩),
    ("app::Part", .model ⟨"app::Tool", "part_tools", "id", false, []⟩),
    ("app::Tool", .model ⟨"app::Tool", "tools", "id", false, []⟩)]

/-- A database that answers every query with one row. -/
def depotConnection : Connection where
  driver := .ok "mysql"
  execute _ _ _ := .ok 0
  fetchOne _ _ _ := .ok none
  fetchAll _ _ _ := .ok [⟨[("depot_id", .int 1), (throughTag, .int 1)]⟩]

set_option maxRecDepth 20000 in
/-- **Which class a name leads to may depend on the loads before.**  Tools that are loaded after the
parts are of another class than tools that are loaded before them, and loading the tool of a part
again does not give the same as loading it once, though each query has one answer. -/
theorem loadInPlace_order_of_classes :
    let load := fun name => (loadInPlace {} name []).leaves depotConnection
    let state := ([ofRow depotClass ⟨[("id", .int 1)]⟩], loadingSession depotRegistrations)
    depotConnection.AnswersAlike ∧
      (load "tools" (load "parts" state)).1 ≠ (load "parts" (load "tools" state)).1 ∧
      (load "tool" (load "tool" state)).1 ≠ (load "tool" state).1 := by
  refine ⟨fun _ _ _ _ => rfl, fun h => ?_, fun h => ?_⟩
  · have htables := congrArg (List.map fun depot : Entity =>
      (depot.relatedMany "tools").map fun tool => tool.modelClass.table) h
    exact absurd htables (by decide +kernel)
  · have htables := congrArg (List.map fun depot : Entity =>
      (depot.relatedOne? "tool").map fun tool => tool.modelClass.table) h
    exact absurd htables (by decide +kernel)

end Entity
end EntityQuery

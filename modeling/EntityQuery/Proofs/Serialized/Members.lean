/-
# The members of a serialized entity

The JSON form of an entity is one flat object, made of two maps: the attributes, whose
columns are distinct, and the loaded relations, whose names are.  Both are kept so by
every operation on rows and entities (`Row.Made.nodup`, `Entity.Made.sorted`), at any
depth of relations within relations (`Entity.Made.of_inside`).

Nothing keeps the names of the one apart from those of the other.  A reader of the
object keeps the last of several members with one name, so it finds the relation, and
the attribute only if no relation is named like it (`member?_toJson`).
`members_distinct_iff` says that this is all that can go wrong: the members are
distinct, and everything is read back, if and only if no relation is loaded under the
name of a column.
-/

import EntityQuery.Entity
import Mathlib.Logic.Basic

namespace EntityQuery

/-! ### Keyed lists -/

namespace Keyed

variable {α β : Type} {key : String} {value : α} {entries : List (String × α)}

theorem find?_eq_none_iff : find? key entries = none ↔ key ∉ keys entries := by
  induction entries with
  | nil => exact ⟨fun _ => List.not_mem_nil, fun _ => rfl⟩
  | cons entry rest ih =>
      obtain ⟨k, v⟩ := entry
      rw [find?, keys, List.map_cons, List.mem_cons, not_or]
      split
      · rename_i hk
        exact iff_of_false (Option.some_ne_none v) fun h => h.1 hk.symm
      · rename_i hk
        rw [ih]
        exact (and_iff_right (Ne.symm hk)).symm

theorem find?_append (key : String) (xs ys : List (String × α)) :
    find? key (xs ++ ys) = (find? key xs).or (find? key ys) := by
  induction xs with
  | nil => rfl
  | cons x xs ih =>
      obtain ⟨k, v⟩ := x
      rw [List.cons_append, find?, find?]
      split
      · rfl
      · exact ih

theorem find?_map (f : α → β) (key : String) (entries : List (String × α)) :
    find? key (entries.map fun entry => (entry.1, f entry.2)) = (find? key entries).map f := by
  induction entries with
  | nil => rfl
  | cons entry rest ih =>
      obtain ⟨k, v⟩ := entry
      rw [List.map_cons, find?, find?]
      split
      · rfl
      · exact ih

/-- With distinct keys the last entry of a key is the first one. -/
theorem find?_reverse (h : (keys entries).Nodup) (key : String) :
    find? key entries.reverse = find? key entries := by
  induction entries with
  | nil => rfl
  | cons entry rest ih =>
      obtain ⟨k, v⟩ := entry
      obtain ⟨hnew, hrest⟩ := List.nodup_cons.1 h
      rw [List.reverse_cons, find?_append, ih hrest, find?, find?, find?]
      split
      · rename_i hk
        rw [find?_eq_none_iff.2 (hk ▸ hnew), Option.none_or]
      · exact Option.or_none

/-- A list of entries is sorted: its keys increase. -/
def Sorted (entries : List (String × α)) : Prop :=
  (keys entries).Pairwise (· < ·)

theorem Sorted.nodup (h : Sorted entries) : (keys entries).Nodup :=
  List.Pairwise.imp (S := (· ≠ ·)) (fun hlt heq => String.lt_irrefl _ (heq ▸ hlt)) h

theorem mem_of_mem_insertSorted {entry : String × α}
    (h : entry ∈ insertSorted key value entries) : entry = (key, value) ∨ entry ∈ entries := by
  induction entries with
  | nil => exact .inl (List.mem_singleton.1 h)
  | cons first rest ih =>
      obtain ⟨k, v⟩ := first
      rw [insertSorted] at h
      split at h
      · exact (List.mem_cons.1 h).imp_right (List.mem_cons_of_mem _)
      · split at h
        · exact List.mem_cons.1 h
        · rcases List.mem_cons.1 h with rfl | h
          · exact .inr List.mem_cons_self
          · exact (ih h).imp_right (List.mem_cons_of_mem _)

theorem Sorted.insertSorted (h : Sorted entries) (key : String) (value : α) :
    Sorted (insertSorted key value entries) := by
  induction entries with
  | nil => exact List.pairwise_singleton _ _
  | cons first rest ih =>
      obtain ⟨k, v⟩ := first
      obtain ⟨hfirst, hrest⟩ := List.pairwise_cons.1 h
      rw [Keyed.insertSorted]
      split
      · rename_i hk
        subst hk
        exact h
      · rename_i hk
        split
        · rename_i hlt
          refine List.pairwise_cons.2 ⟨fun other hother => ?_, h⟩
          rcases List.mem_cons.1 hother with rfl | hother
          · exact hlt
          · exact String.lt_trans hlt (hfirst other hother)
        · rename_i hlt
          have hgt : k < key := Std.lt_of_le_of_ne (String.not_lt.1 hlt) hk
          refine List.pairwise_cons.2 ⟨fun other hother => ?_, ih hrest⟩
          obtain ⟨entry, hentry, rfl⟩ := List.mem_map.1 hother
          rcases mem_of_mem_insertSorted hentry with rfl | hentry
          · exact hgt
          · exact hfirst _ (List.mem_map_of_mem hentry)

theorem nodup_keys_put (h : (keys entries).Nodup) (key : String) (value : α) :
    (keys (put key value entries)).Nodup := by
  rw [keys_put]
  split
  · exact h
  · rename_i hnew
    exact List.nodup_append.2 ⟨h, List.pairwise_singleton _ _, fun k hk other hother heq =>
      hnew (List.mem_singleton.1 hother ▸ heq ▸ hk)⟩

theorem erase_sublist (key : String) (entries : List (String × α)) :
    (erase key entries).Sublist entries := by
  induction entries with
  | nil => exact .slnil
  | cons entry rest ih =>
      obtain ⟨k, v⟩ := entry
      rw [erase]
      split
      · exact List.sublist_cons_self _ _
      · exact ih.cons_cons _

end Keyed

/-! ### Reading an object -/

namespace Json

/-- The names of the members of an object, in the order in which they are written. -/
def keys : Json → List String
  | .object members => Keyed.keys members
  | _ => []

/-- What a reader of an object has under a name: the last of the members with this name. -/
def member? (name : String) : Json → Option Json
  | .object members =>
    match ofMembers members with
    | .object kept => Keyed.find? name kept
    | _ => none
  | _ => none

/-- A value is another one, or inside one of its items or members. -/
inductive PartOf : Json → Json → Prop where
  | self (json : Json) : PartOf json json
  | item {part json : Json} {items : List Json} (hmem : json ∈ items) (h : PartOf part json) :
    PartOf part (.array items)
  | member {part json : Json} {name : String} {members : List (String × Json)}
    (hmem : (name, json) ∈ members) (h : PartOf part json) : PartOf part (.object members)

theorem find?_foldl_insertSorted (name : String) (members kept : List (String × Json)) :
    Keyed.find? name (members.foldl (fun acc m => Keyed.insertSorted m.1 m.2 acc) kept) =
      (Keyed.find? name members.reverse).or (Keyed.find? name kept) := by
  induction members generalizing kept with
  | nil => rfl
  | cons m members ih =>
      rw [List.foldl_cons, ih, List.reverse_cons, Keyed.find?_append, Option.or_assoc]
      congr 1
      by_cases hname : m.1 = name
      · rw [← hname, Keyed.find?_insertSorted_self, Keyed.find?, if_pos rfl, Option.some_or]
      · rw [Keyed.find?_insertSorted_of_ne (Ne.symm hname), Keyed.find?, if_neg hname, Keyed.find?,
          Option.none_or]

theorem member?_object (name : String) (members : List (String × Json)) :
    (Json.object members).member? name = Keyed.find? name members.reverse := by
  have hread := find?_foldl_insertSorted name members []
  rw [Keyed.find?, Option.or_none] at hread
  exact hread

end Json

/-! ### Rows and entities as they are made -/

/-- The rows that can be made: from the row without columns, by setting and removing columns. -/
inductive Row.Made : Row → Prop where
  | empty : Made empty
  | set {row : Row} (h : Made row) (column : String) (value : Value) : Made (row.set column value)
  | erase {row : Row} (h : Made row) (column : String) : Made (row.erase column)

/-- **The columns of a row are distinct.** -/
theorem Row.Made.nodup {row : Row} (h : row.Made) : row.columns.Nodup := by
  induction h with
  | empty => exact List.nodup_nil
  | set _ column value ih => exact Keyed.nodup_keys_put ih column value
  | erase _ column ih => exact ih.sublist ((Keyed.erase_sublist column _).map Prod.fst)

theorem Row.made_ofPairs (pairs : List (String × Value)) : (ofPairs pairs).Made := by
  have hadd : ∀ (pairs : List (String × Value)) (row : Row), row.Made →
      (pairs.foldl (fun row p => row.set p.1 p.2) row).Made := by
    intro pairs
    induction pairs with
    | nil => exact fun _ h => h
    | cons p pairs ih => exact fun row h => ih _ (h.set p.1 p.2)
  exact hadd pairs empty .empty

/-- The entities that a loaded relation holds. -/
def Related.entities : Related → List Entity
  | .one entity => entity.toList
  | .many entities => entities

namespace Entity

/-- The entities that can be made: from rows, by setting and removing columns and by storing
relations with entities that were made. -/
inductive Made : Entity → Prop where
  | ofRow (c : ModelClass) {row : Row} (h : row.Made) : Made (ofRow c row)
  | set {e : Entity} (h : Made e) (column : String) (value : Value) : Made (e.set column value)
  | erase {e : Entity} (h : Made e) (column : String) : Made (e.erase column)
  | setRelated {e : Entity} (h : Made e) (name : String) {related : Related}
    (hrelated : ∀ x ∈ related.entities, Made x) : Made (e.setRelated name related)

/-- An entity is another one, or inside one of its loaded relations. -/
inductive Inside : Entity → Entity → Prop where
  | self (e : Entity) : Inside e e
  | related {x y e : Entity} {name : String} {related : Related}
    (hmem : (name, related) ∈ e.relations) (hy : y ∈ related.entities) (h : Inside x y) :
    Inside x e

variable {e x : Entity}

theorem Made.nodup (h : e.Made) : e.attributes.columns.Nodup := by
  induction h with
  | ofRow c hrow => exact hrow.nodup
  | set _ column value ih => exact Keyed.nodup_keys_put ih column value
  | erase _ column ih => exact ih.sublist ((Keyed.erase_sublist column _).map Prod.fst)
  | setRelated _ _ _ ih => exact ih

/-- **The names of loaded relations increase.** -/
theorem Made.sorted (h : e.Made) : Keyed.Sorted e.relations := by
  induction h with
  | ofRow c hrow => exact List.Pairwise.nil
  | set _ _ _ ih => exact ih
  | erase _ _ ih => exact ih
  | setRelated _ name _ ih => exact ih.insertSorted name _

theorem Made.related {name : String} {related : Related} (h : e.Made)
    (hmem : (name, related) ∈ e.relations) (hx : x ∈ related.entities) : x.Made := by
  induction h with
  | ofRow c hrow => exact nomatch hmem
  | set _ _ _ ih => exact ih hmem
  | erase _ _ ih => exact ih hmem
  | setRelated _ _ hrelated ih =>
      rcases Keyed.mem_of_mem_insertSorted hmem with heq | hmem
      · obtain ⟨-, rfl⟩ := Prod.mk.inj heq
        exact hrelated x hx
      · exact ih hmem

/-- **What is inside an entity that was made was made itself.** -/
theorem Made.of_inside (h : e.Made) (hx : Inside x e) : x.Made := by
  induction hx with
  | self => exact h
  | related hmem hy _ ih => exact ih (h.related hmem hy)

/-! ### The members of an entity -/

theorem relationMembers_eq_map (relations : List (String × Related)) :
    relationMembers relations = relations.map fun entry => (entry.1, relatedToJson entry.2) := by
  induction relations with
  | nil => rfl
  | cons entry rest ih => rw [relationMembers, ih, List.map_cons]

theorem toJson_eq (e : Entity) :
    e.toJson = .object (e.attributes.toMembers ++ relationMembers e.relations) := by
  obtain ⟨c, attributes, relations⟩ := e
  rw [toJson]

/-- The members are the columns and the loaded relations. -/
theorem keys_toJson (e : Entity) :
    e.toJson.keys = e.attributes.columns ++ Keyed.keys e.relations := by
  rw [toJson_eq, relationMembers_eq_map, Json.keys, Keyed.keys, Row.toMembers, List.map_append,
    List.map_map, List.map_map]
  rfl

/-- **What a reader has under a name**: the relation that is loaded, or else the attribute. -/
theorem member?_toJson (h : e.Made) (name : String) :
    e.toJson.member? name =
      ((e.related? name).map relatedToJson).or ((e.get? name).map Value.toJson) := by
  have hattributes : (Keyed.keys e.attributes.toMembers).Nodup := by
    rw [Row.toMembers, Keyed.keys, List.map_map]
    exact h.nodup
  have hrelations : (Keyed.keys (relationMembers e.relations)).Nodup := by
    rw [relationMembers_eq_map, Keyed.keys, List.map_map]
    exact h.sorted.nodup
  rw [toJson_eq, Json.member?_object, List.reverse_append, Keyed.find?_append,
    Keyed.find?_reverse hattributes, Keyed.find?_reverse hrelations, relationMembers_eq_map,
    Keyed.find?_map, Row.toMembers, Keyed.find?_map]
  rfl

theorem listToJson_eq_map (entities : List Entity) : listToJson entities = entities.map toJson := by
  induction entities with
  | nil => rfl
  | cons e rest ih => rw [listToJson, ih, List.map_cons]

theorem partOf_relatedToJson {json : Json} {related : Related} (hx : x ∈ related.entities)
    (h : json.PartOf x.toJson) : json.PartOf (relatedToJson related) := by
  cases related with
  | one entity =>
      obtain rfl := Option.mem_toList.1 hx
      rw [relatedToJson]
      exact h
  | many entities =>
      rw [relatedToJson, listToJson_eq_map]
      exact .item (List.mem_map_of_mem hx) h

/-- The JSON form of an entity has that of every entity inside it. -/
theorem Inside.partOf (h : Inside x e) : x.toJson.PartOf e.toJson := by
  induction h with
  | self => exact .self _
  | @related y e name related hmem hy _ ih =>
      have hmember : (name, relatedToJson related) ∈ relationMembers e.relations := by
        rw [relationMembers_eq_map]
        exact List.mem_map.2 ⟨_, hmem, rfl⟩
      rw [toJson_eq e]
      exact .member (List.mem_append_right _ hmember) (partOf_relatedToJson hy ih)

theorem isLoaded_iff {name : String} : e.isLoaded name = true ↔ name ∈ Keyed.keys e.relations := by
  rw [isLoaded, related?, Option.isSome_iff_ne_none, ne_eq, Keyed.find?_eq_none_iff, not_not]

/-- The members are distinct if no relation is loaded under the name of a column. -/
theorem nodup_keys_toJson_iff (h : e.Made) :
    e.toJson.keys.Nodup ↔ ∀ name, e.isLoaded name = true → e.get? name = none := by
  rw [keys_toJson, List.nodup_append, and_iff_right h.nodup, and_iff_right h.sorted.nodup]
  constructor
  · intro hapart name hloaded
    exact Keyed.find?_eq_none_iff.2 fun hcolumn =>
      hapart name hcolumn name (isLoaded_iff.1 hloaded) rfl
  · rintro hfree column hcolumn name hname rfl
    exact Keyed.find?_eq_none_iff.1 (hfree column (isLoaded_iff.2 hname)) hcolumn

/-- **When a serialized entity keeps every field.**  At every depth the members are the columns and
the loaded relations, the columns are distinct and so are the relations, and under a name a reader
has the relation of that name or else the attribute.  All members are distinct if and only if
nowhere is a relation loaded under the name of a column; then every attribute and every relation is
read back. -/
theorem members_distinct_iff (h : e.Made) :
    (∀ x, Inside x e →
      x.toJson.PartOf e.toJson ∧
      x.toJson.keys = x.attributes.columns ++ Keyed.keys x.relations ∧
      x.attributes.columns.Nodup ∧ (Keyed.keys x.relations).Nodup ∧
      ∀ name, x.toJson.member? name =
        ((x.related? name).map relatedToJson).or ((x.get? name).map Value.toJson)) ∧
    ((∀ x, Inside x e → x.toJson.keys.Nodup) ↔
      ∀ x, Inside x e → ∀ name, x.isLoaded name = true → x.get? name = none) ∧
    ((∀ x, Inside x e → x.toJson.keys.Nodup) → ∀ x, Inside x e →
      (∀ column value, x.get? column = some value →
        x.toJson.member? column = some value.toJson) ∧
      ∀ name related, x.related? name = some related →
        x.toJson.member? name = some (relatedToJson related)) := by
  have hdistinct : ∀ x, Inside x e →
      (x.toJson.keys.Nodup ↔ ∀ name, x.isLoaded name = true → x.get? name = none) :=
    fun x hx => nodup_keys_toJson_iff (h.of_inside hx)
  refine ⟨fun x hx => ?_, forall₂_congr hdistinct, fun hnodup x hx => ⟨?_, ?_⟩⟩
  · have hmade := h.of_inside hx
    exact ⟨hx.partOf, keys_toJson x, hmade.nodup, hmade.sorted.nodup, member?_toJson hmade⟩
  · intro column value hvalue
    have hunloaded : x.related? column = none := by
      refine Option.not_isSome_iff_eq_none.1 fun hloaded => ?_
      have hfree := (hdistinct x hx).1 (hnodup x hx) column hloaded
      rw [hvalue] at hfree
      exact nomatch hfree
    rw [member?_toJson (h.of_inside hx), hunloaded, hvalue]
    rfl
  · intro name related hrelated
    rw [member?_toJson (h.of_inside hx), hrelated]
    rfl

/-- A class without relations of its own. -/
def plainClass (name table : String) : ModelClass :=
  ⟨name, table, "id", false, []⟩

/-- A user with one post. -/
def userWithPost : Entity :=
  (ofRow (plainClass "User" "users") (.ofPairs [("id", .int 1), ("name", .text "Ann")])).setRelated
    "posts" (.many [ofRow (plainClass "Post" "posts") (.ofPairs [("id", .int 2)])])

theorem members_distinct_iff_post :
    userWithPost.Made ∧ ∀ x, Inside x userWithPost → x.toJson.keys.Nodup := by
  have hmade : userWithPost.Made := by
    refine .setRelated (.ofRow _ (Row.made_ofPairs _)) _ fun x hx => ?_
    obtain rfl := List.mem_singleton.1 hx
    exact .ofRow _ (Row.made_ofPairs _)
  refine ⟨hmade, (members_distinct_iff hmade).2.1.2 fun x hx name hloaded => ?_⟩
  rw [isLoaded_iff] at hloaded
  cases hx with
  | self =>
      obtain rfl := List.mem_singleton.1 hloaded
      rfl
  | related hmem hy hx =>
      obtain ⟨rfl, rfl⟩ := Prod.mk.inj (List.mem_singleton.1 hmem)
      obtain rfl := List.mem_singleton.1 hy
      cases hx with
      | self => exact nomatch hloaded
      | related hmem => exact nomatch hmem

/-- A user with an attribute that is named like a relation without an entity. -/
def userWithProfile (profile : Value) : Entity :=
  (ofRow (plainClass "User" "users") (.ofPairs [("id", .int 1), ("profile", profile)])).setRelated
    "profile" (.one none)

/-- A relation that is named like a column gives the object a second member of the name, and a
reader has the relation in place of the attribute. -/
theorem relation_hides_attribute :
    (∀ profile, (userWithProfile profile).Made) ∧
      (userWithProfile .null).toJson.keys = ["id", "profile", "profile"] ∧
      ¬(userWithProfile .null).toJson.keys.Nodup ∧
      (userWithProfile (.text "x")).get? "profile" = some (.text "x") ∧
      (userWithProfile (.text "x")).toJson.member? "profile" = some .null :=
  ⟨fun _ => .setRelated (.ofRow _ (Row.made_ofPairs _)) _ nofun, rfl, by decide, rfl, rfl⟩

end Entity
end EntityQuery

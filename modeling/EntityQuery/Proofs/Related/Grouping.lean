/-
# Groups of fetched entities

The entities that a batch fetched are put into groups one after the other, and a
parent looks its group up by its key.  `getD_find?_groupByKey` says what it finds:
the fetched entities that carry this key, in the order in which they came, without
their tag.

The keys that the batch asks for are those of the parents and no others
(`mem_distinctKeys`), so a parent that has a key is never left out of the query.
-/

import EntityQuery.Relation.Eager

namespace EntityQuery

/-! ### Keys of the parents -/

namespace Entity

/-- A missing column is null, and null has no key. -/
theorem matchKey?_eq (e : Entity) (column : String) :
    e.matchKey? column = (e.value column).key? := by
  unfold matchKey? value
  cases e.get? column with
  | none => rfl
  | some v => rfl

theorem mem_distinctKeysFrom {column key : String} {entities : List Entity} {seen : List String} :
    (∃ v ∈ distinctKeysFrom seen column entities, v.key? = some key) ↔
      key ∉ seen ∧ ∃ e ∈ entities, e.matchKey? column = some key := by
  induction entities generalizing seen with
  | nil => simp [distinctKeysFrom]
  | cons e rest ih =>
      have hskip : e.matchKey? column = none →
          ((∃ v ∈ distinctKeysFrom seen column rest, v.key? = some key) ↔
            key ∉ seen ∧ ∃ e' ∈ e :: rest, e'.matchKey? column = some key) := by
        intro hnone
        rw [ih]
        simp [hnone]
      unfold distinctKeysFrom
      split
      · rename_i hget
        exact hskip (by rw [matchKey?, hget, Option.bind_none])
      · rename_i v hget
        split
        · rename_i hkey
          exact hskip (by rw [matchKey?, hget, Option.bind_some, hkey])
        · rename_i k hkey
          have hmatch : e.matchKey? column = some k := by
            rw [matchKey?, hget, Option.bind_some, hkey]
          split
          · -- The key was seen before, so it is none that is still asked for.
            rename_i hseen
            rw [ih]
            refine and_congr_right fun hnew => ?_
            have hne : k ≠ key := fun heq => hnew (heq ▸ hseen)
            simp [hmatch, hne]
          · rename_i hnew
            have hcons : (∃ v' ∈ v :: distinctKeysFrom (k :: seen) column rest,
                v'.key? = some key) ↔ k = key ∨
                  ∃ v' ∈ distinctKeysFrom (k :: seen) column rest, v'.key? = some key := by
              simp [hkey]
            rw [hcons, ih]
            by_cases heq : k = key
            · subst heq
              simp [hnew, hmatch]
            · simp [hmatch, heq, Ne.symm heq]

/-- **Every key is asked for.**  The keys of a batch are the keys of its parents. -/
theorem mem_distinctKeys {column key : String} {entities : List Entity} :
    (∃ v ∈ distinctKeys column entities, v.key? = some key) ↔
      ∃ e ∈ entities, e.matchKey? column = some key := by
  rw [distinctKeys, mem_distinctKeysFrom]
  simp

/-- Without any key to ask for, no parent has one. -/
theorem matchKey?_of_noKeys {column : String} {entities : List Entity} {e : Entity}
    (h : distinctKeys column entities = []) (he : e ∈ entities) : e.matchKey? column = none := by
  cases hkey : e.matchKey? column with
  | none => rfl
  | some key =>
      obtain ⟨v, hv, -⟩ := mem_distinctKeys.2 ⟨e, he, hkey⟩
      rw [h] at hv
      exact absurd hv List.not_mem_nil

end Entity

/-! ### Groups -/

namespace RelationDef

variable (d : RelationDef)

/-- The fetched entities that carry a key, without their tag. -/
def childrenOf (children : List Entity) (key : String) : List Entity :=
  (children.filter fun child => child.matchKey? d.matchAttribute == some key).map d.untag

/-- One more entity extends the group of its key and no other. -/
theorem getD_find?_addToGroup (groups : List (String × List Entity)) (child : Entity)
    (key : String) :
    (Keyed.find? key (d.addToGroup groups child)).getD [] =
      (Keyed.find? key groups).getD [] ++ d.childrenOf [child] key := by
  unfold addToGroup childrenOf
  split
  · rename_i hnone
    simp [hnone]
  · rename_i k hkey
    by_cases heq : k = key
    · subst heq
      simp [hkey, Keyed.find?_put_self]
    · rw [Keyed.find?_put_of_ne (Ne.symm heq)]
      simp [hkey, heq]

theorem childrenOf_cons (child : Entity) (children : List Entity) (key : String) :
    d.childrenOf (child :: children) key =
      d.childrenOf [child] key ++ d.childrenOf children key := by
  unfold childrenOf
  rw [← List.map_append, ← List.filter_append, List.singleton_append]

theorem getD_find?_foldl (children : List Entity) (groups : List (String × List Entity))
    (key : String) :
    (Keyed.find? key (children.foldl d.addToGroup groups)).getD [] =
      (Keyed.find? key groups).getD [] ++ d.childrenOf children key := by
  induction children generalizing groups with
  | nil => exact (List.append_nil _).symm
  | cons child children ih =>
      rw [List.foldl_cons, ih, getD_find?_addToGroup, List.append_assoc, ← childrenOf_cons]

/-- **A group holds what carries its key.** -/
theorem getD_find?_groupByKey (children : List Entity) (key : String) :
    (Keyed.find? key (d.groupByKey children)).getD [] = d.childrenOf children key :=
  d.getD_find?_foldl children [] key

/-- A parent without a group is given what a parent with an empty group is given. -/
theorem shape_eq (group : Option (List Entity)) :
    d.shape group =
      if d.isSingle then .one (group.getD []).head? else .many (group.getD []) := by
  unfold shape
  cases group with
  | none => rfl
  | some entities => rfl

end RelationDef
end EntityQuery

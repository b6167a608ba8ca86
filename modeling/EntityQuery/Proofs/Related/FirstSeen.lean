/-
# The keys that a batch asks for

A batch asks for the keys of its parents, each once.  `Entity.FirstSeen` says what this
means: every value is that of the first entity with its key, no two values have the same
key, no key of an entity is missing, and the keys stand in the order in which they are
first seen.  `firstSeen_distinctKeys` says that the collected values are such a list.

The keys seen so far are an argument of the recursion, so each part is proved for any
list of them first.
-/

import EntityQuery.Proofs.Related.Grouping

namespace EntityQuery
namespace Entity

variable {column key : String} {entities : List Entity} {seen : List String} {v : Value}

/-- Values that stand for the keys in a column of some entities. -/
structure FirstSeen (column : String) (entities : List Entity) (keys : List Value) : Prop where
  /-- A value is that of an entity, and no entity before has its key. -/
  first : ∀ v ∈ keys, v.key? ≠ none ∧ ∃ before e after, entities = before ++ e :: after ∧
    e.get? column = some v ∧ ∀ e' ∈ before, e'.matchKey? column ≠ v.key?
  distinct : keys.Pairwise fun v w => v.key? ≠ w.key?
  covers : ∀ e ∈ entities, ∀ key, e.matchKey? column = some key → ∃ v ∈ keys, v.key? = some key
  order : keys.filterMap Value.key? = (entities.filterMap (·.matchKey? column)).eraseDups

/-- A collected value comes from the first entity with its key, which was not seen before. -/
theorem first_of_mem_distinctKeysFrom (hv : v ∈ distinctKeysFrom seen column entities) :
    ∃ key, v.key? = some key ∧ key ∉ seen ∧ ∃ before e after, entities = before ++ e :: after ∧
      e.get? column = some v ∧ ∀ e' ∈ before, e'.matchKey? column ≠ some key := by
  induction entities generalizing seen with
  | nil => exact absurd hv List.not_mem_nil
  | cons e rest ih =>
      have hlater : ∀ seen', v ∈ distinctKeysFrom seen' column rest →
          (∀ key, key ∉ seen' → key ∉ seen ∧ e.matchKey? column ≠ some key) →
          ∃ key, v.key? = some key ∧ key ∉ seen ∧ ∃ before e' after,
            e :: rest = before ++ e' :: after ∧ e'.get? column = some v ∧
              ∀ e'' ∈ before, e''.matchKey? column ≠ some key := by
        intro seen' hmem hseen
        obtain ⟨key, hkey, hnew, before, e', after, rfl, hget, hbefore⟩ := ih hmem
        obtain ⟨hnew', he⟩ := hseen key hnew
        exact ⟨key, hkey, hnew', e :: before, e', after, rfl, hget,
          List.forall_mem_cons.2 ⟨he, hbefore⟩⟩
      unfold distinctKeysFrom at hv
      split at hv
      · rename_i hget
        refine hlater seen hv fun key hnew => ⟨hnew, ?_⟩
        rw [matchKey?, hget]
        exact (Option.some_ne_none key).symm
      · rename_i w hget
        have hmatch : e.matchKey? column = w.key? := by rw [matchKey?, hget, Option.bind_some]
        split at hv
        · rename_i hnone
          refine hlater seen hv fun key hnew => ⟨hnew, ?_⟩
          rw [hmatch, hnone]
          exact (Option.some_ne_none key).symm
        · rename_i k hkey
          split at hv
          · rename_i hseen
            refine hlater seen hv fun key hnew => ⟨hnew, ?_⟩
            rw [hmatch, hkey, Ne, Option.some.injEq]
            exact fun heq => hnew (heq ▸ hseen)
          · rename_i hnew
            rcases List.mem_cons.1 hv with rfl | hv
            · exact ⟨k, hkey, hnew, [], e, rest, rfl, hget, fun _ h => absurd h List.not_mem_nil⟩
            · refine hlater (k :: seen) hv fun key hnotSeen => ?_
              rw [List.mem_cons, not_or] at hnotSeen
              rw [hmatch, hkey, Ne, Option.some.injEq]
              exact ⟨hnotSeen.2, fun heq => hnotSeen.1 heq.symm⟩

/-- No two collected values have the same key. -/
theorem distinct_distinctKeysFrom (seen : List String) (column : String)
    (entities : List Entity) :
    (distinctKeysFrom seen column entities).Pairwise fun v w => v.key? ≠ w.key? := by
  induction entities generalizing seen with
  | nil => exact .nil
  | cons e rest ih =>
      unfold distinctKeysFrom
      split
      · exact ih seen
      · split
        · exact ih seen
        · rename_i k hkey
          split
          · exact ih seen
          · refine .cons (fun w hw heq => ?_) (ih (k :: seen))
            obtain ⟨key, hkey', hnew, -⟩ := first_of_mem_distinctKeysFrom hw
            rw [hkey, hkey', Option.some.injEq] at heq
            exact hnew (heq ▸ List.mem_cons_self)

/-- The keys that are collected are those not seen before, each once, in the order of the
entities. -/
theorem keys_distinctKeysFrom (seen : List String) (column : String) (entities : List Entity) :
    (distinctKeysFrom seen column entities).filterMap Value.key? =
      ((entities.filterMap (·.matchKey? column)).filter fun key =>
        decide (key ∉ seen)).eraseDups := by
  induction entities generalizing seen with
  | nil => rfl
  | cons e rest ih =>
      unfold distinctKeysFrom
      split
      · rename_i hget
        rw [ih, List.filterMap_cons_none (by rw [matchKey?, hget, Option.bind_none])]
      · rename_i w hget
        have hmatch : e.matchKey? column = w.key? := by rw [matchKey?, hget, Option.bind_some]
        split
        · rename_i hnone
          simp only [List.filterMap_cons, hmatch, hnone, ih]
        · rename_i k hkey
          simp only [List.filterMap_cons, hmatch, hkey]
          split
          · rename_i hseen
            rw [ih, List.filter_cons_of_neg (by simpa using hseen)]
          · rename_i hnew
            rw [List.filterMap_cons_some hkey, ih, List.filter_cons_of_pos (by simpa using hnew),
              List.eraseDups_cons, List.filter_filter]
            congr 3
            funext key
            simp only [List.mem_cons, not_or, Bool.decide_and]
            by_cases heq : key = k
            · simp [heq]
            · simp [heq]

/-- **The collected values stand for the keys of the entities.** -/
theorem firstSeen_distinctKeys (column : String) (entities : List Entity) :
    FirstSeen column entities (distinctKeys column entities) := by
  have hkeys : (distinctKeys column entities).filterMap Value.key? =
      (entities.filterMap (·.matchKey? column)).eraseDups := by
    rw [distinctKeys, keys_distinctKeysFrom, List.filter_eq_self.2 (by simp)]
  have hfirst : ∀ v ∈ distinctKeys column entities, ∃ key, v.key? = some key ∧
      ∃ before e after, entities = before ++ e :: after ∧ e.get? column = some v ∧
        ∀ e' ∈ before, e'.matchKey? column ≠ some key := by
    intro v hv
    obtain ⟨key, hkey, -, hsplit⟩ := first_of_mem_distinctKeysFrom hv
    exact ⟨key, hkey, hsplit⟩
  refine ⟨fun v hv => ?_, ?_, fun e he key hkey => mem_distinctKeys.2 ⟨e, he, hkey⟩, hkeys⟩
  · obtain ⟨key, hkey, hsplit⟩ := hfirst v hv
    rw [hkey]
    exact ⟨Option.some_ne_none key, hsplit⟩
  · exact distinct_distinctKeysFrom [] column entities

end Entity
end EntityQuery

/-
# Keyed lists

A keyed list is a list of pairs read as a finite map.  Two disciplines are used in this library.
`put` keeps first-insertion order: a known key gets the new value where it
stands, a new key goes to the end.  `insertSorted` keeps the keys in increasing
order, which is the order of their UTF-8 bytes.

`find?_put_self` and `find?_put_of_ne` say that `put` writes one key and no
other, and `keys_put` says where a key ends up.  `insertSorted` writes one key
and no other, too (`find?_insertSorted_self`, `find?_insertSorted_of_ne`).
-/

namespace EntityQuery
namespace Keyed

variable {α : Type}

/-- The value stored under a key: the first one, if there were several. -/
def find? (key : String) : List (String × α) → Option α
  | [] => none
  | (k, v) :: rest => if k = key then some v else find? key rest

/-- Whether a key is present. -/
def contains (key : String) (entries : List (String × α)) : Bool :=
  (find? key entries).isSome

/-- Replaces the value of a known key in place, or appends a new key. -/
def put (key : String) (value : α) : List (String × α) → List (String × α)
  | [] => [(key, value)]
  | (k, v) :: rest => if k = key then (key, value) :: rest else (k, v) :: put key value rest

/-- Removes a key; the other entries keep their order. -/
def erase (key : String) : List (String × α) → List (String × α)
  | [] => []
  | (k, v) :: rest => if k = key then rest else (k, v) :: erase key rest

/-- Inserts into a list whose keys increase, replacing the value of a known key. -/
def insertSorted (key : String) (value : α) : List (String × α) → List (String × α)
  | [] => [(key, value)]
  | (k, v) :: rest =>
    if k = key then (key, value) :: rest
    else if key < k then (key, value) :: (k, v) :: rest
    else (k, v) :: insertSorted key value rest

/-- The keys in order. -/
def keys (entries : List (String × α)) : List String :=
  entries.map Prod.fst

/-- Entries applied in order to an empty keyed list; a later entry overwrites. -/
def ofList (entries : List (String × α)) : List (String × α) :=
  entries.foldl (fun acc entry => put entry.1 entry.2 acc) []

@[simp] theorem find?_put_self (key : String) (value : α) (entries : List (String × α)) :
    find? key (put key value entries) = some value := by
  induction entries with
  | nil => simp [put, find?]
  | cons entry rest ih =>
    obtain ⟨k, v⟩ := entry
    by_cases h : k = key <;> simp [put, find?, h, ih]

theorem find?_put_of_ne {key other : String} (h : other ≠ key) (value : α)
    (entries : List (String × α)) : find? other (put key value entries) = find? other entries := by
  induction entries with
  | nil => simp [put, find?, Ne.symm h]
  | cons entry rest ih =>
    obtain ⟨k, v⟩ := entry
    by_cases hk : k = key
    · subst hk
      simp [put, find?, Ne.symm h]
    · simp [put, find?, hk, ih]

/-- **Where a key goes.**  A known key keeps its place and a new one is last. -/
theorem keys_put (key : String) (value : α) (entries : List (String × α)) :
    keys (put key value entries) =
      if key ∈ keys entries then keys entries else keys entries ++ [key] := by
  induction entries with
  | nil => simp [put, keys]
  | cons entry rest ih =>
    obtain ⟨k, v⟩ := entry
    simp only [keys] at ih
    by_cases hk : k = key
    · simp [put, keys, hk]
    · have hk' : ¬ key = k := fun e => hk e.symm
      by_cases hm : key ∈ rest.map Prod.fst
      · simp [put, keys, hk, hk', ih, hm]
      · simp [put, keys, hk, hk', ih, hm]

theorem find?_insertSorted_self (key : String) (value : α) (entries : List (String × α)) :
    find? key (insertSorted key value entries) = some value := by
  induction entries with
  | nil => simp [insertSorted, find?]
  | cons entry rest ih =>
      obtain ⟨k, v⟩ := entry
      rw [insertSorted]
      split
      · simp [find?]
      · rename_i hne
        split
        · simp [find?]
        · simp [find?, hne, ih]

theorem find?_insertSorted_of_ne {key other : String} (h : other ≠ key) (value : α)
    (entries : List (String × α)) :
    find? other (insertSorted key value entries) = find? other entries := by
  induction entries with
  | nil => simp [insertSorted, find?, Ne.symm h]
  | cons entry rest ih =>
      obtain ⟨k, v⟩ := entry
      rw [insertSorted]
      split
      · rename_i heq
        subst heq
        simp [find?, Ne.symm h]
      · split
        · simp [find?, Ne.symm h]
        · simp [find?, ih]

end Keyed
end EntityQuery

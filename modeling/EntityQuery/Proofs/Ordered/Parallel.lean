/-
# A row in two lists

A row can be stored as two lists, the names and the values at the same positions.  Every
operation then looks for the position of a name in the first list and uses it in the
second one, which fails if that list is shorter.

`editAll_parallel` says that this never happens and that nothing is lost by it: from the two
lists of a row, setting and removing columns always succeeds and gives the two lists of
the edited row.  Reading a column and taking it out find its value (`get_ofFields`,
`remove_ofFields`), and the two lists together are the row (`zip_ofFields`).

All of it rests on where a column stands: at its first entry, which is the one that a
keyed list replaces, removes and reads (`Keyed.exists_first_of_mem`,
`position_append_cons`).
-/

import EntityQuery.Proofs.Serialized.Members

namespace EntityQuery

/-! ### The entry of a key -/

namespace Keyed

variable {α : Type} {key : String} {entries before after : List (String × α)}

/-- The first entry of a key splits the list. -/
theorem exists_first_of_mem (h : key ∈ keys entries) :
    ∃ before value after, entries = before ++ (key, value) :: after ∧ key ∉ keys before := by
  induction entries with
  | nil => exact absurd h List.not_mem_nil
  | cons entry rest ih =>
      obtain ⟨k, v⟩ := entry
      by_cases hk : k = key
      · subst hk
        exact ⟨[], v, rest, rfl, List.not_mem_nil⟩
      · have hrest : key ∈ keys rest := (List.mem_cons.1 h).resolve_left (Ne.symm hk)
        obtain ⟨before, value, after, rfl, hbefore⟩ := ih hrest
        refine ⟨(k, v) :: before, value, after, rfl, fun hmem => ?_⟩
        exact (List.mem_cons.1 hmem).elim (fun heq => hk heq.symm) hbefore

theorem put_append (value : α) (h : key ∉ keys before) (after : List (String × α)) :
    put key value (before ++ after) = before ++ put key value after := by
  induction before with
  | nil => rfl
  | cons entry rest ih =>
      obtain ⟨hk, hrest⟩ := not_or.1 (mt List.mem_cons.2 h)
      rw [List.cons_append, put, if_neg (Ne.symm hk), ih hrest]
      rfl

theorem erase_append (h : key ∉ keys before) (after : List (String × α)) :
    erase key (before ++ after) = before ++ erase key after := by
  induction before with
  | nil => rfl
  | cons entry rest ih =>
      obtain ⟨hk, hrest⟩ := not_or.1 (mt List.mem_cons.2 h)
      rw [List.cons_append, erase, if_neg (Ne.symm hk), ih hrest]
      rfl

theorem put_of_not_mem (value : α) (h : key ∉ keys entries) :
    put key value entries = entries ++ [(key, value)] := by
  have happend := put_append value h []
  rwa [List.append_nil] at happend

theorem erase_of_not_mem (h : key ∉ keys entries) : erase key entries = entries := by
  have happend := erase_append h []
  rwa [List.append_nil, erase, List.append_nil] at happend

/-- The first entry of a key is the one that is replaced, removed and read. -/
theorem put_append_cons (value v : α) (h : key ∉ keys before) :
    put key value (before ++ (key, v) :: after) = before ++ (key, value) :: after := by
  rw [put_append value h, put, if_pos rfl]

theorem erase_append_cons (v : α) (h : key ∉ keys before) :
    erase key (before ++ (key, v) :: after) = before ++ after := by
  rw [erase_append h, erase, if_pos rfl]

theorem find?_append_cons (v : α) (h : key ∉ keys before) :
    find? key (before ++ (key, v) :: after) = some v := by
  rw [find?_append, find?_eq_none_iff.2 h, find?, if_pos rfl, Option.none_or]

end Keyed

namespace Row

/-- A change of one column. -/
inductive Edit where
  | set (column : String) (value : Value)
  | erase (column : String)

namespace Edit

/-- The column that is changed. -/
def column : Edit → String
  | set column _ => column
  | erase column => column

theorem set_ne_erase {column other : String} {value : Value} :
    Edit.set column value ≠ .erase other :=
  nofun

/-- The setting of a pair. -/
def ofPair (pair : String × Value) : Edit :=
  .set pair.1 pair.2

end Edit

/-- A row after an edit. -/
def edit (row : Row) : Edit → Row
  | .set column value => row.set column value
  | .erase column => row.erase column

/-- A row after several edits, in order. -/
def editAll (row : Row) (edits : List Edit) : Row :=
  edits.foldl edit row

/-- The names of columns, and their values at the same positions. -/
structure Parallel where
  columns : List String
  values : List Value

namespace Parallel

/-- Two empty lists. -/
def empty : Parallel := ⟨[], []⟩

/-- The position of a name. -/
def position (p : Parallel) (column : String) : Option Nat :=
  p.columns.findIdx? (· == column)

/-- Replaces the value at the position of the name, or appends to both lists.  There is no result
if the second list has no such position. -/
def set (p : Parallel) (column : String) (value : Value) : Option Parallel :=
  match p.position column with
  | some i => if i < p.values.length then some ⟨p.columns, p.values.set i value⟩ else none
  | none => some ⟨p.columns ++ [column], p.values ++ [value]⟩

/-- Takes the position of the name out of both lists, with the value that was there. -/
def remove (p : Parallel) (column : String) : Option (Option Value × Parallel) :=
  match p.position column with
  | some i =>
    match p.values[i]? with
    | some value => some (some value, ⟨p.columns.eraseIdx i, p.values.eraseIdx i⟩)
    | none => none
  | none => some (none, p)

/-- The value at the position of the name. -/
def get (p : Parallel) (column : String) : Option (Option Value) :=
  match p.position column with
  | some i => p.values[i]?.map some
  | none => some none

/-- The two lists after an edit. -/
def edit (p : Parallel) : Edit → Option Parallel
  | .set column value => p.set column value
  | .erase column => (p.remove column).map Prod.snd

/-- The two lists after several edits, in order. -/
def editAll (p : Parallel) (edits : List Edit) : Option Parallel :=
  edits.foldlM edit p

/-- The two lists of a list of settings, applied in order. -/
def ofPairs (pairs : List (String × Value)) : Option Parallel :=
  pairs.foldlM (fun p pair => p.set pair.1 pair.2) empty

/-- The two lists of the fields of a row. -/
def ofFields (fields : List (String × Value)) : Parallel :=
  ⟨Keyed.keys fields, fields.map Prod.snd⟩

variable {column : String} {value : Value} {fields before after : List (String × Value)}

theorem ofFields_append (before after : List (String × Value)) :
    ofFields (before ++ after) =
      ⟨Keyed.keys before ++ Keyed.keys after, before.map Prod.snd ++ after.map Prod.snd⟩ := by
  rw [ofFields, Keyed.keys, List.map_append, List.map_append]
  rfl

/-! ### Where a column stands -/

theorem position_of_not_mem (h : column ∉ Keyed.keys fields) :
    (ofFields fields).position column = none :=
  List.findIdx?_eq_none_iff.2 fun other hother => by
    simpa using fun heq : other = column => h (heq ▸ hother)

theorem position_append_cons (h : column ∉ Keyed.keys before) :
    (ofFields (before ++ (column, value) :: after)).position column = some before.length := by
  have hbefore : (Keyed.keys before).findIdx? (· == column) = none := position_of_not_mem h
  rw [position, ofFields_append, List.findIdx?_append, hbefore, Keyed.keys, Keyed.keys,
    List.map_cons, List.findIdx?_cons, if_pos BEq.rfl, List.length_map, Option.map_some,
    Option.none_or, Nat.zero_add]

/-! ### The operations of a row on its two lists -/

/-- **Setting never misses the second list**: it gives the two lists of the row that is set. -/
theorem set_ofFields (column : String) (value : Value) (fields : List (String × Value)) :
    (ofFields fields).set column value = some (ofFields (Keyed.put column value fields)) := by
  by_cases hmem : column ∈ Keyed.keys fields
  · obtain ⟨before, v, after, rfl, hbefore⟩ := Keyed.exists_first_of_mem hmem
    have hlt : before.length < (ofFields (before ++ (column, v) :: after)).values.length := by
      simp [ofFields]
    rw [set, position_append_cons hbefore, Keyed.put_append_cons value v hbefore]
    simp only [if_pos hlt]
    rw [ofFields_append, ofFields_append]
    simp [Keyed.keys, List.set_append_right]
  · rw [set, position_of_not_mem hmem, Keyed.put_of_not_mem value hmem, ofFields_append]
    rfl

/-- **Removing never misses it either**: it gives the value and the two lists of the other
columns. -/
theorem remove_ofFields (column : String) (fields : List (String × Value)) :
    (ofFields fields).remove column =
      some (Keyed.find? column fields, ofFields (Keyed.erase column fields)) := by
  by_cases hmem : column ∈ Keyed.keys fields
  · obtain ⟨before, v, after, rfl, hbefore⟩ := Keyed.exists_first_of_mem hmem
    have hvalue : (ofFields (before ++ (column, v) :: after)).values[before.length]? = some v := by
      simp [ofFields]
    rw [remove, position_append_cons hbefore, Keyed.erase_append_cons v hbefore,
      Keyed.find?_append_cons v hbefore]
    simp only [hvalue]
    rw [ofFields_append, ofFields_append]
    simp [Keyed.keys, List.eraseIdx_append_of_length_le]
  · rw [remove, position_of_not_mem hmem, Keyed.erase_of_not_mem hmem,
      Keyed.find?_eq_none_iff.2 hmem]

/-- **Reading finds the value of the row.** -/
theorem get_ofFields (column : String) (fields : List (String × Value)) :
    (ofFields fields).get column = some (Keyed.find? column fields) := by
  by_cases hmem : column ∈ Keyed.keys fields
  · obtain ⟨before, v, after, rfl, hbefore⟩ := Keyed.exists_first_of_mem hmem
    have hvalue : (ofFields (before ++ (column, v) :: after)).values[before.length]? = some v := by
      simp [ofFields]
    rw [get, position_append_cons hbefore, Keyed.find?_append_cons v hbefore]
    simp only [hvalue, Option.map_some]
  · rw [get, position_of_not_mem hmem, Keyed.find?_eq_none_iff.2 hmem]

theorem zip_ofFields (fields : List (String × Value)) :
    (ofFields fields).columns.zip (ofFields fields).values = fields :=
  (List.zip_of_prod rfl rfl).symm

end Parallel

/-- The two lists of a row. -/
def parallel (row : Row) : Parallel :=
  .ofFields row.fields

namespace Parallel

/-- One edit in the two lists of a row. -/
theorem edit_parallel (row : Row) (e : Edit) :
    row.parallel.edit e = some (row.edit e).parallel := by
  cases e with
  | set column value => exact set_ofFields column value row.fields
  | erase column =>
      rw [edit, parallel, remove_ofFields]
      rfl

/-- **A row can be kept in two lists.**  However often columns are set and removed, no position is
ever missing in the second list, and the two lists are those of the edited row. -/
theorem editAll_parallel (row : Row) (edits : List Edit) :
    row.parallel.editAll edits = some (row.editAll edits).parallel := by
  induction edits generalizing row with
  | nil => rfl
  | cons e rest ih =>
      rw [editAll, List.foldlM_cons, edit_parallel, Option.bind_eq_bind, Option.bind_some]
      exact ih (row.edit e)

theorem ofPairs_eq (pairs : List (String × Value)) :
    ofPairs pairs = some (Row.ofPairs pairs).parallel := by
  have hedits := editAll_parallel Row.empty (pairs.map .ofPair)
  rw [editAll, List.foldlM_map, Row.editAll, List.foldl_map] at hedits
  exact hedits

end Parallel
end Row
end EntityQuery

/-
# Rows keep the order of first insertion

What a row holds is read off the edits that made it.  The value of a column is that of
its last edit, if this edit set it (`LastSet`); a column is there if it was set and not
removed since (`Present`); and a column stands in the order of the edits that brought
it in, the first to set it after it was last removed (`Opens`).

Each of the three says how it changes when one more edit is made (`lastSet_concat`,
`present_concat`, `opens_concat`).  `Follows.edit` is that step for a row, and
`insertion_ordered` is the whole life of a row: two lists of equal length hold it, its
columns are distinct, and it follows its edits.
-/

import EntityQuery.Proofs.Ordered.Parallel
import EntityQuery.Proofs.Related.Matching
import Mathlib.Data.List.Basic
import Mathlib.Data.List.Induction

namespace EntityQuery

/-! ### Removing a key -/

namespace Keyed

variable {α : Type} {key other : String} {entries : List (String × α)}

theorem find?_erase_of_ne (h : other ≠ key) (entries : List (String × α)) :
    find? other (erase key entries) = find? other entries := by
  induction entries with
  | nil => rfl
  | cons entry rest ih =>
      obtain ⟨k, v⟩ := entry
      rw [erase]
      split
      · rename_i hk
        rw [find?, if_neg fun heq => h (heq.symm.trans hk)]
      · rw [find?, find?, ih]

/-- The keys that are left are the other ones, in order. -/
theorem keys_erase (h : (keys entries).Nodup) (key : String) :
    keys (erase key entries) = (keys entries).filter (· != key) := by
  rw [erase_eq_filter h, keys, keys, List.filter_map]
  rfl

end Keyed

namespace Row

/-! ### What edits say -/

variable {history : List Edit} {e : Edit} {column other : String} {value : Value} {i : Nat}

/-- The last edit of a column sets it to a value. -/
def LastSet (history : List Edit) (column : String) (value : Value) : Prop :=
  ∃ before after, history = before ++ .set column value :: after ∧ ∀ e ∈ after, e.column ≠ column

/-- A column was set and not removed since. -/
def Present (history : List Edit) (column : String) : Prop :=
  ∃ before value after, history = before ++ .set column value :: after ∧ .erase column ∉ after

/-- The edit at a position is the first one to set the column since it was last removed: it sets
the column, which was not present before, and which is not removed afterwards. -/
def Opens (history : List Edit) (i : Nat) (column : String) : Prop :=
  ∃ before value after, history = before ++ .set column value :: after ∧ before.length = i ∧
    ¬Present before column ∧ .erase column ∉ after

theorem not_lastSet_nil : ¬LastSet [] column value := by
  rintro ⟨before, after, heq, -⟩
  exact List.append_ne_nil_of_right_ne_nil before (List.cons_ne_nil _ _) heq.symm

theorem not_present_nil : ¬Present [] column := by
  rintro ⟨before, value, after, heq, -⟩
  exact List.append_ne_nil_of_right_ne_nil before (List.cons_ne_nil _ _) heq.symm

/-- What stands in a longer list stands in the shorter one, or it is the new last item. -/
theorem concat_eq_append_cons_iff {α : Type} {xs before after : List α} {x y : α} :
    xs ++ [x] = before ++ y :: after ↔
      (xs = before ∧ x = y ∧ after = []) ∨
        ∃ rest, xs = before ++ y :: rest ∧ after = rest ++ [x] := by
  rcases List.eq_nil_or_concat' after with rfl | ⟨rest, z, rfl⟩
  · simp
  · rw [← List.cons_append, ← List.append_assoc, List.append_singleton_inj]
    constructor
    · rintro ⟨rfl, rfl⟩
      exact .inr ⟨rest, rfl, rfl⟩
    · rintro (⟨-, -, hnil⟩ | ⟨more, rfl, hmore⟩)
      · exact absurd hnil (List.append_ne_nil_of_right_ne_nil rest (List.cons_ne_nil z []))
      · obtain ⟨rfl, rfl⟩ := List.append_singleton_inj.1 hmore
        exact ⟨rfl, rfl⟩

theorem lastSet_concat :
    LastSet (history ++ [e]) column value ↔
      e = .set column value ∨ e.column ≠ column ∧ LastSet history column value := by
  constructor
  · rintro ⟨before, after, heq, hafter⟩
    rcases concat_eq_append_cons_iff.1 heq with ⟨-, rfl, -⟩ | ⟨rest, rfl, rfl⟩
    · exact .inl rfl
    · obtain ⟨hrest, he⟩ := List.forall_mem_append.1 hafter
      exact .inr ⟨he e (List.mem_singleton.2 rfl), before, rest, rfl, hrest⟩
  · rintro (rfl | ⟨he, before, after, rfl, hafter⟩)
    · exact ⟨history, [], rfl, List.forall_mem_nil _⟩
    · refine ⟨before, after ++ [e], by rw [List.append_assoc, List.cons_append], ?_⟩
      exact List.forall_mem_append.2 ⟨hafter, List.forall_mem_singleton.2 he⟩

theorem present_concat :
    Present (history ++ [e]) column ↔
      (∃ value, e = .set column value) ∨ e ≠ .erase column ∧ Present history column := by
  constructor
  · rintro ⟨before, value, after, heq, hafter⟩
    rcases concat_eq_append_cons_iff.1 heq with ⟨-, rfl, -⟩ | ⟨rest, rfl, rfl⟩
    · exact .inl ⟨value, rfl⟩
    · obtain ⟨hrest, he⟩ := not_or.1 (mt List.mem_append.2 hafter)
      exact .inr ⟨fun h => he (h ▸ List.mem_singleton_self _), before, value, rest, rfl, hrest⟩
  · rintro (⟨value, rfl⟩ | ⟨he, before, value, after, rfl, hafter⟩)
    · exact ⟨history, value, [], rfl, List.not_mem_nil⟩
    · refine ⟨before, value, after ++ [e], by rw [List.append_assoc, List.cons_append], ?_⟩
      exact fun h => (List.mem_append.1 h).elim hafter fun h => he (List.mem_singleton.1 h).symm

theorem opens_concat :
    Opens (history ++ [e]) i column ↔
      (history.length = i ∧ ¬Present history column ∧ ∃ value, e = .set column value) ∨
        e ≠ .erase column ∧ Opens history i column := by
  constructor
  · rintro ⟨before, value, after, heq, hlength, hnew, hafter⟩
    rcases concat_eq_append_cons_iff.1 heq with ⟨rfl, rfl, -⟩ | ⟨rest, rfl, rfl⟩
    · exact .inl ⟨hlength, hnew, value, rfl⟩
    · obtain ⟨hrest, he⟩ := not_or.1 (mt List.mem_append.2 hafter)
      exact .inr ⟨fun h => he (h ▸ List.mem_singleton_self _), before, value, rest, rfl, hlength,
        hnew, hrest⟩
  · rintro (⟨hlength, hnew, value, rfl⟩ | ⟨he, before, value, after, rfl, hlength, hnew, hafter⟩)
    · exact ⟨history, value, [], rfl, hlength, hnew, List.not_mem_nil⟩
    · refine ⟨before, value, after ++ [e], by rw [List.append_assoc, List.cons_append], hlength,
        hnew, ?_⟩
      exact fun h => (List.mem_append.1 h).elim hafter fun h => he (List.mem_singleton.1 h).symm

theorem Opens.lt_length (h : Opens history i column) : i < history.length := by
  obtain ⟨before, value, after, rfl, rfl, -⟩ := h
  rw [List.length_append, List.length_cons]
  omega

/-- A column is present if some edit brought it in. -/
theorem present_iff_opens : Present history column ↔ ∃ i, Opens history i column := by
  induction history using List.reverseRecOn with
  | nil =>
      refine iff_of_false not_present_nil ?_
      rintro ⟨i, h⟩
      exact Nat.not_lt_zero i h.lt_length
  | append_singleton history e ih =>
      simp only [present_concat, opens_concat]
      constructor
      · rintro (hset | ⟨he, hpresent⟩)
        · by_cases hpresent : Present history column
          · obtain ⟨i, hi⟩ := ih.1 hpresent
            obtain ⟨value, rfl⟩ := hset
            exact ⟨i, .inr ⟨Edit.set_ne_erase, hi⟩⟩
          · exact ⟨history.length, .inl ⟨rfl, hpresent, hset⟩⟩
        · obtain ⟨i, hi⟩ := ih.1 hpresent
          exact ⟨i, .inr ⟨he, hi⟩⟩
      · rintro ⟨i, ⟨-, -, hset⟩ | ⟨he, hi⟩⟩
        · exact .inl hset
        · exact .inr ⟨he, ih.2 ⟨i, hi⟩⟩

/-! ### What an edit does to a row -/

theorem get?_edit_self (row : Row) (hdistinct : row.columns.Nodup) (e : Edit) :
    (row.edit e).get? e.column = some value ↔ e = .set e.column value := by
  cases e with
  | set column v =>
      rw [edit, Edit.column, get?_set_self]
      exact ⟨fun h => Option.some.inj h ▸ rfl, fun h => congrArg some (Edit.set.inj h).2⟩
  | erase column =>
      have hgone : column ∉ Keyed.keys (Keyed.erase column row.fields) := by
        rw [Keyed.keys_erase hdistinct]
        simp
      rw [edit, Edit.column, get?, erase, Keyed.find?_eq_none_iff.2 hgone]
      exact iff_of_false (Option.some_ne_none value).symm Edit.set_ne_erase.symm

/-- **An edit leaves the values of other columns.** -/
theorem get?_edit_of_ne (row : Row) (h : e.column ≠ other) :
    (row.edit e).get? other = row.get? other := by
  cases e with
  | set column value => exact get?_set_of_ne row (Ne.symm h) value
  | erase column => exact Keyed.find?_erase_of_ne (Ne.symm h) row.fields

/-- **An edit leaves the order of other columns.** -/
theorem filter_columns_edit (row : Row) (hdistinct : row.columns.Nodup) {kept : String → Bool}
    (h : kept e.column = false) : (row.edit e).columns.filter kept = row.columns.filter kept := by
  cases e with
  | set column value =>
      rw [edit, set, columns, Keyed.keys_put]
      split
      · rfl
      · rw [List.filter_append, List.filter_singleton]
        rw [Edit.column] at h
        rw [h]
        exact List.append_nil _
  | erase column =>
      rw [edit, erase, columns, Keyed.keys_erase hdistinct, List.filter_filter]
      refine List.filter_congr fun other _ => ?_
      by_cases heq : other = column
      · rw [heq, show kept column = false from h]
        rfl
      · simp [heq]

theorem mem_columns_edit (row : Row) (hdistinct : row.columns.Nodup) :
    column ∈ (row.edit e).columns ↔
      (∃ value, e = .set column value) ∨ e ≠ .erase column ∧ column ∈ row.columns := by
  cases e with
  | set changed value =>
      rw [edit, set, columns, Keyed.keys_put]
      split
      · rename_i hold
        refine ⟨fun h => .inr ⟨Edit.set_ne_erase, h⟩, ?_⟩
        rintro (⟨v, heq⟩ | ⟨-, h⟩)
        · exact (Edit.set.inj heq).1 ▸ hold
        · exact h
      · rw [List.mem_append, List.mem_singleton, or_comm]
        refine or_congr ⟨fun h => ⟨value, h ▸ rfl⟩, ?_⟩ (and_iff_right Edit.set_ne_erase).symm
        rintro ⟨v, heq⟩
        exact (Edit.set.inj heq).1.symm
  | erase changed =>
      rw [edit, erase, columns, Keyed.keys_erase hdistinct, List.mem_filter]
      constructor
      · rintro ⟨hmem, hne⟩
        exact .inr ⟨fun heq => bne_iff_ne.1 hne (Edit.erase.inj heq).symm, hmem⟩
      · rintro (⟨v, heq⟩ | ⟨hne, hmem⟩)
        · exact absurd heq.symm Edit.set_ne_erase
        · exact ⟨hmem, bne_iff_ne.2 fun heq => hne (heq ▸ rfl)⟩

/-! ### Rows follow their edits -/

/-- What a row holds is what its edits say. -/
structure Follows (row : Row) (history : List Edit) : Prop where
  distinct : row.columns.Nodup
  value : ∀ column value, row.get? column = some value ↔ LastSet history column value
  present : ∀ column, column ∈ row.columns ↔ Present history column
  order : row.columns.Pairwise fun column other =>
    ∀ i j, Opens history i column → Opens history j other → i < j

theorem follows_empty : empty.Follows [] where
  distinct := List.nodup_nil
  value _ _ := iff_of_false nofun not_lastSet_nil
  present _ := iff_of_false List.not_mem_nil not_present_nil
  order := .nil

theorem nodup_columns_edit {row : Row} (h : row.columns.Nodup) (e : Edit) :
    (row.edit e).columns.Nodup := by
  cases e with
  | set column value => exact Keyed.nodup_keys_put h column value
  | erase column => exact h.sublist ((Keyed.erase_sublist column _).map Prod.fst)

/-- The columns that an edit keeps were opened where they are opened now. -/
theorem Follows.opens_of_opens_concat {row : Row} (h : row.Follows history)
    (hmem : column ∈ row.columns) (hopens : Opens (history ++ [e]) i column) :
    Opens history i column := by
  rcases opens_concat.1 hopens with ⟨-, hnew, -⟩ | ⟨-, hold⟩
  · exact absurd ((h.present column).1 hmem) hnew
  · exact hold

theorem Follows.order_edit {row : Row} (h : row.Follows history) (e : Edit) :
    (row.edit e).columns.Pairwise fun column other =>
      ∀ i j, Opens (history ++ [e]) i column → Opens (history ++ [e]) j other → i < j := by
  -- What was there before stands in the same order; only a new column has a new place.
  have hold : row.columns.Pairwise fun column other =>
      ∀ i j, Opens (history ++ [e]) i column → Opens (history ++ [e]) j other → i < j :=
    h.order.imp_of_mem fun hcolumn hother hlt i j hi hj =>
      hlt i j (h.opens_of_opens_concat hcolumn hi) (h.opens_of_opens_concat hother hj)
  cases e with
  | set changed value =>
      rw [Row.edit, set, columns, Keyed.keys_put]
      split
      · exact hold
      · rename_i hnew
        refine List.pairwise_append.2 ⟨hold, List.pairwise_singleton _ _, ?_⟩
        intro column hcolumn other hother i j hi hj
        obtain rfl := List.mem_singleton.1 hother
        have hi := (h.opens_of_opens_concat hcolumn hi).lt_length
        rcases opens_concat.1 hj with ⟨rfl, -, -⟩ | ⟨-, hj⟩
        · exact hi
        · exact absurd ((h.present other).2 (present_iff_opens.2 ⟨j, hj⟩)) hnew
  | erase changed => exact hold.sublist ((Keyed.erase_sublist changed _).map Prod.fst)

/-- **One more edit.** -/
theorem Follows.edit {row : Row} (h : row.Follows history) (e : Edit) :
    (row.edit e).Follows (history ++ [e]) where
  distinct := nodup_columns_edit h.distinct e
  value column value := by
    rw [lastSet_concat]
    by_cases hcolumn : e.column = column
    · subst hcolumn
      rw [get?_edit_self row h.distinct e]
      exact (or_iff_left fun hne => hne.1 rfl).symm
    · rw [get?_edit_of_ne row hcolumn, h.value column value, and_iff_right hcolumn]
      exact (or_iff_right fun heq : e = .set column value => hcolumn (heq ▸ rfl)).symm
  present column := by
    rw [mem_columns_edit row h.distinct, present_concat, h.present column]
  order := h.order_edit e

theorem Follows.editAll {row : Row} (h : row.Follows history) (edits : List Edit) :
    (row.editAll edits).Follows (history ++ edits) := by
  induction edits generalizing row history with
  | nil => rwa [List.append_nil]
  | cons e rest ih =>
      have hrest := ih (h.edit e)
      rwa [List.append_assoc] at hrest

/-- **A row of settings follows them, and then its edits.** -/
theorem follows_ofPairs (pairs : List (String × Value)) (edits : List Edit) :
    ((ofPairs pairs).editAll edits).Follows (pairs.map .ofPair ++ edits) := by
  have hmade : ofPairs pairs = empty.editAll (pairs.map .ofPair) := by
    rw [ofPairs, editAll, List.foldl_map]
    rfl
  rw [hmade, editAll, editAll, ← List.foldl_append]
  exact follows_empty.editAll _

/-- **Edits of some columns leave the others.** -/
theorem editAll_others (row : Row) (h : row.columns.Nodup) {edits : List Edit}
    {kept : String → Bool} (hkept : ∀ e ∈ edits, kept e.column = false) :
    (row.editAll edits).columns.filter kept = row.columns.filter kept ∧
      ∀ column, kept column = true → (row.editAll edits).get? column = row.get? column := by
  induction edits generalizing row with
  | nil => exact ⟨rfl, fun _ _ => rfl⟩
  | cons e rest ih =>
      obtain ⟨he, hrest⟩ := List.forall_mem_cons.1 hkept
      obtain ⟨hcolumns, hvalues⟩ := ih (row.edit e) (nodup_columns_edit h e) hrest
      refine ⟨hcolumns.trans (filter_columns_edit row h he), fun column hcolumn => ?_⟩
      refine (hvalues column hcolumn).trans (get?_edit_of_ne row fun heq => ?_)
      rw [heq, hcolumn] at he
      exact nomatch he

/-- **A row is an insertion-ordered map.**  From the empty row or a row of settings, through any
edits, two lists hold the row: no position is ever missing, they have equal length, and reading and
removing find the values.  The columns are distinct, each has the value of its last setting unless
it was removed after it, and they stand in the order of their first setting after their last
removal.  Further edits leave the values and the order of all columns but their own. -/
theorem insertion_ordered (pairs : List (String × Value)) (edits : List Edit) :
    let row := (ofPairs pairs).editAll edits
    let history := pairs.map Edit.ofPair ++ edits
    (∃ stored, (Parallel.ofPairs pairs).bind (·.editAll edits) = some stored ∧
      stored.columns.length = stored.values.length ∧ stored.columns = row.columns ∧
      stored.columns.zip stored.values = row.fields ∧
      ∀ column, stored.get column = some (row.get? column) ∧
        stored.remove column = some (row.get? column, (row.erase column).parallel)) ∧
    row.Follows history ∧
    (∀ column, column ∈ row.columns ↔ ∃ i, Opens history i column) ∧
    ∀ (more : List Edit) (kept : String → Bool), (∀ e ∈ more, kept e.column = false) →
      (row.editAll more).columns.filter kept = row.columns.filter kept ∧
        ∀ column, kept column = true → (row.editAll more).get? column = row.get? column := by
  intro row history
  have hfollows : row.Follows history := follows_ofPairs pairs edits
  refine ⟨⟨row.parallel, ?_, ?_, rfl, Parallel.zip_ofFields row.fields, fun column => ⟨?_, ?_⟩⟩,
    hfollows, fun column => (hfollows.present column).trans present_iff_opens,
    fun more kept hkept => editAll_others row hfollows.distinct hkept⟩
  · rw [Parallel.ofPairs_eq, Option.bind_some]
    exact Parallel.editAll_parallel _ edits
  · exact (List.length_map _).trans (List.length_map _).symm
  · exact Parallel.get_ofFields column row.fields
  · exact Parallel.remove_ofFields column row.fields

/-- A column that comes back goes to the end, one that is set again stays. -/
example : ((ofPairs [("id", .int 1), ("name", .null)]).editAll
    [.erase "id", .set "name" (.int 2), .set "id" (.int 3)]).columns = ["name", "id"] := by
  decide

end Row
end EntityQuery

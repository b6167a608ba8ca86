/-
# The columns of an UPSERT

An UPSERT names columns in three places: those it inserts, those of the conflict
and those it updates on conflict.  The first two come from `upsert`, which refuses a
blank name among the one and drops it from the other; the third come from
`upsertColumns`, which may be called before or after, and which neither refuses nor
drops a blank name.

Whatever was called before it, the last `upsert` decides about data and conflict
(`exists_upsert_of_build`), since an accepted call of another kind would have changed
the kind, and every other call leaves the mutation alone (`graft_mutation_apply`).
The last `upsertColumns` decides about the update (`upsertUpdate_applyAll`).  So
`upsert_names_columns_iff` reads the whole text off these two calls, and says when
every column in it has a name.
-/

import EntityQuery.Proofs.Built.Conditions
import EntityQuery.Proofs.Built.Parts
import EntityQuery.Proofs.Built.Rejected
import EntityQuery.Proofs.Order.Family
import EntityQuery.Proofs.Quiet.Text
import Mathlib.Data.List.Induction

namespace EntityQuery

/-- A text that can name a column: it is not empty, and no blanks stand around it. -/
def Text.IsName (name : String) : Prop :=
  name ≠ "" ∧ Text.trim name = name

theorem Text.isName_trim_iff {name : String} : IsName (trim name) ↔ trim name ≠ "" :=
  and_iff_left (trim_trim name)

namespace Call

/-- The data and the unique columns that an UPSERT is made with. -/
def upsert? : Call → Option (List (String × Value) × List String)
  | .upsert data unique => some (data, unique)
  | _ => none

/-- The columns that a call names for the update of an UPSERT. -/
def upsertColumns? : Call → Option (List String)
  | .upsertColumns columns => some columns
  | _ => none

/-- What the last of the calls that speak of a matter says about it. -/
def last? {α : Type} (said : Call → Option α) (calls : List Call) : Option α :=
  (calls.filterMap said).getLast?

theorem last?_concat {α : Type} (said : Call → Option α) (calls : List Call) (c : Call) :
    last? said (calls ++ [c]) = (said c).or (last? said calls) := by
  rw [last?, List.filterMap_append, List.getLast?_append, last?]
  cases hc : said c with
  | none => rw [List.filterMap_cons_none hc, List.filterMap_nil, List.getLast?_nil]
  | some a => rw [List.filterMap_cons_some hc, List.filterMap_nil, List.getLast?_singleton]

end Call

namespace Statement

variable {s t : Statement} {c : Call} {calls : List Call}

/-! ### One call -/

/-- **An accepted call that is not on a mutation leaves the mutation alone.** -/
theorem graft_mutation_apply (hkind : c.setsKind = false) (hcolumns : c.upsertColumns? = none)
    (h : (s.apply c).buildError = none) :
    graft .mutation t (s.apply c) = graft .mutation t s := by
  have hs := accepted_of_apply h
  cases c with
  | upsertColumns => exact nomatch hcolumns
  | softDelete | restore | insert | insertOrIgnore | update | delete | upsert =>
      exact nomatch hkind
  | fromTable | model | dialect | forPage =>
      rw [apply]
      rfl
  | _ => exact (isLocal_apply rfl).graft_of_ne (by decide) hs h

/-- What stands in the mutation of a statement, besides its kind and columns. -/
theorem parts_of_graft {u : Statement} (h : graft .mutation s t = graft .mutation s u) :
    t.bindings.mutation = u.bindings.mutation ∧ t.upsertUpdate = u.upsertUpdate := by
  have hbindings := congrArg (fun v : Statement => v.bindings.mutation) h
  have hupdate := congrArg (fun v : Statement => v.upsertUpdate) h
  exact ⟨hbindings, hupdate⟩

theorem mutation_apply (hkind : c.setsKind = false) (h : (s.apply c).buildError = none) :
    (s.apply c).bindings.mutation = s.bindings.mutation := by
  cases hcolumns : c.upsertColumns? with
  | none => exact (parts_of_graft (graft_mutation_apply (t := s) hkind hcolumns h)).1
  | some columns =>
      cases c with
      | upsertColumns =>
          rw [apply]
          rfl
      | _ => exact nomatch hcolumns

theorem kind_setMutation {kind : Kind} {data : List (String × Value)}
    (h : (s.setMutation kind data).buildError = none) : (s.setMutation kind data).kind = kind := by
  rw [(setMutation_of_accepted h).2.2.2.2]

theorem upsertUpdate_setMutation {kind : Kind} {data : List (String × Value)}
    (h : (s.setMutation kind data).buildError = none) :
    (s.setMutation kind data).upsertUpdate = s.upsertUpdate := by
  rw [(setMutation_of_accepted h).2.2.2.2]

/-- A call that sets the kind sets the data of a mutation, unless it is an UPSERT or a DELETE. -/
theorem exists_eq_setMutation (hkind : c.setsKind = true) (hupsert : c.upsert? = none)
    (hdelete : c ≠ .delete) :
    ∃ (r : Statement) (kind : Kind) (data : List (String × Value)),
      s.apply c = r.setMutation kind data ∧ kind ≠ .upsert ∧ r.upsertUpdate = s.upsertUpdate := by
  cases c with
  | insert data => exact ⟨s, .insert, data, by rw [apply, insert], by decide, rfl⟩
  | insertOrIgnore data =>
      exact ⟨s, .insertIgnore, data, by rw [apply, insertOrIgnore], by decide, rfl⟩
  | update data => exact ⟨s, .update, data, by rw [apply, update], by decide, rfl⟩
  | softDelete => exact ⟨s, .update, _, by rw [apply, softDelete, update], by decide, rfl⟩
  | restore => exact ⟨s.withTrashed, .update, _, by rw [apply, restore, update], by decide, rfl⟩
  | delete => exact absurd rfl hdelete
  | upsert => exact nomatch hupsert
  | _ => exact nomatch hkind

/-- Only the call that names the columns to update changes them. -/
theorem upsertUpdate_apply (h : (s.apply c).buildError = none) :
    (s.apply c).upsertUpdate =
      (c.upsertColumns?.map (List.map Text.trim)).or s.upsertUpdate := by
  have hset := exists_eq_setMutation (s := s) (c := c)
  cases c with
  | upsertColumns =>
      rw [apply]
      rfl
  | insert | insertOrIgnore | update | softDelete | restore =>
      obtain ⟨r, kind, data, heq, -, hsame⟩ := hset rfl rfl nofun
      rw [heq] at h ⊢
      exact (upsertUpdate_setMutation h).trans hsame
  | delete =>
      rw [apply, delete] at h ⊢
      rw [(setKind_of_accepted h).2.2]
      rfl
  | upsert =>
      rw [apply] at h ⊢
      obtain ⟨hdata, -, heq⟩ := upsert_of_accepted h
      rw [heq]
      exact upsertUpdate_setMutation hdata
  | _ => exact (parts_of_graft (graft_mutation_apply (t := s) rfl rfl h)).2

/-- The statement has the parts of an UPSERT with data and unique columns. -/
structure HasUpsert (s : Statement) (data : List (String × Value)) (unique : List String) :
    Prop where
  columns : s.mutationColumns = columnsOf data
  values : s.bindings.mutation = data.map Prod.snd
  conflict : s.upsertUnique = uniqueColumns unique
  data_ne_nil : data ≠ []
  named : ∀ d ∈ data, Text.trim d.1 ≠ ""
  conflict_ne_nil : uniqueColumns unique ≠ []

theorem HasUpsert.columnsOf_ne_nil {data : List (String × Value)} {unique : List String}
    (hs : s.HasUpsert data unique) : columnsOf data ≠ [] :=
  fun hnil => hs.data_ne_nil (List.map_eq_nil_iff.1 hnil)

theorem hasUpsert_upsert {data : List (String × Value)} {unique : List String}
    (h : (s.upsert data unique).buildError = none) :
    (s.upsert data unique).HasUpsert data unique := by
  obtain ⟨hset, hunique, heq⟩ := upsert_of_accepted h
  obtain ⟨-, -, hdata, hnamed, hmutation⟩ := setMutation_of_accepted hset
  rw [heq, hmutation]
  exact ⟨rfl, rfl, rfl, hdata, hnamed, hunique⟩

theorem HasUpsert.apply {data : List (String × Value)} {unique : List String}
    (hs : s.HasUpsert data unique) (hkind : c.setsKind = false)
    (h : (s.apply c).buildError = none) : (s.apply c).HasUpsert data unique where
  columns := ((frame_apply h).mutationColumns hkind).trans hs.columns
  values := (mutation_apply hkind h).trans hs.values
  conflict := ((frame_apply h).upsertUnique hkind).trans hs.conflict
  data_ne_nil := hs.data_ne_nil
  named := hs.named
  conflict_ne_nil := hs.conflict_ne_nil

/-- A call that sets another kind does not give an UPSERT. -/
theorem setsKind_eq_false (hc : c.upsert? = none) (h : (s.apply c).buildError = none)
    (hkind : (s.apply c).kind = .upsert) : c.setsKind = false := by
  refine Bool.eq_false_iff.2 fun hsets => ?_
  by_cases hdelete : c = .delete
  · rw [hdelete, apply, delete] at h hkind
    rw [(setKind_of_accepted h).2.2] at hkind
    exact nomatch hkind
  · obtain ⟨r, kind, data, heq, hother, -⟩ := exists_eq_setMutation (s := s) hsets hc hdelete
    rw [heq] at h hkind
    exact hother ((kind_setMutation h).symm.trans hkind)

/-! ### Sequences of calls -/

/-- **The last call that names columns to update decides about them.** -/
theorem upsertUpdate_build {context : Context} (h : (build context calls).buildError = none) :
    (build context calls).upsertUpdate =
      (Call.last? Call.upsertColumns? calls).map (List.map Text.trim) := by
  induction calls using List.reverseRecOn with
  | nil => rfl
  | append_singleton calls c ih =>
      rw [build_append, applyAll, applyAll] at h ⊢
      rw [upsertUpdate_apply h, ih (accepted_of_apply h), Call.last?_concat]
      cases c.upsertColumns? <;> rfl

/-- **The last `upsert` decides about the data and the conflict.** -/
theorem exists_hasUpsert_build {context : Context} (h : (build context calls).buildError = none)
    (hkind : (build context calls).kind = .upsert) :
    ∃ data unique, Call.last? Call.upsert? calls = some (data, unique) ∧
      (build context calls).HasUpsert data unique := by
  -- By the last call: it is an `upsert`, or what was an UPSERT before it still is.
  induction calls using List.reverseRecOn with
  | nil => exact nomatch hkind
  | append_singleton calls c ih =>
      rw [build_append, applyAll, applyAll] at h hkind ⊢
      rw [Call.last?_concat]
      cases hc : c.upsert? with
      | none =>
          have hsets := setsKind_eq_false hc h hkind
          rw [(frame_apply h).kind hsets] at hkind
          obtain ⟨data, unique, hlast, hparts⟩ := ih (accepted_of_apply h) hkind
          exact ⟨data, unique, hlast, hparts.apply hsets h⟩
      | some call =>
          cases c with
          | upsert data unique =>
              obtain rfl := Option.some.inj hc
              rw [apply] at h ⊢
              exact ⟨data, unique, rfl, hasUpsert_upsert h⟩
          | _ => exact nomatch hc

/-! ### The text -/

/-- The columns that an UPSERT updates: those named for it, or else all that it inserts. -/
def updatedColumns (inserted named : List String) : List String :=
  if named.isEmpty then inserted else named.map Text.trim

theorem updatedColumns_ne_nil {inserted : List String} (named : List String)
    (h : inserted ≠ []) : updatedColumns inserted named ≠ [] := by
  unfold updatedColumns
  split
  · exact h
  · rename_i hnamed
    exact fun hnil => hnamed (List.isEmpty_iff.2 (List.map_eq_nil_iff.1 hnil))

/-- The columns to update have names if none of those named for it is blank. -/
theorem isName_updatedColumns_iff {inserted named : List String}
    (h : ∀ c ∈ inserted, Text.IsName c) :
    (∀ c ∈ updatedColumns inserted named, Text.IsName c) ↔ ∀ c ∈ named, Text.trim c ≠ "" := by
  unfold updatedColumns
  split
  · rename_i hnamed
    rw [List.isEmpty_iff.1 hnamed]
    exact iff_of_true h nofun
  · simp only [List.forall_mem_map, Text.isName_trim_iff]

theorem isName_columnsOf {data : List (String × Value)} (h : ∀ d ∈ data, Text.trim d.1 ≠ "") :
    ∀ c ∈ columnsOf data, Text.IsName c := by
  simp only [columnsOf, List.forall_mem_map, Text.isName_trim_iff]
  exact h

theorem isName_uniqueColumns (unique : List String) :
    ∀ c ∈ uniqueColumns unique, Text.IsName c := by
  intro c hc
  rw [uniqueColumns, List.mem_filter, List.mem_map] at hc
  obtain ⟨⟨name, -, rfl⟩, hempty⟩ := hc
  refine Text.isName_trim_iff.2 fun hnil => ?_
  rw [hnil] at hempty
  exact nomatch hempty

/-- The text of an UPSERT by the columns in it. -/
def upsertText (s : Statement) (inserted conflict updated : List String) : String :=
  "INSERT INTO " ++ s.insertBody (inserted.map s.quoting.column) ++ " ON CONFLICT (" ++
    Text.joinWith ", " (conflict.map s.quoting.column) ++ ") DO UPDATE SET " ++
    Text.joinWith ", "
      (updated.map fun c => s.quoting.column c ++ " = EXCLUDED." ++ s.quoting.column c)

theorem upsertSet_of_named {named : Option (List String)} (inserted : List String)
    (hnamed : s.upsertUpdate = named.map (List.map Text.trim)) :
    s.upsertSet (inserted.map s.quoting.column) =
      (updatedColumns inserted (named.getD [])).map s.quoting.column := by
  rw [upsertSet, hnamed]
  cases named with
  | none => rfl
  | some names =>
      cases names with
      | nil => rfl
      | cons name names => rfl

theorem upsertSql_of_hasUpsert {data : List (String × Value)} {unique : List String}
    {named : Option (List String)} (hs : s.HasUpsert data unique)
    (hnamed : s.upsertUpdate = named.map (List.map Text.trim)) :
    s.upsertSql =
      .ok (s.upsertText (columnsOf data) (uniqueColumns unique)
        (updatedColumns (columnsOf data) (named.getD []))) := by
  have hconflict : ¬s.upsertUnique.isEmpty = true := by
    rw [hs.conflict]
    exact fun hempty => hs.conflict_ne_nil (List.isEmpty_iff.1 hempty)
  have hinserted : s.mutationList = .ok ((columnsOf data).map s.quoting.column) := by
    rw [mutationList_of_columns (hs.columns ▸ hs.columnsOf_ne_nil), hs.columns]
  have hupdated := upsertSet_of_named (columnsOf data) hnamed
  rw [upsertSql, if_neg hconflict, hinserted]
  show Except.ok _ = Except.ok _
  rw [hupdated, hs.conflict, List.map_map]
  rfl

/-- **When every column in an UPSERT has a name.**  Its text is the one for the data and the
conflict of the last `upsert` and for the columns that the last `upsertColumns` names, or else all
that are inserted.  No list of columns is empty, there is a placeholder for every inserted column
and nothing else, and the columns that are inserted and those of the conflict have names.  Those
that are updated have names if and only if no blank name is among those of the last
`upsertColumns`. -/
theorem upsert_names_columns_iff {context : Context} {query : Compiled}
    (hkind : (build context calls).kind = .upsert)
    (h : (build context calls).compile = .ok query) :
    ∃ data unique, Call.last? Call.upsert? calls = some (data, unique) ∧
      let inserted := columnsOf data
      let conflict := uniqueColumns unique
      let named := (Call.last? Call.upsertColumns? calls).getD []
      let updated := updatedColumns inserted named
      query.sql = (build context calls).upsertText inserted conflict updated ∧
      query.bindings = data.map Prod.snd ∧
      Placeholder.count context.config.quoting.quote query.sql = inserted.length ∧
      (inserted ≠ [] ∧ conflict ≠ [] ∧ updated ≠ []) ∧
      (∀ c ∈ inserted ++ conflict, Text.IsName c) ∧
      ((∀ c ∈ updated, Text.IsName c) ↔ ∀ c ∈ named, Text.trim c ≠ "") := by
  obtain ⟨haccepted, -, hsql, hbindings, hcount⟩ := compile_of_ok h
  obtain ⟨data, unique, hlast, hparts⟩ := exists_hasUpsert_build haccepted hkind
  have hnamed := upsertUpdate_build haccepted
  have hvalues : (build context calls).values = data.map Prod.snd := by
    rw [values, hkind, ← hparts.values]
    exact List.append_nil _
  have hinserted := hparts.columnsOf_ne_nil
  have hnames := isName_columnsOf hparts.named
  refine ⟨data, unique, hlast, ?_, hbindings.trans hvalues, ?_,
    ⟨hinserted, hparts.conflict_ne_nil, updatedColumns_ne_nil _ hinserted⟩, ?_,
    isName_updatedColumns_iff hnames⟩
  · rw [text, hkind] at hsql
    exact Except.ok.inj (hsql.symm.trans (upsertSql_of_hasUpsert hparts hnamed))
  · rw [(settings_build haccepted).1, hvalues] at hcount
    rw [hcount, columnsOf, List.length_map, List.length_map]
  · intro c hc
    rcases List.mem_append.1 hc with hc | hc
    · exact hnames c hc
    · exact isName_uniqueColumns unique c hc

/-- Calls that make an UPSERT again and name the columns to update before it and between. -/
def narrowedUpsert : List Call :=
  [.fromTable "users", .upsertColumns ["email"], .upsert [("id", .int 1)] ["id"],
    .upsertColumns [" name "],
    .upsert [(" email", .text "a@x.com"), ("name", .text "A")] ["email", " "]]

/-- What these calls compile to. -/
def narrowedQuery : Compiled :=
  ⟨"INSERT INTO users (`email`, `name`) VALUES (?, ?) ON CONFLICT (`email`) " ++
    "DO UPDATE SET `name` = EXCLUDED.`name`", [.text "a@x.com", .text "A"]⟩

set_option maxRecDepth 20000 in
theorem upsert_names_columns_iff_narrowed :
    (build {} narrowedUpsert).kind = .upsert ∧
      (build {} narrowedUpsert).compile = .ok narrowedQuery ∧
      ∀ c ∈ updatedColumns ["email", "name"] [" name "], Text.IsName c := by
  have hkind : (build {} narrowedUpsert).kind = .upsert := rfl
  have hcompile : (build {} narrowedUpsert).compile = .ok narrowedQuery := rfl
  obtain ⟨data, unique, hlast, -, -, -, -, -, hiff⟩ := upsert_names_columns_iff hkind hcompile
  obtain ⟨rfl, rfl⟩ := Prod.mk.inj (Option.some.inj hlast)
  exact ⟨hkind, hcompile, hiff.2 (by decide)⟩

set_option maxRecDepth 20000 in
/-- A blank name among the columns to update stands in the text as a column without a name; among
the columns of the conflict it is dropped, and among the inserted ones it is refused. -/
theorem upsert_updates_blank_column :
    let data : List (String × Value) := [("email", .text "a@x.com"), ("name", .text "A")]
    (build {} [.fromTable "users", .upsert data ["email"], .upsertColumns ["name", " "]]).compile =
        .ok ⟨"INSERT INTO users (`email`, `name`) VALUES (?, ?) ON CONFLICT (`email`) " ++
          "DO UPDATE SET `name` = EXCLUDED.`name`,  = EXCLUDED.", data.map Prod.snd⟩ ∧
      uniqueColumns ["email", " "] = ["email"] ∧
      (build {} [.fromTable "users", .upsert [(" ", .text "A")] ["email"]]).compile =
        .error (.argument (.blankColumn .upsert)) :=
  ⟨rfl, by decide, rfl⟩

end Statement
end EntityQuery

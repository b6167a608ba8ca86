/-
# Clauses with their values in place

A statement keeps the texts of its clauses and the values in separate buckets.
`BoundClauses` keeps the same clauses with every value where its placeholder
stands.  It projects to both: to the texts (`BoundClauses.fragments`) and to the
buckets (`BoundClauses.bindings`).

`BoundClauses.text` puts the clauses of a statement of any kind together.  As it
is sent it is the text that the statement compiles to (`sql_text`), its values
are the buckets in the order in which the kind renders them (`values_text`), and
it is tight if all of its clauses are (`tight_text`).
-/

import EntityQuery.Proofs.Bound.Condition
import EntityQuery.Proofs.Quiet.Call
import EntityQuery.Statement.Apply

namespace EntityQuery

/-- The texts of a statement that may hold placeholders. -/
structure Fragments where
  expressions : List String
  joins : List String
  conditions : List Condition
  jsonConditions : List String
  havingClause : Option String
  orders : List String
  unions : List String
  mutationColumns : List String

/-- The texts of a statement that may hold placeholders. -/
def Statement.fragments (s : Statement) : Fragments where
  expressions := s.expressions
  joins := s.joins
  conditions := s.conditions
  jsonConditions := s.jsonConditions
  havingClause := s.havingClause
  orders := s.orders
  unions := s.unions
  mutationColumns := s.mutationColumns

/-- The clauses of a statement with their values in place. -/
structure BoundClauses where
  expressions : List BoundText := []
  joins : List BoundText := []
  conditions : List BoundCondition := []
  jsonConditions : List BoundText := []
  having : Option BoundText := none
  orders : List BoundText := []
  unions : List BoundText := []
  mutation : List (String × Value) := []

/-- The test that keeps rows without a mark of deletion. -/
def BoundCondition.notDeleted (column : String) : BoundCondition :=
  .compare .and ⟨column, true⟩ .is .null

namespace BoundText

/-- A keyword and a text after it, or nothing. -/
def clause (keyword : String) : Option BoundText → BoundText
  | none => []
  | some text => ofText keyword ++ text

/-- A keyword and a list of items after it, or nothing. -/
def listClause (keyword : String) (items : List BoundText) : BoundText :=
  if items.isEmpty then [] else ofText keyword ++ joinWith ", " items

@[simp] theorem sql_clause (keyword : String) (text : Option BoundText) :
    sql (clause keyword text) = Statement.clause keyword (text.map sql) := by
  cases text <;> simp [clause, Statement.clause]

@[simp] theorem sql_listClause (keyword : String) (items : List BoundText) :
    sql (listClause keyword items) = Statement.listClause keyword (items.map sql) := by
  cases items <;> simp [listClause, Statement.listClause]

@[simp] theorem values_clause (keyword : String) (text : Option BoundText) :
    values (clause keyword text) = text.toList.flatMap values := by
  cases text <;> simp [clause]

@[simp] theorem values_listClause (keyword : String) (items : List BoundText) :
    values (listClause keyword items) = items.flatMap values := by
  cases items <;> simp [listClause]

variable {quote : Char}

theorem tight_clause {keyword : String} {text : Option BoundText}
    (hkeyword : Placeholder.Quiet quote keyword) (h : ∀ t ∈ text, Tight quote t) :
    Tight quote (clause keyword text) := by
  cases text with
  | none => exact tight_nil
  | some t => exact (tight_ofText hkeyword).append (h t rfl)

theorem tight_listClause {keyword : String} {items : List BoundText}
    (hkeyword : Placeholder.Quiet quote keyword) (hcomma : Placeholder.Quiet quote ", ")
    (h : ∀ t ∈ items, Tight quote t) : Tight quote (listClause keyword items) := by
  unfold listClause
  split
  · exact tight_nil
  · exact (tight_ofText hkeyword).append (tight_joinWith hcomma h)

end BoundText

/-- The text of words in a row. -/
def Word.textOf (words : List Word) : BoundText :=
  words.flatMap Word.text

/-- Parts of a WHERE clause, all of which must hold. -/
def Word.allOf : List (List Word) → List Word
  | [] => []
  | part :: rest => part ++ rest.flatMap (.and :: ·)

namespace BoundClauses

/-! ### The WHERE clause -/

/-- The parts of a WHERE clause: the conditions, in parentheses where they need them, and the JSON
predicates. -/
def whereParts (q : Quoting) (conditions : List BoundCondition) (json : List BoundText) :
    List (List Word) :=
  let structured :=
    if conditions.isEmpty then []
    else if !json.isEmpty && Condition.hasTopLevelOr (BoundCondition.conditions conditions) then
      [.opening :: BoundCondition.wordsList q conditions ++ [.closing]]
    else [BoundCondition.wordsList q conditions]
  structured ++ json.map fun t => [.test t]

/-- The text after WHERE, if there is a predicate. -/
def whereText? (q : Quoting) (conditions : List BoundCondition) (json : List BoundText) :
    Option BoundText :=
  let parts := whereParts q conditions json
  if parts.isEmpty then none else some (Word.textOf (Word.allOf parts))

theorem textOf_allOf (parts : List (List Word)) :
    Word.textOf (Word.allOf parts) = BoundText.joinWith " AND " (parts.map Word.textOf) := by
  have htail : ∀ rest : List (List Word), Word.textOf (rest.flatMap (.and :: ·)) =
      BoundText.eachAfter " AND " (rest.map Word.textOf) := by
    intro rest
    induction rest with
    | nil => rfl
    | cons part rest ih =>
        rw [Word.textOf, List.flatMap_cons, List.flatMap_append, List.flatMap_cons]
        exact congrArg (_ ++ ·) ih
  cases parts with
  | nil => rfl
  | cons part rest =>
      rw [Word.allOf, Word.textOf, List.flatMap_append]
      exact congrArg (_ ++ ·) (htail rest)

theorem map_whereParts (q : Quoting) (s : Statement) (conditions : List BoundCondition)
    (json : List BoundText) (hq : s.quoting = q)
    (hjson : s.jsonConditions = json.map BoundText.sql) :
    (whereParts q conditions json).map (fun words => BoundText.sql (Word.textOf words)) =
      s.predicates (BoundCondition.conditions conditions) := by
  have hempty : (BoundCondition.conditions conditions).isEmpty = conditions.isEmpty := by
    rw [BoundCondition.conditions_eq_map, List.isEmpty_map]
  have htext := BoundCondition.sql_textList q conditions
  unfold whereParts Statement.predicates
  simp only [hempty, hjson, List.isEmpty_map, hq]
  rw [List.map_append, List.map_map]
  congr 1
  · split
    · rfl
    · split
      · rw [List.map_singleton, Word.textOf, List.flatMap_append, List.flatMap_cons,
          BoundText.sql_append, BoundText.sql_append, htext]
        rfl
      · rw [List.map_singleton, Word.textOf, htext]
  · refine List.map_congr_left fun t _ => ?_
    exact congrArg BoundText.sql (List.flatMap_singleton ..)

/-- The WHERE clause as it is sent. -/
theorem sql_whereText? (q : Quoting) (s : Statement) (conditions : List BoundCondition)
    (json : List BoundText) (hq : s.quoting = q)
    (hjson : s.jsonConditions = json.map BoundText.sql) :
    (whereText? q conditions json).map BoundText.sql =
      s.whereText? (BoundCondition.conditions conditions) := by
  have hparts := map_whereParts q s conditions json hq hjson
  unfold whereText? Statement.whereText?
  simp only [← hparts, List.isEmpty_map]
  split
  · rfl
  · rw [Option.map_some, textOf_allOf, BoundText.sql_joinWith, List.map_map]
    rfl

/-- The values of a WHERE clause: those of the conditions and those of the JSON predicates. -/
theorem values_whereText? (q : Quoting) (conditions : List BoundCondition)
    (json : List BoundText) :
    (whereText? q conditions json).toList.flatMap BoundText.values =
      conditions.flatMap (BoundCondition.values q) ++ json.flatMap BoundText.values := by
  have htext := BoundCondition.values_textList q conditions
  have hparts : (whereParts q conditions json).flatMap (fun words => (Word.textOf words).values) =
      conditions.flatMap (BoundCondition.values q) ++ json.flatMap BoundText.values := by
    unfold whereParts
    simp only
    rw [List.flatMap_append, List.flatMap_map]
    congr 1
    · split
      · rename_i hempty
        rw [List.isEmpty_iff.1 hempty]
        rfl
      · split
        · rw [List.flatMap_singleton, Word.textOf, List.flatMap_append, List.flatMap_cons,
            BoundText.values_append, BoundText.values_append, htext]
          simp [Word.text]
        · rw [List.flatMap_singleton, Word.textOf, htext]
    · exact congrArg (List.flatMap · json) (funext fun t =>
        congrArg BoundText.values (List.flatMap_singleton ..))
  rw [← hparts]
  unfold whereText?
  simp only
  split
  · rename_i hempty
    rw [List.isEmpty_iff.1 hempty]
    rfl
  · rw [Option.toList_some, List.flatMap_singleton, textOf_allOf, BoundText.values_joinWith,
      List.flatMap_map]

theorem tight_whereText? {q : Quoting} (hq : Placeholder.Delimiter q.quote)
    {conditions : List BoundCondition} {json : List BoundText}
    (hconditions : ∀ c ∈ conditions, (c.text q).Tight q.quote)
    (hjson : ∀ t ∈ json, BoundText.Tight q.quote t) :
    ∀ t ∈ whereText? q conditions json, BoundText.Tight q.quote t := by
  have hlist := BoundCondition.tight_textList hq hconditions
  have hgroup := BoundCondition.tight_group hq .and hconditions
  have hparts : ∀ words ∈ whereParts q conditions json,
      BoundText.Tight q.quote (Word.textOf words) := by
    intro words hwords
    rcases List.mem_append.1 hwords with h | h
    · split at h
      · exact absurd h List.not_mem_nil
      · split at h
        · rw [List.mem_singleton.1 h]
          exact hgroup
        · rw [List.mem_singleton.1 h]
          exact hlist
    · obtain ⟨t, ht, rfl⟩ := List.mem_map.1 h
      rw [Word.textOf, List.flatMap_singleton]
      exact hjson t ht
  intro t ht
  unfold whereText? at ht
  simp only at ht
  split at ht
  · exact absurd ht (Option.not_mem_none _)
  · rw [← Option.mem_some.1 ht, textOf_allOf]
    refine BoundText.tight_joinWith (Placeholder.quiet_of_ordinary hq (by decide)) fun u hu => ?_
    obtain ⟨words, hwords, rfl⟩ := List.mem_map.1 hu
    exact hparts words hwords

/-! ### The whole statement -/

/-- The texts without the values. -/
def fragments (k : BoundClauses) : Fragments where
  expressions := k.expressions.map BoundText.sql
  joins := k.joins.map BoundText.sql
  conditions := BoundCondition.conditions k.conditions
  jsonConditions := k.jsonConditions.map BoundText.sql
  havingClause := k.having.map BoundText.sql
  orders := k.orders.map BoundText.sql
  unions := k.unions.map BoundText.sql
  mutationColumns := k.mutation.map Prod.fst

theorem conditions_of_fragments {s : Statement} {k : BoundClauses}
    (h : s.fragments = k.fragments) : s.conditions = BoundCondition.conditions k.conditions :=
  congrArg Fragments.conditions h

/-- The values by clause. -/
def bindings (q : Quoting) (k : BoundClauses) : Bindings where
  select := k.expressions.flatMap BoundText.values
  join := k.joins.flatMap BoundText.values
  whereTree := k.conditions.flatMap (BoundCondition.values q)
  jsonWhere := k.jsonConditions.flatMap BoundText.values
  having := k.having.toList.flatMap BoundText.values
  order := k.orders.flatMap BoundText.values
  union := k.unions.flatMap BoundText.values
  mutation := k.mutation.map Prod.snd

/-- The conditions of a SELECT, with the test for rows that are not deleted where it is due. -/
def selectConditions (k : BoundClauses) (s : Statement) : List BoundCondition :=
  let conditions := BoundCondition.conditions k.conditions
  if !s.filtersDeleted then k.conditions
  else if conditions.any (Condition.isNullCheck s.quoting s.softDeleteColumn false .and) then
    k.conditions
  else if Condition.hasTopLevelOr conditions then
    [.group .and k.conditions, .notDeleted s.softDeleteColumn]
  else k.conditions ++ [.notDeleted s.softDeleteColumn]

/-- The SELECT list with its values. -/
def selectList (k : BoundClauses) (s : Statement) : BoundText :=
  .ofText (if s.columns.isEmpty then "*" else Text.joinWith ", " s.columns) ++
    .eachAfter ", " k.expressions

/-- The WHERE clause over some conditions, with its values. -/
def whereClause (k : BoundClauses) (q : Quoting) (conditions : List BoundCondition) : BoundText :=
  .clause " WHERE " (whereText? q conditions k.jsonConditions)

/-- The table with its joins and the WHERE clause, with their values. -/
def sourceText (k : BoundClauses) (s : Statement) : BoundText :=
  .ofText s.table ++ .eachAfter " " k.joins ++ k.whereClause s.quoting (k.selectConditions s)

/-- The text of a SELECT with its values. -/
def selectText (k : BoundClauses) (s : Statement) : BoundText :=
  .ofText ("SELECT " ++ (if s.isDistinct then "DISTINCT " else "")) ++ k.selectList s ++
    .ofText " FROM " ++ k.sourceText s ++ .ofText (Statement.listClause " GROUP BY " s.groups) ++
    .clause " HAVING " k.having ++ .listClause " ORDER BY " k.orders ++
    .ofText (Statement.countClause " LIMIT " s.limitCount) ++
    .ofText (Statement.countClause " OFFSET " s.offsetCount) ++ .eachAfter " " k.unions

/-- The columns of a mutation, quoted. -/
def mutationList (k : BoundClauses) (s : Statement) : List String :=
  k.mutation.map fun d => s.quoting.column d.1

/-- The columns and values of an INSERT. -/
def insertBody (k : BoundClauses) (s : Statement) : BoundText :=
  .ofText (s.table ++ " (" ++ Text.joinWith ", " (k.mutationList s) ++ ") VALUES (") ++
    .ofValues (k.mutation.map Prod.snd) ++ .ofText ")"

/-- The text of an INSERT with its values. -/
def insertText (k : BoundClauses) (s : Statement) : BoundText :=
  .ofText (if s.kind = .insertIgnore then "INSERT OR IGNORE INTO " else "INSERT INTO ") ++
    k.insertBody s

/-- The text of an UPDATE with its values. -/
def updateText (k : BoundClauses) (s : Statement) : BoundText :=
  .ofText ("UPDATE " ++ s.table ++ " SET ") ++
    .joinWith ", "
      (k.mutation.map fun d => .ofText (s.quoting.column d.1 ++ " = ") ++ .ofValue d.2) ++
    k.whereClause s.quoting k.conditions

/-- The text of a DELETE with its values. -/
def deleteText (k : BoundClauses) (s : Statement) : BoundText :=
  .ofText ("DELETE FROM " ++ s.table) ++ k.whereClause s.quoting k.conditions

/-- The text of an UPSERT with its values. -/
def upsertText (k : BoundClauses) (s : Statement) : BoundText :=
  .ofText "INSERT INTO " ++ k.insertBody s ++ .ofText " ON CONFLICT (" ++
    .ofText (Text.joinWith ", " (s.upsertUnique.map s.quoting.column)) ++
    .ofText ") DO UPDATE SET " ++
    .ofText (Text.joinWith ", "
      ((s.upsertSet (k.mutationList s)).map fun c => c ++ " = EXCLUDED." ++ c))

/-- The text of a statement of any kind with its values. -/
def text (k : BoundClauses) (s : Statement) : BoundText :=
  match s.kind with
  | .select => k.selectText s
  | .insert | .insertIgnore => k.insertText s
  | .update => k.updateText s
  | .delete => k.deleteText s
  | .upsert => k.upsertText s

/-- The WHERE clause stands in the text of a SELECT. -/
theorem exists_selectText_eq (k : BoundClauses) (s : Statement) :
    ∃ head tail, k.selectText s =
      head ++ k.whereClause s.quoting (k.selectConditions s) ++ tail := by
  refine ⟨.ofText ("SELECT " ++ (if s.isDistinct then "DISTINCT " else "")) ++ k.selectList s ++
      .ofText " FROM " ++ (.ofText s.table ++ .eachAfter " " k.joins),
    .ofText (Statement.listClause " GROUP BY " s.groups) ++ .clause " HAVING " k.having ++
      .listClause " ORDER BY " k.orders ++ .ofText (Statement.countClause " LIMIT " s.limitCount) ++
      .ofText (Statement.countClause " OFFSET " s.offsetCount) ++ .eachAfter " " k.unions, ?_⟩
  rw [selectText, sourceText]
  simp only [List.append_assoc]

/-! ### The text as it is sent -/

section Sql

variable {s : Statement} {k : BoundClauses} {sql : String}

theorem conditions_selectConditions (h : s.fragments = k.fragments) :
    BoundCondition.conditions (k.selectConditions s) = s.selectConditions := by
  have hconditions := conditions_of_fragments h
  unfold selectConditions Statement.selectConditions
  simp only [hconditions]
  split
  · rfl
  · split
    · rfl
    · split
      · rfl
      · rw [BoundCondition.conditions_eq_map, BoundCondition.conditions_eq_map, List.map_append]
        rfl

theorem sql_whereClause (h : s.fragments = k.fragments) (conditions : List BoundCondition) :
    (k.whereClause s.quoting conditions).sql =
      Statement.clause " WHERE " (s.whereText? (BoundCondition.conditions conditions)) := by
  rw [whereClause, BoundText.sql_clause,
    sql_whereText? s.quoting s conditions _ rfl (congrArg Fragments.jsonConditions h)]

theorem sql_selectList (h : s.fragments = k.fragments) :
    (k.selectList s).sql = s.selectList := by
  have hexpressions : s.expressions = k.expressions.map BoundText.sql :=
    congrArg Fragments.expressions h
  rw [selectList, Statement.selectList, BoundText.sql_append, BoundText.sql_ofText,
    BoundText.sql_eachAfter, hexpressions]

theorem sql_sourceText (h : s.fragments = k.fragments) : (k.sourceText s).sql = s.sourceSql := by
  have hjoins : s.joins = k.joins.map BoundText.sql := congrArg Fragments.joins h
  rw [sourceText, Statement.sourceSql, BoundText.sql_append, BoundText.sql_append,
    BoundText.sql_ofText, BoundText.sql_eachAfter, sql_whereClause h, conditions_selectConditions h,
    hjoins]

theorem sql_orders (h : s.fragments = k.fragments) :
    BoundText.sql (.listClause " ORDER BY " k.orders) =
      Statement.listClause " ORDER BY " s.orders := by
  have horders : s.orders = k.orders.map BoundText.sql := congrArg Fragments.orders h
  rw [BoundText.sql_listClause, horders]

theorem sql_selectText (h : s.fragments = k.fragments) : (k.selectText s).sql = s.selectSql := by
  have hhaving : s.havingClause = k.having.map BoundText.sql := congrArg Fragments.havingClause h
  have hunions : s.unions = k.unions.map BoundText.sql := congrArg Fragments.unions h
  delta Statement.selectSql
  simp only [selectText, BoundText.sql_append, BoundText.sql_ofText, BoundText.sql_eachAfter,
    BoundText.sql_clause, sql_selectList h, sql_sourceText h, sql_orders h, hhaving, hunions]

theorem mutationList_eq (h : s.fragments = k.fragments) :
    s.mutationColumns.map s.quoting.column = k.mutationList s := by
  have hcolumns : s.mutationColumns = k.mutation.map Prod.fst :=
    congrArg Fragments.mutationColumns h
  rw [hcolumns, List.map_map]
  rfl

theorem mutationList_of_ok (h : s.fragments = k.fragments) {columns : List String}
    (hc : s.mutationList = .ok columns) : columns = k.mutationList s := by
  unfold Statement.mutationList at hc
  split at hc
  · exact absurd hc (by simp)
  · rw [← mutationList_eq h]
    exact (Except.ok.inj hc).symm

theorem sql_insertBody (k : BoundClauses) (s : Statement) :
    (k.insertBody s).sql = s.insertBody (k.mutationList s) := by
  simp only [insertBody, Statement.insertBody, BoundText.sql_append, BoundText.sql_ofText,
    BoundText.sql_ofValues, List.length_map, mutationList, String.append_assoc]

/-- A statement text that begins with its columns, and what is made of them. -/
theorem exists_mutationList {make : List String → String}
    (hsql : (do let columns ← s.mutationList; return make columns) = Except.ok sql) :
    ∃ columns, s.mutationList = .ok columns ∧ sql = make columns := by
  cases hc : s.mutationList with
  | error e =>
      rw [hc] at hsql
      exact absurd hsql (by simp [bind, Except.bind])
  | ok columns =>
      rw [hc] at hsql
      exact ⟨columns, rfl, (Except.ok.inj hsql).symm⟩

theorem sql_insertText (h : s.fragments = k.fragments) (hsql : s.insertSql = .ok sql) :
    (k.insertText s).sql = sql := by
  obtain ⟨columns, hc, rfl⟩ := exists_mutationList hsql
  rw [mutationList_of_ok h hc, insertText, BoundText.sql_append, BoundText.sql_ofText,
    sql_insertBody]

theorem sql_assignments (k : BoundClauses) (s : Statement) :
    (k.mutation.map fun d : String × Value =>
      BoundText.ofText (s.quoting.column d.1 ++ " = ") ++ .ofValue d.2).map BoundText.sql =
        (k.mutationList s).map (· ++ " = ?") := by
  rw [mutationList, List.map_map, List.map_map]
  refine List.map_congr_left fun d _ => ?_
  simp [String.append_assoc]

theorem sql_updateText (h : s.fragments = k.fragments) (hsql : s.updateSql = .ok sql) :
    (k.updateText s).sql = sql := by
  have hconditions := (conditions_of_fragments h).symm
  obtain ⟨columns, hc, rfl⟩ := exists_mutationList hsql
  rw [mutationList_of_ok h hc, updateText, BoundText.sql_append, BoundText.sql_append,
    BoundText.sql_ofText, BoundText.sql_joinWith, sql_assignments, sql_whereClause h, hconditions]

theorem sql_deleteText (h : s.fragments = k.fragments) (hsql : s.deleteSql = .ok sql) :
    (k.deleteText s).sql = sql := by
  have hconditions := (conditions_of_fragments h).symm
  unfold Statement.deleteSql at hsql
  split at hsql
  · exact absurd hsql (by simp)
  · rename_i text htext
    rw [← Except.ok.inj hsql, deleteText, BoundText.sql_append, BoundText.sql_ofText,
      sql_whereClause h, hconditions, htext, Statement.clause, String.append_assoc,
      String.append_assoc, String.append_assoc]

theorem sql_upsertText (h : s.fragments = k.fragments) (hsql : s.upsertSql = .ok sql) :
    (k.upsertText s).sql = sql := by
  unfold Statement.upsertSql at hsql
  split at hsql
  · exact absurd hsql (by simp)
  · obtain ⟨columns, hc, rfl⟩ := exists_mutationList hsql
    rw [mutationList_of_ok h hc]
    simp only [upsertText, BoundText.sql_append, BoundText.sql_ofText, sql_insertBody]

/-- **Sent, the clauses are the text that the statement compiles to.** -/
theorem sql_text (h : s.fragments = k.fragments) (hsql : s.text = .ok sql) :
    (k.text s).sql = sql := by
  unfold Statement.text at hsql
  unfold text
  cases hkind : s.kind with
  | select =>
      rw [hkind] at hsql
      rw [← Except.ok.inj hsql]
      exact sql_selectText h
  | insert =>
      rw [hkind] at hsql
      exact sql_insertText h hsql
  | insertIgnore =>
      rw [hkind] at hsql
      exact sql_insertText h hsql
  | update =>
      rw [hkind] at hsql
      exact sql_updateText h hsql
  | delete =>
      rw [hkind] at hsql
      exact sql_deleteText h hsql
  | upsert =>
      rw [hkind] at hsql
      exact sql_upsertText h hsql

end Sql

/-! ### The values -/

theorem values_selectConditions (k : BoundClauses) (s : Statement) :
    (k.selectConditions s).flatMap (BoundCondition.values s.quoting) =
      k.conditions.flatMap (BoundCondition.values s.quoting) := by
  have hnotDeleted : (BoundCondition.notDeleted s.softDeleteColumn).values s.quoting = [] :=
    BoundCondition.values_compare ..
  unfold selectConditions
  simp only
  split
  · rfl
  · split
    · rfl
    · split
      · rw [List.flatMap_cons, List.flatMap_singleton, BoundCondition.values_group, hnotDeleted,
          List.append_nil]
      · rw [List.flatMap_append, List.flatMap_singleton, hnotDeleted, List.append_nil]

theorem values_whereClause (k : BoundClauses) (q : Quoting) (conditions : List BoundCondition) :
    (k.whereClause q conditions).values =
      conditions.flatMap (BoundCondition.values q) ++
        k.jsonConditions.flatMap BoundText.values := by
  rw [whereClause, BoundText.values_clause, values_whereText?]

/-- **The values of the clauses are the buckets in the order of the text.** -/
theorem values_text (k : BoundClauses) (s : Statement) :
    (k.text s).values = (k.bindings s.quoting).merged s.kind := by
  have hassign : (k.mutation.map fun d : String × Value =>
      BoundText.ofText (s.quoting.column d.1 ++ " = ") ++ .ofValue d.2).flatMap BoundText.values =
        k.mutation.map Prod.snd := by
    rw [List.flatMap_map]
    simp [List.map_eq_flatMap]
  unfold text
  cases hkind : s.kind <;>
    simp [Bindings.merged, Bucket.rendered, Bindings.get, bindings, selectText, selectList,
      sourceText, insertText, insertBody, updateText, deleteText, upsertText, values_whereClause,
      values_selectConditions, hassign]

/-! ### Tight clauses -/

/-- All clauses are read from outside of quotes to outside of quotes. -/
structure Tight (q : Quoting) (k : BoundClauses) : Prop where
  expressions : ∀ t ∈ k.expressions, t.Tight q.quote
  joins : ∀ t ∈ k.joins, t.Tight q.quote
  conditions : ∀ c ∈ k.conditions, (c.text q).Tight q.quote
  jsonConditions : ∀ t ∈ k.jsonConditions, t.Tight q.quote
  having : ∀ t ∈ k.having, t.Tight q.quote
  orders : ∀ t ∈ k.orders, t.Tight q.quote
  unions : ∀ t ∈ k.unions, t.Tight q.quote
  mutation : ∀ d ∈ k.mutation, Placeholder.Quiet q.quote d.1

end BoundClauses

/-- The texts of a statement that are written without placeholders. -/
structure PlainTexts where
  table : String
  columns : List String
  groups : List String
  upsertUnique : List String
  upsertUpdate : Option (List String)
  softDeleteColumn : String

/-- The texts of a statement that are written without placeholders. -/
def Statement.plainTexts (s : Statement) : PlainTexts where
  table := s.table
  columns := s.columns
  groups := s.groups
  upsertUnique := s.upsertUnique
  upsertUpdate := s.upsertUpdate
  softDeleteColumn := s.softDeleteColumn

/-- All of these texts are quiet. -/
structure PlainTexts.IsQuiet (quote : Char) (p : PlainTexts) : Prop where
  table : Placeholder.Quiet quote p.table
  columns : ∀ c ∈ p.columns, Placeholder.Quiet quote c
  groups : ∀ g ∈ p.groups, Placeholder.Quiet quote g
  upsertUnique : ∀ c ∈ p.upsertUnique, Placeholder.Quiet quote c
  upsertUpdate : ∀ columns ∈ p.upsertUpdate, ∀ c ∈ columns, Placeholder.Quiet quote c
  softDeleteColumn : Placeholder.Quiet quote p.softDeleteColumn

namespace BoundClauses

section Tight

variable {s : Statement} {k : BoundClauses}

open Placeholder

theorem quiet_listClause {quote : Char} {keyword : String} {items : List String}
    (hkeyword : Quiet quote keyword) (hcomma : Quiet quote ", ")
    (h : ∀ item ∈ items, Quiet quote item) :
    Quiet quote (Statement.listClause keyword items) := by
  unfold Statement.listClause
  split
  · exact ⟨rfl, rfl⟩
  · exact hkeyword.append (quiet_joinWith hcomma h)

theorem quiet_countClause {q : Quoting} (hq : Delimiter q.quote) {keyword : String}
    (hkeyword : Quiet q.quote keyword) (n : Option Nat) :
    Quiet q.quote (Statement.countClause keyword n) := by
  cases n with
  | none => exact ⟨rfl, rfl⟩
  | some n => exact hkeyword.append (quiet_decimal hq n)

theorem tight_notDeleted {q : Quoting} (hq : Delimiter q.quote) {column : String}
    (h : Quiet q.quote column) : ((BoundCondition.notDeleted column).text q).Tight q.quote :=
  BoundCondition.tight_compare hq .and h true .is .null

theorem tight_selectConditions (hq : Delimiter s.quoting.quote)
    (hs : s.plainTexts.IsQuiet s.quoting.quote) (hk : k.Tight s.quoting) :
    ∀ c ∈ k.selectConditions s, (c.text s.quoting).Tight s.quoting.quote := by
  have hmark := tight_notDeleted hq hs.softDeleteColumn
  intro c hc
  unfold selectConditions at hc
  simp only at hc
  split at hc
  · exact hk.conditions c hc
  · split at hc
    · exact hk.conditions c hc
    · split at hc
      · rcases List.mem_cons.1 hc with rfl | hc
        · exact BoundCondition.tight_group hq .and hk.conditions
        · rw [List.mem_singleton.1 hc]
          exact hmark
      · rcases List.mem_append.1 hc with hc | hc
        · exact hk.conditions c hc
        · rw [List.mem_singleton.1 hc]
          exact hmark

theorem tight_whereClause (hq : Delimiter s.quoting.quote) (hk : k.Tight s.quoting)
    {conditions : List BoundCondition}
    (h : ∀ c ∈ conditions, (c.text s.quoting).Tight s.quoting.quote) :
    (k.whereClause s.quoting conditions).Tight s.quoting.quote :=
  BoundText.tight_clause (quiet_of_ordinary hq (by decide))
    (tight_whereText? hq h hk.jsonConditions)

theorem tight_selectList (hq : Delimiter s.quoting.quote)
    (hs : s.plainTexts.IsQuiet s.quoting.quote) (hk : k.Tight s.quoting) :
    (k.selectList s).Tight s.quoting.quote := by
  have hcomma : Quiet s.quoting.quote ", " := quiet_of_ordinary hq (by decide)
  have hcolumns : Quiet s.quoting.quote
      (if s.columns.isEmpty then "*" else Text.joinWith ", " s.columns) := by
    split
    · exact quiet_of_ordinary hq (by decide)
    · exact quiet_joinWith hcomma hs.columns
  rw [selectList]
  exact (BoundText.tight_ofText hcolumns).append (BoundText.tight_eachAfter hcomma hk.expressions)

theorem tight_sourceText (hq : Delimiter s.quoting.quote)
    (hs : s.plainTexts.IsQuiet s.quoting.quote) (hk : k.Tight s.quoting) :
    (k.sourceText s).Tight s.quoting.quote := by
  have hblank : Quiet s.quoting.quote " " := quiet_of_ordinary hq (by decide)
  rw [sourceText]
  exact ((BoundText.tight_ofText hs.table).append (BoundText.tight_eachAfter hblank hk.joins)).append
    (tight_whereClause hq hk (tight_selectConditions hq hs hk))

theorem tight_orders {q : Quoting} (hq : Delimiter q.quote) (hk : k.Tight q) :
    (BoundText.listClause " ORDER BY " k.orders).Tight q.quote :=
  BoundText.tight_listClause (quiet_of_ordinary hq (by decide)) (quiet_of_ordinary hq (by decide))
    hk.orders

theorem tight_selectText (hq : Delimiter s.quoting.quote)
    (hs : s.plainTexts.IsQuiet s.quoting.quote) (hk : k.Tight s.quoting) :
    (k.selectText s).Tight s.quoting.quote := by
  have hplain : ∀ text : String, text.toList.all isOrdinary = true → Quiet s.quoting.quote text :=
    fun text h => quiet_of_ordinary hq h
  have hcomma := hplain ", " (by decide)
  have hblank := hplain " " (by decide)
  have hverb : Quiet s.quoting.quote ("SELECT " ++ (if s.isDistinct then "DISTINCT " else "")) := by
    split
    · exact hplain _ (by decide)
    · exact hplain _ (by decide)
  have hfrom := BoundText.tight_ofText (hplain " FROM " (by decide))
  have hgroups := BoundText.tight_ofText
    (quiet_listClause (hplain " GROUP BY " (by decide)) hcomma hs.groups)
  have hhaving := BoundText.tight_clause (hplain " HAVING " (by decide)) hk.having
  have hlimit := BoundText.tight_ofText
    (quiet_countClause hq (hplain " LIMIT " (by decide)) s.limitCount)
  have hoffset := BoundText.tight_ofText
    (quiet_countClause hq (hplain " OFFSET " (by decide)) s.offsetCount)
  have hunions := BoundText.tight_eachAfter hblank hk.unions
  rw [selectText]
  exact (((((((((BoundText.tight_ofText hverb).append (tight_selectList hq hs hk)).append
    hfrom).append (tight_sourceText hq hs hk)).append hgroups).append hhaving).append
      (tight_orders hq hk)).append hlimit).append hoffset).append hunions

theorem quiet_mutationList (hq : Delimiter s.quoting.quote) (hk : k.Tight s.quoting) :
    ∀ c ∈ k.mutationList s, Quiet s.quoting.quote c := by
  intro c hc
  obtain ⟨d, hd, rfl⟩ := List.mem_map.1 hc
  exact (hk.mutation d hd).column hq

theorem tight_insertBody (hq : Delimiter s.quoting.quote)
    (hs : s.plainTexts.IsQuiet s.quoting.quote) (hk : k.Tight s.quoting) :
    (k.insertBody s).Tight s.quoting.quote := by
  have hplain : ∀ text : String, text.toList.all isOrdinary = true → Quiet s.quoting.quote text :=
    fun text h => quiet_of_ordinary hq h
  have hcomma := hplain ", " (by decide)
  have hcolumns := quiet_joinWith hcomma (quiet_mutationList hq hk)
  have hhead := ((hs.table.append (hplain " (" (by decide))).append hcolumns).append
    (hplain ") VALUES (" (by decide))
  rw [insertBody]
  exact ((BoundText.tight_ofText hhead).append (BoundText.tight_ofValues hcomma _)).append
    (BoundText.tight_ofText (hplain ")" (by decide)))

theorem tight_insertText (hq : Delimiter s.quoting.quote)
    (hs : s.plainTexts.IsQuiet s.quoting.quote) (hk : k.Tight s.quoting) :
    (k.insertText s).Tight s.quoting.quote := by
  have hverb : Quiet s.quoting.quote
      (if s.kind = .insertIgnore then "INSERT OR IGNORE INTO " else "INSERT INTO ") := by
    split
    · exact quiet_of_ordinary hq (by decide)
    · exact quiet_of_ordinary hq (by decide)
  rw [insertText]
  exact (BoundText.tight_ofText hverb).append (tight_insertBody hq hs hk)

theorem tight_updateText (hq : Delimiter s.quoting.quote)
    (hs : s.plainTexts.IsQuiet s.quoting.quote) (hk : k.Tight s.quoting) :
    (k.updateText s).Tight s.quoting.quote := by
  have hplain : ∀ text : String, text.toList.all isOrdinary = true → Quiet s.quoting.quote text :=
    fun text h => quiet_of_ordinary hq h
  have hhead := ((hplain "UPDATE " (by decide)).append hs.table).append (hplain " SET " (by decide))
  have hassign : ∀ t ∈ k.mutation.map fun d : String × Value =>
      BoundText.ofText (s.quoting.column d.1 ++ " = ") ++ .ofValue d.2,
      BoundText.Tight s.quoting.quote t := by
    intro t ht
    obtain ⟨d, hd, rfl⟩ := List.mem_map.1 ht
    have hcolumn := ((hk.mutation d hd).column hq).append (hplain " = " (by decide))
    exact (BoundText.tight_ofText hcolumn).append (BoundText.tight_ofValue d.2)
  rw [updateText]
  exact ((BoundText.tight_ofText hhead).append
    (BoundText.tight_joinWith (hplain ", " (by decide)) hassign)).append
      (tight_whereClause hq hk hk.conditions)

theorem tight_deleteText (hq : Delimiter s.quoting.quote)
    (hs : s.plainTexts.IsQuiet s.quoting.quote) (hk : k.Tight s.quoting) :
    (k.deleteText s).Tight s.quoting.quote := by
  have hverb : Quiet s.quoting.quote "DELETE FROM " := quiet_of_ordinary hq (by decide)
  have hhead := hverb.append hs.table
  rw [deleteText]
  exact (BoundText.tight_ofText hhead).append (tight_whereClause hq hk hk.conditions)

theorem tight_upsertText (hq : Delimiter s.quoting.quote)
    (hs : s.plainTexts.IsQuiet s.quoting.quote) (hk : k.Tight s.quoting) :
    (k.upsertText s).Tight s.quoting.quote := by
  have hplain : ∀ text : String, text.toList.all isOrdinary = true → Quiet s.quoting.quote text :=
    fun text h => quiet_of_ordinary hq h
  have hcomma := hplain ", " (by decide)
  have hunique : ∀ c ∈ s.upsertUnique.map s.quoting.column, Quiet s.quoting.quote c := by
    intro c hc
    obtain ⟨d, hd, rfl⟩ := List.mem_map.1 hc
    exact (hs.upsertUnique d hd).column hq
  have hset : ∀ c ∈ s.upsertSet (k.mutationList s), Quiet s.quoting.quote c := by
    intro c hc
    unfold Statement.upsertSet at hc
    split at hc
    · exact quiet_mutationList hq hk c hc
    · rename_i named hnamed
      split at hc
      · exact quiet_mutationList hq hk c hc
      · obtain ⟨d, hd, rfl⟩ := List.mem_map.1 hc
        exact (hs.upsertUpdate named hnamed d hd).column hq
  have hupdates : ∀ u ∈ (s.upsertSet (k.mutationList s)).map fun c => c ++ " = EXCLUDED." ++ c,
      Quiet s.quoting.quote u := by
    intro u hu
    obtain ⟨c, hc, rfl⟩ := List.mem_map.1 hu
    exact ((hset c hc).append (hplain " = EXCLUDED." (by decide))).append (hset c hc)
  have hhead := (BoundText.tight_ofText (hplain "INSERT INTO " (by decide))).append
    (tight_insertBody hq hs hk)
  have hconflict := BoundText.tight_ofText (hplain " ON CONFLICT (" (by decide))
  have hdo := BoundText.tight_ofText (hplain ") DO UPDATE SET " (by decide))
  rw [upsertText]
  exact (((hhead.append hconflict).append (BoundText.tight_ofText
    (quiet_joinWith hcomma hunique))).append hdo).append (BoundText.tight_ofText
      (quiet_joinWith hcomma hupdates))

/-- **Tight clauses make a tight statement.** -/
theorem tight_text (hq : Delimiter s.quoting.quote)
    (hs : s.plainTexts.IsQuiet s.quoting.quote) (hk : k.Tight s.quoting) :
    (k.text s).Tight s.quoting.quote := by
  unfold text
  split
  · exact tight_selectText hq hs hk
  · exact tight_insertText hq hs hk
  · exact tight_insertText hq hs hk
  · exact tight_updateText hq hs hk
  · exact tight_deleteText hq hs hk
  · exact tight_upsertText hq hs hk

end Tight

end BoundClauses
end EntityQuery

/-
# The count of a query is the count of the same query

`Statement.compileCount` makes the counting query by editing clauses and buckets of
the statement.  For quiet calls what it makes is always a query again, and it is
made of the query itself (`compileCount_of_compile`).

* A plain SELECT keeps the text from its table to the end of its WHERE clause, and
  the values of that text.  What is cut off are the values of the SELECT list in
  front and those of the order behind.
* A distinct, grouped or united SELECT is put into parentheses as it compiles without
  order, limit and offset, with the values it has then.

Both rest on `BoundClauses.Sound`: it holds of the edited statements because a list
of clauses and its bucket are always emptied together (`Sound.unordered`,
`Sound.countingList`).
-/

import EntityQuery.Proofs.Order.Unordered
import EntityQuery.Proofs.Run.Pages

namespace EntityQuery

open Placeholder

namespace BoundClauses

variable {s : Statement} {k : BoundClauses}

/-! ### The edited statements -/

theorem Sound.unordered (h : Sound s k) : Sound s.unordered { k with orders := [] } where
  bindings := congrArg (Bindings.clear · .order) h.bindings
  tight := { h.tight with orders := fun _ hmem => absurd hmem List.not_mem_nil }
  quiet := ⟨h.quiet.table, h.quiet.columns, h.quiet.groups, h.quiet.upsertUnique,
    h.quiet.upsertUpdate, h.quiet.softDeleteColumn⟩

theorem fragments_unordered (h : s.fragments = k.fragments) :
    s.unordered.fragments = ({ k with orders := [] } : BoundClauses).fragments :=
  congrArg (fun f : Fragments => { f with orders := [] }) h

theorem Sound.countingList (hq : Delimiter s.quoting.quote) (h : Sound s k) :
    Sound s.countingList { k with orders := [], expressions := [] } where
  bindings := congrArg (Bindings.clear · .select) h.unordered.bindings
  tight := { h.unordered.tight with expressions := fun _ hmem => absurd hmem List.not_mem_nil }
  quiet := { h.unordered.quiet with
    columns := List.forall_mem_singleton.2 (quiet_of_ordinary hq (by decide)) }

theorem fragments_countingList (h : s.fragments = k.fragments) :
    s.countingList.fragments =
      ({ k with orders := [], expressions := [] } : BoundClauses).fragments :=
  congrArg (fun f : Fragments => { f with orders := [], expressions := [] }) h

/-- A sound SELECT with a table compiles to its text and its values. -/
theorem Sound.compile_of_select (h : Sound s k) (hfragments : s.fragments = k.fragments)
    (hq : Delimiter s.quoting.quote) (hkind : s.kind = .select) (hs : s.buildError = none)
    (htable : s.table ≠ "") : s.compile = .ok ⟨s.selectSql, s.values⟩ := by
  have htext : s.text = .ok s.selectSql := Statement.text_of_select hkind
  have hcount : ∀ sql, s.text = .ok sql → count s.quoting.quote sql = s.values.length := by
    intro sql hsql
    rw [← sql_text hfragments hsql, (tight_text hq h.quiet h.tight).count hq, values_text,
      ← h.bindings]
    rfl
  rw [Statement.compile_of_text hs htable hcount, htext]
  rfl

end BoundClauses

namespace Statement

open BoundClauses

variable {s : Statement} {k : BoundClauses} {query : Compiled}

/-- The text after the WHERE clause of a SELECT that is neither grouped nor united. -/
def tailSql (s : Statement) : String :=
  listClause " ORDER BY " s.orders ++ countClause " LIMIT " s.limitCount ++
    countClause " OFFSET " s.offsetCount

theorem isCountedOutside_eq_false_iff :
    s.isCountedOutside = false ↔
      s.isDistinct = false ∧ s.groups = [] ∧ s.havingClause = none ∧ s.unions = [] := by
  simp only [isCountedOutside, Bool.or_eq_false_iff, Bool.not_eq_false', List.isEmpty_iff,
    Option.isSome_eq_false_iff, Option.isNone_iff_eq_none, and_assoc]

theorem selectSql_of_inside (hinside : s.isCountedOutside = false) :
    s.selectSql = "SELECT " ++ s.selectList ++ " FROM " ++ s.sourceSql ++ s.tailSql := by
  have hselect : s.selectSql = s.resultSql ++ listClause " ORDER BY " s.orders ++
      countClause " LIMIT " s.limitCount ++ countClause " OFFSET " s.offsetCount ++
        Text.eachAfter " " s.unions := rfl
  obtain ⟨hresult, hunions, -⟩ := selectSql_inside hinside
  rw [hselect, hresult, hunions, Text.eachAfter, String.append_empty, tailSql]
  simp only [String.append_assoc]

/-- The placeholders of the SELECT list are those of its bucket. -/
theorem count_selectList (hq : Delimiter s.quoting.quote) (h : Sound s k)
    (hfragments : s.fragments = k.fragments) :
    Placeholder.count s.quoting.quote s.selectList = (s.bindings.get .select).length := by
  have hvalues : (k.selectList s).values = s.bindings.get .select := by
    rw [h.bindings]
    simp [BoundClauses.selectList, BoundClauses.bindings, Bindings.get]
  rw [← sql_selectList hfragments, (tight_selectList hq h.quiet h.tight).count hq, hvalues]

/-- The placeholders after the WHERE clause are those of the order. -/
theorem count_tailSql (hq : Delimiter s.quoting.quote) (h : Sound s k)
    (hfragments : s.fragments = k.fragments) :
    Placeholder.count s.quoting.quote s.tailSql = (s.bindings.get .order).length := by
  have hlimit : Quiet s.quoting.quote (countClause " LIMIT " s.limitCount) :=
    quiet_countClause hq (quiet_of_ordinary hq (by decide)) s.limitCount
  have hoffset : Quiet s.quoting.quote (countClause " OFFSET " s.offsetCount) :=
    quiet_countClause hq (quiet_of_ordinary hq (by decide)) s.offsetCount
  have htight := ((tight_orders hq h.tight).append (BoundText.tight_ofText hlimit)).append
    (BoundText.tight_ofText hoffset)
  have hsql := htight.count hq
  rw [BoundText.sql_append, BoundText.sql_append, BoundText.sql_ofText, BoundText.sql_ofText,
    sql_orders hfragments] at hsql
  rw [tailSql, hsql, h.bindings]
  simp [BoundClauses.bindings, Bindings.get]

/-- The values of a SELECT that is neither grouped nor united: those of its SELECT list, those of
the query that counts, and those of its order. -/
theorem values_of_inside (h : Sound s k) (hfragments : s.fragments = k.fragments)
    (hkind : s.kind = .select) (hinside : s.isCountedOutside = false) :
    s.values = s.bindings.get .select ++ s.countingList.values ++ s.bindings.get .order := by
  obtain ⟨-, -, hhaving, hunions⟩ := isCountedOutside_eq_false_iff.1 hinside
  have hnoHaving : s.bindings.having = [] := by
    have hk : s.havingClause = k.having.map BoundText.sql :=
      congrArg Fragments.havingClause hfragments
    rw [hhaving, eq_comm, Option.map_eq_none_iff] at hk
    rw [h.bindings, BoundClauses.bindings, hk]
    rfl
  have hnoUnion : s.bindings.union = [] := by
    have hk : s.unions = k.unions.map BoundText.sql := congrArg Fragments.unions hfragments
    rw [hunions, eq_comm, List.map_eq_nil_iff] at hk
    rw [h.bindings, BoundClauses.bindings, hk]
    rfl
  have hcountingKind : s.countingList.kind = .select := hkind
  rw [values, values, hkind, hcountingKind]
  simp [Bindings.merged, Bucket.rendered, countingList, Statement.unordered, Bindings.clear,
    Bindings.get, Bindings.set, hnoHaving, hnoUnion]

/-- A SELECT that can only be counted from outside is counted as it compiles without its order. -/
theorem compileCount_of_outside {inner : Compiled} (hkind : s.kind = .select)
    (houtside : s.isCountedOutside = true) (h : s.unordered.compile = .ok inner) :
    s.compileCount =
      .ok ⟨"SELECT COUNT(*) AS aggregate FROM (" ++ inner.sql ++ ") AS aggregate_table",
        inner.bindings⟩ := by
  have hbase : s.unordered.isCountedOutside = true := houtside
  rw [compileCount, if_neg (not_not_intro hkind)]
  dsimp only
  rw [if_pos hbase, h]

/-- **The count sees the same query.**  A SELECT of quiet calls that compiles can be counted.  If it
is plain, the counting query has its text from the table to the end of the WHERE clause, and its
values without as many as the SELECT list has placeholders and as many as the order has.  If it is
distinct, grouped or united, the counting query has in parentheses what the calls compile to without
those for order, limit and offset. -/
theorem compileCount_of_compile {context : Context} {calls : List Call}
    (hq : Delimiter context.config.quoting.quote)
    (hmark : Quiet context.config.quoting.quote context.config.softDeleteColumn)
    (hcalls : Call.areQuiet context.config.quoting.quote calls = true)
    (hbuild : build context calls = s) (hkind : s.kind = .select) (h : s.compile = .ok query) :
    ∃ counted, s.compileCount = .ok counted ∧
      (s.isDistinct = false ∧ s.groups = [] ∧ s.havingClause = none ∧ s.unions = [] →
        query.sql = "SELECT " ++ s.selectList ++ " FROM " ++ s.sourceSql ++ s.tailSql ∧
        counted.sql = "SELECT COUNT(*) AS aggregate FROM " ++ s.sourceSql ∧
        ∃ listed ordered, query.bindings = listed ++ counted.bindings ++ ordered ∧
          listed.length = Placeholder.count context.config.quoting.quote s.selectList ∧
          ordered.length = Placeholder.count context.config.quoting.quote s.tailSql) ∧
      (¬(s.isDistinct = false ∧ s.groups = [] ∧ s.havingClause = none ∧ s.unions = []) →
        ∃ inner, (build context (calls.filter fun c => !c.ordersRows)).compile = .ok inner ∧
          counted = ⟨"SELECT COUNT(*) AS aggregate FROM (" ++ inner.sql ++ ") AS aggregate_table",
            inner.bindings⟩) := by
  obtain ⟨hs, htable, -, hbindings, -⟩ := compile_of_ok h
  have hsql := (compile_of_select hkind h).1
  have haccepted : (build context calls).buildError = none := by rw [hbuild, hs]
  have hsound := sound_build hq hmark hcalls haccepted
  have hfragments := fragments_applyAll (k := {}) calls haccepted rfl
  have hquoting := (settings_build haccepted).1
  have hothers := unordered_build haccepted
  rw [← build, hbuild] at hfragments
  rw [hbuild] at hsound hquoting hothers
  rw [← hquoting] at hq ⊢
  rw [← isCountedOutside_eq_false_iff, ← hothers]
  cases hinside : s.isCountedOutside with
  | false =>
      have hcounted := (hsound.countingList hq).compile_of_select
        (fragments_countingList hfragments) hq hkind hs htable
      have hcountingSql := (selectSql_inside hinside).2.2
      refine ⟨_, (compileCount_inside hkind hinside).trans hcounted, fun _ => ?_,
        fun hne => absurd rfl hne⟩
      rw [hsql, hbindings, hcountingSql, values_of_inside hsound hfragments hkind hinside]
      exact ⟨selectSql_of_inside hinside, rfl, s.bindings.get .select, s.bindings.get .order, rfl,
        (count_selectList hq hsound hfragments).symm, (count_tailSql hq hsound hfragments).symm⟩
  | true =>
      have hinner := hsound.unordered.compile_of_select (fragments_unordered hfragments) hq hkind
        hs htable
      exact ⟨_, compileCount_of_outside hkind hinside hinner,
        fun hne => absurd hne.symm Bool.false_ne_true, fun _ => ⟨_, hinner, rfl⟩⟩

/-- A SELECT with a value in its list, one in its condition and one in its order. -/
def rankedCalls : List Call :=
  [.fromTable "t", .jsonExtract "a" "k" "b", .compare .and "c" "=" (.int 3),
    .orderByCase "d" [(.int 5, 1)] "?" "asc", .limit 10]

/-- What `rankedCalls` compile to. -/
def rankedQuery : Compiled where
  sql := "SELECT *, JSON_EXTRACT(`a`, ?) AS `b` FROM t WHERE `c` = ? " ++
    "ORDER BY CASE `d` WHEN ? THEN 1 ELSE '?' END ASC LIMIT 10"
  bindings := [.text "$.k", .int 3, .int 5]

set_option maxRecDepth 20000 in
theorem compileCount_of_compile_ranked :
    ∃ counted listed ordered, (build {} rankedCalls).compileCount = .ok counted ∧
      counted.sql = "SELECT COUNT(*) AS aggregate FROM t WHERE `c` = ?" ∧
      rankedQuery.bindings = listed ++ counted.bindings ++ ordered ∧ listed.length = 1 ∧
      ordered.length = 1 := by
  have hquery : (build {} rankedCalls).compile = .ok rankedQuery := rfl
  obtain ⟨counted, hcounted, hinside, -⟩ :=
    compileCount_of_compile (by decide) (by decide) (by decide) rfl rfl hquery
  obtain ⟨-, hsql, listed, ordered, hbindings, hlisted, hordered⟩ := hinside ⟨rfl, rfl, rfl, rfl⟩
  exact ⟨counted, listed, ordered, hcounted, hsql, hbindings, hlisted, hordered⟩

end Statement
end EntityQuery

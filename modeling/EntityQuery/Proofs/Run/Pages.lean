/-
# Pages and the rows that are counted

A page is fetched after the rows were counted.  What is counted are the rows of the
statement without its order: as a derived table, or with the SELECT list replaced
(`CountsRowsOf`).  The page is to be cut from the same rows, so its query should be the
statement's own one with the limit and the offset behind it.

That is so unless the statement is united with others, or the rows before the page are
more than a word can say, which they are not if there are rows (`compile_onPage_iff`).
The text of a SELECT has its limit and offset in front of the first UNION, so the page of
a union is cut from its first part, and the other parts follow it whole on every page,
while the count is that of all parts.  `pages_cut_from_counted_iff` says both of what is
sent, and `page_of_union` is a union whose page is not cut from what was counted.
-/

import EntityQuery.Proofs.Bound.Compile
import EntityQuery.Proofs.Order.Family
import EntityQuery.Proofs.Paged.Words
import EntityQuery.Proofs.Run.Requests

namespace EntityQuery

/-- The clauses that leave rows out and limit those that follow. -/
def cutClauses (limit offset : Nat) : String :=
  " LIMIT " ++ String.ofList (Text.decimal limit) ++ " OFFSET " ++
    String.ofList (Text.decimal offset)

/-- The clauses that cut a result to a page. -/
def Page.clauses (p : Page) : String :=
  cutClauses p.perPage.toNat ((p.current.toNat - 1) * p.perPage.toNat)

theorem decimal_inj {m n : Nat} (h : Text.decimal m = Text.decimal n) : m = n := by
  have hdigits := congrArg (fun digits => Nat.ofDigitChars 10 digits 0) h
  simpa only [Text.decimal, Nat.ofDigitChars_ten_toDigits] using hdigits

theorem cutClauses_inj {limit m n : Nat} : cutClauses limit m = cutClauses limit n ↔ m = n := by
  rw [cutClauses, cutClauses, String.append_right_inj, String.ofList_inj]
  exact ⟨decimal_inj, congrArg Text.decimal⟩

namespace Statement

open Placeholder

variable {s t : Statement} {own query counted : Compiled} {p : Page}
variable {connection : Connection} {session session₁ : Session}

/-- The statement without limit and offset. -/
def unpaged (s : Statement) : Statement :=
  { s with limitCount := none, offsetCount := none }

/-! ### Unions begin with their keyword -/

/-- The texts after the first SELECT each begin with the keyword of a union. -/
def UnionsMarked (s : Statement) : Prop :=
  ∀ text ∈ s.unions, ∃ all rest, text = unionKeyword all ++ rest

theorem UnionsMarked.append (hs : s.UnionsMarked) (all : Bool) (rest : String)
    (ht : t.unions = s.unions ++ [unionKeyword all ++ rest]) : t.UnionsMarked := by
  intro text htext
  rw [ht] at htext
  rcases List.mem_append.1 htext with h | h
  · exact hs text h
  · exact ⟨all, rest, List.mem_singleton.1 h⟩

theorem unionsMarked_apply {c : Call} (hs : s.UnionsMarked) (h : (s.apply c).buildError = none) :
    (s.apply c).UnionsMarked := by
  by_cases hc : Family.unions ∈ c.families
  · cases c with
    | union sub all =>
        rw [apply] at h ⊢
        obtain ⟨-, query, -, heq⟩ := union_of_accepted h
        exact hs.append all query.sql (by rw [heq])
    | unionRaw sql all => exact hs.append all (Text.trim sql) (by rw [apply, unionRaw])
    | _ => exact absurd hc (by simp [Call.families])
  · have hother := graft_apply_of_notMem (t := new {}) hc (by decide) h
    have hunions := congrArg Statement.unions hother
    have hsame : (s.apply c).unions = s.unions := hunions
    rw [UnionsMarked, hsame]
    exact hs

theorem unionsMarked_build {context : Context} {calls : List Call}
    (h : (build context calls).buildError = none) : (build context calls).UnionsMarked := by
  have hall : ∀ (calls : List Call) (s : Statement), s.UnionsMarked →
      (s.applyAll calls).buildError = none → (s.applyAll calls).UnionsMarked := by
    intro calls
    induction calls with
    | nil => exact fun s hs _ => hs
    | cons c calls ih =>
        intro s hs h
        rw [applyAll] at h ⊢
        exact ih _ (unionsMarked_apply hs (accepted_of_applyAll h)) h
  exact hall calls _ (fun text htext => absurd htext List.not_mem_nil) h

/-! ### The text of a page -/

/-- The text of a SELECT up to its order. -/
def resultSql (s : Statement) : String :=
  "SELECT " ++ (if s.isDistinct then "DISTINCT " else "") ++ s.selectList ++ " FROM " ++
    s.sourceSql ++ listClause " GROUP BY " s.groups ++ clause " HAVING " s.havingClause

theorem selectSql_unpaged (s : Statement) :
    s.unpaged.selectSql =
      s.resultSql ++ listClause " ORDER BY " s.orders ++ Text.eachAfter " " s.unions := by
  have hlimit : s.unpaged.selectSql = s.resultSql ++ listClause " ORDER BY " s.orders ++ "" ++ "" ++
      Text.eachAfter " " s.unions := rfl
  rw [hlimit, String.append_empty, String.append_empty]

theorem selectSql_onPage (s : Statement) (p : Page) :
    (s.onPage p).selectSql =
      s.resultSql ++ listClause " ORDER BY " s.orders ++ cutClauses p.perPage.toNat p.offset ++
        Text.eachAfter " " s.unions := by
  have hclauses : (s.onPage p).selectSql = s.resultSql ++ listClause " ORDER BY " s.orders ++
      (" LIMIT " ++ String.ofList (Text.decimal p.perPage.toNat)) ++
      (" OFFSET " ++ String.ofList (Text.decimal p.offset)) ++ Text.eachAfter " " s.unions := rfl
  rw [hclauses, cutClauses]
  simp only [String.append_assoc]

/-- The clauses of a page and a union begin with different letters, so their order shows. -/
theorem cutClauses_append_ne (limit offset : Nat) (all : Bool) (back back' : String) :
    cutClauses limit offset ++ back ≠ " " ++ (unionKeyword all ++ back') := by
  intro h
  have hlist := congrArg String.toList h
  rw [cutClauses] at hlist
  simp only [String.toList_append, List.append_assoc] at hlist
  cases all
  · exact absurd (List.cons.inj (List.cons.inj hlist).2).1 (by decide)
  · exact absurd (List.cons.inj (List.cons.inj hlist).2).1 (by decide)

theorem selectSql_onPage_iff (hs : s.UnionsMarked) (hp : 1 ≤ p.current.toNat) :
    (s.onPage p).selectSql = s.unpaged.selectSql ++ p.clauses ↔ s.unions = [] ∧ p.Fits := by
  rw [selectSql_onPage, selectSql_unpaged, ← Page.offset_eq_iff_fits hp]
  cases hunions : s.unions with
  | nil =>
      rw [Text.eachAfter, String.append_empty, String.append_empty, String.append_right_inj,
        Page.clauses, cutClauses_inj]
      exact ⟨fun h => ⟨rfl, h⟩, And.right⟩
  | cons text rest =>
      refine ⟨fun h => ?_, fun h => absurd h.1 (List.cons_ne_nil _ _)⟩
      obtain ⟨all, tail, rfl⟩ := hs text (by rw [hunions]; exact List.mem_cons_self)
      rw [Text.eachAfter] at h
      simp only [String.append_assoc] at h
      rw [String.append_right_inj, String.append_right_inj] at h
      exact absurd h (cutClauses_append_ne _ _ all _ _)

/-! ### The query of a page -/

/-- No placeholder is among the clauses of a page. -/
theorem count_append_clauses (quote : Char) (sql : String) (p : Page) :
    Placeholder.count quote (sql ++ p.clauses) = Placeholder.count quote sql := by
  have hlimit : " LIMIT ".toList.all isOrdinary = true := by decide
  have hoffset : " OFFSET ".toList.all isOrdinary = true := by decide
  have hordinary : ∀ c ∈ p.clauses.toList, isOrdinary c = true := by
    intro c hc
    simp only [Page.clauses, cutClauses, String.toList_append, String.toList_ofList,
      List.mem_append] at hc
    rcases hc with ((hc | hc) | hc) | hc
    · exact List.all_eq_true.1 hlimit c hc
    · exact isOrdinary_of_mem_decimal hc
    · exact List.all_eq_true.1 hoffset c hc
    · exact isOrdinary_of_mem_decimal hc
  rw [Placeholder.count, String.toList_append, countFrom_append, countFrom_of_ordinary hordinary,
    Nat.add_zero]
  rfl

/-- **The page of a SELECT is cut from its whole result,** unless it is united with others, and
unless there is no word for the rows before the page. -/
theorem compile_onPage_iff (hkind : s.kind = .select) (hs : s.UnionsMarked)
    (hown : s.unpaged.compile = .ok own) (hp : 1 ≤ p.current.toNat) :
    (s.onPage p).compile = .ok ⟨own.sql ++ p.clauses, own.bindings⟩ ↔
      s.unions = [] ∧ p.Fits := by
  obtain ⟨herror, htable, -, hbindings, hcount⟩ := compile_of_ok hown
  have hpage : (s.onPage p).text = .ok (s.onPage p).selectSql := text_of_select hkind
  have hsql := (compile_of_select (s := s.unpaged) hkind hown).1
  rw [← selectSql_onPage_iff (p := p) hs hp, ← hsql]
  constructor
  · exact fun h => (compile_of_select (s := s.onPage p) hkind h).1.symm
  · intro h
    have hpaged : (s.onPage p).compile =
        (s.onPage p).text.map fun sql => ⟨sql, s.unpaged.values⟩ := by
      refine compile_of_text herror htable fun sql hsql' => ?_
      rw [← Except.ok.inj (hpage.symm.trans hsql'), h, count_append_clauses]
      exact hcount
    rw [hpaged, hpage, h, hbindings]
    rfl

/-! ### The query that counts -/

/-- A query counts the rows of a statement, given the statement's own query. -/
structure CountsRowsOf (s : Statement) (own counted : Compiled) : Prop where
  /-- The order stands between the result and the unions. -/
  own_sql :
    own.sql = s.resultSql ++ listClause " ORDER BY " s.orders ++ Text.eachAfter " " s.unions
  own_bindings : own.bindings = s.bindings.merged .select
  /-- Grouped, distinct and united rows are counted as they are, in any order. -/
  outside : s.isCountedOutside = true →
    counted.sql = "SELECT COUNT(*) AS aggregate FROM (" ++
        (s.resultSql ++ Text.eachAfter " " s.unions) ++ ") AS aggregate_table" ∧
      counted.bindings = (s.bindings.clear .order).merged .select
  /-- For all others the SELECT list does not matter. -/
  inside : s.isCountedOutside = false →
    s.resultSql = "SELECT " ++ s.selectList ++ " FROM " ++ s.sourceSql ∧ s.unions = [] ∧
      counted.sql = "SELECT COUNT(*) AS aggregate FROM " ++ s.sourceSql ∧
      counted.bindings = ((s.bindings.clear .order).clear .select).merged .select

theorem selectSql_unordered (s : Statement) :
    s.unordered.selectSql = s.resultSql ++ Text.eachAfter " " s.unions := by
  have h : s.unordered.selectSql =
      s.resultSql ++ "" ++ "" ++ "" ++ Text.eachAfter " " s.unions := rfl
  rw [h, String.append_empty, String.append_empty, String.append_empty]

theorem compileCount_outside (hkind : s.kind = .select) (houtside : s.isCountedOutside = true)
    (h : s.compileCount = .ok counted) :
    ∃ inner, s.unordered.compile = .ok inner ∧
      counted = ⟨"SELECT COUNT(*) AS aggregate FROM (" ++ inner.sql ++ ") AS aggregate_table",
        inner.bindings⟩ := by
  have hbase : s.unordered.isCountedOutside = true := houtside
  rw [compileCount, if_neg (not_not_intro hkind)] at h
  dsimp only at h
  rw [if_pos hbase] at h
  cases hinner : s.unordered.compile with
  | error e =>
      rw [hinner] at h
      exact nomatch h
  | ok inner =>
      rw [hinner] at h
      exact ⟨inner, rfl, (Except.ok.inj h).symm⟩

/-- The statement that counts the rows of one that is neither grouped nor distinct nor united. -/
def countingList (s : Statement) : Statement :=
  { s.unordered with
    columns := ["COUNT(*) AS aggregate"]
    expressions := []
    bindings := s.unordered.bindings.clear .select }

theorem compileCount_inside (hkind : s.kind = .select) (hinside : s.isCountedOutside = false) :
    s.compileCount = s.countingList.compile := by
  have hbase : s.unordered.isCountedOutside = false := hinside
  rw [compileCount, if_neg (not_not_intro hkind)]
  dsimp only
  rw [hbase, if_neg Bool.false_ne_true]
  rfl

/-- Such a statement is its SELECT list and its source. -/
theorem selectSql_inside (hinside : s.isCountedOutside = false) :
    s.resultSql = "SELECT " ++ s.selectList ++ " FROM " ++ s.sourceSql ∧ s.unions = [] ∧
      s.countingList.selectSql = "SELECT COUNT(*) AS aggregate FROM " ++ s.sourceSql := by
  simp only [isCountedOutside, Bool.or_eq_false_iff, Bool.not_eq_false', List.isEmpty_iff,
    Option.isSome_eq_false_iff, Option.isNone_iff_eq_none] at hinside
  obtain ⟨⟨⟨hdistinct, hgroups⟩, hhaving⟩, hunions⟩ := hinside
  refine ⟨?_, hunions, ?_⟩
  · simp [resultSql, hdistinct, hgroups, hhaving, listClause, clause]
  · have hselect : s.countingList.selectSql =
        "SELECT " ++ (if s.isDistinct then "DISTINCT " else "") ++ "COUNT(*) AS aggregate" ++
          " FROM " ++ s.sourceSql ++ listClause " GROUP BY " s.groups ++
          clause " HAVING " s.havingClause ++ "" ++ "" ++ "" ++ Text.eachAfter " " s.unions := rfl
    rw [hselect, hdistinct, hgroups, hhaving, hunions]
    simp [listClause, clause, Text.eachAfter]

/-- **What is counted are the rows of the statement.** -/
theorem countsRowsOf_of_compile (hown : s.unpaged.compile = .ok own) (hkind : s.kind = .select)
    (hcounted : s.compileCount = .ok counted) : s.CountsRowsOf own counted := by
  obtain ⟨hsql, hbindings⟩ := compile_of_select (s := s.unpaged) hkind hown
  refine ⟨hsql.trans (selectSql_unpaged s), hbindings, fun houtside => ?_, fun hinside => ?_⟩
  · obtain ⟨inner, hinner, rfl⟩ := compileCount_outside hkind houtside hcounted
    obtain ⟨hsql', hbindings'⟩ := compile_of_select (s := s.unordered) hkind hinner
    rw [← selectSql_unordered, ← hsql']
    exact ⟨rfl, hbindings'⟩
  · rw [compileCount_inside hkind hinside] at hcounted
    obtain ⟨hsql', hbindings'⟩ := compile_of_select (s := s.countingList) hkind hcounted
    obtain ⟨hresult, hunions, hselect⟩ := selectSql_inside hinside
    exact ⟨hresult, hunions, hsql'.trans hselect, hbindings'⟩

/-! ### What is sent for a page -/

variable {total : Nat}

/-- What is counted fits into a word, being the value of a signed one. -/
theorem countOf_lt {row : Option Row} (h : countOf row = .ok total) : total < UInt64.size := by
  rw [countOf] at h
  split at h
  · exact Except.ok.inj h ▸ (by decide)
  · exact Except.ok.inj h ▸ (by decide)
  · split at h
    · rename_i n hn
      split at h
      · have hlt := n.toInt_lt
        have hsize : UInt64.size = 18446744073709551616 := rfl
        rw [← Except.ok.inj h, hsize]
        omega
      · cases h
    · cases h

theorem lt_of_perform_count (hcount : s.count.perform connection session = (.ok total, session₁)) :
    total < UInt64.size := by
  obtain ⟨counted, hcounted, -⟩ := compileCount_of_perform hcount
  rw [perform_count hcounted] at hcount
  have hresult := congrArg Prod.fst hcount
  dsimp only at hresult
  cases hanswer : connection.fetchOne session.requests counted.sql counted.bindings with
  | ok row =>
      rw [hanswer] at hresult
      exact countOf_lt hresult
  | error e =>
      rw [hanswer] at hresult
      cases hresult

/-- **The rows before a page are counted if there are rows.** -/
theorem fits_pageOf (hcount : s.count.perform connection session = (.ok total, session₁))
    (htotal : 0 < total) (page : Nat) (perPage : Option Nat) :
    (s.pageOf total page perPage).Fits := by
  have hlt := lt_of_perform_count hcount
  have hword : (UInt64.ofNat total).toNat = total :=
    UInt64.toNat_ofNat_of_lt' hlt
  have hpos : 0 < (UInt64.ofNat total).toNat := by
    rw [hword]
    exact htotal
  exact Page.fits_of_pos (UInt64.lt_iff_toNat_lt.2 hpos) _ _

/-- Once the rows were counted, what is left of the session is up to fetching the page. -/
theorem snd_perform_paginateWith {α : Type} {fetch : Statement → Action (List α)}
    (hcount : s.count.perform connection session = (.ok total, session₁)) (page : Nat)
    (perPage : Option Nat) :
    ((paginateWith fetch s page perPage).perform connection session).2 =
      ((fetch (s.onPage (s.pageOf total page perPage))).perform connection session₁).2 := by
  rw [paginateWith, Action.perform_bind_ok _ hcount]
  dsimp only
  cases hdata : (fetch (s.onPage (s.pageOf total page perPage))).perform connection session₁ with
  | mk result session₂ =>
      cases result with
      | ok data =>
          rw [Action.perform_bind_ok _ hdata]
          rfl
      | error e => rw [Action.perform_bind_error _ hdata]

/-- The two requests of a page: one for the count and one for the rows. -/
def pageRequests (counted own : Compiled) (p : Page) : List Request :=
  [⟨.fetchOne, counted.sql, counted.bindings⟩,
    ⟨.fetchAll, own.sql ++ p.clauses, own.bindings⟩]

theorem pageRequests_eq (hcounted : session₁.requests =
      session.requests ++ [⟨.fetchOne, counted.sql, counted.bindings⟩]) :
    session.requests ++ pageRequests counted own p =
      session₁.requests ++ [⟨.fetchAll, own.sql ++ p.clauses, own.bindings⟩] := by
  rw [hcounted, List.append_assoc]
  rfl

/-- The requests of a page are these if its query is the own one with the clauses of the page. -/
theorem prefix_pageRequests_iff {later : List Request}
    (hcounted : session₁.requests =
      session.requests ++ [⟨.fetchOne, counted.sql, counted.bindings⟩])
    (hquery : ∀ query, t.compile = .ok query →
      session₁.requests ++ [⟨.fetchAll, query.sql, query.bindings⟩] <+: later)
    (hfail : ∀ e, t.compile = .error e → later = session₁.requests) :
    session.requests ++ pageRequests counted own p <+: later ↔
      t.compile = .ok ⟨own.sql ++ p.clauses, own.bindings⟩ := by
  rw [pageRequests_eq hcounted]
  constructor
  · intro h
    cases hcompile : t.compile with
    | ok query =>
        have hsame := List.prefix_of_prefix_length_le h (hquery query hcompile) (by simp)
        have hrequest := List.append_cancel_left (hsame.eq_of_length (by simp))
        simp only [List.cons.injEq, Request.mk.injEq, true_and, and_true] at hrequest
        rw [hrequest.1, hrequest.2]
    | error e =>
        rw [hfail e hcompile] at h
        have hlength := h.length_le
        rw [List.length_append, List.length_singleton] at hlength
        exact absurd hlength (Nat.not_succ_le_self _)
  · exact fun h => hquery _ h

/-- **When pages are cut from the counted rows.**  A SELECT that compiles is counted and then paged.
The count is that of its own rows.  The query of the page is its own query with the limit and the
offset of the page behind it, for rows as for entities, if and only if it is not united with
others and a word can say how many rows are before the page, as it can if there are rows. -/
theorem pages_cut_from_counted_iff {context : Context} {calls : List Call}
    (hbuild : build context calls = s) (hkind : s.kind = .select)
    (hown : s.unpaged.compile = .ok own)
    (hcount : s.count.perform connection session = (.ok total, session₁)) (page : Nat)
    (perPage : Option Nat) :
    ∃ counted, s.compileCount = .ok counted ∧ s.CountsRowsOf own counted ∧
      let p := s.pageOf total page perPage
      let requests := pageRequests counted own p
      (0 < total → p.Fits) ∧
      (∀ (α : Type) [FromRow α],
        ((s.paginate α page perPage).perform connection session).2.requests =
          session.requests ++ requests ↔ s.unions = [] ∧ p.Fits) ∧
      (s.modelClass.isSome = true →
        (session.requests ++ requests <+:
          ((s.paginateEntities page perPage).perform connection session).2.requests ↔
            s.unions = [] ∧ p.Fits)) := by
  have hmarked : s.UnionsMarked := by
    rw [← hbuild]
    exact unionsMarked_build (by rw [hbuild]; exact (compile_of_ok hown).1)
  have hpage := compile_onPage_iff (p := s.pageOf total page perPage) hkind hmarked hown
    (Page.one_le_current ..)
  obtain ⟨counted, hcounted, hsession⟩ := compileCount_of_perform hcount
  have hrequests : session₁.requests =
      session.requests ++ [⟨.fetchOne, counted.sql, counted.bindings⟩] := by
    rw [hsession]
    rfl
  refine ⟨counted, hcounted, countsRowsOf_of_compile hown hkind hcounted,
    fun htotal => fits_pageOf hcount htotal page perPage, fun α _ => ?_, fun hmodel => ?_⟩
  · rw [← hpage, paginate, snd_perform_paginateWith hcount, snd_perform_fetchAllAs]
    generalize s.onPage (s.pageOf total page perPage) = t
    constructor
    · intro h
      have hprefix : session.requests ++ pageRequests counted own (s.pageOf total page perPage) <+:
          (t.fetchRows.perform connection session₁).2.requests :=
        ⟨[], (List.append_nil _).trans h.symm⟩
      refine (prefix_pageRequests_iff hrequests (fun query hquery => ?_) fun e he => ?_).1 hprefix
      · rw [perform_fetchRows hquery]
        exact List.prefix_refl _
      · have hrefuses : t.fetchRows.Refuses e := dispatch_refuses _ he
        rw [hrefuses connection session₁]
    · intro h
      rw [perform_fetchRows h]
      exact (pageRequests_eq hrequests).symm
  · obtain ⟨c, hc⟩ := Option.isSome_iff_exists.1 hmodel
    have hpageModel : (s.onPage (s.pageOf total page perPage)).modelClass = some c := hc
    rw [← hpage, paginateEntities, snd_perform_paginateWith hcount]
    refine prefix_pageRequests_iff hrequests (fun query hquery => ?_) fun e he => ?_
    · exact prefix_requests_getWithin hpageModel hquery _
    · rw [get, getWithin_refuses_of_compile hpageModel he _ connection session₁]

/-- A database that counts twenty-five rows and has none. -/
def countingConnection : Connection where
  driver := .ok "mysql"
  execute _ _ _ := .ok 0
  fetchOne _ _ _ := .ok (some ⟨[("aggregate", .int 25)]⟩)
  fetchAll _ _ _ := .ok []

/-- Distinct teams of a class, with a limit of their own. -/
def groupedCalls : List Call :=
  [.model ⟨"app::models::User", "users", "id", true, []⟩, .select ["team"], .distinct,
    .compare .and "age" ">" (.int 18), .groupBy ["team"], .orderBy "team" "asc", .limit 100]

set_option maxRecDepth 20000 in
theorem pages_cut_from_counted_iff_grouped :
    ∃ own counted, (build {} groupedCalls).unpaged.compile = .ok own ∧
      (build {} groupedCalls).compileCount = .ok counted ∧
      (((build {} groupedCalls).paginate Row 4 (some 10)).perform
          countingConnection {}).2.requests =
        pageRequests counted own ⟨25, 10, 3, 3⟩ ∧
      pageRequests counted own ⟨25, 10, 3, 3⟩ <+:
        (((build {} groupedCalls).paginateEntities 4 (some 10)).perform
          countingConnection {}).2.requests := by
  have hown : (build {} groupedCalls).unpaged.compile = .ok ⟨_, [.int 18]⟩ := rfl
  have hcount : (build {} groupedCalls).count.perform countingConnection {} = (.ok 25, _) := rfl
  have hunions : (build {} groupedCalls).unions = [] := rfl
  obtain ⟨counted, hcounted, -, hfits, hrows, hentities⟩ :=
    pages_cut_from_counted_iff rfl rfl hown hcount 4 (some 10)
  have hcut := And.intro hunions (hfits (by decide))
  exact ⟨_, counted, hown, hcounted, (hrows Row).2 hcut, (hentities rfl).2 hcut⟩

/-- Two tables, united. -/
def unitedCalls : List Call :=
  [.fromTable "users", .union [.fromTable "admins"] false]

set_option maxRecDepth 20000 in
/-- **The page of a union is not cut from what was counted.**  The count is that of both tables, but
only the first is cut. -/
theorem page_of_union :
    (build {} unitedCalls).unpaged.toSql = .ok "SELECT * FROM users UNION SELECT * FROM admins" ∧
      (((build {} unitedCalls).paginate Row 2 (some 2)).perform
          countingConnection {}).2.requests.map Request.sql =
        ["SELECT COUNT(*) AS aggregate FROM (SELECT * FROM users UNION SELECT * FROM admins) " ++
            "AS aggregate_table",
          "SELECT * FROM users LIMIT 2 OFFSET 2 UNION SELECT * FROM admins"] ∧
      "SELECT * FROM users LIMIT 2 OFFSET 2 UNION SELECT * FROM admins" ≠
        "SELECT * FROM users UNION SELECT * FROM admins" ++ Page.clauses ⟨25, 2, 2, 13⟩ :=
  ⟨rfl, rfl, by decide⟩

end Statement
end EntityQuery

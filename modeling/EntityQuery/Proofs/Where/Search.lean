/-
# Searching among the conditions of a SELECT

A search adds one condition, a group in which some column must be like the term, and
connects it with AND.  The conditions before it stay as they are, without parentheses
around them, so the group joins the last of their alternatives only
(`BoundCondition.holdsList_append_of_and`).  A row that satisfies an alternative before
an OR is found whether it is like the term or not.

`search_narrows_iff` says when that does no harm.  One choice of predicates speaks for
all rows that are not like the term, the one that satisfies everything but the tests of
the search (`exceptSearch`).  JSON predicates and the test for rows that are not deleted
are none of these tests (`ofJson_ne_append_ofValue`, `not_isSearchTest_notDeleted`), so
they cannot keep such a row away, and only the conditions of an alternative can.
-/

import EntityQuery.Proofs.Where.Alternatives

namespace EntityQuery

/-- What a column is compared with in a search. -/
def searchPattern (term : String) : Value :=
  .text ("%" ++ Text.trim term ++ "%")

/-- The call by which a search adds its condition. -/
def Call.search (columns : List String) (term : String) : Call :=
  .group .and (columns.map fun column => .compare .or column "LIKE" (searchPattern term))

/-- The test of a column in a search. -/
def searchTest (q : Quoting) (column term : String) : BoundText :=
  (BoundCondition.compare .or ⟨Text.trim column, false⟩ .like (.one (searchPattern term))).text q

/-- One of the columns is like the term. -/
def IsFound (q : Quoting) (columns : List String) (term : String)
    (satisfies : BoundText → Bool) : Prop :=
  ∃ column ∈ columns, satisfies (searchTest q column term) = true

namespace Statement

variable {s : Statement} {columns : List String} {term : String}

theorem applyAll_map_compare (s : Statement) (columns : List String) (value : Value) :
    s.applyAll (columns.map fun column => .compare .or column "LIKE" value) =
      columns.foldl (fun q column => q.compare .or column "LIKE" value) s := by
  induction columns generalizing s with
  | nil => rfl
  | cons column columns ih => rw [List.map_cons, applyAll, ih, List.foldl_cons, apply]

/-- Filtering by a search is a call like any other, if there are columns. -/
theorem searchFilter_of_ok {filtered : Statement} (h : s.searchFilter columns term = .ok filtered) :
    columns ≠ [] ∧ filtered = s.apply (.search columns term) := by
  unfold searchFilter at h
  split at h
  · exact nomatch h
  · rename_i hcolumns
    refine ⟨fun hnil => hcolumns (List.isEmpty_iff.2 hnil), ?_⟩
    rw [← Except.ok.inj h, Call.search, apply, applyAll_map_compare]
    rfl

end Statement

namespace BoundClauses

variable {q : Quoting} {columns : List String} {term : String} {satisfies : BoundText → Bool}

/-! ### The condition of a search -/

/-- The members of the group that a search adds. -/
def searched (columns : List String) (term : String) : List BoundCondition :=
  columns.map fun column =>
    .compare .or ⟨Text.trim column, false⟩ .like (.one (searchPattern term))

theorem conditions_placeAll_search (s : Statement) (k : BoundClauses) (columns : List String)
    (term : String) :
    (placeAll s k (columns.map fun column =>
        .compare .or column "LIKE" (searchPattern term))).conditions =
      k.conditions ++ searched columns term := by
  have hlike : Operator.parse? "LIKE" = some .like := by decide
  induction columns generalizing s k with
  | nil => exact (List.append_nil _).symm
  | cons column columns ih =>
      have hplaced : (place s k (.compare .or column "LIKE" (searchPattern term))).conditions =
          k.conditions ++ searched [column] term := by
        rw [place, compare, hlike]
        rfl
      rw [List.map_cons, placeAll, ih, hplaced, List.append_assoc]
      rfl

theorem searched_ne_nil (hcolumns : columns ≠ []) : searched columns term ≠ [] :=
  fun hnil => hcolumns (List.map_eq_nil_iff.1 hnil)

/-- A search adds one condition, whatever stands before it. -/
theorem place_search (s : Statement) (k : BoundClauses) (hcolumns : columns ≠ []) :
    place s k (.search columns term) = k.addCondition (.group .and (searched columns term)) := by
  rw [Call.search, place, addGroup, conditions_placeAll_search, List.nil_append,
    if_neg fun hempty => searched_ne_nil hcolumns (List.isEmpty_iff.1 hempty)]

/-- The condition of a search holds if one of the columns is like the term. -/
theorem holds_searched (hcolumns : columns ≠ []) :
    (BoundCondition.group .and (searched columns term)).holds q satisfies = true ↔
      IsFound q columns term satisfies := by
  have hor : ∀ c ∈ searched columns term, c.connector = .or := by
    intro c hc
    obtain ⟨column, -, rfl⟩ := List.mem_map.1 hc
    rfl
  rw [BoundCondition.holds, ← BoundCondition.holdsList,
    BoundCondition.holdsList_of_or (searched_ne_nil hcolumns) hor, searched, List.any_map,
    List.any_eq_true]
  exact Iff.rfl

/-! ### Rows that are not like the term -/

/-- Whether a predicate is a test of a search. -/
def IsSearchTest (q : Quoting) (columns : List String) (term : String) (t : BoundText) : Prop :=
  ∃ column ∈ columns, t = searchTest q column term

theorem searchTest_eq (q : Quoting) (column term : String) :
    searchTest q column term =
      .ofText (q.column (Text.trim column) ++ " LIKE ") ++ .ofValue (searchPattern term) := by
  simp [searchTest, BoundCondition.text, BoundCondition.words, Word.text, BoundOperand.text,
    ColumnRef.sql, Operator.sql, String.append_assoc]

/-- A test of a search compares with one value, which stands at its end. -/
theorem not_isSearchTest {t : BoundText}
    (h : ∀ text value, t ≠ .ofText text ++ .ofValue value) : ¬IsSearchTest q columns term t := by
  rintro ⟨column, -, heq⟩
  exact h _ _ (heq.trans (searchTest_eq q column term))

theorem not_isSearchTest_notDeleted (mark : String) :
    ¬IsSearchTest q columns term ((BoundCondition.notDeleted mark).text q) := by
  refine not_isSearchTest fun text value h => ?_
  have hvalues := congrArg BoundText.values h
  rw [BoundText.values_append, BoundText.values_ofText, BoundText.values_ofValue] at hvalues
  exact nomatch (BoundCondition.values_compare ..).symm.trans hvalues

/-- A text that ends with a letter ends with no value. -/
theorem ne_append_ofValue {t : BoundText} {text : String} {value : Value} {a : String} {c : Char}
    (hsql : t.sql = a ++ String.singleton c) (hc : c ≠ '?') :
    t ≠ .ofText text ++ .ofValue value := by
  rintro rfl
  have hreverse := congrArg (fun s => s.toList.reverse) hsql
  simp at hreverse
  exact hc hreverse.1.symm

/-- A JSON predicate binds two values, or something follows the one it binds. -/
theorem ofJson_ne_append_ofValue :
    OfJson fun t => ∀ text value, t ≠ .ofText text ++ .ofValue value where
  path d q column path op value text v := by
    cases op with
    | is =>
        refine ne_append_ofValue (a := (d.extractText q column path).sql ++ " IS NUL")
          (c := 'L') ?_ (by decide)
        simp [Dialect.pathText, Operator.sql, String.append_assoc]
    | isNot =>
        refine ne_append_ofValue (a := (d.extractText q column path).sql ++ " IS NOT NUL")
          (c := 'L') ?_ (by decide)
        simp [Dialect.pathText, Operator.sql, String.append_assoc]
    | _ =>
        intro h
        have hvalues := congrArg (fun t => t.values.length) h
        simp [Dialect.pathText, Dialect.extractText] at hvalues
  contains d q column value text v := by
    cases d with
    | mysql =>
        refine ne_append_ofValue (a := "JSON_CONTAINS(" ++ q.column column ++ ", ?")
          (c := ')') ?_ (by decide)
        simp [Dialect.containsText, String.append_assoc]
    | sqlite =>
        refine ne_append_ofValue
          (a := "EXISTS (SELECT 1 FROM json_each(" ++ q.column column ++
            ") WHERE json_each.value = ?") (c := ')') ?_ (by decide)
        simp [Dialect.containsText, String.append_assoc]

open Classical in
/-- The choice of predicates of a row that is not like the term and satisfies everything else. -/
noncomputable def exceptSearch (q : Quoting) (columns : List String) (term : String)
    (t : BoundText) : Bool :=
  !decide (IsSearchTest q columns term t)

theorem exceptSearch_eq_true {t : BoundText} :
    exceptSearch q columns term t = true ↔ ¬IsSearchTest q columns term t := by
  simp [exceptSearch]

theorem not_isFound_exceptSearch : ¬IsFound q columns term (exceptSearch q columns term) := by
  rintro ⟨column, hcolumn, hsatisfied⟩
  exact exceptSearch_eq_true.1 hsatisfied ⟨column, hcolumn, rfl⟩

/-- No row that is not like the term satisfies more. -/
theorem exceptSearch_of_not_isFound (h : ¬IsFound q columns term satisfies) {t : BoundText}
    (ht : satisfies t = true) : exceptSearch q columns term t = true := by
  rw [exceptSearch_eq_true]
  rintro ⟨column, hcolumn, heq⟩
  rw [heq] at ht
  exact h ⟨column, hcolumn, ht⟩

/-- Whether no row satisfies a condition unless it is like the term. -/
def RequiresFound (q : Quoting) (columns : List String) (term : String) (c : BoundCondition) :
    Prop :=
  ∀ satisfies, c.holds q satisfies = true → IsFound q columns term satisfies

/-- **One row speaks for all.** -/
theorem requiresFound_iff {c : BoundCondition} :
    RequiresFound q columns term c ↔ c.holds q (exceptSearch q columns term) = false := by
  constructor
  · intro h
    by_contra hholds
    exact not_isFound_exceptSearch (h _ (Bool.not_eq_false _ ▸ hholds))
  · intro h satisfies hholds
    by_contra hfound
    have hmost := BoundCondition.holds_mono (fun _ => exceptSearch_of_not_isFound hfound) hholds
    rw [h] at hmost
    exact Bool.false_ne_true hmost

/-! ### The WHERE clause of a search -/

variable {s : Statement} {k : BoundClauses}

/-- Nothing that stands besides the conditions keeps away a row that is not like the term. -/
theorem besides_exceptSearch (hk : ∀ t ∈ k.jsonConditions, ∀ text value,
    t ≠ .ofText text ++ .ofValue value) :
    k.besides s (exceptSearch s.quoting columns term) = true := by
  rw [besides, Bool.and_eq_true, List.all_eq_true, Bool.or_eq_true]
  exact ⟨fun t ht => exceptSearch_eq_true.2 (not_isSearchTest (hk t ht)),
    .inr (exceptSearch_eq_true.2 (not_isSearchTest_notDeleted _))⟩

/-- The conditions that follow a search are met by the rows that satisfy a complete alternative, and
by those that satisfy the last one and are like the term. -/
theorem holdsList_search (hcolumns : columns ≠ []) :
    BoundCondition.holdsList q satisfies
        (k.conditions ++ [.group .and (searched columns term)]) = true ↔
      BoundCondition.completeHolds q satisfies k.conditions = true ∨
        BoundCondition.currentHolds q satisfies k.conditions = true ∧
          IsFound q columns term satisfies := by
  rw [BoundCondition.holdsList_append_of_and rfl, Bool.or_eq_true, Bool.and_eq_true,
    holds_searched hcolumns]

/-- **When a search narrows its conditions.** -/
theorem forall_isFound_iff (hcolumns : columns ≠ []) {rest : (BoundText → Bool) → Bool}
    (hrest : rest (exceptSearch q columns term) = true) :
    (∀ satisfies, (BoundCondition.holdsList q satisfies
          (k.conditions ++ [.group .and (searched columns term)]) && rest satisfies) = true →
        IsFound q columns term satisfies) ↔
      ∀ run ∈ (Alternatives.ofList k.conditions).complete,
        ∃ c ∈ run, RequiresFound q columns term c := by
  constructor
  · intro h run hrun
    by_contra hnone
    -- A run that requires nothing of the kind lets through the row that speaks for all.
    have hholds : run.all (fun c => c.holds q (exceptSearch q columns term)) = true := by
      refine List.all_eq_true.2 fun c hc => ?_
      by_contra hc'
      exact hnone ⟨c, hc, requiresFound_iff.2 (Bool.eq_false_iff.2 hc')⟩
    have hcomplete : BoundCondition.completeHolds q (exceptSearch q columns term) k.conditions =
        true := List.any_eq_true.2 ⟨run, hrun, hholds⟩
    exact not_isFound_exceptSearch
      (h _ (Bool.and_eq_true_iff.2 ⟨(holdsList_search hcolumns).2 (.inl hcomplete), hrest⟩))
  · intro h satisfies hsatisfied
    rcases (holdsList_search hcolumns).1 (Bool.and_eq_true_iff.1 hsatisfied).1 with
      hcomplete | ⟨-, hfound⟩
    · obtain ⟨run, hrun, hholds⟩ := List.any_eq_true.1 hcomplete
      obtain ⟨c, hc, hrequires⟩ := h run hrun
      exact hrequires satisfies (List.all_eq_true.1 hholds c hc)
    · exact hfound

/-- A search changes nothing of what stands besides the conditions. -/
theorem addsNotDeleted_search (h : (s.apply (.search columns term)).buildError = none) :
    (s.apply (.search columns term)).addsNotDeleted = s.addsNotDeleted := by
  rw [Call.search, Statement.apply] at h ⊢
  rw [(Statement.addGroup_of_accepted h).2.2.2]
  split
  · rfl
  · rw [Statement.addsNotDeleted_addCondition]
    exact Bool.and_true _

theorem besides_search (h : (s.apply (.search columns term)).buildError = none) :
    (k.addCondition (.group .and (searched columns term))).besides
      (s.apply (.search columns term)) = k.besides s := by
  funext satisfies
  rw [besides, besides, addsNotDeleted_search h, Statement.softDeleteColumn, Statement.quoting,
    Statement.context_apply h]
  rfl

theorem fragments_search (h : s.fragments = k.fragments) (hcolumns : columns ≠ [])
    (haccepted : (s.apply (.search columns term)).buildError = none) :
    (s.apply (.search columns term)).fragments =
      (k.addCondition (.group .and (searched columns term))).fragments := by
  rw [← place_search s k hcolumns]
  exact fragments_apply _ haccepted h

/-- The WHERE clause of a search. -/
theorem satisfied_search (h : s.fragments = k.fragments) (hcolumns : columns ≠ [])
    (haccepted : (s.apply (.search columns term)).buildError = none)
    (satisfies : BoundText → Bool) :
    Word.satisfied satisfies ((k.addCondition (.group .and (searched columns term))).selectWords
        (s.apply (.search columns term))) =
      (BoundCondition.holdsList s.quoting satisfies
        (k.conditions ++ [.group .and (searched columns term)]) && k.besides s satisfies) := by
  rw [satisfied_selectWords (fragments_search h hcolumns haccepted), besides_search haccepted,
    Statement.quoting, Statement.context_apply haccepted]
  rfl

theorem conditions_search_ne_nil (h : s.fragments = k.fragments) (hcolumns : columns ≠ [])
    (haccepted : (s.apply (.search columns term)).buildError = none) :
    (s.apply (.search columns term)).conditions ≠ [] := by
  have hconditions : (s.apply (.search columns term)).conditions =
      BoundCondition.conditions (k.conditions ++ [.group .and (searched columns term)]) :=
    conditions_of_fragments (fragments_search h hcolumns haccepted)
  rw [hconditions, conditions_append]
  exact List.append_ne_nil_of_right_ne_nil _ (List.cons_ne_nil _ _)

end BoundClauses

namespace Statement

open BoundClauses

/-- **When a search narrows a SELECT.**  What a search gives stands in the WHERE clause of its text,
and every row that satisfies the clause satisfies that of the SELECT without the search.  All these
rows are like the term if and only if every alternative before an OR of the conditions, of
themselves, requires a column to be like it; that is so if no OR stands between the conditions. -/
theorem search_narrows_iff {context : Context} {calls : List Call} {columns : List String}
    {term : String} {filtered : Statement} {query : Compiled}
    (hkind : (build context calls).kind = .select)
    (hsearch : (build context calls).searchFilter columns term = .ok filtered)
    (h : filtered.compile = .ok query) :
    let s := build context calls
    let k := placeAll (.new context) {} calls
    let q := context.config.quoting
    let searching := calls ++ [.search columns term]
    let words := (placeAll (.new context) {} searching).selectWords filtered
    filtered = build context searching ∧
    (emitted context searching).sql = query.sql ∧
    (∃ head tail,
      emitted context searching = head ++ (.ofText " WHERE " ++ Word.textOf words) ++ tail) ∧
    (∀ satisfies, Word.satisfied satisfies words = true →
      Word.satisfied satisfies (k.selectWords s) = true) ∧
    ((∀ satisfies, Word.satisfied satisfies words = true → IsFound q columns term satisfies) ↔
      ∀ run ∈ (Alternatives.ofList k.conditions).complete,
        ∃ c ∈ run, RequiresFound q columns term c) ∧
    (Condition.hasTopLevelOr s.conditions = false →
      (Alternatives.ofList k.conditions).complete = []) := by
  intro s k q searching words
  obtain ⟨hcolumns, hfiltered⟩ := searchFilter_of_ok hsearch
  have hbuild : filtered = build context searching := by
    rw [build_append, applyAll, applyAll]
    exact hfiltered
  have haccepted : (s.apply (.search columns term)).buildError = none := by
    rw [← hfiltered]
    exact (compile_of_ok h).1
  have hbefore : s.buildError = none := accepted_of_apply haccepted
  have hquoting : s.quoting = q := (settings_build hbefore).1
  have hfragments : s.fragments = k.fragments := fragments_applyAll calls hbefore rfl
  have hwords : ∀ satisfies, Word.satisfied satisfies words =
      (BoundCondition.holdsList q satisfies
        (k.conditions ++ [.group .and (searched columns term)]) && k.besides s satisfies) := by
    intro satisfies
    rw [← hquoting, ← satisfied_search hfragments hcolumns haccepted, ← place_search s k hcolumns,
      ← hfiltered]
    exact congrArg (fun clauses => Word.satisfied satisfies (selectWords clauses filtered))
      (placeAll_append ..)
  refine ⟨hbuild, sql_emitted (hbuild ▸ h), ?_, fun satisfies hsatisfied => ?_, ?_, fun hor => ?_⟩
  · have hselect : filtered.kind = .select := by
      rw [hfiltered, (frame_apply haccepted).kind rfl]
      exact hkind
    have hne : filtered.conditions ≠ [] := by
      rw [hfiltered]
      exact conditions_search_ne_nil hfragments hcolumns haccepted
    have hemitted := @exists_emitted context searching
    rw [← hbuild] at hemitted
    exact hemitted (compile_of_ok h).1 hselect (selectConditions_ne_nil_of_conditions hne)
  · rw [hwords, Bool.and_eq_true, holdsList_search hcolumns] at hsatisfied
    rw [satisfied_selectWords hfragments, hquoting, Bool.and_eq_true, BoundCondition.holdsList_eq,
      Bool.or_eq_true]
    exact ⟨hsatisfied.1.imp_right And.left, hsatisfied.2⟩
  · have hjson : ∀ t ∈ k.jsonConditions, ∀ text value, t ≠ .ofText text ++ .ofValue value :=
      ofJson_ne_append_ofValue.placeAll (fun t ht => absurd ht List.not_mem_nil) _ calls
    have hbesides : k.besides s (exceptSearch q columns term) = true := by
      rw [← hquoting]
      exact besides_exceptSearch hjson
    simp only [hwords]
    exact forall_isFound_iff hcolumns hbesides
  · have hconditions := conditions_of_fragments hfragments
    rw [hconditions] at hor
    rw [Alternatives.ofList_of_noOr hor]

/-- The calls of a SELECT that compares two columns. -/
def pickedUsers (connector : Connector) : List Call :=
  [.fromTable "users", .compare .and "id" "=" (.int 1), .compare connector "admin" "=" (.int 1)]

/-- The SELECT with a search among its conditions. -/
def searchedPick (connector : Connector) (columns : List String) : List Call :=
  pickedUsers connector ++ [.search columns " ann"]

/-- Where all conditions are connected with AND, a search gives only what is like the term. -/
theorem search_narrows_iff_plain :
    (build {} (pickedUsers .and)).searchFilter ["name", "email"] " ann" =
        .ok (build {} (searchedPick .and ["name", "email"])) ∧
      ∀ satisfies, Word.satisfied satisfies
          ((placeAll (.new {}) {} (searchedPick .and ["name", "email"])).selectWords
            (build {} (searchedPick .and ["name", "email"]))) = true →
        IsFound {} ["name", "email"] " ann" satisfies := by
  have hcompile : (build {} (searchedPick .and ["name", "email"])).compile =
      .ok ⟨"SELECT * FROM users WHERE `id` = ? AND `admin` = ? AND " ++
          "(`name` LIKE ? OR `email` LIKE ?)",
        [.int 1, .int 1, .text "%ann%", .text "%ann%"]⟩ := rfl
  obtain ⟨-, -, -, -, hiff, hnoOr⟩ :=
    @search_narrows_iff {} (pickedUsers .and) ["name", "email"] " ann" _ _ rfl rfl hcompile
  refine ⟨rfl, hiff.2 fun run hrun => ?_⟩
  rw [hnoOr rfl] at hrun
  exact absurd hrun List.not_mem_nil

/-- Behind an OR a search gives a row that is not like the term. -/
theorem search_finds_others :
    (build {} (searchedPick .or ["name"])).compile =
        .ok ⟨"SELECT * FROM users WHERE `id` = ? OR `admin` = ? AND (`name` LIKE ?)",
          [.int 1, .int 1, .text "%ann%"]⟩ ∧
      ∃ satisfies, ¬IsFound {} ["name"] " ann" satisfies ∧ Word.satisfied satisfies
        ((placeAll (.new {}) {} (searchedPick .or ["name"])).selectWords
          (build {} (searchedPick .or ["name"]))) = true := by
  refine ⟨rfl, fun t => t.sql != "`name` LIKE ?", ?_, rfl⟩
  rintro ⟨column, hcolumn, hsatisfied⟩
  rw [List.mem_singleton.1 hcolumn] at hsatisfied
  exact Bool.false_ne_true hsatisfied

end Statement
end EntityQuery

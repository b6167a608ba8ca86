/-
# Tests for null that are left out

A test for null is not added again if the conditions have it already with the same
connector, nor if the SELECT is to filter marked rows and the test is for them
(`skipped_of_conditions`).  Both looks go over the whole list, and where the ORs stand is
not asked.

The rows that a SELECT gives need therefore not be those that it would give with the test
at the end of its conditions.  Left out behind an AND, the test would have met the last
alternative only, and left out behind an OR, it would have been an alternative of its own
(`satisfied_withNullTest`).  `skipped_null_test_redundant_iff` says what the conditions
must be like for the test to make no difference.  It makes none behind an AND if no OR
stands between the conditions, and none behind an OR if the conditions have the test for
an alternative.
-/

import EntityQuery.Proofs.Where.Alternatives

namespace EntityQuery

namespace Statement

/-- Whether a column is the mark of deletion, quotes aside. -/
def isMark (s : Statement) (column : String) : Bool :=
  s.quoting.unwrap (Text.trim column) == s.quoting.unwrap s.softDeleteColumn

/-- The test of a column for null, or for not null, as it is added to the conditions. -/
def nullTest (s : Statement) (connector : Connector) (notNull : Bool) (column : String) :
    BoundCondition :=
  .compare connector ⟨Text.trim column, s.isMark column⟩ (Condition.nullOperator notNull) .null

/-- The statement with the test at the end of its conditions, whatever they are. -/
def withNullTest (s : Statement) (connector : Connector) (notNull : Bool) (column : String) :
    Statement :=
  s.addCondition (s.nullTest connector notNull column).condition []

variable {s : Statement} {connector : Connector} {notNull : Bool} {column : String}

/-- The conditions that a test for null leaves are those before it only if they have the test. -/
theorem any_isNullCheck_of_nullChecked {column : String}
    (h : s.nullChecked connector notNull column = s.conditions) :
    s.conditions.any (Condition.isNullCheck s.quoting column notNull connector) = true := by
  unfold nullChecked at h
  simp only at h
  split at h
  · rename_i hthere
    rw [h] at hthere
    exact hthere
  · rw [← h, List.any_append, List.any_cons, Condition.isNullCheck_self, Bool.true_or, Bool.or_true]

/-- **Why a test for null is left out.**  A call that leaves the conditions as they are leaves the
whole statement as it is, and either the SELECT adds the test or the conditions have it. -/
theorem skipped_of_conditions (h : (s.nullCheck connector notNull column).buildError = none)
    (hskipped : (s.nullCheck connector notNull column).conditions = s.conditions) :
    s.nullCheck connector notNull column = s ∧
      (s.leavesNullCheck notNull (Text.trim column) = true ∨
        s.conditions.any (Condition.isNullCheck s.quoting (Text.trim column) notNull connector) =
          true) := by
  have heq := (nullCheck_of_accepted h).2.2
  split at heq
  · rename_i hleft
    exact ⟨heq, .inl hleft⟩
  · rw [heq] at hskipped
    have hsame : s.nullChecked connector notNull (Text.trim column) = s.conditions := hskipped
    refine ⟨?_, .inr (any_isNullCheck_of_nullChecked hsame)⟩
    rw [heq, hsame]

/-- The test is the one that compiling adds for rows that are not deleted only if it is connected
with AND. -/
theorem isNullCheck_nullTest :
    (s.nullTest connector notNull column).condition.isNullCheck s.quoting s.softDeleteColumn false
        .and =
      (connector == .and && !notNull && s.isMark column) := by
  cases connector <;> cases notNull <;> rfl

end Statement

namespace BoundClauses

variable {s : Statement} {k : BoundClauses} {connector : Connector} {notNull : Bool}
  {column : String}

/-! ### What a row says of the column -/

/-- A test of the column holds for a row as the row has a value there or none. -/
theorem holds_of_isNullCheck (row : RowView s.quoting (Text.trim column)) {c : BoundCondition}
    (hc : c.condition.isNullCheck s.quoting (Text.trim column) notNull connector = true) :
    c.holds s.quoting row.satisfies = (row.marked == notNull) := by
  obtain ⟨col, heq, hname⟩ := Condition.isNullCheck_iff.1 hc
  have hrefers : col.refersTo s.quoting (Text.trim column) = true := beq_iff_eq.2 hname
  have htest : c.holds s.quoting row.satisfies =
      row.satisfies (EntityQuery.nullTest s.quoting col notNull) := by
    cases c with
    | compare _ _ _ operand =>
        obtain ⟨rfl, rfl, rfl, hoperand⟩ := Condition.compare.inj heq
        cases operand with
        | null => rfl
        | one v => exact nomatch hoperand
        | group vs => exact nomatch hoperand
        | range low high => exact nomatch hoperand
    | list => exact nomatch heq
    | subquery => exact nomatch heq
    | group => exact nomatch heq
  rw [htest]
  cases notNull with
  | false => rw [row.null col hrefers, beq_false]
  | true => rw [row.notNull col hrefers, beq_true]

theorem holds_nullTest (row : RowView s.quoting (Text.trim column)) :
    (s.nullTest connector notNull column).holds s.quoting row.satisfies =
      (row.marked == notNull) :=
  holds_of_isNullCheck row (Condition.isNullCheck_self ..)

/-- If the column is the mark, the row says by it whether it is deleted. -/
theorem satisfies_notDeleted (row : RowView s.quoting (Text.trim column))
    (hmark : s.isMark column = true) :
    row.satisfies ((BoundCondition.notDeleted s.softDeleteColumn).text s.quoting) =
      !row.marked := by
  refine row.null ⟨s.softDeleteColumn, true⟩ ?_
  rw [ColumnRef.refersTo, eq_of_beq hmark]
  exact beq_self_eq_true _

/-! ### The clause with the test and without it -/

/-- What the conditions of a SELECT must be like for a test of a column to make no difference at
their end.  Behind an OR, the rows that pass the test must satisfy the conditions anyway.  Behind an
AND, the rows that satisfy the last alternative without passing the test must satisfy one before it;
but if the test takes the place of the one that compiling adds, then no row with a mark may satisfy
an alternative before the last. -/
def MakesNoDifference (k : BoundClauses) (s : Statement) (notNull : Bool) (column : String) :
    Connector → Prop
  | .or => ∀ row : RowView s.quoting (Text.trim column), k.besides s row.satisfies = true →
      row.marked = notNull → BoundCondition.holdsList s.quoting row.satisfies k.conditions = true
  | .and =>
    if s.addsNotDeleted && !notNull && s.isMark column then
      ∀ row : RowView s.quoting (Text.trim column), k.jsonConditions.all row.satisfies = true →
        BoundCondition.completeHolds s.quoting row.satisfies k.conditions = true →
          row.marked = false
    else
      ∀ row : RowView s.quoting (Text.trim column), k.besides s row.satisfies = true →
        BoundCondition.currentHolds s.quoting row.satisfies k.conditions = true →
          row.marked ≠ notNull →
            BoundCondition.completeHolds s.quoting row.satisfies k.conditions = true

theorem addsNotDeleted_withNullTest :
    (s.withNullTest connector notNull column).addsNotDeleted =
      (s.addsNotDeleted && !(connector == .and && !notNull && s.isMark column)) := by
  rw [Statement.withNullTest, Statement.addsNotDeleted_addCondition, Statement.isNullCheck_nullTest]

/-- The test at the end leaves what stands besides the conditions as it is, unless it is the one
that compiling adds. -/
theorem besides_withNullTest (satisfies : BoundText → Bool)
    (h : (connector == .and && (s.addsNotDeleted && !notNull && s.isMark column)) = false) :
    (k.addCondition (s.nullTest connector notNull column)).besides
        (s.withNullTest connector notNull column) satisfies = k.besides s satisfies := by
  have hadds : (s.withNullTest connector notNull column).addsNotDeleted = s.addsNotDeleted := by
    rw [addsNotDeleted_withNullTest]
    cases hadded : s.addsNotDeleted with
    | false => rfl
    | true =>
        rw [hadded, Bool.true_and, ← Bool.and_assoc] at h
        rw [h]
        rfl
  rw [besides, besides, hadds]
  rfl

/-- The WHERE clause with the test at the end of the conditions. -/
theorem satisfied_withNullTest (h : s.fragments = k.fragments) (satisfies : BoundText → Bool) :
    Word.satisfied satisfies ((k.addCondition (s.nullTest connector notNull column)).selectWords
        (s.withNullTest connector notNull column)) =
      (BoundCondition.holdsList s.quoting satisfies
          (k.conditions ++ [s.nullTest connector notNull column]) &&
        (k.addCondition (s.nullTest connector notNull column)).besides
          (s.withNullTest connector notNull column) satisfies) :=
  satisfied_selectWords (fragments_addCondition h rfl) satisfies

/-- The rows that a SELECT gives are those that it gives with the test at the end. -/
def GivesSameRows (k : BoundClauses) (s : Statement) (connector : Connector) (notNull : Bool)
    (column : String) : Prop :=
  ∀ row : RowView s.quoting (Text.trim column),
    Word.satisfied row.satisfies (k.selectWords s) =
      Word.satisfied row.satisfies
        ((k.addCondition (s.nullTest connector notNull column)).selectWords
          (s.withNullTest connector notNull column))

theorem givesSameRows_or_iff (h : s.fragments = k.fragments) (hne : k.conditions ≠ []) :
    GivesSameRows k s .or notNull column ↔ MakesNoDifference k s notNull column .or := by
  have hbool : ∀ c t b : Bool, (c && b) = ((c || t) && b) ↔ (b = true → t = true → c = true) := by
    decide
  refine forall_congr' fun row => ?_
  rw [satisfied_selectWords h, satisfied_withNullTest h, besides_withNullTest _ rfl,
    BoundCondition.holdsList_append_of_or hne rfl, holds_nullTest, hbool, beq_iff_eq]

theorem givesSameRows_and_iff (h : s.fragments = k.fragments) :
    GivesSameRows k s .and notNull column ↔ MakesNoDifference k s notNull column .and := by
  rw [MakesNoDifference]
  split
  · rename_i hmark
    have hbool : ∀ c l j m : Bool, ((c || l) && (j && !m)) = ((c || l && (m == false)) && j) ↔
        (j = true → c = true → m = false) := by
      decide
    rw [Bool.and_eq_true, Bool.and_eq_true, Bool.not_eq_true'] at hmark
    obtain ⟨⟨hadds, rfl⟩, hmark⟩ := hmark
    -- With the test among the conditions compiling adds none, so the two clauses differ in more
    -- than the last run: before, every run had to be met by a row that is not deleted.
    refine forall_congr' fun row => ?_
    have hbefore : k.besides s row.satisfies =
        (k.jsonConditions.all row.satisfies && !row.marked) := by
      rw [besides, hadds, satisfies_notDeleted row hmark]
      rfl
    have hafter : (k.addCondition (s.nullTest .and false column)).besides
        (s.withNullTest .and false column) row.satisfies =
          k.jsonConditions.all row.satisfies := by
      rw [besides, addsNotDeleted_withNullTest, hmark, hadds]
      exact Bool.and_true _
    rw [satisfied_selectWords h, satisfied_withNullTest h, hbefore, hafter,
      BoundCondition.holdsList_append_of_and rfl, BoundCondition.holdsList_eq, holds_nullTest,
      hbool]
  · rename_i hmark
    have hbool : ∀ c l b m n : Bool, ((c || l) && b) = ((c || l && (m == n)) && b) ↔
        (b = true → l = true → m ≠ n → c = true) := by
      decide
    have hkeeps : (Connector.and == .and && (s.addsNotDeleted && !notNull && s.isMark column)) =
        false := Bool.eq_false_iff.2 hmark
    refine forall_congr' fun row => ?_
    rw [satisfied_selectWords h, satisfied_withNullTest h,
      besides_withNullTest _ hkeeps,
      BoundCondition.holdsList_append_of_and rfl, BoundCondition.holdsList_eq, holds_nullTest,
      hbool]

/-- Why a test for null may be left out: the SELECT adds it, or the conditions have it. -/
def IsSkipped (s : Statement) (connector : Connector) (notNull : Bool) (column : String) : Prop :=
  s.leavesNullCheck notNull (Text.trim column) = true ∨
    s.conditions.any (Condition.isNullCheck s.quoting (Text.trim column) notNull connector) = true

/-- A SELECT without conditions that filters marked rows adds the test by itself. -/
theorem givesSameRows_of_no_conditions (h : s.fragments = k.fragments) (hnil : k.conditions = [])
    (hleft : s.leavesNullCheck notNull (Text.trim column) = true) :
    GivesSameRows k s .or notNull column := by
  have hconditions := conditions_of_fragments h
  rw [Statement.leavesNullCheck, Bool.and_eq_true, Bool.and_eq_true, Bool.not_eq_true'] at hleft
  obtain ⟨⟨rfl, hmark⟩, hfilters⟩ := hleft
  have hadds : s.addsNotDeleted = true := by
    rw [Statement.addsNotDeleted, hfilters, hconditions, hnil]
    rfl
  intro row
  have hbesides : k.besides s row.satisfies =
      (k.jsonConditions.all row.satisfies && !row.marked) := by
    rw [besides, hadds, satisfies_notDeleted row hmark]
    rfl
  have hlist : BoundCondition.holdsList s.quoting row.satisfies
      ([] ++ [s.nullTest .or false column]) = !row.marked := by
    have hor : ∀ c ∈ [s.nullTest .or false column], c.connector = .or := by
      intro c hc
      rw [List.mem_singleton.1 hc]
      rfl
    rw [List.nil_append, BoundCondition.holdsList_of_or (List.cons_ne_nil _ _) hor,
      List.any_cons, holds_nullTest, List.any_nil, Bool.or_false, beq_false]
  rw [satisfied_selectWords h, satisfied_withNullTest h, besides_withNullTest _ rfl, hbesides, hnil,
    hlist]
  cases row.marked with
  | false => rfl
  | true => simp

/-- **When the test makes no difference**, if it was left out for a reason. -/
theorem givesSameRows_iff (h : s.fragments = k.fragments)
    (hskipped : IsSkipped s connector notNull column) :
    GivesSameRows k s connector notNull column ↔
      MakesNoDifference k s notNull column connector := by
  cases connector with
  | and => exact givesSameRows_and_iff h
  | or =>
      by_cases hnil : k.conditions = []
      · have hconditions : s.conditions = [] := by
          rw [conditions_of_fragments h, hnil]
          rfl
        have hleft : s.leavesNullCheck notNull (Text.trim column) = true := by
          refine hskipped.resolve_right fun hthere => ?_
          rw [hconditions] at hthere
          exact Bool.false_ne_true hthere
        refine iff_of_true (givesSameRows_of_no_conditions h hnil hleft) fun row _ _ => ?_
        rw [hnil]
        rfl
      · exact givesSameRows_or_iff h hnil

/-! ### Conditions that leave no doubt -/

/-- Unless the SELECT is to add the test, the conditions have it. -/
theorem any_isNullCheck_of_isSkipped (hskipped : IsSkipped s .and notNull column)
    (hadds : ¬(s.addsNotDeleted && !notNull && s.isMark column) = true) :
    s.conditions.any (Condition.isNullCheck s.quoting (Text.trim column) notNull .and) = true := by
  rcases hskipped with hleft | hthere
  · rw [Statement.leavesNullCheck, Bool.and_eq_true, Bool.and_eq_true, Bool.not_eq_true'] at hleft
    obtain ⟨⟨rfl, hmark⟩, hfilters⟩ := hleft
    have hisMark : s.isMark column = true := hmark
    rw [hisMark, Statement.addsNotDeleted, hfilters, Bool.true_and, Bool.not_false, Bool.and_true,
      Bool.and_true, Bool.not_eq_true', Bool.not_eq_false] at hadds
    obtain ⟨c, hc, hcheck⟩ := List.any_eq_true.1 hadds
    obtain ⟨col, rfl, hname⟩ := Condition.isNullCheck_iff.1 hcheck
    exact List.any_eq_true.2
      ⟨_, hc, Condition.isNullCheck_iff.2 ⟨col, rfl, hname.trans (eq_of_beq hmark).symm⟩⟩
  · exact hthere

/-- Behind an AND the test makes no difference if no OR stands between the conditions. -/
theorem makesNoDifference_of_noOr (h : s.fragments = k.fragments)
    (hskipped : IsSkipped s .and notNull column)
    (hor : Condition.hasTopLevelOr s.conditions = false) :
    MakesNoDifference k s notNull column .and := by
  have hconditions := conditions_of_fragments h
  have hruns : Alternatives.ofList k.conditions = ⟨[], k.conditions⟩ := by
    rw [hconditions] at hor
    exact Alternatives.ofList_of_noOr hor
  rw [MakesNoDifference]
  split
  · intro row _ hcomplete
    rw [BoundCondition.completeHolds, hruns] at hcomplete
    exact absurd hcomplete Bool.false_ne_true
  · rename_i hadds
    intro row _ hcurrent hmarked
    have hthere := any_isNullCheck_of_isSkipped hskipped hadds
    rw [hconditions, any_conditions] at hthere
    obtain ⟨c, hc, hcheck⟩ := List.any_eq_true.1 hthere
    rw [BoundCondition.currentHolds, hruns] at hcurrent
    have hholds := List.all_eq_true.1 hcurrent c hc
    rw [holds_of_isNullCheck row hcheck, beq_iff_eq] at hholds
    exact absurd hholds hmarked

/-- Behind an OR the test makes no difference if it is an alternative of the conditions. -/
theorem makesNoDifference_of_run {run : List BoundCondition}
    (hrun : run ∈ (Alternatives.ofList k.conditions).runs)
    (htests : ∀ c ∈ run, ∃ connector,
      c.condition.isNullCheck s.quoting (Text.trim column) notNull connector = true) :
    MakesNoDifference k s notNull column .or := by
  intro row _ hmarked
  rw [BoundCondition.holdsList_eq_any]
  refine List.any_eq_true.2 ⟨run, hrun, List.all_eq_true.2 fun c hc => ?_⟩
  obtain ⟨connector, hcheck⟩ := htests c hc
  rw [holds_of_isNullCheck row hcheck, beq_iff_eq]
  exact hmarked

end BoundClauses

namespace Statement

open BoundClauses

/-- **When a test for null that is left out would have made no difference.**  A call for a test that
leaves the conditions of a SELECT as they are leaves the whole statement as it is, and either the
SELECT is to filter marked rows and the test is for them, or the conditions have it.  The rows that
it gives are those that it would give with the test at the end of its conditions if and only if the
conditions are as `MakesNoDifference` says; they are behind an AND if no OR stands between them, and
behind an OR if they have the test for an alternative. -/
theorem skipped_null_test_redundant_iff {context : Context} {calls : List Call}
    {connector : Connector} {notNull : Bool} {column : String} {query : Compiled}
    (hkind : (build context calls).kind = .select)
    (hskipped : ((build context calls).nullCheck connector notNull column).conditions =
      (build context calls).conditions)
    (h : ((build context calls).nullCheck connector notNull column).compile = .ok query) :
    let s := build context calls
    let k := placeAll (.new context) {} calls
    let s' := s.withNullTest connector notNull column
    let k' := k.addCondition (s.nullTest connector notNull column)
    s.nullCheck connector notNull column = s ∧
    IsSkipped s connector notNull column ∧
    ((emitted context calls).sql = query.sql ∧ ∃ head tail, emitted context calls =
      head ++ (.ofText " WHERE " ++ Word.textOf (k.selectWords s)) ++ tail) ∧
    ((k'.selectText s').sql = s'.selectSql ∧ ∃ head tail, k'.selectText s' =
      head ++ (.ofText " WHERE " ++ Word.textOf (k'.selectWords s')) ++ tail) ∧
    ((∀ row : RowView s.quoting (Text.trim column),
        Word.satisfied row.satisfies (k.selectWords s) =
          Word.satisfied row.satisfies (k'.selectWords s')) ↔
      MakesNoDifference k s notNull column connector) ∧
    (connector = .and → Condition.hasTopLevelOr s.conditions = false →
      MakesNoDifference k s notNull column connector) ∧
    (connector = .or → ∀ run ∈ (Alternatives.ofList k.conditions).runs,
      (∀ c ∈ run, ∃ connector,
        c.condition.isNullCheck s.quoting (Text.trim column) notNull connector = true) →
      MakesNoDifference k s notNull column connector) := by
  intro s k s' k'
  obtain ⟨hsame, hreason⟩ := skipped_of_conditions (compile_of_ok h).1 hskipped
  rw [hsame] at h
  have haccepted : s.buildError = none := (compile_of_ok h).1
  have hfragments : s.fragments = k.fragments := fragments_applyAll calls haccepted rfl
  have hfragments' : s'.fragments = k'.fragments := fragments_addCondition hfragments rfl
  have hne : s.selectConditions ≠ [] := by
    rcases hreason with hleft | hthere
    · rw [leavesNullCheck, Bool.and_eq_true] at hleft
      exact selectConditions_ne_nil hleft.2
    · refine selectConditions_ne_nil_of_conditions fun hnil => ?_
      rw [hnil] at hthere
      exact Bool.false_ne_true hthere
  have hne' : k'.selectConditions s' ≠ [] := by
    intro hnil
    have hselect := conditions_selectConditions hfragments'
    rw [hnil] at hselect
    exact selectConditions_ne_nil_of_conditions
      (List.append_ne_nil_of_right_ne_nil _ (List.cons_ne_nil _ _)) hselect.symm
  refine ⟨hsame, hreason, ⟨sql_emitted h, exists_emitted haccepted hkind hne⟩,
    ⟨sql_selectText hfragments', exists_selectText hne'⟩, givesSameRows_iff hfragments hreason,
    fun hconnector hor => ?_, fun hconnector run hrun htests => ?_⟩
  · subst hconnector
    exact makesNoDifference_of_noOr hfragments hreason hor
  · subst hconnector
    exact makesNoDifference_of_run hrun htests

/-- The calls of a SELECT that tests one column for null and compares another. -/
def orphans (connector : Connector) : List Call :=
  [.fromTable "users", .nullCheck .and false "team", .compare connector "admin" "=" (.int 1)]

/-- Where all conditions are connected with AND, the test is there already. -/
theorem skipped_null_test_redundant_iff_plain :
    ((build {} (orphans .and)).nullCheck .and false "team").conditions =
        (build {} (orphans .and)).conditions ∧
      ∀ row : RowView {} "team",
        Word.satisfied row.satisfies
            ((placeAll (.new {}) {} (orphans .and)).selectWords (build {} (orphans .and))) =
          Word.satisfied row.satisfies
            (((placeAll (.new {}) {} (orphans .and)).addCondition
                ((build {} (orphans .and)).nullTest .and false "team")).selectWords
              ((build {} (orphans .and)).withNullTest .and false "team")) := by
  have hcompile : ((build {} (orphans .and)).nullCheck .and false "team").compile =
      .ok ⟨"SELECT * FROM users WHERE `team` IS NULL AND `admin` = ?", [.int 1]⟩ := rfl
  obtain ⟨-, -, -, -, hiff, hplain, -⟩ :=
    @skipped_null_test_redundant_iff {} (orphans .and) .and false "team" _ rfl rfl hcompile
  exact ⟨rfl, hiff.2 (hplain rfl rfl)⟩

/-- Behind an OR the test is left out though it stands in another alternative: a row with a team is
given that the test would have kept away. -/
theorem skipped_null_test_missed :
    ((build {} (orphans .or)).nullCheck .and false "team").compile =
        .ok ⟨"SELECT * FROM users WHERE `team` IS NULL OR `admin` = ?", [.int 1]⟩ ∧
      ((build {} (orphans .or)).nullCheck .and false "team").conditions =
        (build {} (orphans .or)).conditions ∧
      ((build {} (orphans .or)).withNullTest .and false "team").compile =
        .ok ⟨"SELECT * FROM users WHERE `team` IS NULL OR `admin` = ? AND " ++
          "`team` IS NULL", [.int 1]⟩ ∧
      ∃ row : RowView {} "team",
        Word.satisfied row.satisfies
            ((placeAll (.new {}) {} (orphans .or)).selectWords (build {} (orphans .or))) = true ∧
          Word.satisfied row.satisfies
            (((placeAll (.new {}) {} (orphans .or)).addCondition
                ((build {} (orphans .or)).nullTest .and false "team")).selectWords
              ((build {} (orphans .or)).withNullTest .and false "team")) = false := by
  have hfragments : (build {} (orphans .or)).fragments =
      (placeAll (.new {}) {} (orphans .or)).fragments := fragments_applyAll (orphans .or) rfl rfl
  have hjson : (placeAll (.new {}) {} (orphans .or)).BindsJson :=
    bindsJson_placeAll (fun t ht => absurd ht List.not_mem_nil) _ (orphans .or)
  refine ⟨rfl, rfl, rfl, RowView.most {} "team" true, ?_, ?_⟩
  · refine (satisfied_most hfragments hjson "team" true).trans ?_
    decide
  · refine (satisfied_most (fragments_addCondition hfragments rfl) hjson "team" true).trans ?_
    decide

end Statement
end EntityQuery

/-
# What a constraint leaves of a query

A constraint is a list of calls on the query of a batch.  Calls that are only about
the clauses of a SELECT (`Call.addsClauses`) cannot take back what the batch asks
for: the statement remains a SELECT of its class and asks for no further relations
(`kept_applyAll_of_addsClauses`), and a first condition that is no test for null stays
the first, with its values in front of all others (`Leads.applyAll`).

So the text that is sent has this condition right behind its WHERE
(`Leads.exists_sql`).
-/

import EntityQuery.Proofs.Built.Conditions
import EntityQuery.Proofs.Order.Family

namespace EntityQuery

/-- Whether a call is about the clauses of a SELECT, and about nothing else. -/
def Call.addsClauses (c : Call) : Bool :=
  !c.families.isEmpty && c.families.all fun f => f != .mutation && f != .eager

namespace Statement

variable {f : Family} {s : Statement} {c : Call} {calls : List Call} {first : Condition}
variable {values : List Value}

/-- Such a call leaves the class of a statement, its kind and the relations it asks for. -/
theorem kept_apply_of_addsClauses (hc : c.addsClauses = true) (s : Statement) :
    (s.apply c).modelClass = s.modelClass ∧ (s.apply c).kind = s.kind ∧
      (s.apply c).eager = s.eager := by
  have hlocal : ∀ f, c.families = [f] → (s.apply c).modelClass = s.modelClass ∧
      (s.apply c).kind = s.kind ∧ (s.apply c).eager = s.eager := by
    intro f hf
    have hop : s.apply c = graft f s ((s.only f).apply c) := isLocal_apply hf s
    have hclause : f ≠ .mutation ∧ f ≠ .eager := by
      simpa [Call.addsClauses, hf] using hc
    rw [hop]
    cases f <;> first | exact ⟨rfl, rfl, rfl⟩ | exact absurd hclause (by decide)
  cases c with
  | forPage => exact ⟨rfl, rfl, rfl⟩
  | fromTable | model | dialect | restore => exact absurd hc Bool.false_ne_true
  | _ => exact hlocal _ rfl

theorem kept_applyAll_of_addsClauses (hcalls : ∀ c ∈ calls, c.addsClauses = true)
    (s : Statement) :
    (s.applyAll calls).modelClass = s.modelClass ∧ (s.applyAll calls).kind = s.kind ∧
      (s.applyAll calls).eager = s.eager := by
  induction calls generalizing s with
  | nil => exact ⟨rfl, rfl, rfl⟩
  | cons c calls ih =>
      obtain ⟨hmodel, hkind, heager⟩ := kept_apply_of_addsClauses (hcalls c List.mem_cons_self) s
      obtain ⟨hmodel', hkind', heager'⟩ :=
        ih (fun d hd => hcalls d (List.mem_cons_of_mem c hd)) (s.apply c)
      exact ⟨hmodel'.trans hmodel, hkind'.trans hkind, heager'.trans heager⟩

/-! ### The first condition -/

/-- A condition is the first of a statement, and some values are the first of its conditions. -/
structure Leads (s : Statement) (first : Condition) (values : List Value) : Prop where
  conditions : ∃ rest, s.conditions = first :: rest
  values : ∃ more, s.bindings.get .whereTree = values ++ more

theorem Leads.addCondition (h : s.Leads first values) (condition : Condition)
    (more : List Value) : (s.addCondition condition more).Leads first values := by
  obtain ⟨rest, hrest⟩ := h.conditions
  obtain ⟨later, hlater⟩ := h.values
  refine ⟨⟨rest ++ [condition], ?_⟩, ⟨later ++ more, ?_⟩⟩
  · rw [Statement.addCondition, hrest, List.cons_append]
  · rw [Statement.addCondition, Bindings.extend, Bindings.get_set_self, hlater, List.append_assoc]

/-- A condition that is no test for null is not dropped by such a test. -/
def IsNoNullCheck (first : Condition) : Prop :=
  ∀ q name notNull connector, first.isNullCheck q name notNull connector = false

theorem Leads.dropMarkChecks (h : s.Leads first values) (hfirst : IsNoNullCheck first)
    (notNull : Bool) : (s.dropMarkChecks notNull).Leads first values := by
  obtain ⟨rest, hrest⟩ := h.conditions
  refine ⟨?_, h.values⟩
  simp only [Statement.dropMarkChecks, hrest]
  rw [List.filter_cons_of_pos (by simp [hfirst _ _ _ _])]
  exact ⟨_, rfl⟩

theorem Leads.exists_nullChecked (h : s.Leads first values) (hfirst : IsNoNullCheck first)
    (connector : Connector) (notNull : Bool) (column : String) :
    ∃ rest, s.nullChecked connector notNull column = first :: rest := by
  obtain ⟨rest, hrest⟩ := h.conditions
  simp only [nullChecked, hrest]
  rw [List.filter_cons_of_pos (by simp [hfirst _ _ _ _])]
  split
  · exact ⟨_, rfl⟩
  · exact ⟨_, List.cons_append⟩

/-- **A call that only adds clauses leaves the first condition in its place.** -/
theorem Leads.apply (h : s.Leads first values) (hfirst : IsNoNullCheck first)
    (hc : c.addsClauses = true) (ha : (s.apply c).buildError = none) :
    (s.apply c).Leads first values := by
  have hlocal : ∀ f, c.families = [f] → f ≠ .conditions → (s.apply c).Leads first values := by
    intro f hf hne
    have hop : s.apply c = graft f s ((s.only f).apply c) := isLocal_apply hf s
    have hconditions : (s.apply c).conditions = s.conditions := by
      rw [hop]
      cases f <;> first | rfl | exact absurd rfl hne
    have hvalues : (s.apply c).bindings.get .whereTree = s.bindings.get .whereTree := by
      rw [hop]
      cases f <;> first | rfl | exact absurd rfl hne
    exact ⟨by rw [hconditions]; exact h.conditions, by rw [hvalues]; exact h.values⟩
  cases c with
  | compare =>
      rw [Statement.apply] at ha ⊢
      obtain ⟨-, -, op, operand, values', -, -, heq⟩ := compare_of_accepted ha
      rw [heq]
      exact h.addCondition _ _
  | group =>
      rw [Statement.apply] at ha ⊢
      rw [(addGroup_of_accepted ha).2.2.2]
      split
      · exact h
      · exact h.addCondition _ _
  | compareSub =>
      rw [Statement.apply] at ha ⊢
      obtain ⟨-, -, op, query, -, -, -, -, heq⟩ := compareSub_of_accepted ha
      rw [heq]
      exact h.addCondition _ _
  | inList =>
      rw [Statement.apply] at ha ⊢
      rw [(inList_of_accepted ha).2.2.2]
      exact h.addCondition _ _
  | nullCheck connector notNull column =>
      rw [Statement.apply] at ha ⊢
      rw [(nullCheck_of_accepted ha).2.2]
      split
      · exact h
      · exact ⟨h.exists_nullChecked hfirst connector notNull (Text.trim column), h.values⟩
  | withTrashed =>
      rw [Statement.apply]
      exact ⟨(h.dropMarkChecks hfirst false).conditions, h.values⟩
  | onlyTrashed =>
      rw [Statement.apply] at ha ⊢
      rw [(onlyTrashed_of_accepted ha).2]
      exact ⟨(h.dropMarkChecks hfirst false).exists_nullChecked hfirst .and true _, h.values⟩
  | withoutTrashed =>
      obtain ⟨rest, hrest⟩ := (h.dropMarkChecks hfirst true).conditions
      rw [Statement.apply, withoutTrashed_eq]
      refine ⟨?_, h.values⟩
      simp only [unmarkedConditions, hrest]
      split
      · exact ⟨rest, rfl⟩
      · exact ⟨rest ++ [_], rfl⟩
  | forPage => exact ⟨h.conditions, h.values⟩
  | fromTable | model | dialect | restore => exact absurd hc Bool.false_ne_true
  | _ => exact hlocal _ rfl (by decide)

theorem Leads.applyAll (h : s.Leads first values) (hfirst : IsNoNullCheck first)
    (hcalls : ∀ c ∈ calls, c.addsClauses = true) (ha : (s.applyAll calls).buildError = none) :
    (s.applyAll calls).Leads first values := by
  induction calls generalizing s with
  | nil => exact h
  | cons c calls ih =>
      rw [Statement.applyAll] at ha ⊢
      have hstep := h.apply hfirst (hcalls c List.mem_cons_self) (accepted_of_applyAll ha)
      exact ih hstep (fun d hd => hcalls d (List.mem_cons_of_mem c hd)) ha

/-! ### The text -/

/-- The text of a SELECT up to its WHERE clause. -/
def headSql (s : Statement) : String :=
  "SELECT " ++ (if s.isDistinct then "DISTINCT " else "") ++ s.selectList ++ " FROM " ++ s.table ++
    Text.eachAfter " " s.joins ++ " WHERE "

/-- A WHERE clause begins with its first condition, behind a parenthesis if an OR stands between
its conditions. -/
theorem exists_whereText_cons (s : Statement) (c : Condition) (rest : List Condition) :
    ∃ opening ∈ ["", "("], (Condition.hasTopLevelOr (c :: rest) = false → opening = "") ∧
      ∃ tail, s.whereText? (c :: rest) = some (opening ++ c.sql s.quoting ++ tail) := by
  have hlist : Condition.sqlList s.quoting (c :: rest) =
      c.sql s.quoting ++ Condition.sqlTail s.quoting rest := by
    rw [Condition.sqlList]
  have hjoin : ∀ text (json : List String), (text :: json).isEmpty = false ∧
      Text.joinWith " AND " (text :: json) = text ++ Text.eachAfter " AND " json :=
    fun _ _ => ⟨rfl, rfl⟩
  simp only [whereText?, predicates, List.isEmpty_cons, hlist]
  by_cases hor : (!s.jsonConditions.isEmpty && Condition.hasTopLevelOr (c :: rest)) = true
  · rw [if_neg Bool.false_ne_true, if_pos hor, List.singleton_append, (hjoin _ _).1, (hjoin _ _).2,
      if_neg Bool.false_ne_true]
    refine ⟨"(", List.mem_cons_of_mem _ List.mem_cons_self, fun hno => ?_,
      Condition.sqlTail s.quoting rest ++ ")" ++ Text.eachAfter " AND " s.jsonConditions,
      congrArg some ?_⟩
    · rw [hno, Bool.and_false] at hor
      exact absurd hor Bool.false_ne_true
    · simp only [String.append_assoc]
  · rw [if_neg Bool.false_ne_true, if_neg hor, List.singleton_append, (hjoin _ _).1, (hjoin _ _).2,
      if_neg Bool.false_ne_true]
    refine ⟨"", List.mem_cons_self, fun _ => rfl,
      Condition.sqlTail s.quoting rest ++ Text.eachAfter " AND " s.jsonConditions,
      congrArg some ?_⟩
    rw [String.empty_append, String.append_assoc]

/-- The first condition of a SELECT is the first of its WHERE clause. -/
theorem Leads.exists_whereText (h : s.Leads first values) :
    ∃ opening ∈ ["", "("], ∃ tail,
      s.whereText? s.selectConditions = some (opening ++ first.sql s.quoting ++ tail) := by
  obtain ⟨rest, hrest⟩ := h.conditions
  have hplain : ∀ more, ∃ opening ∈ ["", "("], ∃ tail,
      s.whereText? (first :: more) = some (opening ++ first.sql s.quoting ++ tail) := by
    intro more
    obtain ⟨opening, hopening, -, htail⟩ := exists_whereText_cons s first more
    exact ⟨opening, hopening, htail⟩
  unfold selectConditions
  rw [hrest]
  split
  · exact hplain rest
  · split
    · exact hplain rest
    · split
      · -- The conditions are a group of their own here, and nothing else opens one around it.
        obtain ⟨opening, -, hnone, tail, htext⟩ := exists_whereText_cons s
          (.group .and (first :: rest)) [Condition.notDeleted s.softDeleteColumn]
        rw [htext, hnone rfl]
        refine ⟨"(", List.mem_cons_of_mem _ List.mem_cons_self,
          Condition.sqlTail s.quoting rest ++ ")" ++ tail, congrArg some ?_⟩
        rw [Condition.sql, Condition.sqlList]
        simp only [String.append_assoc, String.empty_append]
      · exact hplain _

/-- **The first condition stands right behind WHERE.** -/
theorem Leads.exists_sql (h : s.Leads first values) :
    ∃ opening ∈ ["", "("], ∃ tail,
      s.selectSql = s.headSql ++ opening ++ first.sql s.quoting ++ tail := by
  obtain ⟨opening, hopening, tail, htext⟩ := h.exists_whereText
  refine ⟨opening, hopening, tail ++ listClause " GROUP BY " s.groups ++
    clause " HAVING " s.havingClause ++ listClause " ORDER BY " s.orders ++
    countClause " LIMIT " s.limitCount ++ countClause " OFFSET " s.offsetCount ++
    Text.eachAfter " " s.unions, ?_⟩
  delta selectSql sourceSql headSql
  simp only [htext, clause, String.append_assoc]

/-- The values of the first condition follow those of the SELECT list and of the joins. -/
theorem Leads.exists_values (h : s.Leads first values) :
    ∃ after, s.bindings.merged .select =
      s.bindings.get .select ++ s.bindings.get .join ++ values ++ after := by
  obtain ⟨more, hmore⟩ := h.values
  simp only [Bindings.merged, Bucket.rendered, List.flatMap_cons, hmore, List.append_assoc]
  exact ⟨_, rfl⟩

end Statement
end EntityQuery

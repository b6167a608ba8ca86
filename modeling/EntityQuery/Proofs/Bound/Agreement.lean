/-
# The texts of a construction agree

As long as no call is refused, the clauses with their values in place hold the
texts that the statement keeps (`fragments_apply`), through a whole construction
and the sub-statements in it (`fragments_applyAll`).  So what a statement
compiles to is the text emitted by its calls, as it is sent (`sql_emitted`).
-/

import EntityQuery.Proofs.Bound.Place

namespace EntityQuery
namespace BoundOperand

/-- The right-hand side for a value that an operator takes. -/
theorem ofValue_of_ok {op : Operator} {column : String} {value : Value} {operand : Operand}
    {values : List Value} (h : Statement.operandOf op column value = .ok (operand, values)) :
    (ofValue op value).operand = operand ∧ (ofValue op value).values = values := by
  have hinj := fun (o : Operand) (vs : List Value)
    (heq : (Except.ok (o, vs) : Except Misuse (Operand × List Value)) = .ok (operand, values)) =>
      Prod.mk.inj (Except.ok.inj heq)
  have hone : ∀ {b : Bool} {m : Misuse},
      (if b = true then Except.error m else .ok (Operand.one, [value])) = .ok (operand, values) →
      Operand.one = operand ∧ [value] = values := by
    intro b m h
    split at h
    · exact absurd h (by simp)
    · exact hinj _ _ h
  have hgroup : ∀ {b : Bool} {m : Misuse},
      (if b = true then Except.error m
        else .ok (Operand.group value.toItems.length, value.toItems)) = .ok (operand, values) →
      Operand.group value.toItems.length = operand ∧ value.toItems = values := by
    intro b m h
    split at h
    · exact absurd h (by simp)
    · exact hinj _ _ h
  cases op with
  | is => exact hinj _ _ h
  | isNot => exact hinj _ _ h
  | isIn => exact hgroup h
  | notIn => exact hgroup h
  | between =>
      unfold Statement.operandOf at h
      simp only at h
      split at h
      · exact hinj _ _ h
      · exact absurd h (by simp)
  | _ => exact hone h

end BoundOperand

namespace BoundClauses

variable {s : Statement} {k : BoundClauses}

/-! ### Lists of conditions -/

theorem conditions_append (cs ds : List BoundCondition) :
    BoundCondition.conditions (cs ++ ds) =
      BoundCondition.conditions cs ++ BoundCondition.conditions ds := by
  rw [BoundCondition.conditions_eq_map, BoundCondition.conditions_eq_map,
    BoundCondition.conditions_eq_map, List.map_append]

theorem conditions_filter (p : Condition → Bool) (cs : List BoundCondition) :
    BoundCondition.conditions (cs.filter fun c => p c.condition) =
      (BoundCondition.conditions cs).filter p := by
  rw [BoundCondition.conditions_eq_map, BoundCondition.conditions_eq_map, List.filter_map]
  rfl

theorem any_conditions (p : Condition → Bool) (cs : List BoundCondition) :
    (BoundCondition.conditions cs).any p = cs.any fun c => p c.condition := by
  rw [BoundCondition.conditions_eq_map, List.any_map]
  rfl

theorem conditions_putNullCheck (q : Quoting) (column : String) (raw notNull : Bool)
    (connector : Connector) (cs : List BoundCondition) :
    BoundCondition.conditions (putNullCheck q column raw notNull connector cs) =
      if (BoundCondition.conditions cs).any (Condition.isNullCheck q column notNull connector) then
        BoundCondition.conditions cs
      else
        BoundCondition.conditions cs ++
          [.compare connector ⟨column, raw⟩ (Condition.nullOperator notNull) .null] := by
  rw [any_conditions]
  unfold putNullCheck
  split
  · rfl
  · rw [conditions_append]
    rfl

/-! ### One clause at a time -/

theorem fragments_conditions {conditions : List Condition} {cs : List BoundCondition}
    (h : s.fragments = k.fragments) (hc : conditions = BoundCondition.conditions cs) :
    ({ s with conditions := conditions } : Statement).fragments =
      ({ k with conditions := cs } : BoundClauses).fragments := by
  rw [hc]
  exact congrArg
    (fun f : Fragments => { f with conditions := BoundCondition.conditions cs }) h

theorem fragments_addCondition {c : BoundCondition} {condition : Condition}
    {values : List Value} (h : s.fragments = k.fragments) (hc : condition = c.condition) :
    (s.addCondition condition values).fragments = (k.addCondition c).fragments := by
  have hconditions := conditions_of_fragments h
  have happend : s.conditions ++ [condition] = BoundCondition.conditions (k.conditions ++ [c]) := by
    rw [conditions_append, hconditions, hc]
    rfl
  exact fragments_conditions h happend

theorem fragments_addJoin {t : BoundText} (h : s.fragments = k.fragments) (bindings : Bindings) :
    ({ s with joins := s.joins ++ [t.sql], bindings := bindings } : Statement).fragments =
      (k.addJoin t).fragments := by
  have hk : (k.addJoin t).fragments =
      { k.fragments with joins := k.fragments.joins ++ [t.sql] } := by
    simp only [addJoin, fragments, List.map_append, List.map_singleton]
  rw [hk, ← h]
  rfl

theorem fragments_addOrder {t : BoundText} (h : s.fragments = k.fragments) (bindings : Bindings) :
    ({ s with orders := s.orders ++ [t.sql], bindings := bindings } : Statement).fragments =
      (k.addOrder t).fragments := by
  have hk : (k.addOrder t).fragments =
      { k.fragments with orders := k.fragments.orders ++ [t.sql] } := by
    simp only [addOrder, fragments, List.map_append, List.map_singleton]
  rw [hk, ← h]
  rfl

theorem fragments_addUnion {t : BoundText} (h : s.fragments = k.fragments) (all : Bool)
    (bindings : Bindings) :
    ({ s with
      unions := s.unions ++ [Statement.unionKeyword all ++ t.sql]
      bindings := bindings } : Statement).fragments = (k.addUnion all t).fragments := by
  have hk : (k.addUnion all t).fragments =
      { k.fragments with
        unions := k.fragments.unions ++ [Statement.unionKeyword all ++ t.sql] } := by
    simp only [addUnion, fragments, List.map_append, List.map_singleton, BoundText.sql_append,
      BoundText.sql_ofText]
  rw [hk, ← h]
  rfl

theorem fragments_addExpression {t : BoundText} (h : s.fragments = k.fragments)
    (bindings : Bindings) :
    ({ s with
      expressions := s.expressions ++ [t.sql], bindings := bindings } : Statement).fragments =
      (k.addExpression t).fragments := by
  have hk : (k.addExpression t).fragments =
      { k.fragments with expressions := k.fragments.expressions ++ [t.sql] } := by
    simp only [addExpression, fragments, List.map_append, List.map_singleton]
  rw [hk, ← h]
  rfl

theorem fragments_addJson {t : BoundText} (h : s.fragments = k.fragments) (bindings : Bindings) :
    ({ s with
      jsonConditions := s.jsonConditions ++ [t.sql], bindings := bindings } : Statement).fragments =
      (k.addJson t).fragments := by
  have hk : (k.addJson t).fragments =
      { k.fragments with jsonConditions := k.fragments.jsonConditions ++ [t.sql] } := by
    simp only [addJson, fragments, List.map_append, List.map_singleton]
  rw [hk, ← h]
  rfl

theorem fragments_setMutation {kind : Kind} {data : List (String × Value)}
    (ha : (s.setMutation kind data).buildError = none) (h : s.fragments = k.fragments) :
    (s.setMutation kind data).fragments = (k.setMutation data).fragments := by
  obtain ⟨-, -, -, -, heq⟩ := Statement.setMutation_of_accepted ha
  have hk : (k.setMutation data).fragments =
      { k.fragments with mutationColumns := data.map fun d => Text.trim d.1 } := by
    simp only [setMutation, fragments, List.map_map]
    rfl
  rw [heq, hk, ← h]
  rfl

/-! ### Conditions -/

theorem fragments_compare {connector : Connector} {column operator : String} {value : Value}
    (ha : (s.compare connector column operator value).buildError = none)
    (h : s.fragments = k.fragments) :
    (s.compare connector column operator value).fragments =
      (k.compare connector column operator value).fragments := by
  obtain ⟨-, -, op, operand, values, hop, hoperand, heq⟩ := Statement.compare_of_accepted ha
  rw [heq, compare, hop]
  refine fragments_addCondition h ?_
  rw [BoundCondition.condition, (BoundOperand.ofValue_of_ok hoperand).1]

theorem fragments_addGroup {connector : Connector} {group : Statement} {g : BoundClauses}
    (ha : (s.addGroup connector group).buildError = none) (h : s.fragments = k.fragments)
    (hg : group.fragments = g.fragments) :
    (s.addGroup connector group).fragments = (k.addGroup connector g).fragments := by
  have hconditions := conditions_of_fragments hg
  have hempty : group.conditions.isEmpty = g.conditions.isEmpty := by
    rw [hconditions, BoundCondition.conditions_eq_map, List.isEmpty_map]
  obtain ⟨-, -, -, heq⟩ := Statement.addGroup_of_accepted ha
  rw [heq, addGroup, hempty]
  split
  · exact h
  · refine fragments_addCondition h ?_
    rw [BoundCondition.condition, hconditions]

theorem fragments_compareSub {connector : Connector} {column operator : String} {sub : Statement}
    {t : BoundText} (ha : (s.compareSub connector column operator sub).buildError = none)
    (h : s.fragments = k.fragments)
    (ht : ∀ query, sub.compile = .ok query → t.sql = query.sql) :
    (s.compareSub connector column operator sub).fragments =
      (k.compareSub connector column operator t).fragments := by
  obtain ⟨-, -, op, query, hop, -, -, hquery, heq⟩ := Statement.compareSub_of_accepted ha
  rw [heq, compareSub, hop]
  refine fragments_addCondition h ?_
  rw [BoundCondition.condition, ht query hquery]

theorem fragments_inList {connector : Connector} {negated : Bool} {column : String}
    {values : List Value} (ha : (s.inList connector negated column values).buildError = none)
    (h : s.fragments = k.fragments) :
    (s.inList connector negated column values).fragments =
      (k.inList connector negated column values).fragments := by
  obtain ⟨-, -, -, heq⟩ := Statement.inList_of_accepted ha
  rw [heq]
  exact fragments_addCondition h rfl

theorem fragments_nullCheck {connector : Connector} {notNull : Bool} {column : String}
    (ha : (s.nullCheck connector notNull column).buildError = none)
    (h : s.fragments = k.fragments) :
    (s.nullCheck connector notNull column).fragments =
      (nullCheck s k connector notNull column).fragments := by
  have hconditions := conditions_of_fragments h
  obtain ⟨-, -, heq⟩ := Statement.nullCheck_of_accepted ha
  rw [heq]
  unfold nullCheck
  simp only
  split
  · exact h
  · refine fragments_conditions h ?_
    have hkept := conditions_filter
      (fun c => !c.isNullCheck s.quoting (Text.trim column) (!notNull) connector) k.conditions
    rw [conditions_putNullCheck, dropNullChecks, hkept, ← hconditions]
    rfl

theorem fragments_dropMarkChecks (h : s.fragments = k.fragments) (notNull : Bool)
    (mode : SoftDeleteMode) :
    ({ s.dropMarkChecks notNull with softDeleteMode := mode } : Statement).fragments =
      (dropMarkChecks s k notNull).fragments := by
  have hconditions := conditions_of_fragments h
  have hkept := conditions_filter
    (fun c => !c.isNullCheck s.quoting s.softDeleteColumn notNull .and &&
      !c.isNullCheck s.quoting s.softDeleteColumn notNull .or) k.conditions
  rw [← hconditions] at hkept
  have hdropped := fragments_conditions h hkept.symm
  exact hdropped

theorem fragments_onlyTrashed (ha : s.onlyTrashed.buildError = none)
    (h : s.fragments = k.fragments) :
    s.onlyTrashed.fragments = (onlyTrashed s k).fragments := by
  unfold Statement.onlyTrashed at ha ⊢
  have hchecked := fragments_nullCheck ha (fragments_dropMarkChecks h false .only)
  exact hchecked

theorem fragments_withoutTrashed (h : s.fragments = k.fragments) :
    s.withoutTrashed.fragments = (withoutTrashed s k).fragments := by
  have hdropped := fragments_dropMarkChecks h true s.softDeleteMode
  have hconditions : (s.dropMarkChecks true).conditions =
      BoundCondition.conditions (dropMarkChecks s k true).conditions :=
    conditions_of_fragments hdropped
  have hput := conditions_putNullCheck s.quoting s.softDeleteColumn true false .and
    (dropMarkChecks s k true).conditions
  rw [← hconditions] at hput
  have hexcluded := fragments_conditions h hput.symm
  rw [Statement.withoutTrashed_eq]
  exact hexcluded

/-! ### The other clauses -/

theorem fragments_joinSub {kind : JoinKind} {sub : Statement} {t : BoundText}
    {label left operator right : String}
    (ha : (s.joinSub kind sub label left operator right).buildError = none)
    (h : s.fragments = k.fragments)
    (ht : ∀ query, sub.compile = .ok query → t.sql = query.sql) :
    (s.joinSub kind sub label left operator right).fragments =
      (joinSub s.quoting k kind t label left operator right).fragments := by
  obtain ⟨-, query, hquery, heq⟩ := Statement.joinSub_of_accepted ha
  have hsql : BoundText.sql (.ofText (kind.sql ++ " (") ++ t ++
      .ofText (") AS " ++ s.quoting.label (Text.trim label) ++
        Statement.joinCondition s.quoting left operator right)) =
      kind.sql ++ " (" ++ query.sql ++ ") AS " ++ s.quoting.label (Text.trim label) ++
        Statement.joinCondition s.quoting left operator right := by
    simp only [BoundText.sql_append, BoundText.sql_ofText, ht query hquery, String.append_assoc]
  rw [heq, ← hsql]
  exact fragments_addJoin h _

theorem fragments_having {column operator : String} {value : Value}
    (ha : (s.having column operator value).buildError = none) (h : s.fragments = k.fragments) :
    (s.having column operator value).fragments =
      (setHaving s.quoting k column operator value).fragments := by
  obtain ⟨-, op, hop, -, heq⟩ := Statement.having_of_accepted ha
  rw [heq, setHaving, hop]
  have hsql : (some (BoundText.ofText (s.quoting.label (Text.trim column) ++ " " ++ op.sql ++
      " ") ++ .ofValue value)).map BoundText.sql =
        some (s.quoting.label (Text.trim column) ++ " " ++ op.sql ++ " ?") := by
    simp [String.append_assoc]
  exact (congrArg (fun f : Fragments => { f with
    havingClause := some (s.quoting.label (Text.trim column) ++ " " ++ op.sql ++ " ?") }) h).trans
      (congrArg (fun having => { k.fragments with havingClause := having }) hsql.symm)

theorem fragments_orderBy {column direction : String}
    (ha : (s.orderBy column direction).buildError = none) (h : s.fragments = k.fragments) :
    (s.orderBy column direction).fragments = (orderBy s.quoting k column direction).fragments := by
  obtain ⟨-, d, hd, heq⟩ := Statement.orderBy_of_accepted ha
  have hadd := fragments_addOrder
    (t := .ofText (s.quoting.column (Text.trim column) ++ " " ++ d.sql)) h s.bindings
  rw [BoundText.sql_ofText] at hadd
  rw [heq, orderBy, hd]
  exact hadd

theorem sql_rankBranch (r : Value × Int) : (rankBranch r).sql = Statement.rankBranch r.2 := by
  simp [rankBranch, Statement.rankBranch, ← String.append_assoc]

theorem fragments_orderByCase {column : String} {ranks : List (Value × Int)}
    {otherwise direction : String}
    (ha : (s.orderByCase column ranks otherwise direction).buildError = none)
    (h : s.fragments = k.fragments) :
    (s.orderByCase column ranks otherwise direction).fragments =
      (orderByCase s.quoting k column ranks otherwise direction).fragments := by
  obtain ⟨-, d, hd, -, heq⟩ := Statement.orderByCase_of_accepted ha
  have hbranches : (ranks.map rankBranch).map BoundText.sql =
      ranks.map fun r => Statement.rankBranch r.2 := by
    rw [List.map_map]
    exact List.map_congr_left fun r _ => sql_rankBranch r
  have hsql : BoundText.sql (.ofText ("CASE " ++ s.quoting.column (Text.trim column)) ++
      .eachAfter "" (ranks.map rankBranch) ++
      .ofText (" ELSE " ++ Statement.literal otherwise ++ " END " ++ d.sql)) =
      "CASE " ++ s.quoting.column (Text.trim column) ++
        Text.eachAfter "" (ranks.map fun r => Statement.rankBranch r.2) ++
        " ELSE " ++ Statement.literal otherwise ++ " END " ++ d.sql := by
    simp only [BoundText.sql_append, BoundText.sql_ofText, BoundText.sql_eachAfter, hbranches,
      String.append_assoc]
  rw [heq, orderByCase, hd, ← hsql]
  exact fragments_addOrder h _

theorem fragments_union {sub : Statement} {all : Bool} {t : BoundText}
    (ha : (s.union sub all).buildError = none) (h : s.fragments = k.fragments)
    (ht : ∀ query, sub.compile = .ok query → t.sql = query.sql) :
    (s.union sub all).fragments = (k.addUnion all t).fragments := by
  obtain ⟨-, query, hquery, heq⟩ := Statement.union_of_accepted ha
  rw [heq, ← ht query hquery]
  exact fragments_addUnion h all _

theorem fragments_window {function : WindowFunction} {w : Window} {label : String}
    (ha : (s.window function w label).buildError = none) (h : s.fragments = k.fragments) :
    (s.window function w label).fragments = (window s.quoting k function w label).fragments := by
  obtain ⟨-, sql, hsql, heq⟩ := Statement.window_of_accepted ha
  have hadd := fragments_addExpression (t := .ofText sql) h s.bindings
  rw [BoundText.sql_ofText] at hadd
  rw [heq, window, hsql]
  exact hadd

theorem sql_extractText (d : Dialect) (q : Quoting) (column : String) (path : Value) :
    (d.extractText q column path).sql = d.extract q column := by
  have hend : ", ?)" = ", " ++ ("?" ++ ")") := by decide
  delta Dialect.extractText Dialect.extract
  cases d <;>
    simp only [BoundText.sql_append, BoundText.sql_ofText, BoundText.sql_ofValue, hend,
      String.append_assoc]

theorem values_extractText (d : Dialect) (q : Quoting) (column : String) (path : Value) :
    (d.extractText q column path).values = [path] := by
  simp [Dialect.extractText]

theorem sql_containsText (d : Dialect) (q : Quoting) (column : String) (value : Json) :
    (d.containsText q column value).sql = (d.contains q column value).1 := by
  have hmysql : ", ?)" = ", " ++ ("?" ++ ")") := by decide
  have hsqlite : ") WHERE json_each.value = ?)" = ") WHERE json_each.value = " ++ ("?" ++ ")") := by
    decide
  delta Dialect.containsText Dialect.contains
  cases d with
  | mysql =>
      simp only [BoundText.sql_append, BoundText.sql_ofText, BoundText.sql_ofValue, hmysql,
        String.append_assoc]
  | sqlite =>
      simp only [BoundText.sql_append, BoundText.sql_ofText, BoundText.sql_ofValue, hsqlite,
        String.append_assoc]

/-- What a JSON comparison that is accepted writes and binds. -/
theorem pathText_of_ok {d : Dialect} {q : Quoting} {column path operator : String} {value : Value}
    {sql : String} {values : List Value}
    (h : d.pathPredicate q column path operator value = .ok (sql, values)) :
    ∃ op, Operator.parse? operator = some op ∧
      (d.pathText q column (.text (jsonPath path)) op value).sql = sql ∧
      (d.pathText q column (.text (jsonPath path)) op value).values = values := by
  have hextract := values_extractText d q column (.text (jsonPath path))
  unfold Dialect.pathPredicate at h
  split at h
  · exact absurd h (by simp)
  · rename_i op hop
    refine ⟨op, hop, ?_⟩
    unfold Dialect.pathText
    simp only at h ⊢
    split at h
    · obtain ⟨rfl, rfl⟩ := Prod.mk.inj (Except.ok.inj h)
      simp [sql_extractText, hextract, String.append_assoc]
    · obtain ⟨rfl, rfl⟩ := Prod.mk.inj (Except.ok.inj h)
      simp [sql_extractText, hextract, String.append_assoc]
    · exact absurd h (by simp)
    · exact absurd h (by simp)
    · exact absurd h (by simp)
    · obtain ⟨rfl, rfl⟩ := Prod.mk.inj (Except.ok.inj h)
      split
      · contradiction
      · contradiction
      · simp [sql_extractText, hextract, String.append_assoc]

theorem fragments_jsonCompare {column path operator : String} {value : Value}
    (ha : (s.jsonCompare column path operator value).buildError = none)
    (h : s.fragments = k.fragments) :
    (s.jsonCompare column path operator value).fragments =
      (jsonCompare s.quoting s.jsonDialect k column path operator value).fragments := by
  obtain ⟨-, sql, values, hpredicate, heq⟩ := Statement.jsonCompare_of_accepted ha
  obtain ⟨op, hop, hsql, -⟩ := pathText_of_ok hpredicate
  rw [heq, jsonCompare, hop, ← hsql]
  exact fragments_addJson h _

/-! ### Whole constructions -/

mutual

/-- **A call that is accepted emits the same texts with and without the values in place.** -/
theorem fragments_apply {s : Statement} {k : BoundClauses} (c : Call)
    (ha : (s.apply c).buildError = none) (h : s.fragments = k.fragments) :
    (s.apply c).fragments = (place s k c).fragments := by
  cases c with
  | compare connector column operator value =>
      rw [Statement.apply] at ha ⊢
      rw [place]
      exact fragments_compare ha h
  | group connector calls =>
      rw [Statement.apply] at ha ⊢
      rw [place]
      have hg := (Statement.addGroup_of_accepted ha).2.1
      exact fragments_addGroup ha h (fragments_applyAll calls hg rfl)
  | compareSub connector column operator sub =>
      rw [Statement.apply] at ha ⊢
      rw [place]
      refine fragments_compareSub ha h fun query hquery => ?_
      obtain ⟨hsub, -, htext, -, -⟩ := Statement.compile_of_ok hquery
      exact sql_text (fragments_applyAll sub hsub rfl) htext
  | inList connector negated column values =>
      rw [Statement.apply] at ha ⊢
      rw [place]
      exact fragments_inList ha h
  | nullCheck connector notNull column =>
      rw [Statement.apply] at ha ⊢
      rw [place]
      exact fragments_nullCheck ha h
  | withTrashed =>
      rw [Statement.apply, place]
      exact fragments_dropMarkChecks h false .include
  | onlyTrashed =>
      rw [Statement.apply] at ha ⊢
      rw [place]
      exact fragments_onlyTrashed ha h
  | withoutTrashed =>
      rw [Statement.apply, place]
      exact fragments_withoutTrashed h
  | softDelete now =>
      rw [Statement.apply, Statement.softDelete, Statement.update] at ha ⊢
      rw [place]
      exact fragments_setMutation ha h
  | restore =>
      rw [Statement.apply, Statement.restore, Statement.update] at ha ⊢
      have hwith : s.withTrashed.fragments = (dropMarkChecks s k false).fragments :=
        fragments_dropMarkChecks h false .include
      rw [place]
      exact fragments_setMutation ha hwith
  | join kind table left operator right =>
      have hadd := fragments_addJoin (t := .ofText (kind.sql ++ " " ++ Text.trim table ++
        Statement.joinCondition s.quoting left operator right)) h s.bindings
      rw [BoundText.sql_ofText] at hadd
      rw [Statement.apply, place]
      exact hadd
  | joinSub kind sub label left operator right =>
      rw [Statement.apply] at ha ⊢
      rw [place]
      refine fragments_joinSub ha h fun query hquery => ?_
      obtain ⟨hsub, -, htext, -, -⟩ := Statement.compile_of_ok hquery
      exact sql_text (fragments_applyAll sub hsub rfl) htext
  | joinRaw sql values =>
      have hadd := fragments_addJoin (t := .ofRaw s.quoting.quote (Text.trim sql) values) h
        (s.bindings.extend .join values)
      rw [BoundText.sql_ofRaw] at hadd
      rw [Statement.apply, place]
      exact hadd
  | having column operator value =>
      rw [Statement.apply] at ha ⊢
      rw [place]
      exact fragments_having ha h
  | orderBy column direction =>
      rw [Statement.apply] at ha ⊢
      rw [place]
      exact fragments_orderBy ha h
  | orderByRaw sql =>
      have hadd := fragments_addOrder (t := .ofText (Text.trim sql)) h s.bindings
      rw [BoundText.sql_ofText] at hadd
      rw [Statement.apply, place]
      exact hadd
  | orderByCase column ranks otherwise direction =>
      rw [Statement.apply] at ha ⊢
      rw [place]
      exact fragments_orderByCase ha h
  | union sub all =>
      rw [Statement.apply] at ha ⊢
      rw [place]
      refine fragments_union ha h fun query hquery => ?_
      obtain ⟨hsub, -, htext, -, -⟩ := Statement.compile_of_ok hquery
      exact sql_text (fragments_applyAll sub hsub rfl) htext
  | unionRaw sql all =>
      have hadd := fragments_addUnion (t := .ofText (Text.trim sql)) h all s.bindings
      rw [BoundText.sql_ofText] at hadd
      rw [Statement.apply, place]
      exact hadd
  | window function w label =>
      rw [Statement.apply] at ha ⊢
      rw [place]
      exact fragments_window ha h
  | jsonExtract column path label =>
      have hadd := fragments_addExpression (t := s.jsonDialect.extractText s.quoting
        (Text.trim column) (.text (jsonPath path)) ++
          .ofText (" AS " ++ s.quoting.label (Text.trim label))) h
            (s.bindings.add .select (.text (jsonPath path)))
      rw [BoundText.sql_append, BoundText.sql_ofText, sql_extractText,
        ← String.append_assoc] at hadd
      rw [Statement.apply, place]
      exact hadd
  | jsonContains column value =>
      have hadd := fragments_addJson (t := s.jsonDialect.containsText s.quoting (Text.trim column)
        value) h (s.bindings.add .jsonWhere
          (s.jsonDialect.contains s.quoting (Text.trim column) value).2)
      rw [sql_containsText] at hadd
      rw [Statement.apply, place]
      exact hadd
  | jsonCompare column path operator value =>
      rw [Statement.apply] at ha ⊢
      rw [place]
      exact fragments_jsonCompare ha h
  | insert data =>
      rw [Statement.apply] at ha ⊢
      rw [place]
      exact fragments_setMutation ha h
  | insertOrIgnore data =>
      rw [Statement.apply] at ha ⊢
      rw [place]
      exact fragments_setMutation ha h
  | update data =>
      rw [Statement.apply] at ha ⊢
      rw [place]
      exact fragments_setMutation ha h
  | delete =>
      rw [Statement.apply] at ha ⊢
      rw [place, Statement.delete, (Statement.setKind_of_accepted ha).2.2]
      exact h
  | upsert data unique =>
      rw [Statement.apply] at ha ⊢
      rw [place]
      obtain ⟨hset, -, heq⟩ := Statement.upsert_of_accepted ha
      rw [heq]
      exact fragments_setMutation hset h
  | withRelations names =>
      rw [Statement.apply] at ha ⊢
      rw [place, (Statement.withRelations_of_accepted ha).2]
      exact h
  | withConstraint name calls =>
      rw [Statement.apply] at ha ⊢
      rw [place, (Statement.withConstraint_of_accepted ha).2, ← h]
      unfold Statement.fragments
      rfl
  | _ =>
      rw [Statement.apply, place]
      exact h

/-- **A construction emits the same texts with and without the values in place.** -/
theorem fragments_applyAll {s : Statement} {k : BoundClauses} (calls : List Call)
    (ha : (s.applyAll calls).buildError = none) (h : s.fragments = k.fragments) :
    (s.applyAll calls).fragments = (placeAll s k calls).fragments := by
  cases calls with
  | nil => exact h
  | cons c rest =>
      rw [Statement.applyAll] at ha ⊢
      have hstep := fragments_apply c (Statement.accepted_of_applyAll ha) h
      rw [placeAll]
      exact fragments_applyAll rest ha hstep

end

/-- **What a statement compiles to is the text that its calls emit.** -/
theorem sql_emitted {context : Context} {calls : List Call} {query : Compiled}
    (h : (Statement.build context calls).compile = .ok query) :
    (emitted context calls).sql = query.sql := by
  obtain ⟨hs, -, htext, -, -⟩ := Statement.compile_of_ok h
  exact sql_text (fragments_applyAll calls hs rfl) htext

end BoundClauses
end EntityQuery

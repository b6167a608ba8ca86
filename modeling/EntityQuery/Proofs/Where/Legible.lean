/-
# The predicates of a statement are legible

Every predicate that a statement writes is read as one predicate, whatever its
values: comparisons, whose right-hand side must fit the operator
(`BoundOperand.Fits`), lists, sub-queries that close what they open, and the JSON
predicates of both dialects.
-/

import EntityQuery.Proofs.Bound.Agreement
import EntityQuery.Proofs.Where.Predicate

namespace EntityQuery

/-- The right-hand sides that are read as those of an operator. -/
def BoundOperand.Fits (op : Operator) : BoundOperand → Prop
  | .one _ => op ≠ .between
  | .group _ => op ≠ .between
  | .range _ _ => op = .between
  | .null => op = .is ∨ op = .isNot

/-- The right-hand side for a value that an operator takes fits it. -/
theorem BoundOperand.fits_ofValue {op : Operator} {column : String} {value : Value}
    {operand : Operand} {values : List Value}
    (h : Statement.operandOf op column value = .ok (operand, values)) :
    (BoundOperand.ofValue op value).Fits op := by
  cases op with
  | is => exact .inl rfl
  | isNot => exact .inr rfl
  | between =>
      unfold Statement.operandOf at h
      unfold ofValue
      simp only at h ⊢
      split at h
      · exact rfl
      · exact absurd h (by simp)
  | _ => exact fun heq => Operator.noConfusion heq

namespace Scanner

open Placeholder
open Letter (ofText ofBound ofText_append ofBound_append)

variable {quote : Char} {q : Quoting} {column : ColumnRef}

theorem legible_nullTest (hq : Delimiter quote) {left : List Letter}
    (hleft : ∀ tokens, (run quote { tokens := tokens } left).Within false left tokens)
    (hne : left ≠ []) (notNull : Bool) :
    Legible quote
      (left ++ ofText (" " ++ (Condition.nullOperator notNull).sql ++ " NULL")) := by
  have hlast : (ofText (" " ++ (Condition.nullOperator notNull).sql ++ " NULL")).getLast? =
      some (.place (.char 'L')) := by
    cases notNull <;> rfl
  refine legible_append hlast rfl fun tokens => ?_
  rw [run_append]
  exact (hleft tokens).nullTest hq hne notNull

theorem legible_value (hq : Delimiter quote) {left : List Letter}
    (hleft : ∀ tokens, (run quote { tokens := tokens } left).Within false left tokens)
    (hne : left ≠ []) {op : Operator} (hop : op ≠ .between) (v : Value) :
    Legible quote (left ++ ofText (" " ++ op.sql ++ " ") ++ ofBound (.ofValue v)) := by
  refine legible_append rfl (l := .place (.slot v)) rfl fun tokens => ?_
  have hwithin := (hleft tokens).operator hq hne op
  rw [beq_eq_false_iff_ne.2 hop] at hwithin
  rw [run_append, run_append]
  exact hwithin.value v

theorem legible_parens (hq : Delimiter quote) {left inner : List Letter}
    (hleft : ∀ tokens, (run quote { tokens := tokens } left).Within false left tokens)
    (hne : left ≠ []) {op : Operator} (hop : op ≠ .between) (hinner : Balanced quote inner) :
    Legible quote
      (left ++ ofText (" " ++ op.sql ++ " ") ++ (ofText "(" ++ inner ++ ofText ")")) := by
  refine legible_append List.getLast?_concat (l := .place (.char ')')) rfl fun tokens => ?_
  have hwithin := (hleft tokens).operator hq hne op
  rw [beq_eq_false_iff_ne.2 hop] at hwithin
  rw [run_append _ (_ ++ _) (_ ++ _ ++ _), run_append _ left (ofText _)]
  exact hwithin.parens hq (List.append_ne_nil_of_left_ne_nil hne _) hinner

/-- The column and the operator of a predicate as they are read. -/
theorem ofText_comparison (left op : String) :
    ofText (left ++ " " ++ op ++ " ") = ofText left ++ ofText (" " ++ op ++ " ") := by
  rw [← ofText_append]
  simp only [String.append_assoc]

theorem legible_compare (hq : Delimiter q.quote) (hc : column.IsLegible) (connector : Connector)
    {op : Operator} {operand : BoundOperand} (hfits : operand.Fits op) :
    Legible q.quote (ofBound ((BoundCondition.compare connector column op operand).text q)) := by
  have hne := column_ne_nil hq hc
  have htext : ofBound ((BoundCondition.compare connector column op operand).text q) =
      ofText (column.sql q) ++ ofText (" " ++ op.sql ++ " ") ++ ofBound operand.text := by
    rw [BoundCondition.text, BoundCondition.words, List.flatMap_singleton, Word.text,
      ofBound_append, ← ofText_comparison]
    rfl
  rw [htext]
  cases operand with
  | one v => exact legible_value hq (within_column hq hc) hne hfits v
  | group vs =>
      have hvs := BoundText.tight_ofValues (quiet_of_ordinary hq (by decide)) vs
      have hinner := balanced_of_tight hvs (isBare_ofValues vs)
      have hgroup : ofBound (BoundOperand.group vs).text =
          ofText "(" ++ ofBound (.ofValues vs) ++ ofText ")" := by
        rw [BoundOperand.text, ofBound_append, ofBound_append]
        rfl
      rw [hgroup]
      exact legible_parens hq (within_column hq hc) hne hfits hinner
  | range low high =>
      obtain rfl : op = .between := hfits
      have hrange : ofBound (BoundOperand.range low high).text =
          ofBound (.ofValue low) ++ ofText " AND " ++ ofBound (.ofValue high) := by
        rw [BoundOperand.text, ofBound_append, ofBound_append]
        rfl
      rw [hrange, ← List.append_assoc, ← List.append_assoc]
      refine legible_append rfl (l := .place (.slot high)) rfl fun tokens => ?_
      have hop := (within_column hq hc tokens).operator hq hne .between
      have hne' := List.append_ne_nil_of_left_ne_nil hne
        (ofText (" " ++ Operator.between.sql ++ " "))
      rw [run_append, run_append, run_append, run_append]
      exact ((hop.value low).and hq (List.append_ne_nil_of_left_ne_nil hne' _)).value high
  | null =>
      obtain ⟨notNull, rfl⟩ : ∃ notNull, op = Condition.nullOperator notNull :=
        hfits.elim (fun h => ⟨false, h⟩) fun h => ⟨true, h⟩
      have hnull : ofText (column.sql q) ++
            ofText (" " ++ (Condition.nullOperator notNull).sql ++ " ") ++
              ofBound BoundOperand.null.text =
          ofText (column.sql q) ++
            ofText (" " ++ (Condition.nullOperator notNull).sql ++ " NULL") := by
        rw [List.append_assoc]
        cases notNull <;> rfl
      rw [hnull]
      exact legible_nullTest hq (within_column hq hc) hne notNull

theorem legible_list (hq : Delimiter q.quote) (hc : column.IsLegible) (connector : Connector)
    (negated : Bool) (vs : List Value) :
    Legible q.quote (ofBound ((BoundCondition.list connector column negated vs).text q)) := by
  let op : Operator := if negated then .notIn else .isIn
  have hfits : (BoundOperand.group vs).Fits op := by
    cases negated <;> exact nofun
  have htext : (BoundCondition.list connector column negated vs).text q =
      (BoundCondition.compare connector column op (.group vs)).text q := by
    have hword : (if negated then " NOT IN (" else " IN (") = " " ++ op.sql ++ " " ++ "(" := by
      cases negated <;> rfl
    rw [BoundCondition.text, BoundCondition.words, List.flatMap_singleton, Word.text, hword,
      BoundCondition.text, BoundCondition.words, List.flatMap_singleton, Word.text,
      BoundOperand.text, ← String.append_assoc, ← String.append_assoc, ← String.append_assoc,
      BoundText.ofText_append, List.append_assoc, List.append_assoc, List.append_assoc]
  rw [htext]
  exact legible_compare hq hc connector hfits

theorem legible_subquery (hq : Delimiter q.quote) (hc : column.IsLegible) {op : Operator}
    (hop : op ≠ .between) {query : List Letter} (hquery : Balanced q.quote query) :
    Legible q.quote
      (ofText (column.sql q ++ " " ++ op.sql ++ " (") ++ query ++ ofText ")") := by
  have hne := column_ne_nil hq hc
  have htext : ofText (column.sql q ++ " " ++ op.sql ++ " (") ++ query ++ ofText ")" =
      ofText (column.sql q) ++ ofText (" " ++ op.sql ++ " ") ++
        (ofText "(" ++ query ++ ofText ")") := by
    have hopen : " (" = " " ++ "(" := rfl
    rw [hopen, ← String.append_assoc, ofText_append, ofText_comparison]
    simp only [List.append_assoc]
  rw [htext]
  exact legible_parens hq (within_column hq hc) hne hop hquery

/-! ### JSON predicates -/

theorem balanced_arguments (hq : Delimiter q.quote) {name : String} (h : isPlain name = true)
    (v : Value) : Balanced q.quote (ofBound (.ofText (q.column name ++ ", ") ++ .ofValue v)) := by
  have hcolumn := BoundText.tight_ofText (quiet_column_of_isPlain hq h)
  have hcomma : BoundText.Tight q.quote (.ofText ", ") :=
    BoundText.tight_ofText (quiet_of_ordinary hq (by decide))
  rw [BoundText.ofText_append]
  refine balanced_of_tight ((hcolumn.append hcomma).append (BoundText.tight_ofValue v)) ?_
  exact ((isBare_column hq h).append isBare_comma).append (isBare_ofValue v)

/-- A function begins a predicate and what stands between its parentheses belongs to it. -/
theorem within_function (hq : Delimiter quote) {function : String} {inner : List Letter}
    (hfunction : function ∈ ["JSON_EXTRACT", "json_extract", "JSON_CONTAINS", "EXISTS "])
    (hinner : Balanced quote inner) (tokens : List Token) :
    (run quote { tokens := tokens } (ofText function ++ (ofText "(" ++ inner ++ ofText ")"))).Within
      false (ofText function ++ (ofText "(" ++ inner ++ ofText ")")) tokens := by
  simp only [List.mem_cons, List.not_mem_nil, or_false] at hfunction
  have hname : (run quote { tokens := tokens } (ofText function)).Within false (ofText function)
      tokens := by
    rcases hfunction with rfl | rfl | rfl | rfl <;>
      exact within_of_afterPlain hq (by decide) (by decide) tokens
  have hne : ofText function ≠ [] := by
    rcases hfunction with rfl | rfl | rfl | rfl <;> exact List.cons_ne_nil _ _
  rw [run_append]
  exact hname.parens hq hne hinner

theorem legible_function (hq : Delimiter quote) {function : String} {inner : List Letter}
    (hfunction : function ∈ ["JSON_EXTRACT", "json_extract", "JSON_CONTAINS", "EXISTS "])
    (hinner : Balanced quote inner) :
    Legible quote (ofText function ++ (ofText "(" ++ inner ++ ofText ")")) := by
  have hlast : (ofText "(" ++ inner ++ ofText ")").getLast? = some (.place (.char ')')) :=
    List.getLast?_concat
  exact legible_append hlast rfl (within_function hq hfunction hinner)

theorem ofBound_function (function column : String) (v : Value) :
    ofBound (.ofText (function ++ "(" ++ column ++ ", ") ++ .ofValue v ++ .ofText ")") =
      ofText function ++
        (ofText "(" ++ ofBound (.ofText (column ++ ", ") ++ .ofValue v) ++ ofText ")") := by
  simp only [BoundText.ofText_append, ofBound_append, List.append_assoc]
  rfl

/-- The sub-query that looks for a value in the elements of an array. -/
theorem balanced_elements (hq : Delimiter q.quote) {name : String} (h : isPlain name = true)
    (v : Value) : Balanced q.quote (ofText "SELECT 1 FROM json_each(" ++ ofText (q.column name) ++
      ofText ") WHERE json_each.value = " ++ ofBound (.ofValue v)) := by
  have hbefore : nestAll q.quote (none, 0) (ofText "SELECT 1 FROM json_each(") =
      some (none, 1) := by
    rcases hq with hq | hq <;> rw [hq] <;> decide
  have hcolumn : nestAll q.quote (none, 1) (ofText (q.column name)) = some (none, 1) :=
    nestAll_of_tight 1 (BoundText.tight_ofText (quiet_column_of_isPlain hq h)) (isBare_column hq h)
  have hafter : nestAll q.quote (none, 1) (ofText ") WHERE json_each.value = ") =
      some (none, 0) := by
    rcases hq with hq | hq <;> rw [hq] <;> decide
  rw [Balanced, nestAll_append, nestAll_append, nestAll_append, hbefore, Option.bind_some, hcolumn,
    Option.bind_some, hafter]
  rfl

theorem legible_containsText (hq : Delimiter q.quote) (d : Dialect) {name : String}
    (h : isPlain name = true) (value : Json) :
    Legible q.quote (ofBound (d.containsText q name value)) := by
  cases d with
  | mysql =>
      have hopen : "JSON_CONTAINS(" = "JSON_CONTAINS" ++ "(" := rfl
      rw [Dialect.containsText, hopen, ofBound_function]
      exact legible_function hq (by decide) (balanced_arguments hq h _)
  | sqlite =>
      have hopen : "EXISTS (SELECT 1 FROM json_each(" =
          "EXISTS " ++ ("(" ++ "SELECT 1 FROM json_each(") := rfl
      have htext : ofBound (Dialect.sqlite.containsText q name value) =
          ofText "EXISTS " ++ (ofText "(" ++ (ofText "SELECT 1 FROM json_each(" ++
            ofText (q.column name) ++ ofText ") WHERE json_each.value = " ++
              ofBound (.ofValue (Dialect.scalar value))) ++ ofText ")") := by
        rw [Dialect.containsText, hopen]
        simp only [ofText, BoundText.ofText_append, ofBound_append, List.append_assoc]
      rw [htext]
      exact legible_function hq (by decide) (balanced_elements hq h _)

/-- The value at a path begins a predicate. -/
theorem within_extractText (hq : Delimiter q.quote) (d : Dialect) {name : String}
    (h : isPlain name = true) (path : Value) (tokens : List Token) :
    (run q.quote { tokens := tokens } (ofBound (d.extractText q name path))).Within false
        (ofBound (d.extractText q name path)) tokens ∧
      ofBound (d.extractText q name path) ≠ [] := by
  have harguments := balanced_arguments hq h path
  cases d with
  | mysql =>
      rw [Dialect.extractText, ofBound_function]
      exact ⟨within_function hq (by decide) harguments tokens, List.cons_ne_nil _ _⟩
  | sqlite =>
      rw [Dialect.extractText, ofBound_function]
      exact ⟨within_function hq (by decide) harguments tokens, List.cons_ne_nil _ _⟩

theorem legible_pathText (hq : Delimiter q.quote) (d : Dialect) {name : String}
    (h : isPlain name = true) (path : Value) {op : Operator} (hop : op ≠ .between) (value : Value) :
    Legible q.quote (ofBound (d.pathText q name path op value)) := by
  have hleft := fun tokens => (within_extractText hq d h path tokens).1
  have hne := (within_extractText hq d h path []).2
  unfold Dialect.pathText
  simp only
  split
  · rw [ofBound_append]
    exact legible_nullTest hq hleft hne false
  · rw [ofBound_append]
    exact legible_nullTest hq hleft hne true
  · rw [ofBound_append, ofBound_append]
    exact legible_value hq hleft hne hop value

end Scanner
end EntityQuery

/-
# Rows as a WHERE clause sees them

A row stands to a WHERE clause as a choice of the predicates it satisfies.  It
satisfies a test of the mark of deletion for null if it has no mark, and a test
for not null if it has one; other predicates it may satisfy or not (`RowView`).

Conditions demand a test of the mark if every alternative between two ORs contains
it, or a group that demands it (`Condition.demandsList`).  Among the rows without
such a test one satisfies all other predicates (`RowView.most`), and it is let
through if and only if the conditions do not demand the test (`holdsList_most`).
There is no negation in a WHERE clause, so this row speaks for all of them
(`RowView.forall_marked_iff`): demanding the test is not only sufficient to keep
them away but also necessary.
-/

import EntityQuery.Proofs.Built.Conditions
import EntityQuery.Proofs.Where.Reading

namespace EntityQuery

/-! ### Quotes aside -/

theorem Text.splitOn_ne_nil (separator : Char) (cs : List Char) :
    Text.splitOn separator cs ≠ [] := by
  cases cs with
  | nil => exact List.cons_ne_nil _ _
  | cons c cs =>
      rw [Text.splitOn]
      split
      · exact List.cons_ne_nil _ _
      · split
        · exact List.cons_ne_nil _ _
        · exact List.cons_ne_nil _ _

theorem Text.intercalate_splitOn (separator : Char) (cs : List Char) :
    List.intercalate [separator] (Text.splitOn separator cs) = cs := by
  induction cs with
  | nil => rfl
  | cons c cs ih =>
      rw [Text.splitOn]
      split
      · rename_i hc
        rw [List.intercalate_cons_of_ne_nil (Text.splitOn_ne_nil separator cs), ih, hc]
        rfl
      · split
        · rename_i hsplit
          exact absurd hsplit (Text.splitOn_ne_nil separator cs)
        · rename_i piece pieces hsplit
          rw [hsplit] at ih
          rw [List.intercalate_cons_cons_left, ih]

namespace Quoting

variable (q : Quoting)

theorem filter_segment (cs : List Char) :
    (q.segment cs).filter (· != q.quote) = cs.filter (· != q.quote) := by
  unfold segment
  split
  · rename_i hempty
    rw [List.isEmpty_iff.1 hempty]
  · simp

theorem filter_intercalate_segment (separator : List Char) (pieces : List (List Char)) :
    (List.intercalate separator (pieces.map q.segment)).filter (· != q.quote) =
      (List.intercalate separator pieces).filter (· != q.quote) := by
  induction pieces with
  | nil => rfl
  | cons first pieces ih =>
      cases pieces with
      | nil => rw [List.map_singleton, List.intercalate_singleton, List.intercalate_singleton,
          filter_segment]
      | cons second pieces =>
          rw [List.map_cons, List.map_cons, List.intercalate_cons_cons, ← List.map_cons,
            List.filter_append, List.filter_append, filter_segment, ih,
            List.intercalate_cons_cons, List.filter_append, List.filter_append]

/-- Quoting a column adds nothing but quotes. -/
theorem unwrap_column (name : String) : q.unwrap (q.column name) = q.unwrap name := by
  unfold column
  split
  · rw [unwrap, String.toList_ofList, filter_intercalate_segment, Text.intercalate_splitOn, unwrap]
  · rfl

theorem unwrap_columnRef (c : ColumnRef) : q.unwrap (c.sql q) = q.unwrap c.name := by
  unfold ColumnRef.sql
  split
  · rfl
  · exact q.unwrap_column c.name

end Quoting

/-- Columns that are written alike have the same name, quotes aside. -/
theorem ColumnRef.refersTo_of_sql {q : Quoting} {c d : ColumnRef} {name : String}
    (h : c.sql q = d.sql q) (hd : d.refersTo q name = true) : c.refersTo q name = true := by
  rw [refersTo, beq_iff_eq, ← q.unwrap_columnRef] at hd ⊢
  rw [h, hd]

/-! ### Tests for null -/

/-- The test of a column for null, or for not null. -/
def nullTest (q : Quoting) (column : ColumnRef) (notNull : Bool) : BoundText :=
  (BoundCondition.compare .and column (Condition.nullOperator notNull) .null).text q

theorem sql_nullTest (q : Quoting) (column : ColumnRef) (notNull : Bool) :
    (nullTest q column notNull).sql =
      column.sql q ++ " " ++ (Condition.nullOperator notNull).sql ++ " " ++ "NULL" := by
  rw [nullTest, BoundCondition.sql_text, BoundCondition.condition, Condition.sql]
  rfl

theorem values_nullTest (q : Quoting) (column : ColumnRef) (notNull : Bool) :
    (nullTest q column notNull).values = [] := by
  simp [nullTest, BoundCondition.text, BoundCondition.words, Word.text, BoundOperand.text]

/-- The text in front of NULL gives away the operator and the column. -/
theorem eq_of_nullText {a b : String} {op : Operator} {notNull : Bool}
    (h : a ++ " " ++ op.sql ++ " " ++ "NULL" =
      b ++ " " ++ (Condition.nullOperator notNull).sql ++ " " ++ "NULL") :
    op = Condition.nullOperator notNull ∧ a = b := by
  have hreverse := congrArg (fun s => s.toList.reverse) h
  cases notNull with
  | false =>
      cases op <;> simp [Operator.sql, Condition.nullOperator] at hreverse
      exact ⟨rfl, String.toList_inj.1 hreverse⟩
  | true =>
      cases op <;> simp [Operator.sql, Condition.nullOperator] at hreverse
      exact ⟨rfl, String.toList_inj.1 hreverse⟩

/-- A text that ends with a parenthesis is no test for null. -/
theorem ne_nullText {a b : String} : a ++ ")" ≠ b ++ "NULL" := by
  intro h
  have hreverse := congrArg (fun s => s.toList.reverse) h
  simp at hreverse

/-! ### Rows -/

/-- What a WHERE clause can tell of a row: the predicates that the row satisfies and whether it is
marked as deleted.  The tests of the mark tell whether there is a mark. -/
structure RowView (q : Quoting) (mark : String) where
  satisfies : BoundText → Bool
  marked : Bool
  null : ∀ column : ColumnRef, column.refersTo q mark = true →
    satisfies (nullTest q column false) = !marked
  notNull : ∀ column : ColumnRef, column.refersTo q mark = true →
    satisfies (nullTest q column true) = marked

namespace RowView

variable {q : Quoting} {mark : String} {notNull marked : Bool}

/-- Whether a predicate tests the mark for null, or for not null. -/
def TestsMark (q : Quoting) (mark : String) (notNull : Bool) (t : BoundText) : Prop :=
  ∃ column : ColumnRef, column.refersTo q mark = true ∧ t = nullTest q column notNull

theorem not_testsMark_of_values {t : BoundText} (h : t.values ≠ []) :
    ¬TestsMark q mark notNull t := by
  rintro ⟨column, -, rfl⟩
  exact h (values_nullTest q column notNull)

theorem not_testsMark_of_sql {t : BoundText} {a : String} (h : t.sql = a ++ ")") :
    ¬TestsMark q mark notNull t := by
  rintro ⟨column, -, rfl⟩
  rw [sql_nullTest] at h
  exact ne_nullText h.symm

/-- A comparison with a value tests nothing for null. -/
theorem not_testsMark_of_operand {connector : Connector} {column : ColumnRef} {op : Operator}
    {operand : BoundOperand} (h : operand.operand ≠ .null) :
    ¬TestsMark q mark notNull ((BoundCondition.compare connector column op operand).text q) := by
  cases operand with
  | one v =>
      refine not_testsMark_of_values ?_
      simp [BoundCondition.text, BoundCondition.words, Word.text, BoundOperand.text]
  | group vs =>
      refine not_testsMark_of_sql
        (a := column.sql q ++ " " ++ op.sql ++ " " ++ ("(" ++ placeholders vs.length)) ?_
      rw [BoundCondition.sql_text, BoundCondition.condition, Condition.sql, BoundOperand.operand,
        Operand.sql]
      simp only [String.append_assoc]
  | range low high =>
      refine not_testsMark_of_values ?_
      simp [BoundCondition.text, BoundCondition.words, Word.text, BoundOperand.text]
  | null => exact absurd rfl h

/-- A comparison tests the mark for null if and only if it says so. -/
theorem testsMark_compare {connector : Connector} {column : ColumnRef} {op : Operator}
    {operand : BoundOperand} :
    TestsMark q mark notNull ((BoundCondition.compare connector column op operand).text q) ↔
      op = Condition.nullOperator notNull ∧ operand.operand = .null ∧
        column.refersTo q mark = true := by
  constructor
  · intro htest
    have hnull : operand.operand = .null :=
      by_contra fun hvalue => not_testsMark_of_operand hvalue htest
    obtain ⟨column', hrefers, heq⟩ := htest
    have hsql := congrArg BoundText.sql heq
    rw [sql_nullTest, BoundCondition.sql_text, BoundCondition.condition, Condition.sql,
      hnull] at hsql
    obtain ⟨hop, hcolumn⟩ := eq_of_nullText hsql
    exact ⟨hop, hnull, ColumnRef.refersTo_of_sql hcolumn hrefers⟩
  · rintro ⟨rfl, hnull, hrefers⟩
    cases operand with
    | null => exact ⟨column, hrefers, rfl⟩
    | one v => exact nomatch hnull
    | group vs => exact nomatch hnull
    | range low high => exact nomatch hnull

/-- A test of the mark is no test for the opposite. -/
theorem testsMark_nullTest {column : ColumnRef} (h : column.refersTo q mark = true)
    (asked : Bool) : TestsMark q mark notNull (nullTest q column asked) ↔ asked = notNull := by
  constructor
  · intro htest
    have hop := (testsMark_compare.1 htest).1
    cases asked <;> cases notNull
    · rfl
    · exact nomatch hop
    · exact nomatch hop
    · rfl
  · rintro rfl
    exact ⟨column, h, rfl⟩

open Classical in
/-- The row with a mark, or without one, that satisfies every predicate but the tests of its mark
for the opposite. -/
noncomputable def most (q : Quoting) (mark : String) (marked : Bool) : RowView q mark where
  satisfies t := !decide (TestsMark q mark (!marked) t)
  marked := marked
  null column h := by
    simp [testsMark_nullTest h]
  notNull column h := by
    simp [testsMark_nullTest h]

theorem most_satisfies {t : BoundText} (h : ¬TestsMark q mark (!marked) t) :
    (most q mark marked).satisfies t = true := by
  simp [most, h]

theorem most_of_testsMark {t : BoundText} (h : TestsMark q mark (!marked) t) :
    (most q mark marked).satisfies t = false := by
  simp [most, h]

/-- No row that is marked alike satisfies more. -/
theorem satisfies_most {r : RowView q mark} {t : BoundText} (h : r.satisfies t = true) :
    (most q mark r.marked).satisfies t = true := by
  refine most_satisfies fun htest => ?_
  obtain ⟨column, hrefers, rfl⟩ := htest
  cases hmarked : r.marked with
  | false =>
      rw [hmarked, Bool.not_false, r.notNull column hrefers, hmarked] at h
      exact Bool.false_ne_true h
  | true =>
      rw [hmarked, Bool.not_true, r.null column hrefers, hmarked] at h
      exact Bool.false_ne_true h

/-- **One row speaks for all.**  The rows that are let through are all marked, or all not marked,
if and only if the one that satisfies most of the others is not let through. -/
theorem forall_marked_iff (marked : Bool) (words : List Word) :
    (∀ r : RowView q mark, Word.satisfied r.satisfies words = true → r.marked = !marked) ↔
      Word.satisfied (most q mark marked).satisfies words = false := by
  constructor
  · intro hall
    by_contra hsatisfied
    rw [Bool.not_eq_false] at hsatisfied
    have hopposite : marked = !marked := hall _ hsatisfied
    cases marked <;> exact nomatch hopposite
  · intro hmost r hr
    by_contra hmarked
    have hsame : r.marked = marked := by
      cases hr : r.marked <;> cases marked <;> simp_all
    have hsatisfied := Word.satisfied_mono (fun _ => satisfies_most) hr
    rw [hsame, hmost] at hsatisfied
    exact Bool.false_ne_true hsatisfied

end RowView

/-! ### Demands -/

namespace Condition

variable (q : Quoting) (mark : String) (notNull : Bool)

mutual

/-- Whether a condition demands a test of the mark, its connector aside. -/
def demands : Condition → Bool
  | .compare _ column op operand =>
    op == nullOperator notNull && operand == .null && column.refersTo q mark
  | .list _ _ _ _ => false
  | .subquery _ _ _ _ => false
  | .group _ members => demandsList members

/-- Whether a list of conditions does: every alternative between two ORs must have the test. -/
def demandsList : List Condition → Bool
  | [] => false
  | first :: rest => demandsTail true (demands first) rest

/-- The same for conditions that follow others; `before` says whether the complete alternatives
have the test and `current` whether the current one has. -/
def demandsTail (before current : Bool) : List Condition → Bool
  | [] => before && current
  | c :: rest =>
    match c.connector with
    | .and => demandsTail before (current || demands c) rest
    | .or => demandsTail (before && current) (demands c) rest

end

end Condition

namespace BoundCondition

variable {q : Quoting} {mark : String} {marked : Bool}

/-- The row satisfies every comparison but a test of its mark for the opposite. -/
theorem most_compare {connector : Connector} {column : ColumnRef} {op : Operator}
    {operand : BoundOperand} :
    (RowView.most q mark marked).satisfies
        ((BoundCondition.compare connector column op operand).text q) =
      !(op == Condition.nullOperator (!marked) && operand.operand == .null &&
        column.refersTo q mark) := by
  by_cases htest : RowView.TestsMark q mark (!marked)
      ((BoundCondition.compare connector column op operand).text q)
  · obtain ⟨rfl, hnull, hrefers⟩ := RowView.testsMark_compare.1 htest
    rw [RowView.most_of_testsMark htest, hnull, hrefers, beq_self_eq_true]
    rfl
  · rw [RowView.most_satisfies htest]
    rw [RowView.testsMark_compare] at htest
    symm
    rw [Bool.not_eq_true', Bool.eq_false_iff, ne_eq, Bool.and_eq_true, Bool.and_eq_true,
      beq_iff_eq, beq_iff_eq, and_assoc]
    exact htest

mutual

/-- The row satisfies a condition if and only if that does not demand the opposite test. -/
theorem holds_most (c : BoundCondition) :
    c.holds q (RowView.most q mark marked).satisfies =
      !c.condition.demands q mark (!marked) := by
  cases c with
  | compare connector column op operand =>
      rw [holds, condition, Condition.demands]
      exact most_compare
  | list connector column negated vs =>
      rw [holds, condition, Condition.demands]
      refine RowView.most_satisfies (RowView.not_testsMark_of_sql (a := column.sql q ++
        (if negated then " NOT IN (" else " IN (") ++ placeholders vs.length) ?_)
      rw [sql_text, condition, Condition.sql]
  | subquery connector column op query =>
      rw [holds, condition, Condition.demands]
      refine RowView.most_satisfies (RowView.not_testsMark_of_sql
        (a := column.sql q ++ " " ++ op.sql ++ " (" ++ query.sql) ?_)
      rw [sql_text, condition, Condition.sql]
  | group connector members =>
      rw [holds, condition, Condition.demands]
      exact holdsList_most members

theorem holdsList_most (cs : List BoundCondition) :
    (level q (RowView.most q mark marked).satisfies cs).value =
      !Condition.demandsList q mark (!marked) (conditions cs) := by
  cases cs with
  | nil => rfl
  | cons first rest =>
      rw [level, conditions, Condition.demandsList, holds_most first]
      exact holdsTail_most rest true (first.condition.demands q mark (!marked))

theorem holdsTail_most (cs : List BoundCondition) (before current : Bool) :
    (levelTail q (RowView.most q mark marked).satisfies ⟨!before, !current⟩ cs).value =
      !Condition.demandsTail q mark (!marked) before current (conditions cs) := by
  cases cs with
  | nil =>
      rw [levelTail, conditions, Condition.demandsTail, Level.value, Bool.not_and]
  | cons c rest =>
      rw [levelTail, conditions, Condition.demandsTail, connector_condition, holds_most c]
      cases c.connector with
      | and =>
          have htail := holdsTail_most rest before (current || c.condition.demands q mark (!marked))
          rw [Bool.not_or] at htail
          exact htail
      | or =>
          have htail := holdsTail_most rest (before && current)
            (c.condition.demands q mark (!marked))
          rw [Bool.not_and] at htail
          exact htail

end

end BoundCondition
end EntityQuery

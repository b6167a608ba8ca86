/-
# Conditions with their values

A bound condition is a condition whose operands hold the values they compare
with.  Forgetting the values gives the condition a statement keeps
(`BoundCondition.condition`).

A WHERE clause is a sequence of words: predicates, the two connectors and the
parentheses.  `BoundCondition.words` are the words of a condition, and its text
is the text of its words.  The text as it is sent is that of the condition
without values (`BoundCondition.sql_text`, `BoundCondition.sql_textList`).
-/

import EntityQuery.Proofs.Bound.Text
import EntityQuery.Proofs.Quiet.Identifier

namespace EntityQuery

/-- The right-hand side of a comparison with its values. -/
inductive BoundOperand where
  | one (v : Value)
  | group (vs : List Value)
  | range (low high : Value)
  | null

namespace BoundOperand

/-- The right-hand side without the values. -/
def operand : BoundOperand → Operand
  | .one _ => .one
  | .group vs => .group vs.length
  | .range _ _ => .range
  | .null => .null

/-- The text of a right-hand side. -/
def text : BoundOperand → BoundText
  | .one v => .ofValue v
  | .group vs => .ofText "(" ++ .ofValues vs ++ .ofText ")"
  | .range low high => .ofValue low ++ .ofText " AND " ++ .ofValue high
  | .null => .ofText "NULL"

/-- The values of a right-hand side. -/
def values : BoundOperand → List Value
  | .one v => [v]
  | .group vs => vs
  | .range low high => [low, high]
  | .null => []

end BoundOperand

theorem BoundText.sql_ofValues (vs : List Value) :
    BoundText.sql (.ofValues vs) = placeholders vs.length := by
  rw [BoundText.ofValues, BoundText.sql_joinWith, placeholders, List.map_map]
  exact congrArg (Text.joinWith ", ") (List.eq_replicate_iff.2
    ⟨by rw [List.length_map], fun s hs => (List.mem_map.1 hs).elim fun _ h => h.2.symm⟩)

namespace BoundOperand

theorem sql_text (o : BoundOperand) : o.text.sql = o.operand.sql := by
  cases o with
  | one v => rfl
  | group vs => simp [text, operand, Operand.sql, BoundText.sql_ofValues, String.append_assoc]
  | range low high => simp [text, operand, Operand.sql]
  | null => simp [text, operand, Operand.sql]

@[simp] theorem values_text (o : BoundOperand) : o.text.values = o.values := by
  cases o <;> simp [text, values]

theorem tight_text {quote : Char} (hq : Placeholder.Delimiter quote) (o : BoundOperand) :
    o.text.Tight quote := by
  have hquiet : ∀ s : String, s.toList.all Placeholder.isOrdinary = true →
      BoundText.Tight quote (.ofText s) :=
    fun s hs => BoundText.tight_ofText (Placeholder.quiet_of_ordinary hq hs)
  cases o with
  | one v => exact BoundText.tight_ofValue v
  | group vs =>
      have hvs := BoundText.tight_ofValues (Placeholder.quiet_of_ordinary hq (by decide)) vs
      exact ((hquiet "(" (by decide)).append hvs).append (hquiet ")" (by decide))
  | range low high =>
      exact ((BoundText.tight_ofValue low).append (hquiet " AND " (by decide))).append
        (BoundText.tight_ofValue high)
  | null => exact hquiet "NULL" (by decide)

end BoundOperand

/-- A word of a WHERE clause: a predicate, a connector or a parenthesis. -/
inductive Word where
  | test (predicate : BoundText)
  | and
  | or
  | opening
  | closing

/-- The text of a word. -/
def Word.text : Word → BoundText
  | .test predicate => predicate
  | .and => .ofText " AND "
  | .or => .ofText " OR "
  | .opening => .ofText "("
  | .closing => .ofText ")"

/-- A connector as a word. -/
def Connector.word : Connector → Word
  | .and => .and
  | .or => .or

/-- A condition with the values it compares with. -/
inductive BoundCondition where
  | compare (connector : Connector) (column : ColumnRef) (op : Operator) (operand : BoundOperand)
  | list (connector : Connector) (column : ColumnRef) (negated : Bool) (vs : List Value)
  | subquery (connector : Connector) (column : ColumnRef) (op : Operator) (query : BoundText)
  | group (connector : Connector) (members : List BoundCondition)

namespace BoundCondition

/-- The connector in front of a condition. -/
def connector : BoundCondition → Connector
  | .compare c _ _ _ => c
  | .list c _ _ _ => c
  | .subquery c _ _ _ => c
  | .group c _ => c

mutual

/-- The condition without the values. -/
def condition : BoundCondition → Condition
  | .compare connector column op operand => .compare connector column op operand.operand
  | .list connector column negated vs => .list connector column negated vs.length
  | .subquery connector column op query => .subquery connector column op query.sql
  | .group connector members => .group connector (conditions members)

/-- The conditions without the values. -/
def conditions : List BoundCondition → List Condition
  | [] => []
  | c :: rest => condition c :: conditions rest

end

mutual

/-- The words of a condition without its connector. -/
def words (q : Quoting) : BoundCondition → List Word
  | .compare _ column op operand =>
    [.test (.ofText (column.sql q ++ " " ++ op.sql ++ " ") ++ operand.text)]
  | .list _ column negated vs =>
    [.test (.ofText (column.sql q ++ (if negated then " NOT IN (" else " IN (")) ++
      .ofValues vs ++ .ofText ")")]
  | .subquery _ column op query =>
    [.test (.ofText (column.sql q ++ " " ++ op.sql ++ " (") ++ query ++ .ofText ")")]
  | .group _ members => .opening :: wordsList q members ++ [.closing]

/-- The words of a list of conditions, the first connector left out. -/
def wordsList (q : Quoting) : List BoundCondition → List Word
  | [] => []
  | first :: rest => words q first ++ wordsTail q rest

/-- The words of conditions that follow others, each with its connector in front. -/
def wordsTail (q : Quoting) : List BoundCondition → List Word
  | [] => []
  | c :: rest => c.connector.word :: words q c ++ wordsTail q rest

end

/-- The text of a condition without its connector. -/
def text (q : Quoting) (c : BoundCondition) : BoundText :=
  (c.words q).flatMap Word.text

/-- The values of a condition in order. -/
def values (q : Quoting) (c : BoundCondition) : List Value :=
  (c.text q).values

theorem conditions_eq_map (cs : List BoundCondition) : conditions cs = cs.map condition := by
  induction cs with
  | nil => rfl
  | cons c cs ih => rw [conditions, List.map_cons, ih]

@[simp] theorem connector_condition (c : BoundCondition) : c.condition.connector = c.connector := by
  cases c <;> rfl

theorem sql_word (c : Connector) : c.word.text.sql = " " ++ c.sql ++ " " := by
  cases c <;> rfl

theorem flatMap_text_append (a b : List Word) :
    BoundText.sql ((a ++ b).flatMap Word.text) =
      BoundText.sql (a.flatMap Word.text) ++ BoundText.sql (b.flatMap Word.text) := by
  rw [List.flatMap_append, BoundText.sql_append]

mutual

/-- The text of a condition as it is sent. -/
theorem sql_text (q : Quoting) (c : BoundCondition) : (c.text q).sql = c.condition.sql q := by
  cases c with
  | compare connector column op operand =>
      simp [text, words, condition, Condition.sql, Word.text, BoundOperand.sql_text]
  | list connector column negated vs =>
      simp [text, words, condition, Condition.sql, Word.text, BoundText.sql_ofValues,
        String.append_assoc]
  | subquery connector column op query =>
      simp [text, words, condition, Condition.sql, Word.text, String.append_assoc]
  | group connector members =>
      have hmembers := sql_textList q members
      rw [text, words, flatMap_text_append, List.flatMap_cons, BoundText.sql_append, hmembers]
      simp [condition, Condition.sql, Word.text]

/-- The text of a list of conditions as it is sent. -/
theorem sql_textList (q : Quoting) (cs : List BoundCondition) :
    BoundText.sql ((wordsList q cs).flatMap Word.text) =
      Condition.sqlList q (conditions cs) := by
  cases cs with
  | nil => rfl
  | cons first rest =>
      have hfirst := sql_text q first
      rw [text] at hfirst
      rw [wordsList, flatMap_text_append, hfirst, sql_textTail q rest, conditions,
        Condition.sqlList]

/-- The text of conditions that follow others, as it is sent. -/
theorem sql_textTail (q : Quoting) (cs : List BoundCondition) :
    BoundText.sql ((wordsTail q cs).flatMap Word.text) =
      Condition.sqlTail q (conditions cs) := by
  cases cs with
  | nil => rfl
  | cons c rest =>
      have hfirst := sql_text q c
      rw [text] at hfirst
      rw [wordsTail, flatMap_text_append, List.flatMap_cons, BoundText.sql_append, hfirst,
        sql_word, sql_textTail q rest, conditions, Condition.sqlTail, connector_condition,
        String.append_assoc]

end

theorem values_word (c : Connector) : c.word.text.values = [] := by
  cases c <;> rfl

theorem values_textTail (q : Quoting) (cs : List BoundCondition) :
    BoundText.values ((wordsTail q cs).flatMap Word.text) = cs.flatMap (values q) := by
  induction cs with
  | nil => rfl
  | cons c cs ih =>
      rw [wordsTail, List.flatMap_append, List.flatMap_cons, BoundText.values_append,
        BoundText.values_append, values_word, ih, List.nil_append, List.flatMap_cons]
      rfl

/-- The values of a list of conditions are those of its members in order. -/
theorem values_textList (q : Quoting) (cs : List BoundCondition) :
    BoundText.values ((wordsList q cs).flatMap Word.text) = cs.flatMap (values q) := by
  cases cs with
  | nil => rfl
  | cons c cs =>
      rw [wordsList, List.flatMap_append, BoundText.values_append, values_textTail,
        List.flatMap_cons]
      rfl

theorem values_group (q : Quoting) (connector : Connector) (members : List BoundCondition) :
    (group connector members).values q = members.flatMap (values q) := by
  rw [values, text, words, List.flatMap_append, List.flatMap_cons, BoundText.values_append,
    BoundText.values_append, values_textList]
  simp [Word.text]

@[simp] theorem values_compare (q : Quoting) (connector : Connector) (column : ColumnRef)
    (op : Operator) (operand : BoundOperand) :
    (compare connector column op operand).values q = operand.values := by
  simp [values, text, words, Word.text]

@[simp] theorem values_list (q : Quoting) (connector : Connector) (column : ColumnRef)
    (negated : Bool) (vs : List Value) : (list connector column negated vs).values q = vs := by
  simp [values, text, words, Word.text]

@[simp] theorem values_subquery (q : Quoting) (connector : Connector) (column : ColumnRef)
    (op : Operator) (query : BoundText) :
    (subquery connector column op query).values q = query.values := by
  simp [values, text, words, Word.text]

/-- A test for null binds nothing. -/
theorem values_of_isNullCheck {q : Quoting} {name : String} {notNull : Bool}
    {connector : Connector} {c : BoundCondition}
    (h : c.condition.isNullCheck q name notNull connector = true) : c.values q = [] := by
  cases c with
  | compare connector column op operand =>
      cases operand with
      | null => rw [values_compare]; rfl
      | one v => exact absurd h Bool.false_ne_true
      | group vs => exact absurd h Bool.false_ne_true
      | range low high => exact absurd h Bool.false_ne_true
  | list connector column negated vs => exact absurd h Bool.false_ne_true
  | subquery connector column op query => exact absurd h Bool.false_ne_true
  | group connector members => exact absurd h Bool.false_ne_true

/-! ### Tight conditions -/

theorem tight_word {quote : Char} (hq : Placeholder.Delimiter quote) (c : Connector) :
    c.word.text.Tight quote := by
  cases c <;>
    exact BoundText.tight_ofText (Placeholder.quiet_of_ordinary hq (by decide))

theorem tight_textTail {q : Quoting} (hq : Placeholder.Delimiter q.quote)
    {cs : List BoundCondition} (h : ∀ c ∈ cs, (c.text q).Tight q.quote) :
    BoundText.Tight q.quote ((wordsTail q cs).flatMap Word.text) := by
  induction cs with
  | nil => exact BoundText.tight_nil
  | cons c cs ih =>
      have hrest := ih fun d hd => h d (List.mem_cons_of_mem _ hd)
      rw [wordsTail, List.flatMap_append, List.flatMap_cons]
      exact ((tight_word hq _).append (h c List.mem_cons_self)).append hrest

theorem tight_textList {q : Quoting} (hq : Placeholder.Delimiter q.quote)
    {cs : List BoundCondition} (h : ∀ c ∈ cs, (c.text q).Tight q.quote) :
    BoundText.Tight q.quote ((wordsList q cs).flatMap Word.text) := by
  cases cs with
  | nil => exact BoundText.tight_nil
  | cons c cs =>
      rw [wordsList, List.flatMap_append]
      exact (h c List.mem_cons_self).append
        (tight_textTail hq fun d hd => h d (List.mem_cons_of_mem _ hd))

theorem tight_group {q : Quoting} (hq : Placeholder.Delimiter q.quote) (connector : Connector)
    {members : List BoundCondition} (h : ∀ c ∈ members, (c.text q).Tight q.quote) :
    ((group connector members).text q).Tight q.quote := by
  have hopening : BoundText.Tight q.quote (.ofText "(") :=
    BoundText.tight_ofText (Placeholder.quiet_of_ordinary hq (by decide))
  have hclosing : BoundText.Tight q.quote (.ofText ")") :=
    BoundText.tight_ofText (Placeholder.quiet_of_ordinary hq (by decide))
  rw [text, words, List.flatMap_append, List.flatMap_cons, List.flatMap_singleton]
  exact (hopening.append (tight_textList hq h)).append hclosing

theorem quiet_columnRef {q : Quoting} (hq : Placeholder.Delimiter q.quote) {name : String}
    (h : Placeholder.Quiet q.quote name) (raw : Bool) :
    Placeholder.Quiet q.quote (ColumnRef.sql q ⟨name, raw⟩) := by
  unfold ColumnRef.sql
  split
  · exact h
  · exact h.column hq

theorem quiet_operator {quote : Char} (hq : Placeholder.Delimiter quote) (op : Operator) :
    Placeholder.Quiet quote op.sql := by
  cases op <;> exact Placeholder.quiet_of_ordinary hq (by decide)

theorem tight_compare {q : Quoting} (hq : Placeholder.Delimiter q.quote) (connector : Connector)
    {name : String} (hname : Placeholder.Quiet q.quote name) (raw : Bool) (op : Operator)
    (operand : BoundOperand) :
    ((compare connector ⟨name, raw⟩ op operand).text q).Tight q.quote := by
  have hblank : Placeholder.Quiet q.quote " " := Placeholder.quiet_of_ordinary hq (by decide)
  have hhead := (((quiet_columnRef hq hname raw).append hblank).append
    (quiet_operator hq op)).append hblank
  rw [text, words, List.flatMap_singleton, Word.text]
  exact (BoundText.tight_ofText hhead).append (BoundOperand.tight_text hq operand)

theorem tight_list {q : Quoting} (hq : Placeholder.Delimiter q.quote) (connector : Connector)
    {name : String} (hname : Placeholder.Quiet q.quote name) (raw negated : Bool)
    (vs : List Value) : ((list connector ⟨name, raw⟩ negated vs).text q).Tight q.quote := by
  have hword : Placeholder.Quiet q.quote (if negated then " NOT IN (" else " IN (") := by
    cases negated <;> exact Placeholder.quiet_of_ordinary hq (by decide)
  have hvs := BoundText.tight_ofValues (Placeholder.quiet_of_ordinary hq (by decide)) vs
  have hclosing : BoundText.Tight q.quote (.ofText ")") :=
    BoundText.tight_ofText (Placeholder.quiet_of_ordinary hq (by decide))
  rw [text, words, List.flatMap_singleton, Word.text]
  exact ((BoundText.tight_ofText ((quiet_columnRef hq hname raw).append hword)).append hvs).append
    hclosing

theorem tight_subquery {q : Quoting} (hq : Placeholder.Delimiter q.quote) (connector : Connector)
    {name : String} (hname : Placeholder.Quiet q.quote name) (raw : Bool) (op : Operator)
    {query : BoundText} (hquery : query.Tight q.quote) :
    ((subquery connector ⟨name, raw⟩ op query).text q).Tight q.quote := by
  have hblank : Placeholder.Quiet q.quote " " := Placeholder.quiet_of_ordinary hq (by decide)
  have hopening : Placeholder.Quiet q.quote " (" := Placeholder.quiet_of_ordinary hq (by decide)
  have hhead := (((quiet_columnRef hq hname raw).append hblank).append
    (quiet_operator hq op)).append hopening
  have hclosing : BoundText.Tight q.quote (.ofText ")") :=
    BoundText.tight_ofText (Placeholder.quiet_of_ordinary hq (by decide))
  rw [text, words, List.flatMap_singleton, Word.text]
  exact ((BoundText.tight_ofText hhead).append hquery).append hclosing

end BoundCondition
end EntityQuery

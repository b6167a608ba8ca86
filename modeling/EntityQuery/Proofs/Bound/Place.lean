/-
# Calls with their values in place

`place` performs a call on bound clauses: the text that the call emits is added
with its values at their placeholders, and there are no buckets.  A whole
construction runs beside the one of the statement (`placeAll`), which decides
what a call does where that depends on the state.

As long as no call is refused, the two emit the same texts
(`fragments_apply`, `fragments_applyAll`).  What a refused call does to the
clauses is of no account: the statement does not compile any more.
-/

import EntityQuery.Proofs.Bound.Clauses
import EntityQuery.Proofs.Built.Accepted

namespace EntityQuery

/-- The right-hand side of an operator for a value. -/
def BoundOperand.ofValue (op : Operator) (value : Value) : BoundOperand :=
  match op with
  | .is | .isNot => .null
  | .isIn | .notIn => .group value.toItems
  | .between =>
    match value with
    | .array [low, high] => .range low high
    | _ => .null
  | _ => .one value

/-- The value at a bound path of a column. -/
def Dialect.extractText (d : Dialect) (q : Quoting) (column : String) (path : Value) : BoundText :=
  let function := match d with
    | .mysql => "JSON_EXTRACT"
    | .sqlite => "json_extract"
  .ofText (function ++ "(" ++ q.column column ++ ", ") ++ .ofValue path ++ .ofText ")"

/-- The predicate that a JSON array contains a value. -/
def Dialect.containsText (d : Dialect) (q : Quoting) (column : String) (value : Json) : BoundText :=
  match d with
  | .mysql =>
    .ofText ("JSON_CONTAINS(" ++ q.column column ++ ", ") ++ .ofValue (.text value.compact) ++
      .ofText ")"
  | .sqlite =>
    .ofText ("EXISTS (SELECT 1 FROM json_each(" ++ q.column column ++
      ") WHERE json_each.value = ") ++ .ofValue (scalar value) ++ .ofText ")"

/-- The predicate on the value at a path. -/
def Dialect.pathText (d : Dialect) (q : Quoting) (column : String) (path : Value) (op : Operator)
    (value : Value) : BoundText :=
  let extracted := d.extractText q column path
  match op with
  | .is | .isNot => extracted ++ .ofText (" " ++ op.sql ++ " NULL")
  | _ => extracted ++ .ofText (" " ++ op.sql ++ " ") ++ .ofValue value

namespace BoundClauses

/-! ### One call -/

/-- Adds a condition. -/
def addCondition (k : BoundClauses) (c : BoundCondition) : BoundClauses :=
  { k with conditions := k.conditions ++ [c] }

/-- Adds `column operator value`. -/
def compare (k : BoundClauses) (connector : Connector) (column operator : String) (value : Value) :
    BoundClauses :=
  match Operator.parse? operator with
  | none => k
  | some op =>
    k.addCondition (.compare connector ⟨Text.trim column, false⟩ op (.ofValue op value))

/-- Adds the conditions of a group. -/
def addGroup (k : BoundClauses) (connector : Connector) (group : BoundClauses) : BoundClauses :=
  if group.conditions.isEmpty then k else k.addCondition (.group connector group.conditions)

/-- Adds `column operator (SELECT ...)`. -/
def compareSub (k : BoundClauses) (connector : Connector) (column operator : String)
    (query : BoundText) : BoundClauses :=
  match Operator.parse? operator with
  | none => k
  | some op => k.addCondition (.subquery connector ⟨Text.trim column, false⟩ op query)

/-- Adds `column IN (...)` or `column NOT IN (...)`. -/
def inList (k : BoundClauses) (connector : Connector) (negated : Bool) (column : String)
    (values : List Value) : BoundClauses :=
  k.addCondition (.list connector ⟨Text.trim column, false⟩ negated values)

/-- The conditions without tests of a column for null (or for not null) that have a connector. -/
def dropNullChecks (q : Quoting) (column : String) (notNull : Bool) (connector : Connector)
    (conditions : List BoundCondition) : List BoundCondition :=
  conditions.filter fun c => !c.condition.isNullCheck q column notNull connector

/-- Adds a test for null to some conditions unless it is there already. -/
def putNullCheck (q : Quoting) (column : String) (raw notNull : Bool) (connector : Connector)
    (conditions : List BoundCondition) : List BoundCondition :=
  if conditions.any fun c => c.condition.isNullCheck q column notNull connector then conditions
  else conditions ++ [.compare connector ⟨column, raw⟩ (Condition.nullOperator notNull) .null]

/-- Adds `column IS NULL` or `column IS NOT NULL`, as the statement does. -/
def nullCheck (s : Statement) (k : BoundClauses) (connector : Connector) (notNull : Bool)
    (column : String) : BoundClauses :=
  let column := Text.trim column
  if s.leavesNullCheck notNull column then k
  else
    let raw := s.quoting.unwrap column == s.quoting.unwrap s.softDeleteColumn
    { k with
      conditions := putNullCheck s.quoting column raw notNull connector
        (dropNullChecks s.quoting column (!notNull) connector k.conditions) }

/-- Drops the tests of the mark of deletion for null, or for not null. -/
def dropMarkChecks (s : Statement) (k : BoundClauses) (notNull : Bool) : BoundClauses :=
  { k with
    conditions := k.conditions.filter fun c =>
      !c.condition.isNullCheck s.quoting s.softDeleteColumn notNull .and &&
        !c.condition.isNullCheck s.quoting s.softDeleteColumn notNull .or }

/-- Keeps only rows that are marked as deleted. -/
def onlyTrashed (s : Statement) (k : BoundClauses) : BoundClauses :=
  nullCheck { s.dropMarkChecks false with softDeleteMode := .only } (dropMarkChecks s k false) .and
    true s.softDeleteColumn

/-- Excludes rows that are marked as deleted. -/
def withoutTrashed (s : Statement) (k : BoundClauses) : BoundClauses :=
  let k := dropMarkChecks s k true
  { k with
    conditions := putNullCheck s.quoting s.softDeleteColumn true false .and k.conditions }

/-- Sets the columns and values of a mutation. -/
def setMutation (k : BoundClauses) (data : List (String × Value)) : BoundClauses :=
  { k with mutation := data.map fun d => (Text.trim d.1, d.2) }

/-- Adds a join. -/
def addJoin (k : BoundClauses) (t : BoundText) : BoundClauses :=
  { k with joins := k.joins ++ [t] }

/-- Joins a sub-statement under an alias. -/
def joinSub (q : Quoting) (k : BoundClauses) (kind : JoinKind) (query : BoundText)
    (label left operator right : String) : BoundClauses :=
  k.addJoin (.ofText (kind.sql ++ " (") ++ query ++
    .ofText (") AS " ++ q.label (Text.trim label) ++ Statement.joinCondition q left operator right))

/-- Sets the HAVING predicate. -/
def setHaving (q : Quoting) (k : BoundClauses) (column operator : String) (value : Value) :
    BoundClauses :=
  match Operator.parse? operator with
  | none => k
  | some op =>
    { k with
      having := some (.ofText (q.label (Text.trim column) ++ " " ++ op.sql ++ " ") ++
        .ofValue value) }

/-- Adds an ordering. -/
def addOrder (k : BoundClauses) (t : BoundText) : BoundClauses :=
  { k with orders := k.orders ++ [t] }

/-- Orders by a column. -/
def orderBy (q : Quoting) (k : BoundClauses) (column direction : String) : BoundClauses :=
  match Direction.parse? direction with
  | none => k
  | some d => k.addOrder (.ofText (q.column (Text.trim column) ++ " " ++ d.sql))

/-- One branch of a ranking. -/
def rankBranch (r : Value × Int) : BoundText :=
  .ofText " WHEN " ++ .ofValue r.1 ++ .ofText (" THEN " ++ Text.signedDecimal r.2)

/-- Orders by ranks of the values of a column. -/
def orderByCase (q : Quoting) (k : BoundClauses) (column : String) (ranks : List (Value × Int))
    (otherwise direction : String) : BoundClauses :=
  match Direction.parse? direction with
  | none => k
  | some d =>
    k.addOrder (.ofText ("CASE " ++ q.column (Text.trim column)) ++
      .eachAfter "" (ranks.map rankBranch) ++
      .ofText (" ELSE " ++ Statement.literal otherwise ++ " END " ++ d.sql))

/-- Adds a union. -/
def addUnion (k : BoundClauses) (all : Bool) (query : BoundText) : BoundClauses :=
  { k with unions := k.unions ++ [.ofText (Statement.unionKeyword all) ++ query] }

/-- Adds an expression to the SELECT list. -/
def addExpression (k : BoundClauses) (t : BoundText) : BoundClauses :=
  { k with expressions := k.expressions ++ [t] }

/-- Selects a window function under an alias. -/
def window (q : Quoting) (k : BoundClauses) (function : WindowFunction) (w : Window)
    (label : String) : BoundClauses :=
  match w.column q (function.sql q) (Text.trim label) with
  | .error _ => k
  | .ok sql => k.addExpression (.ofText sql)

/-- Selects the JSON value at a path under an alias. -/
def jsonExtract (q : Quoting) (d : Dialect) (k : BoundClauses) (column path label : String) :
    BoundClauses :=
  k.addExpression (d.extractText q (Text.trim column) (.text (jsonPath path)) ++
    .ofText (" AS " ++ q.label (Text.trim label)))

/-- Adds a JSON predicate. -/
def addJson (k : BoundClauses) (t : BoundText) : BoundClauses :=
  { k with jsonConditions := k.jsonConditions ++ [t] }

/-- Compares the JSON value at a path. -/
def jsonCompare (q : Quoting) (d : Dialect) (k : BoundClauses) (column path operator : String)
    (value : Value) : BoundClauses :=
  match Operator.parse? operator with
  | none => k
  | some op => k.addJson (d.pathText q (Text.trim column) (.text (jsonPath path)) op value)

/-! ### Whole constructions -/

mutual

/-- Performs one call beside a statement. -/
def place (s : Statement) (k : BoundClauses) : Call → BoundClauses
  | .fromTable _ => k
  | .model _ => k
  | .dialect _ => k
  | .select _ => k
  | .addSelect _ => k
  | .distinct => k
  | .compare connector column operator value => k.compare connector column operator value
  | .group connector calls => k.addGroup connector (placeAll s.scope {} calls)
  | .compareSub connector column operator sub =>
    k.compareSub connector column operator
      ((placeAll (.new s.context) {} sub).text (Statement.applyAll (.new s.context) sub))
  | .inList connector negated column values => k.inList connector negated column values
  | .nullCheck connector notNull column => nullCheck s k connector notNull column
  | .withTrashed => dropMarkChecks s k false
  | .onlyTrashed => onlyTrashed s k
  | .withoutTrashed => withoutTrashed s k
  | .softDelete now => k.setMutation [(s.softDeleteColumn, .timestamp now)]
  | .restore => (dropMarkChecks s k false).setMutation [(s.softDeleteColumn, .null)]
  | .join kind table left operator right =>
    k.addJoin (.ofText
      (kind.sql ++ " " ++ Text.trim table ++ Statement.joinCondition s.quoting left operator right))
  | .joinSub kind sub label left operator right =>
    joinSub s.quoting k kind
      ((placeAll (.new s.context) {} sub).text (Statement.applyAll (.new s.context) sub))
      label left operator right
  | .joinRaw sql values => k.addJoin (.ofRaw s.quoting.quote (Text.trim sql) values)
  | .groupBy _ => k
  | .having column operator value => setHaving s.quoting k column operator value
  | .orderBy column direction => orderBy s.quoting k column direction
  | .orderByRaw sql => k.addOrder (.ofText (Text.trim sql))
  | .orderByCase column ranks otherwise direction =>
    orderByCase s.quoting k column ranks otherwise direction
  | .union sub all =>
    k.addUnion all
      ((placeAll (.new s.context) {} sub).text (Statement.applyAll (.new s.context) sub))
  | .unionRaw sql all => k.addUnion all (.ofText (Text.trim sql))
  | .limit _ => k
  | .offset _ => k
  | .forPage _ _ => k
  | .window function w label => window s.quoting k function w label
  | .jsonExtract column path label => jsonExtract s.quoting s.jsonDialect k column path label
  | .jsonContains column value =>
    k.addJson (s.jsonDialect.containsText s.quoting (Text.trim column) value)
  | .jsonCompare column path operator value =>
    jsonCompare s.quoting s.jsonDialect k column path operator value
  | .insert data => k.setMutation data
  | .insertOrIgnore data => k.setMutation data
  | .update data => k.setMutation data
  | .delete => k
  | .upsert data _ => k.setMutation data
  | .upsertColumns _ => k
  | .withRelations _ => k
  | .withConstraint _ _ => k

/-- Performs a sequence of calls beside a statement. -/
def placeAll (s : Statement) (k : BoundClauses) : List Call → BoundClauses
  | [] => k
  | call :: rest => placeAll (s.apply call) (place s k call) rest

end

theorem placeAll_append (s : Statement) (k : BoundClauses) (before after : List Call) :
    placeAll s k (before ++ after) = placeAll (s.applyAll before) (placeAll s k before) after := by
  induction before generalizing s k with
  | nil => rfl
  | cons c before ih =>
      rw [List.cons_append, placeAll, placeAll, Statement.applyAll]
      exact ih (s.apply c) (place s k c)

/-- The text that a sequence of calls emits on a context, with the values in place. -/
def emitted (context : Context) (calls : List Call) : BoundText :=
  (placeAll (.new context) {} calls).text (.build context calls)

end BoundClauses
end EntityQuery

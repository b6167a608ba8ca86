/-
# Building statements

The calls on a statement.  Texts are taken without the blanks around them, plain
names are quoted where a column is expected, and values go to the ledger in the
order in which they are given.  A call that is refused leaves an error behind;
`Statement.compile` reports the first one.
-/

import EntityQuery.Page
import EntityQuery.Statement.Compile

namespace EntityQuery
namespace Statement

/-! ### Source and kind -/

/-- Fixes the kind; a kind that is fixed already cannot change. -/
def setKind (s : Statement) (kind : Kind) : Statement :=
  if s.kindLocked && s.kind != kind then s.fail (.state (.kindChange s.kind kind))
  else { s with kind := kind, kindLocked := true }

/-- Sets the table. -/
def fromTable (s : Statement) (table : String) : Statement :=
  { s with table := Text.trim table }

/-- Sets the model class, and its table if there is none yet. -/
def model (s : Statement) (c : ModelClass) : Statement :=
  { s with table := if s.table.isEmpty then c.table else s.table, modelClass := some c }

/-- A SELECT of the entities of a class. -/
def forModel (context : Context) (c : ModelClass) : Statement :=
  (new context).model c

/-- Sets the dialect of the JSON expressions that follow. -/
def dialect (s : Statement) (d : Dialect) : Statement :=
  { s with jsonDialect := d }

/-! ### SELECT list -/

/-- Replaces the SELECT list. -/
def select (s : Statement) (columns : List String) : Statement :=
  { s with columns := columns.map s.quoting.selectColumn }

/-- Adds to the SELECT list. -/
def addSelect (s : Statement) (columns : List String) : Statement :=
  { s with columns := s.columns ++ columns.map s.quoting.selectColumn }

/-- Drops duplicate rows. -/
def distinct (s : Statement) : Statement :=
  { s with isDistinct := true }

/-! ### WHERE -/

/-- Adds a condition with its values. -/
def addCondition (s : Statement) (c : Condition) (values : List Value) : Statement :=
  { s with conditions := s.conditions ++ [c], bindings := s.bindings.extend .whereTree values }

/-- The operand of an operator for a value, and the values it binds. -/
def operandOf (op : Operator) (column : String) (value : Value) :
    Except Misuse (Operand × List Value) :=
  match op with
  | .is | .isNot => .ok (.null, [])
  | .isIn | .notIn =>
    let items := value.toItems
    if items.isEmpty then .error (.emptyOperatorList op column)
    else .ok (.group items.length, items)
  | .between =>
    match value with
    | .array [low, high] => .ok (.range, [low, high])
    | _ => .error (.rangeBounds column)
  | _ => if value.isArray then .error (.listOperand op column) else .ok (.one, [value])

/-- Adds `column operator value`.  The null operators ignore the value, the list operators take a
list or one value, BETWEEN takes a list of two, and the others take no list. -/
def compare (s : Statement) (connector : Connector) (column operator : String) (value : Value) :
    Statement :=
  let column := Text.trim column
  if column.isEmpty then s.misuse .emptyColumn
  else
    match Operator.parse? operator with
    | none => s.misuse (.unknownOperator operator)
    | some op =>
      match operandOf op column value with
      | .error m => s.misuse m
      | .ok (operand, values) => s.addCondition (.compare connector ⟨column, false⟩ op operand) values

/-- Adds the conditions of another statement as a group; its error becomes this one's. -/
def addGroup (s : Statement) (connector : Connector) (group : Statement) : Statement :=
  match group.buildError with
  | some e => s.fail e
  | none =>
    if !group.jsonConditions.isEmpty then s.misuse .jsonInGroup
    else if group.conditions.isEmpty then s
    else s.addCondition (.group connector group.conditions) (group.bindings.get .whereTree)

/-- Adds a group of conditions built by `build` from the scope of this statement. -/
def group (s : Statement) (connector : Connector) (build : Statement → Statement) : Statement :=
  s.addGroup connector (build s.scope)

/-- Adds `column operator (SELECT ...)`. -/
def compareSub (s : Statement) (connector : Connector) (column operator : String)
    (sub : Statement) : Statement :=
  let column := Text.trim column
  if column.isEmpty then s.misuse .emptyColumn
  else
    match Operator.parse? operator with
    | none => s.misuse (.unknownOperator operator)
    | some op =>
      if op = .between ∨ op = .is ∨ op = .isNot then s.misuse (.subqueryOperator op)
      else if sub.kind ≠ .select then s.misuse .subqueryKind
      else
        match sub.compile with
        | .error e => s.fail e
        | .ok query =>
          s.addCondition (.subquery connector ⟨column, false⟩ op query.sql) query.bindings

/-- Adds `column IN (...)` or `column NOT IN (...)`; the list must not be empty. -/
def inList (s : Statement) (connector : Connector) (negated : Bool) (column : String)
    (values : List Value) : Statement :=
  let column := Text.trim column
  if column.isEmpty then s.misuse .emptyListColumn
  else if values.isEmpty then s.misuse (.emptyList column)
  else s.addCondition (.list connector ⟨column, false⟩ negated values.length) values

/-- Adds `column IS NULL` or `column IS NOT NULL` and drops the opposite test with the same
connector.  A test that is there already, or that compiling adds by itself, is not added again. -/
def nullCheck (s : Statement) (connector : Connector) (notNull : Bool) (column : String) :
    Statement :=
  let column := Text.trim column
  if column.isEmpty then s.misuse .emptyColumn
  else
    let q := s.quoting
    let isMark := q.unwrap column == q.unwrap s.softDeleteColumn
    if !notNull && isMark && s.filtersDeleted then s
    else
      let kept := s.conditions.filter fun c => !c.isNullCheck q column (!notNull) connector
      if kept.any (Condition.isNullCheck q column notNull connector) then
        { s with conditions := kept }
      else
        { s with
          conditions :=
            kept ++ [.compare connector ⟨column, isMark⟩ (Condition.nullOperator notNull) .null] }

/-! ### Marks of deletion -/

/-- Drops the tests of the mark of deletion for null, or for not null. -/
def dropMarkChecks (s : Statement) (notNull : Bool) : Statement :=
  { s with
    conditions := s.conditions.filter fun c =>
      !c.isNullCheck s.quoting s.softDeleteColumn notNull .and &&
        !c.isNullCheck s.quoting s.softDeleteColumn notNull .or }

/-- Includes rows that are marked as deleted. -/
def withTrashed (s : Statement) : Statement :=
  { s.dropMarkChecks false with softDeleteMode := .include }

/-- Keeps only rows that are marked as deleted. -/
def onlyTrashed (s : Statement) : Statement :=
  let s := { s.dropMarkChecks false with softDeleteMode := .only }
  s.nullCheck .and true s.softDeleteColumn

/-- Excludes rows that are marked as deleted. -/
def withoutTrashed (s : Statement) : Statement :=
  let s := { s.dropMarkChecks true with softDeleteMode := .exclude }
  if s.conditions.any (Condition.isNullCheck s.quoting s.softDeleteColumn false .and) then s
  else { s with conditions := s.conditions ++ [Condition.notDeleted s.softDeleteColumn] }

/-! ### Mutations -/

/-- Sets the kind, columns and values of a mutation. -/
def setMutation (s : Statement) (kind : Kind) (data : List (String × Value)) : Statement :=
  let s := s.setKind kind
  let columns := data.map fun d => Text.trim d.1
  if columns.isEmpty then s.misuse (.noColumns kind)
  else if columns.any String.isEmpty then s.misuse (.blankColumn kind)
  else
    { s with
      mutationColumns := columns
      bindings := s.bindings.set .mutation (data.map Prod.snd) }

/-- `INSERT INTO table (...) VALUES (...)`. -/
def insert (s : Statement) (data : List (String × Value)) : Statement :=
  s.setMutation .insert data

/-- `INSERT OR IGNORE INTO table (...) VALUES (...)`. -/
def insertOrIgnore (s : Statement) (data : List (String × Value)) : Statement :=
  s.setMutation .insertIgnore data

/-- `UPDATE table SET ...`. -/
def update (s : Statement) (data : List (String × Value)) : Statement :=
  s.setMutation .update data

/-- `DELETE FROM table WHERE ...`. -/
def delete (s : Statement) : Statement :=
  s.setKind .delete

/-- `INSERT ... ON CONFLICT (unique) DO UPDATE SET ...`. -/
def upsert (s : Statement) (data : List (String × Value)) (unique : List String) : Statement :=
  let s := s.setMutation .upsert data
  let unique := (unique.map Text.trim).filter fun c => !c.isEmpty
  let s := { s with upsertUnique := unique }
  if unique.isEmpty then s.misuse .noUniqueColumns else s

/-- Names the columns that an UPSERT updates on conflict. -/
def upsertColumns (s : Statement) (columns : List String) : Statement :=
  { s with upsertUpdate := some (columns.map Text.trim) }

/-- Marks the matching rows as deleted at a time. -/
def softDelete (s : Statement) (now : Timestamp) : Statement :=
  s.update [(s.softDeleteColumn, .timestamp now)]

/-- Removes the mark of deletion from the matching rows. -/
def restore (s : Statement) : Statement :=
  s.withTrashed.update [(s.softDeleteColumn, .null)]

/-! ### Joins -/

/-- The condition of a join; the operator is written as it is given. -/
def joinCondition (q : Quoting) (left operator right : String) : String :=
  " ON " ++ q.column (Text.trim left) ++ " " ++ Text.trim operator ++ " " ++
    q.column (Text.trim right)

/-- Joins a table. -/
def join (s : Statement) (kind : JoinKind) (table left operator right : String) : Statement :=
  { s with
    joins := s.joins ++
      [kind.sql ++ " " ++ Text.trim table ++ joinCondition s.quoting left operator right] }

/-- Joins a sub-statement under an alias. -/
def joinSub (s : Statement) (kind : JoinKind) (sub : Statement)
    (label left operator right : String) : Statement :=
  match sub.compile with
  | .error e => s.fail e
  | .ok query =>
    { s with
      joins := s.joins ++
        [kind.sql ++ " (" ++ query.sql ++ ") AS " ++ s.quoting.label (Text.trim label) ++
          joinCondition s.quoting left operator right]
      bindings := s.bindings.extend .join query.bindings }

/-- Joins by a text of its own, with its values. -/
def joinRaw (s : Statement) (sql : String) (values : List Value) : Statement :=
  { s with joins := s.joins ++ [Text.trim sql], bindings := s.bindings.extend .join values }

/-! ### Grouping and ordering -/

/-- Groups by columns. -/
def groupBy (s : Statement) (columns : List String) : Statement :=
  { s with groups := s.groups ++ columns.map fun c => s.quoting.column (Text.trim c) }

/-- Sets the HAVING predicate; the column is quoted as an alias of the SELECT list. -/
def having (s : Statement) (column operator : String) (value : Value) : Statement :=
  match Operator.parse? operator with
  | none => s.misuse (.unknownOperator operator)
  | some op =>
    if op.isSpecial then s.misuse (.havingOperator op)
    else
      { s with
        havingClause := some (s.quoting.label (Text.trim column) ++ " " ++ op.sql ++ " ?")
        bindings := s.bindings.set .having [value] }

/-- Orders by a column. -/
def orderBy (s : Statement) (column direction : String) : Statement :=
  match Direction.parse? direction with
  | none => s.misuse (.unknownDirection direction)
  | some d =>
    { s with orders := s.orders ++ [s.quoting.column (Text.trim column) ++ " " ++ d.sql] }

/-- Orders by a text of its own. -/
def orderByRaw (s : Statement) (sql : String) : Statement :=
  { s with orders := s.orders ++ [Text.trim sql] }

/-- A text literal: quotes inside are doubled. -/
def literal (text : String) : String :=
  String.ofList
    ('\x27' :: (text.toList.flatMap fun c => if c = '\x27' then [c, c] else [c]) ++ ['\x27'])

/-- One branch of a ranking. -/
def rankBranch (rank : Int) : String :=
  " WHEN ? THEN " ++ Text.signedDecimal rank

/-- Orders by ranks of the values of a column.  The ranked values are bound; the value of all
other rows is written as a literal. -/
def orderByCase (s : Statement) (column : String) (ranks : List (Value × Int))
    (otherwise direction : String) : Statement :=
  match Direction.parse? direction with
  | none => s.misuse (.unknownDirection direction)
  | some d =>
    if ranks.isEmpty then s.misuse .emptyRanking
    else
      { s with
        orders := s.orders ++
          ["CASE " ++ s.quoting.column (Text.trim column) ++
            Text.eachAfter "" (ranks.map fun r => rankBranch r.2) ++
            " ELSE " ++ literal otherwise ++ " END " ++ d.sql]
        bindings := s.bindings.extend .order (ranks.map Prod.fst) }

/-! ### Unions, limits, windows -/

/-- The keyword of a union. -/
def unionKeyword (all : Bool) : String :=
  if all then "UNION ALL " else "UNION "

/-- Unites with the rows of a sub-statement. -/
def union (s : Statement) (sub : Statement) (all : Bool) : Statement :=
  match sub.compile with
  | .error e => s.fail e
  | .ok query =>
    { s with
      unions := s.unions ++ [unionKeyword all ++ query.sql]
      bindings := s.bindings.extend .union query.bindings }

/-- Unites with a text of its own. -/
def unionRaw (s : Statement) (sql : String) (all : Bool) : Statement :=
  { s with unions := s.unions ++ [unionKeyword all ++ Text.trim sql] }

/-- Limits the number of rows. -/
def limit (s : Statement) (n : Nat) : Statement :=
  { s with limitCount := some n }

/-- Skips rows. -/
def offset (s : Statement) (n : Nat) : Statement :=
  { s with offsetCount := some n }

/-- Limits to a page; pages count from 1, and the rows before the page are counted in words. -/
def forPage (s : Statement) (page perPage : Nat) : Statement :=
  (s.limit perPage).offset
    (Page.rowsBefore (max (UInt64.ofNat page) 1) (UInt64.ofNat perPage)).toNat

/-- Selects a window function under an alias. -/
def window (s : Statement) (function : WindowFunction) (w : Window) (label : String) : Statement :=
  match w.column s.quoting (function.sql s.quoting) (Text.trim label) with
  | .error e => s.fail e
  | .ok sql => { s with expressions := s.expressions ++ [sql] }

/-! ### JSON columns -/

/-- Selects the JSON value at a path under an alias. -/
def jsonExtract (s : Statement) (column path label : String) : Statement :=
  { s with
    expressions := s.expressions ++
      [s.jsonDialect.extract s.quoting (Text.trim column) ++ " AS " ++
        s.quoting.label (Text.trim label)]
    bindings := s.bindings.add .select (.text (jsonPath path)) }

/-- Requires a JSON array to contain a value. -/
def jsonContains (s : Statement) (column : String) (value : Json) : Statement :=
  let (sql, bound) := s.jsonDialect.contains s.quoting (Text.trim column) value
  { s with
    jsonConditions := s.jsonConditions ++ [sql], bindings := s.bindings.add .jsonWhere bound }

/-- Compares the JSON value at a path. -/
def jsonCompare (s : Statement) (column path operator : String) (value : Value) : Statement :=
  match s.jsonDialect.pathPredicate s.quoting (Text.trim column) path operator value with
  | .error e => s.fail e
  | .ok (sql, values) =>
    { s with
      jsonConditions := s.jsonConditions ++ [sql]
      bindings := s.bindings.extend .jsonWhere values }

/-! ### Eager loading -/

/-- Adds a relation to those that are loaded with the entities. -/
def addEager (eager : List String) (name : String) : List String :=
  let name := Text.trim name
  if name.isEmpty || eager.contains name then eager else eager ++ [name]

/-- Loads relations with the entities; this needs a model class. -/
def withRelations (s : Statement) (names : List String) : Statement :=
  if s.modelClass.isNone then s.misuse .eagerWithoutModel
  else { s with eager := names.foldl addEager s.eager }

/-- Loads a relation with the entities, its query being constrained by calls. -/
def withConstraint (s : Statement) (name : String) (calls : List Call) : Statement :=
  let s := s.withRelations [name]
  if s.buildError.isSome then s
  else { s with constraints := Keyed.put (Text.trim name) calls s.constraints }

/-- Filters by a search term: one of the columns must contain it. -/
def searchFilter (s : Statement) (columns : List String) (term : String) :
    Except Error Statement :=
  if columns.isEmpty then .error (.argument .emptySearch)
  else
    let pattern := Value.text ("%" ++ Text.trim term ++ "%")
    .ok (s.group .and fun scope =>
      columns.foldl (fun q column => q.compare .or column "LIKE" pattern) scope)

end Statement
end EntityQuery

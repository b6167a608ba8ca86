/-
# Compiling statements

The SQL text of each kind of statement, clause by clause, and the values of its
placeholders.  A statement compiles if no call on it was refused, it has a table,
its kind has the parts it needs, and as many values are bound as the text has
placeholders.

A SELECT of a model class with marks of deletion gets the test for rows without
a mark as its last condition; if its own conditions contain an OR between them
they are put in parentheses first, so that the test holds for every row.
-/

import EntityQuery.Sql.Placeholder
import EntityQuery.Statement.Basic

namespace EntityQuery

/-- SQL text and the values of its placeholders in order. -/
structure Compiled where
  sql : String
  bindings : List Value

namespace Statement

/-- The SELECT list; every column, if it is empty. -/
def selectList (s : Statement) : String :=
  (if s.columns.isEmpty then "*" else Text.joinWith ", " s.columns) ++
    Text.eachAfter ", " s.expressions

/-- The conditions of a SELECT, with the test for rows that are not deleted where it is due. -/
def selectConditions (s : Statement) : List Condition :=
  if !s.filtersDeleted then s.conditions
  else if s.conditions.any (Condition.isNullCheck s.quoting s.softDeleteColumn false .and) then
    s.conditions
  else if Condition.hasTopLevelOr s.conditions then
    [.group .and s.conditions, Condition.notDeleted s.softDeleteColumn]
  else s.conditions ++ [Condition.notDeleted s.softDeleteColumn]

/-- The predicates of a WHERE clause, all of which must hold: the conditions, in parentheses if an
OR stands between them and another predicate follows, and the JSON predicates. -/
def predicates (s : Statement) (conditions : List Condition) : List String :=
  let text := Condition.sqlList s.quoting conditions
  let structured :=
    if conditions.isEmpty then []
    else if !s.jsonConditions.isEmpty && Condition.hasTopLevelOr conditions then
      ["(" ++ text ++ ")"]
    else [text]
  structured ++ s.jsonConditions

/-- The text after WHERE, if there is a predicate. -/
def whereText? (s : Statement) (conditions : List Condition) : Option String :=
  let parts := s.predicates conditions
  if parts.isEmpty then none else some (Text.joinWith " AND " parts)

/-- A keyword and the text after it, or nothing. -/
def clause (keyword : String) : Option String → String
  | none => ""
  | some text => keyword ++ text

/-- A keyword and a list of items after it, or nothing. -/
def listClause (keyword : String) (items : List String) : String :=
  if items.isEmpty then "" else keyword ++ Text.joinWith ", " items

/-- A keyword and a number after it, or nothing. -/
def countClause (keyword : String) (n : Option Nat) : String :=
  clause keyword (n.map fun n => String.ofList (Text.decimal n))

/-- The table with its joins and the WHERE clause. -/
def sourceSql (s : Statement) : String :=
  s.table ++ Text.eachAfter " " s.joins ++ clause " WHERE " (s.whereText? s.selectConditions)

/-- The text of a SELECT. -/
def selectSql (s : Statement) : String :=
  "SELECT " ++ (if s.isDistinct then "DISTINCT " else "") ++ s.selectList ++ " FROM " ++
    s.sourceSql ++ listClause " GROUP BY " s.groups ++ clause " HAVING " s.havingClause ++
    listClause " ORDER BY " s.orders ++ countClause " LIMIT " s.limitCount ++
    countClause " OFFSET " s.offsetCount ++ Text.eachAfter " " s.unions

/-- The columns of a mutation, quoted; there must be one. -/
def mutationList (s : Statement) : Except Error (List String) :=
  if s.mutationColumns.isEmpty then .error (.argument (.noColumns s.kind))
  else .ok (s.mutationColumns.map s.quoting.column)

/-- The columns and placeholders of an INSERT. -/
def insertBody (s : Statement) (columns : List String) : String :=
  s.table ++ " (" ++ Text.joinWith ", " columns ++ ") VALUES (" ++ placeholders columns.length ++ ")"

/-- The text of an INSERT. -/
def insertSql (s : Statement) : Except Error String := do
  let columns ← s.mutationList
  let verb := if s.kind = .insertIgnore then "INSERT OR IGNORE INTO " else "INSERT INTO "
  return verb ++ s.insertBody columns

/-- The text of an UPDATE. -/
def updateSql (s : Statement) : Except Error String := do
  let columns ← s.mutationList
  return "UPDATE " ++ s.table ++ " SET " ++ Text.joinWith ", " (columns.map (· ++ " = ?")) ++
    clause " WHERE " (s.whereText? s.conditions)

/-- The text of a DELETE, which must have a predicate. -/
def deleteSql (s : Statement) : Except Error String :=
  match s.whereText? s.conditions with
  | none => .error (.state (.unfilteredDelete s.table))
  | some text => .ok ("DELETE FROM " ++ s.table ++ " WHERE " ++ text)

/-- The columns an UPSERT updates on conflict: those named for it, or else all inserted ones. -/
def upsertSet (s : Statement) (inserted : List String) : List String :=
  match s.upsertUpdate with
  | none => inserted
  | some named => if named.isEmpty then inserted else named.map s.quoting.column

/-- The text of an UPSERT. -/
def upsertSql (s : Statement) : Except Error String :=
  if s.upsertUnique.isEmpty then .error (.argument .noUniqueColumns)
  else do
    let columns ← s.mutationList
    let unique := s.upsertUnique.map s.quoting.column
    let updates := (s.upsertSet columns).map fun c => c ++ " = EXCLUDED." ++ c
    return "INSERT INTO " ++ s.insertBody columns ++ " ON CONFLICT (" ++ Text.joinWith ", " unique ++
      ") DO UPDATE SET " ++ Text.joinWith ", " updates

/-- The text of a statement of any kind. -/
def text (s : Statement) : Except Error String :=
  match s.kind with
  | .select => .ok s.selectSql
  | .insert | .insertIgnore => s.insertSql
  | .update => s.updateSql
  | .delete => s.deleteSql
  | .upsert => s.upsertSql

/-- The SQL text with its values, or the first error. -/
def compile (s : Statement) : Except Error Compiled :=
  match s.buildError with
  | some e => .error e
  | none =>
    if s.table.isEmpty then .error (.argument .noTable)
    else
      match s.text with
      | .error e => .error e
      | .ok sql =>
        let expected := Placeholder.count s.quoting.quote sql
        if expected = s.values.length then .ok ⟨sql, s.values⟩
        else .error (.state (.placeholderCount expected s.values.length sql))

/-- The SQL text without its values, or the first error. -/
def toSql (s : Statement) : Except Error String :=
  Compiled.sql <$> s.compile

/-- The statement without ordering, limit and offset. -/
def unordered (s : Statement) : Statement :=
  { s with
    orders := [], bindings := s.bindings.clear .order, limitCount := none, offsetCount := none }

/-- Whether the rows of a SELECT can only be counted from outside of it. -/
def isCountedOutside (s : Statement) : Bool :=
  s.isDistinct || !s.groups.isEmpty || s.havingClause.isSome || !s.unions.isEmpty

/-- The query that counts the rows of a SELECT.  Grouped, distinct and united queries are counted
as a derived table; for the others the SELECT list is replaced. -/
def compileCount (s : Statement) : Except Error Compiled :=
  if s.kind ≠ .select then .error (.state (.uncountable s.kind))
  else
    let base := s.unordered
    if base.isCountedOutside then
      match base.compile with
      | .error e => .error e
      | .ok inner =>
        .ok ⟨"SELECT COUNT(*) AS aggregate FROM (" ++ inner.sql ++ ") AS aggregate_table",
          inner.bindings⟩
    else
      compile { base with
        columns := ["COUNT(*) AS aggregate"]
        expressions := []
        bindings := base.bindings.clear .select }

end Statement
end EntityQuery

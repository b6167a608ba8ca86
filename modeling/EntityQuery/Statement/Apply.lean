/-
# The meaning of calls

`apply` performs one call and `applyAll` a sequence of them.  A group starts from
the scope of the statement, and a sub-statement starts empty on the same
context.
-/

import EntityQuery.Statement.Build

namespace EntityQuery
namespace Statement

mutual

/-- Performs one call. -/
def apply (s : Statement) : Call → Statement
  | .fromTable table => s.fromTable table
  | .model c => s.model c
  | .dialect d => s.dialect d
  | .select columns => s.select columns
  | .addSelect columns => s.addSelect columns
  | .distinct => s.distinct
  | .compare connector column operator value => s.compare connector column operator value
  | .group connector calls => s.addGroup connector (applyAll s.scope calls)
  | .compareSub connector column operator sub =>
    s.compareSub connector column operator (applyAll (new s.context) sub)
  | .inList connector negated column values => s.inList connector negated column values
  | .nullCheck connector notNull column => s.nullCheck connector notNull column
  | .withTrashed => s.withTrashed
  | .onlyTrashed => s.onlyTrashed
  | .withoutTrashed => s.withoutTrashed
  | .softDelete now => s.softDelete now
  | .restore => s.restore
  | .join kind table left operator right => s.join kind table left operator right
  | .joinSub kind sub label left operator right =>
    s.joinSub kind (applyAll (new s.context) sub) label left operator right
  | .joinRaw sql values => s.joinRaw sql values
  | .groupBy columns => s.groupBy columns
  | .having column operator value => s.having column operator value
  | .orderBy column direction => s.orderBy column direction
  | .orderByRaw sql => s.orderByRaw sql
  | .orderByCase column ranks otherwise direction => s.orderByCase column ranks otherwise direction
  | .union sub all => s.union (applyAll (new s.context) sub) all
  | .unionRaw sql all => s.unionRaw sql all
  | .limit n => s.limit n
  | .offset n => s.offset n
  | .forPage page perPage => s.forPage page perPage
  | .window function w label => s.window function w label
  | .jsonExtract column path label => s.jsonExtract column path label
  | .jsonContains column value => s.jsonContains column value
  | .jsonCompare column path operator value => s.jsonCompare column path operator value
  | .insert data => s.insert data
  | .insertOrIgnore data => s.insertOrIgnore data
  | .update data => s.update data
  | .delete => s.delete
  | .upsert data unique => s.upsert data unique
  | .upsertColumns columns => s.upsertColumns columns
  | .withRelations names => s.withRelations names
  | .withConstraint name calls => s.withConstraint name calls

/-- Performs a sequence of calls. -/
def applyAll (s : Statement) : List Call → Statement
  | [] => s
  | call :: rest => applyAll (apply s call) rest

end

/-- The statement that a sequence of calls builds on a context. -/
def build (context : Context) (calls : List Call) : Statement :=
  applyAll (new context) calls

end Statement
end EntityQuery

/-
# The binding ledger

Every clause writes its values into a bucket of its own when it is added.  A
compiled statement has the buckets that its kind renders, in the order in which
their placeholders stand in the SQL text (`Bucket.rendered`).

`get_set_self` and `get_set_of_ne` say that a bucket is written without
touching another.
-/

import EntityQuery.Sql.Kind
import EntityQuery.Value.Basic

namespace EntityQuery

/-- The clause that a bound value belongs to. -/
inductive Bucket where
  | select
  | join
  | whereTree
  | jsonWhere
  | having
  | order
  | union
  | mutation
  deriving DecidableEq, Repr

/-- The name of a bucket. -/
def Bucket.name : Bucket → String
  | .select => "select"
  | .join => "join"
  | .whereTree => "where"
  | .jsonWhere => "json_where"
  | .having => "having"
  | .order => "order"
  | .union => "union"
  | .mutation => "mutation"

/-- The bucket of a name. -/
def Bucket.ofName? (text : String) : Option Bucket :=
  let all := [.select, .join, .whereTree, .jsonWhere, .having, .order, .union, .mutation]
  all.find? fun bucket => bucket.name == text

/-- The buckets with placeholders in statements of a kind, in the order of the text. -/
def Bucket.rendered : Kind → List Bucket
  | .select => [.select, .join, .whereTree, .jsonWhere, .having, .order, .union]
  | .insert | .insertIgnore | .upsert => [.mutation]
  | .update => [.mutation, .whereTree, .jsonWhere]
  | .delete => [.whereTree, .jsonWhere]

/-- The bound values of a statement by clause. -/
structure Bindings where
  select : List Value := []
  join : List Value := []
  whereTree : List Value := []
  jsonWhere : List Value := []
  having : List Value := []
  order : List Value := []
  union : List Value := []
  mutation : List Value := []
  deriving Inhabited

namespace Bindings

/-- The values of a bucket. -/
def get (b : Bindings) : Bucket → List Value
  | .select => b.select
  | .join => b.join
  | .whereTree => b.whereTree
  | .jsonWhere => b.jsonWhere
  | .having => b.having
  | .order => b.order
  | .union => b.union
  | .mutation => b.mutation

/-- Replaces the values of a bucket. -/
def set (b : Bindings) (bucket : Bucket) (values : List Value) : Bindings :=
  match bucket with
  | .select => { b with select := values }
  | .join => { b with join := values }
  | .whereTree => { b with whereTree := values }
  | .jsonWhere => { b with jsonWhere := values }
  | .having => { b with having := values }
  | .order => { b with order := values }
  | .union => { b with union := values }
  | .mutation => { b with mutation := values }

/-- Appends values to a bucket. -/
def extend (b : Bindings) (bucket : Bucket) (values : List Value) : Bindings :=
  b.set bucket (b.get bucket ++ values)

/-- Appends one value to a bucket. -/
def add (b : Bindings) (bucket : Bucket) (value : Value) : Bindings :=
  b.extend bucket [value]

/-- Empties a bucket. -/
def clear (b : Bindings) (bucket : Bucket) : Bindings :=
  b.set bucket []

/-- The values of a statement of a kind, in the order of its placeholders. -/
def merged (b : Bindings) (kind : Kind) : List Value :=
  (Bucket.rendered kind).flatMap b.get

@[simp] theorem get_set_self (b : Bindings) (bucket : Bucket) (values : List Value) :
    (b.set bucket values).get bucket = values := by
  cases bucket <;> rfl

theorem get_set_of_ne (b : Bindings) {bucket other : Bucket} (h : other ≠ bucket)
    (values : List Value) : (b.set bucket values).get other = b.get other := by
  cases bucket <;> cases other <;> first | rfl | exact absurd rfl h

end Bindings
end EntityQuery

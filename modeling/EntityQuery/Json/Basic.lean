/-
# JSON values

An object is a list of members in the order in which they are written, so one
type serves both for a serialized record, whose members keep the order of its
columns, and for a JSON document, whose members are sorted by key with the last
of several equal keys kept (`Json.ofMembers`).

A number is an integer or a double; reading keeps the integers that fit a
signed or unsigned word of eight bytes.
-/

import EntityQuery.Data.Keyed
import EntityQuery.Number.Shortest

namespace EntityQuery

/-- A JSON value. -/
inductive Json where
  | null
  | bool (b : Bool)
  | integer (n : Int)
  | double (x : Double)
  | string (s : String)
  | array (items : List Json)
  | object (members : List (String × Json))
  deriving Inhabited

namespace Json

/-- The object of a document: members sorted by key, a later one replacing an equal key. -/
def ofMembers (members : List (String × Json)) : Json :=
  .object (members.foldl (fun acc m => Keyed.insertSorted m.1 m.2 acc) [])

/-- A double as a value; what is not a finite number has no JSON form and becomes `null`. -/
def ofDouble (x : Double) : Json :=
  if x.isFinite then .double x else .null

end Json
end EntityQuery

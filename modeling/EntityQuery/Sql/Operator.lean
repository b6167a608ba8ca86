/-
# Comparison operators

The operators a condition may use.  They are read without regard to letter case
and to the blanks around and between their words.
-/

import EntityQuery.Text.Blank
import EntityQuery.Text.Lists

namespace EntityQuery

/-- An operator of a condition. -/
inductive Operator where
  | eq
  | ne
  | lt
  | lte
  | gt
  | gte
  | like
  | notLike
  | isIn
  | notIn
  | between
  | is
  | isNot
  deriving DecidableEq, Repr

namespace Operator

/-- The SQL text of an operator. -/
def sql : Operator → String
  | eq => "="
  | ne => "!="
  | lt => "<"
  | lte => "<="
  | gt => ">"
  | gte => ">="
  | like => "LIKE"
  | notLike => "NOT LIKE"
  | isIn => "IN"
  | notIn => "NOT IN"
  | between => "BETWEEN"
  | is => "IS"
  | isNot => "IS NOT"

/-- The name of an operator. -/
def name : Operator → String
  | eq => "Eq"
  | ne => "Ne"
  | lt => "Lt"
  | lte => "Lte"
  | gt => "Gt"
  | gte => "Gte"
  | like => "Like"
  | notLike => "NotLike"
  | isIn => "In"
  | notIn => "NotIn"
  | between => "Between"
  | is => "Is"
  | isNot => "IsNot"

/-- Every operator. -/
def all : List Operator :=
  [eq, ne, lt, lte, gt, gte, like, notLike, isIn, notIn, between, is, isNot]

/-- The words of a text in upper case with one blank between them. -/
def normalize (text : String) : List Char :=
  List.intercalate [' '] ((Text.words text).map Text.asciiUpper)

/-- The operator a text names. -/
def parse? (text : String) : Option Operator :=
  let name := normalize text
  all.find? fun op => op.sql.toList = name

/-- Whether the operator is one of those that take a list, a range or nothing. -/
def isSpecial : Operator → Bool
  | isIn | notIn | between | is | isNot => true
  | _ => false

end Operator
end EntityQuery

/-
# Joining and splitting

Clauses are written as items with a separator between them.  `joinWith` writes
the first item bare and `eachAfter` puts the separator before every other one,
so that appending items to a rendered list is appending `eachAfter` of them
(`joinWith_append`).
-/

namespace EntityQuery
namespace Text

/-- Every item with the separator in front. -/
def eachAfter (separator : String) : List String → String
  | [] => ""
  | item :: rest => separator ++ item ++ eachAfter separator rest

/-- The items with the separator between them. -/
def joinWith (separator : String) : List String → String
  | [] => ""
  | item :: rest => item ++ eachAfter separator rest

theorem eachAfter_append (separator : String) (xs ys : List String) :
    eachAfter separator (xs ++ ys) = eachAfter separator xs ++ eachAfter separator ys := by
  induction xs with
  | nil => simp [eachAfter]
  | cons x xs ih => simp [eachAfter, ih, String.append_assoc]

/-- Items added to a list that is not empty are each written after the separator. -/
theorem joinWith_append (separator x : String) (xs ys : List String) :
    joinWith separator (x :: xs ++ ys) = joinWith separator (x :: xs) ++ eachAfter separator ys := by
  simp [joinWith, eachAfter_append, String.append_assoc]

/-- The pieces between the occurrences of a character; there is always at least one. -/
def splitOn (separator : Char) : List Char → List (List Char)
  | [] => [[]]
  | c :: rest =>
    if c = separator then [] :: splitOn separator rest
    else match splitOn separator rest with
      | [] => [[c]]
      | piece :: pieces => (c :: piece) :: pieces

/-- The ASCII upper-case letters for the ASCII lower-case ones; other characters stay. -/
def asciiUpper (cs : List Char) : List Char :=
  cs.map Char.toUpper

/-- Whether the second text occurs in the first as consecutive characters. -/
def hasInfix (cs needle : List Char) : Bool :=
  match cs with
  | [] => needle.isEmpty
  | c :: rest => needle.isPrefixOf (c :: rest) || hasInfix rest needle

end Text
end EntityQuery

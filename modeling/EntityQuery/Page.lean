/-
# Pages

A page of a result: how many rows there are, how many of them a page holds, and
which page is shown.  Pages count from 1, and a page past the end is the last
one as long as there are rows.

The numbers of a page are words of 64 bits, and so is the product that says how
many rows are before it.  Without rows no page is past the end, so a page that
is asked for may have more rows before it than a word can say: the product then
wraps around.
-/

import EntityQuery.Json.Basic

namespace EntityQuery

/-- The position of a page in a result. -/
structure Page where
  total : UInt64
  perPage : UInt64
  current : UInt64
  last : UInt64
  deriving DecidableEq, Repr

namespace Page

/-- The quotient rounded up. -/
def ceilDiv (a b : UInt64) : UInt64 :=
  if a % b = 0 then a / b else a / b + 1

/-- The page for a request; a page size or page number of zero counts as one. -/
def ofWords (total perPage page : UInt64) : Page :=
  let perPage := max perPage 1
  let last := max (ceilDiv total perPage) 1
  let current := max page 1
  { total := total
    perPage := perPage
    current := if 0 < total ∧ last < current then last else current
    last := last }

/-- The page for a request whose numbers fit into words. -/
def of (total perPage page : Nat) : Page :=
  ofWords (UInt64.ofNat total) (UInt64.ofNat perPage) (UInt64.ofNat page)

/-- The number of the first page. -/
def first : Nat := 1

/-- The rows before a page, of so many rows each. -/
def rowsBefore (page perPage : UInt64) : UInt64 :=
  (page - 1) * perPage

/-- The rows before the page. -/
def offset (p : Page) : Nat :=
  (rowsBefore p.current p.perPage).toNat

/-- Whether pages follow. -/
def hasMore (p : Page) : Bool :=
  p.current < p.last

/-- The JSON form of a page. -/
def toJson (p : Page) : Json :=
  .object
    [("total", .integer p.total.toNat), ("per_page", .integer p.perPage.toNat),
      ("current_page", .integer p.current.toNat), ("last_page", .integer p.last.toNat),
      ("first_page", .integer first)]

end Page

/-- One page of rows or entities. -/
structure Paginated (α : Type) where
  data : List α
  page : Page

/-- The JSON form of a page with its rows; the page stands under a name of its own. -/
def Paginated.toJson {α : Type} (p : Paginated α) (name : String) (item : α → Json) : Json :=
  .object [("data", .array (p.data.map item)), (name, p.page.toJson)]

end EntityQuery

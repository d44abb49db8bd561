import Planroom.Failure
import Planroom.Json.Basic

/-!
# Pages

A listing is read page by page: `Window` says which part of it, `Page` holds that part together with
the length of the whole.
-/

namespace Planroom

/-- **Which part of a listing is wanted.** The offset may lie beyond the end of the listing, and
then the part is empty. -/
structure Window where
  limit : Nat
  offset : Nat
  deriving DecidableEq, Repr

/-- **A part of a listing.** The length of the whole tells the caller whether there is more to come.
-/
structure Page (α : Type) where
  data : List α
  total : Nat
  limit : Nat
  offset : Nat
  deriving Repr

namespace Window

/-- The number of items on a page when nothing else is asked for. -/
def defaultLimit : Nat := 50

/-- The greatest number of items on a page. -/
def maxLimit : Nat := 100

/-- The window with the given limit and offset. A limit of zero is refused: it would never come to
an end for whoever reads page by page. -/
def make (limit offset : Option Nat) : Except Failure Window :=
  let limit := limit.getD defaultLimit
  if limit = 0 ∨ maxLimit < limit then .error (.invalid .pageLimit)
  else .ok ⟨limit, offset.getD 0⟩

/-- **The part of the items that the window shows.** It is cut out of a list that is complete and in
order, and so pages that follow one another leave nothing out and tell nothing twice, as long as
nothing is created in between. -/
def apply {α : Type} (window : Window) (items : List α) : Page α :=
  { data := (items.drop window.offset).take window.limit
    total := items.length
    limit := window.limit
    offset := window.offset }

end Window

namespace Page

/-- The page with every item changed. -/
def map {α β : Type} (f : α → β) (page : Page α) : Page β :=
  ⟨page.data.map f, page.total, page.limit, page.offset⟩

/-- A page in data. -/
def toJson {α : Type} (item : α → Json) (page : Page α) : Json :=
  .object [
    ("data", .array (page.data.map item)),
    ("total_count", .ofNat page.total),
    ("limit", .ofNat page.limit),
    ("offset", .ofNat page.offset)]

end Page

end Planroom

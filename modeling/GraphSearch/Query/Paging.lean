/-!
The part of the result that one page shows.
-/

namespace GraphSearch

/-- The rows that a statement asks for: how many to pass over and how many to take. -/
structure Window where
  skip : Nat
  take : Nat
deriving DecidableEq, Repr

/-- The largest number of rows that can be passed over. -/
def largestSkip : Nat := UInt64.size - 1

/-- A page size, and the rows that all pages together may show. -/
structure Paging where
  /-- Rows on a page. -/
  size : UInt64
  size_pos : 0 < size.toNat
  /-- The page shown, counted from zero. -/
  page : Nat := 0
  /-- The number of rows wanted, if it is bounded. -/
  limit : Option UInt64 := none
  /-- The rows before the first page. -/
  offset : UInt64 := 0

namespace Paging

/-- Pages of a size, at least one row each. -/
def ofSize (size : UInt64) : Paging :=
  if h : 0 < size.toNat then { size := size, size_pos := h }
  else { size := 1, size_pos := by decide }

/-- Rows on the pages before the current one. -/
def consumed (p : Paging) : Nat :=
  p.page * p.size.toNat

/-- The rows of the current page; none once the limit has been used up. -/
def window (p : Paging) : Option Window :=
  let skip := min (p.offset.toNat + p.consumed) largestSkip
  match p.limit with
  | none => some ⟨skip, p.size.toNat⟩
  | some limit =>
    if limit.toNat ≤ p.consumed then none
    else some ⟨skip, min p.size.toNat (limit.toNat - p.consumed)⟩

def next (p : Paging) : Paging :=
  { p with page := p.page + 1 }

end Paging

/-- The clause that restricts a statement to a window. -/
def Window.render (w : Window) : String :=
  " SKIP " ++ toString w.skip ++ " LIMIT " ++ toString w.take

end GraphSearch

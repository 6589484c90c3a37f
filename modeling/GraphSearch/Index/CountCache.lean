/-!
Counts of recent queries.

A bounded number of counts is kept under the digests of their queries; the one that has not been
asked for the longest makes room for a new one.
-/

namespace GraphSearch

structure CountCache where
  capacity : Nat
  /-- Digests and counts, the most recently used first. -/
  entries : List (UInt64 × UInt64) := []

namespace CountCache

/-- An empty cache with room for at least one count. -/
def ofCapacity (capacity : UInt64) : CountCache where
  capacity := max 1 capacity.toNat

/-- The entries without the one under a digest. -/
def remove (digest : UInt64) (entries : List (UInt64 × UInt64)) : List (UInt64 × UInt64) :=
  entries.filter fun entry => entry.1 ≠ digest

def find? (c : CountCache) (digest : UInt64) : Option UInt64 :=
  c.entries.lookup digest

/-- Looks a count up, and makes it the most recently used if it is there. -/
def get (c : CountCache) (digest : UInt64) : Option UInt64 × CountCache :=
  match c.find? digest with
  | some count => (some count, { c with entries := (digest, count) :: remove digest c.entries })
  | none => (none, c)

def put (c : CountCache) (digest count : UInt64) : CountCache :=
  { c with entries := ((digest, count) :: remove digest c.entries).take c.capacity }

def clear (c : CountCache) : CountCache :=
  { c with entries := [] }

def size (c : CountCache) : Nat :=
  c.entries.length

end CountCache

/-- Only a result below the threshold is sorted. -/
def shouldSort (count threshold : UInt64) : Bool :=
  count < threshold

end GraphSearch

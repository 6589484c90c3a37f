import GraphSearch.Query.Paging
import GraphSearch.Store.Session
import GraphSearch.Text.Blank

/-!
A session that serves records from memory.

It does not look at conditions: a fetch gets the records in the window at the end of its statement,
and a count gets their number, or a number set beforehand. That is enough to rehearse a search.
-/

namespace GraphSearch

/-- Records to serve. -/
structure Memory where
  records : List Record := []
  /-- The answer to counts, in the place of the number of records. -/
  count : Option UInt64 := none
  /-- The cause with which every call fails, if it is set. -/
  failure : Option String := none

namespace Memory

/-- The text before and after the first place where `mark` stands. -/
def splitFirst? (mark : List Char) : List Char → Option (List Char × List Char)
  | [] => if mark.isEmpty then some ([], []) else none
  | c :: rest =>
    if mark.isPrefixOf (c :: rest) then some ([], (c :: rest).drop mark.length)
    else (splitFirst? mark rest).map fun (before, after) => (c :: before, after)

/-- The text after the last place where `mark` stands. -/
def afterLast? (mark : List Char) : List Char → Option (List Char)
  | [] => if mark.isEmpty then some [] else none
  | c :: rest =>
    match afterLast? mark rest with
    | some found => some found
    | none => if mark.isPrefixOf (c :: rest) then some ((c :: rest).drop mark.length) else none

/-- A natural number of at most sixty-four bits in decimal digits, perhaps behind a plus sign. -/
def readWord? (text : List Char) : Option Nat :=
  let digits := match text with
    | '+' :: rest => rest
    | text => text
  if digits.isEmpty || !digits.all Char.isDigit then none
  else
    let n := digits.foldl (fun n c => n * 10 + (c.toNat - 48)) 0
    if n < UInt64.size then some n else none

def windowOf? (statement : String) : Option Window := do
  let tail ← afterLast? " SKIP ".toList statement.toList
  let (skip, take) ← splitFirst? " LIMIT ".toList tail
  return ⟨← readWord? (trimBlanks skip), ← readWord? (trimBlanks take)⟩

/-- The records in the window of a statement, or all of them. -/
def rows (m : Memory) (statement : String) : List Record :=
  match windowOf? statement with
  | some w => (m.records.drop w.skip).take w.take
  | none => m.records

def total (m : Memory) : UInt64 :=
  m.count.getD (UInt64.ofNat m.records.length)

/-- The session that serves the records. Its state does not change. -/
def session : Session Memory where
  fetch m statement _ :=
    match m.failure with
    | some cause => (.error (.execution cause), m)
    | none => (.ok (m.rows statement), m)
  count m _ _ :=
    match m.failure with
    | some cause => (.error (.execution cause), m)
    | none => (.ok m.total, m)

end Memory

end GraphSearch

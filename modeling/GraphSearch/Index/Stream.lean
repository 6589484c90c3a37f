import GraphSearch.Query.Statement
import GraphSearch.Store.Session

/-!
Results that are fetched page by page.

A stream asks its session for a page when the records of the page before have been handed out. It
ends with an empty page, when the limit of its query has been used up, with a failure of the
session, or when it is closed; from then on it never asks again.
-/

namespace GraphSearch

inductive StreamState where
  | unstarted
  | fetching
  | exhausted
deriving DecidableEq, Repr

def StreamState.label : StreamState → String
  | unstarted => "Unstarted"
  | fetching => "Fetching"
  | exhausted => "Exhausted"

structure ResultStream where
  query : Query
  sorted : Bool
  /-- Records of the current page that have not been handed out. -/
  page : List Record := []
  state : StreamState := .unstarted
  closed : Bool := false
  metadata : Dictionary Value := []

namespace ResultStream

/-- The metadata that holds the number of matches. -/
def countKey : String := "resultCount"

/-- The metadata that says whether the query has a limit. -/
def limitedKey : String := "limited"

/-- The metadata that says whether the result is sorted. -/
def sortedKey : String := "sorted"

def setMetadata (s : ResultStream) (key : String) (value : Value) : ResultStream :=
  { s with metadata := s.metadata.insert key value }

def metadata? (s : ResultStream) (key : String) : Option Value :=
  s.metadata.get? key

def resultCount? (s : ResultStream) : Option Nat :=
  match s.metadata? countKey with
  | some (.integer n) => if 0 ≤ n.toInt then some n.toInt.toNat else none
  | _ => none

def isLimited (s : ResultStream) : Bool :=
  match s.metadata? limitedKey with
  | some (.boolean b) => b
  | _ => false

/-- The statement that fetches the next page. -/
def statement (s : ResultStream) : String :=
  s.query.fetchStatement s.sorted

def close (s : ResultStream) : ResultStream :=
  { s with page := [], state := .exhausted, closed := true }

def exhaust (s : ResultStream) : ResultStream :=
  { s with state := .exhausted }

def receive (s : ResultStream) (page : List Record) : ResultStream :=
  let s := { s with query := s.query.nextPage }
  if page.isEmpty then s.exhaust else { s with page := page, state := .fetching }

variable {σ α : Type}

/-- Fetches the next page, if there can be one. -/
def fetchPage (session : Session σ) (state : σ) (s : ResultStream) :
    Except SearchError Unit × ResultStream × σ :=
  if s.closed || s.query.window.isNone then (.ok (), s.exhaust, state)
  else
    match session.fetch state s.statement s.query.parameters with
    | (.ok page, state) => (.ok (), s.receive page, state)
    | (.error e, state) => (.error e, s.exhaust, state)

/-- Whether there is another record, fetching a page if none is left over. -/
def hasNext (session : Session σ) (state : σ) (s : ResultStream) :
    Except SearchError Bool × ResultStream × σ :=
  match s.state, s.page with
  | .exhausted, _ => (.ok false, s, state)
  | .fetching, _ :: _ => (.ok true, s, state)
  | _, _ =>
    match fetchPage session state s with
    | (.ok (), s, state) => (.ok (s.state == .fetching), s, state)
    | (.error e, s, state) => (.error e, s, state)

/-- Hands out the next record through a mapper. A record that cannot be mapped is passed over. -/
def tryNext (session : Session σ) (map : Record → Except SearchError α) (state : σ)
    (s : ResultStream) : Except SearchError α × ResultStream × σ :=
  match hasNext session state s with
  | (.error e, s, state) => (.error e, s, state)
  | (.ok false, s, state) => (.error .exhausted, s, state)
  | (.ok true, s, state) =>
    match s.page with
    | [] => (.error .exhausted, s, state)
    | record :: rest => (map record, { s with page := rest }, state)

/-- The next mapped record or failure, or nothing at the end. -/
def next (session : Session σ) (map : Record → Except SearchError α) (state : σ)
    (s : ResultStream) : Option (Except SearchError α) × ResultStream × σ :=
  match hasNext session state s with
  | (.error e, s, state) => (some (.error e), s, state)
  | (.ok false, s, state) => (none, s, state)
  | (.ok true, s, state) =>
    let (item, s, state) := tryNext session map state s
    (some item, s, state)

/-- Everything that is left of the stream, at most `fuel` items of it. -/
def collect (session : Session σ) (map : Record → Except SearchError α) :
    (fuel : Nat) → (state : σ) → (s : ResultStream) →
    List (Except SearchError α) × ResultStream × σ
  | 0, state, s => ([], s, state)
  | fuel + 1, state, s =>
    match next session map state s with
    | (none, s, state) => ([], s, state)
    | (some item, s, state) =>
      let (items, s, state) := collect session map fuel state s
      (item :: items, s, state)

end ResultStream

end GraphSearch

import GraphSearch.Index.Config
import GraphSearch.Index.Context
import GraphSearch.Index.CountCache
import GraphSearch.Index.Stream
import GraphSearch.Query.Digest
import GraphSearch.Clause.Translation

/-!
Indexes: searches over one session.

A search counts its matches first, unless the count of an equal query is known, and then gives a
stream of them. The count decides whether the result is sorted.
-/

namespace GraphSearch

/-- A node or relationship index. -/
structure Index where
  kind : EntityKind
  config : IndexConfig := {}
  registry : Registry := .standard

namespace Index

/-- An empty cache for the counts of an index. -/
def emptyCache (ix : Index) : CountCache :=
  .ofCapacity ix.config.cacheSize

/-- The query for a predicate, with the order of the outermost predicate. -/
def build (ix : Index) (context : SearchContext) (p : Predicate) : Query :=
  let start := Query.new ix.kind (context.pageSize.getD ix.config.pageSize) context.labels
    context.limit context.offset
  { start.add ix.registry p true with sort := p.sort? }

variable {σ : Type}

/-- The number of matches of a query: a known one, or else what the session counts, which then is
known. A failure leaves what is known as it was. -/
def resultCount (session : Session σ) (state : σ) (cache : CountCache) (q : Query) :
    Except SearchError UInt64 × CountCache × σ :=
  match cache.get q.digest with
  | (some count, cache) => (.ok count, cache, state)
  | (none, cache) =>
    match session.count state q.countStatement q.parameters with
    | (.ok count, state) => (.ok count, cache.put q.digest count, state)
    | (.error e, state) => (.error e, cache, state)

/-- A count as metadata; counts that are too large for it are capped. -/
def countValue (count : UInt64) : Value :=
  .integer (.ofInt (min count.toNat Int64.maxValue.toInt))

/-- The stream of a query with a known number of matches. -/
def streamOf (ix : Index) (q : Query) (count : UInt64) : ResultStream :=
  let sorted := q.sort.isSome && shouldSort count ix.config.sortThreshold
  let stream : ResultStream := { query := q, sorted := sorted }
  ((stream.setMetadata ResultStream.countKey (countValue count)).setMetadata
    ResultStream.limitedKey (.boolean q.isLimited)).setMetadata
    ResultStream.sortedKey (.boolean sorted)

def search (ix : Index) (session : Session σ) (state : σ) (cache : CountCache)
    (context : SearchContext) (p : Predicate) : Except SearchError ResultStream × CountCache × σ :=
  let q := ix.build context p
  match resultCount session state cache q with
  | (.ok count, cache, state) => (.ok (ix.streamOf q count), cache, state)
  | (.error e, cache, state) => (.error e, cache, state)

end Index

end GraphSearch

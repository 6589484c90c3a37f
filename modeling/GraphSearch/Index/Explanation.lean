import GraphSearch.Index.Basic
import GraphSearch.Predicate.Document
import GraphSearch.Query.Statement

/-!
What an index would send for a search.
-/

namespace GraphSearch

/-- The statements, the parameters and the digest of a search that is not run. -/
structure Explanation where
  kind : EntityKind
  countStatement : String
  /-- The statement for the first page, sorted if the predicate has an order. -/
  fetchStatement : String
  parameters : Dictionary Value
  digest : UInt64
  /-- A result of this many rows or more is not sorted. -/
  sortThreshold : UInt64

def Index.explain (ix : Index) (context : SearchContext) (p : Predicate) : Explanation :=
  let q := ix.build context p
  { kind := ix.kind
    countStatement := q.countStatement
    fetchStatement := q.fetchStatement true
    parameters := q.parameters
    digest := q.digest
    sortThreshold := ix.config.sortThreshold }

def Explanation.toJson (e : Explanation) : Json :=
  .object [("kind", nameDocument EntityKind.names e.kind),
    ("count_statement", .string e.countStatement), ("fetch_statement", .string e.fetchStatement),
    ("parameters", .object (Record.propertiesDocument e.parameters)),
    ("hash", .integer e.digest.toNat), ("sort_threshold", .integer e.sortThreshold.toNat)]

end GraphSearch

import GraphSearch.Json.Reader
import GraphSearch.Store.Record

/-!
Settings of an index.
-/

namespace GraphSearch

/-- Settings that all searches of an index share. -/
structure IndexConfig where
  /-- How many counts are kept. -/
  cacheSize : UInt64 := 1000
  /-- Results are sorted only if there are fewer of them. -/
  sortThreshold : UInt64 := 100000
  /-- Rows on a page. -/
  pageSize : UInt64 := 500
deriving DecidableEq, Repr

namespace IndexConfig

def validate (c : IndexConfig) : Except SearchError Unit :=
  if c.cacheSize = 0 then .error (.config "query_cache_size must be greater than zero")
  else if c.pageSize = 0 then .error (.config "page_size must be greater than zero")
  else .ok ()

def wordDocument (n : UInt64) : Json :=
  .integer n.toNat

def toJson (c : IndexConfig) : Json :=
  .object [("query_cache_size", wordDocument c.cacheSize),
    ("sort_threshold", wordDocument c.sortThreshold), ("page_size", wordDocument c.pageSize)]

/-- The settings found so far. -/
structure Draft where
  cacheSize : Option UInt64 := none
  sortThreshold : Option UInt64 := none
  pageSize : Option UInt64 := none

open Json

/-- Settings that are not given keep their defaults. -/
def Draft.finish (d : Draft) : IndexConfig :=
  let default : IndexConfig := {}
  ⟨d.cacheSize.getD default.cacheSize, d.sortThreshold.getD default.sortThreshold,
    d.pageSize.getD default.pageSize⟩

def Draft.read (d : Draft) (key : String) : Reader Draft :=
  match key with
  | "query_cache_size" => do
    return { d with cacheSize := ← Reader.once key d.cacheSize (Reader.word "usize") }
  | "sort_threshold" => do
    return { d with sortThreshold := ← Reader.once key d.sortThreshold (Reader.word "u64") }
  | "page_size" => do
    return { d with pageSize := ← Reader.once key d.pageSize (Reader.word "usize") }
  | _ => Reader.ignoredField d

/-- Reads settings: an object, or an array of them in order. -/
def reader : Reader IndexConfig :=
  Reader.record "struct IndexConfig" {} Draft.read (fun d => .ok d.finish) do
    let default : IndexConfig := {}
    let cacheSize ← Reader.itemOr true default.cacheSize (Reader.word "usize")
    let sortThreshold ← Reader.itemOr false default.sortThreshold (Reader.word "u64")
    let pageSize ← Reader.itemOr false default.pageSize (Reader.word "usize")
    return ⟨cacheSize, sortThreshold, pageSize⟩

def parse (text : String) : Except Fault IndexConfig :=
  reader.whole text

end IndexConfig

end GraphSearch

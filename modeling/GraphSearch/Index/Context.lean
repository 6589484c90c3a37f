import GraphSearch.Json.Reader
import GraphSearch.Query.Basic

/-!
What one search asks for beside its predicate: labels and a part of the result.
-/

namespace GraphSearch

structure SearchContext where
  labels : Labels := {}
  limit : Option UInt64 := none
  offset : UInt64 := 0
  /-- Rows on a page, if they are not those of the index. -/
  pageSize : Option UInt64 := none
deriving DecidableEq, Repr

namespace SearchContext

def label (c : SearchContext) (label : String) : SearchContext :=
  { c with labels := { c.labels with type := some label } }

/-- With labels for the ends of a relationship. -/
def between (c : SearchContext) (source target : String) : SearchContext :=
  { c with labels := { c.labels with source := some source, target := some target } }

def optionalString (s : Option String) : Json :=
  (s.map Json.string).getD .null

def optionalWord (n : Option UInt64) : Json :=
  (n.map fun n => Json.integer n.toNat).getD .null

def toJson (c : SearchContext) : Json :=
  .object [("type_label", optionalString c.labels.type),
    ("source_label", optionalString c.labels.source),
    ("target_label", optionalString c.labels.target), ("limit", optionalWord c.limit),
    ("offset", .integer c.offset.toNat), ("page_size", optionalWord c.pageSize)]

/-- The parts found so far. -/
structure Draft where
  type : Option (Option String) := none
  source : Option (Option String) := none
  target : Option (Option String) := none
  limit : Option (Option UInt64) := none
  offset : Option UInt64 := none
  pageSize : Option (Option UInt64) := none

open Json

def Draft.finish (d : Draft) : SearchContext where
  labels := ⟨d.type.getD none, d.source.getD none, d.target.getD none⟩
  limit := d.limit.getD none
  offset := d.offset.getD 0
  pageSize := d.pageSize.getD none

def text : Reader (Option String) :=
  Reader.optional (Reader.string "a string")

def count : Reader (Option UInt64) :=
  Reader.optional (Reader.word "usize")

def Draft.read (d : Draft) (key : String) : Reader Draft :=
  match key with
  | "type_label" => do return { d with type := ← Reader.once key d.type text }
  | "source_label" => do return { d with source := ← Reader.once key d.source text }
  | "target_label" => do return { d with target := ← Reader.once key d.target text }
  | "limit" => do return { d with limit := ← Reader.once key d.limit count }
  | "offset" => do
    return { d with offset := ← Reader.once key d.offset (Reader.word "usize") }
  | "page_size" => do return { d with pageSize := ← Reader.once key d.pageSize count }
  | _ => Reader.ignoredField d

/-- Reads a context: an object, or an array of its parts in order. -/
def reader : Reader SearchContext :=
  Reader.record "struct QueryContext" {} Draft.read (fun d => .ok d.finish) do
    let type ← Reader.itemOr true none text
    let source ← Reader.itemOr false none text
    let target ← Reader.itemOr false none text
    let limit ← Reader.itemOr false none count
    let offset ← Reader.itemOr false 0 (Reader.word "usize")
    let pageSize ← Reader.itemOr false none count
    return ⟨⟨type, source, target⟩, limit, offset, pageSize⟩

def parse (text : String) : Except Fault SearchContext :=
  reader.whole text

end SearchContext

end GraphSearch

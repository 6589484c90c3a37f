import GraphSearch.Json.Reader
import GraphSearch.Predicate.Names
import GraphSearch.Value.Document

/-!
Predicates from JSON.

The outermost predicate is decoded while its text is read, those inside it from documents. The kind
may come after the fields that it calls for, so the fields of the condition are kept until the
object is complete; fields that the kind does not have are not looked at. Of two faults the one that
comes first in the text is reported.
-/

namespace GraphSearch

open Json

/-! ### The order of a result -/

/-- The fields of an order found so far. -/
structure SortDraft where
  key : Option String := none
  mode : Option SortMode := none
  descending : Option Bool := none

namespace SortDraft

def finish (d : SortDraft) : Except Mismatch SortOrder := do
  return ⟨← required "key" d.key, d.mode.getD .lexical, d.descending.getD false⟩

def take (d : SortDraft) (key : String) (value : Json) : Except Mismatch SortDraft :=
  match key with
  | "key" => do return { d with key := ← once "key" d.key value.asString }
  | "sort_type" => do
    return { d with mode := ← once "sort_type" d.mode (value.asVariant SortMode.names) }
  | "descending" => do
    return { d with descending := ← once "descending" d.descending value.asBoolean }
  | _ => .ok d

def takeAll (d : SortDraft) : List (String × Json) → Except Mismatch SortDraft
  | [] => .ok d
  | (key, value) :: rest => do (← d.take key value).takeAll rest

def read (d : SortDraft) (key : String) : Reader SortDraft :=
  match key with
  | "key" => do return { d with key := ← Reader.once "key" d.key (Reader.string "a string") }
  | "sort_type" => do
    return { d with mode := ← Reader.once "sort_type" d.mode (Reader.variant SortMode.names) }
  | "descending" => do
    return { d with descending := ← Reader.once "descending" d.descending Reader.boolean }
  | _ => Reader.ignoredField d

end SortDraft

namespace SortOrder

def expected : String := "struct SortSpec"

/-- The fault of an array without a sort key. -/
def emptyArray : Mismatch :=
  .invalidLength 0 (expected ++ " with 3 elements")

/-- The order in a document: an object, or an array of its fields. -/
def ofJson : Json → Except Mismatch SortOrder
  | .object members => do (← SortDraft.takeAll {} members).finish
  | .array [] => .error emptyArray
  | .array (key :: rest) => do
    let key ← key.asString
    let mode ← (rest[0]?.map (·.asVariant SortMode.names)).getD (.ok .lexical)
    let descending ← (rest[1]?.map Json.asBoolean).getD (.ok false)
    refuseExtra 3 (rest.length + 1)
    return ⟨key, mode, descending⟩
  | j => j.refuse expected

def reader : Reader SortOrder :=
  Reader.record expected {} SortDraft.read SortDraft.finish do
    if ← Reader.nextItem true then
      let key ← Reader.string "a string"
      let mode ← Reader.itemOr false .lexical (Reader.variant SortMode.names)
      let descending ← Reader.itemOr false false Reader.boolean
      return ⟨key, mode, descending⟩
    else throw (.mismatch emptyArray)

end SortOrder

/-! ### Conditions -/

/-- A field of a condition. -/
structure Field where
  key : String
  value : Json
  /-- The value as the children of a group, should it be asked for as such. -/
  children : Except Mismatch (List Predicate)

/-- The fields of a condition found so far. -/
structure ConditionDraft where
  operation : Option Comparison := none
  value : Option Value := none
  low : Option Value := none
  high : Option Value := none
  includeLow : Option Bool := none
  includeHigh : Option Bool := none
  latitude : Option Binary64 := none
  longitude : Option Binary64 := none
  distance : Option Binary64 := none
  typeName : Option String := none
  uuid : Option String := none
  relationshipType : Option String := none
  direction : Option Direction := none
  related : Option (Option String) := none
  combinator : Option Combinator := none
  children : Option (List Predicate) := none

namespace ConditionDraft

/-- Takes in the value that most kinds have. -/
def takeValue (d : ConditionDraft) (f : Field) : Except Mismatch ConditionDraft := do
  return { d with value := ← once "value" d.value (Value.decode f.value) }

/-- Takes in one field, if the kind has it. -/
def take (kind : PredicateKind) (d : ConditionDraft) (f : Field) :
    Except Mismatch ConditionDraft :=
  match kind with
  | .comparison =>
    match f.key with
    | "operation" => do
      let found ← once "operation" d.operation
        (f.value.asVariant Comparison.names)
      return { d with operation := found }
    | "value" => d.takeValue f
    | _ => .ok d
  | .range =>
    match f.key with
    | "start" => do return { d with low := ← once "start" d.low (Value.decode f.value) }
    | "end" => do return { d with high := ← once "end" d.high (Value.decode f.value) }
    | "include_start" => do
      return { d with includeLow := ← once "include_start" d.includeLow f.value.asBoolean }
    | "include_end" => do
      return { d with includeHigh := ← once "include_end" d.includeHigh f.value.asBoolean }
    | _ => .ok d
  | .fulltext | .exact | .array =>
    match f.key with
    | "value" => d.takeValue f
    | _ => .ok d
  | .spatial =>
    match f.key with
    | "latitude" => do return { d with latitude := ← once "latitude" d.latitude f.value.asFloat }
    | "longitude" => do
      return { d with longitude := ← once "longitude" d.longitude f.value.asFloat }
    | "distance" => do return { d with distance := ← once "distance" d.distance f.value.asFloat }
    | _ => .ok d
  | .type =>
    match f.key with
    | "type_name" => do
      return { d with typeName := ← once "type_name" d.typeName f.value.asString }
    | _ => .ok d
  | .uuid =>
    match f.key with
    | "uuid" => do return { d with uuid := ← once "uuid" d.uuid f.value.asString }
    | _ => .ok d
  | .relationship =>
    match f.key with
    | "rel_type" => do
      return { d with relationshipType := ← once "rel_type" d.relationshipType f.value.asString }
    | "direction" => do
      let found ← once "direction" d.direction
        (f.value.asVariant Direction.names)
      return { d with direction := found }
    | "related" => do
      return { d with related := ← once "related" d.related (f.value.asOptional Json.asString) }
    | _ => .ok d
  | .notEmpty | .empty => .ok d
  | .group =>
    match f.key with
    | "combinator" => do
      let found ← once "combinator" d.combinator
        (f.value.asVariant Combinator.names)
      return { d with combinator := found }
    | "children" => do return { d with children := ← once "children" d.children f.children }
    | _ => .ok d

def takeAll (kind : PredicateKind) (d : ConditionDraft) :
    List Field → Except Mismatch ConditionDraft
  | [] => .ok d
  | f :: rest => do (← d.take kind f).takeAll kind rest

/-- The value, which is null if it is not given. -/
def valueOrNull (d : ConditionDraft) : Value :=
  d.value.getD .null

/-- The predicate of the kind with the fields found. -/
def finish (d : ConditionDraft) (a : Attributes) : PredicateKind → Except Mismatch Predicate
  | .comparison => do
    return .leaf a (.comparison (← required "operation" d.operation) d.valueOrNull)
  | .range =>
    .ok (.leaf a (.range (d.low.getD .null) (d.high.getD .null) (d.includeLow.getD true)
      (d.includeHigh.getD true)))
  | .fulltext => .ok (.leaf a (.fulltext d.valueOrNull))
  | .exact => .ok (.leaf a (.exact d.valueOrNull))
  | .spatial => do
    let latitude ← required "latitude" d.latitude
    let longitude ← required "longitude" d.longitude
    let distance ← required "distance" d.distance
    return .leaf a (.spatial latitude longitude distance)
  | .array => .ok (.leaf a (.array d.valueOrNull))
  | .type => do return .leaf a (.type (← required "type_name" d.typeName))
  | .uuid => do return .leaf a (.uuid (← required "uuid" d.uuid))
  | .relationship => do
    return .leaf a (.relationship (← required "rel_type" d.relationshipType)
      (d.direction.getD .outgoing) (d.related.getD none))
  | .notEmpty => .ok (.leaf a .notEmpty)
  | .empty => .ok (.leaf a .empty)
  | .group => .ok (.group a (d.combinator.getD .and) (d.children.getD []))

end ConditionDraft

/-! ### Predicates -/

/-- The members of a predicate found so far. -/
structure PredicateDraft where
  name : Option (Option String) := none
  occurrence : Option Occurrence := none
  sort : Option (Option SortOrder) := none
  /-- The members that belong to the condition, the last one first. -/
  fields : List Field := []

namespace PredicateDraft

/-- The key of the member that names the kind. -/
def kindKey : String := "kind"

/-- The kind named among the fields, exactly once. -/
def findKind : (held : Option PredicateKind) → List Field → Except Mismatch PredicateKind
  | held, [] => required kindKey held
  | held, f :: rest =>
    if f.key = kindKey then do
      findKind (← once kindKey held (f.value.asTag PredicateKind.names)) rest
    else findKind held rest

def attributes (d : PredicateDraft) : Attributes where
  name := d.name.getD none
  occurrence := d.occurrence.getD .must
  sort := d.sort.getD none

def finish (d : PredicateDraft) : Except Mismatch Predicate := do
  let fields := d.fields.reverse
  let kind ← findKind none fields
  let condition ← ConditionDraft.takeAll kind {} (fields.filter fun f => f.key ≠ kindKey)
  condition.finish d.attributes kind

def take (d : PredicateDraft) (f : Field) : Except Mismatch PredicateDraft :=
  match f.key with
  | "name" => do
    return { d with name := ← once "name" d.name (f.value.asOptional Json.asString) }
  | "occurrence" => do
    let found ← once "occurrence" d.occurrence
      (f.value.asVariant Occurrence.names)
    return { d with occurrence := found }
  | "sort" => do
    return { d with sort := ← once "sort" d.sort (f.value.asOptional SortOrder.ofJson) }
  | _ => .ok { d with fields := f :: d.fields }

end PredicateDraft

namespace Predicate

def expected : String := "struct Predicate"

mutual

def ofJson : Json → Except Mismatch Predicate
  | .object members => do (← takeMembers {} members).finish
  | j => j.refuse expected

def takeMembers (d : PredicateDraft) : List (String × Json) → Except Mismatch PredicateDraft
  | [] => .ok d
  | (key, value) :: rest => do takeMembers (← d.take ⟨key, value, childrenOf value⟩) rest

def childrenOf : Json → Except Mismatch (List Predicate)
  | .array items => ofItems items
  | j => j.refuse "a sequence"

/-- The predicates in the items of an array. -/
def ofItems : List Json → Except Mismatch (List Predicate)
  | [] => .ok []
  | item :: rest => do return (← ofJson item) :: (← ofItems rest)

end

/-- Reads one member of the outermost predicate. -/
def readMember (d : PredicateDraft) (key : String) : Reader PredicateDraft :=
  match key with
  | "name" => do
    let found ← Reader.once "name" d.name
      (Reader.optional (Reader.string "a string"))
    return { d with name := found }
  | "occurrence" => do
    let found ← Reader.once "occurrence" d.occurrence
      (Reader.variant Occurrence.names)
    return { d with occurrence := found }
  | "sort" => do
    return { d with sort := ← Reader.once "sort" d.sort (Reader.optional SortOrder.reader) }
  | key => do
    Reader.colon
    let value ← Reader.value (maximalDepth - 1)
    return { d with fields := ⟨key, value, childrenOf value⟩ :: d.fields }

/-- Reads the outermost predicate of a text. -/
def reader : Reader Predicate := do
  match ← Reader.upcoming with
  | some '{' =>
    Reader.advance
    let d ← Reader.foldMembers readMember ((← get).length + 1) true {}
    match d.finish with
    | .ok p =>
      Reader.closeObject
      return p
    | .error m => throw (.mismatch m)
  | _ => Reader.refuse expected

def parse (text : String) : Except Fault Predicate :=
  reader.whole text

end Predicate

end GraphSearch

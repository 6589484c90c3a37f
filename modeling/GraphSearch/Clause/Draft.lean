import GraphSearch.Query.Basic

/-!
Clauses before their parameters are named.

What a predicate asks is first worked out without a query: as a tree of items, in which each clause
carries the values that it compares with. Appending an item to a query names the values and writes
the keywords that join the item to what came before.
-/

namespace GraphSearch

/-- A piece of a composite draft. -/
inductive DraftPart where
  | text (s : String)
  /-- A value, to be bound under a name made from the key. -/
  | value (key : String) (v : Value)

/-- A clause whose values are not named yet. -/
inductive Draft where
  /-- Whether a property is there. -/
  | nullTest (key operator : String)
  /-- A property against a value. -/
  | comparison (key operator : String) (value : Value) (ignoreCase : Bool)
  | composite (parts : List DraftPart)

/-- What a predicate comes to: a clause, or a group with at least one member. -/
inductive Item where
  | clause (occurrence : Occurrence) (draft : Draft)
  | group (occurrence : Occurrence) (combinator : Combinator) (members : List Item)

namespace Query

/-- Writes the keywords that join a fragment to its predecessor in the group. -/
def join (q : Query) (occurrence : Occurrence) (isFirst : Bool) : Query :=
  match occurrence with
  | .must =>
    if isFirst then q
    else match q.combinator with
      | .and => q.push .and
      | .or => q.push .or
  | .should => if isFirst then q else q.push .or
  | .mustNot => (if isFirst then q else q.push .and).push .not

/-- Binds the values of a composite draft from left to right, and gives the parts with their
names. -/
def bindParts (q : Query) : List DraftPart → Query × List Part
  | [] => (q, [])
  | .text s :: rest =>
    let (q, parts) := q.bindParts rest
    (q, .text s :: parts)
  | .value key v :: rest =>
    let name := q.freshName key
    let (q, parts) := (q.bind key v).bindParts rest
    (q, .parameter name :: parts)

def appendDraft (q : Query) : Draft → Query
  | .nullTest key operator => q.addNullTest key operator
  | .comparison key operator value ignoreCase => q.addClause key operator value ignoreCase true
  | .composite parts =>
    let (q, parts) := q.bindParts parts
    q.addComposite parts

mutual

/-- Appends an item, joined to what is already in its group. -/
def append (q : Query) (isFirst : Bool) : Item → Query
  | .clause occurrence draft => (q.join occurrence isFirst).appendDraft draft
  | .group occurrence combinator members =>
    (((q.join occurrence isFirst).beginGroup combinator).appendAll true members).endGroup

def appendAll (q : Query) (isFirst : Bool) : List Item → Query
  | [] => q
  | item :: rest => (q.append isFirst item).appendAll false rest

end

end Query

end GraphSearch

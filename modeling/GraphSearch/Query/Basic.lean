import GraphSearch.Dictionary
import GraphSearch.Predicate.Basic
import GraphSearch.Query.Fragment
import GraphSearch.Query.Paging

/-!
Queries under construction.

A query collects the fragments of its condition and the values of their parameters. A parameter is
named after its property's key; further parameters of the same key are numbered. What was added
after a checkpoint can be taken back.
-/

namespace GraphSearch

/-- Whether a query looks for nodes or for relationships. -/
inductive EntityKind where
  | node
  | relationship
deriving DecidableEq, Repr, Inhabited

def EntityKind.names : List (String × EntityKind) :=
  [("node", node), ("relationship", relationship)]

/-- The name of an entity kind as output shows it. -/
def EntityKind.label : EntityKind → String
  | node => "Node"
  | relationship => "Relationship"

/-- The labels that the entity and the ends of a relationship must have. -/
structure Labels where
  /-- The label of a node, or the type of a relationship. -/
  type : Option String := none
  source : Option String := none
  target : Option String := none
deriving DecidableEq, Repr

/-- A value under a parameter name. -/
structure Binding where
  /-- The name that the first parameter of the key has. -/
  base : String
  /-- How many parameters of the same base came before. -/
  ordinal : Nat
  value : Value

/-- The first parameter has the base for its name, and the others a number behind it. -/
def Binding.name (b : Binding) : String :=
  if b.ordinal = 0 then b.base else b.base ++ "_" ++ toString b.ordinal

/-- A query under construction. -/
structure Query where
  kind : EntityKind
  labels : Labels
  paging : Paging
  fragments : List Fragment := []
  /-- The parameters' values, in the order in which they were bound. -/
  bindings : List Binding := []
  /-- The combinators of the open groups, the innermost first. -/
  groups : List Combinator := []
  sort : Option SortOrder := none

/-- A point in the construction of a query to go back to. -/
structure Checkpoint where
  fragments : Nat
  bindings : Nat
  groups : Nat
deriving DecidableEq, Repr

namespace Query

def new (kind : EntityKind) (pageSize : UInt64) (labels : Labels := {})
    (limit : Option UInt64 := none) (offset : UInt64 := 0) : Query where
  kind := kind
  labels := labels
  paging := { Paging.ofSize pageSize with limit := limit, offset := offset }

def push (q : Query) (f : Fragment) : Query :=
  { q with fragments := q.fragments ++ [f] }

def beginGroup (q : Query) (combinator : Combinator) : Query :=
  { q.push .opening with groups := combinator :: q.groups }

def endGroup (q : Query) : Query :=
  { q.push .closing with groups := q.groups.tail }

/-- The combinator of the innermost open group; outside of groups it is `and`. -/
def combinator (q : Query) : Combinator :=
  q.groups.head?.getD .and

/-- How many parameters there are with a base. -/
def boundCount (q : Query) (base : String) : Nat :=
  q.bindings.countP fun b => b.base = base

/-- The binding that the next parameter of a key gets; the value is kept as the store keeps it. -/
def nextBinding (q : Query) (key : String) (value : Value) : Binding :=
  let base := Identifier.parameterBase key
  ⟨base, q.boundCount base, value.stored⟩

def bind (q : Query) (key : String) (value : Value) : Query :=
  { q with bindings := q.bindings ++ [q.nextBinding key value] }

/-- The name under which `bind` binds the value of a key. -/
def freshName (q : Query) (key : String) : String :=
  (q.nextBinding key .null).name

/-- Adds a clause that tests an expression against a parameter. A null is not bound but written
out. -/
def addClause (q : Query) (key operator : String) (value : Value) (ignoreCase isProperty : Bool) :
    Query :=
  if value.isNull then q.push (.clause (.simple key operator none ignoreCase isProperty))
  else
    (q.bind key value).push
      (.clause (.simple key operator (some (q.freshName key)) ignoreCase isProperty))

/-- Adds a clause that tests a property against a parameter. -/
def addComparison (q : Query) (key operator : String) (value : Value) : Query :=
  q.addClause key operator value false true

/-- Adds a clause that tests whether a property is there. -/
def addNullTest (q : Query) (key operator : String) : Query :=
  q.addClause key operator .null false true

/-- Adds a clause of parts, whose parameters have been bound before. -/
def addComposite (q : Query) (parts : List Part) : Query :=
  q.push (.clause (.composite parts))

def checkpoint (q : Query) : Checkpoint :=
  ⟨q.fragments.length, q.bindings.length, q.groups.length⟩

/-- Takes back what was added after the checkpoint. -/
def rollback (q : Query) (c : Checkpoint) : Query :=
  { q with
    fragments := q.fragments.take c.fragments
    bindings := q.bindings.take c.bindings
    groups := q.groups.drop (q.groups.length - c.groups) }

def isEmpty (q : Query) : Bool :=
  q.fragments.isEmpty

/-- Sets the order of the result, in the place of the one that was set before. -/
def sortBy (q : Query) (order : SortOrder) : Query :=
  { q with sort := some order }

def nextPage (q : Query) : Query :=
  { q with paging := q.paging.next }

def window (q : Query) : Option Window :=
  q.paging.window

def isLimited (q : Query) : Bool :=
  q.paging.limit.isSome

def parameters (q : Query) : Dictionary Value :=
  Dictionary.ofEntries (q.bindings.map fun b => (b.name, b.value))

end Query

end GraphSearch

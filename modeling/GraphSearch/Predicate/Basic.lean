import GraphSearch.Value.Basic

/-!
Predicates: what a search asks of an entity.

A predicate is one condition, or a group of predicates. Each carries how it joins its siblings, the
property it speaks of if its condition needs one, and an order for the result, which only counts on
the outermost predicate.
-/

namespace GraphSearch

/-- How a predicate joins its siblings. -/
inductive Occurrence where
  | must
  | should
  | mustNot
deriving DecidableEq, Repr, Inhabited

/-- The operations of a comparison. -/
inductive Comparison where
  | equal
  | notEqual
  | greater
  | greaterOrEqual
  | less
  | lessOrEqual
  | isNull
  | isNotNull
  | startsWith
  | endsWith
  | contains
  | startsWithAnyCase
  | endsWithAnyCase
  | containsAnyCase
deriving DecidableEq, Repr

/-- Presence is tested without a value to compare with. -/
def Comparison.isNullTest : Comparison → Bool
  | isNull | isNotNull => true
  | _ => false

/-- How a group joins the members that must hold. -/
inductive Combinator where
  | and
  | or
deriving DecidableEq, Repr, Inhabited

def Combinator.keyword : Combinator → String
  | and => "AND"
  | or => "OR"

/-- The direction of a relationship, seen from the entity that is searched for. -/
inductive Direction where
  | outgoing
  | incoming
  | both
deriving DecidableEq, Repr, Inhabited

/-- How the keys of an order compare. -/
inductive SortMode where
  | lexical
  | numeric
deriving DecidableEq, Repr, Inhabited

/-- An order for the result. -/
structure SortOrder where
  key : String
  mode : SortMode
  descending : Bool
deriving DecidableEq, Repr

/-- What one predicate asks. -/
inductive Condition where
  | comparison (operation : Comparison) (value : Value)
  /-- Between two bounds, either of which may be null and then does not count. -/
  | range (low high : Value) (includeLow includeHigh : Bool)
  /-- The text of the value stands somewhere in the property, in any case. -/
  | fulltext (value : Value)
  | exact (value : Value)
  /-- Within a distance, in meters, of a point. -/
  | spatial (latitude longitude distance : Binary64)
  /-- The property is an array that holds the value, or all items of it if it is a list. -/
  | array (value : Value)
  | type (name : String)
  | uuid (uuid : String)
  /-- A relationship of the type exists, to the entity with the uuid if one is given. -/
  | relationship (type : String) (direction : Direction) (related : Option String)
  | notEmpty
  | empty

/-- What a predicate carries beside its condition. -/
structure Attributes where
  name : Option String := none
  occurrence : Occurrence := .must
  sort : Option SortOrder := none
deriving DecidableEq, Inhabited

inductive Predicate where
  | leaf (attributes : Attributes) (condition : Condition)
  | group (attributes : Attributes) (combinator : Combinator) (children : List Predicate)
deriving Inhabited

/-- The kinds of predicates. -/
inductive PredicateKind where
  | comparison
  | range
  | fulltext
  | exact
  | spatial
  | array
  | type
  | uuid
  | relationship
  | notEmpty
  | empty
  | group
deriving DecidableEq, Repr

namespace PredicateKind

def all : List PredicateKind :=
  [comparison, range, fulltext, exact, spatial, array, type, uuid, relationship, notEmpty, empty,
    group]

/-- The position of a kind among all kinds. -/
def index : PredicateKind → Nat
  | comparison => 0
  | range => 1
  | fulltext => 2
  | exact => 3
  | spatial => 4
  | array => 5
  | type => 6
  | uuid => 7
  | relationship => 8
  | notEmpty => 9
  | empty => 10
  | group => 11

/-- The name of a kind as messages show it. -/
def label : PredicateKind → String
  | comparison => "Comparison"
  | range => "Range"
  | fulltext => "Fulltext"
  | exact => "Exact"
  | spatial => "Spatial"
  | array => "Array"
  | type => "Type"
  | uuid => "Uuid"
  | relationship => "Relationship"
  | notEmpty => "NotEmpty"
  | empty => "Empty"
  | group => "Group"

end PredicateKind

def Condition.kind : Condition → PredicateKind
  | comparison .. => .comparison
  | range .. => .range
  | fulltext .. => .fulltext
  | exact .. => .exact
  | spatial .. => .spatial
  | array .. => .array
  | type .. => .type
  | uuid .. => .uuid
  | relationship .. => .relationship
  | notEmpty => .notEmpty
  | empty => .empty

namespace Predicate

def attributes : Predicate → Attributes
  | leaf a _ => a
  | group a _ _ => a

def kind : Predicate → PredicateKind
  | leaf _ condition => condition.kind
  | group .. => .group

def name? (p : Predicate) : Option String :=
  p.attributes.name

def occurrence (p : Predicate) : Occurrence :=
  p.attributes.occurrence

def sort? (p : Predicate) : Option SortOrder :=
  p.attributes.sort

/-- The predicate with its attributes changed. -/
def mapAttributes (change : Attributes → Attributes) : Predicate → Predicate
  | leaf a condition => leaf (change a) condition
  | group a combinator children => group (change a) combinator children

/-! ### Building predicates -/

/-- A condition on a property, which must hold. -/
def named (name : String) (condition : Condition) : Predicate :=
  leaf { name := some name } condition

/-- A condition that needs no property, which must hold. -/
def unnamed (condition : Condition) : Predicate :=
  leaf {} condition

def comparison (name : String) (operation : Comparison) (value : Value) : Predicate :=
  named name (.comparison operation value)

def nullTest (name : String) (operation : Comparison) : Predicate :=
  comparison name operation .null

def rangeWith (name : String) (low high : Value) (includeLow includeHigh : Bool) : Predicate :=
  named name (.range low high includeLow includeHigh)

def range (name : String) (low high : Value) : Predicate :=
  rangeWith name low high true true

def fulltext (name : String) (value : Value) : Predicate :=
  named name (.fulltext value)

def exact (name : String) (value : Value) : Predicate :=
  named name (.exact value)

def spatial (latitude longitude distance : Binary64) : Predicate :=
  unnamed (.spatial latitude longitude distance)

def array (name : String) (value : Value) : Predicate :=
  named name (.array value)

def typeOf (type : String) : Predicate :=
  unnamed (.type type)

def uuid (uuid : String) : Predicate :=
  unnamed (.uuid uuid)

def relationship (type : String) (direction : Direction) (related : Option String) : Predicate :=
  unnamed (.relationship type direction related)

def notEmpty (name : String) : Predicate :=
  named name .notEmpty

def empty (name : String) : Predicate :=
  named name .empty

def allOf (children : List Predicate) : Predicate :=
  group {} .and children

def anyOf (children : List Predicate) : Predicate :=
  group {} .or children

/-- The predicate, joining its siblings in the given way. -/
def occurs (p : Predicate) (occurrence : Occurrence) : Predicate :=
  p.mapAttributes fun a => { a with occurrence := occurrence }

def should (p : Predicate) : Predicate :=
  p.occurs .should

def mustNot (p : Predicate) : Predicate :=
  p.occurs .mustNot

/-- The predicate with an order for the result. -/
def sortedBy (p : Predicate) (key : String) (mode : SortMode) (descending : Bool) : Predicate :=
  p.mapAttributes fun a => { a with sort := some ⟨key, mode, descending⟩ }

end Predicate

end GraphSearch

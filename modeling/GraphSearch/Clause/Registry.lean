import GraphSearch.Clause.Builder

/-!
What predicates come to.

A registry says which builder serves each kind of predicate. A predicate that comes to nothing is
left out, and so is a group all of whose members are; a search asks less than it was given rather
than fail.
-/

namespace GraphSearch

/-- The builder of each kind, if it has one. -/
abbrev Registry := PredicateKind → Option ClauseBuilder

namespace Registry

def empty : Registry := fun _ => none

def standard : Registry
  | .comparison => some .comparison
  | .range => some .range
  | .fulltext => some .keyword
  | .exact => some .keyword
  | .spatial => some .spatial
  | .array => some .array
  | .type => some .type
  | .uuid => some .uuid
  | .relationship => some .relationship
  | .notEmpty => some .notEmpty
  | .empty => some .empty
  | .group => some .group

/-- The registry with a kind served by another builder. -/
def register (r : Registry) (kind : PredicateKind) (t : ClauseBuilder) : Registry :=
  fun k => if k = kind then some t else r k

/-- The registry with a kind no longer served. -/
def without (r : Registry) (kind : PredicateKind) : Registry :=
  fun k => if k = kind then none else r k

def isRegistered (r : Registry) (kind : PredicateKind) : Bool :=
  (r kind).isSome

mutual

/-- What a predicate comes to under one builder; the members of a group are looked up in the
registry. -/
def itemBy (r : Registry) (kind : EntityKind) (t : ClauseBuilder) : Predicate → Option Item
  | .leaf a condition => (t.draft? kind a.name condition).map (.clause a.occurrence)
  | .group a combinator children =>
    if t = .group then
      match r.itemsOf kind children with
      | [] => none
      | members => some (.group a.occurrence combinator members)
    else none

/-- What is left of the members of a group. -/
def itemsOf (r : Registry) (kind : EntityKind) : List Predicate → List Item
  | [] => []
  | child :: rest =>
    match (r child.kind).bind fun t => r.itemBy kind t child with
    | some item => item :: r.itemsOf kind rest
    | none => r.itemsOf kind rest

end

/-- What a predicate comes to, if anything. -/
def item? (r : Registry) (kind : EntityKind) (p : Predicate) : Option Item :=
  (r p.kind).bind fun t => r.itemBy kind t p

end Registry

/-- Something left out that the user should know of. -/
inductive Warning where
  /-- No builder serves the kind. -/
  | unregistered (kind : PredicateKind) (name : Option String)
  /-- Relationships have no relationships of their own. -/
  | relationshipOfRelationship (type : String)
deriving DecidableEq, Repr

def Warning.message : Warning → String
  | unregistered .. => "No query factory registered for predicate kind, clause dropped"
  | relationshipOfRelationship _ =>
    "Relationship predicate on a relationship index, clause dropped"

namespace Registry

mutual

/-- The warnings of a predicate under one builder. -/
def warningsBy (r : Registry) (kind : EntityKind) (t : ClauseBuilder) : Predicate → List Warning
  | .leaf _ condition =>
    match t, kind, condition with
    | .relationship, .relationship, .relationship type _ _ =>
      if type.isEmpty then [] else [.relationshipOfRelationship type]
    | _, _, _ => []
  | .group _ _ children => if t = .group then r.warningsOf kind children else []

/-- The warnings of the members of a group. -/
def warningsOf (r : Registry) (kind : EntityKind) : List Predicate → List Warning
  | [] => []
  | child :: rest =>
    (match r child.kind with
      | some t => r.warningsBy kind t child
      | none => [.unregistered child.kind child.name?]) ++ r.warningsOf kind rest

end

def warnings (r : Registry) (kind : EntityKind) (p : Predicate) : List Warning :=
  match r p.kind with
  | some t => r.warningsBy kind t p
  | none => [.unregistered p.kind p.name?]

end Registry

end GraphSearch

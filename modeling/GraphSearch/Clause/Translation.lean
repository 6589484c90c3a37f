import GraphSearch.Clause.Registry

/-!
Appending to a query what a predicate asks.

A group writes its keyword and its parenthesis before it is known whether any of its members has a
clause. If none has, what the group wrote is taken back.
-/

namespace GraphSearch

namespace Query

mutual

/-- Appends what a predicate asks under one builder, and tells whether there was anything to
append. -/
def tryAddBy (q : Query) (r : Registry) (t : ClauseBuilder) (isFirst : Bool) :
    Predicate → Bool × Query
  | .leaf a condition =>
    match t.draft? q.kind a.name condition with
    | some draft => (true, (q.join a.occurrence isFirst).appendDraft draft)
    | none => (false, q)
  | .group a combinator children =>
    if t = .group && !children.isEmpty then
      match ((q.join a.occurrence isFirst).beginGroup combinator).tryAddAll r true children with
      | (true, written) => (true, written.endGroup)
      | (false, written) => (false, written.rollback q.checkpoint)
    else (false, q)

/-- Appends what the members of a group ask, one after the other. The next member is the first as
long as none has left anything. -/
def tryAddAll (q : Query) (r : Registry) (isFirst : Bool) : List Predicate → Bool × Query
  | [] => (!isFirst, q)
  | child :: rest =>
    match r child.kind with
    | some t =>
      match q.tryAddBy r t isFirst child with
      | (added, q) => q.tryAddAll r (isFirst && !added) rest
    | none => q.tryAddAll r isFirst rest

end

/-- Appends what a predicate asks, and tells whether there was anything to append. -/
def tryAdd (q : Query) (r : Registry) (p : Predicate) (isFirst : Bool) : Bool × Query :=
  match r p.kind with
  | some t => q.tryAddBy r t isFirst p
  | none => (false, q)

/-- Appends what a predicate asks, if anything. -/
def add (q : Query) (r : Registry) (p : Predicate) (isFirst : Bool) : Query :=
  (q.tryAdd r p isFirst).2

end Query

end GraphSearch

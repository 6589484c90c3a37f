import GraphSearch.Store.Record

/-!
Sessions against a graph store.

A session answers two kinds of statements, each given with its parameters. What it knows between two
statements is its state.
-/

namespace GraphSearch

/-- A session whose state is of type `σ`. -/
structure Session (σ : Type) where
  /-- Runs a statement and returns its rows. -/
  fetch : σ → String → Dictionary Value → Except SearchError (List Record) × σ
  /-- Runs a statement that counts, and returns the count. -/
  count : σ → String → Dictionary Value → Except SearchError UInt64 × σ

/-- A statement that a session was asked to run. -/
structure Call where
  isCount : Bool
  statement : String
  parameters : Dictionary Value

/-- The state of a session together with the calls made so far, the last one first. -/
structure Logged (σ : Type) where
  state : σ
  calls : List Call := []

namespace Session

def logged {σ : Type} (s : Session σ) : Session (Logged σ) where
  fetch l statement parameters :=
    let (answer, state) := s.fetch l.state statement parameters
    (answer, ⟨state, ⟨false, statement, parameters⟩ :: l.calls⟩)
  count l statement parameters :=
    let (answer, state) := s.count l.state statement parameters
    (answer, ⟨state, ⟨true, statement, parameters⟩ :: l.calls⟩)

/-- The session, with the calls whose numbers are chosen failing before they reach it. -/
def failingAt {σ : Type} (s : Session σ) (chosen : Nat → Bool) (cause : String) :
    Session (Nat × σ) where
  fetch state statement parameters :=
    if chosen state.1 then (.error (.execution cause), (state.1 + 1, state.2))
    else
      let (answer, inner) := s.fetch state.2 statement parameters
      (answer, (state.1 + 1, inner))
  count state statement parameters :=
    if chosen state.1 then (.error (.execution cause), (state.1 + 1, state.2))
    else
      let (answer, inner) := s.count state.2 statement parameters
      (answer, (state.1 + 1, inner))

end Session

end GraphSearch

import GraphSearch.Index.Basic
import GraphSearch.Store.Memory

/-!
An index in use.

Callers search, read the streams that they have got, and drop the known counts, in any order. All of
them share the session of the index and its counts.
-/

namespace GraphSearch

/-- A call to an index or to one of its streams, which are numbered as they were opened. -/
inductive IndexCall where
  | search (context : SearchContext) (p : Predicate)
  | invalidate
  | hasNext (slot : Nat)
  | next (slot : Nat)
  | tryNext (slot : Nat)
  | close (slot : Nat)

/-- What a call returns. -/
inductive Reply (α : Type) where
  | opened (stream : Except SearchError ResultStream)
  | ready (answer : Except SearchError Bool)
  | item (answer : Option (Except SearchError α))
  | tried (answer : Except SearchError α)
  | done

/-- What an index and its callers hold between two calls. -/
structure InUse (σ : Type) where
  /-- The state of the session. -/
  state : σ
  cache : CountCache
  streams : List ResultStream := []

namespace InUse

variable {σ α : Type}

/-- Lets one stream work, if there is a stream in the slot. -/
def onStream (w : InUse σ) (slot : Nat)
    (work : σ → ResultStream → Reply α × ResultStream × σ) : Reply α × InUse σ :=
  match w.streams[slot]? with
  | none => (.done, w)
  | some s =>
    let (reply, s, state) := work w.state s
    (reply, { w with state := state, streams := w.streams.set slot s })

end InUse

namespace Index

variable {σ α : Type} (ix : Index) (session : Session σ) (map : Record → Except SearchError α)

/-- An index that has not been used. -/
def unused (state : σ) : InUse σ where
  state := state
  cache := ix.emptyCache

/-- One call. -/
def step (w : InUse σ) : IndexCall → Reply α × InUse σ
  | .search context p =>
    match ix.search session w.state w.cache context p with
    | (.ok stream, cache, state) => (.opened (.ok stream), ⟨state, cache, w.streams ++ [stream]⟩)
    | (.error e, cache, state) => (.opened (.error e), ⟨state, cache, w.streams⟩)
  | .invalidate => (.done, { w with cache := w.cache.clear })
  | .hasNext slot =>
    w.onStream slot fun state s =>
      let (answer, s, state) := s.hasNext session state
      (.ready answer, s, state)
  | .next slot =>
    w.onStream slot fun state s =>
      let (answer, s, state) := s.next session map state
      (.item answer, s, state)
  | .tryNext slot =>
    w.onStream slot fun state s =>
      let (answer, s, state) := s.tryNext session map state
      (.tried answer, s, state)
  | .close slot => w.onStream slot fun state s => (.done, s.close, state)

/-- Calls one after the other, with all that they return. -/
def run (w : InUse σ) : List IndexCall → List (Reply α) × InUse σ
  | [] => ([], w)
  | call :: rest =>
    let (reply, w) := ix.step session map w call
    let (replies, w) := run w rest
    (reply :: replies, w)

theorem run_cons (w : InUse σ) (call : IndexCall) (rest : List IndexCall) :
    ix.run session map w (call :: rest) =
      ((ix.step session map w call).1 :: (ix.run session map (ix.step session map w call).2 rest).1,
        (ix.run session map (ix.step session map w call).2 rest).2) := rfl

end Index

section SessionInvariant

variable {σ α : Type} {session : Session σ} {good : σ → Prop}

/-- Whatever a session is asked, its state keeps a property. -/
structure Session.Preserves (session : Session σ) (good : σ → Prop) : Prop where
  fetch : ∀ state statement parameters, good state →
    good (session.fetch state statement parameters).2
  count : ∀ state statement parameters, good state →
    good (session.count state statement parameters).2

theorem Session.Preserves.failingAt (h : session.Preserves good) (chosen : Nat → Bool)
    (cause : String) : (session.failingAt chosen cause).Preserves fun state => good state.2 := by
  constructor
  · intro state statement parameters hstate
    rw [Session.failingAt]
    dsimp only
    split
    · exact hstate
    · exact h.fetch state.2 statement parameters hstate
  · intro state statement parameters hstate
    rw [Session.failingAt]
    dsimp only
    split
    · exact hstate
    · exact h.count state.2 statement parameters hstate

theorem Session.Preserves.logged (h : session.Preserves good) :
    session.logged.Preserves fun l => good l.state := by
  constructor
  · intro l statement parameters hstate
    exact h.fetch l.state statement parameters hstate
  · intro l statement parameters hstate
    exact h.count l.state statement parameters hstate

theorem Memory.session_fetch_snd (m : Memory) (statement : String)
    (parameters : Dictionary Value) : (Memory.session.fetch m statement parameters).2 = m := by
  rw [Memory.session]
  dsimp only
  split <;> rfl

theorem Memory.session_count_snd (m : Memory) (statement : String)
    (parameters : Dictionary Value) : (Memory.session.count m statement parameters).2 = m := by
  rw [Memory.session]
  dsimp only
  split <;> rfl

theorem Memory.preserves_session (memory : Memory) : Memory.session.Preserves (· = memory) := by
  constructor
  · rintro m statement parameters rfl
    exact session_fetch_snd m statement parameters
  · rintro m statement parameters rfl
    exact session_count_snd m statement parameters

variable (h : session.Preserves good) {map : Record → Except SearchError α} {state : σ}
  (hstate : good state)

include h hstate

namespace ResultStream

theorem good_fetchPage (s : ResultStream) : good (s.fetchPage session state).2.2 := by
  have hfetch := h.fetch state s.statement s.query.parameters hstate
  rw [fetchPage]
  split
  · exact hstate
  · rcases hanswer : session.fetch state s.statement s.query.parameters with ⟨_ | page, state'⟩
    all_goals rw [hanswer] at hfetch
    · exact hfetch
    · exact hfetch

theorem good_hasNext (s : ResultStream) : good (s.hasNext session state).2.2 := by
  have hpage := good_fetchPage h hstate s
  rw [hasNext]
  split
  · exact hstate
  · exact hstate
  · rcases hanswer : s.fetchPage session state with ⟨_ | _, s', state'⟩
    all_goals rw [hanswer] at hpage
    · exact hpage
    · exact hpage

theorem good_tryNext (s : ResultStream) : good (s.tryNext session map state).2.2 := by
  have hready := good_hasNext h hstate s
  rw [tryNext]
  rcases hanswer : s.hasNext session state with ⟨_ | _ | _, s', state'⟩
  all_goals rw [hanswer] at hready
  · exact hready
  · exact hready
  · dsimp only
    split
    · exact hready
    · exact hready

theorem good_next (s : ResultStream) : good (s.next session map state).2.2 := by
  have hready := good_hasNext h hstate s
  rw [next]
  rcases hanswer : s.hasNext session state with ⟨_ | _ | _, s', state'⟩
  all_goals rw [hanswer] at hready
  · exact hready
  · exact hready
  · exact good_tryNext h hready s'

end ResultStream

namespace Index

theorem good_search (ix : Index) (cache : CountCache) (context : SearchContext) (p : Predicate) :
    good (ix.search session state cache context p).2.2 := by
  have hcount := h.count state (ix.build context p).countStatement
    (ix.build context p).parameters hstate
  have hresult : good (resultCount session state cache (ix.build context p)).2.2 := by
    rw [resultCount]
    rcases cache.get (ix.build context p).digest with ⟨_ | count, cache'⟩
    · rcases hanswer : session.count state (ix.build context p).countStatement
        (ix.build context p).parameters with ⟨_ | count, state'⟩
      all_goals rw [hanswer] at hcount
      · exact hcount
      · exact hcount
    · exact hstate
  rw [search]
  rcases hanswer : resultCount session state cache (ix.build context p) with
    ⟨_ | count, cache', state'⟩
  all_goals rw [hanswer] at hresult
  · exact hresult
  · exact hresult

end Index

end SessionInvariant

section Run

variable {σ α : Type} {ix : Index} {session : Session σ} {good : σ → Prop}
  {map : Record → Except SearchError α} {w : InUse σ}

theorem InUse.good_onStream {slot : Nat} {work : σ → ResultStream → Reply α × ResultStream × σ}
    (hstate : good w.state) (hwork : ∀ s, good (work w.state s).2.2) :
    good (w.onStream slot work).2.state := by
  rw [onStream]
  split
  · exact hstate
  · exact hwork _

namespace Index

theorem good_step (h : session.Preserves good) (hstate : good w.state) (call : IndexCall) :
    good (ix.step session map w call).2.state := by
  cases call with
  | search context p =>
      have hsearch := good_search h hstate ix w.cache context p
      rw [step]
      rcases hanswer : ix.search session w.state w.cache context p with
        ⟨_ | stream, cache', state'⟩
      all_goals rw [hanswer] at hsearch
      · exact hsearch
      · exact hsearch
  | invalidate => exact hstate
  | hasNext slot => exact InUse.good_onStream hstate (ResultStream.good_hasNext h hstate)
  | next slot => exact InUse.good_onStream hstate (ResultStream.good_next h hstate)
  | tryNext slot => exact InUse.good_onStream hstate (ResultStream.good_tryNext h hstate)
  | close slot => exact InUse.good_onStream hstate fun _ => hstate

theorem good_run (h : session.Preserves good) (hstate : good w.state) (calls : List IndexCall) :
    good (ix.run session map w calls).2.state := by
  induction calls generalizing w with
  | nil => exact hstate
  | cons call rest ih =>
      rw [run_cons]
      exact ih (good_step h hstate call)

end Index

end Run

end GraphSearch

import GraphSearch.Proofs.PagedStream
import GraphSearch.Proofs.Usage

/-!
What a stream asks of its session, whatever the session answers.

The calls on a stream may come in any order, and a session may answer each statement with any
records or with a failure. Main statement: each call asks for at most one page, the pages are asked
for in order and under one statement, the records are handed out in the order in which they came,
and after a failure, the end or a closing nothing is asked any more.
-/

namespace GraphSearch

/-! ### Recorded sessions -/

/-- A statement that a session was asked to run, with the parameters and the answer. -/
inductive Exchange where
  | count (statement : String) (parameters : Dictionary Value) (answer : Except SearchError UInt64)
  | fetch (statement : String) (parameters : Dictionary Value)
      (answer : Except SearchError (List Record))

namespace Exchange

/-- The records that the session has answered with. -/
def page : Exchange → List Record
  | fetch _ _ (.ok page) => page
  | _ => []

/-- The failure of a fetch. -/
def failure? : Exchange → Option SearchError
  | fetch _ _ (.error e) => some e
  | _ => none

/-- All records that fetches have got, in order. -/
def received (exchanges : List Exchange) : List Record :=
  exchanges.flatMap page

def failures (exchanges : List Exchange) : List SearchError :=
  exchanges.filterMap failure?

/-- A fetch of the page that a query shows, under a statement that ends with the window of the
page. -/
def Asks (x : Exchange) (q : Query) (sorted : Bool) : Prop :=
  ∃ w answer, q.window = some w ∧
    x = fetch (q.matchText ++ fetchReturn ++ q.orderText sorted ++ w.render) q.parameters answer

theorem received_append (xs ys : List Exchange) :
    received (xs ++ ys) = received xs ++ received ys :=
  List.flatMap_append

theorem failures_append (xs ys : List Exchange) :
    failures (xs ++ ys) = failures xs ++ failures ys :=
  List.filterMap_append

end Exchange

/-- The state of a session together with what it was asked and has answered, in order. -/
structure Recorded (σ : Type) where
  state : σ
  exchanges : List Exchange := []

def Session.recorded {σ : Type} (session : Session σ) : Session (Recorded σ) where
  fetch r statement parameters :=
    let (answer, state) := session.fetch r.state statement parameters
    (answer, ⟨state, r.exchanges ++ [.fetch statement parameters answer]⟩)
  count r statement parameters :=
    let (answer, state) := session.count r.state statement parameters
    (answer, ⟨state, r.exchanges ++ [.count statement parameters answer]⟩)

theorem Session.recorded_fetch {σ : Type} {session : Session σ} {r r' : Recorded σ}
    {statement : String} {parameters : Dictionary Value} {answer : Except SearchError (List Record)}
    (h : session.recorded.fetch r statement parameters = (answer, r')) :
    r'.exchanges = r.exchanges ++ [.fetch statement parameters answer] := by
  simp only [recorded, Prod.mk.injEq] at h
  obtain ⟨rfl, rfl⟩ := h
  rfl

/-! ### Calls on a stream -/

/-- A call on one stream. -/
inductive StreamCall where
  | hasNext
  | tryNext
  | next
  | close
deriving DecidableEq

namespace StreamCall

variable {α : Type}

/-- What a call returns when there are no more records. -/
def ended : StreamCall → Reply α
  | hasNext => .ready (.ok false)
  | tryNext => .tried (.error .exhausted)
  | next => .item none
  | close => .done

/-- What a call returns when the session fails. -/
def failed (e : SearchError) : StreamCall → Reply α
  | hasNext => .ready (.error e)
  | tryNext => .tried (.error e)
  | next => .item (some (.error e))
  | close => .done

/-- What a call returns when there is a record. -/
def handing (map : Record → Except SearchError α) (record : Record) : StreamCall → Reply α
  | hasNext => .ready (.ok true)
  | tryNext => .tried (map record)
  | next => .item (some (map record))
  | close => .done

end StreamCall

/-- The reply with its record mapped. -/
def Reply.through {α : Type} (map : Record → Except SearchError α) : Reply Record → Reply α
  | opened stream => opened stream
  | ready answer => ready answer
  | item answer => item (answer.map fun record => record >>= map)
  | tried answer => tried (answer >>= map)
  | done => done

/-- The record that a call has got. -/
def Reply.record? : Reply Record → Option Record
  | item (some (.ok record)) => some record
  | tried (.ok record) => some record
  | _ => none

theorem StreamCall.record?_ended (c : StreamCall) : (c.ended : Reply Record).record? = none := by
  cases c <;> rfl

theorem StreamCall.record?_failed (c : StreamCall) (e : SearchError) :
    (c.failed e : Reply Record).record? = none := by
  cases c <;> rfl

/-- All records that calls have got, in order. -/
def handedOut (replies : List (Reply Record)) : List Record :=
  replies.filterMap Reply.record?

namespace ResultStream

variable {σ α : Type}

/-- One call. -/
def call (session : Session σ) (map : Record → Except SearchError α) (c : StreamCall) (state : σ)
    (s : ResultStream) : Reply α × ResultStream × σ :=
  match c with
  | .hasNext =>
    let (answer, s, state) := s.hasNext session state
    (.ready answer, s, state)
  | .tryNext =>
    let (answer, s, state) := s.tryNext session map state
    (.tried answer, s, state)
  | .next =>
    let (answer, s, state) := s.next session map state
    (.item answer, s, state)
  | .close => (.done, s.close, state)

/-- Calls one after the other, with all that they return. -/
def calls (session : Session σ) (map : Record → Except SearchError α) (cs : List StreamCall)
    (state : σ) (s : ResultStream) : List (Reply α) × ResultStream × σ :=
  match cs with
  | [] => ([], s, state)
  | c :: rest =>
    let (reply, s, state) := s.call session map c state
    let (replies, s, state) := s.calls session map rest state
    (reply :: replies, s, state)

/-! ### Looking ahead -/

section Look

variable {session : Session σ} {state : σ} {s : ResultStream}

/-- All that asking for another record can do: the answer, the stream and the session after it. -/
inductive LooksAhead (session : Session σ) (state : σ) (s : ResultStream) :
    Except SearchError Bool × ResultStream × σ → Prop where
  | ended (hstate : s.state = .exhausted) : LooksAhead session state s (.ok false, s, state)
  | kept (hstate : s.state = .fetching) {record : Record} {rest : List Record}
      (hpage : s.page = record :: rest) : LooksAhead session state s (.ok true, s, state)
  | usedUp (hstate : s.state ≠ .exhausted) (hpage : s.page = [])
      (hstop : s.closed = true ∨ s.query.window = none) :
      LooksAhead session state s (.ok false, s.exhaust, state)
  | received (hstate : s.state ≠ .exhausted) (hpage : s.page = []) {w : Window}
      (hwindow : s.query.window = some w) {page : List Record} {state' : σ}
      (hfetch : session.fetch state s.statement s.query.parameters = (.ok page, state')) :
      LooksAhead session state s (.ok !page.isEmpty, s.receive page, state')
  | failed (hstate : s.state ≠ .exhausted) (hpage : s.page = []) {w : Window}
      (hwindow : s.query.window = some w) {e : SearchError} {state' : σ}
      (hfetch : session.fetch state s.statement s.query.parameters = (.error e, state')) :
      LooksAhead session state s (.error e, s.exhaust, state')

theorem hasNext_of_fetchPage_error {s' : ResultStream} {state' : σ} {e : SearchError}
    (hstate : s.state ≠ .exhausted) (hpage : s.page = [])
    (hfetch : s.fetchPage session state = (.error e, s', state')) :
    s.hasNext session state = (.error e, s', state') := by
  rw [hasNext, hpage]
  cases hs : s.state with
  | unstarted => simp only [hfetch]
  | fetching => simp only [hfetch]
  | exhausted => exact absurd hs hstate

variable (session state) in
theorem looksAhead_hasNext (hfresh : s.state ≠ .fetching → s.page = []) :
    LooksAhead session state s (s.hasNext session state) := by
  by_cases hexhausted : s.state = .exhausted
  · rw [hasNext_of_exhausted hexhausted]
    exact .ended hexhausted
  · cases hpage : s.page with
    | cons record rest =>
        have hfetching : s.state = .fetching := by
          by_contra hstate
          rw [hfresh hstate] at hpage
          exact absurd hpage (by simp)
        rw [hasNext_of_page hfetching hpage]
        exact .kept hfetching hpage
    | nil =>
        by_cases hstop : (s.closed || s.query.window.isNone) = true
        · have hfetch : s.fetchPage session state = (.ok (), s.exhaust, state) := by
            rw [fetchPage, if_pos hstop]
          rw [hasNext_of_fetchPage hexhausted hpage hfetch]
          exact .usedUp hexhausted hpage (by simpa using hstop)
        · have hleft : s.query.window ≠ none := fun hnone => hstop (by simp [hnone])
          obtain ⟨w, hwindow⟩ := Option.ne_none_iff_exists'.mp hleft
          rcases hanswer : session.fetch state s.statement s.query.parameters with
            ⟨e | page, state'⟩
          · have hfetch : s.fetchPage session state = (.error e, s.exhaust, state') := by
              rw [fetchPage, if_neg hstop, hanswer]
            rw [hasNext_of_fetchPage_error hexhausted hpage hfetch]
            exact .failed hexhausted hpage hwindow hanswer
          · have hfetch : s.fetchPage session state = (.ok (), s.receive page, state') := by
              rw [fetchPage, if_neg hstop, hanswer]
            have hlook := LooksAhead.received hexhausted hpage hwindow hanswer
            rw [hasNext_of_fetchPage hexhausted hpage hfetch]
            cases page with
            | nil => exact hlook
            | cons record rest => exact hlook

end Look

/-! ### Streams that keep to a query -/

end ResultStream

/-- The query on another page. -/
def Query.onPage (q : Query) (page : Nat) : Query :=
  { q with paging := q.paging.atPage page }

namespace ResultStream

/-- A stream of a query after some fetches. -/
structure Follows (q : Query) (sorted : Bool) (fetches : List Exchange) (s : ResultStream) :
    Prop where
  order : s.sorted = sorted
  query : s.query = q.onPage s.pageNumber
  /-- Each fetch has asked for the page after that of the fetch before. -/
  asked : ∀ (k : Nat) (x : Exchange), fetches[k]? = some x →
    x.Asks (q.onPage (q.paging.page + k)) sorted
  /-- Only a stream on a page has records left over. -/
  page_eq_nil : s.state ≠ .fetching → s.page = []
  closed : s.closed = true → s.state = .exhausted
  pageNumber : s.state ≠ .exhausted → s.pageNumber = q.paging.page + fetches.length
  /-- A failure ends the stream. -/
  unfailed : s.state ≠ .exhausted → Exchange.failures fetches = []

/-- How an answer about another record fits the stream after it and the fetches made for it. -/
inductive Tells (s : ResultStream) (fetches : List Exchange) : Except SearchError Bool → Prop where
  | record (hstate : s.state = .fetching) (hpage : s.page ≠ [])
      (hfailures : Exchange.failures fetches = []) : Tells s fetches (.ok true)
  | ended (hstate : s.state = .exhausted) (hfailures : Exchange.failures fetches = []) :
      Tells s fetches (.ok false)
  | failed (hstate : s.state = .exhausted) {e : SearchError}
      (hfailures : Exchange.failures fetches = [e]) : Tells s fetches (.error e)

section Follows

variable {session : Session σ} {q : Query} {sorted : Bool} {fetches : List Exchange}
  {s s' : ResultStream} {r r' : Recorded σ} {answer : Except SearchError Bool}

theorem follows_opened (q : Query) (sorted : Bool) (metadata : Dictionary Value) :
    Follows q sorted [] { query := q, sorted := sorted, metadata := metadata } := by
  refine ⟨rfl, rfl, ?_, fun _ => rfl, nofun, fun _ => rfl, ?_⟩
  · intro k x hx
    exact absurd hx (by simp)
  · intro _
    rfl

theorem Follows.asks (h : Follows q sorted fetches s) (hstate : s.state ≠ .exhausted) {w : Window}
    (hwindow : s.query.window = some w) (answer : Except SearchError (List Record)) :
    (Exchange.fetch s.statement s.query.parameters answer).Asks
      (q.onPage (q.paging.page + fetches.length)) sorted := by
  rw [← h.pageNumber hstate, ← h.query]
  refine ⟨w, answer, hwindow, ?_⟩
  rw [statement, Query.fetchStatement, Query.windowText, hwindow, h.order]
  rfl

/-- One more fetch of the next page. -/
theorem Follows.asked_concat (h : Follows q sorted fetches s) {x : Exchange}
    (hx : x.Asks (q.onPage (q.paging.page + fetches.length)) sorted) :
    ∀ (k : Nat) (y : Exchange), (fetches ++ [x])[k]? = some y →
      y.Asks (q.onPage (q.paging.page + k)) sorted := by
  intro k y hy
  rcases Nat.lt_or_ge k fetches.length with hk | hk
  · rw [List.getElem?_append_left hk] at hy
    exact h.asked k y hy
  · obtain ⟨hlt, -⟩ := List.getElem?_eq_some_iff.mp hy
    rw [List.length_append, List.length_singleton] at hlt
    obtain rfl : k = fetches.length := by omega
    rw [List.getElem?_concat_length, Option.some.injEq] at hy
    rwa [← hy]

theorem Follows.exhaust (h : Follows q sorted fetches s) (hpage : s.page = []) :
    Follows q sorted fetches s.exhaust := by
  refine ⟨h.order, h.query, h.asked, fun _ => hpage, fun _ => rfl, ?_, ?_⟩
  · intro hrunning
    exact absurd rfl hrunning
  · intro hrunning
    exact absurd rfl hrunning

theorem Follows.close (h : Follows q sorted fetches s) : Follows q sorted fetches s.close := by
  refine ⟨h.order, h.query, h.asked, fun _ => rfl, fun _ => rfl, ?_, ?_⟩
  · intro hrunning
    exact absurd rfl hrunning
  · intro hrunning
    exact absurd rfl hrunning

theorem Follows.receive (h : Follows q sorted fetches s) (hstate : s.state ≠ .exhausted)
    (hpage : s.page = []) {x : Exchange}
    (hx : x.Asks (q.onPage (q.paging.page + fetches.length)) sorted) (hfailure : x.failure? = none)
    (page : List Record) : Follows q sorted (fetches ++ [x]) (s.receive page) := by
  have hnumber : s.pageNumber + 1 = q.paging.page + (fetches ++ [x]).length := by
    rw [h.pageNumber hstate, List.length_append, List.length_singleton, Nat.add_assoc]
  have hquery : s.query.nextPage = q.onPage (s.pageNumber + 1) := by
    rw [h.query]
    rfl
  have hunfailed : Exchange.failures (fetches ++ [x]) = [] := by
    rw [Exchange.failures_append, h.unfailed hstate, Exchange.failures]
    simp [hfailure]
  have hopen : s.closed ≠ true := fun hclosed => hstate (h.closed hclosed)
  cases page with
  | nil =>
      exact ⟨h.order, hquery, h.asked_concat hx, fun _ => hpage, fun _ => rfl, fun _ => hnumber,
        fun _ => hunfailed⟩
  | cons record rest =>
      exact ⟨h.order, hquery, h.asked_concat hx, fun hrunning => absurd rfl hrunning,
        fun hclosed => absurd hclosed hopen, fun _ => hnumber, fun _ => hunfailed⟩

theorem Follows.fail (h : Follows q sorted fetches s) (hpage : s.page = []) {x : Exchange}
    (hx : x.Asks (q.onPage (q.paging.page + fetches.length)) sorted) :
    Follows q sorted (fetches ++ [x]) s.exhaust := by
  refine ⟨h.order, h.query, h.asked_concat hx, fun _ => hpage, fun _ => rfl, ?_, ?_⟩
  · intro hrunning
    exact absurd rfl hrunning
  · intro hrunning
    exact absurd rfl hrunning

/-- What looking ahead asks of the session, and where it leaves the stream. -/
structure Looked (q : Query) (sorted : Bool) (fetches : List Exchange) (s : ResultStream)
    (more : List Exchange) (answer : Except SearchError Bool) (s' : ResultStream) : Prop where
  follows : Follows q sorted (fetches ++ more) s'
  atMostOne : more.length ≤ 1
  quiet : s.page ≠ [] ∨ s.state = .exhausted → more = []
  page : s'.page = s.page ++ Exchange.received more
  closed : s'.closed = s.closed
  tells : s'.Tells more answer
  /-- A stream that ends without a fetch has no further page. -/
  ends : more = [] → s'.state = .exhausted → s.state = .exhausted ∨ s.query.window = none

theorem Follows.exists_looked (h : Follows q sorted fetches s)
    (hlook : LooksAhead session.recorded r s (answer, s', r')) :
    ∃ more, r'.exchanges = r.exchanges ++ more ∧ Looked q sorted fetches s more answer s' := by
  have hask (hstate : s.state ≠ .exhausted) (hpage : s.page = []) (more : List Exchange) :
      s.page ≠ [] ∨ s.state = .exhausted → more = [] := by
    rintro (hleft | hended)
    · exact absurd hpage hleft
    · exact absurd hended hstate
  cases hlook with
  | ended hstate =>
      have hpage : s.page = [] := h.page_eq_nil (by rw [hstate]; decide)
      refine ⟨[], (List.append_nil _).symm, ?_, Nat.zero_le 1, fun _ => rfl,
        (List.append_nil _).symm, rfl, .ended hstate rfl, fun _ hended => Or.inl hended⟩
      rwa [List.append_nil]
  | kept hstate hpage =>
      refine ⟨[], (List.append_nil _).symm, ?_, Nat.zero_le 1, fun _ => rfl,
        (List.append_nil _).symm, rfl, .record hstate (by simp [hpage]) rfl,
        fun _ hended => Or.inl hended⟩
      rwa [List.append_nil]
  | usedUp hstate hpage hstop =>
      refine ⟨[], (List.append_nil _).symm, ?_, Nat.zero_le 1, fun _ => rfl,
        (List.append_nil _).symm, rfl, .ended rfl rfl, fun _ _ => ?_⟩
      · rw [List.append_nil]
        exact h.exhaust hpage
      · exact Or.inr (hstop.resolve_left fun hclosed => hstate (h.closed hclosed))
  | @received hstate hpage w hwindow page state' hfetch =>
      have hfollows := h.receive hstate hpage (h.asks hstate hwindow (.ok page)) rfl page
      refine ⟨[.fetch s.statement s.query.parameters (.ok page)], Session.recorded_fetch hfetch, ?_⟩
      cases page with
      | nil =>
          refine ⟨hfollows, Nat.le_refl 1, hask hstate hpage _, ?_, rfl, .ended rfl rfl, nofun⟩
          rw [hpage]
          exact hpage
      | cons record rest =>
          refine ⟨hfollows, Nat.le_refl 1, hask hstate hpage _, ?_, rfl,
            .record rfl (List.cons_ne_nil _ _) rfl, nofun⟩
          rw [hpage]
          exact (List.append_nil (record :: rest)).symm
  | @failed hstate hpage w hwindow e state' hfetch =>
      refine ⟨[.fetch s.statement s.query.parameters (.error e)], Session.recorded_fetch hfetch,
        h.fail hpage (h.asks hstate hwindow _), Nat.le_refl 1, hask hstate hpage _, ?_, rfl,
        .failed rfl rfl, nofun⟩
      rw [hpage]
      exact hpage

variable (session) in
/-- Looking ahead on a stream that keeps to a query. -/
theorem Follows.exists_hasNext (h : Follows q sorted fetches s) (r : Recorded σ) :
    ∃ more answer s' r', s.hasNext session.recorded r = (answer, s', r') ∧
      r'.exchanges = r.exchanges ++ more ∧ Looked q sorted fetches s more answer s' := by
  have hlook := looksAhead_hasNext session.recorded r h.page_eq_nil
  rcases hready : s.hasNext session.recorded r with ⟨answer, s', r'⟩
  rw [hready] at hlook
  obtain ⟨more, hlog, hlooked⟩ := h.exists_looked hlook
  exact ⟨more, answer, s', r', rfl, hlog, hlooked⟩

theorem Tells.exhausted (h : Tells s fetches answer) (hpage : s.page = []) :
    s.state = .exhausted := by
  cases h with
  | record _ hleft => exact absurd hpage hleft
  | ended hstate => exact hstate
  | failed hstate => exact hstate

/-- A stream whose records have been handed out asks for the next page, if there is one. -/
theorem Looked.more_ne_nil {more : List Exchange} (h : Looked q sorted fetches s more answer s')
    (hstate : s.state ≠ .exhausted) (hpage : s.page = []) (hwindow : s.query.window ≠ none) :
    more ≠ [] := by
  rintro rfl
  have hempty : s'.page = [] := by
    rw [h.page, hpage]
    rfl
  rcases h.ends rfl (h.tells.exhausted hempty) with hended | hnone
  · exact hstate hended
  · exact hwindow hnone

/-- Only the last fetch of a stream may have got no records, and then the stream has ended. -/
def Fed (fetches : List Exchange) (s : ResultStream) : Prop :=
  ∀ (k : Nat) (x : Exchange), fetches[k]? = some x → x.page = [] →
    k + 1 = fetches.length ∧ s.state = .exhausted

theorem Fed.looked {more : List Exchange} (h : Fed fetches s) (hs : Follows q sorted fetches s)
    (hlooked : Looked q sorted fetches s more answer s') : Fed (fetches ++ more) s' := by
  intro k x hx hempty
  rcases Nat.lt_or_ge k fetches.length with hk | hk
  · -- The stream had ended before, so that nothing more is fetched.
    rw [List.getElem?_append_left hk] at hx
    obtain ⟨hlast, hstate⟩ := h k x hx hempty
    have hnothing : more = [] := hlooked.quiet (Or.inr hstate)
    have hpage : s.page = [] := hs.page_eq_nil (by rw [hstate]; decide)
    subst hnothing
    refine ⟨by rwa [List.append_nil], hlooked.tells.exhausted ?_⟩
    rw [hlooked.page, hpage]
    rfl
  · -- The only new fetch leaves the stream without a record.
    rw [List.getElem?_append_right hk] at hx
    obtain ⟨hlt, rfl⟩ := List.getElem?_eq_some_iff.mp hx
    have hone : more.length = 1 :=
      Nat.le_antisymm hlooked.atMostOne (Nat.lt_of_le_of_lt (Nat.zero_le _) hlt)
    have hlast : k + 1 = (fetches ++ more).length := by
      rw [List.length_append]
      omega
    obtain ⟨y, rfl⟩ := List.length_eq_one_iff.mp hone
    have hpage : s.page = [] := by
      by_contra hleft
      exact absurd (hlooked.quiet (Or.inl hleft)) (List.cons_ne_nil _ _)
    refine ⟨hlast, hlooked.tells.exhausted ?_⟩
    rw [List.getElem_singleton] at hempty
    rw [hlooked.page, hpage, Exchange.received, List.flatMap_singleton]
    exact hempty

end Follows

/-! ### The effect of a call -/

section Effect

variable {session : Session σ} {state state' : σ} {q : Query} {sorted : Bool}
  {fetches more : List Exchange} {s s' : ResultStream} {map : Record → Except SearchError α}

/-- A call on a stream with a record in front. -/
theorem call_of_record (hready : s.hasNext session state = (.ok true, s', state'))
    (hstate : s'.state = .fetching) {record : Record} {rest : List Record}
    (hpage : s'.page = record :: rest) {c : StreamCall} (hc : c = .tryNext ∨ c = .next) :
    s.call session map c state = (c.handing map record, { s' with page := rest }, state') := by
  rcases hc with rfl | rfl
  · simp only [call, tryNext, hready, hpage, StreamCall.handing]
  · simp only [call, next, hready, tryNext, hasNext_of_page hstate hpage, hpage,
      StreamCall.handing]

/-- A call on a stream without further records. -/
theorem call_of_ended (hready : s.hasNext session state = (.ok false, s', state')) {c : StreamCall}
    (hc : c ≠ .close) : s.call session map c state = (c.ended, s', state') := by
  cases c with
  | hasNext => simp only [call, hready, StreamCall.ended]
  | tryNext => simp only [call, tryNext, hready, StreamCall.ended]
  | next => simp only [call, next, hready, StreamCall.ended]
  | close => exact absurd rfl hc

/-- A call for which the session fails. -/
theorem call_of_failed {e : SearchError} (hready : s.hasNext session state = (.error e, s', state'))
    {c : StreamCall} (hc : c ≠ .close) :
    s.call session map c state = (c.failed e, s', state') := by
  cases c with
  | hasNext => simp only [call, hready, StreamCall.failed]
  | tryNext => simp only [call, tryNext, hready, StreamCall.failed]
  | next => simp only [call, next, hready, StreamCall.failed]
  | close => exact absurd rfl hc

/-- What a call returns, given the stream after it and the fetches made for it. -/
inductive Returns (map : Record → Except SearchError α) (c : StreamCall) (s : ResultStream)
    (fetches : List Exchange) : Reply α → Prop where
  | record (record : Record) (hfailures : Exchange.failures fetches = []) :
      Returns map c s fetches (c.handing map record)
  | ended (hstate : s.state = .exhausted) (hfailures : Exchange.failures fetches = []) :
      Returns map c s fetches c.ended
  | failed (hstate : s.state = .exhausted) {e : SearchError}
      (hfailures : Exchange.failures fetches = [e]) : Returns map c s fetches (c.failed e)

/-- What a call does to a stream whose mapper leaves records as they are. -/
structure Effect (q : Query) (sorted : Bool) (fetches : List Exchange) (c : StreamCall)
    (s : ResultStream) (more : List Exchange) (reply : Reply Record) (s' : ResultStream) :
    Prop where
  follows : Follows q sorted (fetches ++ more) s'
  atMostOne : more.length ≤ 1
  quiet : s.page ≠ [] ∨ s.state = .exhausted ∨ c = .close → more = []
  closed : s'.closed = true ↔ s.closed = true ∨ c = .close
  page : c ≠ .close → s.page ++ Exchange.received more = reply.record?.toList ++ s'.page
  page_of_close : c = .close → reply.record? = none ∧ s'.page = []
  returns : Returns .ok c s' more reply

theorem Follows.handOut (h : Follows q sorted fetches s) (hstate : s.state = .fetching)
    (rest : List Record) : Follows q sorted fetches { s with page := rest } :=
  ⟨h.order, h.query, h.asked, fun hidle => absurd hstate hidle, h.closed, h.pageNumber,
    h.unfailed⟩

variable (session) in
theorem Follows.exists_effect (h : Follows q sorted fetches s) (c : StreamCall) (r : Recorded σ) :
    ∃ more reply s' r', s.call session.recorded .ok c r = (reply, s', r') ∧
      r'.exchanges = r.exchanges ++ more ∧ Effect q sorted fetches c s more reply s' := by
  by_cases hclose : c = .close
  · subst hclose
    refine ⟨[], .done, s.close, r, rfl, (List.append_nil _).symm, ?_, Nat.zero_le 1, fun _ => rfl,
      ⟨fun _ => Or.inr rfl, fun _ => rfl⟩, fun hother => absurd rfl hother, fun _ => ⟨rfl, rfl⟩,
      .ended rfl rfl⟩
    rw [List.append_nil]
    exact h.close
  · obtain ⟨more, answer, s', r', hready, hlog, hlooked⟩ := h.exists_hasNext session r
    have hquiet : s.page ≠ [] ∨ s.state = .exhausted ∨ c = .close → more = [] := by
      rintro (hpage | hended | hc)
      · exact hlooked.quiet (.inl hpage)
      · exact hlooked.quiet (.inr hended)
      · exact absurd hc hclose
    have hclosed : s'.closed = true ↔ s.closed = true ∨ c = .close := by
      rw [hlooked.closed]
      exact ⟨Or.inl, fun hor => hor.resolve_right hclose⟩
    cases hlooked.tells with
    | record hstate hpage hfailures =>
        obtain ⟨record, rest, hfront⟩ := List.exists_cons_of_ne_nil hpage
        by_cases hask : c = .hasNext
        · subst hask
          refine ⟨more, .ready (.ok true), s', r', by simp only [call, hready], hlog,
            hlooked.follows, hlooked.atMostOne, hquiet, hclosed, fun _ => hlooked.page.symm,
            fun hc => absurd hc hclose, ?_⟩
          exact .record (c := .hasNext) record hfailures
        · have htake : c = .tryNext ∨ c = .next := by
            cases c <;> simp_all
          refine ⟨more, _, _, r', call_of_record hready hstate hfront htake, hlog,
            hlooked.follows.handOut hstate rest, hlooked.atMostOne, hquiet, hclosed, ?_,
            fun hc => absurd hc hclose, .record record hfailures⟩
          intro _
          rw [← hlooked.page, hfront]
          rcases htake with rfl | rfl <;> rfl
    | ended hstate hfailures =>
        refine ⟨more, _, s', r', call_of_ended hready hclose, hlog, hlooked.follows,
          hlooked.atMostOne, hquiet, hclosed, ?_, fun hc => absurd hc hclose,
          .ended hstate hfailures⟩
        intro _
        rw [c.record?_ended, hlooked.page]
        rfl
    | failed hstate hfailures =>
        refine ⟨more, _, s', r', call_of_failed hready hclose, hlog, hlooked.follows,
          hlooked.atMostOne, hquiet, hclosed, ?_, fun hc => absurd hc hclose,
          .failed hstate hfailures⟩
        intro _
        rw [c.record?_failed, hlooked.page]
        rfl

end Effect

/-! ### Mapped records -/

section Mapped

variable (session : Session σ) (map : Record → Except SearchError α)

theorem tryNext_eq_bind (state : σ) (s : ResultStream) :
    s.tryNext session map state =
      ((s.tryNext session .ok state).1 >>= map, (s.tryNext session .ok state).2) := by
  rw [tryNext, tryNext]
  rcases s.hasNext session state with ⟨_ | _ | _, s', state'⟩
  · rfl
  · rfl
  · dsimp only
    rcases hpage : s'.page with _ | ⟨record, rest⟩
    · rfl
    · rfl

theorem next_eq_map_bind (state : σ) (s : ResultStream) :
    s.next session map state =
      ((s.next session .ok state).1.map fun item => item >>= map,
        (s.next session .ok state).2) := by
  rw [next, next]
  rcases s.hasNext session state with ⟨_ | _ | _, s', state'⟩
  · rfl
  · rfl
  · dsimp only
    rw [tryNext_eq_bind session map]
    rfl

/-- The mapper has no part in what a call does to the stream and the session. -/
theorem call_eq_through (c : StreamCall) (state : σ) (s : ResultStream) :
    s.call session map c state =
      ((s.call session .ok c state).1.through map, (s.call session .ok c state).2) := by
  cases c with
  | hasNext => rfl
  | close => rfl
  | tryNext =>
      rw [call, call, tryNext_eq_bind session map]
      rfl
  | next =>
      rw [call, call, next_eq_map_bind session map]
      rfl

theorem calls_eq_through (cs : List StreamCall) (state : σ) (s : ResultStream) :
    s.calls session map cs state =
      ((s.calls session .ok cs state).1.map (Reply.through map),
        (s.calls session .ok cs state).2) := by
  induction cs generalizing state s with
  | nil => rfl
  | cons c rest ih =>
      simp only [calls, call_eq_through session map c state s, ih]
      rfl

theorem returns_through {c : StreamCall} {s : ResultStream} {fetches : List Exchange}
    {reply : Reply Record} (h : Returns .ok c s fetches reply) :
    Returns map c s fetches (reply.through map) := by
  cases h with
  | record record hfailures =>
      have hreply : (c.handing .ok record).through map = c.handing map record := by
        cases c <;> rfl
      rw [hreply]
      exact .record record hfailures
  | ended hstate hfailures =>
      have hreply : (c.ended : Reply Record).through map = c.ended := by
        cases c <;> rfl
      rw [hreply]
      exact .ended hstate hfailures
  | @failed hstate e hfailures =>
      have hreply : (c.failed e : Reply Record).through map = c.failed e := by
        cases c <;> rfl
      rw [hreply]
      exact .failed hstate hfailures

end Mapped

/-! ### Runs -/

section Run

variable {session : Session σ} {q : Query} {sorted : Bool} {fetches : List Exchange}
  {s : ResultStream} {state : σ} {map : Record → Except SearchError α}

variable (session map state) in
theorem exists_call_of_exhausted (h : s.state = .exhausted) (c : StreamCall) :
    ∃ s', s.call session map c state = (c.ended, s', state) ∧ s'.state = .exhausted := by
  cases c with
  | close => exact ⟨s.close, rfl, rfl⟩
  | _ => exact ⟨s, call_of_ended (hasNext_of_exhausted h) (by decide), h⟩

variable (session map state) in
/-- When a stream has ended, nothing is asked any more. -/
theorem exists_calls_of_exhausted (h : s.state = .exhausted) (cs : List StreamCall) :
    ∃ s', s.calls session map cs state = (cs.map StreamCall.ended, s', state) ∧
      s'.state = .exhausted := by
  induction cs generalizing s with
  | nil => exact ⟨s, rfl, h⟩
  | cons c rest ih =>
      obtain ⟨s₁, hcall, hs₁⟩ := exists_call_of_exhausted session state map h c
      obtain ⟨s₂, hcalls, hs₂⟩ := ih hs₁
      refine ⟨s₂, ?_, hs₂⟩
      simp only [calls, hcall, hcalls, List.map_cons]

theorem handedOut_cons (reply : Reply Record) (replies : List (Reply Record)) :
    handedOut (reply :: replies) = reply.record?.toList ++ handedOut replies := by
  rw [handedOut, List.filterMap_cons]
  cases reply.record? <;> rfl

theorem handedOut_map_ended (cs : List StreamCall) : handedOut (cs.map StreamCall.ended) = [] := by
  rw [handedOut, List.filterMap_map, List.filterMap_eq_nil_iff]
  intro c _
  exact c.record?_ended

variable (session) in
/-- What calls on a stream do to it, if its mapper leaves records as they are. The records handed
out come first among those left over and those received; unless the stream is closed, the others are
left over. -/
theorem Follows.exists_calls (h : Follows q sorted fetches s) (cs : List StreamCall)
    (r : Recorded σ) :
    ∃ more replies s' r', s.calls session.recorded .ok cs r = (replies, s', r') ∧
      r'.exchanges = r.exchanges ++ more ∧ Follows q sorted (fetches ++ more) s' ∧
      (s'.closed = true ↔ s.closed = true ∨ .close ∈ cs) ∧
      handedOut replies <+: s.page ++ Exchange.received more ∧
      (s'.closed = false → s.page ++ Exchange.received more = handedOut replies ++ s'.page) := by
  induction cs generalizing s r fetches with
  | nil =>
      refine ⟨[], [], s, r, rfl, (List.append_nil _).symm, ?_, by simp, List.nil_prefix, ?_⟩
      · rwa [List.append_nil]
      · intro _
        exact List.append_nil _
  | cons c rest ih =>
      obtain ⟨more₁, reply, s₁, r₁, hcall, hlog₁, heffect⟩ :=
        h.exists_effect session c r
      obtain ⟨more₂, replies, s₂, r₂, hcalls, hlog₂, hfollows, hclosed, hhanded, hleft⟩ :=
        ih heffect.follows r₁
      have hrun : s.calls session.recorded .ok (c :: rest) r = (reply :: replies, s₂, r₂) := by
        simp only [calls, hcall, hcalls]
      have hclosed' : s₂.closed = true ↔ s.closed = true ∨ .close ∈ c :: rest := by
        rw [hclosed, heffect.closed, List.mem_cons, or_assoc, eq_comm (a := c)]
      refine ⟨more₁ ++ more₂, reply :: replies, s₂, r₂, hrun, ?_, ?_, hclosed', ?_, ?_⟩
      · rw [hlog₂, hlog₁, List.append_assoc]
      · rwa [← List.append_assoc]
      all_goals by_cases hc : c = .close
      · obtain ⟨hnothing, -⟩ := heffect.page_of_close hc
        have hended : s₁.state = .exhausted :=
          heffect.follows.closed (heffect.closed.mpr (Or.inr hc))
        obtain ⟨s₃, hsilent, -⟩ := exists_calls_of_exhausted session.recorded r₁ .ok hended rest
        obtain rfl : replies = rest.map StreamCall.ended := by
          rw [hcalls] at hsilent
          exact (Prod.mk.inj hsilent).1
        rw [handedOut_cons, hnothing, handedOut_map_ended]
        exact List.nil_prefix
      · rw [handedOut_cons, Exchange.received_append, ← List.append_assoc, heffect.page hc,
          List.append_assoc]
        exact (List.prefix_append_right_inj _).mpr hhanded
      · intro hopen
        rw [hclosed'.mpr (Or.inr (hc ▸ List.mem_cons_self))] at hopen
        exact absurd hopen (by decide)
      · intro hopen
        rw [handedOut_cons, Exchange.received_append, ← List.append_assoc, heffect.page hc,
          List.append_assoc, List.append_assoc, hleft hopen]

end Run

end ResultStream

/-- A stream is safe against every session and every order of calls. A call fetches at most one
page, and none while records are left over or after the end; it returns the failure of its own
fetch, and no other. The fetches show one page of the query after the other, sorted as the
stream is, each under a window. What the mapper gets is the same whatever it returns, and comes
first among the records received. Behind the end, a failure or a closing there is nothing but the
end. -/
theorem stream_calls_safe {σ α : Type} (session : Session σ) (map : Record → Except SearchError α)
    (state : σ) (q : Query) (sorted : Bool) (metadata : Dictionary Value)
    (before : List StreamCall) (c : StreamCall) :
    let stream : ResultStream := { query := q, sorted := sorted, metadata := metadata }
    ∃ replies s r reply s' r' more,
      stream.calls session.recorded map before ⟨state, []⟩ = (replies, s, r) ∧
      s.call session.recorded map c r = (reply, s', r') ∧
      r'.exchanges = r.exchanges ++ more ∧
      (more.length ≤ 1 ∧
        (s.page ≠ [] ∨ s.state = .exhausted ∨ .close ∈ before ∨ c = .close → more = [])) ∧
      (∀ (k : Nat) (x : Exchange), r'.exchanges[k]? = some x →
        x.Asks (q.onPage (q.paging.page + k)) sorted) ∧
      (∃ plain, stream.calls session.recorded .ok before ⟨state, []⟩ = (plain, s, r) ∧
        replies = plain.map (Reply.through map) ∧
        handedOut plain <+: Exchange.received r.exchanges ∧
        (s.closed = false → Exchange.received r.exchanges = handedOut plain ++ s.page)) ∧
      ResultStream.Returns map c s' more reply ∧
      (s'.state = .exhausted ∨ Exchange.failures r'.exchanges ≠ [] ∨ .close ∈ before ∨ c = .close →
        ∀ after, ∃ s'',
          s'.calls session.recorded map after r' = (after.map StreamCall.ended, s'', r')) := by
  intro stream
  have hopened := ResultStream.follows_opened q sorted metadata
  obtain ⟨fetched, plain, s, r, hcalls, hlog, hfollows, hclosed, hhanded, hleft⟩ :=
    hopened.exists_calls session before ⟨state, []⟩
  obtain ⟨more, reply, s', r', hcall, hlog', heffect⟩ :=
    hfollows.exists_effect session c r
  rw [List.nil_append] at hlog hfollows heffect
  subst hlog
  have hcloses : .close ∈ before → s.closed = true := fun h => hclosed.mpr (Or.inr h)
  refine ⟨plain.map (Reply.through map), s, r, reply.through map, s', r', more, ?_, ?_, hlog',
    ⟨heffect.atMostOne, ?_⟩, ?_, ⟨plain, hcalls, rfl, hhanded, hleft⟩,
    ResultStream.returns_through map heffect.returns, ?_⟩
  · rw [ResultStream.calls_eq_through, hcalls]
  · rw [ResultStream.call_eq_through, hcall]
  · rintro (hpage | hended | hbefore | hc)
    · exact heffect.quiet (.inl hpage)
    · exact heffect.quiet (.inr (.inl hended))
    · exact heffect.quiet (.inr (.inl (hfollows.closed (hcloses hbefore))))
    · exact heffect.quiet (.inr (.inr hc))
  · rw [hlog']
    exact heffect.follows.asked
  · intro hstop after
    have hended : s'.state = .exhausted := by
      rcases hstop with hended | hfailed | hbefore | hc
      · exact hended
      · by_contra hrunning
        rw [hlog'] at hfailed
        exact hfailed (heffect.follows.unfailed hrunning)
      · exact heffect.follows.closed (heffect.closed.mpr (Or.inl (hcloses hbefore)))
      · exact heffect.follows.closed (heffect.closed.mpr (Or.inr hc))
    obtain ⟨s'', hsilent, -⟩ :=
      ResultStream.exists_calls_of_exhausted session.recorded r' map hended after
    exact ⟨s'', hsilent⟩

/-- A session that answers with one page, of which the first record is no node, and then fails. -/
def losesConnection : Session Nat where
  fetch n _ _ :=
    (if n = 0 then .ok [.map [], .node ⟨1, [], []⟩] else .error (.execution "connection lost"),
      n + 1)
  count n _ _ := (.ok 2, n)

theorem stream_calls_safe_losesConnection :
    let stream : ResultStream := { query := .new .node 2, sorted := false }
    let session := losesConnection.recorded
    ∃ s r, stream.calls session Record.asNode [.next, .hasNext, .tryNext, .next] ⟨0, []⟩ =
        ([.item (some (.error (.mapping "expected a node, got map"))), .ready (.ok true),
          .tried (.ok ⟨1, [], []⟩), .item (some (.error (.execution "connection lost")))], s, r) ∧
      r.exchanges.length = 2 ∧
      ∃ s', s.calls session Record.asNode [.next, .close, .tryNext] r =
        ([.item none, .done, .tried (.error .exhausted)], s', r) := by
  intro stream session
  obtain ⟨replies, s, r, reply, s', r', more, hcalls, hcall, -, -, -, -, -, hafter⟩ :=
    stream_calls_safe losesConnection Record.asNode 0 (.new .node 2) false []
      [.next, .hasNext, .tryNext] .next
  -- The run and the call are computed, so that the theorem speaks of their results.
  obtain ⟨rfl, hafterCalls⟩ := Prod.mk.inj hcalls
  obtain ⟨rfl, rfl⟩ := Prod.mk.inj hafterCalls
  obtain ⟨rfl, hafterCall⟩ := Prod.mk.inj hcall
  obtain ⟨rfl, rfl⟩ := Prod.mk.inj hafterCall
  exact ⟨_, _, rfl, rfl, hafter (Or.inl rfl) [.next, .close, .tryNext]⟩

end GraphSearch

import GraphSearch.Proofs.PageWindows
import GraphSearch.Proofs.StreamCalls

/-!
Streams over memory never count further than machine words do.

Windows multiply without a check. A stream whose numbers are machine words, and which stops as soon
as a number leaves their range, is set beside the stream: over memory both do the same. The reason
lies in the run. A page is asked for only after records on the page before, so that there are at most
the rows of one page more before it than there are records.
-/

namespace GraphSearch

/-! ### Streams on machine words

Each operation does what its namesake does, and gives nothing as soon as a number leaves the range
of machine words. -/

/-- The next page, if a machine word can number it. -/
def Paging.next? (p : Paging) : Option Paging :=
  (Word.ofNat? (p.page + 1)).map fun page => { p with page := page.toNat }

def Query.fetchStatement? (q : Query) (sorted : Bool) : Option String :=
  q.paging.window?.map fun window =>
    q.matchText ++ fetchReturn ++ q.orderText sorted ++ (window.map Window.render).getD ""

namespace ResultStream

variable {σ α : Type}

def receive? (s : ResultStream) (page : List Record) : Option ResultStream := do
  let paging ← s.query.paging.next?
  let s := { s with query := { s.query with paging := paging } }
  return if page.isEmpty then s.exhaust else { s with page := page, state := .fetching }

/-- The window is worked out to see whether there is one, and once more for the statement. -/
def fetchPage? (session : Session σ) (state : σ) (s : ResultStream) :
    Option (Except SearchError Unit × ResultStream × σ) := do
  if s.closed then return (.ok (), s.exhaust, state)
  else
    let window ← s.query.paging.window?
    if window.isNone then return (.ok (), s.exhaust, state)
    else
      let statement ← s.query.fetchStatement? s.sorted
      match session.fetch state statement s.query.parameters with
      | (.ok page, state) => return (.ok (), ← s.receive? page, state)
      | (.error e, state) => return (.error e, s.exhaust, state)

def hasNext? (session : Session σ) (state : σ) (s : ResultStream) :
    Option (Except SearchError Bool × ResultStream × σ) :=
  match s.state, s.page with
  | .exhausted, _ => some (.ok false, s, state)
  | .fetching, _ :: _ => some (.ok true, s, state)
  | _, _ =>
    (s.fetchPage? session state).map fun
      | (.ok (), s, state) => (.ok (s.state == .fetching), s, state)
      | (.error e, s, state) => (.error e, s, state)

def tryNext? (session : Session σ) (map : Record → Except SearchError α) (state : σ)
    (s : ResultStream) : Option (Except SearchError α × ResultStream × σ) := do
  match ← s.hasNext? session state with
  | (.error e, s, state) => return (.error e, s, state)
  | (.ok false, s, state) => return (.error .exhausted, s, state)
  | (.ok true, s, state) =>
    match s.page with
    | [] => return (.error .exhausted, s, state)
    | record :: rest => return (map record, { s with page := rest }, state)

def next? (session : Session σ) (map : Record → Except SearchError α) (state : σ)
    (s : ResultStream) : Option (Option (Except SearchError α) × ResultStream × σ) := do
  match ← s.hasNext? session state with
  | (.error e, s, state) => return (some (.error e), s, state)
  | (.ok false, s, state) => return (none, s, state)
  | (.ok true, s, state) =>
    let (item, s, state) ← s.tryNext? session map state
    return (some item, s, state)

def call? (session : Session σ) (map : Record → Except SearchError α) (c : StreamCall) (state : σ)
    (s : ResultStream) : Option (Reply α × ResultStream × σ) :=
  match c with
  | .hasNext => do
    let (answer, s, state) ← s.hasNext? session state
    return (.ready answer, s, state)
  | .tryNext => do
    let (answer, s, state) ← s.tryNext? session map state
    return (.tried answer, s, state)
  | .next => do
    let (answer, s, state) ← s.next? session map state
    return (.item answer, s, state)
  | .close => return (.done, s.close, state)

def calls? (session : Session σ) (map : Record → Except SearchError α) (cs : List StreamCall)
    (state : σ) (s : ResultStream) : Option (List (Reply α) × ResultStream × σ) :=
  match cs with
  | [] => return ([], s, state)
  | c :: rest => do
    let (reply, s, state) ← s.call? session map c state
    let (replies, s, state) ← s.calls? session map rest state
    return (reply :: replies, s, state)

/-- Machine words are enough for the page that the stream may fetch next. -/
def Fits (s : ResultStream) : Prop :=
  s.state ≠ .exhausted → s.query.paging.consumed < UInt64.size ∧ s.pageNumber + 1 < UInt64.size

section Words

variable {session : Session σ} {map : Record → Except SearchError α} {state : σ} {s : ResultStream}

theorem receive?_eq (h : s.pageNumber + 1 < UInt64.size) (page : List Record) :
    s.receive? page = some (s.receive page) := by
  have hnext : s.query.paging.next? = some s.query.paging.next := by
    rw [pageNumber] at h
    rw [Paging.next?, Word.ofNat?_of_lt h, Option.map_some, UInt64.toNat_ofNat_of_lt' h]
    rfl
  rw [receive?, hnext]
  rfl

theorem fetchPage?_eq (h : s.Fits) (hstate : s.state ≠ .exhausted) :
    s.fetchPage? session state = some (s.fetchPage session state) := by
  obtain ⟨hconsumed, hnext⟩ := h hstate
  have hwindow : s.query.paging.window? = some s.query.window :=
    Paging.window?_of_consumed_lt hconsumed
  have hstatement : s.query.fetchStatement? s.sorted = some s.statement := by
    rw [Query.fetchStatement?, hwindow]
    rfl
  rw [fetchPage?, fetchPage, hwindow, hstatement]
  simp only [Option.bind_eq_bind, Option.bind_some, receive?_eq hnext]
  cases s.closed with
  | true => rfl
  | false =>
      cases s.query.window with
      | none => rfl
      | some w => rcases session.fetch state s.statement s.query.parameters with ⟨_ | _, _⟩ <;> rfl

theorem hasNext?_eq (h : s.Fits) :
    s.hasNext? session state = some (s.hasNext session state) := by
  rw [hasNext?, hasNext]
  cases hstate : s.state with
  | exhausted => rfl
  | unstarted =>
      rw [fetchPage?_eq h (by simp [hstate])]
      rfl
  | fetching =>
      cases s.page with
      | cons record rest => rfl
      | nil =>
          rw [fetchPage?_eq h (by simp [hstate])]
          rfl

theorem tryNext?_eq (h : s.Fits) :
    s.tryNext? session map state = some (s.tryNext session map state) := by
  rw [tryNext?, tryNext, hasNext?_eq h]
  rcases s.hasNext session state with ⟨_ | _ | _, s', state'⟩
  · rfl
  · rfl
  · simp only [Option.bind_eq_bind, Option.bind_some]
    cases s'.page <;> rfl

theorem next?_eq (h : s.Fits) (hready : (s.hasNext session state).2.1.Fits) :
    s.next? session map state = some (s.next session map state) := by
  rw [next?, next, hasNext?_eq h]
  rcases hanswer : s.hasNext session state with ⟨_ | _ | _, s', state'⟩
  · rfl
  · rfl
  · rw [hanswer] at hready
    simp only [Option.bind_eq_bind, Option.bind_some, tryNext?_eq hready]
    rfl

variable (map) in
theorem call?_eq (h : s.Fits) (hready : (s.hasNext session state).2.1.Fits) (c : StreamCall) :
    s.call? session map c state = some (s.call session map c state) := by
  cases c with
  | hasNext => rw [call?, call, hasNext?_eq h]; rfl
  | tryNext => rw [call?, call, tryNext?_eq h]; rfl
  | next => rw [call?, call, next?_eq h hready]; rfl
  | close => rfl

end Words

end ResultStream

/-! ### Fetches from memory -/

/-- What was asked of memory has been answered from its records. -/
def Exchange.AnsweredBy (m : Memory) : Exchange → Prop
  | count _ _ answer => answer = .ok m.total
  | fetch statement _ answer => answer = .ok (m.rows statement)

theorem preserves_recorded_memory {m : Memory} (hfailure : m.failure = none) :
    Memory.session.recorded.Preserves fun r =>
      r.state = m ∧ ∀ x ∈ r.exchanges, x.AnsweredBy m := by
  constructor
  · rintro r statement parameters ⟨rfl, hanswered⟩
    refine ⟨Memory.session_fetch_snd r.state statement parameters,
      List.forall_mem_append.mpr ⟨hanswered, List.forall_mem_singleton.mpr ?_⟩⟩
    change (Memory.session.fetch r.state statement parameters).1 = _
    simp only [Memory.session, hfailure]
  · rintro r statement parameters ⟨rfl, hanswered⟩
    refine ⟨Memory.session_count_snd r.state statement parameters,
      List.forall_mem_append.mpr ⟨hanswered, List.forall_mem_singleton.mpr ?_⟩⟩
    change (Memory.session.count r.state statement parameters).1 = _
    simp only [Memory.session, hfailure]

namespace ResultStream

variable {σ α : Type}

theorem good_call {session : Session σ} {good : σ → Prop} (h : session.Preserves good) {state : σ}
    (hstate : good state) (map : Record → Except SearchError α) (s : ResultStream)
    (c : StreamCall) : good (s.call session map c state).2.2 := by
  cases c with
  | hasNext => exact good_hasNext h hstate s
  | tryNext => exact good_tryNext h hstate s
  | next => exact good_next h hstate s
  | close => exact hstate

/-- A call does to the stream what looking ahead does, apart from the record that it takes. -/
theorem Tells.exists_call_eq {session : Session σ} {state state' : σ} {s s' : ResultStream}
    {more : List Exchange} {answer : Except SearchError Bool} (h : Tells s' more answer)
    (hready : s.hasNext session state = (answer, s', state'))
    (map : Record → Except SearchError α) {c : StreamCall} (hc : c ≠ .close) :
    ∃ reply page, s.call session map c state = (reply, { s' with page := page }, state') := by
  cases h with
  | record hstate hpage =>
      obtain ⟨record, rest, hfront⟩ := List.exists_cons_of_ne_nil hpage
      by_cases hask : c = .hasNext
      · subst hask
        exact ⟨.ready (.ok true), s'.page, by rw [call, hready]⟩
      · have htake : c = .tryNext ∨ c = .next := by
          cases c <;> simp_all
        exact ⟨_, rest, call_of_record hready hstate hfront htake⟩
  | ended => exact ⟨_, s'.page, call_of_ended hready hc⟩
  | failed => exact ⟨_, s'.page, call_of_failed hready hc⟩

/-- A stream over memory after some calls. -/
structure Reads (q : Query) (sorted : Bool) (m : Memory) (r : Recorded Memory) (s : ResultStream) :
    Prop where
  follows : Follows q sorted r.exchanges s
  memory : r.state = m
  answered : ∀ x ∈ r.exchanges, x.AnsweredBy m
  fed : Fed r.exchanges s

section Memory

variable {q : Query} {sorted : Bool} {m : Memory} {r r' : Recorded Memory} {s s' : ResultStream}
  {map : Record → Except SearchError α} {reply : Reply α} {k : Nat} {x : Exchange}

theorem Reads.call (h : Reads q sorted m r s) (hfailure : m.failure = none) {c : StreamCall}
    (hcall : s.call Memory.session.recorded map c r = (reply, s', r')) : Reads q sorted m r' s' := by
  have hgood := good_call (preserves_recorded_memory hfailure) ⟨h.memory, h.answered⟩ map s c
  rw [hcall] at hgood
  refine ⟨?_, hgood.1, hgood.2, ?_⟩
  · obtain ⟨more, plain, s₁, r₁, hplain, hlog, heffect⟩ :=
      h.follows.exists_effect Memory.session c r
    rw [call_eq_through, hplain, Prod.mk.injEq, Prod.mk.injEq] at hcall
    obtain ⟨-, rfl, rfl⟩ := hcall
    rw [hlog]
    exact heffect.follows
  · by_cases hclose : c = .close
    · subst hclose
      obtain ⟨-, hstream⟩ := Prod.mk.inj hcall
      obtain ⟨rfl, rfl⟩ := Prod.mk.inj hstream
      intro k x hx hempty
      exact ⟨(h.fed k x hx hempty).1, rfl⟩
    · obtain ⟨more, answer, s₁, r₁, hready, hlog, hlooked⟩ :=
        h.follows.exists_hasNext Memory.session r
      obtain ⟨reply₁, page, hcall₁⟩ := hlooked.tells.exists_call_eq hready map hclose
      obtain ⟨-, hstream⟩ := Prod.mk.inj (hcall.symm.trans hcall₁)
      obtain ⟨rfl, rfl⟩ := Prod.mk.inj hstream
      have hfed : Fed (r.exchanges ++ more) s₁ := h.fed.looked h.follows hlooked
      rw [hlog]
      exact hfed

theorem Reads.hasNext (h : Reads q sorted m r s) (hfailure : m.failure = none) :
    Reads q sorted m (s.hasNext Memory.session.recorded r).2.2
      (s.hasNext Memory.session.recorded r).2.1 := by
  have hcall : s.call Memory.session.recorded Except.ok .hasNext r =
      (.ready (s.hasNext Memory.session.recorded r).1,
        (s.hasNext Memory.session.recorded r).2) := rfl
  exact h.call hfailure hcall

section Counted

variable (h : Reads q sorted m r s) (hfirst : q.paging.page = 0)
  (hlength : m.records.length < 2 ^ 63)

include h hfirst hlength

/-- Each fetch has got the records from the beginning of its page on. -/
theorem Reads.fetch_eq (hx : r.exchanges[k]? = some x) :
    let skip := q.paging.offset.toNat + k * q.paging.size.toNat
    (∀ limit, q.paging.limit = some limit → k * q.paging.size.toNat < limit.toNat) ∧
      x = .fetch (q.matchText ++ fetchReturn ++ q.orderText sorted ++
          Window.render ⟨min skip largestSkip, q.paging.takeOn k⟩) q.parameters
        (.ok ((m.records.drop skip).take (q.paging.takeOn k))) := by
  intro skip
  have hbound : m.records.length ≤ largestSkip :=
    Nat.le_trans (Nat.le_of_lt hlength) (by decide)
  have hasks := h.follows.asked k x hx
  rw [hfirst, Nat.zero_add] at hasks
  obtain ⟨w, answer, hwindow, rfl⟩ := hasks
  obtain ⟨hskip, htake⟩ := Paging.bounds_of_window_eq_some hwindow
  have hanswer := h.answered _ (List.mem_of_getElem? hx)
  rw [Exchange.AnsweredBy, Memory.rows, Memory.windowOf?_append_render _ w hskip htake] at hanswer
  obtain ⟨rfl, hleft⟩ := Paging.of_window_eq_some hwindow
  dsimp only at hanswer
  rw [drop_min_of_length_le hbound] at hanswer
  refine ⟨hleft, ?_⟩
  rw [hanswer]
  rfl

/-- A fetch that has got records has begun before the last one. -/
theorem Reads.lt_length (hx : r.exchanges[k]? = some x) (hpage : x.page ≠ []) :
    q.paging.offset.toNat + k * q.paging.size.toNat < m.records.length := by
  obtain ⟨-, rfl⟩ := h.fetch_eq hfirst hlength hx
  by_contra hbehind
  apply hpage
  rw [Exchange.page, List.drop_eq_nil_of_le (Nat.le_of_not_lt hbehind), List.take_nil]

/-- Machine words count the rows before a page that is asked for. -/
theorem Reads.mul_size_lt (hk : k ≤ r.exchanges.length)
    (hlast : k = r.exchanges.length → s.state ≠ .exhausted) :
    k * q.paging.size.toNat < 2 ^ 64 ∧ k + 1 < 2 ^ 64 := by
  have hbefore : k = 0 ∨ (k - 1) * q.paging.size.toNat < m.records.length := by
    cases k with
    | zero => exact Or.inl rfl
    | succ j =>
        -- The page before was not the last one, so that it had records.
        have hx := List.getElem?_eq_getElem (Nat.lt_of_succ_le hk)
        have hpage : r.exchanges[j].page ≠ [] := by
          intro hempty
          obtain ⟨hj, hstate⟩ := h.fed j _ hx hempty
          exact hlast hj hstate
        have hlt := h.lt_length hfirst hlength hx hpage
        exact Or.inr (Nat.lt_of_le_of_lt (Nat.le_add_left _ _) hlt)
  have hpages := Nat.le_mul_of_pos_right (k - 1) q.paging.size_pos
  exact ⟨mul_lt_of_before q.paging.size.toNat_lt (by omega) hbefore, by omega⟩

theorem Reads.fits : s.Fits := by
  intro hstate
  have hnumber : s.pageNumber = r.exchanges.length := by
    rw [h.follows.pageNumber hstate, hfirst, Nat.zero_add]
  have hconsumed : s.query.paging.consumed = s.pageNumber * q.paging.size.toNat := by
    rw [h.follows.query]
    rfl
  rw [hconsumed]
  exact h.mul_size_lt hfirst hlength (Nat.le_of_eq hnumber) fun _ => hstate

variable (map) in
/-- Over memory, calls on machine words are the calls. -/
theorem Reads.exists_calls?_eq (hfailure : m.failure = none) (cs : List StreamCall) :
    ∃ replies s' r', s.calls Memory.session.recorded map cs r = (replies, s', r') ∧
      s.calls? Memory.session.recorded map cs r = some (replies, s', r') ∧
      Reads q sorted m r' s' := by
  induction cs generalizing s r with
  | nil => exact ⟨[], s, r, rfl, rfl, h⟩
  | cons c rest ih =>
      have hready := (h.hasNext hfailure).fits hfirst hlength
      have hwords := call?_eq map (h.fits hfirst hlength) hready c
      rcases hcall : s.call Memory.session.recorded map c r with ⟨reply, s₁, r₁⟩
      obtain ⟨replies, s₂, r₂, hcalls, hcalls?, h₂⟩ := ih (h.call hfailure hcall)
      refine ⟨reply :: replies, s₂, r₂, ?_, ?_, h₂⟩
      · rw [calls, hcall]
        simp only [hcalls]
      · rw [calls?, hwords, hcall]
        simp only [Option.bind_eq_bind, Option.bind_some, hcalls?, Option.pure_def]

end Counted

end Memory

end ResultStream

/-- The pages of a stream over memory can be counted in machine words, whatever is called in whatever
order: on words the calls are the same. Each fetch begins where its page does, or with the largest
word if the page begins behind it, and gets the records from there on; in the second case there are
none and the stream has ended. -/
theorem page_arithmetic_fits {α : Type} (records : List Record) (hlength : records.length < 2 ^ 63)
    (count : Option UInt64) (map : Record → Except SearchError α) (q : Query) (size : UInt64)
    (limit : Option UInt64) (offset : UInt64) (sorted : Bool) (metadata : Dictionary Value)
    (cs : List StreamCall) :
    let rows := max 1 size.toNat
    let opened : Query := { q with paging := (Query.new q.kind size q.labels limit offset).paging }
    let stream : ResultStream := { query := opened, sorted := sorted, metadata := metadata }
    let session := Memory.session.recorded
    let start : Recorded Memory := ⟨⟨records, count, none⟩, []⟩
    ∃ replies s r,
      stream.calls session map cs start = (replies, s, r) ∧
      stream.calls? session map cs start = some (replies, s, r) ∧
      (s.state ≠ .exhausted → s.query.paging.consumed ≤ 2 ^ 64 - 1) ∧
      ∀ (k : Nat) (x : Exchange), r.exchanges[k]? = some x →
        let skip := offset.toNat + k * rows
        let take := opened.paging.takeOn k
        k * rows ≤ 2 ^ 64 - 1 ∧ (∀ l, limit = some l → k * rows < l.toNat) ∧
        x = .fetch (q.matchText ++ fetchReturn ++ q.orderText sorted ++ " SKIP " ++
            toString (min skip (2 ^ 64 - 1)) ++ " LIMIT " ++ toString take) q.parameters
          (.ok ((records.drop skip).take take)) ∧
        (2 ^ 64 - 1 < skip →
          x.page = [] ∧ k + 1 = r.exchanges.length ∧ s.state = .exhausted) := by
  intro rows opened stream session start
  have hrows : opened.paging.size.toNat = rows := Paging.toNat_size_ofSize size
  have hfirst : opened.paging.page = 0 := Paging.page_ofSize size
  have hstart : ResultStream.Reads opened sorted ⟨records, count, none⟩ start stream :=
    ⟨ResultStream.follows_opened opened sorted metadata, rfl, nofun, nofun⟩
  obtain ⟨replies, s, r, hcalls, hcalls?, h⟩ := hstart.exists_calls?_eq map hfirst hlength rfl cs
  refine ⟨replies, s, r, hcalls, hcalls?, ?_, ?_⟩
  · intro hstate
    exact Nat.le_pred_of_lt (h.fits hfirst hlength hstate).1
  · intro k x hx skip take
    obtain ⟨hlt, -⟩ := List.getElem?_eq_some_iff.mp hx
    have hmul := h.mul_size_lt hfirst hlength (Nat.le_of_lt hlt) fun hk =>
      absurd hk (Nat.ne_of_lt hlt)
    obtain ⟨hleft, hfetch⟩ := h.fetch_eq hfirst hlength hx
    rw [hrows] at hmul hleft hfetch
    refine ⟨Nat.le_pred_of_lt hmul.1, hleft, ?_, ?_⟩
    · rw [hfetch, Window.render]
      simp only [String.append_assoc]
      rfl
    · intro hclamped
      have hpage : x.page = (records.drop skip).take take := by
        rw [hfetch]
        rfl
      have hbehind : records.length ≤ skip := by omega
      rw [List.drop_eq_nil_of_le hbehind, List.take_nil] at hpage
      exact ⟨hpage, h.fed k x hx hpage⟩

/-- Two records, read from the second on by the largest pages: the second page would begin behind the
largest word. -/
theorem page_arithmetic_fits_largestPage :
    let q : Query := .new .node 1
    let opened : Query :=
      { q with paging := (Query.new q.kind 0xffffffffffffffff q.labels none 1).paging }
    let stream : ResultStream := { query := opened, sorted := false, metadata := [] }
    let records : List Record := [.map [], .node ⟨1, [], []⟩]
    let start : Recorded Memory := ⟨⟨records, none, none⟩, []⟩
    records.length < 2 ^ 63 ∧
      ∃ replies s r x,
        stream.calls? Memory.session.recorded Record.asNode [.hasNext, .next, .next, .tryNext]
          start = some (replies, s, r) ∧
        r.exchanges[1]? = some x ∧ x.page = [] ∧ r.exchanges.length = 2 ∧
        s.state = .exhausted := by
  intro q opened stream records start
  have hlength : records.length < 2 ^ 63 := by decide
  refine ⟨hlength, ?_⟩
  obtain ⟨replies, s, r, hcalls, hcalls?, -, hfetches⟩ :=
    page_arithmetic_fits records hlength none Record.asNode q 0xffffffffffffffff none 1
      false [] [.hasNext, .next, .next, .tryNext]
  have hlog : r.exchanges.length = 2 := by
    refine (congrArg (fun answer => answer.2.2.exchanges.length) hcalls).symm.trans ?_
    decide +kernel
  have hx : r.exchanges[1]? = some r.exchanges[1] := List.getElem?_eq_getElem _
  obtain ⟨-, -, -, hclamped⟩ := hfetches 1 _ hx
  obtain ⟨hempty, -, hended⟩ := hclamped (by decide)
  exact ⟨replies, s, r, _, hcalls?, hx, hempty, hlog, hended⟩

end GraphSearch

import GraphSearch.Proofs.PagedStream
import GraphSearch.Proofs.Translation
import GraphSearch.Proofs.Usage
import Mathlib

/-!
What a stream delivers, whatever else its index is used for.

Streams of one index share the session and the known counts. Neither matters for what a stream over
memory hands out: the records are the same at all times, and only the stream's own calls
move it on.
-/

namespace GraphSearch

namespace IndexCall

/-- Whether a call asks for the next item of the stream in a slot. -/
def isNext (slot : Nat) : IndexCall → Bool
  | next n => n == slot
  | _ => false

/-- A call that does not take records from the stream in a slot otherwise than by `next`. -/
def Spares (slot : Nat) : IndexCall → Prop
  | tryNext n => n ≠ slot
  | close n => n ≠ slot
  | _ => True

end IndexCall

/-- The item that a call has got from the stream in a slot. -/
def itemOf? {α : Type} (slot : Nat) (call : IndexCall) (reply : Reply α) :
    Option (Option (Except SearchError α)) :=
  match reply with
  | .item answer => if call.isNext slot then some answer else none
  | _ => none

/-- All items that calls have got from the stream in a slot, in order. -/
def itemsOf {α : Type} (slot : Nat) (calls : List IndexCall) (replies : List (Reply α)) :
    List (Option (Except SearchError α)) :=
  (calls.zip replies).filterMap fun (call, reply) => itemOf? slot call reply

/-- What a number of requests for the next item get: the items in order, and then nothing. -/
def firstItems {α : Type} (items : List α) (requests : Nat) : List (Option α) :=
  (List.range requests).map fun k => items[k]?

theorem firstItems_succ {α : Type} (items : List α) (requests : Nat) :
    firstItems items (requests + 1) = items.head? :: firstItems items.tail requests := by
  rw [firstItems, firstItems, List.range_succ_eq_map, List.map_cons, List.map_map,
    List.head?_eq_getElem?]
  congr 1
  apply List.map_congr_left
  intro k _
  exact List.getElem?_tail.symm

namespace InUse

variable {σ α : Type} {w : InUse σ} {slot : Nat}
  {work : σ → ResultStream → Reply α × ResultStream × σ}

theorem onStream_of_getElem? {s : ResultStream} (h : w.streams[slot]? = some s) :
    w.onStream slot work =
      ((work w.state s).1,
        { w with
          state := (work w.state s).2.2
          streams := w.streams.set slot (work w.state s).2.1 }) := by
  rw [onStream, h]

theorem onStream_getElem?_self {s : ResultStream} (h : w.streams[slot]? = some s) :
    (w.onStream slot work).2.streams[slot]? = some (work w.state s).2.1 := by
  obtain ⟨hslot, -⟩ := List.getElem?_eq_some_iff.mp h
  rw [onStream_of_getElem? h]
  exact List.getElem?_set_self hslot

theorem onStream_getElem?_of_ne {n : Nat} (h : n ≠ slot) :
    (w.onStream n work).2.streams[slot]? = w.streams[slot]? := by
  rw [onStream]
  split
  · rfl
  · exact List.getElem?_set_ne h

end InUse

section Slot

variable {α : Type} (ix : Index) (map : Record → Except SearchError α) {m : Memory}
  {base : Paging} {slot : Nat} {w : InUse (Logged Memory)} {s : ResultStream}

open ResultStream

theorem preserves_logged_memory (m : Memory) :
    Memory.session.logged.Preserves fun l => l.state = m :=
  (Memory.preserves_session m).logged

theorem exists_search_ok (hfailure : m.failure = none) {l : Logged Memory} (hl : l.state = m)
    (cache : CountCache) (context : SearchContext) (p : Predicate) :
    ∃ count cache' l', ix.search Memory.session.logged l cache context p =
      (.ok (ix.streamOf (ix.build context p) count), cache', l') := by
  subst hl
  have hcount (cache : CountCache) (q : Query) : ∃ count cache' l',
      Index.resultCount Memory.session.logged l cache q = (.ok count, cache', l') := by
    rw [Index.resultCount]
    split
    · exact ⟨_, _, _, rfl⟩
    · simp only [Session.logged, Memory.session, hfailure]
      exact ⟨_, _, _, rfl⟩
  obtain ⟨count, cache', l', hanswer⟩ := hcount cache (ix.build context p)
  refine ⟨count, cache', l', ?_⟩
  simp only [Index.search, hanswer]

/-- What one call does to the stream in a slot: `next` takes the first record, and any other call
leaves what is still to be handed out. -/
theorem step_slot (hfailure : m.failure = none) (hlength : m.records.length ≤ largestSkip)
    (hw : w.state.state = m) (hslot : w.streams[slot]? = some s)
    (hs : s.Serving base m.records) {call : IndexCall} (hcall : call.Spares slot) :
    ∃ s', (ix.step Memory.session.logged map w call).2.streams[slot]? = some s' ∧
      s'.Serving base m.records ∧
      ((call.isNext slot = false ∧ s'.pending base m.records = s.pending base m.records) ∨
        (call.isNext slot = true ∧
          s'.pending base m.records = (s.pending base m.records).tail ∧
          (ix.step Memory.session.logged map w call).1 =
            .item ((s.pending base m.records).head?.map map))) := by
  -- A call to another stream leaves this one as it is.
  have hother {n : Nat} (hn : n ≠ slot)
      (work : Logged Memory → ResultStream → Reply α × ResultStream × Logged Memory) :
      (w.onStream n work).2.streams[slot]? = some s :=
    (InUse.onStream_getElem?_of_ne hn).trans hslot
  cases call with
  | search context p =>
      obtain ⟨count, cache', l', hsearch⟩ :=
        exists_search_ok ix hfailure hw w.cache context p
      obtain ⟨hlt, -⟩ := List.getElem?_eq_some_iff.mp hslot
      refine ⟨s, ?_, hs, Or.inl ⟨rfl, rfl⟩⟩
      rw [Index.step, hsearch]
      exact (List.getElem?_append_left hlt).trans hslot
  | invalidate => exact ⟨s, hslot, hs, Or.inl ⟨rfl, rfl⟩⟩
  | hasNext n =>
      by_cases hn : n = slot
      · subst hn
        obtain ⟨s', l', hready, hadvances, hpending, -⟩ := hasNext_spec hfailure hlength hs hw
        refine ⟨s', ?_, hadvances.serving, Or.inl ⟨rfl, hpending⟩⟩
        rw [Index.step, InUse.onStream_getElem?_self hslot, hready]
      · exact ⟨s, hother hn _, hs, Or.inl ⟨rfl, rfl⟩⟩
  | next n =>
      by_cases hn : n = slot
      · subst hn
        obtain ⟨s', l', hnext, hadvances, hpending, -⟩ := next_spec map hfailure hlength hs hw
        refine ⟨s', ?_, hadvances.serving, Or.inr ⟨by simp [IndexCall.isNext], hpending, ?_⟩⟩
        · rw [Index.step, InUse.onStream_getElem?_self hslot, hnext]
        · rw [Index.step, InUse.onStream_of_getElem? hslot, hnext]
      · exact ⟨s, hother hn _, hs, Or.inl ⟨by simp [IndexCall.isNext, hn], rfl⟩⟩
  | tryNext n => exact ⟨s, hother hcall _, hs, Or.inl ⟨rfl, rfl⟩⟩
  | close n => exact ⟨s, hother hcall _, hs, Or.inl ⟨rfl, rfl⟩⟩

theorem itemsOf_cons_of_isNext {call : IndexCall} (h : call.isNext slot = true)
    (answer : Option (Except SearchError α)) (calls : List IndexCall)
    (replies : List (Reply α)) :
    itemsOf slot (call :: calls) (.item answer :: replies) =
      answer :: itemsOf slot calls replies := by
  simp [itemsOf, itemOf?, h]

theorem itemsOf_cons_of_not_isNext {call : IndexCall} (h : call.isNext slot = false)
    (reply : Reply α) (calls : List IndexCall) (replies : List (Reply α)) :
    itemsOf slot (call :: calls) (reply :: replies) = itemsOf slot calls replies := by
  have hitem : itemOf? slot call reply = none := by
    cases reply <;> simp [itemOf?, h]
  simp [itemsOf, hitem]

/-- Whatever calls are made, those for the next item of a slot get one item after the other. -/
theorem run_slot (hfailure : m.failure = none) (hlength : m.records.length ≤ largestSkip)
    (hw : w.state.state = m) (hslot : w.streams[slot]? = some s)
    (hs : s.Serving base m.records) {calls : List IndexCall}
    (hcalls : ∀ call ∈ calls, call.Spares slot) :
    itemsOf slot calls (ix.run Memory.session.logged map w calls).1 =
        firstItems ((s.pending base m.records).map map)
          (calls.countP (IndexCall.isNext slot)) ∧
      ∃ s', (ix.run Memory.session.logged map w calls).2.streams[slot]? = some s' ∧
        s'.Serving base m.records := by
  induction calls generalizing w s with
  | nil => exact ⟨rfl, s, hslot, hs⟩
  | cons call rest ih =>
      obtain ⟨hcall, hrest⟩ := List.forall_mem_cons.mp hcalls
      obtain ⟨s₁, hslot₁, hs₁, hstep⟩ :=
        step_slot ix map hfailure hlength hw hslot hs hcall
      have hw₁ : (ix.step Memory.session.logged map w call).2.state.state = m :=
        Index.good_step (preserves_logged_memory m) hw call
      obtain ⟨hitems, hlast⟩ := ih hw₁ hslot₁ hs₁ hrest
      rw [Index.run_cons]
      refine ⟨?_, hlast⟩
      rcases hstep with ⟨hother, hpending⟩ | ⟨hnext, hpending, hreply⟩
      · rw [itemsOf_cons_of_not_isNext hother, hitems, hpending,
          List.countP_cons_of_neg (by simp [hother])]
      · rw [hreply, itemsOf_cons_of_isNext hnext, hitems, hpending,
          List.countP_cons_of_pos hnext, firstItems_succ, List.head?_map, List.map_tail]

end Slot

section Opened

variable (ix : Index) (context : SearchContext) (p : Predicate) (count : UInt64)

theorem build_paging :
    (ix.build context p).paging =
      { Paging.ofSize (context.pageSize.getD ix.config.pageSize) with
        limit := context.limit, offset := context.offset } := by
  have hbuild (q : Query) : (q.tryAdd ix.registry p true).2.paging = q.paging := by
    rw [Query.tryAdd_eq]
    split
    · next item _ =>
        obtain ⟨fs, bs, happend⟩ := Query.exists_append_eq_extend q true item
        dsimp only
        rw [happend]
        rfl
    · rfl
  exact hbuild _

theorem build_limit : (ix.build context p).paging.limit = context.limit := by
  rw [build_paging]

theorem build_offset : (ix.build context p).paging.offset = context.offset := by
  rw [build_paging]

theorem build_size : (ix.build context p).paging.size.toNat =
    max 1 (context.pageSize.getD ix.config.pageSize).toNat := by
  rw [build_paging]
  exact Paging.toNat_size_ofSize _

theorem build_page : (ix.build context p).paging.page = 0 := by
  rw [build_paging]
  exact Paging.page_ofSize _

theorem pageNumber_streamOf : (ix.streamOf (ix.build context p) count).pageNumber = 0 :=
  build_page ix context p

theorem serving_streamOf (records : List Record) :
    (ix.streamOf (ix.build context p) count).Serving (ix.build context p).paging records := by
  have hfirst := pageNumber_streamOf ix context p count
  exact ⟨rfl, rfl, fun _ => rfl, fun _ => Or.inl hfirst, nofun⟩

theorem pending_streamOf (records : List Record) :
    (ix.streamOf (ix.build context p) count).pending (ix.build context p).paging records =
      (ix.build context p).paging.wanted records := by
  have hunfetched : (ix.streamOf (ix.build context p) count).unfetched
      (ix.build context p).paging records = (ix.build context p).paging.wanted records := by
    rw [ResultStream.unfetched, pageNumber_streamOf, Nat.zero_mul, List.drop_zero]
  exact hunfetched

end Opened

/-- The pages of a stream that goes on never begin behind what a machine word counts. -/
theorem consumed_lt {base : Paging} {records : List Record} {s : ResultStream}
    (hs : s.Serving base records) (hstate : s.state ≠ .exhausted)
    (hlength : records.length < 2 ^ 63) : s.query.paging.consumed < 2 ^ 64 := by
  have hconsumed : s.query.paging.consumed = s.pageNumber * base.size.toNat := by
    rw [Paging.consumed, hs.paging]
    rfl
  have hwanted : (base.wanted records).length ≤ records.length := by
    rw [Paging.wanted_length]
    split <;> omega
  rw [hconsumed]
  exact mul_lt_of_before base.size.toNat_lt (by omega) (hs.before hstate)

/-- A stream over memory hands out the records of its window, each once and in order, and then
nothing. Calls to other streams, searches and forgotten counts do not disturb it. -/
theorem stream_delivers_window {α : Type} (ix : Index) (map : Record → Except SearchError α)
    (m : Memory) (hfailure : m.failure = none) (hlength : m.records.length < 2 ^ 63)
    (log : List Call) (before : List IndexCall) (context : SearchContext) (p : Predicate) :
    let session := Memory.session.logged
    let w := (ix.run session map (ix.unused ⟨m, log⟩) before).2
    let slot := w.streams.length
    let rest := m.records.drop context.offset.toNat
    let wanted := limitedTo context.limit rest
    let size := max 1 (context.pageSize.getD ix.config.pageSize).toNat
    ∃ stream w', ix.step session map w (.search context p) = (.opened (.ok stream), w') ∧
      w'.streams[slot]? = some stream ∧
      (∀ after : List IndexCall, (∀ call ∈ after, call.Spares slot) →
        itemsOf slot after (ix.run session map w' after).1 =
            firstItems (wanted.map map) (after.countP (IndexCall.isNext slot)) ∧
          ∃ s, (ix.run session map w' after).2.streams[slot]? = some s ∧
            (s.state ≠ .exhausted → s.query.paging.consumed < 2 ^ 64)) ∧
      ∀ fuel, wanted.length < fuel →
        ∃ s l, stream.collect session map fuel w'.state = (wanted.map map, s, l) ∧
          l.fetches = w'.state.fetches + fetchesFor size rest.length context.limit ∧
          ∀ later, s.next session map later = (none, s, later) := by
  intro session w slot rest wanted size
  have hmemory : w.state.state = m := Index.good_run (preserves_logged_memory m) rfl before
  obtain ⟨count, cache', l', hsearch⟩ := exists_search_ok ix hfailure hmemory w.cache context p
  have hl' : l'.state = m := by
    have hgood := Index.good_search (preserves_logged_memory m) hmemory ix w.cache context p
    rwa [hsearch] at hgood
  have hbound : m.records.length ≤ largestSkip :=
    Nat.le_trans (Nat.le_of_lt hlength) (by decide)
  have hserving := serving_streamOf ix context p count m.records
  have hwanted : (ix.streamOf (ix.build context p) count).pending
      (ix.build context p).paging m.records = wanted := by
    rw [pending_streamOf, Paging.wanted, build_limit, build_offset]
  have hfetches : (ix.build context p).paging.fetches m.records =
      fetchesFor size rest.length context.limit := by
    rw [Paging.fetches, build_size, build_limit, build_offset]
  have hfirst : (ix.streamOf (ix.build context p) count).pageNumber = 0 :=
    pageNumber_streamOf ix context p count
  generalize ix.streamOf (ix.build context p) count = stream at hsearch hserving hwanted hfirst
  have hopened : (w.streams ++ [stream])[slot]? = some stream := List.getElem?_concat_length
  refine ⟨stream, ⟨l', cache', w.streams ++ [stream]⟩, ?_, hopened, ?_, ?_⟩
  · rw [Index.step, hsearch]
  · intro after hafter
    obtain ⟨hitems, s, hslot, hs⟩ := run_slot ix map hfailure hbound
      (w := ⟨l', cache', w.streams ++ [stream]⟩) hl' hopened hserving hafter
    rw [hwanted] at hitems
    exact ⟨hitems, s, hslot, fun hstate => consumed_lt hs hstate hlength⟩
  · intro fuel hfuel
    rw [← hwanted] at hfuel
    obtain ⟨s, l, hcollect, hadvances, hended⟩ :=
      ResultStream.collect_spec map hfailure hbound hserving hl' hfuel
    rw [hwanted] at hcollect
    refine ⟨s, l, hcollect, ?_, fun later => ResultStream.next_of_exhausted map hended⟩
    have hlog := hadvances.fetches
    rwa [hadvances.serving.finished hended, hfetches, hfirst] at hlog

/-- Three records, of which the first is not a node. -/
def threeRecords : Memory where
  records := [.map [], .node ⟨1, [], []⟩, .node ⟨2, [], []⟩]

theorem stream_delivers_window_threeRecords :
    threeRecords.failure = none ∧ threeRecords.records.length < 2 ^ 63 ∧
      ∃ stream w', Index.step { kind := .node } Memory.session.logged Record.asNode
          (Index.unused { kind := .node } ⟨threeRecords, []⟩)
          (.search { limit := some 2, pageSize := some 1 } (.notEmpty "name")) =
            (.opened (.ok stream), w') ∧
        ∃ s l, stream.collect Memory.session.logged Record.asNode 3 w'.state =
            ([.error (.mapping "expected a node, got map"), .ok ⟨1, [], []⟩], s, l) ∧
          l.fetches = w'.state.fetches + 2 := by
  have hlength : threeRecords.records.length < 2 ^ 63 := by decide
  refine ⟨rfl, hlength, ?_⟩
  obtain ⟨stream, w', hopened, -, -, hcollect⟩ :=
    stream_delivers_window { kind := .node } Record.asNode threeRecords rfl hlength [] []
      { limit := some 2, pageSize := some 1 } (.notEmpty "name")
  obtain ⟨s, l, hitems, hfetches, -⟩ := hcollect 3 (by decide)
  exact ⟨stream, w', hopened, s, l, hitems, hfetches⟩

end GraphSearch

import GraphSearch.Proofs.DigestSeparation
import GraphSearch.Proofs.Usage

/-!
Known counts are never wrong.

A count is kept under the digest of the query that it was asked for. As long as the digests of the
searched queries tell apart what they are taken of, every kept count is the count of each searched
query with its digest, whatever was searched, forgotten and made room for in between.
-/

namespace GraphSearch

/-- The values of a call are short enough for a digest. -/
def IndexCall.Sized : IndexCall → Prop
  | search _ p => p.Sized
  | _ => True

/-- The queries that calls search with. -/
def Index.searched (ix : Index) : List IndexCall → List Query
  | [] => []
  | .search context p :: rest => ix.build context p :: ix.searched rest
  | _ :: rest => ix.searched rest

/-- A session whose counts, when it counts, are those of a function of the statement and its
parameters. Which calls fail may depend on its state. -/
def Session.CountsAs {σ : Type} (session : Session σ) (good : σ → Prop)
    (total : String → Dictionary Value → UInt64) : Prop :=
  ∀ state statement parameters count, good state →
    (session.count state statement parameters).1 = .ok count →
      count = total statement parameters

theorem Session.CountsAs.failingAt {σ : Type} {session : Session σ} {good : σ → Prop}
    {total : String → Dictionary Value → UInt64} (h : session.CountsAs good total)
    (chosen : Nat → Bool) (cause : String) :
    (session.failingAt chosen cause).CountsAs (fun state => good state.2) total := by
  intro state statement parameters count hstate hcount
  rw [Session.failingAt] at hcount
  dsimp only at hcount
  split at hcount
  · exact absurd hcount (by simp)
  · exact h state.2 statement parameters count hstate hcount

theorem Memory.countsAs_session (memory : Memory) :
    session.CountsAs (· = memory) fun _ _ => memory.total := by
  rintro m statement parameters count rfl hcount
  rw [session] at hcount
  dsimp only at hcount
  split at hcount
  · exact absurd hcount (by simp)
  · exact (Except.ok.inj hcount).symm

namespace CountCache

/-- Every entry is kept for one of the queries, under its digest and with its count. -/
def Faithful (total : String → Dictionary Value → UInt64) (queries : List Query)
    (c : CountCache) : Prop :=
  ∀ entry ∈ c.entries,
    ∃ q ∈ queries, entry = (q.digest, total q.countStatement q.parameters)

variable {total : String → Dictionary Value → UInt64} {queries : List Query} {c : CountCache}

theorem mem_of_find? {digest count : UInt64} (h : c.find? digest = some count) :
    (digest, count) ∈ c.entries := by
  rw [find?, List.lookup_eq_some_iff] at h
  obtain ⟨before, after, hentries, -⟩ := h
  rw [hentries]
  exact List.mem_append_right _ List.mem_cons_self

theorem get_of_find?_none {digest : UInt64} (h : c.find? digest = none) :
    c.get digest = (none, c) := by
  rw [get, h]

theorem get_of_find?_some {digest count : UInt64} (h : c.find? digest = some count) :
    c.get digest =
      (some count, { c with entries := (digest, count) :: remove digest c.entries }) := by
  rw [get, h]

theorem faithful_empty (capacity : UInt64) :
    (ofCapacity capacity).Faithful total queries := by
  intro entry hentry
  exact absurd hentry List.not_mem_nil

theorem faithful_clear : c.clear.Faithful total queries := by
  intro entry hentry
  exact absurd hentry List.not_mem_nil

/-- The count of a query may go to the front, wherever it was before. -/
theorem Faithful.used (h : c.Faithful total queries) {q : Query} (hq : q ∈ queries) :
    Faithful total queries
      { c with
        entries :=
          (q.digest, total q.countStatement q.parameters) :: remove q.digest c.entries } := by
  intro entry hentry
  rcases List.mem_cons.mp hentry with hnew | hold
  · exact ⟨q, hq, hnew⟩
  · exact h entry (List.mem_filter.mp hold).1

theorem Faithful.put (h : c.Faithful total queries) {q : Query} (hq : q ∈ queries) :
    (c.put q.digest (total q.countStatement q.parameters)).Faithful total queries := by
  intro entry hentry
  exact h.used hq entry (List.mem_of_mem_take hentry)

end CountCache

/-- Queries with equal digests have equal counts. -/
def DigestsDecide (total : String → Dictionary Value → UInt64) (queries : List Query) : Prop :=
  ∀ q ∈ queries, ∀ q' ∈ queries, q.digest = q'.digest →
    total q.countStatement q.parameters = total q'.countStatement q'.parameters

namespace Index

variable {σ α : Type} {ix : Index} {session : Session σ} {map : Record → Except SearchError α}
  {total : String → Dictionary Value → UInt64} {queries : List Query}
  {good : σ → Prop} {cache : CountCache} {q : Query}

theorem eq_total_of_find? (hdecide : DigestsDecide total queries)
    (hcache : cache.Faithful total queries) (hq : q ∈ queries) {count : UInt64}
    (hfind : cache.find? q.digest = some count) :
    count = total q.countStatement q.parameters := by
  obtain ⟨q', hq', hentry⟩ := hcache _ (CountCache.mem_of_find? hfind)
  obtain ⟨hdigest, hcount⟩ := Prod.mk.inj hentry
  rw [hcount]
  exact (hdecide q hq q' hq' hdigest).symm

/-- Whether a query has been counted: its count is known, or the session has told it. -/
def Counted (session : Session σ) (state : σ) (cache : CountCache) (q : Query) (count : UInt64)
    (state' : σ) : Prop :=
  (cache.find? q.digest = some count ∧ state' = state) ∨
    session.count state q.countStatement q.parameters = (.ok count, state')

section ResultCount

variable {state state' : σ} {count : UInt64}

theorem resultCount_of_known (session : Session σ) (state : σ)
    (h : cache.find? q.digest = some count) :
    resultCount session state cache q =
      (.ok count,
        { cache with entries := (q.digest, count) :: CountCache.remove q.digest cache.entries },
        state) := by
  rw [resultCount, CountCache.get_of_find?_some h]

theorem resultCount_of_counted (h : cache.find? q.digest = none)
    (hcount : session.count state q.countStatement q.parameters = (.ok count, state')) :
    resultCount session state cache q = (.ok count, cache.put q.digest count, state') := by
  simp only [resultCount, CountCache.get_of_find?_none h, hcount]

theorem resultCount_of_failed (h : cache.find? q.digest = none) {e : SearchError}
    (hcount : session.count state q.countStatement q.parameters = (.error e, state')) :
    resultCount session state cache q = (.error e, cache, state') := by
  simp only [resultCount, CountCache.get_of_find?_none h, hcount]

end ResultCount

/-- What a count comes to: the right number, and a cache of right numbers; or the failure of the
session, with the cache as it was. -/
theorem resultCount_spec {state : σ} (hstate : good state) (hcounts : session.CountsAs good total)
    (hdecide : DigestsDecide total queries) (hcache : cache.Faithful total queries)
    (hq : q ∈ queries) :
    (∃ cache' state', cache'.Faithful total queries ∧
        Counted session state cache q (total q.countStatement q.parameters) state' ∧
        resultCount session state cache q =
          (.ok (total q.countStatement q.parameters), cache', state')) ∨
      ∃ e state', session.count state q.countStatement q.parameters = (.error e, state') ∧
        resultCount session state cache q = (.error e, cache, state') := by
  cases hfind : cache.find? q.digest with
  | some count =>
      obtain rfl := eq_total_of_find? hdecide hcache hq hfind
      left
      exact ⟨_, state, hcache.used hq, Or.inl ⟨hfind, rfl⟩,
        resultCount_of_known session state hfind⟩
  | none =>
      cases hanswer : session.count state q.countStatement q.parameters with
      | mk answer state' =>
          cases answer with
          | ok count =>
              obtain rfl := hcounts state _ _ count hstate (by rw [hanswer])
              left
              exact ⟨_, state', hcache.put hq, Or.inr hanswer,
                resultCount_of_counted hfind hanswer⟩
          | error e =>
              right
              exact ⟨e, state', rfl, resultCount_of_failed hfind hanswer⟩

theorem mem_searched {calls : List IndexCall} {context : SearchContext} {p : Predicate}
    (h : .search context p ∈ calls) : ix.build context p ∈ ix.searched calls := by
  induction calls with
  | nil => exact absurd h List.not_mem_nil
  | cons call rest ih =>
      rcases List.mem_cons.mp h with rfl | hrest
      · exact List.mem_cons_self
      · cases call with
        | search => exact List.mem_cons_of_mem _ (ih hrest)
        | _ => exact ih hrest

theorem exists_search_of_mem_searched {calls : List IndexCall} (h : q ∈ ix.searched calls) :
    ∃ context p, .search context p ∈ calls ∧ q = ix.build context p := by
  induction calls with
  | nil => exact absurd h List.not_mem_nil
  | cons call rest ih =>
      have hlater (hq : q ∈ ix.searched rest) :
          ∃ context p, .search context p ∈ call :: rest ∧ q = ix.build context p := by
        obtain ⟨context, p, hmem, hbuild⟩ := ih hq
        exact ⟨context, p, List.mem_cons_of_mem _ hmem, hbuild⟩
      cases call with
      | search context p =>
          rcases List.mem_cons.mp h with rfl | hrest
          · exact ⟨context, p, List.mem_cons_self, rfl⟩
          · exact hlater hrest
      | _ => exact hlater h

theorem digestsDecide_searched {calls : List IndexCall} (hsized : ∀ call ∈ calls, call.Sized)
    (hdistinct : ∀ q ∈ ix.searched calls, ∀ q' ∈ ix.searched calls,
      q.digest = q'.digest → q.digestInput = q'.digestInput) :
    DigestsDecide total (ix.searched calls) := by
  intro q hq q' hq' hdigest
  have hinput := hdistinct q hq q' hq' hdigest
  obtain ⟨context, p, hcall, rfl⟩ := exists_search_of_mem_searched hq
  obtain ⟨context', p', hcall', rfl⟩ := exists_search_of_mem_searched hq'
  have halike := countedAlike_build ix ix context context' (hsized _ hcall) (hsized _ hcall') hinput
  rw [halike.countStatement_eq, halike.parameters_eq]

section

variable {context : SearchContext} {p : Predicate} {state state' : σ} {cache' : CountCache}

theorem search_of_resultCount_ok {count : UInt64}
    (h : resultCount session state cache (ix.build context p) = (.ok count, cache', state')) :
    ix.search session state cache context p =
      (.ok (ix.streamOf (ix.build context p) count), cache', state') := by
  simp only [search, h]

theorem search_of_resultCount_error {e : SearchError}
    (h : resultCount session state cache (ix.build context p) = (.error e, cache', state')) :
    ix.search session state cache context p = (.error e, cache', state') := by
  simp only [search, h]

end

theorem onStream_cache {w : InUse σ} {slot : Nat}
    {work : σ → ResultStream → Reply α × ResultStream × σ} :
    (w.onStream slot work).2.cache = w.cache := by
  rw [InUse.onStream]
  split <;> rfl

theorem faithful_step {w : InUse σ} (hstate : good w.state) (hcounts : session.CountsAs good total)
    (hdecide : DigestsDecide total queries) (hcache : w.cache.Faithful total queries)
    {call : IndexCall}
    (hcall : ∀ context p, call = .search context p → ix.build context p ∈ queries) :
    (ix.step session map w call).2.cache.Faithful total queries := by
  cases call with
  | search context p =>
      rw [step]
      rcases resultCount_spec hstate hcounts hdecide hcache (hcall context p rfl) with
        ⟨cache', state', hfaithful, -, hcount⟩ | ⟨e, state', -, hcount⟩
      · rw [search_of_resultCount_ok hcount]
        exact hfaithful
      · rw [search_of_resultCount_error hcount]
        exact hcache
  | invalidate => exact CountCache.faithful_clear
  | hasNext slot | next slot | tryNext slot | close slot =>
      rw [step, onStream_cache]
      exact hcache

theorem faithful_run (hpreserves : session.Preserves good) {w : InUse σ} (hstate : good w.state)
    (hcounts : session.CountsAs good total) (hdecide : DigestsDecide total queries)
    (hcache : w.cache.Faithful total queries) {calls : List IndexCall}
    (hcalls : ∀ context p, .search context p ∈ calls → ix.build context p ∈ queries) :
    (ix.run session map w calls).2.cache.Faithful total queries := by
  induction calls generalizing w with
  | nil => exact hcache
  | cons call rest ih =>
      rw [run_cons]
      apply ih (good_step hpreserves hstate call)
      · apply faithful_step hstate hcounts hdecide hcache
        intro context p hsearch
        exact hcalls context p (by rw [hsearch]; exact List.mem_cons_self)
      · intro context p hmem
        exact hcalls context p (List.mem_cons_of_mem _ hmem)

/-- The number of matches that a stream tells; it is capped at the largest signed word. -/
theorem resultCount?_streamOf (q : Query) (count : UInt64) :
    (ix.streamOf q count).resultCount? = some (min count.toNat (2 ^ 63 - 1)) := by
  have hmetadata : (ix.streamOf q count).metadata? ResultStream.countKey =
      some (countValue count) := by
    simp [streamOf, ResultStream.setMetadata, ResultStream.metadata?, Dictionary.get?_insert,
      ResultStream.countKey, ResultStream.limitedKey, ResultStream.sortedKey]
  have hlargest : Int64.maxValue.toInt = 2 ^ 63 - 1 := rfl
  have hvalue : (Int64.ofInt (min (count.toNat : Int) Int64.maxValue.toInt)).toInt =
      min (count.toNat : Int) Int64.maxValue.toInt := by
    apply Int64.toInt_ofInt_of_le
    · rw [hlargest]
      omega
    · rw [hlargest]
      omega
  rw [ResultStream.resultCount?, hmetadata]
  simp only [countValue, hvalue]
  rw [hlargest, if_pos (by omega), Option.some.injEq]
  omega

/-- A search that counts every time. -/
def searchUncached (ix : Index) (session : Session σ) (state : σ) (context : SearchContext)
    (p : Predicate) : Except SearchError ResultStream × σ :=
  let q := ix.build context p
  match session.count state q.countStatement q.parameters with
  | (.ok count, state) => (.ok (ix.streamOf q count), state)
  | (.error e, state) => (.error e, state)

theorem eq_streamOf_of_searchUncached (hcounts : session.CountsAs good total) {state : σ}
    (hstate : good state) {context : SearchContext} {p : Predicate} {stream : ResultStream}
    (h : (ix.searchUncached session state context p).1 = .ok stream) :
    stream = ix.streamOf (ix.build context p)
      (total (ix.build context p).countStatement (ix.build context p).parameters) := by
  rw [searchUncached] at h
  cases hanswer : session.count state (ix.build context p).countStatement
      (ix.build context p).parameters with
  | mk answer state' =>
      rw [hanswer] at h
      cases answer with
      | ok count =>
          have hcount := hcounts state _ _ count hstate (by rw [hanswer])
          rw [← hcount]
          exact (Except.ok.inj h).symm
      | error e => exact absurd h (by simp)

/-- The cache of an index does not show. After any calls, a search that succeeds has the count of
its own statement, and is sorted as if it had been counted anew; a search whose count fails returns
the failure and leaves the index as it was. -/
theorem cache_transparent (ix : Index) (session : Session σ) (good : σ → Prop)
    (hpreserves : session.Preserves good) (total : String → Dictionary Value → UInt64)
    (hcounts : session.CountsAs good total) (map : Record → Except SearchError α)
    (state : σ) (hstate : good state) (before : List IndexCall)
    (context : SearchContext) (p : Predicate)
    (hsized : ∀ call ∈ before ++ [.search context p], call.Sized)
    (hdistinct : ∀ q ∈ ix.searched (before ++ [.search context p]),
      ∀ q' ∈ ix.searched (before ++ [.search context p]),
        q.digest = q'.digest → q.digestInput = q'.digestInput) :
    let w := (ix.run session map (ix.unused state) before).2
    let q := ix.build context p
    let count := total q.countStatement q.parameters
    (∀ stream cache' state',
      ix.search session w.state w.cache context p = (.ok stream, cache', state') →
        Counted session w.state w.cache q count state' ∧
          resultCount session w.state w.cache q = (.ok count, cache', state') ∧
          stream.resultCount? = some (min count.toNat (2 ^ 63 - 1)) ∧
          (stream.sorted = true ↔ p.sort?.isSome ∧ count < ix.config.sortThreshold) ∧
          ∀ anyState uncached, good anyState →
            (ix.searchUncached session anyState context p).1 = .ok uncached →
              stream = uncached) ∧
      ∀ e cache' state',
        ix.search session w.state w.cache context p = (.error e, cache', state') →
          session.count w.state q.countStatement q.parameters = (.error e, state') ∧
            cache' = w.cache ∧
            ∀ later, ix.run session map w (.search context p :: later) =
              (.opened (.error e) :: (ix.run session map { w with state := state' } later).1,
                (ix.run session map { w with state := state' } later).2) := by
  intro w q count
  have hdecide : DigestsDecide total _ := digestsDecide_searched hsized hdistinct
  have hcache : w.cache.Faithful total (ix.searched (before ++ [.search context p])) := by
    apply faithful_run hpreserves hstate hcounts hdecide (CountCache.faithful_empty _)
    intro context' p' hmem
    exact mem_searched (List.mem_append_left _ hmem)
  have hq : q ∈ ix.searched (before ++ [.search context p]) :=
    mem_searched (List.mem_append_right _ List.mem_cons_self)
  have hw : good w.state := good_run hpreserves hstate before
  rcases resultCount_spec hw hcounts hdecide hcache hq with
    ⟨cache', state', -, hcounted, hcount⟩ | ⟨e, state', hanswer, hcount⟩
  · have hsearch := search_of_resultCount_ok hcount
    constructor
    · intro stream cache'' state'' hresult
      rw [hsearch, Prod.mk.injEq, Prod.mk.injEq] at hresult
      obtain ⟨hstream, rfl, rfl⟩ := hresult
      obtain rfl := Except.ok.inj hstream
      refine ⟨hcounted, hcount, resultCount?_streamOf q count, ?_, ?_⟩
      · change (p.sort?.isSome && decide (count < ix.config.sortThreshold)) = true ↔ _
        rw [Bool.and_eq_true, decide_eq_true_eq]
      · intro anyState uncached hany huncached
        exact (eq_streamOf_of_searchUncached hcounts hany huncached).symm
    · intro e cache'' state'' hresult
      rw [hsearch] at hresult
      exact absurd (Prod.mk.inj hresult).1 (by simp)
  · have hsearch := search_of_resultCount_error hcount
    constructor
    · intro stream cache'' state'' hresult
      rw [hsearch] at hresult
      exact absurd (Prod.mk.inj hresult).1 (by simp)
    · intro e' cache'' state'' hresult
      rw [hsearch, Prod.mk.injEq, Prod.mk.injEq] at hresult
      obtain ⟨herror, rfl, rfl⟩ := hresult
      obtain rfl := Except.error.inj herror
      refine ⟨hanswer, rfl, ?_⟩
      intro later
      rw [run_cons, step, hsearch]

/-- A node index that keeps one count. -/
def forgetful : Index where
  kind := .node
  config := { cacheSize := 1 }

/-- Seven matches, told once. -/
def tellsOnce : Session (Nat × Memory) :=
  Memory.session.failingAt (fun n => n != 0) "outage"

set_option maxRecDepth 4096 in
theorem cache_transparent_tellsOnce :
    let w := (forgetful.run tellsOnce Record.asNode
      (forgetful.unused (0, { count := some 7 })) [.search {} ageAndSize]).2
    ∃ stream, (forgetful.search tellsOnce w.state w.cache { limit := some 5 }
        ageAndSizeReworded).1 = .ok stream ∧
      stream.resultCount? = some 7 := by
  intro w
  have hsized : ∀ call ∈ [IndexCall.search {} ageAndSize] ++
      [.search { limit := some 5 } ageAndSizeReworded], call.Sized := by
    simp only [List.cons_append, List.nil_append, List.forall_mem_cons]
    exact ⟨⟨trivial, ⟨trivial, trivial⟩, trivial⟩, ⟨trivial, trivial, ⟨trivial, trivial⟩, trivial⟩,
      by simp⟩
  have hdistinct : ∀ q ∈ forgetful.searched ([.search {} ageAndSize] ++
        [.search { limit := some 5 } ageAndSizeReworded]),
      ∀ q' ∈ forgetful.searched ([.search {} ageAndSize] ++
        [.search { limit := some 5 } ageAndSizeReworded]),
        q.digest = q'.digest → q.digestInput = q'.digestInput := by
    have hsame : (forgetful.build { limit := some 5 } ageAndSizeReworded).digestInput =
        (forgetful.build {} ageAndSize).digestInput := by rfl
    simp only [List.cons_append, List.nil_append, searched, List.forall_mem_cons]
    simp [hsame]
  have hsucceeds : ∃ stream, (forgetful.search tellsOnce w.state w.cache { limit := some 5 }
      ageAndSizeReworded).1 = .ok stream := ⟨_, rfl⟩
  obtain ⟨stream, hstream⟩ := hsucceeds
  obtain ⟨-, -, hcount, -⟩ := (cache_transparent forgetful tellsOnce (fun state => state.2 = _)
    ((Memory.preserves_session _).failingAt _ _) _
    ((Memory.countsAs_session _).failingAt _ _) Record.asNode (0, { count := some 7 }) rfl
    [.search {} ageAndSize] { limit := some 5 } ageAndSizeReworded hsized hdistinct).1 stream _ _
    (Prod.ext hstream rfl)
  exact ⟨stream, hstream, hcount⟩

end Index

end GraphSearch

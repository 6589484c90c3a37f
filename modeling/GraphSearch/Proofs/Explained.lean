import GraphSearch.Index.Explanation
import GraphSearch.Proofs.Delivery
import GraphSearch.Proofs.StreamCalls

/-!
An explanation tells what a search sends.

An explanation renders the statements of a query without a session. A search on a fresh index
counts first, and its stream then fetches page after page. Main statement: whatever the session
answers, the count is the explained one and the fetches are the explained fetch on one page after
the other, with its order if the count is below the threshold. Reading to the end fetches until
there is no further page or an answer has no records.
-/

namespace GraphSearch

/-- The window of a page of a search: the pages follow one another from the offset on, and the last
one ends where the limit does. -/
def SearchContext.windowOn (context : SearchContext) (config : IndexConfig) (page : Nat) :
    Option Window :=
  let size := max 1 (context.pageSize.getD config.pageSize).toNat
  let skip := min (context.offset.toNat + page * size) largestSkip
  match context.limit with
  | none => some ⟨skip, size⟩
  | some limit =>
    if limit.toNat ≤ page * size then none else some ⟨skip, min size (limit.toNat - page * size)⟩

theorem SearchContext.windowOn_zero_eq_none_iff {context : SearchContext} (config : IndexConfig) :
    context.windowOn config 0 = none ↔ context.limit = some 0 := by
  rw [windowOn, Nat.zero_mul]
  cases context.limit with
  | none => simp
  | some limit => simp [← UInt64.toNat_inj]

/-- The order that a predicate asks for, as text. -/
def Predicate.orderText (p : Predicate) : String :=
  (p.sort?.map SortOrder.render).getD ""

namespace ResultStream

variable {σ α : Type}

/-- A stream of a query that has been read and not closed. When it has ended, there is no further
page, or the last fetch has got no records. -/
structure Drains (q : Query) (sorted : Bool) (fetches : List Exchange) (s : ResultStream) :
    Prop where
  follows : Follows q sorted fetches s
  fed : Fed fetches s
  ended : s.state = .exhausted →
    (q.onPage (q.paging.page + fetches.length)).window = none ∨
      ∃ x, fetches.getLast? = some x ∧ x.page = []

section Drains

variable {q : Query} {sorted : Bool} {fetches : List Exchange} {s : ResultStream}

theorem drains_opened (q : Query) (sorted : Bool) (metadata : Dictionary Value) :
    Drains q sorted [] { query := q, sorted := sorted, metadata := metadata } :=
  ⟨follows_opened q sorted metadata, nofun, nofun⟩

theorem Drains.looked {more : List Exchange} {answer : Except SearchError Bool} {s' : ResultStream}
    (h : Drains q sorted fetches s) (hlooked : Looked q sorted fetches s more answer s') :
    Drains q sorted (fetches ++ more) s' := by
  refine ⟨hlooked.follows, h.fed.looked h.follows hlooked, ?_⟩
  intro hended
  rcases more with _ | ⟨x, rest⟩
  · -- Without a fetch, the stream had ended before or has no further page.
    rw [List.append_nil]
    by_cases hstate : s.state = .exhausted
    · exact h.ended hstate
    · left
      rw [← h.follows.pageNumber hstate, ← h.follows.query]
      exact (hlooked.ends rfl hended).resolve_left hstate
  · -- An ended stream has no records, so that its only new fetch has got none.
    right
    obtain rfl : rest = [] :=
      List.eq_nil_of_length_eq_zero (Nat.le_zero.mp (Nat.le_of_succ_le_succ hlooked.atMostOne))
    have hpage : s'.page = [] := hlooked.follows.page_eq_nil (by rw [hended]; decide)
    rw [hlooked.page, List.append_eq_nil_iff, Exchange.received, List.flatMap_singleton] at hpage
    exact ⟨x, List.getLast?_concat, hpage.2⟩

theorem Drains.handOut (h : Drains q sorted fetches s) (hstate : s.state = .fetching)
    (rest : List Record) : Drains q sorted fetches { s with page := rest } :=
  ⟨h.follows.handOut hstate rest, h.fed, h.ended⟩

theorem Drains.exists_next (h : Drains q sorted fetches s) (session : Session σ)
    (map : Record → Except SearchError α) (r : Recorded σ) :
    ∃ item more s' r', s.next session.recorded map r = (item, s', r') ∧
      r'.exchanges = r.exchanges ++ more ∧ Drains q sorted (fetches ++ more) s' ∧
      (item = none → s'.state = .exhausted) ∧
      (s.state ≠ .exhausted → s.page = [] → s.query.window ≠ none → more ≠ []) := by
  obtain ⟨more, answer, s', r', hready, hlog, hlooked⟩ := h.follows.exists_hasNext session r
  have hdrains := h.looked hlooked
  cases hlooked.tells with
  | record hstate hpage =>
      obtain ⟨record, rest, hfront⟩ := List.exists_cons_of_ne_nil hpage
      refine ⟨some (map record), more, { s' with page := rest }, r', ?_, hlog,
        hdrains.handOut hstate rest, fun hnone => absurd hnone (Option.some_ne_none _),
        hlooked.more_ne_nil⟩
      simp only [next, hready, tryNext, hasNext_of_page hstate hfront, hfront]
  | ended hstate =>
      refine ⟨none, more, s', r', ?_, hlog, hdrains, fun _ => hstate, hlooked.more_ne_nil⟩
      rw [next, hready]
  | @failed hstate e =>
      refine ⟨some (.error e), more, s', r', ?_, hlog, hdrains,
        fun hnone => absurd hnone (Option.some_ne_none _), hlooked.more_ne_nil⟩
      rw [next, hready]

/-- Reading stops early only at the end, and does not begin without a fetch. -/
theorem Drains.exists_collect (h : Drains q sorted fetches s) (session : Session σ)
    (map : Record → Except SearchError α) (fuel : Nat) (r : Recorded σ) :
    ∃ items more s' r', s.collect session.recorded map fuel r = (items, s', r') ∧
      r'.exchanges = r.exchanges ++ more ∧ Drains q sorted (fetches ++ more) s' ∧
      (items.length < fuel → s'.state = .exhausted) ∧
      (0 < fuel → s.state ≠ .exhausted → s.page = [] → s.query.window ≠ none → more ≠ []) := by
  induction fuel generalizing s r fetches with
  | zero =>
      refine ⟨[], [], s, r, rfl, (List.append_nil _).symm, ?_, nofun, nofun⟩
      rwa [List.append_nil]
  | succ fuel ih =>
      obtain ⟨item, more, s₁, r₁, hnext, hlog, hdrains, hended, hmore⟩ :=
        h.exists_next session map r
      cases item with
      | none =>
          refine ⟨[], more, s₁, r₁, ?_, hlog, hdrains, fun _ => hended rfl, fun _ => hmore⟩
          simp only [collect, hnext]
      | some item =>
          obtain ⟨items, others, s₂, r₂, hcollect, hlog', hdrains', hended', -⟩ := ih hdrains r₁
          refine ⟨item :: items, more ++ others, s₂, r₂, ?_, ?_, ?_, ?_, ?_⟩
          · simp only [collect, hnext, hcollect]
          · rw [hlog', hlog, List.append_assoc]
          · rwa [← List.append_assoc]
          · intro hlt
            exact hended' (Nat.lt_of_succ_lt_succ hlt)
          · intro _ hstate hpage hwindow
            exact List.append_ne_nil_of_left_ne_nil (hmore hstate hpage hwindow) _

end Drains

end ResultStream

namespace Index

variable (ix : Index) (context : SearchContext) (p : Predicate)

/-- The statement that fetches a page of a search: the match, the order if it is kept, and the
window of the page. -/
def pageStatement (sorted : Bool) (page : Nat) : String :=
  (ix.build context p).matchText ++ fetchReturn ++ (if sorted then p.orderText else "") ++
    ((context.windowOn ix.config page).map Window.render).getD ""

theorem window_onPage_build (page : Nat) :
    ((ix.build context p).onPage page).window = context.windowOn ix.config page := by
  cases hlimit : context.limit with
  | none =>
      simp only [Query.window, Query.onPage, Paging.window, Paging.consumed, Paging.atPage,
        build_limit, build_offset, build_size, SearchContext.windowOn, hlimit]
  | some limit =>
      simp only [Query.window, Query.onPage, Paging.window, Paging.consumed, Paging.atPage,
        build_limit, build_offset, build_size, SearchContext.windowOn, hlimit]

theorem window_build : (ix.build context p).window = context.windowOn ix.config 0 := by
  rw [← window_onPage_build, ← build_page ix context p]
  rfl

theorem fetchStatement_onPage_build (sorted : Bool) (page : Nat) :
    ((ix.build context p).onPage page).fetchStatement sorted =
      ix.pageStatement context p sorted page := by
  rw [Query.fetchStatement, Query.windowText, window_onPage_build, pageStatement]
  rfl

theorem fetchStatement_build (sorted : Bool) :
    (ix.build context p).fetchStatement sorted = ix.pageStatement context p sorted 0 := by
  rw [← fetchStatement_onPage_build, ← build_page ix context p]
  rfl

/-- A stream is sorted by what the explanation says: an order that is missing cannot be left out. -/
theorem pageStatement_streamOf (count : UInt64) (page : Nat) :
    ix.pageStatement context p (ix.streamOf (ix.build context p) count).sorted page =
      ix.pageStatement context p (count < ix.config.sortThreshold) page := by
  have hsorted : (ix.streamOf (ix.build context p) count).sorted =
      (p.sort?.isSome && decide (count < ix.config.sortThreshold)) := rfl
  rw [pageStatement, pageStatement, hsorted, Predicate.orderText]
  cases p.sort? with
  | none => simp
  | some order => simp

/-- An index that has not been used counts, whatever is searched for. -/
theorem search_emptyCache {σ : Type} (session : Session σ) (state : σ) :
    ix.search session state ix.emptyCache context p =
      match session.count state (ix.build context p).countStatement
        (ix.build context p).parameters with
      | (.ok count, state) =>
        (.ok (ix.streamOf (ix.build context p) count),
          ix.emptyCache.put (ix.build context p).digest count, state)
      | (.error e, state) => (.error e, ix.emptyCache, state) := by
  have hget : ix.emptyCache.get (ix.build context p).digest = (none, ix.emptyCache) := rfl
  rw [search, resultCount, hget]
  rcases session.count state (ix.build context p).countStatement
    (ix.build context p).parameters with ⟨e | count, state'⟩
  · rfl
  · rfl

variable {ix context p} in
/-- A fetch of a page of a search. -/
theorem exists_fetch_of_drains {count : UInt64} {fetches : List Exchange} {s : ResultStream}
    (h : ResultStream.Drains (ix.build context p)
      (ix.streamOf (ix.build context p) count).sorted fetches s)
    {k : Nat} {x : Exchange} (hx : fetches[k]? = some x) :
    (context.windowOn ix.config k).isSome ∧
      ∃ answer, x = .fetch (ix.pageStatement context p (count < ix.config.sortThreshold) k)
        (ix.build context p).parameters answer := by
  have hasks := h.follows.asked k x hx
  rw [build_page, Nat.zero_add] at hasks
  obtain ⟨w, answer, hwindow, rfl⟩ := hasks
  refine ⟨?_, answer, ?_⟩
  · rw [← window_onPage_build, hwindow]
    rfl
  · rw [← pageStatement_streamOf, ← fetchStatement_onPage_build, Query.fetchStatement,
      Query.windowText, hwindow]
    rfl

/-- What a stream of a search fetches when it is read to the end. -/
theorem exists_collect_fetches {σ α : Type} (session : Session σ)
    (map : Record → Except SearchError α) (count : UInt64) (fuel : Nat) (r : Recorded σ) :
    let stream := ix.streamOf (ix.build context p) count
    ∃ items fetches s r',
      stream.collect session.recorded map fuel r = (items, s, r') ∧
      r'.exchanges = r.exchanges ++ fetches ∧
      ResultStream.Drains (ix.build context p) stream.sorted fetches s ∧
      (items.length < fuel → s.state = .exhausted) ∧
      (0 < fuel → context.limit ≠ some 0 → fetches ≠ []) := by
  intro stream
  have hopened := ResultStream.drains_opened (ix.build context p) stream.sorted stream.metadata
  obtain ⟨items, fetches, s, r', hcollect, hlog, hdrains, hended, hfetches⟩ :=
    hopened.exists_collect session map fuel r
  refine ⟨items, fetches, s, r', hcollect, hlog, hdrains, hended, ?_⟩
  intro hfuel hlimit
  apply hfetches hfuel nofun rfl
  change (ix.build context p).window ≠ none
  rwa [window_build, ne_eq, SearchContext.windowOn_zero_eq_none_iff]

end Index

/-- An explanation tells everything that a search on an unused index asks of its session, for every
session. The search counts with the explained statement, which has neither an order nor a window,
and asks nothing else if the count fails. Whoever then reads the stream, however far, makes the
session fetch one page after the other, each with the explained parameters and the explained
statement on that page; the order is left out exactly from the threshold on. The first page is
fetched unless the limit is zero. Reading stops early only when the stream has ended: then there is
no further page, or the last answer has no records. -/
theorem explanation_tells_exchanges {σ α : Type} (ix : Index) (context : SearchContext)
    (p : Predicate) (session : Session σ) (map : Record → Except SearchError α) (state : σ) :
    let e := ix.explain context p
    let q := ix.build context p
    e.countStatement = q.matchText ++ countReturn ∧
    (∀ sort paging, { q with sort := sort, paging := paging }.countStatement =
      e.countStatement) ∧
    e.fetchStatement = ix.pageStatement context p true 0 ∧
    ∃ answer state', session.count state e.countStatement e.parameters = (answer, state') ∧
      let counted : Recorded σ := ⟨state', [.count e.countStatement e.parameters answer]⟩
      match answer with
      | .error failure => ∃ cache,
        ix.search session.recorded ⟨state, []⟩ ix.emptyCache context p =
          (.error failure, cache, counted)
      | .ok count => ∃ s cache,
        ix.search session.recorded ⟨state, []⟩ ix.emptyCache context p =
          (.ok s, cache, counted) ∧
        ∀ fuel, ∃ items s' r fetches,
          s.collect session.recorded map fuel counted = (items, s', r) ∧
          r.exchanges = counted.exchanges ++ fetches ∧
          (∀ (k : Nat) (x : Exchange), fetches[k]? = some x →
            (context.windowOn ix.config k).isSome ∧
            ∃ answer, x = .fetch (ix.pageStatement context p (count < e.sortThreshold) k)
              e.parameters answer) ∧
          (context.limit = some 0 → fetches = []) ∧
          (0 < fuel → context.limit ≠ some 0 → fetches ≠ []) ∧
          (∀ (k : Nat) (x : Exchange), fetches[k]? = some x → x.page = [] →
            k + 1 = fetches.length ∧ s'.state = .exhausted) ∧
          (items.length < fuel → s'.state = .exhausted) ∧
          (s'.state = .exhausted →
            context.windowOn ix.config fetches.length = none ∨
              ∃ x, fetches.getLast? = some x ∧ x.page = []) := by
  intro e q
  refine ⟨rfl, fun _ _ => rfl, ix.fetchStatement_build context p true, ?_⟩
  rcases hcount : session.count state e.countStatement e.parameters with ⟨answer, state'⟩
  have hrecorded : session.recorded.count ⟨state, []⟩ q.countStatement q.parameters =
      (answer, ⟨state', [.count e.countStatement e.parameters answer]⟩) := by
    have hsame : session.count state q.countStatement q.parameters = (answer, state') := hcount
    simp only [Session.recorded, hsame, List.nil_append]
    rfl
  have hsearch := ix.search_emptyCache context p session.recorded ⟨state, []⟩
  rw [hrecorded] at hsearch
  refine ⟨answer, state', rfl, ?_⟩
  cases answer with
  | error failure => exact ⟨_, hsearch⟩
  | ok count =>
      refine ⟨_, _, hsearch, ?_⟩
      intro fuel
      obtain ⟨items, fetches, s', r, hcollect, hlog, hdrains, hread, hbegun⟩ :=
        ix.exists_collect_fetches context p session map count fuel
          ⟨state', [.count e.countStatement e.parameters (.ok count)]⟩
      have hfetches (k : Nat) (x : Exchange) (hx : fetches[k]? = some x) :=
        Index.exists_fetch_of_drains hdrains hx
      refine ⟨items, s', r, fetches, hcollect, hlog, hfetches, ?_, hbegun, hdrains.fed, hread, ?_⟩
      · intro hlimit
        rcases fetches with _ | ⟨x, rest⟩
        · rfl
        · have hwindow := (hfetches 0 x rfl).1
          rw [(SearchContext.windowOn_zero_eq_none_iff _).mpr hlimit] at hwindow
          exact absurd hwindow (by decide)
      · intro hended
        rw [← ix.window_onPage_build context p]
        have hstops := hdrains.ended hended
        rwa [build_page, Nat.zero_add] at hstops

/-- Three records in pages of two, and too many to be sorted: the third page is empty. -/
theorem explanation_tells_exchanges_threeRecords :
    let ix : Index := { kind := .node, config := { sortThreshold := 3 } }
    let context : SearchContext := { pageSize := some 2 }
    let p := (Predicate.notEmpty "name").sortedBy "name" .lexical true
    let e := ix.explain context p
    let counted : Recorded Memory := ⟨threeRecords, [.count e.countStatement e.parameters (.ok 3)]⟩
    let unsorted := "MATCH (n) WHERE n.`name` IS NOT NULL RETURN DISTINCT n"
    e.fetchStatement = unsorted ++ " ORDER BY n.`name` DESC SKIP 0 LIMIT 2" ∧
    ix.pageStatement context p false 2 = unsorted ++ " SKIP 4 LIMIT 2" ∧
    ∃ s cache items s' r first second third,
      ix.search Memory.session.recorded ⟨threeRecords, []⟩ ix.emptyCache context p =
        (.ok s, cache, counted) ∧
      s.collect Memory.session.recorded Record.asNode 4 counted = (items, s', r) ∧
      r.exchanges = counted.exchanges ++
        [.fetch (ix.pageStatement context p false 0) e.parameters first,
          .fetch (ix.pageStatement context p false 1) e.parameters second,
          .fetch (ix.pageStatement context p false 2) e.parameters third] ∧
      s'.state = .exhausted ∧ (third = .ok [] ∨ ∃ failure, third = .error failure) := by
  intro ix context p e counted unsorted
  obtain ⟨-, -, -, answer, state', hcount, hanswered⟩ :=
    explanation_tells_exchanges ix context p Memory.session Record.asNode threeRecords
  obtain ⟨rfl, rfl⟩ := Prod.mk.inj hcount
  obtain ⟨s, cache, hsearch, hread⟩ := hanswered
  obtain rfl : ix.streamOf (ix.build context p) 3 = s := Except.ok.inj (congrArg Prod.fst hsearch)
  obtain ⟨items, s', r, fetches, hcollect, hlog, hfetches, -, -, -, hdrained, hends⟩ := hread 4
  -- The run is computed as far as its lengths.
  have hitems : items.length = 3 := by
    refine (congrArg (fun read => read.1.length) hcollect).symm.trans ?_
    decide +kernel
  have hexchanges : r.exchanges.length = 4 := by
    refine (congrArg (fun read => read.2.2.exchanges.length) hcollect).symm.trans ?_
    decide +kernel
  rw [hlog, List.length_append] at hexchanges
  obtain ⟨x, y, z, rfl⟩ := List.length_eq_three.mp (Nat.add_left_cancel hexchanges)
  obtain ⟨-, first, rfl⟩ := hfetches 0 x rfl
  obtain ⟨-, second, rfl⟩ := hfetches 1 y rfl
  obtain ⟨-, third, rfl⟩ := hfetches 2 z rfl
  have hended : s'.state = .exhausted := hdrained (by omega)
  refine ⟨by decide +kernel, by decide +kernel, _, cache, items, s', r, first, second, third,
    hsearch, hcollect, ?_, hended, ?_⟩
  · rw [hlog]
    rfl
  · obtain hnone | ⟨x, hlast, hpage⟩ := hends hended
    · exact absurd hnone (Option.some_ne_none _)
    · obtain rfl := Option.some.inj hlast
      rcases third with failure | page
      · exact Or.inr ⟨failure, rfl⟩
      · exact Or.inl (congrArg Except.ok hpage)

end GraphSearch

import GraphSearch.Index.Stream
import GraphSearch.Proofs.WindowText

/-!
Streams over memory hand out the wanted records, page by page.

What a stream still has to hand out is the rest of its page and the rest of the wanted records behind
the pages that it has fetched. Fetching a page moves records from the second part to the first,
and handing a record out takes it from the front of both together.
-/

namespace GraphSearch

/-- How many pages of a size hold a number of records. -/
def pagesFor (size count : Nat) : Nat :=
  (count + size - 1) / size

theorem lt_pagesFor_iff {size : Nat} (hsize : 0 < size) (count page : Nat) :
    page < pagesFor size count ↔ page * size < count := by
  rw [pagesFor, ← Nat.succ_le_iff, Nat.le_div_iff_mul_le hsize, Nat.succ_mul]
  omega

/-- How many pages are asked for until no record is left. Without a limit, the last page is empty;
a limit that is reached earlier makes that page unnecessary. -/
def fetchesFor (size count : Nat) (limit : Option UInt64) : Nat :=
  match limit with
  | none => pagesFor size count + 1
  | some limit => min (pagesFor size count + 1) (pagesFor size limit.toNat)

/-- As many of the records as a limit allows. -/
def limitedTo (limit : Option UInt64) (records : List Record) : List Record :=
  match limit with
  | none => records
  | some limit => records.take limit.toNat

theorem drop_min_of_length_le {α : Type} {xs : List α} {bound : Nat} (h : xs.length ≤ bound)
    (n : Nat) : xs.drop (min n bound) = xs.drop n := by
  rcases Nat.le_total n bound with hn | hn
  · rw [Nat.min_eq_left hn]
  · rw [Nat.min_eq_right hn, List.drop_eq_nil_of_le h, List.drop_eq_nil_of_le (Nat.le_trans h hn)]

/-- A page begins within a bound if the page before it begins among at most half as many rows, and
a page is smaller than the bound itself. -/
theorem mul_lt_of_before {page size count bound : Nat} (hsize : size < bound)
    (hcount : 2 * count ≤ bound) (h : page = 0 ∨ (page - 1) * size < count) :
    page * size < bound := by
  rcases page with _ | _ | page
  · omega
  · omega
  · rw [Nat.succ_mul]
    have hfirst : size ≤ (page + 1) * size := Nat.le_mul_of_pos_left size (Nat.succ_pos page)
    have hbefore : (page + 1) * size < count := h.resolve_left (Nat.succ_ne_zero _)
    omega

namespace Paging

/-- The records that all pages together show. -/
def wanted (p : Paging) (records : List Record) : List Record :=
  limitedTo p.limit (records.drop p.offset.toNat)

/-- How many pages are asked for. -/
def fetches (p : Paging) (records : List Record) : Nat :=
  fetchesFor p.size.toNat (records.drop p.offset.toNat).length p.limit

theorem toNat_size_ofSize (size : UInt64) : (ofSize size).size.toNat = max 1 size.toNat := by
  rw [ofSize]
  split
  · next hpos => exact (Nat.max_eq_right hpos).symm
  · next hzero =>
      rw [Nat.eq_zero_of_not_pos hzero]
      decide

theorem page_ofSize (size : UInt64) : (ofSize size).page = 0 := by
  rw [ofSize]
  split <;> rfl

/-- The paging on another page. -/
def atPage (p : Paging) (page : Nat) : Paging :=
  { p with page := page }

variable {p : Paging} {records : List Record} {page : Nat}

theorem window_eq_none_iff_exists :
    (p.atPage page).window = none ↔
      ∃ limit, p.limit = some limit ∧ limit.toNat ≤ page * p.size.toNat := by
  cases hlimit : p.limit <;> simp [window, atPage, consumed, hlimit]

/-- How many rows a page takes as long as there are rows left for it. -/
def takeOn (p : Paging) (page : Nat) : Nat :=
  match p.limit with
  | none => p.size.toNat
  | some limit => min p.size.toNat (limit.toNat - page * p.size.toNat)

theorem of_window_eq_some {w : Window} (h : (p.atPage page).window = some w) :
    w = ⟨min (p.offset.toNat + page * p.size.toNat) largestSkip, p.takeOn page⟩ ∧
      ∀ limit, p.limit = some limit → page * p.size.toNat < limit.toNat := by
  rw [takeOn]
  cases hlimit : p.limit with
  | none =>
      simp only [window, atPage, consumed, hlimit, Option.some.injEq] at h
      exact ⟨h.symm, fun limit hsome => absurd hsome (by simp)⟩
  | some limit =>
      simp only [window, atPage, consumed, hlimit, Option.ite_none_left_eq_some,
        Option.some.injEq, Nat.not_le] at h
      obtain ⟨hleft, rfl⟩ := h
      refine ⟨rfl, fun used hused => ?_⟩
      rwa [← Option.some.inj hused]

/-- No window is left when the limit has been used up, and then no record is. -/
theorem of_window_eq_none (h : (p.atPage page).window = none) (records : List Record) :
    (p.wanted records).drop (page * p.size.toNat) = [] ∧
      ∃ limit, p.limit = some limit ∧ limit.toNat ≤ page * p.size.toNat := by
  obtain ⟨limit, hlimit, hused⟩ := window_eq_none_iff_exists.mp h
  refine ⟨?_, limit, hlimit, hused⟩
  apply List.drop_eq_nil_of_le
  rw [wanted, hlimit, limitedTo]
  exact Nat.le_trans (List.length_take_le _ _) hused

theorem window_rows {w : Window} (h : (p.atPage page).window = some w)
    (hlength : records.length ≤ largestSkip) :
    (records.drop w.skip).take w.take =
      ((p.wanted records).drop (page * p.size.toNat)).take p.size.toNat := by
  obtain ⟨rfl, -⟩ := of_window_eq_some h
  dsimp only
  rw [drop_min_of_length_le hlength, wanted, takeOn]
  cases p.limit with
  | none => rw [limitedTo, List.drop_drop]
  | some limit => rw [limitedTo, List.drop_take, List.drop_drop, List.take_take]

theorem wanted_length (p : Paging) (records : List Record) :
    (p.wanted records).length =
      match p.limit with
      | none => records.length - p.offset.toNat
      | some limit => min limit.toNat (records.length - p.offset.toNat) := by
  rw [wanted]
  cases p.limit with
  | none => exact List.length_drop
  | some limit => rw [limitedTo, List.length_take, List.length_drop]

/-- The pages before an empty one and that one itself are all that is asked for. -/
theorem fetches_of_empty {w : Window} (h : (p.atPage page).window = some w)
    (hempty : (p.wanted records).length ≤ page * p.size.toNat)
    (hbefore : page = 0 ∨ (page - 1) * p.size.toNat < (p.wanted records).length) :
    page + 1 = p.fetches records := by
  have hcount := lt_pagesFor_iff p.size_pos (records.length - p.offset.toNat) page
  have hprevious := lt_pagesFor_iff p.size_pos (records.length - p.offset.toNat) (page - 1)
  rw [wanted_length] at hempty hbefore
  rw [fetches, List.length_drop]
  cases hlimit : p.limit with
  | none =>
      simp only [hlimit] at hempty hbefore
      rw [fetchesFor]
      omega
  | some limit =>
      have hlimited := (of_window_eq_some h).2 limit hlimit
      have hpages := (lt_pagesFor_iff p.size_pos _ _).mpr hlimited
      simp only [hlimit] at hempty hbefore
      rw [fetchesFor]
      omega

/-- The pages up to the limit are all that is asked for. -/
theorem fetches_of_limit {limit : UInt64} (hlimit : p.limit = some limit)
    (hused : limit.toNat ≤ page * p.size.toNat)
    (hbefore : page = 0 ∨ (page - 1) * p.size.toNat < (p.wanted records).length) :
    page = p.fetches records := by
  have hprevious := lt_pagesFor_iff p.size_pos (records.length - p.offset.toNat) (page - 1)
  have hpages := lt_pagesFor_iff p.size_pos limit.toNat page
  have hlastPage := lt_pagesFor_iff p.size_pos limit.toNat (page - 1)
  rw [wanted_length] at hbefore
  rw [fetches, List.length_drop]
  simp only [hlimit] at hbefore
  rw [hlimit, fetchesFor]
  omega

end Paging

/-- The fetches that a session has been asked for. -/
def Logged.fetches {σ : Type} (l : Logged σ) : Nat :=
  l.calls.countP fun call => !call.isCount

namespace ResultStream

/-- The number of the page that the stream fetches next. -/
def pageNumber (s : ResultStream) : Nat :=
  s.query.paging.page

/-- A stream on its way through the wanted records. -/
structure Serving (base : Paging) (records : List Record) (s : ResultStream) : Prop where
  opened : s.closed = false
  paging : s.query.paging = base.atPage s.pageNumber
  fresh : s.state = .unstarted → s.page = []
  /-- The page before was not empty. -/
  before : s.state ≠ .exhausted →
    s.pageNumber = 0 ∨ (s.pageNumber - 1) * base.size.toNat < (base.wanted records).length
  finished : s.state = .exhausted → s.pageNumber = base.fetches records

/-- The wanted records behind the fetched pages. -/
def unfetched (base : Paging) (records : List Record) (s : ResultStream) : List Record :=
  (base.wanted records).drop (s.pageNumber * base.size.toNat)

/-- The records that the stream has not handed out. -/
def pending (base : Paging) (records : List Record) (s : ResultStream) : List Record :=
  if s.state = .exhausted then [] else s.page ++ s.unfetched base records

/-- What becomes of a stream over memory when it is read: the log has the pages that it has gone
on. -/
structure Advances (base : Paging) (m : Memory) (s : ResultStream) (l : Logged Memory)
    (s' : ResultStream) (l' : Logged Memory) : Prop where
  serving : s'.Serving base m.records
  memory : l'.state = m
  fetches : l'.fetches + s.pageNumber = l.fetches + s'.pageNumber

variable {base : Paging} {m : Memory} {s s' s'' : ResultStream} {l l' l'' : Logged Memory}

theorem Advances.refl (hs : s.Serving base m.records) (hl : l.state = m) :
    Advances base m s l s l :=
  ⟨hs, hl, rfl⟩

theorem Advances.trans (h : Advances base m s l s' l') (h' : Advances base m s' l' s'' l'') :
    Advances base m s l s'' l'' := by
  refine ⟨h'.serving, h'.memory, ?_⟩
  have hfirst := h.fetches
  have hsecond := h'.fetches
  omega

theorem pending_of_exhausted (h : s.state = .exhausted) (base : Paging)
    (records : List Record) :
    s.pending base records = [] := by
  rw [pending, if_pos h]

theorem pending_of_not_exhausted (h : s.state ≠ .exhausted) (records : List Record) :
    s.pending base records = s.page ++ s.unfetched base records := by
  rw [pending, if_neg h]

theorem logged_fetch (hfailure : m.failure = none) (hl : l.state = m) (statement : String)
    (parameters : Dictionary Value) :
    Memory.session.logged.fetch l statement parameters =
      (.ok (m.rows statement), ⟨m, ⟨false, statement, parameters⟩ :: l.calls⟩) := by
  subst hl
  simp only [Session.logged, Memory.session, hfailure]

/-- An empty page ends the stream, and any other page has the next wanted records. -/
theorem receive_spec (hs : s.Serving base m.records) (hstate : s.state ≠ .exhausted)
    {w : Window} (hwindow : (base.atPage s.pageNumber).window = some w) :
    let s' := s.receive ((s.unfetched base m.records).take base.size.toNat)
    s'.Serving base m.records ∧ s'.pageNumber = s.pageNumber + 1 ∧
      s'.pending base m.records = s.unfetched base m.records ∧
      ((s'.state = .fetching ∧ s'.page ≠ []) ∨
        (s'.state = .exhausted ∧ s.unfetched base m.records = [])) := by
  intro s'
  have hpaging : s.query.paging.next = base.atPage (s.pageNumber + 1) := by
    rw [Paging.next, hs.paging]
    rfl
  cases htake : (s.unfetched base m.records).take base.size.toNat with
  | nil =>
      have hnothing : s.unfetched base m.records = [] := by
        rcases List.take_eq_nil_iff.mp htake with hsize | hnil
        · exact absurd hsize (Nat.ne_of_gt base.size_pos)
        · exact hnil
      have hs' : s' = ResultStream.exhaust { s with query := s.query.nextPage } := by
        simp only [s', htake]
        rfl
      rw [hs', hnothing]
      refine ⟨⟨hs.opened, hpaging, nofun, ?_, ?_⟩, rfl, pending_of_exhausted rfl _ _,
        Or.inr ⟨rfl, rfl⟩⟩
      · intro hrunning
        exact absurd rfl hrunning
      · intro _
        exact Paging.fetches_of_empty hwindow (List.drop_eq_nil_iff.mp hnothing)
          (hs.before hstate)
  | cons record rest =>
      have hsomething : s.pageNumber * base.size.toNat < (base.wanted m.records).length := by
        by_contra hend
        rw [unfetched, List.drop_eq_nil_of_le (Nat.le_of_not_lt hend), List.take_nil] at htake
        exact absurd htake (by simp)
      have hs' : s' =
          { s with query := s.query.nextPage, page := record :: rest, state := .fetching } := by
        simp only [s', htake]
        rfl
      rw [hs']
      refine ⟨⟨hs.opened, hpaging, nofun, ?_, nofun⟩, rfl, ?_, Or.inl ⟨rfl, nofun⟩⟩
      · intro _
        right
        exact hsomething
      · have hrunning : StreamState.fetching ≠ .exhausted := by decide
        rw [pending_of_not_exhausted hrunning]
        change (record :: rest) ++
          (base.wanted m.records).drop ((s.pageNumber + 1) * base.size.toNat) = _
        rw [← htake, Nat.succ_mul, ← List.drop_drop]
        exact List.take_append_drop _ _

/-- A stream that has handed out its page fetches the next one: either it gets records, or there
are none left. -/
theorem fetchPage_spec (hfailure : m.failure = none) (hlength : m.records.length ≤ largestSkip)
    (hs : s.Serving base m.records) (hl : l.state = m) (hstate : s.state ≠ .exhausted)
    (hpage : s.page = []) :
    ∃ s' l', s.fetchPage Memory.session.logged l = (.ok (), s', l') ∧
      Advances base m s l s' l' ∧
      s'.pending base m.records = s.pending base m.records ∧
      ((s'.state = .fetching ∧ s'.page ≠ []) ∨
        (s'.state = .exhausted ∧ s.pending base m.records = [])) := by
  have hpending : s.pending base m.records = s.unfetched base m.records := by
    rw [pending_of_not_exhausted hstate, hpage, List.nil_append]
  have hwindow : s.query.window = (base.atPage s.pageNumber).window :=
    congrArg Paging.window hs.paging
  rw [fetchPage, hs.opened, Bool.false_or, hpending]
  cases hnext : (base.atPage s.pageNumber).window with
  | none =>
      obtain ⟨hnothing, limit, hlimit, hused⟩ := Paging.of_window_eq_none hnext m.records
      rw [if_pos (by rw [hwindow, hnext]; rfl)]
      refine ⟨s.exhaust, l, rfl, ⟨⟨hs.opened, hs.paging, nofun, ?_, ?_⟩, hl, rfl⟩, ?_,
        Or.inr ⟨rfl, hnothing⟩⟩
      · intro hrunning
        exact absurd rfl hrunning
      · intro _
        exact Paging.fetches_of_limit hlimit hused (hs.before hstate)
      · rw [pending_of_exhausted rfl]
        exact hnothing.symm
  | some w =>
      have hbounds := Paging.bounds_of_window_eq_some hnext
      have hrows : m.rows s.statement = (s.unfetched base m.records).take base.size.toNat := by
        rw [statement, Memory.rows_fetchStatement m s.sorted (hwindow.trans hnext) hbounds.1
          hbounds.2]
        exact Paging.window_rows hnext hlength
      obtain ⟨hserving, hnumber, hremaining, hends⟩ := receive_spec hs hstate hnext
      rw [if_neg (by rw [hwindow, hnext]; exact Bool.false_ne_true),
        logged_fetch hfailure hl, hrows]
      refine ⟨_, _, rfl, ⟨hserving, rfl, ?_⟩, hremaining, hends⟩
      rw [hnumber, Logged.fetches, List.countP_cons_of_pos (by rfl), ← Logged.fetches]
      omega

theorem hasNext_of_exhausted {σ : Type} {session : Session σ} {state : σ}
    (h : s.state = .exhausted) : s.hasNext session state = (.ok false, s, state) := by
  rw [hasNext, h]

theorem hasNext_of_page {σ : Type} {session : Session σ} {state : σ} (h : s.state = .fetching)
    {record : Record} {rest : List Record} (hpage : s.page = record :: rest) :
    s.hasNext session state = (.ok true, s, state) := by
  rw [hasNext, h, hpage]

theorem hasNext_of_fetchPage {σ : Type} {session : Session σ} {state state' : σ}
    (hstate : s.state ≠ .exhausted) (hpage : s.page = [])
    (hfetch : s.fetchPage session state = (.ok (), s', state')) :
    s.hasNext session state = (.ok (s'.state == .fetching), s', state') := by
  rw [hasNext, hpage]
  cases hs : s.state with
  | unstarted => simp only [hfetch]
  | fetching => simp only [hfetch]
  | exhausted => exact absurd hs hstate

theorem hasNext_spec (hfailure : m.failure = none) (hlength : m.records.length ≤ largestSkip)
    (hs : s.Serving base m.records) (hl : l.state = m) :
    ∃ s' l', s.hasNext Memory.session.logged l =
        (.ok !(s.pending base m.records).isEmpty, s', l') ∧
      Advances base m s l s' l' ∧
      s'.pending base m.records = s.pending base m.records ∧
      ((s'.state = .fetching ∧ s'.page ≠ []) ∨
        (s'.state = .exhausted ∧ s.pending base m.records = [])) := by
  by_cases hexhausted : s.state = .exhausted
  · have hnothing := pending_of_exhausted hexhausted base m.records
    refine ⟨s, l, ?_, Advances.refl hs hl, rfl, Or.inr ⟨hexhausted, hnothing⟩⟩
    rw [hasNext_of_exhausted hexhausted, hnothing]
    rfl
  · cases hpage : s.page with
    | cons record rest =>
        have hfetching : s.state = .fetching := by
          cases hstate : s.state with
          | unstarted =>
              rw [hs.fresh hstate] at hpage
              exact absurd hpage (by simp)
          | fetching => rfl
          | exhausted => exact absurd hstate hexhausted
        refine ⟨s, l, ?_, Advances.refl hs hl, rfl, Or.inl ⟨hfetching, by simp [hpage]⟩⟩
        rw [hasNext_of_page hfetching hpage, pending_of_not_exhausted hexhausted, hpage]
        rfl
    | nil =>
        obtain ⟨s', l', hfetch, hadvances, hpending, hends⟩ :=
          fetchPage_spec hfailure hlength hs hl hexhausted hpage
        refine ⟨s', l', ?_, hadvances, hpending, hends⟩
        rw [hasNext_of_fetchPage hexhausted hpage hfetch]
        rcases hends with ⟨hfetching, hrecords⟩ | ⟨hended, hnothing⟩
        · rw [← hpending, pending_of_not_exhausted (by rw [hfetching]; decide), hfetching]
          cases hnew : s'.page with
          | nil => exact absurd hnew hrecords
          | cons record rest => rfl
        · rw [hended, hnothing]
          rfl

theorem Serving.handOut (hs : s.Serving base m.records) (hstate : s.state = .fetching)
    (rest : List Record) : Serving base m.records { s with page := rest } := by
  refine ⟨hs.opened, hs.paging, ?_, hs.before, hs.finished⟩
  intro hunstarted
  exact absurd (hstate.symm.trans hunstarted) (by decide)

variable {α : Type} (map : Record → Except SearchError α)

/-- The next item is what the mapper makes of the first record that is still to be handed out. -/
theorem next_spec (hfailure : m.failure = none) (hlength : m.records.length ≤ largestSkip)
    (hs : s.Serving base m.records) (hl : l.state = m) :
    ∃ s' l', s.next Memory.session.logged map l =
        ((s.pending base m.records).head?.map map, s', l') ∧
      Advances base m s l s' l' ∧
      s'.pending base m.records = (s.pending base m.records).tail ∧
      (s.pending base m.records = [] → s'.state = .exhausted) := by
  obtain ⟨s₁, l₁, hready, hadvances, hpending, hends⟩ :=
    hasNext_spec hfailure hlength hs hl
  rcases hends with ⟨hfetching, hrecords⟩ | ⟨hended, hnothing⟩
  · cases hpage : s₁.page with
    | nil => exact absurd hpage hrecords
    | cons record rest =>
        have hrunning : s₁.state ≠ .exhausted := by
          rw [hfetching]
          decide
        have hfront : s.pending base m.records = record :: (rest ++ s₁.unfetched base m.records) := by
          rw [← hpending, pending_of_not_exhausted hrunning, hpage]
          rfl
        refine ⟨{ s₁ with page := rest }, l₁, ?_, ⟨hadvances.serving.handOut hfetching rest,
          hadvances.memory, hadvances.fetches⟩, ?_, ?_⟩
        · rw [next, hready, hfront]
          simp only [List.isEmpty_cons, Bool.not_false]
          rw [tryNext, hasNext_of_page hfetching hpage]
          simp only [hpage]
          rfl
        · rw [hfront]
          exact pending_of_not_exhausted (s := { s₁ with page := rest }) hrunning m.records
        · rw [hfront]
          exact nofun
  · refine ⟨s₁, l₁, ?_, hadvances, ?_, fun _ => hended⟩
    · rw [next, hready, hnothing]
      rfl
    · rw [hpending, hnothing]
      rfl

/-- Reading to the end hands out all that is left, each record once and in order. -/
theorem collect_spec (hfailure : m.failure = none) (hlength : m.records.length ≤ largestSkip)
    {fuel : Nat} (hs : s.Serving base m.records) (hl : l.state = m)
    (hfuel : (s.pending base m.records).length < fuel) :
    ∃ s' l', s.collect Memory.session.logged map fuel l =
        ((s.pending base m.records).map map, s', l') ∧
      Advances base m s l s' l' ∧ s'.state = .exhausted := by
  induction fuel generalizing s l with
  | zero => exact absurd hfuel (Nat.not_lt_zero _)
  | succ fuel ih =>
      obtain ⟨s₁, l₁, hnext, hadvances, hpending, hends⟩ :=
        next_spec map hfailure hlength hs hl
      rw [collect, hnext]
      cases hleft : s.pending base m.records with
      | nil => exact ⟨s₁, l₁, rfl, hadvances, hends hleft⟩
      | cons record rest =>
          rw [hleft] at hpending hfuel
          obtain ⟨s₂, l₂, hcollect, hadvances', hended⟩ :=
            ih hadvances.serving hadvances.memory
              (by rw [hpending]; exact Nat.lt_of_succ_lt_succ hfuel)
          refine ⟨s₂, l₂, ?_, hadvances.trans hadvances', hended⟩
          simp only [List.head?_cons, Option.map_some, hcollect, hpending, List.tail_cons,
            List.map_cons]

theorem next_of_exhausted {σ : Type} {session : Session σ} {state : σ}
    (h : s.state = .exhausted) : s.next session map state = (none, s, state) := by
  rw [next, hasNext_of_exhausted h]

end ResultStream

end GraphSearch

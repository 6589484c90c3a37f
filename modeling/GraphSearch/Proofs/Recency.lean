import Mathlib.Data.Finset.Card
import GraphSearch.Proofs.CountTransparency

/-!
Which counts are known.

A search that succeeds uses the digest of its query, whether the count was known or not; one that
fails uses nothing. The cache knows the counts of the digests that were used last, as many as it has
room for. So a search asks the session exactly if its digest has not been used since the counts were
dropped, or if too many others have been used after it.
-/

namespace GraphSearch

/-! ### Members of a list in the order of their first places -/

section FirstPlaces

variable {α : Type} [DecidableEq α]

theorem eraseDups_filter (keep : α → Bool) :
    ∀ xs : List α, (xs.filter keep).eraseDups = xs.eraseDups.filter keep
  | [] => rfl
  | x :: rest => by
      rw [List.eraseDups_cons, List.filter_cons, List.filter_cons]
      by_cases hkeep : keep x
      · rw [if_pos hkeep, if_pos hkeep, List.eraseDups_cons, List.filter_comm,
          eraseDups_filter keep (rest.filter fun y => !y == x)]
      · rw [if_neg hkeep, if_neg hkeep, ← eraseDups_filter keep (rest.filter fun y => !y == x),
          List.filter_filter]
        -- There is no `x` left for the removal of its repetitions to take away.
        congr 1
        apply List.filter_congr
        intro y _
        by_cases hy : y = x
        · simp [hy, hkeep]
        · simp [hy]
termination_by xs => xs.length
decreasing_by all_goals exact Nat.lt_succ_of_le (List.length_filter_le _ _)

theorem nodup_eraseDups (xs : List α) : xs.eraseDups.Nodup := by
  induction xs with
  | nil => exact List.nodup_nil
  | cons x rest ih =>
      rw [List.eraseDups_cons, eraseDups_filter, List.nodup_cons]
      exact ⟨by simp, ih.filter _⟩

theorem eraseDups_length (xs : List α) : xs.eraseDups.length = xs.toFinset.card := by
  rw [← List.toFinset_card_of_nodup (nodup_eraseDups xs)]
  congr 1
  ext x
  simp

/-- Among the first `n` members are those in front of which fewer than `n` others stand. -/
theorem mem_take_eraseDups_iff {x : α} {xs : List α} {n : Nat} :
    x ∈ xs.eraseDups.take n ↔ x ∈ xs ∧ (xs.takeWhile (· ≠ x)).toFinset.card < n := by
  by_cases hx : x ∈ xs
  · obtain ⟨before, after, rfl, hbefore⟩ := List.eq_append_cons_of_mem hx
    have hfront : (before ++ x :: after).takeWhile (· ≠ x) = before := by
      rw [List.takeWhile_append_of_pos]
      · simp
      · intro y hy
        exact decide_eq_true fun heq => hbefore (heq ▸ hy)
    -- The members are those of `before`, then `x`, then those that come first after it.
    have horder : (before ++ x :: after).eraseDups =
        before.eraseDups ++ x :: ((after.removeAll before).filter fun y => !y == x).eraseDups := by
      rw [List.eraseDups_append, List.cons_removeAll, if_pos (by simpa using hbefore),
        List.eraseDups_cons]
    have hnot : x ∉ before.eraseDups.take n := by
      intro hmem
      exact hbefore (List.mem_eraseDups.mp (List.mem_of_mem_take hmem))
    rw [hfront, horder, List.take_append, List.mem_append, or_iff_right hnot, eraseDups_length]
    cases hroom : n - before.toFinset.card with
    | zero =>
        simp only [List.take_zero, List.not_mem_nil, false_iff, not_and, Nat.not_lt]
        omega
    | succ room =>
        simp only [List.take_succ_cons, List.mem_cons, true_or, true_iff]
        exact ⟨hx, by omega⟩
  · have hnot : x ∉ xs.eraseDups.take n := by
      intro hmem
      exact hx (List.mem_eraseDups.mp (List.mem_of_mem_take hmem))
    exact ⟨fun h => absurd h hnot, fun h => absurd h.1 hx⟩

/-- One more member is enough to make up for one that is left out. -/
theorem take_filter_take {x : α} {xs : List α} (hnodup : xs.Nodup) (n : Nat) :
    ((xs.take (n + 1)).filter (· ≠ x)).take n = (xs.filter (· ≠ x)).take n := by
  induction xs generalizing n with
  | nil => rfl
  | cons y rest ih =>
      obtain ⟨hy, hrest⟩ := List.nodup_cons.mp hnodup
      rw [List.take_succ_cons, List.filter_cons, List.filter_cons]
      by_cases heq : y = x
      · subst heq
        -- The member that goes is the first, and none of the others is equal to it.
        have hall : ∀ zs ⊆ rest, zs.filter (· ≠ y) = zs := by
          intro zs hsub
          rw [List.filter_eq_self]
          intro z hz
          exact decide_eq_true fun h => hy (h ▸ hsub hz)
        rw [if_neg (by simp), if_neg (by simp), hall _ (List.take_subset n rest),
          hall _ (List.Subset.refl rest), List.take_take, Nat.min_self]
      · rw [if_pos (by simpa using heq), if_pos (by simpa using heq)]
        cases n with
        | zero => rfl
        | succ n => rw [List.take_succ_cons, List.take_succ_cons, ih hrest]

end FirstPlaces

/-! ### The digests in a cache -/

namespace CountCache

/-- The digests with known counts, the most recently used first. -/
def digests (c : CountCache) : List UInt64 :=
  c.entries.map Prod.fst

/-- The cache knows the digests that were used last, as many as it has room for; `uses` has the
latest one first. -/
structure Recalls (capacity : Nat) (uses : List UInt64) (c : CountCache) : Prop where
  capacity_eq : c.capacity = capacity
  digests_eq : c.digests = uses.eraseDups.take capacity

theorem map_fst_remove (digest : UInt64) (entries : List (UInt64 × UInt64)) :
    (remove digest entries).map Prod.fst = (entries.map Prod.fst).filter (· ≠ digest) := by
  rw [remove, List.filter_map]
  rfl

theorem find?_eq_none_iff {c : CountCache} {digest : UInt64} :
    c.find? digest = none ↔ digest ∉ c.digests := by
  rw [find?, List.lookup_eq_none_iff, digests, List.mem_map]
  constructor
  · rintro h ⟨entry, hentry, rfl⟩
    simpa using h entry hentry
  · intro h entry hentry
    exact bne_iff_ne.mpr fun heq => h ⟨entry, hentry, heq.symm⟩

/-- A hit brings its digest to the front as an insertion does: no other has to leave. -/
theorem put_eq_of_find? {c : CountCache} {digest count : UInt64}
    (hsize : c.entries.length ≤ c.capacity) (h : c.find? digest = some count) :
    c.put digest count = { c with entries := (digest, count) :: remove digest c.entries } := by
  have hshorter : (remove digest c.entries).length < c.entries.length := by
    rw [remove, List.length_filter_lt_length_iff_exists]
    exact ⟨_, mem_of_find? h, by simp⟩
  rw [put, List.take_of_length_le]
  rw [List.length_cons]
  omega

namespace Recalls

variable {capacity : Nat} {uses : List UInt64} {c : CountCache}

theorem clear (h : c.Recalls capacity uses) : c.clear.Recalls capacity [] :=
  ⟨h.capacity_eq, List.take_nil.symm⟩

theorem size_eq (h : c.Recalls capacity uses) : c.size = min capacity uses.toFinset.card := by
  rw [size, ← List.length_map, ← digests, h.digests_eq, List.length_take, eraseDups_length]

theorem find?_eq_none_iff (h : c.Recalls capacity uses) {digest : UInt64} :
    c.find? digest = none ↔
      digest ∉ uses ∨ capacity ≤ (uses.takeWhile (· ≠ digest)).toFinset.card := by
  rw [CountCache.find?_eq_none_iff, h.digests_eq, mem_take_eraseDups_iff,
    Classical.not_and_iff_not_or_not, Nat.not_lt]

/-- A digest that is put to the front pushes out the one that was used the longest ago. -/
theorem put (h : c.Recalls capacity uses) (hcapacity : 0 < capacity) (digest count : UInt64) :
    (c.put digest count).Recalls capacity (digest :: uses) := by
  obtain ⟨room, rfl⟩ := Nat.exists_eq_succ_of_ne_zero hcapacity.ne'
  refine ⟨h.capacity_eq, ?_⟩
  change (((digest, count) :: remove digest c.entries).take c.capacity).map Prod.fst = _
  rw [List.map_take, List.map_cons, map_fst_remove, ← digests, h.digests_eq, h.capacity_eq,
    List.take_succ_cons, take_filter_take (nodup_eraseDups uses), List.eraseDups_cons,
    eraseDups_filter, List.take_succ_cons]
  congr 3
  funext y
  rw [Bool.eq_iff_iff]
  simp

theorem hit (h : c.Recalls capacity uses) (hcapacity : 0 < capacity) {digest count : UInt64}
    (hfind : c.find? digest = some count) :
    Recalls capacity (digest :: uses)
      { c with entries := (digest, count) :: remove digest c.entries } := by
  have hsize : c.entries.length ≤ c.capacity := by
    have hmin := h.size_eq
    rw [size] at hmin
    rw [h.capacity_eq, hmin]
    exact Nat.min_le_left _ _
  rw [← put_eq_of_find? hsize hfind]
  exact h.put hcapacity digest count

end Recalls

end CountCache

/-! ### Calls to an index -/

namespace Index

variable {σ α : Type}

/-- The uses since the counts were dropped, after one more call. -/
def recordUse (ix : Index) (uses : List UInt64) : IndexCall → Reply α → List UInt64
  | .search context p, .opened (.ok _) => (ix.build context p).digest :: uses
  | .invalidate, _ => []
  | _, _ => uses

/-- The digests of the searches that have succeeded since the counts were dropped, the latest first,
read off the calls and their replies. -/
def usesAfter (ix : Index) (uses : List UInt64) : List IndexCall → List (Reply α) → List UInt64
  | call :: calls, reply :: replies => ix.usesAfter (ix.recordUse uses call reply) calls replies
  | _, _ => uses

variable {ix : Index} {session : Session σ} {map : Record → Except SearchError α}
  {capacity : Nat} {uses : List UInt64} {cache : CountCache}

theorem recalls_search (ix : Index) (session : Session σ) (h : cache.Recalls capacity uses)
    (hcapacity : 0 < capacity) (state : σ) (context : SearchContext) (p : Predicate) :
    let found := ix.search session state cache context p
    found.2.1.Recalls capacity
      (ix.recordUse uses (.search context p) (.opened found.1 : Reply α)) := by
  intro found
  cases hfind : cache.find? (ix.build context p).digest with
  | some count =>
      have hcount := resultCount_of_known session state hfind
      simp only [found, search_of_resultCount_ok hcount]
      exact h.hit hcapacity hfind
  | none =>
      rcases hanswer : session.count state (ix.build context p).countStatement
        (ix.build context p).parameters with ⟨e | count, state'⟩
      · have hcount := resultCount_of_failed hfind hanswer
        simp only [found, search_of_resultCount_error hcount]
        exact h
      · have hcount := resultCount_of_counted hfind hanswer
        simp only [found, search_of_resultCount_ok hcount]
        exact h.put hcapacity _ count

theorem recalls_step {w : InUse σ} (h : w.cache.Recalls capacity uses) (hcapacity : 0 < capacity)
    (call : IndexCall) :
    (ix.step session map w call).2.cache.Recalls capacity
      (ix.recordUse uses call (ix.step session map w call).1) := by
  cases call with
  | search context p =>
      have hsearch := recalls_search ix session h hcapacity w.state context p (α := α)
      rw [step]
      rcases hfound : ix.search session w.state w.cache context p with ⟨_ | stream, cache', state'⟩
      all_goals
        rw [hfound] at hsearch
        exact hsearch
  | invalidate => exact h.clear
  | hasNext slot | next slot | tryNext slot | close slot =>
      change (ix.step session map w _).2.cache.Recalls capacity uses
      rw [step, onStream_cache]
      exact h

theorem recalls_run {w : InUse σ} (h : w.cache.Recalls capacity uses) (hcapacity : 0 < capacity)
    (calls : List IndexCall) :
    (ix.run session map w calls).2.cache.Recalls capacity
      (ix.usesAfter uses calls (ix.run session map w calls).1) := by
  induction calls generalizing w uses with
  | nil => exact h
  | cons call rest ih =>
      rw [run_cons]
      exact ih (recalls_step h hcapacity call)

theorem recalls_emptyCache (ix : Index) :
    ix.emptyCache.Recalls (max 1 ix.config.cacheSize.toNat) [] :=
  ⟨rfl, List.take_nil.symm⟩

/-- A search asks for the count if the cache does not know it, and for nothing else. -/
theorem search_logged_calls (l : Logged σ) (context : SearchContext) (p : Predicate) :
    (ix.search session.logged l cache context p).2.2.calls =
      if cache.find? (ix.build context p).digest = none then
        ⟨true, (ix.build context p).countStatement, (ix.build context p).parameters⟩ :: l.calls
      else l.calls := by
  cases hfind : cache.find? (ix.build context p).digest with
  | some count =>
      have hcount := resultCount_of_known session.logged l hfind
      rw [search_of_resultCount_ok hcount, if_neg (by simp)]
  | none =>
      rcases hanswer : session.logged.count l (ix.build context p).countStatement
        (ix.build context p).parameters with ⟨e | count, l'⟩
      all_goals
        have hcalls := congrArg (fun answer => answer.2.calls) hanswer
        change ⟨true, _, _⟩ :: l.calls = l'.calls at hcalls
        rw [if_pos rfl, hcalls]
      · rw [search_of_resultCount_error (resultCount_of_failed hfind hanswer)]
      · rw [search_of_resultCount_ok (resultCount_of_counted hfind hanswer)]

/-- After any calls to an index, over any session, a search asks for a count if and only if its
digest has not been used since the counts were dropped, or at least as many others as the cache has
room for have been used after it. The cache holds a count for each digest that has been used, as far
as it has room. -/
theorem counts_iff_lost (ix : Index) (session : Session σ) (map : Record → Except SearchError α)
    (state : σ) (before : List IndexCall) (context : SearchContext) (p : Predicate) :
    let ran := ix.run session.logged map (ix.unused ⟨state, []⟩) before
    let uses := ix.usesAfter [] before ran.1
    let capacity := max 1 ix.config.cacheSize.toNat
    let q := ix.build context p
    let asked := (ix.search session.logged ran.2.state ran.2.cache context p).2.2.calls
    let lost := q.digest ∉ uses ∨ capacity ≤ (uses.takeWhile (· ≠ q.digest)).toFinset.card
    (asked = ⟨true, q.countStatement, q.parameters⟩ :: ran.2.state.calls ↔ lost) ∧
      (asked = ran.2.state.calls ↔ ¬lost) ∧
      ran.2.cache.size = min capacity uses.toFinset.card ∧ ran.2.cache.size ≤ capacity := by
  intro ran uses capacity q asked lost
  have hrecalls : ran.2.cache.Recalls capacity uses :=
    recalls_run (recalls_emptyCache ix)
      (Nat.lt_of_lt_of_le Nat.one_pos (Nat.le_max_left _ _)) before
  have hlost : ran.2.cache.find? q.digest = none ↔ lost := hrecalls.find?_eq_none_iff
  have hasked : asked = if ran.2.cache.find? q.digest = none then
      ⟨true, q.countStatement, q.parameters⟩ :: ran.2.state.calls else ran.2.state.calls :=
    search_logged_calls ran.2.state context p
  have hsize := hrecalls.size_eq
  have hbound : ran.2.cache.size ≤ capacity := hsize.trans_le (Nat.min_le_left _ _)
  by_cases hfind : ran.2.cache.find? q.digest = none
  · rw [if_pos hfind] at hasked
    have hother : asked ≠ ran.2.state.calls := hasked ▸ List.cons_ne_self _ _
    exact ⟨iff_of_true hasked (hlost.mp hfind),
      iff_of_false hother (not_not_intro (hlost.mp hfind)), hsize, hbound⟩
  · rw [if_neg hfind] at hasked
    have hother : asked ≠ ⟨true, q.countStatement, q.parameters⟩ :: ran.2.state.calls :=
      hasked ▸ (List.cons_ne_self _ _).symm
    have hknown : ¬lost := fun h => hfind (hlost.mpr h)
    exact ⟨iff_of_false hother hknown, iff_of_true hasked hknown, hsize, hbound⟩

end Index

end GraphSearch

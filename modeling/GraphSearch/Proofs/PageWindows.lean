import GraphSearch.Proofs.PagedStream
import Mathlib

/-!
The windows of a query's pages cover the wanted rows, each row once and in order.

A window is worked out from the number of its page alone. What is said of it here speaks of all
pages before it: they show as many rows as lie before the window. Machine words give the same windows
as long as the rows before a page can be counted in a word.
-/

namespace GraphSearch

/-! ### Machine words -/

namespace Word

/-- The word of a number, if the number is not too large. -/
def ofNat? (n : Nat) : Option UInt64 :=
  if n < UInt64.size then some (.ofNat n) else none

/-- The product, if it is a word. -/
def times? (a b : UInt64) : Option UInt64 :=
  ofNat? (a.toNat * b.toNat)

/-- The difference, if it is a word. -/
def minus? (a b : UInt64) : Option UInt64 :=
  if a < b then none else some (a - b)

/-- The sum, or the largest word in the place of a larger sum. -/
def plusCapped (a b : UInt64) : UInt64 :=
  -- A sum that has wrapped around is less than its terms.
  if a + b < a then .ofNat largestSkip else a + b

theorem ofNat?_of_lt {n : Nat} (h : n < UInt64.size) : ofNat? n = some (.ofNat n) :=
  if_pos h

theorem toNat_plusCapped (a b : UInt64) :
    (plusCapped a b).toNat = min (a.toNat + b.toNat) largestSkip := by
  have ha := a.toNat_lt
  have hb := b.toNat_lt
  have hsum := UInt64.toNat_add a b
  have hlargest : (UInt64.ofNat largestSkip).toNat = largestSkip := by decide
  have hvalue : largestSkip = 2 ^ 64 - 1 := by decide
  rw [plusCapped]
  split
  · next hwrapped =>
      rw [UInt64.lt_iff_toNat_lt] at hwrapped
      omega
  · next hplain =>
      rw [UInt64.lt_iff_toNat_lt] at hplain
      omega

theorem minus?_of_le {a b : UInt64} (h : b ≤ a) : minus? a b = some (a - b) :=
  if_neg (UInt64.not_lt.mpr h)

end Word

namespace Paging

variable {p : Paging}

/-- The rows before the page in a machine word, if they are not too many. -/
def consumed? (p : Paging) : Option UInt64 := do
  Word.times? (← Word.ofNat? p.page) p.size

/-- The window as machine words have it; nothing where a number leaves their range. -/
def window? (p : Paging) : Option (Option Window) := do
  let consumed ← p.consumed?
  let skip := Word.plusCapped p.offset consumed
  match p.limit with
  | none => return some ⟨skip.toNat, p.size.toNat⟩
  | some limit =>
    if limit ≤ consumed then return none
    else
      let rest ← Word.minus? limit consumed
      return some ⟨skip.toNat, (min p.size rest).toNat⟩

theorem page_le_consumed (p : Paging) : p.page ≤ p.consumed :=
  Nat.le_mul_of_pos_right p.page p.size_pos

theorem consumed?_of_lt (h : p.consumed < UInt64.size) :
    p.consumed? = some (.ofNat p.consumed) := by
  have hpage : p.page < UInt64.size := Nat.lt_of_le_of_lt p.page_le_consumed h
  rw [consumed?, Word.ofNat?_of_lt hpage, Option.bind_eq_bind, Option.bind_some, Word.times?,
    UInt64.toNat_ofNat_of_lt' hpage]
  exact Word.ofNat?_of_lt h

/-- Words that can count the rows before the page give its window. -/
theorem window?_of_consumed_lt (h : p.consumed < UInt64.size) : p.window? = some p.window := by
  have hconsumed : (UInt64.ofNat p.consumed).toNat = p.consumed := UInt64.toNat_ofNat_of_lt' h
  rw [window?, consumed?_of_lt h, Option.bind_eq_bind, Option.bind_some]
  cases hlimit : p.limit with
  | none =>
      simp only [window, hlimit, Word.toNat_plusCapped, hconsumed, Option.pure_def]
  | some limit =>
      simp only [window, hlimit, UInt64.le_iff_toNat_le, hconsumed]
      split
      · rfl
      · next hleft =>
          have hle : UInt64.ofNat p.consumed ≤ limit := by
            rw [UInt64.le_iff_toNat_le, hconsumed]
            exact Nat.le_of_not_le hleft
          rw [Word.minus?_of_le hle, Option.bind_some, UInt64.toNat_min,
            UInt64.toNat_sub_of_le _ _ hle, Word.toNat_plusCapped, hconsumed, Option.pure_def]

/-- Two pages of half of all words are one row more than a word counts. -/
example : window? { Paging.ofSize 0x8000000000000000 with page := 2 } = none := by
  decide

/-! ### The rows of the first pages -/

/-- How many rows the first pages show. -/
def shown (p : Paging) (pages : Nat) : Nat :=
  match p.limit with
  | none => pages * p.size.toNat
  | some limit => min limit.toNat (pages * p.size.toNat)

/-- The windows of the first pages, in order. -/
def windows (p : Paging) (pages : Nat) : List Window :=
  (List.range pages).filterMap fun page => (p.atPage page).window

end Paging

/-- The places of the rows that a window shows. -/
def Window.rows (w : Window) : List Nat :=
  List.range' w.skip w.take

namespace Paging

variable {p : Paging} {page pages : Nat} {w : Window}

theorem shown_zero (p : Paging) : p.shown 0 = 0 := by
  rw [shown]
  cases p.limit <;> simp

theorem windows_succ (p : Paging) (pages : Nat) :
    p.windows (pages + 1) = p.windows pages ++ (p.atPage pages).window.toList := by
  rw [windows, List.range_succ, List.filterMap_append, ← windows, List.filterMap_cons,
    List.filterMap_nil]
  cases (p.atPage pages).window <;> rfl

theorem shown_succ_of_window_eq_none (h : (p.atPage page).window = none) :
    p.shown (page + 1) = p.shown page := by
  obtain ⟨limit, hlimit, hused⟩ := window_eq_none_iff_exists.mp h
  simp only [shown, hlimit, Nat.succ_mul]
  omega

/-- A page with a window stands behind full pages, and shows at least one row. -/
theorem shown_of_window_eq_some (h : (p.atPage page).window = some w) :
    p.shown page = page * p.size.toNat ∧ p.shown (page + 1) = p.shown page + w.take ∧
      1 ≤ w.take ∧ w.take ≤ p.size.toNat := by
  have hsize := p.size_pos
  obtain ⟨rfl, hleft⟩ := of_window_eq_some h
  rw [shown, shown, takeOn, Nat.succ_mul]
  cases hlimit : p.limit with
  | none => exact ⟨rfl, rfl, hsize, Nat.le_refl _⟩
  | some limit =>
      have hlt := hleft limit hlimit
      dsimp only
      omega

/-- The first pages show as many rows as they take together. -/
theorem sum_take_windows (p : Paging) (pages : Nat) :
    ((p.windows pages).map Window.take).sum = p.shown pages := by
  induction pages with
  | zero => exact p.shown_zero.symm
  | succ pages ih =>
      rw [windows_succ, List.map_append, List.sum_append, ih]
      cases hwindow : (p.atPage pages).window with
      | none => exact (shown_succ_of_window_eq_none hwindow).symm
      | some w => exact (shown_of_window_eq_some hwindow).2.1.symm

/-- A window begins behind the rows of all pages before it. -/
theorem skip_eq_shown (h : (p.atPage page).window = some w)
    (hfits : p.offset.toNat + page * p.size.toNat < 2 ^ 64) :
    w.skip = p.offset.toNat + p.shown page := by
  have hlargest : largestSkip = 2 ^ 64 - 1 := by decide
  rw [(shown_of_window_eq_some h).1, (of_window_eq_some h).1]
  dsimp only
  omega

/-- The windows of the first pages cover the rows behind the offset, each once and in order. -/
theorem flatMap_rows_windows
    (hfits : ∀ page < pages, (p.atPage page).window ≠ none →
      p.offset.toNat + page * p.size.toNat < 2 ^ 64) :
    (p.windows pages).flatMap Window.rows = List.range' p.offset.toNat (p.shown pages) := by
  induction pages with
  | zero => rw [shown_zero]; rfl
  | succ pages ih =>
      have hbefore := ih fun page hpage => hfits page (Nat.lt_succ_of_lt hpage)
      rw [windows_succ, List.flatMap_append, hbefore]
      cases hwindow : (p.atPage pages).window with
      | none =>
          rw [shown_succ_of_window_eq_none hwindow]
          exact List.append_nil _
      | some w =>
          have hskip := skip_eq_shown hwindow (hfits pages (Nat.lt_succ_self _) (by simp [hwindow]))
          rw [(shown_of_window_eq_some hwindow).2.1, ← List.range'_append_1, ← hskip]
          exact congrArg _ (List.append_nil _)

theorem window_of_limit_eq_none (hlimit : p.limit = none)
    (hfits : p.offset.toNat + page * p.size.toNat < 2 ^ 64) :
    (p.atPage page).window = some ⟨p.offset.toNat + page * p.size.toNat, p.size.toNat⟩ := by
  have hskip : min (p.offset.toNat + page * p.size.toNat) largestSkip =
      p.offset.toNat + page * p.size.toNat :=
    Nat.min_eq_left (Nat.le_pred_of_lt hfits)
  simp only [window, atPage, consumed, hlimit, hskip]

theorem window_eq_none_iff {limit : UInt64} (hlimit : p.limit = some limit) :
    (p.atPage page).window = none ↔ pagesFor p.size.toNat limit.toNat ≤ page := by
  rw [window_eq_none_iff_exists, ← Nat.not_lt, lt_pagesFor_iff p.size_pos, hlimit]
  simp

/-- As many pages as are needed for the limit show all rows up to it. -/
theorem shown_of_pagesFor_le {limit : UInt64} (hlimit : p.limit = some limit)
    (h : pagesFor p.size.toNat limit.toNat ≤ pages) : p.shown pages = limit.toNat := by
  have hused : limit.toNat ≤ pages * p.size.toNat := by
    rw [← Nat.not_lt, ← lt_pagesFor_iff p.size_pos]
    exact Nat.not_lt_of_le h
  rw [shown, hlimit]
  exact Nat.min_eq_left hused

end Paging

theorem paging_iterate_nextPage (q : Query) (pages : Nat) :
    (Query.nextPage^[pages] q).paging = q.paging.atPage (q.paging.page + pages) := by
  induction pages with
  | zero => rfl
  | succ pages ih =>
      rw [Function.iterate_succ_apply', Query.nextPage, ih]
      rfl

/-- The pages of a query show the wanted rows. Without a limit, each page has a full window behind
those before it. With a limit, there are as many windows as pages are needed for it and no further
ones, each window begins behind the rows of those before it, and all together have the rows from the
offset to the limit, each once and in order. Machine words give the same windows. -/
theorem page_windows_tile (kind : EntityKind) (labels : Labels) (size : UInt64)
    (limit : Option UInt64) (offset : UInt64) :
    let rows := max 1 size.toNat
    let page (k : Nat) := Query.nextPage^[k] (Query.new kind size labels limit offset)
    let windows (pages : Nat) := (List.range pages).filterMap fun k => (page k).window
    (∀ k, k * rows < 2 ^ 64 → (page k).paging.window? = some (page k).window) ∧
      (limit = none → ∀ k, offset.toNat + k * rows < 2 ^ 64 →
        (page k).window = some ⟨offset.toNat + k * rows, rows⟩) ∧
      ∀ l, limit = some l →
        (∀ k, (page k).window = none ↔ pagesFor rows l.toNat ≤ k) ∧
        (∀ k later, k ≤ later → (page k).window = none → (page later).window = none) ∧
        (∀ k, k < pagesFor rows l.toNat → offset.toNat + k * rows < 2 ^ 64 →
          ∃ take, 1 ≤ take ∧ take ≤ rows ∧
            (page k).window =
              some ⟨offset.toNat + ((windows k).map Window.take).sum, take⟩) ∧
        ∀ pages, pagesFor rows l.toNat ≤ pages →
          (∀ k < pagesFor rows l.toNat, offset.toNat + k * rows < 2 ^ 64) →
          (windows pages).flatMap Window.rows = List.range' offset.toNat l.toNat := by
  intro rows page windows
  let base : Paging := { Paging.ofSize size with limit := limit, offset := offset }
  have hrows : base.size.toNat = rows := Paging.toNat_size_ofSize size
  have hpaging (k : Nat) : (page k).paging = base.atPage k := by
    have hfirst : base.page = 0 := Paging.page_ofSize size
    rw [paging_iterate_nextPage]
    change base.atPage (base.page + k) = _
    rw [hfirst, Nat.zero_add]
  have hwindow (k : Nat) : (page k).window = (base.atPage k).window :=
    congrArg Paging.window (hpaging k)
  have hwindows (pages : Nat) : windows pages = base.windows pages := by
    simp only [windows, hwindow, Paging.windows]
  simp only [hwindow, hwindows, hpaging, ← hrows]
  refine ⟨fun k hk => Paging.window?_of_consumed_lt hk, ?_, ?_⟩
  · intro hlimit k hk
    exact Paging.window_of_limit_eq_none (p := base) hlimit hk
  · intro l hlimit
    have hnone (k : Nat) : (base.atPage k).window = none ↔ pagesFor base.size.toNat l.toNat ≤ k :=
      Paging.window_eq_none_iff hlimit
    refine ⟨hnone, ?_, ?_, ?_⟩
    · intro k later hlater hk
      exact (hnone later).mpr (Nat.le_trans ((hnone k).mp hk) hlater)
    · intro k hk hfits
      have hleft : (base.atPage k).window ≠ none := fun h => Nat.not_le_of_lt hk ((hnone k).mp h)
      obtain ⟨w, hw⟩ := Option.ne_none_iff_exists'.mp hleft
      obtain ⟨-, -, hpos, hle⟩ := Paging.shown_of_window_eq_some hw
      refine ⟨w.take, hpos, hle, ?_⟩
      rw [hw, Paging.sum_take_windows, ← Paging.skip_eq_shown hw hfits]
    · intro pages hpages hfits
      have hall : base.shown pages = l.toNat := Paging.shown_of_pagesFor_le hlimit hpages
      rw [← hall]
      apply Paging.flatMap_rows_windows
      intro k _ hleft
      exact hfits k (Nat.lt_of_not_le fun hle => hleft ((hnone k).mpr hle))

/-- Three rows behind the first ten, on pages of two rows. -/
theorem page_windows_tile_shortPage :
    let page (k : Nat) := Query.nextPage^[k] (Query.new .node 2 {} (some 3) 10)
    let windows (pages : Nat) := (List.range pages).filterMap fun k => (page k).window
    1 * 2 < 2 ^ 64 ∧ (page 1).paging.window? = some (page 1).window ∧
      (page 2).window = none ∧ (page 9).window = none ∧
      (1 < pagesFor 2 3 ∧ 10 + 1 * 2 < 2 ^ 64 ∧
        ∃ take, 1 ≤ take ∧ take ≤ 2 ∧ (page 1).window = some ⟨12, take⟩) ∧
      (windows 5).flatMap Window.rows = [10, 11, 12] ∧
      ∀ k, 10 + k * 2 < 2 ^ 64 →
        (Query.nextPage^[k] (Query.new .node 2 {} none 10)).window = some ⟨10 + k * 2, 2⟩ := by
  intro page windows
  obtain ⟨hwords, -, hlimited⟩ := page_windows_tile .node {} 2 (some 3) 10
  obtain ⟨hnone, hlater, hsome, htile⟩ := hlimited 3 rfl
  obtain ⟨-, hunlimited, -⟩ := page_windows_tile .node {} 2 none 10
  have hended : (page 2).window = none := (hnone 2).mpr (by decide)
  exact ⟨by decide, hwords 1 (by decide), hended, hlater 2 9 (by decide) hended,
    ⟨by decide, by decide, hsome 1 (by decide) (by decide)⟩,
    htile 5 (by decide) (by decide), hunlimited rfl⟩

end GraphSearch

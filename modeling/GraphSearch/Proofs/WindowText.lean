import GraphSearch.Proofs.Digits
import GraphSearch.Query.Statement
import GraphSearch.Store.Memory

/-!
The window of a statement can be read back.

A statement ends with the rows that it asks for. Memory looks for the last place where the keyword
stands, so that the names and texts in the rest of the statement do not matter.
-/

namespace GraphSearch

/-- The numbers of a window are those of machine words. -/
theorem Paging.bounds_of_window_eq_some {p : Paging} {w : Window} (h : p.window = some w) :
    w.skip < UInt64.size ∧ w.take < UInt64.size := by
  have hsize : p.size.toNat < UInt64.size := p.size.toNat_lt_size
  have hskip : min (p.offset.toNat + p.consumed) largestSkip < UInt64.size :=
    Nat.lt_of_le_of_lt (Nat.min_le_right _ _) (by decide)
  cases hlimit : p.limit with
  | none =>
      simp only [window, hlimit, Option.some.injEq] at h
      subst h
      exact ⟨hskip, hsize⟩
  | some limit =>
      simp only [window, hlimit, Option.ite_none_left_eq_some, Option.some.injEq] at h
      obtain ⟨-, rfl⟩ := h
      exact ⟨hskip, Nat.lt_of_le_of_lt (Nat.min_le_left _ _) hsize⟩

namespace Memory

theorem afterLast?_cons (mark : List Char) (c : Char) (rest : List Char) :
    afterLast? mark (c :: rest) =
      match afterLast? mark rest with
      | some found => some found
      | none =>
        if mark.isPrefixOf (c :: rest) then some ((c :: rest).drop mark.length) else none :=
  rfl

theorem afterLast?_eq_none_of_not_mem {mark text : List Char} {c : Char} (hmark : c ∈ mark)
    (htext : c ∉ text) : afterLast? mark text = none := by
  induction text with
  | nil =>
      rw [afterLast?, if_neg]
      intro hempty
      rw [List.isEmpty_iff] at hempty
      rw [hempty] at hmark
      exact absurd hmark List.not_mem_nil
  | cons d rest ih =>
      rw [afterLast?_cons, ih (List.not_mem_of_not_mem_cons htext)]
      dsimp only
      rw [if_neg]
      intro hprefix
      exact htext ((List.isPrefixOf_iff_prefix.mp hprefix).subset hmark)

theorem afterLast?_cons_of_ne {first c : Char} {mark rest : List Char} (hne : first ≠ c)
    (hrest : afterLast? (first :: mark) rest = none) :
    afterLast? (first :: mark) (c :: rest) = none := by
  rw [afterLast?_cons, hrest]
  dsimp only
  rw [if_neg]
  intro hprefix
  exact hne (List.cons_prefix_cons.mp (List.isPrefixOf_iff_prefix.mp hprefix)).1

theorem afterLast?_append {first : Char} {mark after : List Char}
    (h : afterLast? (first :: mark) (mark ++ after) = none) (before : List Char) :
    afterLast? (first :: mark) (before ++ first :: (mark ++ after)) = some after := by
  induction before with
  | nil =>
      have hprefix : (first :: mark).isPrefixOf (first :: (mark ++ after)) = true :=
        List.isPrefixOf_iff_prefix.mpr (List.prefix_append (first :: mark) after)
      rw [List.nil_append, afterLast?_cons, h]
      dsimp only
      rw [if_pos hprefix]
      simp
  | cons c before ih => rw [List.cons_append, afterLast?_cons, ih]

theorem splitFirst?_append {first : Char} {before : List Char} (h : first ∉ before)
    (mark after : List Char) :
    splitFirst? (first :: mark) (before ++ first :: (mark ++ after)) = some (before, after) := by
  induction before with
  | nil =>
      have hprefix : (first :: mark).isPrefixOf (first :: (mark ++ after)) = true :=
        List.isPrefixOf_iff_prefix.mpr (List.prefix_append (first :: mark) after)
      rw [List.nil_append, splitFirst?, if_pos hprefix]
      simp
  | cons c before ih =>
      rw [List.cons_append, splitFirst?, ih (List.not_mem_of_not_mem_cons h), if_neg]
      · rfl
      · intro hprefix
        have hfirst := (List.cons_prefix_cons.mp (List.isPrefixOf_iff_prefix.mp hprefix)).1
        exact h (by rw [hfirst]; exact List.mem_cons_self)

theorem isBlank_eq_false_of_isDigit {c : Char} (h : c.isDigit = true) : isBlank c = false := by
  obtain ⟨hlow, hhigh⟩ := Char.isDigit_iff_toNat.mp h
  change 48 ≤ c.toNat at hlow
  change c.toNat ≤ 57 at hhigh
  simp only [isBlank, CodeRanges.contains, blankRanges, List.any_cons, List.any_nil,
    Bool.or_eq_false_iff, Bool.and_eq_false_iff, decide_eq_false_iff_not,
    and_true]
  and_intros <;> omega

theorem dropBlanks_eq_self {text : List Char} (h : ∀ c ∈ text, isBlank c = false) :
    dropBlanks text = text := by
  rw [dropBlanks]
  cases text with
  | nil => rfl
  | cons c rest => rw [List.dropWhile_cons_of_neg (by simp [h c List.mem_cons_self])]

theorem trimBlanks_digits (n : Nat) : trimBlanks (digits n) = digits n := by
  have hblank : ∀ c ∈ digits n, isBlank c = false :=
    fun c hc => isBlank_eq_false_of_isDigit (isDigit_of_mem_digits hc)
  rw [trimBlanks, dropBlanks_eq_self hblank, dropBlanks_eq_self, List.reverse_reverse]
  intro c hc
  exact hblank c (List.mem_reverse.mp hc)

theorem readWord?_digits {n : Nat} (h : n < UInt64.size) : readWord? (digits n) = some n := by
  have hsign : ∀ rest, digits n ≠ '+' :: rest := by
    intro rest heq
    have hplus : '+' ∉ digits n := not_mem_digits (by decide) n
    rw [heq] at hplus
    exact hplus List.mem_cons_self
  have hvalue : (digits n).foldl (fun n c => n * 10 + (c.toNat - 48)) 0 = n := by
    have hdigits : Nat.ofDigitChars 10 (digits n) 0 = n := Nat.ofDigitChars_ten_toDigits
    simp only [Nat.mul_comm _ 10]
    exact hdigits
  have hplain : ((digits n).isEmpty || !(digits n).all Char.isDigit) = false := by
    simp only [Bool.or_eq_false_iff, List.isEmpty_eq_false_iff, Bool.not_eq_false',
      List.all_eq_true]
    exact ⟨digits_ne_nil n, fun c hc => isDigit_of_mem_digits hc⟩
  unfold readWord?
  split
  · next rest heq => exact absurd heq (hsign rest)
  · simp only [hplain, hvalue, if_pos h, Bool.false_eq_true, if_false]

theorem render_toList (w : Window) :
    w.render.toList =
      ' ' :: (['S', 'K', 'I', 'P', ' '] ++
        (digits w.skip ++ ' ' :: (['L', 'I', 'M', 'I', 'T', ' '] ++ digits w.take))) := by
  rw [Window.render, String.toList_append, String.toList_append, String.toList_append,
    toString_toList, toString_toList]
  simp

/-- A window at the end of a statement is read back. -/
theorem windowOf?_append_render (s : String) (w : Window) (hskip : w.skip < UInt64.size)
    (htake : w.take < UInt64.size) : windowOf? (s ++ w.render) = some w := by
  have hnumbers : 'S' ∉ ' ' :: (digits w.skip ++ ' ' :: (['L', 'I', 'M', 'I', 'T', ' '] ++
      digits w.take)) := by
    simp [not_mem_digits]
  have htail : afterLast? " SKIP ".toList (s ++ w.render).toList =
      some (digits w.skip ++ ' ' :: (['L', 'I', 'M', 'I', 'T', ' '] ++ digits w.take)) := by
    rw [String.toList_append, render_toList]
    apply afterLast?_append
    iterate 4 apply afterLast?_cons_of_ne (by decide)
    exact afterLast?_eq_none_of_not_mem (by decide) hnumbers
  have hsplit : splitFirst? " LIMIT ".toList
      (digits w.skip ++ ' ' :: (['L', 'I', 'M', 'I', 'T', ' '] ++ digits w.take)) =
      some (digits w.skip, digits w.take) :=
    splitFirst?_append (not_mem_digits (by decide) w.skip) _ _
  rw [windowOf?, htail]
  simp only [Option.bind_eq_bind, Option.bind_some, hsplit, trimBlanks_digits,
    readWord?_digits hskip, readWord?_digits htake, Option.pure_def]

theorem rows_fetchStatement (m : Memory) {q : Query} {w : Window} (sorted : Bool)
    (hwindow : q.window = some w) (hskip : w.skip < UInt64.size) (htake : w.take < UInt64.size) :
    m.rows (q.fetchStatement sorted) = (m.records.drop w.skip).take w.take := by
  have htext : q.windowText = w.render := by
    rw [Query.windowText, hwindow]
    rfl
  rw [rows, Query.fetchStatement, htext, windowOf?_append_render _ w hskip htake]

end Memory

end GraphSearch

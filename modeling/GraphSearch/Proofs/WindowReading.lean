import GraphSearch.Proofs.Quoting
import GraphSearch.Proofs.WindowText

/-!
Memory reads the window of a statement back, and never takes another text for one.

Labels, keys, operators and the texts of composite clauses may hold the keywords of a window, and
whole windows too. A window that is read reaches to the end of the statement, though, and ends in a
digit. A statement without a window ends in what returns its result or in its order, and so in no
digit.
-/

namespace GraphSearch

namespace Memory

/-! ### Where the pieces stand -/

theorem eq_append_of_afterLast? {mark text tail : List Char} (h : afterLast? mark text = some tail) :
    ∃ before, text = before ++ mark ++ tail := by
  induction text with
  | nil =>
      rw [afterLast?, Option.ite_none_right_eq_some, List.isEmpty_iff] at h
      obtain ⟨rfl, htail⟩ := h
      obtain rfl := Option.some.inj htail
      exact ⟨[], rfl⟩
  | cons c rest ih =>
      rw [afterLast?_cons] at h
      cases hrest : afterLast? mark rest with
      | some found =>
          rw [hrest] at h
          obtain ⟨before, hbefore⟩ := ih (hrest.trans h)
          exact ⟨c :: before, by rw [hbefore]; rfl⟩
      | none =>
          rw [hrest] at h
          simp only [Option.ite_none_right_eq_some, List.isPrefixOf_iff_prefix,
            Option.some.injEq] at h
          obtain ⟨⟨after, hafter⟩, rfl⟩ := h
          refine ⟨[], ?_⟩
          rw [← hafter, List.drop_left, List.nil_append]

theorem eq_append_of_splitFirst? {mark text before after : List Char}
    (h : splitFirst? mark text = some (before, after)) : text = before ++ mark ++ after := by
  induction text generalizing before with
  | nil =>
      rw [splitFirst?, Option.ite_none_right_eq_some, List.isEmpty_iff] at h
      obtain ⟨rfl, hparts⟩ := h
      obtain ⟨rfl, rfl⟩ := Prod.mk.inj (Option.some.inj hparts)
      rfl
  | cons c rest ih =>
      rw [splitFirst?] at h
      split at h
      · rename_i hprefix
        obtain ⟨tail, htail⟩ := List.isPrefixOf_iff_prefix.mp hprefix
        obtain ⟨rfl, rfl⟩ := Prod.mk.inj (Option.some.inj h)
        rw [← htail, List.drop_left, List.nil_append]
      · obtain ⟨⟨found, tail⟩, hfound, hparts⟩ := Option.map_eq_some_iff.mp h
        obtain ⟨rfl, rfl⟩ := Prod.mk.inj hparts
        rw [ih hfound]
        rfl

/-! ### Ends -/

theorem isDigit_of_readWord? {text : List Char} {n : Nat} (h : readWord? text = some n) :
    ∃ c, text.getLast? = some c ∧ c.isDigit = true := by
  have hplain (digits : List Char) (hdigits : (digits.isEmpty || !digits.all Char.isDigit) = false) :
      ∃ c, digits.getLast? = some c ∧ c.isDigit = true := by
    simp only [Bool.or_eq_false_iff, List.isEmpty_eq_false_iff, Bool.not_eq_false',
      List.all_eq_true] at hdigits
    obtain ⟨hne, hall⟩ := hdigits
    exact ⟨_, List.getLast?_eq_some_getLast hne, hall _ (List.getLast_mem hne)⟩
  unfold readWord? at h
  split at h
  · rename_i rest
    simp only [Option.ite_none_left_eq_some, Bool.not_eq_true] at h
    obtain ⟨c, hlast, hdigit⟩ := hplain rest h.1
    exact ⟨c, by rw [List.getLast?_cons, hlast]; rfl, hdigit⟩
  · simp only [Option.ite_none_left_eq_some, Bool.not_eq_true] at h
    exact hplain text h.1

theorem dropBlanks_append {c : Char} (h : isBlank c = false) (text : List Char) :
    dropBlanks (text ++ [c]) = dropBlanks text ++ [c] := by
  induction text with
  | nil => simp [dropBlanks, h]
  | cons d rest ih =>
      rw [dropBlanks, dropBlanks] at ih
      rw [List.cons_append, dropBlanks, dropBlanks, List.dropWhile_cons, List.dropWhile_cons]
      split
      · exact ih
      · rfl

/-- Trimming leaves a last character that is no blank where it is. -/
theorem trimBlanks_getLast? {c : Char} (h : isBlank c = false) (text : List Char) :
    (trimBlanks (text ++ [c])).getLast? = some c := by
  rw [trimBlanks, dropBlanks_append h, List.reverse_append, List.reverse_singleton,
    List.singleton_append, dropBlanks, List.dropWhile_cons_of_neg (by simp [h]),
    List.getLast?_reverse]
  rfl

/-- The text ends in a character that is neither a blank nor a digit. -/
def EndsInWord (s : String) : Prop :=
  ∃ c, s.toList.getLast? = some c ∧ isBlank c = false ∧ c.isDigit = false

theorem EndsInWord.append {s : String} (h : EndsInWord s) (before : String) :
    EndsInWord (before ++ s) := by
  obtain ⟨c, hlast, hc⟩ := h
  exact ⟨c, by rw [String.toList_append, List.getLast?_append, hlast, Option.some_or], hc⟩

theorem EndsInWord.windowOf?_eq_none {s : String} (h : EndsInWord s) : windowOf? s = none := by
  obtain ⟨c, hlast, hblank, hdigit⟩ := h
  rw [Option.eq_none_iff_forall_ne_some]
  intro w hw
  simp only [windowOf?, Option.bind_eq_bind, Option.bind_eq_some_iff] at hw
  obtain ⟨tail, htail, ⟨skip, take⟩, hparts, -, -, n, hn, -⟩ := hw
  obtain ⟨before, hbefore⟩ := eq_append_of_afterLast? htail
  rw [eq_append_of_splitFirst? hparts, ← List.append_assoc] at hbefore
  -- The second number reaches to the end of the text.
  rw [hbefore, List.getLast?_append] at hlast
  obtain rfl | ⟨rest, d, rfl⟩ := List.eq_nil_or_concat take
  · have hnothing : readWord? (trimBlanks []) = none := rfl
    exact absurd (hnothing.symm.trans hn) (by simp)
  · rw [List.concat_eq_append, List.getLast?_append, List.getLast?_singleton, Option.some_or,
      Option.some_or, Option.some.injEq] at hlast
    subst hlast
    obtain ⟨e, he, hedigit⟩ := isDigit_of_readWord? hn
    rw [List.concat_eq_append, trimBlanks_getLast? hblank, Option.some.injEq] at he
    subst he
    rw [hdigit] at hedigit
    exact absurd hedigit (by decide)

theorem endsInWord_countReturn : EndsInWord countReturn :=
  ⟨'t', by decide, by decide, by decide⟩

theorem endsInWord_fetchReturn : EndsInWord fetchReturn :=
  ⟨'n', by decide, by decide, by decide⟩

theorem endsInWord_property (key : String) : EndsInWord (Identifier.property key) := by
  have hquoted : EndsInWord (Identifier.quoted key) := by
    refine ⟨'\x60', ?_, by decide, by decide⟩
    rw [Identifier.quoted, String.toList_ofList, List.getLast?_concat]
  exact hquoted.append _

theorem endsInWord_sortOrder (s : SortOrder) : EndsInWord s.render := by
  obtain ⟨key, mode, descending⟩ := s
  cases descending with
  | true =>
      have hdescending : EndsInWord " DESC" := ⟨'C', by decide, by decide, by decide⟩
      exact hdescending.append _
  | false =>
      have hclosing : EndsInWord ")" := ⟨')', by decide, by decide, by decide⟩
      rw [SortOrder.render, if_neg Bool.false_ne_true, String.append_empty]
      cases mode with
      | lexical => exact (endsInWord_property key).append _
      | numeric => exact (hclosing.append _).append _

end Memory

open Memory

/-- The window that memory reads in a fetch is the window that the query is at, and there is none if
the limit has been used up, whatever texts the names and clauses of the query hold. In a count memory
never reads a window. -/
theorem windowOf?_statements (q : Query) (sorted : Bool) :
    windowOf? (q.fetchStatement sorted) = q.window ∧ windowOf? q.countStatement = none := by
  refine ⟨?_, (endsInWord_countReturn.append _).windowOf?_eq_none⟩
  rw [Query.fetchStatement, Query.windowText]
  cases hwindow : q.window with
  | some w =>
      obtain ⟨hskip, htake⟩ := Paging.bounds_of_window_eq_some hwindow
      exact windowOf?_append_render _ w hskip htake
  | none =>
      apply EndsInWord.windowOf?_eq_none
      rw [Option.map_none, Option.getD_none, String.append_empty, Query.orderText]
      have hreturn : EndsInWord (q.matchText ++ fetchReturn) := endsInWord_fetchReturn.append _
      cases sorted with
      | false => simpa using hreturn
      | true =>
          cases q.sort with
          | none => simpa using hreturn
          | some order => exact (endsInWord_sortOrder order).append _

/-- Labels, keys and texts that look like windows are passed over. -/
example :
    let q := ((Query.new .node 10 { type := some "A SKIP 1 LIMIT 2" } (some 0)).addComposite
      [.text "n.x SKIP 3 LIMIT 4"]).sortBy ⟨" SKIP 5 LIMIT 6", .lexical, false⟩
    windowOf? (q.fetchStatement true) = none ∧ windowOf? q.countStatement = none := by
  decide +kernel

end GraphSearch

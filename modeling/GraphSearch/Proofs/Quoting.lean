import GraphSearch.Query.Identifier

/-!
Quoted identifiers tell what they quote.

Inside the quotes each backtick is written twice, so that the closing backtick is the first one that
is not followed by another. What follows the quotes must not begin with a backtick.
-/

namespace GraphSearch

namespace Identifier

theorem quotedChars_backtick (rest : List Char) :
    quotedChars ('\x60' :: rest) = '\x60' :: '\x60' :: quotedChars rest := by
  rw [quotedChars, if_pos rfl]

theorem quotedChars_cons_of_ne {c : Char} (h : c ≠ '\x60') (rest : List Char) :
    quotedChars (c :: rest) = c :: quotedChars rest := by
  rw [quotedChars, if_neg h]

/-- A closing backtick is not the first half of a doubled one. -/
theorem closing_ne_quotedChars {c : Char} {cs r s : List Char} (hr : r.head? ≠ some '\x60') :
    '\x60' :: r ≠ quotedChars (c :: cs) ++ '\x60' :: s := by
  intro h
  by_cases hc : c = '\x60'
  · subst hc
    rw [quotedChars_backtick] at h
    exact hr (by rw [(List.cons.inj h).2]; rfl)
  · rw [quotedChars_cons_of_ne hc] at h
    exact hc (List.cons.inj h).1.symm

theorem quotedChars_append_inj {cs ds r s : List Char} (hr : r.head? ≠ some '\x60')
    (hs : s.head? ≠ some '\x60')
    (h : quotedChars cs ++ '\x60' :: r = quotedChars ds ++ '\x60' :: s) : cs = ds ∧ r = s := by
  induction cs generalizing ds with
  | nil =>
      cases ds with
      | nil => exact ⟨rfl, (List.cons.inj h).2⟩
      | cons d ds => exact absurd h (closing_ne_quotedChars hr)
  | cons c cs ih =>
      cases ds with
      | nil => exact absurd h.symm (closing_ne_quotedChars hs)
      | cons d ds =>
          by_cases hc : c = '\x60'
          · by_cases hd : d = '\x60'
            · subst hc hd
              rw [quotedChars_backtick, quotedChars_backtick] at h
              obtain ⟨rfl, hrest⟩ := ih (List.cons.inj (List.cons.inj h).2).2
              exact ⟨rfl, hrest⟩
            · subst hc
              rw [quotedChars_backtick, quotedChars_cons_of_ne hd] at h
              exact absurd (List.cons.inj h).1.symm hd
          · by_cases hd : d = '\x60'
            · subst hd
              rw [quotedChars_backtick, quotedChars_cons_of_ne hc] at h
              exact absurd (List.cons.inj h).1 hc
            · rw [quotedChars_cons_of_ne hc, quotedChars_cons_of_ne hd] at h
              obtain ⟨rfl, htail⟩ := List.cons.inj h
              obtain ⟨rfl, hrest⟩ := ih htail
              exact ⟨rfl, hrest⟩

theorem property_toList (key : String) :
    (property key).toList = 'n' :: '.' :: '\x60' :: (quotedChars key.toList ++ ['\x60']) := by
  simp [property, entity, quoted, String.toList_append]

theorem property_append_inj {key key' : String} {r s : List Char} (hr : r.head? ≠ some '\x60')
    (hs : s.head? ≠ some '\x60')
    (h : (property key).toList ++ r = (property key').toList ++ s) : key = key' ∧ r = s := by
  rw [property_toList, property_toList] at h
  simp only [List.cons_append, List.append_assoc, List.nil_append, List.cons.injEq,
    true_and] at h
  obtain ⟨hkey, hrest⟩ := quotedChars_append_inj hr hs h
  exact ⟨String.toList_inj.mp hkey, hrest⟩

end Identifier

end GraphSearch

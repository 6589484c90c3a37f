import Mathlib.Data.List.Basic

/-!
Numbers in decimal digits.
-/

namespace GraphSearch

/-- A number in decimal digits. -/
def digits (n : Nat) : List Char :=
  Nat.toDigits 10 n

theorem isDigit_of_mem_digits {n : Nat} {c : Char} (h : c ∈ digits n) : c.isDigit = true :=
  Nat.isDigit_of_mem_toDigits (by decide) (by decide) h

theorem digits_ne_nil (n : Nat) : digits n ≠ [] :=
  Nat.toDigits_ne_nil

theorem digits_injective {n m : Nat} (h : digits n = digits m) : n = m := by
  have hvalue := congrArg (fun ds => Nat.ofDigitChars 10 ds 0) h
  simpa only [digits, Nat.ofDigitChars_ten_toDigits] using hvalue

theorem toString_toList (n : Nat) : (toString n).toList = digits n := by
  rw [Nat.toString_eq_repr, Nat.toList_repr]
  rfl

theorem not_mem_digits {c : Char} (h : c.isDigit = false) (n : Nat) : c ∉ digits n := by
  intro hmem
  rw [isDigit_of_mem_digits hmem] at h
  exact absurd h (by decide)

end GraphSearch

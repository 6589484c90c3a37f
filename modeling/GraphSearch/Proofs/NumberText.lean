import GraphSearch.Json.Reader
import GraphSearch.Json.Text
import GraphSearch.Proofs.Digits
import Mathlib.Data.List.TakeWhile

/-!
Numbers inside a text.

A number ends where no digit, point or exponent follows. Main statements: what the reader takes for
a number does not depend on the text behind it, and the digits of an integer are read back.
-/

namespace GraphSearch

namespace Json

namespace Reader

/-- No number goes on with this text. -/
def Stops (rest : List Char) : Prop :=
  ∀ c ∈ rest.head?, c.isDigit = false ∧ c ≠ '.' ∧ c ≠ 'e' ∧ c ≠ 'E'

theorem stops_nil : Stops [] :=
  nofun

/-- The reader takes the same from a text whatever follows the text, as long as no number goes on
there, and leaves an end of it. -/
def Separable {α : Type} (read : List Char → Except Fault (α × List Char)) (text : List Char) :
    Prop :=
  ∀ ⦃x : α⦄ ⦃left : List Char⦄, read text = .ok (x, left) →
    left <:+ text ∧ ∀ rest, Stops rest → read (text ++ rest) = .ok (x, left ++ rest)

theorem exists_of_bind_eq_ok {ε α β : Type} {x : Except ε α} {f : α → Except ε β} {y : β}
    (h : (x >>= f) = .ok y) : ∃ a, x = .ok a ∧ f a = .ok y := by
  cases x with
  | error e => exact absurd h nofun
  | ok a => exact ⟨a, rfl, h⟩

section Digits

variable {rest : List Char}

theorem takeWhile_isDigit_append (h : Stops rest) (text : List Char) :
    (text ++ rest).takeWhile Char.isDigit = text.takeWhile Char.isDigit := by
  induction text with
  | nil =>
      cases rest with
      | nil => rfl
      | cons c rest =>
          have hc : c.isDigit = false := (h c rfl).1
          rw [List.nil_append, List.takeWhile_cons_of_neg (by simp [hc]), List.takeWhile_nil]
  | cons c text ih => rw [List.cons_append, List.takeWhile_cons, List.takeWhile_cons, ih]

theorem dropWhile_isDigit_append (h : Stops rest) (text : List Char) :
    (text ++ rest).dropWhile Char.isDigit = text.dropWhile Char.isDigit ++ rest := by
  induction text with
  | nil =>
      cases rest with
      | nil => rfl
      | cons c rest =>
          have hc : c.isDigit = false := (h c rfl).1
          rw [List.nil_append, List.dropWhile_cons_of_neg (by simp [hc])]
          rfl
  | cons c text ih =>
      rw [List.cons_append, List.dropWhile_cons, List.dropWhile_cons, ih]
      split
      · rfl
      · rfl

end Digits

/-! ### Exponents and fractions -/

/-- Whether a text starts with a minus sign, and what follows its sign. -/
def unsigned : List Char → Bool × List Char
  | '+' :: rest => (false, rest)
  | '-' :: rest => (true, rest)
  | text => (false, text)

theorem unsigned_suffix (text : List Char) : (unsigned text).2 <:+ text := by
  rw [unsigned.eq_def]
  split
  · exact List.suffix_cons _ _
  · exact List.suffix_cons _ _
  · exact List.suffix_rfl

theorem unsigned_append {text : List Char} (h : text ≠ []) (rest : List Char) :
    unsigned (text ++ rest) = ((unsigned text).1, (unsigned text).2 ++ rest) := by
  obtain ⟨c, text, rfl⟩ := List.exists_cons_of_ne_nil h
  by_cases hplus : c = '+'
  · subst hplus
    rfl
  · by_cases hminus : c = '-'
    · subst hminus
      rfl
    · simp [unsigned, hplus, hminus]

section Parts

variable (negative : Bool) (significand : Nat)

/-- The exponent behind its sign. -/
def exponentDigits (start : Int) (downward : Bool) (text : List Char) :
    Except Fault (Json × List Char) :=
  let digits := text.takeWhile Char.isDigit
  let rest := text.dropWhile Char.isDigit
  if digits.isEmpty then .error (if text.isEmpty then .unexpectedEnd else .malformed)
  else
    let exponent := digits.foldl (fun n c => n * 10 + digitValue c) 0
    if Nat.pow 2 31 ≤ exponent then
      if significand ≠ 0 ∧ !downward then .error .malformed
      else .ok (.float (Binary64.zero negative), rest)
    else do
      let total := if downward then start - exponent else start + exponent
      return (← floatOf negative significand total, rest)

theorem exponentPart_eq (start : Int) (text : List Char) :
    exponentPart negative significand start text =
      exponentDigits negative significand start (unsigned text).1 (unsigned text).2 :=
  rfl

theorem separable_exponentDigits (start : Int) (downward : Bool) (text : List Char) :
    Separable (exponentDigits negative significand start downward) text := by
  intro x left h
  have hsuffix : text.dropWhile Char.isDigit <:+ text := List.dropWhile_suffix _
  simp only [exponentDigits] at h
  split at h
  · exact absurd h nofun
  · next hdigits =>
    split at h
    · next hlarge =>
      split at h
      · exact absurd h nofun
      · next hzero =>
        obtain ⟨rfl, rfl⟩ := Prod.mk.inj (Except.ok.inj h)
        refine ⟨hsuffix, ?_⟩
        intro rest hrest
        simp only [exponentDigits, takeWhile_isDigit_append hrest, dropWhile_isDigit_append hrest]
        rw [if_neg hdigits, if_pos hlarge, if_neg hzero]
    · next hsmall =>
      obtain ⟨y, hy, hpair⟩ := exists_of_bind_eq_ok h
      obtain ⟨rfl, rfl⟩ := Prod.mk.inj (Except.ok.inj hpair)
      refine ⟨hsuffix, ?_⟩
      intro rest hrest
      simp only [exponentDigits, takeWhile_isDigit_append hrest, dropWhile_isDigit_append hrest]
      rw [if_neg hdigits, if_neg hsmall, hy]
      rfl

theorem separable_exponentPart (start : Int) (text : List Char) :
    Separable (exponentPart negative significand start) text := by
  intro x left h
  rw [exponentPart_eq] at h
  obtain ⟨hsuffix, hread⟩ := separable_exponentDigits negative significand start _ _ h
  refine ⟨hsuffix.trans (unsigned_suffix text), ?_⟩
  intro rest hrest
  have hsome : text ≠ [] := by
    rintro rfl
    exact absurd h nofun
  rw [exponentPart_eq, unsigned_append hsome]
  exact hread rest hrest

/-- What follows the digits behind the point: an exponent or nothing. -/
def afterFraction (exponent : Int) (text : List Char) : Except Fault (Json × List Char) :=
  match text with
  | 'e' :: rest | 'E' :: rest => exponentPart negative significand exponent rest
  | rest => do return (← floatOf negative significand exponent, rest)

theorem afterFraction_of_ne (exponent : Int) {text : List Char}
    (h : ∀ c ∈ text.head?, c ≠ 'e' ∧ c ≠ 'E') :
    afterFraction negative significand exponent text = do
      return (← floatOf negative significand exponent, text) := by
  rw [afterFraction.eq_def]
  split
  · exact absurd rfl (h 'e' rfl).1
  · exact absurd rfl (h 'E' rfl).2
  · rfl

theorem separable_afterFraction (exponent : Int) (text : List Char) :
    Separable (afterFraction negative significand exponent) text := by
  intro x left h
  by_cases hmark : ∀ c ∈ text.head?, c ≠ 'e' ∧ c ≠ 'E'
  · rw [afterFraction_of_ne negative significand exponent hmark] at h
    obtain ⟨y, hy, hpair⟩ := exists_of_bind_eq_ok h
    obtain ⟨rfl, rfl⟩ := Prod.mk.inj (Except.ok.inj hpair)
    refine ⟨List.suffix_rfl, ?_⟩
    intro rest hrest
    rw [afterFraction_of_ne negative significand exponent, hy]
    · rfl
    · intro c hc
      rcases text with _ | ⟨d, text⟩
      · exact (hrest c hc).2.2
      · exact hmark c hc
  · push Not at hmark
    obtain ⟨c, hc, hmark⟩ := hmark
    obtain ⟨text, rfl⟩ := List.head?_eq_some_iff.mp hc
    obtain rfl | rfl : c = 'e' ∨ c = 'E' := by tauto
    all_goals
      obtain ⟨hsuffix, hread⟩ := separable_exponentPart negative significand exponent text h
      exact ⟨hsuffix.trans (List.suffix_cons _ _), hread⟩

/-! ### Whole numbers -/

theorem afterWhole_point (dropped : Nat) (text : List Char) :
    afterWhole negative significand dropped ('.' :: text) =
      if (text.takeWhile Char.isDigit).isEmpty then
        .error (if text.isEmpty then .unexpectedEnd else .malformed)
      else
        let digits := text.takeWhile Char.isDigit
        let (significand, extra) := absorbDigits significand digits
        afterFraction negative significand
          (dropped - ((digits.length - extra.length : Nat) : Int))
          (text.dropWhile Char.isDigit) :=
  rfl

theorem afterWhole_of_stops (dropped : Nat) {text : List Char}
    (h : ∀ c ∈ text.head?, c ≠ '.' ∧ c ≠ 'e' ∧ c ≠ 'E') :
    afterWhole negative significand dropped text =
      if dropped = 0 then .ok (wholeNumber negative significand, text)
      else do return (← floatOf negative significand dropped, text) := by
  rw [afterWhole.eq_def]
  split
  · exact absurd rfl (h '.' rfl).1
  · exact absurd rfl (h 'e' rfl).2.1
  · exact absurd rfl (h 'E' rfl).2.2
  · rfl

theorem separable_afterWhole (dropped : Nat) (text : List Char) :
    Separable (afterWhole negative significand dropped) text := by
  intro x left h
  by_cases hmark : ∀ c ∈ text.head?, c ≠ '.' ∧ c ≠ 'e' ∧ c ≠ 'E'
  · have hmarkAppend : ∀ rest, Stops rest →
        ∀ c ∈ (text ++ rest).head?, c ≠ '.' ∧ c ≠ 'e' ∧ c ≠ 'E' := by
      intro rest hrest c hc
      rcases text with _ | ⟨d, text⟩
      · exact (hrest c hc).2
      · exact hmark c hc
    rw [afterWhole_of_stops negative significand dropped hmark] at h
    split at h
    · next hdropped =>
      obtain ⟨rfl, rfl⟩ := Prod.mk.inj (Except.ok.inj h)
      refine ⟨List.suffix_rfl, ?_⟩
      intro rest hrest
      rw [afterWhole_of_stops negative significand dropped (hmarkAppend rest hrest),
        if_pos hdropped]
    · next hdropped =>
      obtain ⟨y, hy, hpair⟩ := exists_of_bind_eq_ok h
      obtain ⟨rfl, rfl⟩ := Prod.mk.inj (Except.ok.inj hpair)
      refine ⟨List.suffix_rfl, ?_⟩
      intro rest hrest
      rw [afterWhole_of_stops negative significand dropped (hmarkAppend rest hrest),
        if_neg hdropped, hy]
      rfl
  · push Not at hmark
    obtain ⟨c, hc, hmark⟩ := hmark
    obtain ⟨text, rfl⟩ := List.head?_eq_some_iff.mp hc
    have hcons : text <:+ c :: text := List.suffix_cons _ _
    by_cases hpoint : c = '.'
    · subst hpoint
      rw [afterWhole_point] at h
      split at h
      · exact absurd h nofun
      · next hdigits =>
        obtain ⟨hsuffix, hread⟩ := separable_afterFraction negative _ _ _ h
        refine ⟨(hsuffix.trans (List.dropWhile_suffix _)).trans hcons, ?_⟩
        intro rest hrest
        rw [List.cons_append, afterWhole_point, takeWhile_isDigit_append hrest,
          dropWhile_isDigit_append hrest, if_neg hdigits]
        exact hread rest hrest
    · obtain rfl | rfl : c = 'e' ∨ c = 'E' := by tauto
      all_goals
        obtain ⟨hsuffix, hread⟩ := separable_exponentPart negative significand dropped text h
        exact ⟨hsuffix.trans hcons, hread⟩

theorem numberBody_zero (text : List Char) :
    numberBody negative ('0' :: text) =
      if (text.head?.map Char.isDigit).getD false then .error .malformed
      else afterWhole negative 0 0 text :=
  rfl

theorem numberBody_cons {c : Char} (hzero : c ≠ '0') (text : List Char) :
    numberBody negative (c :: text) =
      if c.isDigit then
        afterWhole negative (absorbDigits 0 ((c :: text).takeWhile Char.isDigit)).1
          (absorbDigits 0 ((c :: text).takeWhile Char.isDigit)).2.length
          ((c :: text).dropWhile Char.isDigit)
      else .error .malformed := by
  rw [numberBody.eq_def]
  split
  · next heq => exact absurd heq nofun
  · next heq => exact absurd (List.cons.inj heq).1 hzero
  · next heq =>
    obtain ⟨rfl, rfl⟩ := List.cons.inj heq
    rfl

theorem separable_numberBody (text : List Char) : Separable (numberBody negative) text := by
  intro x left h
  rcases text with _ | ⟨c, text⟩
  · exact absurd h nofun
  · by_cases hzero : c = '0'
    · subst hzero
      rw [numberBody_zero] at h
      split at h
      · exact absurd h nofun
      · next hdigit =>
        obtain ⟨hsuffix, hread⟩ := separable_afterWhole negative 0 0 text h
        refine ⟨hsuffix.trans (List.suffix_cons _ _), ?_⟩
        intro rest hrest
        rw [List.cons_append, numberBody_zero, if_neg]
        · exact hread rest hrest
        · rcases text with _ | ⟨d, text⟩
          · rcases rest with _ | ⟨d, rest⟩
            · exact Bool.false_ne_true
            · exact Bool.eq_false_iff.mp (hrest d rfl).1
          · exact hdigit
    · rw [numberBody_cons negative hzero] at h
      split at h
      · next hdigit =>
        obtain ⟨hsuffix, hread⟩ := separable_afterWhole negative _ _ _ h
        refine ⟨hsuffix.trans (List.dropWhile_suffix _), ?_⟩
        intro rest hrest
        rw [List.cons_append, numberBody_cons negative hzero, if_pos hdigit, ← List.cons_append,
          takeWhile_isDigit_append hrest, dropWhile_isDigit_append hrest]
        exact hread rest hrest
      · exact absurd h nofun

end Parts

/-! ### Numbers in a text -/

/-- The text is that of a number and nothing else. -/
def IsNumber (text : List Char) (j : Json) : Prop :=
  (∃ digits, text = '-' :: digits ∧ numberBody true digits = .ok (j, [])) ∨
    ∃ c digits, text = c :: digits ∧ c.isDigit = true ∧ numberBody false text = .ok (j, [])

theorem isSpace_eq_false_of_isDigit {c : Char} (h : c.isDigit = true) : isSpace c = false := by
  rw [isSpace]
  simp only [Bool.or_eq_false_iff, beq_eq_false_iff_ne]
  and_intros <;> rintro rfl <;> exact absurd h (by decide)

theorem upcoming_of_not_isSpace {c : Char} (h : isSpace c = false) (text : List Char) :
    upcoming (c :: text) = .ok (some c, c :: text) := by
  have hdrop : (c :: text).dropWhile isSpace = c :: text :=
    List.dropWhile_cons_of_neg (by simp [h])
  change Except.ok (((c :: text).dropWhile isSpace).head?, (c :: text).dropWhile isSpace) = _
  rw [hdrop]
  rfl

theorem advance_cons (c : Char) (text : List Char) : advance (c :: text) = .ok ((), text) :=
  rfl

theorem get_apply (text : List Char) : (get : Reader (List Char)) text = .ok (text, text) :=
  rfl

/-- A reader goes on where the one before it has stopped. -/
theorem bind_apply_of_ok {α β : Type} {r : Reader α} {text rest : List Char} {x : α}
    (h : r text = .ok (x, rest)) (f : α → Reader β) : (r >>= f) text = f x rest := by
  change (r text >>= fun found => f found.1 found.2) = _
  rw [h]
  rfl

theorem valueWith_digit {c : Char} (h : c.isDigit = true) (array object : Reader Json)
    (text : List Char) :
    valueWith array object (c :: text) = numberBody false (c :: text) := by
  rw [valueWith, bind_apply_of_ok (upcoming_of_not_isSpace (isSpace_eq_false_of_isDigit h) text)]
  generalize hhead : some c = head
  split
  case h_9 =>
    rw [← Option.some.inj hhead, if_pos h]
  case h_1 => exact absurd hhead nofun
  all_goals
    rw [Option.some.inj hhead] at h
    exact absurd h (by decide)

theorem valueWith_of_isNumber {text : List Char} {j : Json} (h : IsNumber text j)
    {rest : List Char} (hrest : Stops rest) (array object : Reader Json) :
    valueWith array object (text ++ rest) = .ok (j, rest) := by
  obtain ⟨digits, rfl, hread⟩ | ⟨c, digits, rfl, hc, hread⟩ := h
  · obtain ⟨-, happend⟩ := separable_numberBody true digits hread
    exact happend rest hrest
  · obtain ⟨-, happend⟩ := separable_numberBody false (c :: digits) hread
    rw [List.cons_append, valueWith_digit hc]
    exact happend rest hrest

/-! ### Integers -/

theorem le_ofDigitChars (text : List Char) (n : Nat) : n ≤ Nat.ofDigitChars 10 text n := by
  induction text generalizing n with
  | nil => exact Nat.le_refl n
  | cons c text ih =>
      rw [Nat.ofDigitChars_cons]
      refine Nat.le_trans ?_ (ih _)
      omega

theorem absorbDigits_eq {text : List Char} {n : Nat}
    (h : Nat.ofDigitChars 10 text n ≤ largestSignificand) :
    absorbDigits n text = (Nat.ofDigitChars 10 text n, []) := by
  induction text generalizing n with
  | nil => rfl
  | cons c text ih =>
      have hnext : n * 10 + digitValue c = 10 * n + (c.toNat - '0'.toNat) := by
        rw [Nat.mul_comm]
        rfl
      rw [Nat.ofDigitChars_cons] at h
      rw [absorbDigits, hnext, if_pos (Nat.le_trans (le_ofDigitChars text _) h), ih h,
        Nat.ofDigitChars_cons]

/-- No number but zero is written with a zero in front. -/
theorem exists_digits_cons {n : Nat} (h : n ≠ 0) :
    ∃ c text, digits n = c :: text ∧ c ≠ '0' ∧ c.isDigit = true := by
  induction n using Nat.strongRecOn with
  | ind n ih =>
      by_cases hsmall : n < 10
      · have hdigits : digits n = [n.digitChar] := Nat.toDigits_of_lt_base hsmall
        refine ⟨n.digitChar, [], hdigits, ?_, ?_⟩
        · exact (by decide : ∀ n < 10, n ≠ 0 → n.digitChar ≠ '0') n hsmall h
        · exact isDigit_of_mem_digits (n := n) (by rw [hdigits]; exact List.mem_singleton_self _)
      · obtain ⟨c, text, hdigits, hc, hdigit⟩ := ih (n / 10) (by omega) (by omega)
        have hsplit : digits n = digits (n / 10) ++ digits (n % 10) := by
          have happend := Nat.toDigits_append_toDigits (b := 10) (n := n / 10) (d := n % 10)
            (by decide) (by omega) (by omega)
          rw [Nat.div_add_mod] at happend
          exact happend.symm
        exact ⟨c, text ++ digits (n % 10), by rw [hsplit, hdigits]; rfl, hc, hdigit⟩

theorem numberBody_digits (negative : Bool) {n : Nat} (h : n ≤ largestSignificand) :
    numberBody negative (digits n) = .ok (wholeNumber negative n, []) := by
  by_cases hzero : n = 0
  · subst hzero
    cases negative with
    | true => rfl
    | false => rfl
  · obtain ⟨c, text, hdigits, hc, hdigit⟩ := exists_digits_cons hzero
    have hall : ∀ c ∈ digits n, c.isDigit = true := fun c hc => isDigit_of_mem_digits hc
    have htake : (digits n).takeWhile Char.isDigit = digits n :=
      List.takeWhile_eq_self_iff.mpr hall
    have hdrop : (digits n).dropWhile Char.isDigit = [] := List.dropWhile_eq_nil_iff.mpr hall
    have hvalue : Nat.ofDigitChars 10 (digits n) 0 = n := Nat.ofDigitChars_ten_toDigits
    have habsorb : absorbDigits 0 (digits n) = (n, []) := by
      rw [absorbDigits_eq (by rwa [hvalue]), hvalue]
    rw [hdigits, numberBody_cons negative hc, if_pos hdigit, ← hdigits, htake, hdrop, habsorb]
    rfl

/-- The integers that are read as integers: those of sixty-four bits, with or without a sign. -/
def IsWord (n : Int) : Prop :=
  Int64.minValue.toInt ≤ n ∧ n ≤ largestSignificand

theorem isNumber_integer {n : Int} (h : IsWord n) :
    IsNumber (toString n).toList (.integer n) := by
  obtain ⟨hlow, hhigh⟩ := h
  cases n with
  | ofNat n =>
      have hn : n ≤ largestSignificand := Int.ofNat_le.mp hhigh
      have hread : numberBody false (digits n) = .ok (.integer n, []) := numberBody_digits false hn
      obtain ⟨c, text, hdigits⟩ := List.exists_cons_of_ne_nil (digits_ne_nil n)
      have hdigit : c.isDigit = true :=
        isDigit_of_mem_digits (n := n) (by rw [hdigits]; exact List.mem_cons_self)
      have htext : (toString (Int.ofNat n)).toList = digits n := toString_toList n
      rw [htext]
      exact .inr ⟨c, text, hdigits, hdigit, hread⟩
  | negSucc n =>
      have hmagnitude : n + 1 ≤ Nat.pow 2 63 := by
        have hmin : Int64.minValue.toInt = -(Nat.pow 2 63 : Nat) := by decide
        omega
      have hn : n + 1 ≤ largestSignificand := Nat.le_trans hmagnitude (by decide)
      have hinteger : wholeNumber true (n + 1) = .integer (.negSucc n) := by
        rw [wholeNumber, if_pos rfl, if_neg]
        · rfl
        · rintro (hzero | hlarge)
          · exact absurd hzero (Nat.succ_ne_zero n)
          · exact absurd hmagnitude (Nat.not_le_of_lt hlarge)
      have hread := numberBody_digits true hn
      rw [hinteger] at hread
      have htext : (toString (Int.negSucc n)).toList = '-' :: digits (n + 1) := by
        change ("-" ++ toString (n + 1)).toList = _
        rw [String.toList_append, toString_toList]
        rfl
      exact .inl ⟨digits (n + 1), htext, hread⟩

end Reader

/-! ### Floating point numbers -/

/-- The characters that numbers are written with. -/
def isNumeral (c : Char) : Bool :=
  c.isDigit || ['.', 'e', '+', '-'].contains c

/-- A text of such characters only. -/
def Numeral (text : List Char) : Prop :=
  ∀ c ∈ text, isNumeral c = true

instance (text : List Char) : Decidable (Numeral text) :=
  List.decidableBAll _ text

theorem isNumeral_of_isDigit {c : Char} (h : c.isDigit = true) : isNumeral c = true := by
  rw [isNumeral, h, Bool.true_or]

theorem isSpace_eq_false_of_isNumeral {c : Char} (h : isNumeral c = true) :
    isSpace c = false := by
  simp only [isNumeral, Bool.or_eq_true, List.contains_iff_mem, List.mem_cons, List.not_mem_nil,
    or_false] at h
  rcases h with hdigit | rfl | rfl | rfl | rfl
  · exact Reader.isSpace_eq_false_of_isDigit hdigit
  all_goals rfl

theorem numeral_digits (n : Nat) : Numeral (digits n) :=
  fun _ hc => isNumeral_of_isDigit (isDigit_of_mem_digits hc)

theorem numeral_replicate_zero (n : Nat) : Numeral (List.replicate n '0') := by
  intro c hc
  rw [List.eq_of_mem_replicate hc]
  rfl

theorem Numeral.append {s t : List Char} (hs : Numeral s) (ht : Numeral t) : Numeral (s ++ t) := by
  intro c hc
  rcases List.mem_append.mp hc with hc | hc
  · exact hs c hc
  · exact ht c hc

theorem Numeral.take {ds : List Char} (h : Numeral ds) (n : Nat) : Numeral (ds.take n) :=
  fun c hc => h c (List.mem_of_mem_take hc)

theorem Numeral.drop {ds : List Char} (h : Numeral ds) (n : Nat) : Numeral (ds.drop n) :=
  fun c hc => h c (List.mem_of_mem_drop hc)

theorem numeral_positionalText {ds : List Char} (h : Numeral ds) (point : Int) :
    Numeral (NumberStyle.json.positionalText ds point).toList := by
  have hzero : Numeral "0.".toList := by decide
  have hpoint : Numeral ".".toList := by decide
  have hsuffix : Numeral NumberStyle.json.wholeSuffix.toList := by decide
  rw [NumberStyle.positionalText]
  split
  · simp only [String.toList_append, String.toList_ofList]
    exact hzero.append ((numeral_replicate_zero _).append h)
  · split
    · rw [String.toList_append, String.toList_ofList]
      exact (h.append (numeral_replicate_zero _)).append hsuffix
    · simp only [String.toList_append, String.toList_ofList]
      exact ((h.take _).append hpoint).append (h.drop _)

theorem numeral_exponentText {ds : List Char} (h : Numeral ds) (exponent : Int) :
    Numeral (NumberStyle.exponentText ds exponent).toList := by
  have hfraction : Numeral
      (if (ds.drop 1).isEmpty then "" else "." ++ String.ofList (ds.drop 1)).toList := by
    split
    · exact nofun
    · have hpoint : Numeral ".".toList := by decide
      simp only [String.toList_append, String.toList_ofList]
      exact hpoint.append (h.drop 1)
  have hmark : Numeral (if exponent < 0 then "e-" else "e+").toList := by
    split
    · decide
    · decide
  simp only [NumberStyle.exponentText, String.toList_append, String.toList_ofList,
    toString_toList]
  exact (((h.take 1).append hfraction).append hmark).append (numeral_digits _)

theorem numeral_magnitudeText (x : Binary64) :
    Numeral (NumberStyle.json.magnitudeText x).toList := by
  have hzero : Numeral ("0" ++ NumberStyle.json.wholeSuffix).toList := by decide
  rw [NumberStyle.magnitudeText]
  split
  · exact hzero
  · dsimp only [NumberStyle.json]
    split
    · exact numeral_positionalText (numeral_digits _) _
    · exact numeral_exponentText (numeral_digits _) _

theorem numeral_floatText {x : Binary64} (h : x.isFinite = true) : Numeral (floatText x) := by
  have hnumber : x.isNaN = false := by
    rw [Binary64.isFinite, bne_iff_ne] at h
    rw [Binary64.isNaN, beq_eq_false_iff_ne.mpr h, Bool.false_and]
  have hsign : Numeral (if x.negative then "-" else "").toList := by
    split
    · decide
    · exact nofun
  rw [floatText, if_pos h, NumberStyle.text, hnumber, h, if_neg Bool.false_ne_true, if_pos rfl,
    String.toList_append]
  exact hsign.append (numeral_magnitudeText x)

/-- The document is read back from its text. -/
def ReadsBack (j : Json) : Prop :=
  parse j.text = .ok j

/-- The floating point number that a text is read as. -/
def readFloat? (text : String) : Option Binary64 :=
  match parse text with
  | .ok (.float x) => some x
  | _ => none

theorem readsBack_float_iff {x : Binary64} :
    (float x).ReadsBack ↔ readFloat? (float x).text = some x := by
  rw [ReadsBack, readFloat?]
  constructor
  · intro h
    rw [h]
  · intro h
    split at h
    · next hread => rw [hread, Option.some.inj h]
    · exact absurd h nofun

instance (x : Binary64) : Decidable (float x).ReadsBack :=
  decidable_of_iff _ readsBack_float_iff.symm

/-- What a text is read as comes from a reader that leaves at most white space. -/
theorem exists_of_whole_eq_ok {α : Type} {r : Reader α} {text : String} {x : α}
    (h : r.whole text = .ok x) :
    ∃ rest, r text.toList = .ok (x, rest) ∧ ∀ c ∈ rest, isSpace c = true := by
  obtain ⟨⟨y, rest⟩, hread, hend⟩ := Reader.exists_of_bind_eq_ok h
  dsimp only at hend
  split at hend
  · next hblank =>
    obtain rfl := Except.ok.inj hend
    exact ⟨rest, hread, List.dropWhile_eq_nil_iff.mp (List.isEmpty_iff.mp hblank)⟩
  · exact absurd hend nofun

theorem isFinite_of_readsBack {x : Binary64} (h : (float x).ReadsBack) : x.isFinite = true := by
  by_contra hinfinite
  have hchars : (float x).text = "null" := by
    rw [text, chars, floatText, if_neg hinfinite]
    rfl
  rw [ReadsBack, hchars] at h
  exact absurd h nofun

/-- A floating point number that is read back from its text alone is read back from any text that
goes on behind it. -/
theorem isNumber_floatText {x : Binary64} (h : (float x).ReadsBack) :
    Reader.IsNumber (floatText x) (.float x) := by
  have hnumeral := numeral_floatText (isFinite_of_readsBack h)
  obtain ⟨rest, hread, hblank⟩ := exists_of_whole_eq_ok h
  rw [text, String.toList_ofList, chars, maximalDepth, Reader.value] at hread
  -- What the number leaves behind is an end of its text, where no white space is.
  have hrest (hsuffix : rest <:+ floatText x) : rest = [] := by
    rw [List.eq_nil_iff_forall_not_mem]
    intro c hc
    have hspace := isSpace_eq_false_of_isNumeral (hnumeral c (hsuffix.subset hc))
    rw [hblank c hc] at hspace
    exact absurd hspace (by decide)
  rcases hchars : floatText x with _ | ⟨c, ds⟩
  · rw [hchars] at hread
    exact absurd hread nofun
  · by_cases hdigit : c.isDigit = true
    · rw [hchars, Reader.valueWith_digit hdigit] at hread
      obtain ⟨hsuffix, -⟩ := Reader.separable_numberBody false _ hread
      rw [hrest (by rwa [hchars])] at hread
      exact .inr ⟨c, ds, rfl, hdigit, hread⟩
    · have hmark : c ∈ ['.', 'e', '+', '-'] := by
        have hc := hnumeral c (by rw [hchars]; exact List.mem_cons_self)
        rw [isNumeral, Bool.or_eq_true, List.contains_iff_mem] at hc
        exact hc.resolve_left hdigit
      rw [hchars] at hread
      simp only [List.mem_cons, List.not_mem_nil, or_false] at hmark
      rcases hmark with rfl | rfl | rfl | rfl
      · exact absurd hread nofun
      · exact absurd hread nofun
      · exact absurd hread nofun
      · have hbody : Reader.numberBody true ds = .ok (.float x, rest) := hread
        obtain ⟨hsuffix, -⟩ := Reader.separable_numberBody true _ hbody
        have hcons : ds <:+ '-' :: ds := List.suffix_cons _ _
        rw [hrest (by rw [hchars]; exact hsuffix.trans hcons)] at hbody
        exact .inl ⟨ds, rfl, hbody⟩

end Json

end GraphSearch

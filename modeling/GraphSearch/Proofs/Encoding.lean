import GraphSearch.Value.Digest
import Mathlib

/-!
The byte encodings behind digests tell what they encode.

Each encoding says itself where it ends: whatever follows two equal beginnings, the encoded things are
the same, and so is what follows. For values this holds as far as the store keeps them, which has no
dates, and as long as the length of a list fits its eight bytes.
-/

namespace GraphSearch

namespace Encoding

theorem littleEndian_length (width n : Nat) : (littleEndian width n).length = width := by
  induction width generalizing n with
  | zero => rfl
  | succ width ih => simp [littleEndian, ih]

theorem littleEndian_injective (width : Nat) {n m : Nat} (hn : n < 256 ^ width)
    (hm : m < 256 ^ width) (h : littleEndian width n = littleEndian width m) : n = m := by
  induction width generalizing n m with
  | zero =>
      rw [Nat.pow_zero] at hn hm
      omega
  | succ width ih =>
      obtain ⟨hbyte, hrest⟩ := List.cons.inj h
      rw [Nat.pow_succ] at hn hm
      have hquotient : n / 256 = m / 256 :=
        ih (Nat.div_lt_of_lt_mul (by omega)) (Nat.div_lt_of_lt_mul (by omega)) hrest
      have hremainder : n % 256 = m % 256 := by
        simpa using congrArg UInt8.toNat hbyte
      omega

theorem tag_append_inj {n m : Nat} {r s : List UInt8} (hn : n < 2 ^ 64) (hm : m < 2 ^ 64)
    (h : tag n ++ r = tag m ++ s) : n = m ∧ r = s := by
  obtain ⟨htag, hrest⟩ :=
    List.append_inj h (by rw [tag, tag, littleEndian_length, littleEndian_length])
  exact ⟨littleEndian_injective 8 hn hm htag, hrest⟩

theorem word_append_inj {n m : UInt64} {r s : List UInt8} (h : word n ++ r = word m ++ s) :
    n = m ∧ r = s := by
  obtain ⟨hword, hrest⟩ := tag_append_inj n.toNat_lt m.toNat_lt h
  exact ⟨UInt64.toNat_inj.mp hword, hrest⟩

theorem flag_append_inj {b c : Bool} {r s : List UInt8} (h : flag b ++ r = flag c ++ s) :
    b = c ∧ r = s := by
  obtain ⟨hflag, hrest⟩ := List.cons.inj h
  refine ⟨?_, hrest⟩
  cases b <;> cases c <;> simp_all

/-- No byte of a UTF-8 text closes a text. -/
theorem ne_closing_of_mem_utf8EncodeChar {c : Char} {b : UInt8}
    (h : b ∈ String.utf8EncodeChar c) : b ≠ 0xff := by
  rintro rfl
  have hbound : ∀ n : Nat, n < 255 → (0xff : UInt8) ≠ UInt8.ofNat n := by
    intro n hn heq
    have hnat := congrArg UInt8.toNat heq
    rw [UInt8.toNat_ofNat'] at hnat
    change 255 = n % 256 at hnat
    omega
  rw [String.utf8EncodeChar] at h
  split at h
  · rw [List.mem_singleton] at h
    exact hbound _ (by omega) h
  · split at h
    · simp only [List.mem_cons, List.not_mem_nil, or_false] at h
      rcases h with h | h <;> exact hbound _ (by omega) h
    · split at h
      · simp only [List.mem_cons, List.not_mem_nil, or_false] at h
        rcases h with h | h | h <;> exact hbound _ (by omega) h
      · simp only [List.mem_cons, List.not_mem_nil, or_false] at h
        rcases h with h | h | h | h <;> exact hbound _ (by omega) h

theorem utf8_injective {s t : String}
    (h : s.toList.flatMap String.utf8EncodeChar = t.toList.flatMap String.utf8EncodeChar) :
    s = t := by
  have hbytes : s.toList.utf8Encode = t.toList.utf8Encode := congrArg List.toByteArray h
  have hstring : String.ofList s.toList = String.ofList t.toList :=
    String.toByteArray_inj.mp hbytes
  rwa [String.ofList_toList, String.ofList_toList] at hstring

theorem append_closing_inj {α : Type} {closing : α} {xs ys r s : List α} (hx : closing ∉ xs)
    (hy : closing ∉ ys) (h : xs ++ closing :: r = ys ++ closing :: s) : xs = ys ∧ r = s := by
  induction xs generalizing ys with
  | nil =>
      cases ys with
      | nil => exact ⟨rfl, (List.cons.inj h).2⟩
      | cons y ys =>
          obtain ⟨rfl, -⟩ := List.cons.inj h
          exact absurd List.mem_cons_self hy
  | cons x xs ih =>
      cases ys with
      | nil =>
          obtain ⟨rfl, -⟩ := List.cons.inj h
          exact absurd List.mem_cons_self hx
      | cons y ys =>
          obtain ⟨rfl, htail⟩ := List.cons.inj h
          obtain ⟨rfl, hrest⟩ := ih (List.not_mem_of_not_mem_cons hx)
            (List.not_mem_of_not_mem_cons hy) htail
          exact ⟨rfl, hrest⟩

theorem text_append_inj {s t : String} {r r' : List UInt8} (h : text s ++ r = text t ++ r') :
    s = t ∧ r = r' := by
  have hclosing (u : String) : (0xff : UInt8) ∉ u.toList.flatMap String.utf8EncodeChar := by
    intro hmem
    obtain ⟨c, -, hc⟩ := List.mem_flatMap.mp hmem
    exact ne_closing_of_mem_utf8EncodeChar hc rfl
  simp only [text, List.append_assoc, List.singleton_append] at h
  obtain ⟨hbytes, hrest⟩ := append_closing_inj (hclosing s) (hclosing t) h
  exact ⟨utf8_injective hbytes, hrest⟩

theorem optional_append_inj {α : Type} {encode : α → List UInt8} {x y : Option α}
    {r s : List UInt8}
    (hencode : ∀ a ∈ x, ∀ b ∈ y, encode a ++ r = encode b ++ s → a = b ∧ r = s)
    (h : optional encode x ++ r = optional encode y ++ s) : x = y ∧ r = s := by
  cases x with
  | none =>
      cases y with
      | none => exact ⟨rfl, (tag_append_inj (by decide) (by decide) h).2⟩
      | some b =>
          rw [optional, optional, List.append_assoc] at h
          exact absurd (tag_append_inj (by decide) (by decide) h).1 (by decide)
  | some a =>
      cases y with
      | none =>
          rw [optional, optional, List.append_assoc] at h
          exact absurd (tag_append_inj (by decide) (by decide) h).1 (by decide)
      | some b =>
          rw [optional, optional, List.append_assoc, List.append_assoc] at h
          obtain ⟨rfl, hrest⟩ := hencode a rfl b rfl (tag_append_inj (by decide) (by decide) h).2
          exact ⟨rfl, hrest⟩

theorem optional_text_append_inj {x y : Option String} {r s : List UInt8}
    (h : optional text x ++ r = optional text y ++ s) : x = y ∧ r = s :=
  optional_append_inj (fun _ _ _ _ heq => text_append_inj heq) h

end Encoding

namespace Value

open Encoding

mutual

/-- Every list in the value is short enough for its length to be a word. -/
def Sized : Value → Prop
  | list items => items.length < 2 ^ 64 ∧ AllSized items
  | _ => True

/-- `Sized` for all items. -/
def AllSized : List Value → Prop
  | [] => True
  | item :: rest => item.Sized ∧ AllSized rest

end

mutual

/-- A sized value without dates, as the store keeps it. -/
def Plain : Value → Prop
  | list items => items.length < 2 ^ 64 ∧ AllPlain items
  | date _ => False
  | _ => True

/-- `Plain` for all items. -/
def AllPlain : List Value → Prop
  | [] => True
  | item :: rest => item.Plain ∧ AllPlain rest

end

theorem storedItems_length (items : List Value) : (storedItems items).length = items.length := by
  induction items with
  | nil => rfl
  | cons item rest ih => simp [storedItems, ih]

mutual

theorem plain_stored : ∀ v : Value, v.Sized → v.stored.Plain
  | null, _ => trivial
  | boolean _, _ => trivial
  | integer _, _ => trivial
  | float _, _ => trivial
  | string _, _ => trivial
  | list items, h => by
      rw [stored, Plain, storedItems_length]
      exact ⟨h.1, allPlain_storedItems items h.2⟩
  | date _, _ => trivial

theorem allPlain_storedItems : ∀ items : List Value, AllSized items → AllPlain (storedItems items)
  | [], _ => trivial
  | item :: rest, h => ⟨plain_stored item h.1, allPlain_storedItems rest h.2⟩

end

mutual

theorem stored_stored : ∀ v : Value, v.stored.stored = v.stored
  | null => rfl
  | boolean _ => rfl
  | integer _ => rfl
  | float _ => rfl
  | string _ => rfl
  | list items => congrArg list (storedItems_storedItems items)
  | date _ => rfl

theorem storedItems_storedItems :
    ∀ items : List Value, storedItems (storedItems items) = storedItems items
  | [] => rfl
  | item :: rest => by
      rw [storedItems, storedItems, stored_stored item, storedItems_storedItems rest]

end

theorem isNull_stored (v : Value) : v.stored.isNull = v.isNull := by
  cases v <;> rfl

/-- The position of the alternative among all. -/
def position : Value → Nat
  | null => 0
  | boolean _ => 1
  | integer _ => 2
  | float _ => 3
  | string _ => 4
  | list _ => 5
  | date _ => 6

theorem position_lt (v : Value) : v.position < 2 ^ 64 := by
  cases v <;> simp [position]

theorem exists_digestInput_eq_tag (v : Value) :
    ∃ content, v.digestInput = tag v.position ++ content := by
  cases v with
  | null => exact ⟨[], rfl⟩
  | list items => exact ⟨_, List.append_assoc _ _ _⟩
  | _ => exact ⟨_, rfl⟩

theorem position_eq_of_digestInput_append {v w : Value} {r s : List UInt8}
    (h : v.digestInput ++ r = w.digestInput ++ s) : v.position = w.position := by
  obtain ⟨vContent, hv⟩ := exists_digestInput_eq_tag v
  obtain ⟨wContent, hw⟩ := exists_digestInput_eq_tag w
  rw [hv, hw, List.append_assoc, List.append_assoc] at h
  exact (tag_append_inj v.position_lt w.position_lt h).1

mutual

theorem digestInput_append_inj :
    ∀ (v w : Value) (r s : List UInt8), v.Plain → w.Plain →
      v.digestInput ++ r = w.digestInput ++ s → v = w ∧ r = s := by
  intro v w r s hv hw h
  have hposition := position_eq_of_digestInput_append h
  cases v with
  | null =>
      cases w with
      | null => exact ⟨rfl, List.append_cancel_left h⟩
      | _ => exact absurd hposition (by simp [position])
  | boolean b =>
      cases w with
      | boolean c =>
          rw [digestInput, digestInput, List.append_assoc, List.append_assoc] at h
          obtain ⟨rfl, hrest⟩ := flag_append_inj (List.append_cancel_left h)
          exact ⟨rfl, hrest⟩
      | _ => exact absurd hposition (by simp [position])
  | integer n =>
      cases w with
      | integer m =>
          rw [digestInput, digestInput, List.append_assoc, List.append_assoc] at h
          obtain ⟨hword, hrest⟩ := word_append_inj (List.append_cancel_left h)
          have hn : n = m := by rw [← n.toInt64_toUInt64, hword, m.toInt64_toUInt64]
          exact ⟨congrArg integer hn, hrest⟩
      | _ => exact absurd hposition (by simp [position])
  | float x =>
      cases w with
      | float y =>
          rw [digestInput, digestInput, List.append_assoc, List.append_assoc] at h
          obtain ⟨hword, hrest⟩ := word_append_inj (List.append_cancel_left h)
          exact ⟨congrArg (fun bits => float ⟨bits⟩) hword, hrest⟩
      | _ => exact absurd hposition (by simp [position])
  | string u =>
      cases w with
      | string t =>
          rw [digestInput, digestInput, List.append_assoc, List.append_assoc] at h
          obtain ⟨rfl, hrest⟩ := text_append_inj (List.append_cancel_left h)
          exact ⟨rfl, hrest⟩
      | _ => exact absurd hposition (by simp [position])
  | list xs =>
      cases w with
      | list ys =>
          rw [digestInput, digestInput] at h
          simp only [List.append_assoc] at h
          obtain ⟨hlength, hitems⟩ :=
            tag_append_inj hv.1 hw.1 (List.append_cancel_left h)
          obtain ⟨rfl, hrest⟩ := itemsDigestInput_append_inj xs ys r s hlength hv.2 hw.2 hitems
          exact ⟨rfl, hrest⟩
      | _ => exact absurd hposition (by simp [position])
  | date t => exact hv.elim

theorem itemsDigestInput_append_inj :
    ∀ (xs ys : List Value) (r s : List UInt8), xs.length = ys.length → AllPlain xs →
      AllPlain ys → itemsDigestInput xs ++ r = itemsDigestInput ys ++ s → xs = ys ∧ r = s
  | [], [], _, _, _, _, _, h => ⟨rfl, h⟩
  | x :: xs, y :: ys, r, s, hlength, hx, hy, h => by
      rw [itemsDigestInput, itemsDigestInput, List.append_assoc, List.append_assoc] at h
      obtain ⟨rfl, hitems⟩ := digestInput_append_inj x y _ _ hx.1 hy.1 h
      obtain ⟨rfl, hrest⟩ := itemsDigestInput_append_inj xs ys r s (Nat.succ.inj hlength)
        hx.2 hy.2 hitems
      exact ⟨rfl, hrest⟩

end

end Value

end GraphSearch

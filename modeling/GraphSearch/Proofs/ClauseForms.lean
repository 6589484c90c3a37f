import GraphSearch.Clause.Registry
import GraphSearch.Proofs.Encoding
import GraphSearch.Proofs.Quoting

/-!
The forms of composite clauses.

The parts of a composite clause are digested one after the other without a mark for the last one.
Still the first part tells the form of the clause, and with it how many parts there are. The keys under
which values are bound are not digested, but a text of the same clause quotes them.
-/

namespace GraphSearch

open Identifier (property property_toList property_append_inj)

/-- The forms that composite clauses have. -/
inductive Form where
  | bound
  | between
  | holdsAll
  | holds
  | within
  | related
  | relatedTo
deriving DecidableEq

/-- How many parts a clause of a form has. -/
def Form.size : Form → Nat
  | bound => 2
  | between => 7
  | holdsAll => 3
  | holds => 2
  | within => 6
  | related => 1
  | relatedTo => 3

/-- The clauses of each form. -/
inductive HasForm : Form → List DraftPart → Prop where
  | bound (key operator : String) (value : Value) :
      HasForm .bound (Draft.bound key operator value)
  | between (key lower upper : String) (low high : Value) :
      HasForm .between
        ([.text "("] ++ Draft.bound key lower low ++ [.text " AND "] ++
          Draft.bound key upper high ++ [.text ")"])
  | holdsAll (key : String) (items : List Value) {parts : List DraftPart}
      (h : Draft.holds key (.list items) = .composite parts) : HasForm .holdsAll parts
  | holds (key : String) (value : Value) {parts : List DraftPart}
      (hlist : ∀ items, value ≠ .list items)
      (h : Draft.holds key value = .composite parts) : HasForm .holds parts
  | within (latitude longitude distance : Binary64) {parts : List DraftPart}
      (h : Draft.within latitude longitude distance = .composite parts) : HasForm .within parts
  | related (type : String) (direction : Direction) {parts : List DraftPart}
      (h : Draft.isRelated type direction none = .composite parts) : HasForm .related parts
  | relatedTo (type : String) (direction : Direction) (uuid : String) {parts : List DraftPart}
      (h : Draft.isRelated type direction (some uuid) = .composite parts) :
      HasForm .relatedTo parts

theorem holds_eq_composite {key : String} {value : Value} {parts : List DraftPart}
    (hlist : ∀ items, value ≠ .list items) (h : Draft.holds key value = .composite parts) :
    parts = [.value key value, .text (" IN " ++ property key)] := by
  cases value with
  | null => exact absurd h (by simp [Draft.holds, Draft.isMissing])
  | list items => exact absurd rfl (hlist items)
  | _ => exact (Draft.composite.inj h).symm

namespace DraftPart

/-- What a digest covers of a part: the text, or the value as the store keeps it. -/
def content : DraftPart → String ⊕ Value
  | .text s => .inl s
  | .value _ v => .inr v.stored

/-- The part as the store keeps its value. -/
def stored : DraftPart → DraftPart
  | .text s => .text s
  | .value key v => .value key v.stored

/-- A text that begins with a visible character, which no value begins with. -/
def Visible : DraftPart → Prop
  | .text s => ∃ c, s.toList.head? = some c ∧ 1 < c.toNat ∧ c.toNat < 128
  | .value .. => True

/-- The value of the part is short enough for a digest. -/
def Sized : DraftPart → Prop
  | .text _ => True
  | .value _ v => v.stored.Plain

end DraftPart

/-- The form that the first part of a clause announces. -/
def announcedForm : String ⊕ Value → Form
  | .inr _ => .holds
  | .inl s =>
      match s.toList.head? with
      | some 'n' => .bound
      | some '(' => .between
      | some 'A' => .holdsAll
      | some 'p' => .within
      | _ => if s.toList.getLast? = some '\x7d' then .related else .relatedTo

theorem toList_append_getLast? (s : String) {t : String} {c : Char}
    (h : t.toList.getLast? = some c) : (s ++ t).toList.getLast? = some c := by
  rw [String.toList_append, List.getLast?_append, h]
  rfl

theorem announcedForm_text_of_head {s : String} (h : s.toList.head? = some 'E') :
    announcedForm (.inl s) =
      if s.toList.getLast? = some '\x7d' then .related else .relatedTo := by
  simp [announcedForm, h]

theorem bound_text_toList (key operator : String) :
    (property key ++ " " ++ operator ++ " ").toList =
      (property key).toList ++ ' ' :: (operator.toList ++ [' ']) := by
  simp [String.toList_append]

theorem key_eq_of_bound_text {key key' operator operator' : String}
    (h : property key ++ " " ++ operator ++ " " = property key' ++ " " ++ operator' ++ " ") :
    key = key' := by
  have hlist := congrArg String.toList h
  rw [bound_text_toList, bound_text_toList] at hlist
  exact (property_append_inj (by simp) (by simp) hlist).1

theorem key_eq_of_quoting_text {before behind key key' : String}
    (hquote : behind.toList.head? ≠ some '\x60')
    (h : before ++ property key ++ behind = before ++ property key' ++ behind) : key = key' := by
  have hlist := congrArg String.toList h
  simp only [String.toList_append, List.append_assoc, List.append_cancel_left_eq] at hlist
  exact (property_append_inj hquote hquote hlist).1

theorem DraftPart.visible_bound_text (key operator : String) :
    (text (property key ++ " " ++ operator ++ " ")).Visible := by
  rw [Visible, bound_text_toList, property_toList]
  exact ⟨'n', rfl, by decide⟩

namespace HasForm

variable {form : Form} {parts : List DraftPart}

theorem length_eq (h : HasForm form parts) : parts.length = form.size := by
  cases h with
  | bound | between => rfl
  | holds key value hlist h =>
      rw [holds_eq_composite hlist h]
      rfl
  | holdsAll _ _ h | within _ _ _ h | related _ _ h | relatedTo _ _ _ h =>
      obtain rfl := Draft.composite.inj h
      rfl

theorem announced (h : HasForm form parts) :
    ∃ first rest, parts = first :: rest ∧ announcedForm first.content = form := by
  cases h with
  | bound key operator value =>
      refine ⟨_, _, rfl, ?_⟩
      rw [DraftPart.content, announcedForm, bound_text_toList, property_toList]
      rfl
  | between => exact ⟨_, _, rfl, rfl⟩
  | holds key value hlist h =>
      rw [holds_eq_composite hlist h]
      exact ⟨_, _, rfl, rfl⟩
  | holdsAll _ _ h =>
      obtain rfl := Draft.composite.inj h
      exact ⟨_, _, rfl, rfl⟩
  | within _ _ _ h =>
      obtain rfl := Draft.composite.inj h
      refine ⟨_, _, rfl, ?_⟩
      simp [DraftPart.content, announcedForm, String.toList_append]
  | related type direction h =>
      obtain rfl := Draft.composite.inj h
      refine ⟨_, _, rfl, ?_⟩
      rw [DraftPart.content, announcedForm_text_of_head (by simp [String.toList_append]),
        if_pos (toList_append_getLast? _ (by decide))]
  | relatedTo type direction uuid h =>
      obtain rfl := Draft.composite.inj h
      refine ⟨_, _, rfl, ?_⟩
      rw [DraftPart.content, announcedForm_text_of_head (by simp [String.toList_append]),
        toList_append_getLast? _ (show _ = some ' ' by decide), if_neg (by decide)]

theorem eq_of_content {form' : Form} {parts' : List DraftPart} (h : HasForm form parts)
    (h' : HasForm form' parts')
    (hcontent : parts.map DraftPart.content = parts'.map DraftPart.content) : form = form' := by
  obtain ⟨first, rest, rfl, rfl⟩ := h.announced
  obtain ⟨first', rest', rfl, rfl⟩ := h'.announced
  exact congrArg announcedForm (List.cons.inj hcontent).1

theorem visible (h : HasForm form parts) : ∀ part ∈ parts, part.Visible := by
  cases h with
  | bound key operator value =>
      simp only [Draft.bound, List.forall_mem_cons]
      exact ⟨DraftPart.visible_bound_text key operator, trivial, by simp⟩
  | between key lower upper low high =>
      simp only [Draft.bound, List.cons_append, List.nil_append, List.forall_mem_cons]
      exact ⟨⟨'(', rfl, by decide⟩, DraftPart.visible_bound_text key lower, trivial,
        ⟨' ', rfl, by decide⟩, DraftPart.visible_bound_text key upper, trivial,
        ⟨')', rfl, by decide⟩, by simp⟩
  | holdsAll key items h =>
      obtain rfl := Draft.composite.inj h
      simp only [List.forall_mem_cons]
      exact ⟨⟨'A', rfl, by decide⟩, trivial,
        ⟨' ', by simp [String.toList_append], by decide⟩, by simp⟩
  | holds key value hlist h =>
      rw [holds_eq_composite hlist h]
      simp only [List.forall_mem_cons]
      exact ⟨trivial, ⟨' ', by simp [String.toList_append], by decide⟩, by simp⟩
  | within _ _ _ h =>
      obtain rfl := Draft.composite.inj h
      simp only [List.forall_mem_cons]
      exact ⟨⟨'p', by simp [String.toList_append], by decide⟩, trivial, ⟨',', rfl, by decide⟩,
        trivial, ⟨'\x7d', rfl, by decide⟩, trivial, by simp⟩
  | related type direction h =>
      obtain rfl := Draft.composite.inj h
      simp only [List.forall_mem_cons]
      exact ⟨⟨'E', by simp [String.toList_append], by decide⟩, by simp⟩
  | relatedTo type direction uuid h =>
      obtain rfl := Draft.composite.inj h
      simp only [List.forall_mem_cons]
      exact ⟨⟨'E', by simp [String.toList_append], by decide⟩, trivial, ⟨' ', rfl, by decide⟩,
        by simp⟩

/-- The contents of a clause tell its parts: the keys stand in the texts. -/
theorem stored_eq_of_content {form' : Form} {parts' : List DraftPart} (h : HasForm form parts)
    (h' : HasForm form' parts')
    (hcontent : parts.map DraftPart.content = parts'.map DraftPart.content) :
    parts.map DraftPart.stored = parts'.map DraftPart.stored := by
  obtain rfl := h.eq_of_content h' hcontent
  cases h with
  | bound key operator value =>
      cases h' with
      | bound key' operator' value' =>
          simp only [Draft.bound, List.map_cons, DraftPart.content, List.cons.injEq,
            Sum.inl.injEq, Sum.inr.injEq] at hcontent
          obtain ⟨htext, hvalue, -⟩ := hcontent
          obtain rfl := key_eq_of_bound_text htext
          simp only [Draft.bound, List.map_cons, DraftPart.stored, htext, hvalue]
  | between key lower upper low high =>
      cases h' with
      | between key' lower' upper' low' high' =>
          simp only [Draft.bound, List.cons_append, List.nil_append, List.map_cons,
            DraftPart.content, List.cons.injEq, Sum.inl.injEq, Sum.inr.injEq] at hcontent
          obtain ⟨-, hlower, hlow, -, hupper, hhigh, -⟩ := hcontent
          obtain rfl := key_eq_of_bound_text hlower
          simp only [Draft.bound, List.cons_append, List.nil_append, List.map_cons,
            DraftPart.stored, hlower, hlow, hupper, hhigh]
  | holdsAll key items h =>
      cases h' with
      | holdsAll key' items' h' =>
          obtain rfl := Draft.composite.inj h
          obtain rfl := Draft.composite.inj h'
          simp only [List.map_cons, DraftPart.content, List.cons.injEq, Sum.inl.injEq,
            Sum.inr.injEq] at hcontent
          obtain ⟨-, hvalue, htext, -⟩ := hcontent
          obtain rfl := key_eq_of_quoting_text (by decide) htext
          simp only [List.map_cons, DraftPart.stored, hvalue]
  | holds key value hlist h =>
      cases h' with
      | holds key' value' hlist' h' =>
          rw [holds_eq_composite hlist h, holds_eq_composite hlist' h'] at hcontent ⊢
          simp only [List.map_cons, DraftPart.content, List.cons.injEq, Sum.inl.injEq,
            Sum.inr.injEq] at hcontent
          obtain ⟨hvalue, htext, -⟩ := hcontent
          have hquoting : " IN " ++ property key ++ "" = " IN " ++ property key' ++ "" := by
            rw [String.append_empty, String.append_empty, htext]
          obtain rfl := key_eq_of_quoting_text (by decide) hquoting
          simp only [List.map_cons, DraftPart.stored, hvalue]
  | within _ _ _ h =>
      cases h' with
      | within _ _ _ h' =>
          obtain rfl := Draft.composite.inj h
          obtain rfl := Draft.composite.inj h'
          simp only [List.map_cons, DraftPart.content, List.cons.injEq, Sum.inr.injEq] at hcontent
          obtain ⟨-, hlatitude, -, hlongitude, -, hdistance, -⟩ := hcontent
          simp only [List.map_cons, DraftPart.stored, hlatitude, hlongitude, hdistance]
  | related _ _ h =>
      cases h' with
      | related _ _ h' =>
          obtain rfl := Draft.composite.inj h
          obtain rfl := Draft.composite.inj h'
          simpa [DraftPart.content, DraftPart.stored] using hcontent
  | relatedTo _ _ _ h =>
      cases h' with
      | relatedTo _ _ _ h' =>
          obtain rfl := Draft.composite.inj h
          obtain rfl := Draft.composite.inj h'
          simpa [DraftPart.content, DraftPart.stored] using hcontent

end HasForm

end GraphSearch

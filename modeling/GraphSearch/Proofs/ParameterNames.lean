import GraphSearch.Proofs.Digits
import GraphSearch.Proofs.Encoding
import GraphSearch.Proofs.Translation

/-!
Parameter names are never given twice.

A name is a base, or a base, an underscore and a number. All bases end in the same letters, so that a
name tells its base and its number. As long as each binding is numbered by the earlier ones of its
base, the names are different, and the value under a name is the one that was bound to it.
-/

namespace GraphSearch

namespace Identifier

theorem parameterBase_toList (key : String) :
    (parameterBase key).toList = (plain key).toList ++ ['_', 'p', 'a', 'r', 'a', 'm'] := by
  rw [parameterBase, String.toList_append]
  rfl

/-- A plain identifier: letters, digits and underscores, of which the first is no digit. -/
def IsName (name : String) : Prop :=
  ∃ c rest, name.toList = c :: rest ∧ (c.isAlpha || c == '_') = true ∧ ∀ d ∈ rest, isPlain d = true

theorem IsName.not_mem {name : String} {c : Char} (h : IsName name) (hc : isPlain c = false) :
    c ∉ name.toList := by
  obtain ⟨first, rest, hname, hfirst, hrest⟩ := h
  rw [hname, List.mem_cons, not_or]
  constructor
  · rintro rfl
    simp only [isPlain, Char.isAlphanum, Bool.or_eq_false_iff] at hc
    simp [hc] at hfirst
  · intro hmem
    rw [hrest c hmem] at hc
    exact absurd hc (by decide)

theorem isName_append {name : String} {cs : List Char} (h : IsName name)
    (hcs : ∀ d ∈ cs, isPlain d = true) {joined : String} (hjoined : joined.toList = name.toList ++ cs) :
    IsName joined := by
  obtain ⟨c, rest, hname, hc, hrest⟩ := h
  refine ⟨c, rest ++ cs, by rw [hjoined, hname, List.cons_append], hc, ?_⟩
  intro d hd
  rcases List.mem_append.mp hd with hd | hd
  · exact hrest d hd
  · exact hcs d hd

theorem isName_plain (key : String) : IsName (plain key) := by
  have hplain : ∀ d ∈ key.toList.map fun c => if isPlain c then c else '_', isPlain d = true := by
    intro d hd
    obtain ⟨c, -, rfl⟩ := List.mem_map.mp hd
    split
    · assumption
    · decide
  rw [plain]
  cases hchars : key.toList.map fun c => if isPlain c then c else '_' with
  | nil => exact ⟨'p', [], rfl, by decide, by simp⟩
  | cons c rest =>
      rw [hchars] at hplain
      dsimp only
      split
      · exact ⟨'p', c :: rest, String.toList_ofList, by decide, hplain⟩
      · rename_i hdigit
        have hc := hplain c List.mem_cons_self
        refine ⟨c, rest, String.toList_ofList, ?_, fun d hd => hplain d (List.mem_cons_of_mem c hd)⟩
        simpa [isPlain, Char.isAlphanum, hdigit] using hc

theorem isName_parameterBase (key : String) : IsName (parameterBase key) := by
  refine isName_append (isName_plain key) ?_ (parameterBase_toList key)
  exact List.all_eq_true.mp rfl

end Identifier

open Identifier (parameterBase parameterBase_toList)

namespace Binding

theorem name_toList_of_pos {b : Binding} (h : b.ordinal ≠ 0) :
    b.name.toList = b.base.toList ++ '_' :: digits b.ordinal := by
  rw [name, if_neg h, String.toList_append, String.toList_append, toString_toList,
    List.append_assoc]
  rfl

/-- A base is not the name of a numbered binding: it does not end in a digit. -/
theorem base_ne_name_of_pos {b : Binding} (h : b.ordinal ≠ 0) (key : String) :
    parameterBase key ≠ b.name := by
  intro heq
  have hlist := congrArg String.toList heq
  rw [parameterBase_toList, name_toList_of_pos h] at hlist
  obtain hnil | ⟨ds, c, hds⟩ := List.eq_nil_or_concat (digits b.ordinal)
  · exact absurd hnil (digits_ne_nil _)
  · have hc : c.isDigit = true := isDigit_of_mem_digits (by rw [hds]; simp)
    have hends : ((Identifier.plain key).toList ++ ['_', 'p', 'a', 'r', 'a']) ++ ['m'] =
        (b.base.toList ++ '_' :: ds) ++ [c] := by
      rw [hds, List.concat_eq_append] at hlist
      simpa only [List.append_assoc, List.cons_append, List.nil_append] using hlist
    obtain rfl := List.singleton_inj.mp (List.append_inj' hends rfl).2
    exact absurd hc (by decide)

theorem name_inj {b c : Binding} {key key' : String} (hb : b.base = parameterBase key)
    (hc : c.base = parameterBase key') (h : b.name = c.name) :
    b.base = c.base ∧ b.ordinal = c.ordinal := by
  by_cases hbZero : b.ordinal = 0
  · by_cases hcZero : c.ordinal = 0
    · rw [name, name, if_pos hbZero, if_pos hcZero] at h
      exact ⟨h, hbZero.trans hcZero.symm⟩
    · rw [name, if_pos hbZero, hb] at h
      exact absurd h (base_ne_name_of_pos hcZero key)
  · by_cases hcZero : c.ordinal = 0
    · rw [eq_comm, name, if_pos hcZero, hc] at h
      exact absurd h (base_ne_name_of_pos hbZero key')
    · have hlist := congrArg (fun s => s.toList.reverse) h
      simp only [name_toList_of_pos hbZero, name_toList_of_pos hcZero, List.reverse_append,
        List.reverse_cons, List.append_assoc, List.singleton_append] at hlist
      have hunderscore (n : Nat) : '_' ∉ (digits n).reverse := by
        rw [List.mem_reverse]
        exact not_mem_digits (by decide) n
      obtain ⟨hdigits, hbase⟩ :=
        Encoding.append_closing_inj (hunderscore _) (hunderscore _) hlist
      exact ⟨String.toList_inj.mp (List.reverse_injective hbase),
        digits_injective (List.reverse_injective hdigits)⟩

end Binding

theorem Binding.isName {b : Binding} {key : String} (h : b.base = parameterBase key) :
    Identifier.IsName b.name := by
  by_cases hzero : b.ordinal = 0
  · rw [name, if_pos hzero, h]
    exact Identifier.isName_parameterBase key
  · refine Identifier.isName_append (Identifier.isName_parameterBase key) ?_
      (h ▸ name_toList_of_pos hzero)
    intro d hd
    rcases List.mem_cons.mp hd with rfl | hd
    · decide
    · simp [Identifier.isPlain, Char.isAlphanum, isDigit_of_mem_digits hd]

/-- Bindings as they come about: the base is made from a key, and the number is that of the earlier
bindings with the base. -/
inductive Numbered : List Binding → Prop where
  | nil : Numbered []
  | snoc {bs : List Binding} (h : Numbered bs) (key : String) (value : Value) :
      Numbered
        (bs ++ [⟨parameterBase key, bs.countP fun b => b.base = parameterBase key, value⟩])

namespace Numbered

variable {bs : List Binding}

theorem exists_key (h : Numbered bs) : ∀ b ∈ bs, ∃ key, b.base = parameterBase key := by
  induction h with
  | nil => simp
  | snoc _ key value ih =>
      intro b hb
      rcases List.mem_append.mp hb with hb | hb
      · exact ih b hb
      · rw [List.mem_singleton] at hb
        exact ⟨key, by rw [hb]⟩

theorem ordinal_lt (h : Numbered bs) :
    ∀ b ∈ bs, b.ordinal < bs.countP fun c => c.base = b.base := by
  induction h with
  | nil => simp
  | snoc _ key value ih =>
      intro b hb
      rw [List.countP_append]
      rcases List.mem_append.mp hb with hb | hb
      · exact Nat.lt_add_right _ (ih b hb)
      · rw [List.mem_singleton] at hb
        subst hb
        simp

theorem nodup_names (h : Numbered bs) : (bs.map Binding.name).Nodup := by
  induction h with
  | nil => exact List.nodup_nil
  | @snoc bs hbs key value ih =>
      rw [List.map_append, List.map_singleton, List.nodup_append]
      refine ⟨ih, by simp, ?_⟩
      intro name hname new hnew heq
      obtain ⟨b, hb, rfl⟩ := List.mem_map.mp hname
      rw [List.mem_singleton] at hnew
      obtain ⟨bKey, hbase⟩ := hbs.exists_key b hb
      -- An earlier binding of the same base has a smaller number.
      obtain ⟨hsameBase, hsameOrdinal⟩ := Binding.name_inj hbase rfl (heq.trans hnew)
      have hlt := hbs.ordinal_lt b hb
      rw [hsameOrdinal] at hlt
      simp only [hsameBase, Nat.lt_irrefl] at hlt

end Numbered

namespace Dictionary

theorem ofEntries_concat {α : Type} (entries : List (String × α)) (entry : String × α) :
    ofEntries (entries ++ [entry]) = (ofEntries entries).insert entry.1 entry.2 := by
  rw [ofEntries, List.foldl_append]
  rfl

theorem get?_ofEntries_of_mem {α : Type} {entries : List (String × α)} {key : String} {value : α}
    (hnodup : (entries.map Prod.fst).Nodup) (hmem : (key, value) ∈ entries) :
    (ofEntries entries).get? key = some value := by
  induction entries using List.reverseRecOn with
  | nil => simp at hmem
  | append_singleton entries entry ih =>
      rw [ofEntries_concat, get?_insert]
      rw [List.map_append, List.nodup_append] at hnodup
      obtain ⟨hentries, -, hdisjoint⟩ := hnodup
      rcases List.mem_append.mp hmem with hold | hnew
      · have hne : key ≠ entry.1 :=
          hdisjoint key (List.mem_map_of_mem hold) entry.1 (by simp)
        rw [if_neg hne]
        exact ih hentries hold
      · rw [List.mem_singleton] at hnew
        rw [if_pos (congrArg Prod.fst hnew), ← congrArg Prod.snd hnew]

theorem insert_perm {α : Type} {d : Dictionary α} {key : String} {value : α}
    (h : key ∉ d.map Prod.fst) : (d.insert key value).Perm ((key, value) :: d) := by
  induction d with
  | nil => exact List.Perm.refl _
  | cons entry rest ih =>
      rw [List.map_cons, List.mem_cons, not_or] at h
      rw [insert]
      split
      · exact List.Perm.refl _
      · rw [if_neg h.1]
        exact (List.Perm.cons _ (ih h.2)).trans (List.Perm.swap _ _ _)

/-- Under different keys no entry takes the place of another. -/
theorem ofEntries_perm {α : Type} {entries : List (String × α)}
    (hnodup : (entries.map Prod.fst).Nodup) : (ofEntries entries).Perm entries := by
  induction entries using List.reverseRecOn with
  | nil => exact List.Perm.refl _
  | append_singleton entries entry ih =>
      rw [List.map_append, List.nodup_append] at hnodup
      obtain ⟨hentries, -, hdisjoint⟩ := hnodup
      have hperm := ih hentries
      have hnew : entry.1 ∉ (ofEntries entries).map Prod.fst := by
        intro hmem
        have hold := (hperm.map Prod.fst).mem_iff.mp hmem
        exact hdisjoint entry.1 hold entry.1 (by simp) rfl
      rw [ofEntries_concat]
      exact (insert_perm hnew).trans
        ((List.Perm.cons entry hperm).trans (List.perm_append_singleton entry entries).symm)

end Dictionary

namespace Query

theorem parameters_get?_of_mem {q : Query} (h : Numbered q.bindings) {b : Binding}
    (hb : b ∈ q.bindings) : q.parameters.get? b.name = some b.value := by
  apply Dictionary.get?_ofEntries_of_mem
  · rw [List.map_map]
    exact h.nodup_names
  · exact List.mem_map_of_mem hb

theorem numbered_bind {q : Query} (h : Numbered q.bindings) (key : String) (value : Value) :
    Numbered (q.bind key value).bindings :=
  h.snoc key value.stored

theorem numbered_bindParts {q : Query} (h : Numbered q.bindings) (parts : List DraftPart) :
    Numbered (q.bindParts parts).1.bindings := by
  induction parts generalizing q with
  | nil => exact h
  | cons part rest ih =>
      cases part with
      | text s => exact ih h
      | value key v => exact ih (numbered_bind h key v)

theorem numbered_write {q : Query} (h : Numbered q.bindings) (l : Lexeme) :
    Numbered (q.write l).bindings := by
  cases l with
  | clause draft =>
      cases draft with
      | nullTest key operator => exact h
      | comparison key operator value ignoreCase =>
          rw [write, appendDraft, addClause]
          split
          · exact h
          · exact numbered_bind h key value
      | composite parts => exact numbered_bindParts h parts
  | _ => exact h

theorem numbered_writeAll {q : Query} (h : Numbered q.bindings) (ls : List Lexeme) :
    Numbered (q.writeAll ls).bindings := by
  induction ls generalizing q with
  | nil => exact h
  | cons l ls ih => exact ih (numbered_write h l)

end Query

end GraphSearch

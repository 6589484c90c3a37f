import GraphSearch.Proofs.ClauseForms
import GraphSearch.Proofs.Translation
import GraphSearch.Query.Digest

/-!
The digest of a condition, read off its lexemes.

A digest covers the values of a clause and not their names, so that the bytes of a condition are the
bytes of its lexemes one after the other. The lexemes that predicates come to can be told from these
bytes: the first byte gives the lexeme, and a composite clause announces its form.
-/

namespace GraphSearch

open Encoding

section Bytes

/-- The bytes of a part, with the value in the place of its name. -/
def DraftPart.digestInput : DraftPart → List UInt8
  | .text s => Encoding.text s
  | .value _ v => optional Value.digestInput (some v.stored)

/-- The value that a comparison binds; a null is written out and not bound. -/
def boundValue (v : Value) : Option Value :=
  if v.isNull then none else some v.stored

/-- The bytes of a clause, with the values in the place of their names. -/
def Draft.digestInput : Draft → List UInt8
  | nullTest key operator =>
      5 :: Encoding.text key ++ Encoding.text operator ++ flag false ++ flag true ++ tag 0
  | comparison key operator value ignoreCase =>
      5 :: Encoding.text key ++ Encoding.text operator ++ flag ignoreCase ++ flag true ++
        optional Value.digestInput (boundValue value)
  | composite parts => 6 :: parts.flatMap DraftPart.digestInput

def Lexeme.digestInput : Lexeme → List UInt8
  | and => [0]
  | or => [1]
  | not => [2]
  | opening => [3]
  | closing => [4]
  | clause draft => draft.digestInput

end Bytes

section Written

variable {ps : Dictionary Value}

theorem freshName_eq_name (q : Query) (key : String) (value : Value) :
    q.freshName key = (q.nextBinding key value).name :=
  rfl

theorem digestInput_bindParts (q : Query) (parts : List DraftPart)
    (h : ∀ b ∈ q.partBindings parts, ps.get? b.name = some b.value) :
    (q.bindParts parts).2.flatMap (Part.digestInput ps) =
      parts.flatMap DraftPart.digestInput := by
  induction parts generalizing q with
  | nil => rfl
  | cons part rest ih =>
      cases part with
      | text s =>
          change Encoding.text s ++ (q.bindParts rest).2.flatMap (Part.digestInput ps) = _
          rw [ih q h]
          rfl
      | value key v =>
          obtain ⟨hvalue, hrest⟩ := List.forall_mem_cons.mp h
          change parameterDigestInput ps (q.freshName key) ++
            ((q.bind key v).bindParts rest).2.flatMap (Part.digestInput ps) = _
          rw [ih (q.bind key v) hrest, freshName_eq_name q key v, parameterDigestInput, hvalue]
          rfl

/-- A lexeme adds its bytes, as long as the names stand for the values that were bound. -/
theorem digestInput_write (q : Query) (l : Lexeme)
    (h : ∀ b ∈ (q.write l).bindings, ps.get? b.name = some b.value) :
    (q.write l).fragments.flatMap (Fragment.digestInput ps) =
      q.fragments.flatMap (Fragment.digestInput ps) ++ l.digestInput := by
  cases l with
  | clause draft =>
      cases draft with
      | nullTest key operator =>
          change (q.fragments ++ [_]).flatMap _ = _
          rw [List.flatMap_append, List.flatMap_singleton]
          rfl
      | comparison key operator value ignoreCase =>
          rw [Query.write, Query.appendDraft, Query.addClause] at h ⊢
          rw [Lexeme.digestInput, Draft.digestInput, boundValue]
          by_cases hnull : value.isNull
          · rw [if_pos hnull] at h ⊢
            rw [if_pos hnull, Query.push, List.flatMap_append, List.flatMap_singleton]
            rfl
          · rw [if_neg hnull] at h ⊢
            have hvalue : ps.get? (q.freshName key) = some value.stored :=
              h (q.nextBinding key value) (List.mem_append_right _ List.mem_cons_self)
            rw [if_neg hnull]
            change (q.fragments ++ [_]).flatMap _ = _
            rw [List.flatMap_append, List.flatMap_singleton, Fragment.digestInput,
              parameterDigestInput, hvalue]
      | composite parts =>
          have hbindings : (q.write (.clause (.composite parts))).bindings =
              q.bindings ++ q.partBindings parts := by
            change (q.bindParts parts).1.bindings = _
            rw [Query.bindParts_fst]
            rfl
          rw [hbindings] at h
          change ((q.bindParts parts).1.fragments ++ [_]).flatMap _ = _
          rw [Query.bindParts_fst, List.flatMap_append, List.flatMap_singleton,
            Fragment.digestInput,
            digestInput_bindParts q parts fun b hb => h b (List.mem_append_right _ hb)]
          simp only [Query.extend, List.append_nil]
          rfl
  | _ =>
      change (q.fragments ++ [_]).flatMap _ = _
      rw [List.flatMap_append, List.flatMap_singleton]
      rfl

theorem digestInput_writeAll (q : Query) (ls : List Lexeme)
    (h : ∀ b ∈ (q.writeAll ls).bindings, ps.get? b.name = some b.value) :
    (q.writeAll ls).fragments.flatMap (Fragment.digestInput ps) =
      q.fragments.flatMap (Fragment.digestInput ps) ++ ls.flatMap Lexeme.digestInput := by
  induction ls generalizing q with
  | nil => simp
  | cons l ls ih =>
      rw [Query.writeAll_cons] at h ⊢
      obtain ⟨fs, bs, hextend⟩ := Query.exists_writeAll_eq_extend (q.write l) ls
      have hwrite : ∀ b ∈ (q.write l).bindings, ps.get? b.name = some b.value := by
        intro b hb
        apply h b
        rw [hextend _ rfl]
        exact List.mem_append_left _ hb
      rw [ih (q.write l) h, digestInput_write q l hwrite, List.flatMap_cons, List.append_assoc]

end Written

section Stored

/-- The clause with its values as the store keeps them. A test of presence is a comparison with a
null. -/
def Draft.stored : Draft → Draft
  | nullTest key operator => comparison key operator .null false
  | comparison key operator value ignoreCase => comparison key operator value.stored ignoreCase
  | composite parts => composite (parts.map DraftPart.stored)

def Lexeme.stored : Lexeme → Lexeme
  | clause draft => clause draft.stored
  | l => l

theorem nextBinding_stored (q : Query) (key : String) (value : Value) :
    q.nextBinding key value.stored = q.nextBinding key value := by
  rw [Query.nextBinding, Value.stored_stored]
  rfl

theorem bind_stored (q : Query) (key : String) (value : Value) :
    q.bind key value.stored = q.bind key value := by
  rw [Query.bind, nextBinding_stored]
  rfl

theorem bindParts_stored (q : Query) (parts : List DraftPart) :
    q.bindParts (parts.map DraftPart.stored) = q.bindParts parts := by
  induction parts generalizing q with
  | nil => rfl
  | cons part rest ih =>
      cases part with
      | text s =>
          rw [List.map_cons, DraftPart.stored, Query.bindParts, Query.bindParts, ih q]
      | value key v =>
          rw [List.map_cons, DraftPart.stored, Query.bindParts, Query.bindParts,
            bind_stored, ih]

theorem write_stored (q : Query) (l : Lexeme) : q.write l.stored = q.write l := by
  cases l with
  | clause draft =>
      cases draft with
      | nullTest key operator => rfl
      | comparison key operator value ignoreCase =>
          simp only [Lexeme.stored, Draft.stored, Query.write, Query.appendDraft,
            Query.addClause, Value.isNull_stored, bind_stored]
      | composite parts =>
          simp only [Lexeme.stored, Draft.stored, Query.write, Query.appendDraft,
            bindParts_stored]
  | _ => rfl

theorem writeAll_stored (q : Query) (ls : List Lexeme) :
    q.writeAll (ls.map Lexeme.stored) = q.writeAll ls := by
  induction ls generalizing q with
  | nil => rfl
  | cons l ls ih => rw [List.map_cons, Query.writeAll_cons, write_stored, ih, Query.writeAll_cons]

end Stored

section Decoding

/-- The clauses that predicates come to, with values that fit a digest. -/
def Draft.Regular : Draft → Prop
  | nullTest _ _ => True
  | comparison _ _ value _ => value.stored.Plain
  | composite parts => ∃ form, HasForm form parts ∧ ∀ part ∈ parts, part.Sized

def Lexeme.Regular : Lexeme → Prop
  | clause draft => draft.Regular
  | _ => True

/-- The byte for a visible character is not the one that values begin with. -/
theorem exists_text_eq_cons {s : String} (h : (DraftPart.text s).Visible) :
    ∃ b rest, Encoding.text s = b :: rest ∧ b ≠ 1 := by
  obtain ⟨c, hhead, hlow, hhigh⟩ := h
  obtain ⟨cs, hcs⟩ : ∃ cs, s.toList = c :: cs := by
    cases hs : s.toList with
    | nil => simp [hs] at hhead
    | cons d ds =>
        rw [hs, List.head?_cons, Option.some.injEq] at hhead
        exact ⟨ds, by rw [hhead]⟩
  have hencode : String.utf8EncodeChar c = [UInt8.ofNat c.toNat] := by
    rw [String.utf8EncodeChar]
    rw [if_pos (by change c.toNat ≤ 127; omega)]
    rfl
  refine ⟨UInt8.ofNat c.toNat, cs.flatMap String.utf8EncodeChar ++ [0xff], ?_, ?_⟩
  · rw [Encoding.text, hcs, List.flatMap_cons, hencode]
    rfl
  · intro hone
    have hnat := congrArg UInt8.toNat hone
    rw [UInt8.toNat_ofNat'] at hnat
    change c.toNat % 256 = 1 at hnat
    omega

theorem text_append_ne_value {s : String} {v : Value} {r r' : List UInt8}
    (h : (DraftPart.text s).Visible) :
    Encoding.text s ++ r ≠ optional Value.digestInput (some v) ++ r' := by
  obtain ⟨b, rest, htext, hb⟩ := exists_text_eq_cons h
  rw [htext]
  intro heq
  exact hb (List.cons.inj heq).1

theorem part_append_inj {p p' : DraftPart} {r r' : List UInt8} (hp : p.Visible) (hsized : p.Sized)
    (hp' : p'.Visible) (hsized' : p'.Sized) (h : p.digestInput ++ r = p'.digestInput ++ r') :
    p.content = p'.content ∧ r = r' := by
  cases p with
  | text s =>
      cases p' with
      | text t =>
          obtain ⟨rfl, hrest⟩ := text_append_inj h
          exact ⟨rfl, hrest⟩
      | value key v => exact absurd h (text_append_ne_value hp)
  | value key v =>
      cases p' with
      | text t => exact absurd h.symm (text_append_ne_value hp')
      | value key' w =>
          obtain ⟨hvalue, hrest⟩ := optional_append_inj (x := some v.stored) (y := some w.stored)
            (fun a ha b hb heq => by
              obtain rfl := Option.some.inj ha
              obtain rfl := Option.some.inj hb
              exact Value.digestInput_append_inj _ _ _ _ hsized hsized' heq) h
          exact ⟨congrArg Sum.inr (Option.some.inj hvalue), hrest⟩

theorem parts_append_inj {parts parts' : List DraftPart} {r r' : List UInt8}
    (hlength : parts.length = parts'.length)
    (hparts : ∀ part ∈ parts, part.Visible ∧ part.Sized)
    (hparts' : ∀ part ∈ parts', part.Visible ∧ part.Sized)
    (h : parts.flatMap DraftPart.digestInput ++ r =
      parts'.flatMap DraftPart.digestInput ++ r') :
    parts.map DraftPart.content = parts'.map DraftPart.content ∧ r = r' := by
  induction parts generalizing parts' with
  | nil =>
      obtain rfl := List.length_eq_zero_iff.mp hlength.symm
      exact ⟨rfl, h⟩
  | cons part rest ih =>
      cases parts' with
      | nil => exact absurd hlength (Nat.succ_ne_zero _)
      | cons part' rest' =>
          obtain ⟨hpart, hrest⟩ := List.forall_mem_cons.mp hparts
          obtain ⟨hpart', hrest'⟩ := List.forall_mem_cons.mp hparts'
          rw [List.flatMap_cons, List.flatMap_cons, List.append_assoc, List.append_assoc] at h
          obtain ⟨hcontent, htail⟩ := part_append_inj hpart.1 hpart.2 hpart'.1 hpart'.2 h
          obtain ⟨hcontents, hremaining⟩ := ih (Nat.succ.inj hlength) hrest hrest' htail
          exact ⟨by rw [List.map_cons, List.map_cons, hcontent, hcontents], hremaining⟩

/-- The first part tells the form, and the form tells how many parts follow. -/
theorem composite_append_inj {parts parts' : List DraftPart} {r r' : List UInt8}
    (hparts : (Draft.composite parts).Regular) (hparts' : (Draft.composite parts').Regular)
    (h : parts.flatMap DraftPart.digestInput ++ r =
      parts'.flatMap DraftPart.digestInput ++ r') :
    parts.map DraftPart.stored = parts'.map DraftPart.stored ∧ r = r' := by
  obtain ⟨form, hform, hsized⟩ := hparts
  obtain ⟨form', hform', hsized'⟩ := hparts'
  have hsame : form = form' := by
    obtain ⟨first, rest, rfl, rfl⟩ := hform.announced
    obtain ⟨first', rest', rfl, rfl⟩ := hform'.announced
    rw [List.flatMap_cons, List.flatMap_cons, List.append_assoc, List.append_assoc] at h
    have hcontent := part_append_inj (hform.visible _ List.mem_cons_self)
      (hsized _ List.mem_cons_self) (hform'.visible _ List.mem_cons_self)
      (hsized' _ List.mem_cons_self) h
    exact congrArg announcedForm hcontent.1
  have hlength : parts.length = parts'.length := by
    rw [hform.length_eq, hform'.length_eq, hsame]
  obtain ⟨hcontents, hrest⟩ := parts_append_inj hlength
    (fun part hmem => ⟨hform.visible part hmem, hsized part hmem⟩)
    (fun part hmem => ⟨hform'.visible part hmem, hsized' part hmem⟩) h
  exact ⟨hform.stored_eq_of_content hform' hcontents, hrest⟩

/-- The byte that the bytes of a clause begin with. -/
def Draft.code : Draft → UInt8
  | nullTest .. => 5
  | comparison .. => 5
  | composite _ => 6

/-- The byte that the bytes of a lexeme begin with. -/
def Lexeme.code : Lexeme → UInt8
  | and => 0
  | or => 1
  | not => 2
  | opening => 3
  | closing => 4
  | clause draft => draft.code

theorem Draft.exists_digestInput_eq_code (draft : Draft) :
    ∃ content, draft.digestInput = draft.code :: content := by
  cases draft <;> exact ⟨_, rfl⟩

theorem Lexeme.exists_digestInput_eq_code (l : Lexeme) :
    ∃ content, l.digestInput = l.code :: content := by
  cases l with
  | clause draft => exact draft.exists_digestInput_eq_code
  | _ => exact ⟨[], rfl⟩

theorem comparison_append_inj {key key' operator operator' : String} (value value' : Value)
    {ignoreCase ignoreCase' : Bool} {r r' : List UInt8} (hvalue : value.stored.Plain)
    (hvalue' : value'.stored.Plain)
    (h : (Draft.comparison key operator value ignoreCase).digestInput ++ r =
      (Draft.comparison key' operator' value' ignoreCase').digestInput ++ r') :
    (Draft.comparison key operator value ignoreCase).stored =
      (Draft.comparison key' operator' value' ignoreCase').stored ∧ r = r' := by
  simp only [Draft.digestInput, List.append_assoc, List.cons_append, List.cons.injEq,
    true_and] at h
  obtain ⟨hkey, hafterKey⟩ := text_append_inj h
  obtain ⟨hoperator, hafterOperator⟩ := text_append_inj hafterKey
  obtain ⟨hcase, hafterCase⟩ := flag_append_inj hafterOperator
  have hplain (v : Value) (hv : v.stored.Plain) : ∀ a ∈ boundValue v, a.Plain := by
    intro a ha
    rw [boundValue] at ha
    split at ha
    · exact absurd ha (by simp)
    · rwa [← Option.some.inj ha]
  obtain ⟨hbound, hrest⟩ := optional_append_inj
    (fun a ha b hb => Value.digestInput_append_inj a b _ _ (hplain value hvalue a ha)
      (hplain value' hvalue' b hb)) (flag_append_inj hafterCase).2
  have hback (v : Value) : (boundValue v).getD .null = v.stored := by
    cases v <;> rfl
  have hstored : value.stored = value'.stored := by
    rw [← hback value, hbound, hback value']
  exact ⟨by rw [Draft.stored, Draft.stored, hkey, hoperator, hcase, hstored], hrest⟩

theorem draft_append_inj {d d' : Draft} {r r' : List UInt8} (hd : d.Regular) (hd' : d'.Regular)
    (h : d.digestInput ++ r = d'.digestInput ++ r') : d.stored = d'.stored ∧ r = r' := by
  have hcode : d.code = d'.code := by
    obtain ⟨content, hdigest⟩ := d.exists_digestInput_eq_code
    obtain ⟨content', hdigest'⟩ := d'.exists_digestInput_eq_code
    rw [hdigest, hdigest'] at h
    exact (List.cons.inj h).1
  -- A test of presence has the bytes of a comparison with a null.
  cases d with
  | composite parts =>
      cases d' with
      | composite parts' =>
          obtain ⟨hparts, hrest⟩ := composite_append_inj hd hd' (List.cons.inj h).2
          exact ⟨congrArg Draft.composite hparts, hrest⟩
      | _ => exact absurd hcode (by simp [Draft.code])
  | nullTest key operator =>
      cases d' with
      | nullTest key' operator' => exact comparison_append_inj .null .null trivial trivial h
      | comparison key' operator' value' ignoreCase' =>
          exact comparison_append_inj .null value' trivial hd' h
      | composite parts' => exact absurd hcode (by simp [Draft.code])
  | comparison key operator value ignoreCase =>
      cases d' with
      | nullTest key' operator' => exact comparison_append_inj value .null hd trivial h
      | comparison key' operator' value' ignoreCase' =>
          exact comparison_append_inj value value' hd hd' h
      | composite parts' => exact absurd hcode (by simp [Draft.code])

theorem lexeme_append_inj {l l' : Lexeme} {r r' : List UInt8} (hl : l.Regular) (hl' : l'.Regular)
    (h : l.digestInput ++ r = l'.digestInput ++ r') : l.stored = l'.stored ∧ r = r' := by
  have hcode : l.code = l'.code := by
    obtain ⟨content, hdigest⟩ := l.exists_digestInput_eq_code
    obtain ⟨content', hdigest'⟩ := l'.exists_digestInput_eq_code
    rw [hdigest, hdigest'] at h
    exact (List.cons.inj h).1
  cases l with
  | clause d =>
      cases l' with
      | clause d' =>
          obtain ⟨hstored, hrest⟩ := draft_append_inj hl hl' h
          exact ⟨congrArg Lexeme.clause hstored, hrest⟩
      | _ => cases d <;> exact absurd hcode (by simp [Lexeme.code, Draft.code])
  | _ =>
      cases l' with
      | clause d' => cases d' <;> exact absurd hcode (by simp [Lexeme.code, Draft.code])
      | _ =>
          first
          | exact ⟨rfl, (List.cons.inj h).2⟩
          | exact absurd hcode (by simp [Lexeme.code])

theorem stored_eq_of_digestInput_eq {ls ls' : List Lexeme} (hls : ∀ l ∈ ls, l.Regular)
    (hls' : ∀ l ∈ ls', l.Regular)
    (h : ls.flatMap Lexeme.digestInput = ls'.flatMap Lexeme.digestInput) :
    ls.map Lexeme.stored = ls'.map Lexeme.stored := by
  have hnonempty (l : Lexeme) (ls : List Lexeme) :
      [] ≠ (l :: ls).flatMap Lexeme.digestInput := by
    obtain ⟨content, hdigest⟩ := l.exists_digestInput_eq_code
    rw [List.flatMap_cons, hdigest]
    exact (List.cons_ne_nil _ _).symm
  induction ls generalizing ls' with
  | nil =>
      cases ls' with
      | nil => rfl
      | cons l' ls' => exact absurd h (hnonempty l' ls')
  | cons l ls ih =>
      cases ls' with
      | nil => exact absurd h.symm (hnonempty l ls)
      | cons l' ls' =>
          obtain ⟨hl, hls⟩ := List.forall_mem_cons.mp hls
          obtain ⟨hl', hls'⟩ := List.forall_mem_cons.mp hls'
          rw [List.flatMap_cons, List.flatMap_cons] at h
          obtain ⟨hstored, hrest⟩ := lexeme_append_inj hl hl' h
          rw [List.map_cons, List.map_cons, hstored, ih hls hls' hrest]

end Decoding

end GraphSearch

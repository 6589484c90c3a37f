import GraphSearch.Proofs.NumberText
import Mathlib.Tactic.IntervalCases

/-!
Documents are read back from their text.

The reader undoes every escape of a string, reads a number up to its end, and opens and closes the
containers as they were written. Main statement: the text of a document is read as that document,
if no more containers are open in it than the reader allows and its numbers are read back.
-/

namespace GraphSearch

namespace Json

namespace Reader

/-! ### Strings -/

theorem stringChars_of_plain {c : Char} (hquote : c ≠ '"') (hescape : c ≠ '\\')
    (hcontrol : ¬c.toNat < 32) (text : List Char) :
    stringChars (c :: text) = do
      let (chars, rest) ← stringChars text
      return (c :: chars, rest) := by
  rw [stringChars.eq_def]
  split
  case h_7 heq =>
    obtain ⟨rfl, rfl⟩ := List.cons.inj heq
    exact if_neg hcontrol
  case h_1 heq => exact absurd heq nofun
  case h_2 heq => exact absurd (List.cons.inj heq).1 hquote
  all_goals
    next heq => exact absurd (List.cons.inj heq).1 hescape

/-- Behind a backslash, four hexadecimal digits write a character that needs no surrogates. -/
theorem stringChars_unicode {a b c d : Char} {n : Nat} (h : hexNumber? a b c d = some n)
    (hn : n < 0xD800) (text : List Char) :
    stringChars ('\\' :: 'u' :: a :: b :: c :: d :: text) = do
      let (chars, rest) ← stringChars text
      return (Char.ofNat n :: chars, rest) := by
  rw [stringChars.eq_def]
  simp only [h]
  rw [if_neg (by omega), if_neg (by omega)]

theorem stringChar_of_plain {c : Char} (hquote : c ≠ '"') (hescape : c ≠ '\\')
    (hcontrol : ¬c.toNat < 32) : stringChar c = [c] := by
  have hlow : ¬c.toNat < 16 := by omega
  rw [stringChar.eq_def]
  split
  case h_8 => rw [if_neg hlow, if_neg hcontrol]
  case h_1 => exact absurd rfl hquote
  case h_2 => exact absurd rfl hescape
  all_goals exact absurd (by decide) hcontrol

/-- A written character is read as itself. -/
theorem stringChars_stringChar_append (c : Char) (text : List Char) :
    stringChars (stringChar c ++ text) = do
      let (chars, rest) ← stringChars text
      return (c :: chars, rest) := by
  by_cases hcontrol : c.toNat < 32
  · obtain ⟨n, hn, rfl⟩ : ∃ n < 32, c = Char.ofNat n :=
      ⟨c.toNat, hcontrol, (Char.ofNat_toNat c).symm⟩
    clear hcontrol
    -- A control character has an escape of its own or four hexadecimal digits.
    interval_cases n <;> first
      | rfl
      | exact stringChars_unicode rfl (by decide) text
  · by_cases hquote : c = '"'
    · subst hquote
      rfl
    · by_cases hescape : c = '\\'
      · subst hescape
        rfl
      · rw [stringChar_of_plain hquote hescape hcontrol]
        exact stringChars_of_plain hquote hescape hcontrol text

theorem stringChars_flatMap (chars rest : List Char) :
    stringChars (chars.flatMap stringChar ++ '"' :: rest) = .ok (chars, rest) := by
  induction chars with
  | nil => rfl
  | cons c chars ih =>
      rw [List.flatMap_cons, List.append_assoc, stringChars_stringChar_append, ih]
      rfl

theorem stringText_append (s : String) (rest : List Char) :
    stringText s ++ rest = '"' :: (s.toList.flatMap stringChar ++ '"' :: rest) := by
  rw [stringText, List.cons_append, List.cons_append, List.append_assoc]
  rfl

theorem stringBody_flatMap (s : String) (rest : List Char) :
    stringBody (s.toList.flatMap stringChar ++ '"' :: rest) = .ok (s, rest) := by
  rw [stringBody, stringChars_flatMap]
  change Except.ok (String.ofList s.toList, rest) = _
  rw [String.ofList_toList]

theorem valueWith_stringText (array object : Reader Json) (s : String) (rest : List Char) :
    valueWith array object (stringText s ++ rest) = .ok (.string s, rest) := by
  rw [stringText_append]
  change (stringBody >>= fun s => pure (Json.string s))
    (s.toList.flatMap stringChar ++ '"' :: rest) = _
  rw [bind_apply_of_ok (stringBody_flatMap s rest)]
  rfl

/-! ### Containers -/

/-- What stands between two parts of a container. -/
def separator (first : Bool) : List Char :=
  if first then [] else [',']

/-- The text of the items from one of them on, which may be the first. -/
def itemsFrom (first : Bool) : List Json → List Char
  | [] => []
  | item :: rest => separator first ++ (item.chars ++ itemsFrom false rest)

def memberText (key : String) (value : Json) : List Char :=
  stringText key ++ ':' :: value.chars

def membersFrom (first : Bool) : List (String × Json) → List Char
  | [] => []
  | (key, value) :: rest =>
    separator first ++ (memberText key value ++ membersFrom false rest)

theorem itemChars_eq (items : List Json) : itemChars items = itemsFrom true items := by
  induction items with
  | nil => rfl
  | cons item rest ih =>
      cases rest with
      | nil => exact (List.append_nil _).symm
      | cons next rest =>
          rw [itemChars, ih]
          · rfl
          · nofun

theorem memberChars_eq (members : List (String × Json)) :
    memberChars members = membersFrom true members := by
  induction members with
  | nil => rfl
  | cons member rest ih =>
      obtain ⟨key, value⟩ := member
      cases rest with
      | nil => exact (List.append_nil _).symm
      | cons next rest =>
          obtain ⟨nextKey, nextValue⟩ := next
          rw [memberChars, ih]
          · rfl
          · nofun

theorem nextItem_separator (first : Bool) {c : Char} (hspace : isSpace c = false)
    (hend : c ≠ ']') (text : List Char) :
    nextItem first (separator first ++ c :: text) = .ok (true, c :: text) := by
  have hupcoming := upcoming_of_not_isSpace hspace text
  cases first with
  | true =>
      rw [nextItem, separator, if_pos rfl, List.nil_append, bind_apply_of_ok hupcoming]
      generalize hhead : some c = head
      split
      · exact absurd hhead nofun
      · exact absurd (Option.some.inj hhead) hend
      · rfl
  | false =>
      change nextItem false (',' :: c :: text) = _
      rw [nextItem, bind_apply_of_ok (upcoming_of_not_isSpace (by decide) _)]
      change (advance >>= _) _ = _
      rw [bind_apply_of_ok (advance_cons _ _), bind_apply_of_ok hupcoming]
      generalize hhead : some c = head
      split
      · exact absurd hhead nofun
      · exact absurd (Option.some.inj hhead) hend
      · rfl

theorem nextKey_separator (first : Bool) (key : String) (text : List Char) :
    nextKey first (separator first ++ (stringText key ++ text)) = .ok (some key, text) := by
  rw [stringText_append]
  have hkey : (stringBody >>= fun key => pure (some key))
      (key.toList.flatMap stringChar ++ '"' :: text) = .ok (some key, text) := by
    rw [bind_apply_of_ok (stringBody_flatMap key text)]
    rfl
  cases first with
  | true => exact hkey
  | false => exact hkey

theorem nextItem_end (first : Bool) (text : List Char) :
    nextItem first (']' :: text) = .ok (false, ']' :: text) :=
  rfl

theorem nextKey_end (first : Bool) (text : List Char) :
    nextKey first ('}' :: text) = .ok (none, '}' :: text) :=
  rfl

theorem stops_itemsFrom (docs : List Json) (rest : List Char) :
    Stops (itemsFrom false docs ++ ']' :: rest) := by
  intro c hc
  cases docs with
  | nil =>
      obtain rfl := Option.some.inj hc
      decide
  | cons doc docs =>
      obtain rfl := Option.some.inj hc
      decide

theorem stops_membersFrom (members : List (String × Json)) (rest : List Char) :
    Stops (membersFrom false members ++ '}' :: rest) := by
  intro c hc
  cases members with
  | nil =>
      obtain rfl := Option.some.inj hc
      decide
  | cons member members =>
      obtain rfl := Option.some.inj hc
      decide

/-- The reader reads the text of the document back, whatever follows it. -/
def Reads (r : Reader Json) (j : Json) : Prop :=
  ∀ ⦃rest : List Char⦄, Stops rest → r (j.chars ++ rest) = .ok (j, rest)

/-- The document starts with a character that opens a value. -/
def Opens (j : Json) : Prop :=
  ∃ c text, j.chars = c :: text ∧ isSpace c = false ∧ c ≠ ']'

theorem items_itemsFrom {item : Reader Json} {docs : List Json}
    (hopens : ∀ j ∈ docs, Opens j) (hreads : ∀ j ∈ docs, Reads item j) {fuel : Nat}
    (hfuel : docs.length < fuel) (first : Bool) (rest : List Char) :
    items item fuel first (itemsFrom first docs ++ ']' :: rest) = .ok (docs, ']' :: rest) := by
  induction docs generalizing fuel first with
  | nil =>
      obtain ⟨fuel, rfl⟩ := Nat.exists_eq_add_one_of_ne_zero (Nat.ne_zero_of_lt hfuel)
      rw [itemsFrom, List.nil_append, items, bind_apply_of_ok (nextItem_end first rest)]
      rfl
  | cons doc docs ih =>
      obtain ⟨fuel, rfl⟩ := Nat.exists_eq_add_one_of_ne_zero (Nat.ne_zero_of_lt hfuel)
      obtain ⟨c, text, hchars, hspace, hend⟩ := hopens doc List.mem_cons_self
      have hread := hreads doc List.mem_cons_self (stops_itemsFrom docs rest)
      have hrest := ih (fun j hj => hopens j (List.mem_cons_of_mem _ hj))
        (fun j hj => hreads j (List.mem_cons_of_mem _ hj)) (Nat.lt_of_succ_lt_succ hfuel) false
      rw [itemsFrom, List.append_assoc, List.append_assoc, items]
      rw [hchars, List.cons_append] at hread ⊢
      rw [bind_apply_of_ok (nextItem_separator first hspace hend _), if_pos rfl,
        bind_apply_of_ok hread, bind_apply_of_ok hrest]
      rfl

theorem members_membersFrom {value : Reader Json} {found : List (String × Json)}
    (hreads : ∀ member ∈ found, Reads value member.2) {fuel : Nat}
    (hfuel : found.length < fuel) (first : Bool) (rest : List Char) :
    members value fuel first (membersFrom first found ++ '}' :: rest) =
      .ok (found, '}' :: rest) := by
  induction found generalizing fuel first with
  | nil =>
      obtain ⟨fuel, rfl⟩ := Nat.exists_eq_add_one_of_ne_zero (Nat.ne_zero_of_lt hfuel)
      rw [membersFrom, List.nil_append, members, bind_apply_of_ok (nextKey_end first rest)]
      rfl
  | cons member found ih =>
      obtain ⟨fuel, rfl⟩ := Nat.exists_eq_add_one_of_ne_zero (Nat.ne_zero_of_lt hfuel)
      obtain ⟨key, doc⟩ := member
      have hread := hreads (key, doc) List.mem_cons_self (stops_membersFrom found rest)
      have hrest := ih (fun member hmember => hreads member (List.mem_cons_of_mem _ hmember))
        (Nat.lt_of_succ_lt_succ hfuel) false
      rw [membersFrom, memberText, List.append_assoc, List.append_assoc, List.append_assoc,
        List.cons_append, members, bind_apply_of_ok (nextKey_separator first key _)]
      change (value >>= fun x => members value fuel false >>= fun found =>
        pure ((key, x) :: found)) (doc.chars ++ (membersFrom false found ++ '}' :: rest)) = _
      rw [bind_apply_of_ok hread, bind_apply_of_ok hrest]
      rfl

theorem length_le_itemsFrom {docs : List Json} (hopens : ∀ j ∈ docs, Opens j) (first : Bool) :
    docs.length ≤ (itemsFrom first docs).length := by
  induction docs generalizing first with
  | nil => exact Nat.le_refl 0
  | cons doc docs ih =>
      obtain ⟨c, text, hchars, -⟩ := hopens doc List.mem_cons_self
      have hrest := ih (fun j hj => hopens j (List.mem_cons_of_mem _ hj)) false
      rw [itemsFrom, hchars]
      simp only [List.length_append, List.length_cons]
      omega

theorem length_le_membersFrom (found : List (String × Json)) (first : Bool) :
    found.length ≤ (membersFrom first found).length := by
  induction found generalizing first with
  | nil => exact Nat.le_refl 0
  | cons member found ih =>
      have hrest := ih false
      rw [membersFrom, memberText]
      simp only [List.length_append, List.length_cons]
      omega

theorem reads_array {item : Reader Json} {docs : List Json} (hopens : ∀ j ∈ docs, Opens j)
    (hreads : ∀ j ∈ docs, Reads item j) : Reads (array item) (.array docs) := by
  intro rest _
  have hfuel : docs.length < (itemsFrom true docs ++ ']' :: rest).length + 1 := by
    have hlength := length_le_itemsFrom hopens true
    rw [List.length_append]
    omega
  have htext : (Json.array docs).chars ++ rest = '[' :: (itemsFrom true docs ++ ']' :: rest) := by
    rw [chars, itemChars_eq, List.cons_append, List.cons_append, List.append_assoc]
    rfl
  rw [htext]
  change (items item ((itemsFrom true docs ++ ']' :: rest).length + 1) true >>= fun found =>
    closeArray >>= fun _ => pure (Json.array found)) (itemsFrom true docs ++ ']' :: rest) = _
  rw [bind_apply_of_ok (items_itemsFrom hopens hreads hfuel true rest)]
  rfl

theorem object_chars_append (found : List (String × Json)) (rest : List Char) :
    (Json.object found).chars ++ rest = '{' :: (membersFrom true found ++ '}' :: rest) := by
  rw [chars, memberChars_eq, List.cons_append, List.cons_append, List.append_assoc]
  rfl

/-- The text of an object offers enough fuel for its members. -/
theorem length_lt_membersFrom (found : List (String × Json)) (rest : List Char) :
    found.length < (membersFrom true found ++ '}' :: rest).length + 1 := by
  have hlength := length_le_membersFrom found true
  rw [List.length_append]
  omega

theorem reads_object {value : Reader Json} {found : List (String × Json)}
    (hreads : ∀ member ∈ found, Reads value member.2) :
    Reads (object value) (.object found) := by
  intro rest _
  rw [object_chars_append]
  change (members value ((membersFrom true found ++ '}' :: rest).length + 1) true >>= fun found =>
    closeObject >>= fun _ => pure (Json.object found)) (membersFrom true found ++ '}' :: rest) = _
  rw [bind_apply_of_ok (members_membersFrom hreads (length_lt_membersFrom found rest) true rest)]
  rfl

end Reader

/-! ### Documents -/

mutual

/-- How many containers of a document are open at the same time. -/
def depth : Json → Nat
  | array items => itemsDepth items + 1
  | object members => membersDepth members + 1
  | null => 0
  | boolean _ => 0
  | integer _ => 0
  | float _ => 0
  | string _ => 0

def itemsDepth : List Json → Nat
  | [] => 0
  | item :: rest => max item.depth (itemsDepth rest)

def membersDepth : List (String × Json) → Nat
  | [] => 0
  | (_, value) :: rest => max value.depth (membersDepth rest)

end

mutual

/-- All numbers of the document are read back. -/
def NumbersReadBack : Json → Prop
  | integer n => Reader.IsWord n
  | float x => (float x).ReadsBack
  | array items => ItemNumbersReadBack items
  | object members => MemberNumbersReadBack members
  | null => True
  | boolean _ => True
  | string _ => True

def ItemNumbersReadBack : List Json → Prop
  | [] => True
  | item :: rest => item.NumbersReadBack ∧ ItemNumbersReadBack rest

def MemberNumbersReadBack : List (String × Json) → Prop
  | [] => True
  | (_, value) :: rest => value.NumbersReadBack ∧ MemberNumbersReadBack rest

end

theorem depth_le_itemsDepth {items : List Json} {j : Json} (h : j ∈ items) :
    j.depth ≤ itemsDepth items := by
  induction items with
  | nil => exact absurd h List.not_mem_nil
  | cons item rest ih =>
      rw [itemsDepth]
      rcases List.mem_cons.mp h with rfl | h
      · exact Nat.le_max_left _ _
      · exact Nat.le_trans (ih h) (Nat.le_max_right _ _)

theorem depth_le_membersDepth {members : List (String × Json)} {member : String × Json}
    (h : member ∈ members) : member.2.depth ≤ membersDepth members := by
  induction members with
  | nil => exact absurd h List.not_mem_nil
  | cons other rest ih =>
      rw [membersDepth]
      rcases List.mem_cons.mp h with rfl | h
      · exact Nat.le_max_left _ _
      · exact Nat.le_trans (ih h) (Nat.le_max_right _ _)

theorem ItemNumbersReadBack.of_mem {items : List Json} (h : ItemNumbersReadBack items) {j : Json}
    (hj : j ∈ items) : j.NumbersReadBack := by
  induction items with
  | nil => exact absurd hj List.not_mem_nil
  | cons item rest ih =>
      rcases List.mem_cons.mp hj with rfl | hj
      · exact h.1
      · exact ih h.2 hj

theorem MemberNumbersReadBack.of_mem {members : List (String × Json)}
    (h : MemberNumbersReadBack members) {member : String × Json} (hmember : member ∈ members) :
    member.2.NumbersReadBack := by
  induction members with
  | nil => exact absurd hmember List.not_mem_nil
  | cons other rest ih =>
      rcases List.mem_cons.mp hmember with rfl | hmember
      · exact h.1
      · exact ih h.2 hmember

theorem opens_of_isNumber {j : Json} (h : Reader.IsNumber j.chars j) : Reader.Opens j := by
  obtain ⟨digits, htext, -⟩ | ⟨c, digits, htext, hdigit, -⟩ := h
  · exact ⟨'-', digits, htext, by decide, by decide⟩
  · refine ⟨c, digits, htext, Reader.isSpace_eq_false_of_isDigit hdigit, ?_⟩
    rintro rfl
    exact absurd hdigit (by decide)

theorem NumbersReadBack.opens {j : Json} (h : j.NumbersReadBack) : Reader.Opens j := by
  cases j with
  | null => exact ⟨'n', _, rfl, by decide, by decide⟩
  | boolean b =>
      cases b with
      | true => exact ⟨'t', _, rfl, by decide, by decide⟩
      | false => exact ⟨'f', _, rfl, by decide, by decide⟩
  | integer n => exact opens_of_isNumber (Reader.isNumber_integer h)
  | float x => exact opens_of_isNumber (isNumber_floatText h)
  | string s => exact ⟨'"', _, rfl, by decide, by decide⟩
  | array items => exact ⟨'[', _, rfl, by decide, by decide⟩
  | object members => exact ⟨'{', _, rfl, by decide, by decide⟩

theorem reads_scalar {j : Json} (h : j.NumbersReadBack) (hdepth : j.depth = 0)
    (array object : Reader Json) : Reader.Reads (Reader.valueWith array object) j := by
  intro rest hrest
  cases j with
  | null => rfl
  | boolean b =>
      cases b with
      | true => rfl
      | false => rfl
  | integer n => exact Reader.valueWith_of_isNumber (Reader.isNumber_integer h) hrest _ _
  | float x => exact Reader.valueWith_of_isNumber (isNumber_floatText h) hrest _ _
  | string s => exact Reader.valueWith_stringText _ _ s rest
  | array items => exact absurd hdepth (Nat.succ_ne_zero _)
  | object members => exact absurd hdepth (Nat.succ_ne_zero _)

/-- The text of a document is read back whatever follows it. -/
theorem reads_value {depth : Nat} {j : Json} (h : j.NumbersReadBack) (hdepth : j.depth ≤ depth) :
    Reader.Reads (Reader.value depth) j := by
  -- What stands in a container is read with room for one container less.
  induction depth generalizing j with
  | zero => exact reads_scalar h (Nat.le_zero.mp hdepth) _ _
  | succ depth ih =>
      cases j with
      | array items =>
          have hreads : ∀ j ∈ items, Reader.Reads (Reader.value depth) j := fun j hj =>
            ih (ItemNumbersReadBack.of_mem h hj)
              (Nat.le_trans (depth_le_itemsDepth hj) (Nat.le_of_succ_le_succ hdepth))
          intro rest hrest
          have hopens : ∀ j ∈ items, Reader.Opens j :=
            fun j hj => (ItemNumbersReadBack.of_mem h hj).opens
          exact Reader.reads_array hopens hreads hrest
      | object members =>
          have hreads : ∀ member ∈ members, Reader.Reads (Reader.value depth) member.2 :=
            fun member hmember => ih (MemberNumbersReadBack.of_mem h hmember)
              (Nat.le_trans (depth_le_membersDepth hmember) (Nat.le_of_succ_le_succ hdepth))
          intro rest hrest
          exact Reader.reads_object hreads hrest
      | null => exact reads_scalar h rfl _ _
      | boolean b => exact reads_scalar h rfl _ _
      | integer n => exact reads_scalar h rfl _ _
      | float x => exact reads_scalar h rfl _ _
      | string s => exact reads_scalar h rfl _ _

/-- What a reader reads to the end is read as a whole. -/
theorem whole_eq_ok {α : Type} {r : Reader α} {text : String} {x : α}
    (h : r text.toList = .ok (x, [])) : r.whole text = .ok x := by
  rw [Reader.whole, h]
  rfl

/-- A document is read back from its text if it does not nest too deep and its numbers are read
back. -/
theorem readsBack_of_depth_le {j : Json} (h : j.NumbersReadBack)
    (hdepth : j.depth ≤ maximalDepth) : j.ReadsBack := by
  have hread := reads_value h hdepth Reader.stops_nil
  rw [List.append_nil] at hread
  refine whole_eq_ok ?_
  rw [text, String.toList_ofList]
  exact hread

end Json

end GraphSearch

import GraphSearch.Proofs.DecodedPredicate

/-!
Predicates are read back from their text.

The outermost predicate is decoded while its text is read. Every member of it is taken from the text
as it would be taken from the document, so that the two ways to decode agree. Main statement: a
predicate is read back from its text, at whatever depth its groups and lists nest, up to what the
reader allows.
-/

namespace GraphSearch

open Json

/-! ### Numbers in documents -/

namespace Json

theorem memberNumbersReadBack_append {xs ys : List (String × Json)}
    (hxs : MemberNumbersReadBack xs) (hys : MemberNumbersReadBack ys) :
    MemberNumbersReadBack (xs ++ ys) := by
  induction xs with
  | nil => exact hys
  | cons member xs ih => exact ⟨hxs.1, ih hxs.2⟩

theorem memberNumbersReadBack_optionalMember (key : String) {value : Option Json}
    (h : ∀ j ∈ value, j.NumbersReadBack) : MemberNumbersReadBack (optionalMember key value) := by
  cases value with
  | none => trivial
  | some j => exact ⟨h j rfl, trivial⟩

end Json

mutual

theorem Value.numbersReadBack (v : Value) (h : ∀ w ∈ v.scalars, w.ReadsBack) :
    v.toJson.NumbersReadBack := by
  cases v with
  | null => trivial
  | boolean b => trivial
  | integer n => exact ⟨n.minValue_le_toInt, Int.le_trans n.toInt_le (by decide)⟩
  | float x =>
      have hread : (Json.float x).ReadsBack := h (float x) (List.mem_singleton_self _)
      rw [toJson, if_pos (isFinite_of_readsBack hread)]
      exact hread
  | string s => trivial
  | list items => exact itemNumbersReadBack items h
  | date t => exact ⟨trivial, trivial⟩

theorem Value.itemNumbersReadBack (items : List Value)
    (h : ∀ w ∈ itemScalars items, w.ReadsBack) : ItemNumbersReadBack (itemDocuments items) := by
  cases items with
  | nil => trivial
  | cons item rest =>
      exact ⟨numbersReadBack item fun w hw => h w (List.mem_append_left _ hw),
        itemNumbersReadBack rest fun w hw => h w (List.mem_append_right _ hw)⟩

end

theorem Condition.memberNumbersReadBack (c : Condition)
    (h : ∀ w ∈ c.operands.flatMap Value.scalars, w.ReadsBack) :
    MemberNumbersReadBack c.members := by
  have hvalue (v : Value) (hv : v ∈ c.operands) : v.toJson.NumbersReadBack :=
    v.numbersReadBack fun w hw => h w (List.mem_flatMap.mpr ⟨v, hv, hw⟩)
  cases c with
  | comparison operation value => exact ⟨trivial, hvalue value (by simp [operands]), trivial⟩
  | range low high includeLow includeHigh =>
      exact ⟨hvalue low (by simp [operands]), hvalue high (by simp [operands]), trivial, trivial,
        trivial⟩
  | fulltext value | exact value | array value =>
      exact ⟨hvalue value (by simp [operands]), trivial⟩
  | spatial latitude longitude distance =>
      exact ⟨hvalue (.float latitude) (by simp [operands]),
        hvalue (.float longitude) (by simp [operands]),
        hvalue (.float distance) (by simp [operands]), trivial⟩
  | type name | uuid name => exact ⟨trivial, trivial⟩
  | relationship type direction related =>
      refine ⟨trivial, trivial, memberNumbersReadBack_optionalMember _ ?_⟩
      rintro j hj
      obtain ⟨related, -, rfl⟩ := Option.map_eq_some_iff.mp hj
      trivial
  | notEmpty | empty => trivial

namespace Predicate

theorem memberNumbersReadBack_membersAround (a : Attributes) (kind : PredicateKind)
    {fields : List (String × Json)} (h : MemberNumbersReadBack fields) :
    MemberNumbersReadBack (membersAround a kind fields) := by
  have hname : MemberNumbersReadBack (optionalMember "name" (a.name.map .string)) := by
    refine memberNumbersReadBack_optionalMember _ ?_
    intro j hj
    obtain ⟨name, -, rfl⟩ := Option.map_eq_some_iff.mp hj
    trivial
  have hsort : MemberNumbersReadBack (optionalMember "sort" (a.sort.map SortOrder.toJson)) := by
    refine memberNumbersReadBack_optionalMember _ ?_
    intro j hj
    obtain ⟨order, -, rfl⟩ := Option.map_eq_some_iff.mp hj
    exact ⟨trivial, trivial, trivial, trivial⟩
  have htags : MemberNumbersReadBack [("occurrence", nameDocument Occurrence.names a.occurrence),
      ("kind", nameDocument PredicateKind.names kind)] := ⟨trivial, trivial, trivial⟩
  exact memberNumbersReadBack_append (memberNumbersReadBack_append
    (memberNumbersReadBack_append hname htags) h) hsort

mutual

theorem numbersReadBack (p : Predicate) (h : ∀ w ∈ p.scalars, w.ReadsBack) :
    p.toJson.NumbersReadBack := by
  cases p with
  | leaf a condition =>
      exact memberNumbersReadBack_membersAround a _ (condition.memberNumbersReadBack h)
  | group a combinator children =>
      exact memberNumbersReadBack_membersAround a _
        ⟨trivial, childNumbersReadBack children h, trivial⟩

theorem childNumbersReadBack (children : List Predicate)
    (h : ∀ w ∈ childScalars children, w.ReadsBack) :
    ItemNumbersReadBack (childDocuments children) := by
  cases children with
  | nil => trivial
  | cons child rest =>
      exact ⟨numbersReadBack child fun w hw => h w (List.mem_append_left _ hw),
        childNumbersReadBack rest fun w hw => h w (List.mem_append_right _ hw)⟩

end

end Predicate

/-! ### Typed readers -/

namespace Json

namespace Reader

variable {α : Type} {reader : Reader α} {text rest : List Char} {x : α}

theorem map_apply_of_ok {β : Type} (h : reader text = .ok (x, rest)) (f : α → β) :
    (do return f (← reader)) text = .ok (f x, rest) := by
  rw [bind_apply_of_ok h]
  rfl

theorem once_colon (key : String) (h : reader text = .ok (x, rest)) :
    once key none reader (':' :: text) = .ok (some x, rest) := by
  exact map_apply_of_ok h some

theorem string_stringText (expected s : String) (rest : List Char) :
    string expected (stringText s ++ rest) = .ok (s, rest) := by
  rw [stringText_append]
  exact stringBody_flatMap s rest

theorem boolean_chars (b : Bool) (rest : List Char) :
    boolean ((Json.boolean b).chars ++ rest) = .ok (b, rest) := by
  cases b with
  | true => rfl
  | false => rfl

theorem variant_nameDocument [DecidableEq α] {names : List (String × α)} (h : Unambiguous names)
    (x : α) (rest : List Char) :
    variant names ((nameDocument names x).chars ++ rest) = .ok (x, rest) := by
  have hname : variantName names (stringText (nameIn names x) ++ rest) = .ok (x, rest) := by
    rw [variantName, bind_apply_of_ok (string_stringText _ _ rest), h x]
    rfl
  rw [nameDocument, chars]
  rw [stringText_append] at hname ⊢
  exact hname

theorem optional_of_ne {c : Char} (hspace : isSpace c = false) (hnull : c ≠ 'n')
    (h : reader (c :: text) = .ok (x, rest)) :
    optional reader (c :: text) = .ok (some x, rest) := by
  rw [optional, bind_apply_of_ok (upcoming_of_not_isSpace hspace text)]
  generalize hhead : some c = head
  split
  · exact absurd (Option.some.inj hhead) hnull
  · rw [bind_apply_of_ok h]
    rfl

/-- The members of an object lead a step from one state to another, one after the other. -/
inductive Leads {σ : Type} (step : σ → String → Reader σ) :
    List (String × Json) → σ → σ → Prop where
  | nil (state : σ) : Leads step [] state state
  | cons {key : String} {value : Json} {members : List (String × Json)} {state next last : σ}
      (hstep : ∀ rest, Stops rest →
        step state key (':' :: (value.chars ++ rest)) = .ok (next, rest))
      (hrest : Leads step members next last) : Leads step ((key, value) :: members) state last

/-- The members of an object are taken in from its text. -/
theorem foldMembers_membersFrom {σ : Type} {step : σ → String → Reader σ}
    {found : List (String × Json)} {state last : σ} (h : Leads step found state last) {fuel : Nat}
    (hfuel : found.length < fuel) (first : Bool) (rest : List Char) :
    foldMembers step fuel first state (membersFrom first found ++ '}' :: rest) =
      .ok (last, '}' :: rest) := by
  induction h generalizing fuel first with
  | nil state =>
      obtain ⟨fuel, rfl⟩ := Nat.exists_eq_add_one_of_ne_zero (Nat.ne_zero_of_lt hfuel)
      rw [membersFrom, List.nil_append, foldMembers, bind_apply_of_ok (nextKey_end first rest)]
      rfl
  | @cons key value members state next last hstep _ ih =>
      obtain ⟨fuel, rfl⟩ := Nat.exists_eq_add_one_of_ne_zero (Nat.ne_zero_of_lt hfuel)
      have hnext := hstep _ (stops_membersFrom members rest)
      have hrest := ih (Nat.lt_of_succ_lt_succ hfuel) false
      rw [membersFrom, memberText, List.append_assoc, List.append_assoc, List.append_assoc,
        List.cons_append, foldMembers, bind_apply_of_ok (nextKey_separator first key _)]
      change (step state key >>= fun state => foldMembers step fuel false state) _ = _
      rw [bind_apply_of_ok hnext, hrest]

theorem record_object {σ : Type} {step : σ → String → Reader σ} {found : List (String × Json)}
    {start last : σ} (h : Leads step found start last) {finish : σ → Except Mismatch α}
    (hfinish : finish last = .ok x) (expected : String) (sequence : Reader α)
    (rest : List Char) :
    record expected start step finish sequence ((Json.object found).chars ++ rest) =
      .ok (x, rest) := by
  have hfound := foldMembers_membersFrom h (length_lt_membersFrom found rest) true rest
  rw [object_chars_append]
  rw [record, bind_apply_of_ok (upcoming_of_not_isSpace (by decide) _)]
  change (advance >>= _) _ = _
  rw [bind_apply_of_ok (advance_cons _ _), bind_apply_of_ok (get_apply _), bind_apply_of_ok hfound,
    hfinish]
  rfl

end Reader

end Json

theorem SortOrder.reader_chars (s : SortOrder) (rest : List Char) :
    SortOrder.reader (s.toJson.chars ++ rest) = .ok (s, rest) := by
  have hleads : Reader.Leads SortDraft.read [("key", .string s.key),
      ("sort_type", nameDocument SortMode.names s.mode), ("descending", .boolean s.descending)]
      {} ⟨some s.key, some s.mode, some s.descending⟩ := by
    have hkey (rest : List Char) (_ : Reader.Stops rest) :
        SortDraft.read {} "key" (':' :: ((Json.string s.key).chars ++ rest)) =
          .ok (⟨some s.key, none, none⟩, rest) :=
      Reader.map_apply_of_ok
        (Reader.once_colon "key" (Reader.string_stringText "a string" s.key rest)) _
    have hmode (rest : List Char) (_ : Reader.Stops rest) :
        SortDraft.read ⟨some s.key, none, none⟩ "sort_type"
          (':' :: ((nameDocument SortMode.names s.mode).chars ++ rest)) =
          .ok (⟨some s.key, some s.mode, none⟩, rest) :=
      Reader.map_apply_of_ok (Reader.once_colon "sort_type"
        (Reader.variant_nameDocument SortMode.unambiguous_names s.mode rest)) _
    have hdescending (rest : List Char) (_ : Reader.Stops rest) :
        SortDraft.read ⟨some s.key, some s.mode, none⟩ "descending"
          (':' :: ((Json.boolean s.descending).chars ++ rest)) =
          .ok (⟨some s.key, some s.mode, some s.descending⟩, rest) :=
      Reader.map_apply_of_ok
        (Reader.once_colon "descending" (Reader.boolean_chars s.descending rest)) _
    exact .cons hkey (.cons hmode (.cons hdescending (.nil _)))
  have hfinish : SortDraft.finish ⟨some s.key, some s.mode, some s.descending⟩ = .ok s := rfl
  exact Reader.record_object hleads hfinish expected _ rest

/-! ### The outermost predicate -/

namespace Predicate

/-- The member is taken from the text as from the document. -/
def Streams (member : String × Json) : Prop :=
  ∀ ⦃d d' : PredicateDraft⦄, d.take (fieldOf member) = .ok d' →
    ∀ rest, Reader.Stops rest →
      readMember d member.1 (':' :: (member.2.chars ++ rest)) = .ok (d', rest)

theorem leads_of_takeMembers {members : List (String × Json)}
    (hstreams : ∀ member ∈ members, Streams member) {d last : PredicateDraft}
    (h : takeMembers d members = .ok last) : Reader.Leads readMember members d last := by
  induction members generalizing d with
  | nil =>
      obtain rfl := Except.ok.inj h
      exact .nil d
  | cons member members ih =>
      obtain ⟨key, value⟩ := member
      rw [takeMembers] at h
      obtain ⟨next, htake, hrest⟩ := Reader.exists_of_bind_eq_ok h
      exact .cons (hstreams (key, value) List.mem_cons_self htake)
        (ih (fun other hother => hstreams other (List.mem_cons_of_mem _ hother)) hrest)

/-- A field that is taken has not been there before. -/
theorem once_eq_ok {α : Type} {key : String} {held found : Option α} {decode : Except Mismatch α}
    (h : once key held decode = .ok found) :
    held = none ∧ ∃ x, decode = .ok x ∧ found = some x := by
  rw [once] at h
  split at h
  · exact absurd h nofun
  · next hheld =>
    refine ⟨Option.not_isSome_iff_eq_none.mp hheld, ?_⟩
    cases decode with
    | error m => exact absurd h nofun
    | ok x => exact ⟨x, rfl, (Except.ok.inj h).symm⟩

theorem streams_name (name : String) : Streams ("name", .string name) := by
  intro d d' h rest _
  obtain ⟨found, honce, hd'⟩ := Reader.exists_of_bind_eq_ok h
  obtain rfl := Except.ok.inj hd'
  obtain ⟨hheld, x, hx, rfl⟩ := once_eq_ok honce
  obtain rfl : some name = x := Except.ok.inj hx
  have hread : Reader.optional (Reader.string "a string") (stringText name ++ rest) =
      .ok (some name, rest) := by
    have hstring := Reader.string_stringText "a string" name rest
    rw [Reader.stringText_append] at hstring ⊢
    exact Reader.optional_of_ne (by decide) (by decide) hstring
  have honce : Reader.once "name" d.name (Reader.optional (Reader.string "a string"))
      (':' :: (stringText name ++ rest)) = .ok (some (some name), rest) := by
    rw [hheld]
    exact Reader.once_colon "name" hread
  exact Reader.map_apply_of_ok honce _

theorem streams_occurrence (occurrence : Occurrence) :
    Streams ("occurrence", nameDocument Occurrence.names occurrence) := by
  intro d d' h rest _
  obtain ⟨found, honce, hd'⟩ := Reader.exists_of_bind_eq_ok h
  obtain rfl := Except.ok.inj hd'
  obtain ⟨hheld, x, hx, rfl⟩ := once_eq_ok honce
  obtain rfl : occurrence = x :=
    Except.ok.inj ((Occurrence.unambiguous_names.asVariant occurrence).symm.trans hx)
  have honce : Reader.once "occurrence" d.occurrence (Reader.variant Occurrence.names)
      (':' :: ((nameDocument Occurrence.names occurrence).chars ++ rest)) =
        .ok (some occurrence, rest) := by
    rw [hheld]
    exact Reader.once_colon "occurrence"
      (Reader.variant_nameDocument Occurrence.unambiguous_names occurrence rest)
  exact Reader.map_apply_of_ok honce _

theorem streams_sort (order : SortOrder) : Streams ("sort", order.toJson) := by
  intro d d' h rest _
  obtain ⟨found, honce, hd'⟩ := Reader.exists_of_bind_eq_ok h
  obtain rfl := Except.ok.inj hd'
  obtain ⟨hheld, x, hx, rfl⟩ := once_eq_ok honce
  obtain rfl : some order = x := Except.ok.inj (order.asOptional_toJson.symm.trans hx)
  have hread : Reader.optional SortOrder.reader (order.toJson.chars ++ rest) =
      .ok (some order, rest) := by
    have horder := order.reader_chars rest
    rw [SortOrder.toJson, Reader.object_chars_append] at horder ⊢
    exact Reader.optional_of_ne (by decide) (by decide) horder
  have honce : Reader.once "sort" d.sort (Reader.optional SortOrder.reader)
      (':' :: (order.toJson.chars ++ rest)) = .ok (some (some order), rest) := by
    rw [hheld]
    exact Reader.once_colon "sort" hread
  exact Reader.map_apply_of_ok honce _

theorem readMember_of_not_mem (d : PredicateDraft) {key : String} (h : key ∉ attributeKeys) :
    readMember d key = do
      Reader.colon
      let value ← Reader.value (maximalDepth - 1)
      return { d with fields := ⟨key, value, childrenOf value⟩ :: d.fields } := by
  rw [readMember.eq_def]
  split
  · exact absurd (by decide) h
  · exact absurd (by decide) h
  · exact absurd (by decide) h
  · rfl

theorem streams_of_not_mem {key : String} (hkey : key ∉ attributeKeys) {value : Json}
    (hnumbers : value.NumbersReadBack) (hdepth : value.depth ≤ maximalDepth - 1) :
    Streams (key, value) := by
  intro d d' h rest hrest
  rw [d.take_of_not_mem hkey] at h
  obtain rfl := Except.ok.inj h
  rw [readMember_of_not_mem d hkey]
  exact Reader.map_apply_of_ok (reads_value hnumbers hdepth hrest) fun value =>
    { d with fields := fieldOf (key, value) :: d.fields }

theorem streams_of_mem_membersAround {p : Predicate}
    (hreads : ∀ member ∈ membersAround p.attributes p.kind p.fields,
      member.2.NumbersReadBack ∧ member.2.depth ≤ maximalDepth - 1) :
    ∀ member ∈ membersAround p.attributes p.kind p.fields, Streams member := by
  intro member hmember
  obtain ⟨hnumbers, hdepth⟩ := hreads member hmember
  rw [membersAround] at hmember
  simp only [List.mem_append, List.mem_cons, List.not_mem_nil, or_false] at hmember
  obtain ((hname | rfl | rfl) | hfield) | hsort := hmember
  · cases hname? : p.attributes.name with
    | none =>
        rw [hname?] at hname
        exact absurd hname List.not_mem_nil
    | some name =>
        rw [hname?] at hname
        obtain rfl := List.mem_singleton.mp hname
        exact streams_name name
  · exact streams_occurrence p.attributes.occurrence
  · exact streams_of_not_mem (by decide) hnumbers hdepth
  · exact streams_of_not_mem (isFieldKey_of_mem_fields hfield).1 hnumbers hdepth
  · cases hsort? : p.attributes.sort with
    | none =>
        rw [hsort?] at hsort
        exact absurd hsort List.not_mem_nil
    | some order =>
        rw [hsort?] at hsort
        obtain rfl := List.mem_singleton.mp hsort
        exact streams_sort order

theorem reader_object {found : List (String × Json)} (hstreams : ∀ member ∈ found, Streams member)
    {p : Predicate} (h : ofJson (.object found) = .ok p) (rest : List Char) :
    reader ((Json.object found).chars ++ rest) = .ok (p, rest) := by
  rw [ofJson] at h
  obtain ⟨d, htake, hfinish⟩ := Reader.exists_of_bind_eq_ok h
  have hleads := leads_of_takeMembers hstreams htake
  have hfound := Reader.foldMembers_membersFrom hleads (Reader.length_lt_membersFrom found rest)
    true rest
  rw [Reader.object_chars_append]
  rw [reader, Reader.bind_apply_of_ok (Reader.upcoming_of_not_isSpace (by decide) _)]
  change (Reader.advance >>= _) _ = _
  rw [Reader.bind_apply_of_ok (Reader.advance_cons _ _),
    Reader.bind_apply_of_ok (Reader.get_apply _), Reader.bind_apply_of_ok hfound, hfinish]
  rfl

end Predicate

/-- A predicate is read back from its text: its names, occurrences, groups, orders and values are
the same, an integer does not become a floating point number, and a date no string. What is asked
of the text is that it opens no more containers inside each other than a reader allows, and of the
floating point numbers and dates in the predicate that they are read back by themselves. -/
theorem parse_predicate_text (p : Predicate) (hdepth : p.toJson.depth ≤ Json.maximalDepth)
    (hscalars : ∀ v ∈ p.scalars, v.ReadsBack) : Predicate.parse p.text = .ok p := by
  have hdecoded := p.ofJson_toJson hscalars
  have hnumbers := p.numbersReadBack hscalars
  rw [p.toJson_eq_object] at hdecoded hdepth hnumbers
  -- The outermost braces are read by the predicate reader, so its members have one container less.
  have hstreams := Predicate.streams_of_mem_membersAround fun member hmember =>
    ⟨MemberNumbersReadBack.of_mem hnumbers hmember,
      Nat.le_trans (depth_le_membersDepth hmember) (Nat.le_sub_one_of_lt hdepth)⟩
  have hread := Predicate.reader_object hstreams hdecoded []
  rw [List.append_nil] at hread
  refine whole_eq_ok ?_
  rw [Predicate.text, p.toJson_eq_object, text, String.toList_ofList]
  exact hread

/-- A group with an order, whose members hold a date inside lists, escaped characters and floating
point numbers, a tenth among them. -/
def recentNearby : Predicate :=
  .group { sort := some ⟨"rank", .numeric, true⟩ } .or
    [.leaf { name := some "seen", occurrence := .mustNot }
        (.array (.list [.list [.date ⟨1717243200, 5000000, by decide, by decide⟩], .null,
          .string "\"tab\t\"", .integer (-7), .boolean true])),
      .leaf { name := some "age" } (.range .null (.float ⟨0x3FB999999999999A⟩) true false),
      .leaf {} (.spatial ⟨0x4049000000000000⟩ ⟨0xC01C000000000000⟩ ⟨0x44B52D02C7E14AF6⟩),
      .leaf {} (.relationship "KNOWS" .incoming none)]

theorem parse_predicate_text_recentNearby :
    recentNearby.toJson.depth = 6 ∧ recentNearby.scalars.length = 10 ∧
      Predicate.parse recentNearby.text = .ok recentNearby :=
  ⟨by decide +kernel, by decide,
    parse_predicate_text recentNearby (by decide +kernel) (by decide +kernel)⟩

end GraphSearch

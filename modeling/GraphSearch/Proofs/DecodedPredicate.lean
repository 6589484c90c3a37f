import GraphSearch.Predicate.Decode
import GraphSearch.Predicate.Document
import GraphSearch.Proofs.DocumentText

/-!
Predicates are decoded from their documents.

A document names the kind of a predicate and the operations in it, leaves out what has its default,
and does not tag values. Main statement: the document of a predicate is decoded to that predicate, if
its floating point numbers and dates are read back.
-/

namespace GraphSearch

open Json

/-! ### Scalars -/

namespace Value

mutual

/-- The values in a value that are no lists, at any depth. -/
def scalars : Value → List Value
  | list items => itemScalars items
  | v => [v]

def itemScalars : List Value → List Value
  | [] => []
  | item :: rest => item.scalars ++ itemScalars rest

end

/-- A floating point number and a date are read back from the texts that stand for them in a
document; other scalars have texts that are read back in any case. -/
def ReadsBack : Value → Prop
  | float x => (Json.float x).ReadsBack
  | date t => Instant.ofText? (t.textWith "Z") = some t
  | _ => True

instance (v : Value) : Decidable v.ReadsBack :=
  match v with
  | float x => inferInstanceAs (Decidable (Json.float x).ReadsBack)
  | date _ => inferInstanceAs (Decidable (_ = _))
  | null | boolean _ | integer _ | string _ | list _ => .isTrue trivial

end Value

/-- The values that a condition calls for. -/
def Condition.operands : Condition → List Value
  | comparison _ value | fulltext value | exact value | array value => [value]
  | range low high _ _ => [low, high]
  | spatial latitude longitude distance =>
    [.float latitude, .float longitude, .float distance]
  | type _ | .uuid _ | relationship .. | notEmpty | empty => []

namespace Predicate

mutual

/-- The scalars in the values of a predicate. -/
def scalars : Predicate → List Value
  | leaf _ condition => condition.operands.flatMap Value.scalars
  | group _ _ children => childScalars children

def childScalars : List Predicate → List Value
  | [] => []
  | child :: rest => child.scalars ++ childScalars rest

end

end Predicate

/-! ### Values -/

theorem ofInteger_toInt (n : Int64) : Value.ofInteger n.toInt = .integer n := by
  rw [Value.ofInteger, if_pos ⟨n.minValue_le_toInt, n.toInt_le⟩, Int64.ofInt_toInt]

theorem dateOfMembers?_date (s : String) :
    Value.dateOfMembers? [(Value.dateKey, .string s)] = Instant.ofText? s := by
  rw [Value.dateOfMembers?, List.filter_cons_of_pos (by exact decide_eq_true rfl), List.filter_nil]

mutual

/-- A value whose numbers are finite and whose dates are read back is read from its document. -/
theorem Value.ofJson?_toJson (v : Value) (hfinite : ∀ x, float x ∈ v.scalars → x.isFinite = true)
    (hdates : ∀ t, date t ∈ v.scalars → Instant.ofText? (t.textWith "Z") = some t) :
    ofJson? v.toJson = some v := by
  cases v with
  | null => rfl
  | boolean b => rfl
  | integer n => exact congrArg some (ofInteger_toInt n)
  | float x =>
      rw [toJson, if_pos (hfinite x (List.mem_singleton_self _))]
      rfl
  | string s => rfl
  | list items =>
      rw [toJson, ofJson?, ofItems?_itemDocuments items hfinite hdates]
      rfl
  | date t =>
      rw [toJson, ofJson?, dateOfMembers?_date, hdates t (List.mem_singleton_self _)]
      rfl

theorem Value.ofItems?_itemDocuments (items : List Value)
    (hfinite : ∀ x, float x ∈ itemScalars items → x.isFinite = true)
    (hdates : ∀ t, date t ∈ itemScalars items → Instant.ofText? (t.textWith "Z") = some t) :
    ofItems? (itemDocuments items) = some items := by
  cases items with
  | nil => rfl
  | cons item rest =>
      have hitem : ofJson? item.toJson = some item :=
        ofJson?_toJson item (fun x hx => hfinite x (List.mem_append_left _ hx))
          fun t ht => hdates t (List.mem_append_left _ ht)
      have hrest : ofItems? (itemDocuments rest) = some rest :=
        ofItems?_itemDocuments rest (fun x hx => hfinite x (List.mem_append_right _ hx))
          fun t ht => hdates t (List.mem_append_right _ ht)
      rw [itemDocuments, ofItems?, hitem, hrest]
      rfl

end

/-! ### Names -/

/-- Every member of a table of names is found again under its name. -/
def Unambiguous {α : Type} [DecidableEq α] (names : List (String × α)) : Prop :=
  ∀ x, names.lookup (nameIn names x) = some x

theorem Occurrence.unambiguous_names : Unambiguous names := by
  intro x
  cases x <;> rfl

theorem Comparison.unambiguous_names : Unambiguous names := by
  intro x
  cases x <;> rfl

theorem Combinator.unambiguous_names : Unambiguous names := by
  intro x
  cases x <;> rfl

theorem Direction.unambiguous_names : Unambiguous names := by
  intro x
  cases x <;> rfl

theorem SortMode.unambiguous_names : Unambiguous names := by
  intro x
  cases x <;> rfl

theorem PredicateKind.unambiguous_names : Unambiguous names := by
  intro x
  cases x <;> rfl

section Names

variable {α : Type} [DecidableEq α] {names : List (String × α)}

theorem Unambiguous.variantNamed (h : Unambiguous names) (x : α) :
    variantNamed names (nameIn names x) = .ok x := by
  rw [Json.variantNamed, h x]

theorem Unambiguous.asVariant (h : Unambiguous names) (x : α) :
    (nameDocument names x).asVariant names = .ok x :=
  h.variantNamed x

theorem Unambiguous.asTag (h : Unambiguous names) (x : α) :
    (nameDocument names x).asTag names = .ok x :=
  h.variantNamed x

end Names

/-! ### Orders -/

theorem SortOrder.ofJson_toJson (s : SortOrder) : ofJson s.toJson = .ok s := by
  have hmembers : SortDraft.takeAll {} [("key", .string s.key),
      ("sort_type", nameDocument SortMode.names s.mode), ("descending", .boolean s.descending)] =
      .ok ⟨some s.key, some s.mode, some s.descending⟩ := by
    simp only [SortDraft.takeAll, SortDraft.take, once, SortMode.unambiguous_names.asVariant]
    rfl
  rw [toJson, ofJson, hmembers]
  rfl

theorem SortOrder.asOptional_toJson (s : SortOrder) :
    s.toJson.asOptional ofJson = .ok (some s) := by
  change some <$> ofJson s.toJson = _
  rw [s.ofJson_toJson]
  rfl

/-! ### Conditions -/

/-- The field that a member of an object is. -/
def fieldOf (member : String × Json) : Field :=
  ⟨member.1, member.2, Predicate.childrenOf member.2⟩

theorem Value.decode_toJson {v : Value} (h : ∀ w ∈ v.scalars, w.ReadsBack) :
    decode v.toJson = .ok v := by
  rw [decode, v.ofJson?_toJson (fun x hx => isFinite_of_readsBack (h (float x) hx))
    fun t ht => h (date t) ht]

theorem asFloat_floatDocument {x : Binary64} (h : (Json.float x).ReadsBack) :
    (floatDocument x).asFloat = .ok x := by
  rw [floatDocument, Value.toJson, if_pos (isFinite_of_readsBack h)]
  rfl

/-- The fields of a condition are decoded to that condition. -/
theorem Condition.takeAll_members (c : Condition) (a : Attributes)
    (h : ∀ w ∈ c.operands.flatMap Value.scalars, w.ReadsBack) :
    (do (← ConditionDraft.takeAll c.kind {} (c.members.map fieldOf)).finish a c.kind) =
      .ok (.leaf a c) := by
  have hscalars (v : Value) (hv : v ∈ c.operands) : ∀ w ∈ v.scalars, w.ReadsBack :=
    fun w hw => h w (List.mem_flatMap.mpr ⟨v, hv, hw⟩)
  have hvalue (v : Value) (hv : v ∈ c.operands) : Value.decode v.toJson = .ok v :=
    Value.decode_toJson (hscalars v hv)
  have hfloat (x : Binary64) (hx : .float x ∈ c.operands) :
      (floatDocument x).asFloat = .ok x :=
    asFloat_floatDocument (hscalars (.float x) hx _ (List.mem_singleton_self _))
  cases c with
  | comparison operation value =>
      have hread := hvalue value (List.mem_singleton_self value)
      simp only [kind, members, List.map_cons, List.map_nil, fieldOf, ConditionDraft.takeAll,
        ConditionDraft.take, ConditionDraft.takeValue, once,
        Comparison.unambiguous_names.asVariant, hread]
      rfl
  | range low high includeLow includeHigh =>
      have hlow := hvalue low (by simp [operands])
      have hhigh := hvalue high (by simp [operands])
      simp only [kind, members, List.map_cons, List.map_nil, fieldOf, ConditionDraft.takeAll,
        ConditionDraft.take, once, hlow, hhigh]
      rfl
  | fulltext value | exact value | array value =>
      have hread := hvalue value (List.mem_singleton_self value)
      simp only [kind, members, List.map_cons, List.map_nil, fieldOf, ConditionDraft.takeAll,
        ConditionDraft.take, ConditionDraft.takeValue, once, hread]
      rfl
  | spatial latitude longitude distance =>
      have hlatitude := hfloat latitude (by simp [operands])
      have hlongitude := hfloat longitude (by simp [operands])
      have hdistance := hfloat distance (by simp [operands])
      simp only [kind, members, List.map_cons, List.map_nil, fieldOf, ConditionDraft.takeAll,
        ConditionDraft.take, once, hlatitude, hlongitude, hdistance]
      rfl
  | type name | uuid name => rfl
  | relationship type direction related =>
      cases related with
      | none =>
          simp only [kind, members, List.map_cons, List.map_nil, List.append_nil, fieldOf,
            ConditionDraft.takeAll, ConditionDraft.take, once, Option.map_none, optionalMember,
            Direction.unambiguous_names.asVariant]
          rfl
      | some related =>
          simp only [kind, members, List.map_cons, List.map_nil, List.cons_append, List.nil_append,
            fieldOf, ConditionDraft.takeAll, ConditionDraft.take, once, Option.map_some,
            optionalMember, Direction.unambiguous_names.asVariant]
          rfl
  | notEmpty | empty => rfl

/-! ### Predicates -/

/-- The keys that a predicate has beside the fields of its condition. -/
def attributeKeys : List String :=
  ["name", "occurrence", "sort"]

/-- The predicate draft when its object is complete. -/
def PredicateDraft.full (a : Attributes) (kind : PredicateKind) (fields : List (String × Json)) :
    PredicateDraft where
  name := a.name.map some
  occurrence := some a.occurrence
  sort := a.sort.map some
  fields := (((PredicateDraft.kindKey, nameDocument PredicateKind.names kind) :: fields).map
    fieldOf).reverse

theorem PredicateDraft.take_of_not_mem (d : PredicateDraft) {f : Field}
    (h : f.key ∉ attributeKeys) : d.take f = .ok { d with fields := f :: d.fields } := by
  rw [take.eq_def]
  split
  · next heq => exact absurd (by rw [heq]; decide) h
  · next heq => exact absurd (by rw [heq]; decide) h
  · next heq => exact absurd (by rw [heq]; decide) h
  · rfl

namespace Predicate

theorem takeMembers_cons {d d' : PredicateDraft} {key : String} {value : Json}
    (h : d.take (fieldOf (key, value)) = .ok d') (rest : List (String × Json)) :
    takeMembers d ((key, value) :: rest) = takeMembers d' rest := by
  rw [takeMembers]
  change (d.take (fieldOf (key, value)) >>= fun d => takeMembers d rest) = _
  rw [h]
  rfl

theorem takeMembers_append_of_not_mem {members : List (String × Json)}
    (h : ∀ member ∈ members, member.1 ∉ attributeKeys) (d : PredicateDraft)
    (rest : List (String × Json)) :
    takeMembers d (members ++ rest) =
      takeMembers { d with fields := (members.map fieldOf).reverse ++ d.fields } rest := by
  induction members generalizing d with
  | nil => rfl
  | cons member members ih =>
      rw [List.cons_append,
        takeMembers_cons (d.take_of_not_mem (h member List.mem_cons_self)),
        ih (fun other hother => h other (List.mem_cons_of_mem _ hother))]
      simp only [List.map_cons, List.reverse_cons, List.append_assoc, List.singleton_append]

theorem takeMembers_membersAround (a : Attributes) (kind : PredicateKind)
    {fields : List (String × Json)} (h : ∀ member ∈ fields, member.1 ∉ attributeKeys) :
    takeMembers {} (membersAround a kind fields) = .ok (.full a kind fields) := by
  obtain ⟨name, occurrence, sort⟩ := a
  have hkind : ∀ member ∈ (PredicateDraft.kindKey, nameDocument PredicateKind.names kind) :: fields,
      member.1 ∉ attributeKeys := by
    intro member hmember
    rcases List.mem_cons.mp hmember with rfl | hmember
    · exact (by decide : PredicateDraft.kindKey ∉ attributeKeys)
    · exact h member hmember
  have hname (rest : List (String × Json)) :
      takeMembers {} (optionalMember "name" (name.map .string) ++ rest) =
        takeMembers { name := name.map some } rest := by
    cases name with
    | none => rfl
    | some name => exact takeMembers_cons rfl rest
  have hoccurrence (d : PredicateDraft) (hd : d.occurrence = none) (rest : List (String × Json)) :
      takeMembers d (("occurrence", nameDocument Occurrence.names occurrence) :: rest) =
        takeMembers { d with occurrence := some occurrence } rest := by
    refine takeMembers_cons ?_ rest
    simp only [fieldOf, PredicateDraft.take, once, hd, Occurrence.unambiguous_names.asVariant]
    rfl
  have hsort (d : PredicateDraft) (hd : d.sort = none) :
      takeMembers d (optionalMember "sort" (sort.map SortOrder.toJson)) =
        .ok { d with sort := sort.map some } := by
    cases sort with
    | none =>
        obtain ⟨foundName, foundOccurrence, foundSort, foundFields⟩ := d
        obtain rfl : foundSort = none := hd
        rfl
    | some order =>
        refine takeMembers_cons ?_ []
        simp only [fieldOf, PredicateDraft.take, once, hd, order.asOptional_toJson]
        rfl
  have hassoc : membersAround ⟨name, occurrence, sort⟩ kind fields =
      optionalMember "name" (name.map .string) ++
        (("occurrence", nameDocument Occurrence.names occurrence) ::
          (((PredicateDraft.kindKey, nameDocument PredicateKind.names kind) :: fields) ++
            optionalMember "sort" (sort.map SortOrder.toJson))) := by
    rw [membersAround, List.append_assoc, List.append_assoc]
    rfl
  -- The draft takes the name, then the occurrence, then kind and fields together, then the order.
  rw [hassoc, hname, hoccurrence _ rfl, takeMembers_append_of_not_mem hkind, hsort _ rfl]
  simp only [PredicateDraft.full, List.append_nil]

/-- The members of a predicate that its kind calls for. -/
def fields : Predicate → List (String × Json)
  | leaf _ condition => condition.members
  | group _ combinator children =>
    [("combinator", nameDocument Combinator.names combinator),
      ("children", .array (childDocuments children))]

theorem toJson_eq_object (p : Predicate) :
    p.toJson = .object (membersAround p.attributes p.kind p.fields) := by
  cases p with
  | leaf a condition => rfl
  | group a combinator children => rfl

end Predicate

namespace PredicateDraft

variable {fields : List (String × Json)}

theorem findKind_of_ne (h : ∀ member ∈ fields, member.1 ≠ kindKey) (kind : PredicateKind) :
    findKind (some kind) (fields.map fieldOf) = .ok kind := by
  induction fields with
  | nil => rfl
  | cons member fields ih =>
      have hne : (fieldOf member).key ≠ kindKey := h member List.mem_cons_self
      rw [List.map_cons, findKind, if_neg hne]
      exact ih fun other hother => h other (List.mem_cons_of_mem _ hother)

theorem filter_fieldOf (h : ∀ member ∈ fields, member.1 ≠ kindKey) :
    (fields.map fieldOf).filter (fun f => f.key ≠ kindKey) = fields.map fieldOf := by
  rw [List.filter_eq_self]
  intro f hf
  obtain ⟨member, hmember, rfl⟩ := List.mem_map.mp hf
  exact decide_eq_true (h member hmember)

/-- A complete draft is finished by the fields of its condition. -/
theorem finish_full (a : Attributes) (kind : PredicateKind)
    (h : ∀ member ∈ fields, member.1 ≠ kindKey) :
    (full a kind fields).finish =
      ConditionDraft.takeAll kind {} (fields.map fieldOf) >>= fun d => d.finish a kind := by
  have hattributes : (full a kind fields).attributes = a := by
    obtain ⟨name, occurrence, sort⟩ := a
    cases name <;> cases sort <;> rfl
  have hfields : (full a kind fields).fields.reverse =
      fieldOf (kindKey, nameDocument PredicateKind.names kind) :: fields.map fieldOf := by
    rw [full, List.reverse_reverse, List.map_cons]
  have hkind : findKind none
      (fieldOf (kindKey, nameDocument PredicateKind.names kind) :: fields.map fieldOf) =
        .ok kind := by
    have hself : (fieldOf (kindKey, nameDocument PredicateKind.names kind)).key = kindKey := rfl
    rw [findKind, if_pos hself]
    change (once kindKey none ((nameDocument PredicateKind.names kind).asTag PredicateKind.names)
      >>= fun held => findKind held (fields.map fieldOf)) = _
    rw [PredicateKind.unambiguous_names.asTag]
    exact findKind_of_ne h kind
  simp only [finish, hattributes, hfields, hkind]
  rw [List.filter_cons_of_neg, filter_fieldOf h]
  · rfl
  · simp [fieldOf]

end PredicateDraft

/-! ### Decoding -/

/-- The key is that of a field, so that it is kept for the condition. -/
def IsFieldKey (key : String) : Prop :=
  key ∉ attributeKeys ∧ key ≠ PredicateDraft.kindKey

instance (key : String) : Decidable (IsFieldKey key) :=
  inferInstanceAs (Decidable (_ ∧ _))

theorem Condition.isFieldKey_of_mem_members {c : Condition} {member : String × Json}
    (h : member ∈ c.members) : IsFieldKey member.1 := by
  have hkeys : ∀ key ∈ c.members.map Prod.fst, IsFieldKey key := by
    cases c with
    | comparison => exact (by decide : ∀ key ∈ ["operation", "value"], IsFieldKey key)
    | range =>
        exact (by decide :
          ∀ key ∈ ["start", "end", "include_start", "include_end"], IsFieldKey key)
    | fulltext | exact | array => exact (by decide : ∀ key ∈ ["value"], IsFieldKey key)
    | spatial =>
        exact (by decide : ∀ key ∈ ["latitude", "longitude", "distance"], IsFieldKey key)
    | type => exact (by decide : ∀ key ∈ ["type_name"], IsFieldKey key)
    | uuid => exact (by decide : ∀ key ∈ ["uuid"], IsFieldKey key)
    | relationship _ _ related =>
        cases related with
        | none => exact (by decide : ∀ key ∈ ["rel_type", "direction"], IsFieldKey key)
        | some related =>
            exact (by decide : ∀ key ∈ ["rel_type", "direction", "related"], IsFieldKey key)
    | notEmpty | empty => exact nofun
  exact hkeys member.1 (List.mem_map_of_mem h)

theorem Predicate.isFieldKey_of_mem_fields {p : Predicate} {member : String × Json}
    (h : member ∈ p.fields) : IsFieldKey member.1 := by
  cases p with
  | leaf a condition => exact Condition.isFieldKey_of_mem_members h
  | group a combinator children =>
      have hkey : member.1 ∈ ["combinator", "children"] := List.mem_map_of_mem h
      exact (by decide : ∀ key ∈ ["combinator", "children"], IsFieldKey key) member.1 hkey

/-- A predicate is decoded if the fields of its condition are. -/
theorem Predicate.ofJson_toJson_of_fields {p : Predicate}
    (h : (ConditionDraft.takeAll p.kind {} (p.fields.map fieldOf) >>= fun d =>
      d.finish p.attributes p.kind) = .ok p) : ofJson p.toJson = .ok p := by
  rw [toJson_eq_object, ofJson, takeMembers_membersAround p.attributes p.kind
    fun member hmember => (isFieldKey_of_mem_fields hmember).1]
  change (PredicateDraft.full p.attributes p.kind p.fields).finish = _
  rw [PredicateDraft.finish_full p.attributes p.kind
    fun member hmember => (isFieldKey_of_mem_fields hmember).2, h]

mutual

/-- The document of a predicate is decoded to the predicate. -/
theorem Predicate.ofJson_toJson (p : Predicate) (h : ∀ w ∈ p.scalars, w.ReadsBack) :
    ofJson p.toJson = .ok p := by
  refine ofJson_toJson_of_fields ?_
  cases p with
  | leaf a condition => exact condition.takeAll_members a h
  | group a combinator children =>
      have hchildren : childrenOf (.array (childDocuments children)) = .ok children := by
        rw [childrenOf, ofItems_childDocuments children h]
      simp only [kind, fields, List.map_cons, List.map_nil, fieldOf, ConditionDraft.takeAll,
        ConditionDraft.take, once, Combinator.unambiguous_names.asVariant, hchildren]
      rfl

theorem Predicate.ofItems_childDocuments (children : List Predicate)
    (h : ∀ w ∈ childScalars children, w.ReadsBack) :
    ofItems (childDocuments children) = .ok children := by
  cases children with
  | nil => rfl
  | cons child rest =>
      rw [childDocuments, ofItems,
        ofJson_toJson child fun w hw => h w (List.mem_append_left _ hw),
        ofItems_childDocuments rest fun w hw => h w (List.mem_append_right _ hw)]
      rfl

end

end GraphSearch

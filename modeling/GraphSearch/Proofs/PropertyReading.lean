import GraphSearch.Bolt.Wire
import GraphSearch.Proofs.DecodedPredicate
import GraphSearch.Proofs.ParameterNames
import Mathlib.Data.String.Basic

/-!
Properties are read from the documents that the server sends.

What decides is each object that is reached through arrays: it should be a date. Main statement: a
document is read to the value of the same structure if all those objects are dates, and to its text
as a whole if one of them is not, however deep it is; so the document of a value is read to that
value.
-/

namespace GraphSearch

namespace Json

/-! ### Dates in documents -/

/-- A document is reached from another through arrays only. -/
inductive Reaches : Json → Json → Prop where
  | refl (j : Json) : Reaches j j
  | item {items : List Json} {item k : Json} (hmem : item ∈ items) (h : Reaches item k) :
      Reaches (.array items) k

/-- No object that is reached has a key twice. -/
def KeysOnce (j : Json) : Prop :=
  ∀ members, j.Reaches (.object members) → (members.map Prod.fst).Nodup

def HoldsDate (members : List (String × Json)) (t : Instant) : Prop :=
  ∃ s, (Value.dateKey, .string s) ∈ members ∧ Instant.ofText? s = some t

/-- Each object that is reached is a date. -/
def Representable (j : Json) : Prop :=
  ∀ members, j.Reaches (.object members) → ∃ t, HoldsDate members t

/-- The value has the structure of the document. -/
inductive Mirrors : Json → Value → Prop where
  | null : Mirrors .null .null
  | boolean (b : Bool) : Mirrors (.boolean b) (.boolean b)
  | integer (n : Int64) : Mirrors (.integer n.toInt) (.integer n)
  | wide {n : Int} (h : n < -2 ^ 63 ∨ 2 ^ 63 ≤ n) : Mirrors (.integer n) (.float (.ofInt n))
  | float (x : Binary64) : Mirrors (.float x) (.float x)
  | string (s : String) : Mirrors (.string s) (.string s)
  | array {items : List Json} {values : List Value} (h : List.Forall₂ Mirrors items values) :
      Mirrors (.array items) (.list values)
  | date {members : List (String × Json)} {t : Instant} (h : HoldsDate members t) :
      Mirrors (.object members) (.date t)

/-! ### Reached objects -/

/-- The objects reached from an array are those reached from its items. -/
theorem forall_reaches_array {items : List Json} {P : List (String × Json) → Prop} :
    (∀ members, (array items).Reaches (.object members) → P members) ↔
      ∀ item ∈ items, ∀ members, item.Reaches (.object members) → P members := by
  constructor
  · intro h item hmem members hreach
    exact h members (.item hmem hreach)
  · rintro h members (_ | ⟨hmem, hreach⟩)
    exact h _ hmem members hreach

theorem forall_reaches_object {members : List (String × Json)}
    {P : List (String × Json) → Prop} :
    (∀ reached, (object members).Reaches (.object reached) → P reached) ↔ P members := by
  refine ⟨fun h => h members (.refl _), ?_⟩
  rintro h reached ⟨⟩
  exact h

theorem keysOnce_array {items : List Json} :
    (array items).KeysOnce ↔ ∀ item ∈ items, item.KeysOnce :=
  forall_reaches_array

theorem keysOnce_object {members : List (String × Json)} :
    (object members).KeysOnce ↔ (members.map Prod.fst).Nodup :=
  forall_reaches_object

theorem representable_array {items : List Json} :
    (array items).Representable ↔ ∀ item ∈ items, item.Representable :=
  forall_reaches_array

theorem filter_eq_singleton {members : List (String × Json)}
    (hkeys : (members.map Prod.fst).Nodup) {key : String} {value : Json}
    (hmem : (key, value) ∈ members) :
    members.filter (fun member => member.1 = key) = [(key, value)] := by
  induction members with
  | nil => exact absurd hmem List.not_mem_nil
  | cons member members ih =>
      obtain ⟨hfresh, hkeys⟩ := List.nodup_cons.mp hkeys
      rcases List.mem_cons.mp hmem with rfl | hmem
      · have hrest : members.filter (fun member => member.1 = key) = [] := by
          simp only [List.filter_eq_nil_iff, decide_eq_true_eq]
          rintro other hother rfl
          exact hfresh (List.mem_map.mpr ⟨other, hother, rfl⟩)
        rw [List.filter_cons_of_pos (by exact decide_eq_true rfl), hrest]
      · have hne : member.1 ≠ key := by
          rintro rfl
          exact hfresh (List.mem_map.mpr ⟨_, hmem, rfl⟩)
        rw [List.filter_cons_of_neg (by simpa using hne), ih hkeys hmem]

theorem holdsDate_iff {members : List (String × Json)} (hkeys : (members.map Prod.fst).Nodup)
    {t : Instant} : HoldsDate members t ↔ Value.dateOfMembers? members = some t := by
  constructor
  · rintro ⟨s, hmem, hdate⟩
    rw [Value.dateOfMembers?, filter_eq_singleton hkeys hmem]
    exact hdate
  · intro h
    rw [Value.dateOfMembers?] at h
    split at h
    next key s hfilter =>
      have hmem : (key, .string s) ∈ members.filter fun member => member.1 = Value.dateKey := by
        rw [hfilter]
        exact List.mem_singleton_self _
      obtain ⟨hmem, hkey⟩ := List.mem_filter.mp hmem
      obtain rfl : key = Value.dateKey := of_decide_eq_true hkey
      exact ⟨s, hmem, h⟩
    next => cases h

/-! ### Structure -/

theorem mirrors_integer_iff {n : Int} {v : Value} :
    Mirrors (.integer n) v ↔ Value.ofInteger n = v := by
  have hmin : Int64.minValue.toInt = -2 ^ 63 := rfl
  have hmax : Int64.maxValue.toInt = 2 ^ 63 - 1 := rfl
  rw [Value.ofInteger, hmin, hmax]
  constructor
  · rintro (_ | _ | n | hwide)
    · rw [if_pos ⟨n.minValue_le_toInt, by have := n.toInt_lt; omega⟩, Int64.ofInt_toInt]
    · rw [if_neg (by omega)]
  · rintro rfl
    split
    next hfits =>
      have h := Mirrors.integer (.ofInt n)
      rwa [Int64.toInt_ofInt_of_le (by omega) (by omega)] at h
    next hwide => exact .wide (by omega)

mutual

theorem mirrors_iff (j : Json) (hkeys : j.KeysOnce) (v : Value) :
    Mirrors j v ↔ Value.ofJson? j = some v := by
  cases j with
  | null => exact ⟨by rintro ⟨⟩; rfl, by rintro ⟨⟩; exact .null⟩
  | boolean b => exact ⟨by rintro ⟨⟩; rfl, by rintro ⟨⟩; exact .boolean b⟩
  | integer n => rw [mirrors_integer_iff, Value.ofJson?, Option.some_inj]
  | float x => exact ⟨by rintro ⟨⟩; rfl, by rintro ⟨⟩; exact .float x⟩
  | string s => exact ⟨by rintro ⟨⟩; rfl, by rintro ⟨⟩; exact .string s⟩
  | array items =>
      rw [Value.ofJson?, Option.map_eq_some_iff]
      constructor
      · rintro ⟨⟩
        rename_i values h
        exact ⟨values, (forall₂_mirrors_iff items (keysOnce_array.mp hkeys) values).mp h, rfl⟩
      · rintro ⟨values, h, rfl⟩
        exact .array ((forall₂_mirrors_iff items (keysOnce_array.mp hkeys) values).mpr h)
  | object members =>
      have hholds {t : Instant} : HoldsDate members t ↔ Value.dateOfMembers? members = some t :=
        holdsDate_iff (forall_reaches_object.mp hkeys)
      rw [Value.ofJson?, Option.map_eq_some_iff]
      constructor
      · rintro ⟨⟩
        rename_i t h
        exact ⟨t, hholds.mp h, rfl⟩
      · rintro ⟨t, h, rfl⟩
        exact .date (hholds.mpr h)

theorem forall₂_mirrors_iff (items : List Json) (hkeys : ∀ item ∈ items, item.KeysOnce)
    (values : List Value) :
    List.Forall₂ Mirrors items values ↔ Value.ofItems? items = some values := by
  cases items with
  | nil => exact ⟨by rintro ⟨⟩; rfl, by rintro ⟨⟩; exact .nil⟩
  | cons item rest =>
      obtain ⟨hitem, hrest⟩ := List.forall_mem_cons.mp hkeys
      constructor
      · rintro (_ | ⟨hfirst, hothers⟩)
        rw [Value.ofItems?, (mirrors_iff item hitem _).mp hfirst,
          (forall₂_mirrors_iff rest hrest _).mp hothers]
        rfl
      · intro h
        simp only [Value.ofItems?, Option.bind_eq_bind, Option.bind_eq_some_iff, Option.pure_def,
          Option.some_inj] at h
        obtain ⟨v, hv, vs, hvs, rfl⟩ := h
        exact .cons ((mirrors_iff item hitem v).mpr hv) ((forall₂_mirrors_iff rest hrest vs).mpr hvs)

end

mutual

/-- A document has a value just if all the objects that are reached are dates. -/
theorem representable_iff (j : Json) (hkeys : j.KeysOnce) :
    j.Representable ↔ (Value.ofJson? j).isSome := by
  cases j with
  | null | boolean b | integer n | float x | string s => exact ⟨fun _ => rfl, fun _ => nofun⟩
  | array items =>
      rw [representable_array, Value.ofJson?, Option.isSome_map]
      exact forall_representable_iff items (keysOnce_array.mp hkeys)
  | object members =>
      have hholds (t : Instant) : HoldsDate members t ↔ Value.dateOfMembers? members = some t :=
        holdsDate_iff (forall_reaches_object.mp hkeys)
      rw [Representable, forall_reaches_object, Value.ofJson?, Option.isSome_map,
        Option.isSome_iff_exists]
      exact exists_congr hholds

theorem forall_representable_iff (items : List Json) (hkeys : ∀ item ∈ items, item.KeysOnce) :
    (∀ item ∈ items, item.Representable) ↔ (Value.ofItems? items).isSome := by
  cases items with
  | nil => exact ⟨fun _ => rfl, fun _ => List.forall_mem_nil _⟩
  | cons item rest =>
      obtain ⟨hitem, hrest⟩ := List.forall_mem_cons.mp hkeys
      rw [List.forall_mem_cons, representable_iff item hitem, forall_representable_iff rest hrest,
        Value.ofItems?]
      cases Value.ofJson? item <;> cases Value.ofItems? rest <;> simp

end

end Json

/-! ### Documents from the server -/

namespace Dictionary

variable {α : Type} {d : Dictionary α}

theorem mem_of_mem_insert {key : String} {value : α} {entry : String × α}
    (h : entry ∈ d.insert key value) : entry = (key, value) ∨ entry ∈ d := by
  induction d with
  | nil => exact .inl (List.mem_singleton.mp h)
  | cons first rest ih =>
      rw [insert] at h
      split at h
      · exact List.mem_cons.mp h
      split at h
      · exact (List.mem_cons.mp h).imp_right (List.mem_cons_of_mem _)
      · rcases List.mem_cons.mp h with rfl | h
        · exact .inr List.mem_cons_self
        · exact (ih h).imp_right (List.mem_cons_of_mem _)

theorem pairwise_insert (h : d.Pairwise (·.1 < ·.1)) (key : String) (value : α) :
    (d.insert key value).Pairwise (·.1 < ·.1) := by
  induction d with
  | nil => exact List.pairwise_singleton _ _
  | cons first rest ih =>
      obtain ⟨hfirst, hrest⟩ := List.pairwise_cons.mp h
      rw [insert]
      split
      next hlt =>
        refine List.pairwise_cons.mpr ⟨fun entry hentry => ?_, h⟩
        rcases List.mem_cons.mp hentry with rfl | hentry
        · exact hlt
        · exact hlt.trans (hfirst entry hentry)
      split
      next heq =>
        subst heq
        exact List.pairwise_cons.mpr ⟨hfirst, hrest⟩
      next hle hne =>
        refine List.pairwise_cons.mpr ⟨fun entry hentry => ?_, ih hrest⟩
        rcases mem_of_mem_insert hentry with rfl | hentry
        · exact lt_of_le_of_ne (not_lt.mp hle) (Ne.symm hne)
        · exact hfirst entry hentry

theorem nodup_keys_ofEntries (entries : List (String × α)) :
    ((ofEntries entries).map Prod.fst).Nodup := by
  have hsorted : (ofEntries entries).Pairwise (·.1 < ·.1) := by
    induction entries using List.reverseRecOn with
    | nil => exact List.Pairwise.nil
    | append_singleton entries entry ih =>
        rw [ofEntries_concat]
        exact pairwise_insert ih entry.1 entry.2
  exact List.pairwise_map.mpr (hsorted.imp fun hlt => ne_of_lt hlt)

end Dictionary

open Json

mutual

/-- A document that the server sends has each key of an object once. -/
theorem WireValue.keysOnce_toJson (w : WireValue) : w.toJson.KeysOnce := by
  cases w with
  | null | boolean b | integer n | string s => exact nofun
  | float x =>
      rw [toJson]
      split <;> exact nofun
  | bytes bs =>
      rw [toJson, keysOnce_array]
      intro item hitem
      obtain ⟨b, -, rfl⟩ := List.mem_map.mp hitem
      exact nofun
  | list items =>
      rw [toJson, keysOnce_array]
      exact keysOnce_itemDocuments items
  | map entries => exact keysOnce_object.mpr (Dictionary.nodup_keys_ofEntries _)
  | node _ _ properties => exact keysOnce_object.mpr (Dictionary.nodup_keys_ofEntries _)
  | relationship _ _ _ _ properties =>
      exact keysOnce_object.mpr (Dictionary.nodup_keys_ofEntries _)

theorem WireValue.keysOnce_itemDocuments (items : List WireValue) :
    ∀ j ∈ itemDocuments items, j.KeysOnce := by
  cases items with
  | nil => exact List.forall_mem_nil _
  | cons item rest =>
      exact List.forall_mem_cons.mpr ⟨keysOnce_toJson item, keysOnce_itemDocuments rest⟩

end

namespace Value

/-- A document is read to the value that mirrors it, if all the objects that are reached through
arrays are dates, and to its whole text if not. A value whose numbers are finite is read back from its
document, if the texts of its dates are. -/
theorem ofDocument_mirrors_or_text :
    (∀ j : Json, j.KeysOnce →
      (j.Representable → ∀ v, Mirrors j v ↔ ofDocument j = v) ∧
      (¬j.Representable → ofDocument j = string j.text)) ∧
    ∀ v : Value, (∀ x, float x ∈ v.scalars → x.isFinite = true) →
      (∀ t, date t ∈ v.scalars → Instant.ofText? (t.textWith "Z") = some t) →
      ofDocument v.toJson = v := by
  refine ⟨fun j hkeys => ⟨fun hrepresentable v => ?_, fun hnot => ?_⟩, fun v hfinite hdates => ?_⟩
  · obtain ⟨w, hread⟩ := Option.isSome_iff_exists.mp ((representable_iff j hkeys).mp hrepresentable)
    rw [mirrors_iff j hkeys, ofDocument, hread, Option.getD_some, Option.some_inj]
  · rw [representable_iff j hkeys, Bool.not_eq_true, Option.isSome_eq_false_iff,
      Option.isNone_iff_eq_none] at hnot
    rw [ofDocument, hnot, Option.getD_none]
  · rw [ofDocument, ofJson?_toJson v hfinite hdates, Option.getD_some]

/-- A number, a date with a member that does not matter, and a number that is no integer of a
value. -/
def dated : Json :=
  .array [.integer 3,
    .object [("$date", .string "2024-06-01T12:00:00.005Z"), ("zone", .null)],
    .array [.integer (2 ^ 63)]]

/-- An object that is no date, two arrays deep. -/
def tagged : Json :=
  .array [.integer 3, .array [.null, .object [("a", .integer 1)]]]

/-- A tenth and a date inside lists. -/
def measured : Value :=
  list [float ⟨0x3FB999999999999A⟩, list [date ⟨1709210096, 250000000, by decide, by decide⟩, null]]

theorem ofDocument_mirrors_or_text_measured :
    ofDocument dated = list [integer 3, date ⟨1717243200, 5000000, by decide, by decide⟩,
        list [float (.ofInt (2 ^ 63))]] ∧
      ofDocument tagged = string "[3,[null,\x7b\"a\":1\x7d]]" ∧
      ofDocument measured.toJson = measured := by
  have hnull : Json.null.KeysOnce := nofun
  have hinteger (n : Int) : (Json.integer n).KeysOnce := nofun
  have hdated : dated.KeysOnce := by
    simp [dated, keysOnce_array, keysOnce_object, hinteger]
  have htagged : tagged.KeysOnce := by
    simp [tagged, keysOnce_array, keysOnce_object, hnull, hinteger]
  refine ⟨?_, ?_, ?_⟩
  · have hdates : dated.Representable := (representable_iff dated hdated).mpr (by decide +kernel)
    refine ((ofDocument_mirrors_or_text.1 dated hdated).1 hdates _).mp (.array ?_)
    exact .cons (.integer 3) (.cons (.date ⟨_, List.mem_cons_self, by decide +kernel⟩)
      (.cons (.array (.cons (.wide (by decide)) .nil)) .nil))
  · have hnone : ¬tagged.Representable := by
      rw [representable_iff tagged htagged]
      decide +kernel
    rw [(ofDocument_mirrors_or_text.1 tagged htagged).2 hnone]
    exact congrArg string (by decide +kernel)
  · refine ofDocument_mirrors_or_text.2 measured ?_ ?_
    · intro x hx
      obtain rfl : x = ⟨0x3FB999999999999A⟩ := by simpa [measured, scalars, itemScalars] using hx
      decide
    · intro t ht
      obtain rfl : t = ⟨1709210096, 250000000, by decide, by decide⟩ := by
        simpa [measured, scalars, itemScalars] using ht
      decide +kernel

end Value

end GraphSearch

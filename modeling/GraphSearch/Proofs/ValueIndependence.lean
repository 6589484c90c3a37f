import GraphSearch.Proofs.Leaves
import GraphSearch.Proofs.ParameterNames
import GraphSearch.Query.Statement

/-!
The values that a search compares with do not show in its statements.

A clause looks at a value only to tell its class: whether it is null, a text or a list. Masking
puts one stand-in in the place of all values of a class, and translating commutes with it. Main
statement: predicates that differ in values of the same classes have the same statements and the
same parameter names.
-/

namespace GraphSearch

/-! ### Values of the same classes -/

namespace Value

def isList : Value → Bool
  | list _ => true
  | _ => false

/-- Both are null, or neither is. -/
def AlikeInNull (v w : Value) : Prop :=
  v.isNull = w.isNull

/-- Both are null, both are texts, or both are something else. -/
def AlikeInText (v w : Value) : Prop :=
  v.isNull = w.isNull ∧ v.string?.isSome = w.string?.isSome

/-- Both are null, both are lists, or both are something else. -/
def AlikeInList (v w : Value) : Prop :=
  v.isNull = w.isNull ∧ v.isList = w.isList

end Value

/-- Whether a point and a distance have a clause. -/
def isFinitePlace (latitude longitude distance : Binary64) : Bool :=
  latitude.isFinite && longitude.isFinite && distance.isFinite

/-- Conditions of one form whose values are of the same classes. -/
inductive Condition.Alike : Condition → Condition → Prop where
  | nullTest {operation : Comparison} (h : operation.isNullTest = true) (v w : Value) :
      Alike (.comparison operation v) (.comparison operation w)
  | comparison (operation : Comparison) {v w : Value} (h : v.AlikeInNull w) :
      Alike (.comparison operation v) (.comparison operation w)
  | range {low low' high high' : Value} (hlow : low.AlikeInNull low')
      (hhigh : high.AlikeInNull high') (includeLow includeHigh : Bool) :
      Alike (.range low high includeLow includeHigh) (.range low' high' includeLow includeHigh)
  | fulltext {v w : Value} (h : v.AlikeInText w) : Alike (.fulltext v) (.fulltext w)
  | exact {v w : Value} (h : v.AlikeInNull w) : Alike (.exact v) (.exact w)
  | spatial {latitude longitude distance latitude' longitude' distance' : Binary64}
      (h : isFinitePlace latitude longitude distance =
        isFinitePlace latitude' longitude' distance') :
      Alike (.spatial latitude longitude distance) (.spatial latitude' longitude' distance')
  | array {v w : Value} (h : v.AlikeInList w) : Alike (.array v) (.array w)
  | type (name name' : String) : Alike (.type name) (.type name')
  | uuid (id id' : String) : Alike (.uuid id) (.uuid id')
  | relationship (type : String) (direction : Direction) {related related' : Option String}
      (h : related.isSome = related'.isSome) :
      Alike (.relationship type direction related) (.relationship type direction related')
  | notEmpty : Alike .notEmpty .notEmpty
  | empty : Alike .empty .empty

namespace Predicate

mutual

/-- Predicates that are equal except for values of the same classes. -/
inductive Alike : Predicate → Predicate → Prop where
  | leaf (a : Attributes) {c d : Condition} (h : c.Alike d) : Alike (.leaf a c) (.leaf a d)
  | group (a : Attributes) (combinator : Combinator) {ps ps' : List Predicate}
      (h : AllAlike ps ps') : Alike (.group a combinator ps) (.group a combinator ps')

/-- As many predicates, alike one by one. -/
inductive AllAlike : List Predicate → List Predicate → Prop where
  | nil : AllAlike [] []
  | cons {p p' : Predicate} {ps ps' : List Predicate} (h : Alike p p') (hs : AllAlike ps ps') :
      AllAlike (p :: ps) (p' :: ps')

end

end Predicate

/-! ### Masked clauses -/

/-- The value that stands for all others; a null stays, because it is not bound. -/
def Value.masked (v : Value) : Value :=
  if v.isNull then .null else .boolean false

theorem Value.AlikeInNull.masked_eq {v w : Value} (h : v.AlikeInNull w) :
    v.masked = w.masked := by
  rw [Value.masked, Value.masked, h]

theorem Value.isNull_masked (v : Value) : v.masked.isNull = v.isNull := by
  cases v <;> rfl

def DraftPart.masked : DraftPart → DraftPart
  | text s => text s
  | value key _ => value key (.boolean false)

def Draft.masked : Draft → Draft
  | nullTest key operator => nullTest key operator
  | comparison key operator value ignoreCase => comparison key operator value.masked ignoreCase
  | composite parts => composite (parts.map DraftPart.masked)

def Lexeme.masked : Lexeme → Lexeme
  | clause draft => clause draft.masked
  | l => l

theorem Value.AlikeInNull.stored {v w : Value} (h : v.AlikeInNull w) :
    v.stored.AlikeInNull w.stored := by
  rw [AlikeInNull, isNull_stored, isNull_stored]
  exact h

theorem Draft.masked_equals (key : String) {v w : Value} (h : v.AlikeInNull w) :
    (equals key v).masked = (equals key w).masked := by
  rw [equals, equals, masked, masked, h.masked_eq]

theorem Draft.masked_ofComparison_of_isNullTest {key : String} {operation : Comparison}
    (h : operation.isNullTest = true) (v w : Value) :
    (ofComparison key operation v).masked = (ofComparison key operation w).masked := by
  cases operation with
  | isNull | isNotNull => rfl
  | _ => exact absurd h (by decide)

theorem Draft.masked_ofComparison (key : String) (operation : Comparison) {v w : Value}
    (h : v.AlikeInNull w) :
    (ofComparison key operation v).masked = (ofComparison key operation w).masked := by
  cases operation with
  | isNull | isNotNull | startsWithAnyCase | endsWithAnyCase | containsAnyCase => rfl
  | _ =>
      dsimp only [ofComparison, masked]
      rw [h.masked_eq]

theorem Draft.masked_ofRange? {key : String} {low low' high high' : Value}
    (hlow : low.AlikeInNull low') (hhigh : high.AlikeInNull high')
    (includeLow includeHigh : Bool) :
    (ofRange? key low high includeLow includeHigh).map masked =
      (ofRange? key low' high' includeLow includeHigh).map masked := by
  rw [ofRange?, ofRange?, hlow, hhigh]
  cases low'.isNull <;> cases high'.isNull <;> rfl

theorem Draft.masked_holds {key : String} {v w : Value} (h : v.AlikeInList w) :
    (holds key v).masked = (holds key w).masked := by
  obtain ⟨hnull, hlist⟩ := h
  cases v with
  | null =>
      cases w with
      | null => rfl
      | _ => exact absurd hnull (by simp [Value.isNull])
  | list items =>
      cases w with
      | list items' => rfl
      | _ => exact absurd hlist (by simp [Value.isList])
  | _ =>
      cases w with
      | null => exact absurd hnull (by simp [Value.isNull])
      | list items' => exact absurd hlist (by simp [Value.isList])
      | _ => rfl

theorem Draft.masked_isRelated (type : String) (direction : Direction)
    {related related' : Option String} (h : related.isSome = related'.isSome) :
    (isRelated type direction related).masked = (isRelated type direction related').masked := by
  cases related with
  | none =>
      cases related' with
      | none => rfl
      | some id' => exact absurd h (by simp)
  | some id =>
      cases related' with
      | none => exact absurd h (by simp)
      | some id' => rfl

theorem ClauseBuilder.masked_fulltext (kind : EntityKind) (name : String) {v w : Value}
    (h : v.AlikeInText w) :
    (keyword.draft? kind (some name) (.fulltext v)).map Draft.masked =
      (keyword.draft? kind (some name) (.fulltext w)).map Draft.masked := by
  obtain ⟨hnull, htext⟩ := h
  cases v with
  | null =>
      cases w with
      | null => rfl
      | _ => exact absurd hnull (by simp [Value.isNull])
  | string text =>
      cases w with
      | string text' => rfl
      | _ => exact absurd htext (by simp [Value.string?])
  | _ =>
      cases w with
      | null => exact absurd hnull (by simp [Value.isNull])
      | string text' => exact absurd htext (by simp [Value.string?])
      | _ => rfl

theorem Condition.Alike.kind_eq {c d : Condition} (h : c.Alike d) : c.kind = d.kind := by
  cases h <;> rfl

/-- What a builder makes of a condition depends on the values only in their classes. -/
theorem Condition.Alike.masked_draft? {c d : Condition} (h : c.Alike d) (t : ClauseBuilder)
    (kind : EntityKind) (name? : Option String) :
    (t.draft? kind name? c).map Draft.masked = (t.draft? kind name? d).map Draft.masked := by
  by_cases ht : Registry.standard c.kind = some t
  · cases h with
    | nullTest htest v w =>
        obtain rfl := Option.some.inj ht
        cases name? with
        | none => rfl
        | some name =>
            simp only [ClauseBuilder.draft?, htest, Bool.not_true, Bool.and_false,
              Bool.false_eq_true, if_false, Option.map_some]
            rw [Draft.masked_ofComparison_of_isNullTest htest]
    | comparison operation hvalue =>
        obtain rfl := Option.some.inj ht
        cases name? with
        | none => rfl
        | some name =>
            have hnull := hvalue.stored
            have hdraft := Draft.masked_ofComparison name operation hnull
            rw [Value.AlikeInNull] at hnull
            simp only [ClauseBuilder.draft?, hnull]
            split
            · rfl
            · exact congrArg some hdraft
    | range hlow hhigh includeLow includeHigh =>
        obtain rfl := Option.some.inj ht
        cases name? with
        | none => rfl
        | some name => exact Draft.masked_ofRange? hlow hhigh includeLow includeHigh
    | fulltext hvalue =>
        obtain rfl := Option.some.inj ht
        cases name? with
        | none => rfl
        | some name => exact ClauseBuilder.masked_fulltext kind name hvalue
    | @exact v w hvalue =>
        obtain rfl := Option.some.inj ht
        cases name? with
        | none => rfl
        | some name =>
            have hdraft := Draft.masked_equals name hvalue
            rw [Value.AlikeInNull] at hvalue
            simp only [ClauseBuilder.draft?, hvalue]
            split
            · rfl
            · exact congrArg some hdraft
    | spatial hfinite =>
        obtain rfl := Option.some.inj ht
        simp only [isFinitePlace] at hfinite
        simp only [ClauseBuilder.draft?, hfinite]
        split <;> rfl
    | array hvalue =>
        obtain rfl := Option.some.inj ht
        cases name? with
        | none => rfl
        | some name => exact congrArg some (Draft.masked_holds hvalue)
    | relationship type direction hrelated =>
        obtain rfl := Option.some.inj ht
        simp only [ClauseBuilder.draft?]
        split
        · rfl
        · exact congrArg some (Draft.masked_isRelated type direction hrelated)
    | type | uuid =>
        obtain rfl := Option.some.inj ht
        rfl
    | notEmpty | empty => rfl
  · rw [ClauseBuilder.draft?_eq_none_of_ne kind name? ht,
      ClauseBuilder.draft?_eq_none_of_ne kind name? (h.kind_eq ▸ ht)]

/-! ### Masked items -/

namespace Item

mutual

def masked : Item → Item
  | .clause o draft => .clause o draft.masked
  | .group o combinator members => .group o combinator (maskedAll members)

def maskedAll : List Item → List Item
  | [] => []
  | item :: rest => item.masked :: maskedAll rest

end

theorem masked_occurrence_lexemes (o : Occurrence) (combinator : Combinator) (isFirst : Bool) :
    (o.lexemes combinator isFirst).map Lexeme.masked = o.lexemes combinator isFirst := by
  cases o <;> cases combinator <;> cases isFirst <;> rfl

mutual

theorem lexemes_masked (combinator : Combinator) (isFirst : Bool) :
    ∀ item : Item,
      item.masked.lexemes combinator isFirst =
        (item.lexemes combinator isFirst).map Lexeme.masked
  | .clause o draft => by
      rw [masked, lexemes, lexemes, List.map_append, masked_occurrence_lexemes]
      rfl
  | .group o inner members => by
      rw [masked, lexemes, lexemes, List.map_append, List.map_append, masked_occurrence_lexemes,
        lexemesOfAll_maskedAll inner true members]
      rfl

theorem lexemesOfAll_maskedAll (combinator : Combinator) (isFirst : Bool) :
    ∀ items : List Item,
      lexemesOfAll combinator isFirst (maskedAll items) =
        (lexemesOfAll combinator isFirst items).map Lexeme.masked
  | [] => rfl
  | item :: rest => by
      rw [maskedAll, lexemesOfAll, lexemesOfAll, List.map_append,
        lexemes_masked combinator isFirst item, lexemesOfAll_maskedAll combinator false rest]

end

/-- Masking leaves as many members, so it does not change whether a group has any. -/
theorem masked_group? (o : Occurrence) (combinator : Combinator) {members members' : List Item}
    (h : maskedAll members = maskedAll members') :
    (match members with
      | [] => none
      | members => some (group o combinator members)).map masked =
    (match members' with
      | [] => none
      | members' => some (group o combinator members')).map masked := by
  cases members with
  | nil =>
      cases members' with
      | nil => rfl
      | cons item' rest' => exact absurd h (List.cons_ne_nil _ _).symm
  | cons item rest =>
      cases members' with
      | nil => exact absurd h (List.cons_ne_nil _ _)
      | cons item' rest' => exact congrArg (fun ms => some (group o combinator ms)) h

end Item

namespace Predicate

variable (r : Registry) (kind : EntityKind)

theorem Alike.kind_eq {p p' : Predicate} (h : p.Alike p') : p.kind = p'.kind := by
  cases h with
  | leaf a h => exact h.kind_eq
  | group a combinator h => rfl

theorem Alike.sort?_eq {p p' : Predicate} (h : p.Alike p') : p.sort? = p'.sort? := by
  cases h <;> rfl

mutual

/-- What a predicate comes to depends on its values only in their classes. -/
theorem Alike.masked_item? :
    ∀ {p p' : Predicate}, p.Alike p' →
      (r.item? kind p).map Item.masked = (r.item? kind p').map Item.masked
  | .leaf a c, p', h => by
      cases h with
      | @leaf a c d h =>
        change ((r c.kind).bind fun t => r.itemBy kind t (.leaf a c)).map Item.masked =
          ((r d.kind).bind fun t => r.itemBy kind t (.leaf a d)).map Item.masked
        rw [h.kind_eq]
        cases r d.kind with
        | none => rfl
        | some t =>
            have hdraft := congrArg (Option.map (Item.clause a.occurrence))
              (h.masked_draft? t kind a.name)
            rw [Option.map_map, Option.map_map] at hdraft
            rw [Option.bind_some, Option.bind_some, Registry.itemBy, Registry.itemBy,
              Option.map_map, Option.map_map]
            exact hdraft
  | .group a combinator ps, p', h => by
      cases h with
      | @group a combinator ps ps' h =>
        have hmembers := AllAlike.maskedAll_itemsOf h
        change ((r .group).bind fun t => r.itemBy kind t (.group a combinator ps)).map Item.masked =
          ((r .group).bind fun t => r.itemBy kind t (.group a combinator ps')).map Item.masked
        cases r .group with
        | none => rfl
        | some t =>
            rw [Option.bind_some, Option.bind_some, Registry.itemBy, Registry.itemBy]
            split
            · exact Item.masked_group? a.occurrence combinator hmembers
            · rfl

theorem AllAlike.maskedAll_itemsOf :
    ∀ {ps ps' : List Predicate}, AllAlike ps ps' →
      Item.maskedAll (r.itemsOf kind ps) = Item.maskedAll (r.itemsOf kind ps')
  | [], ps', h => by
      cases h
      rfl
  | p :: ps, ps', h => by
      cases h with
      | @cons p p' ps ps' h hs =>
        have hfirst := Alike.masked_item? h
        have hrest := AllAlike.maskedAll_itemsOf hs
        rw [Registry.item?, Registry.item?] at hfirst
        rw [Registry.itemsOf, Registry.itemsOf]
        cases hp : (r p.kind).bind fun t => r.itemBy kind t p with
        | none =>
            rw [hp] at hfirst
            rw [Option.map_eq_none_iff.mp hfirst.symm]
            exact hrest
        | some item =>
            rw [hp] at hfirst
            obtain ⟨item', hp', hitem⟩ := Option.map_eq_some_iff.mp hfirst.symm
            rw [hp']
            exact congrArg₂ List.cons hitem.symm hrest

end

theorem Alike.masked_lexemes {p p' : Predicate} (h : p.Alike p') :
    (r.lexemes kind p).map Lexeme.masked = (r.lexemes kind p').map Lexeme.masked := by
  have hitem := h.masked_item? r kind
  rw [Registry.lexemes, Registry.lexemes]
  cases hp : r.item? kind p with
  | none =>
      rw [hp] at hitem
      rw [Option.map_eq_none_iff.mp hitem.symm]
  | some item =>
      rw [hp] at hitem
      obtain ⟨item', hp', hmasked⟩ := Option.map_eq_some_iff.mp hitem.symm
      rw [hp']
      dsimp only
      rw [← Item.lexemes_masked, ← Item.lexemes_masked, hmasked]

end Predicate

/-! ### Masked queries -/

def Binding.masked (b : Binding) : Binding :=
  { b with value := .boolean false }

namespace Query

/-- The query with one value in the place of all that are bound. -/
def masked (q : Query) : Query :=
  { q with bindings := q.bindings.map Binding.masked }

theorem masked_extend (q : Query) (fs : List Fragment) (bs : List Binding) :
    (q.extend fs bs).masked = q.masked.extend fs (bs.map Binding.masked) := by
  simp [masked, extend]

theorem nextBinding_masked (q : Query) (key : String) (v : Value) :
    q.masked.nextBinding key (.boolean false) = (q.nextBinding key v).masked := by
  have hcount : q.masked.boundCount (Identifier.parameterBase key) =
      q.boundCount (Identifier.parameterBase key) := List.countP_map
  rw [nextBinding, hcount]
  rfl

theorem freshName_masked (q : Query) (key : String) : q.masked.freshName key = q.freshName key := by
  have hname := congrArg Binding.name (q.nextBinding_masked key .null)
  exact hname

theorem bind_masked (q : Query) (key : String) (v : Value) :
    q.masked.bind key (.boolean false) = (q.bind key v).masked := by
  rw [bind_eq_extend, bind_eq_extend, masked_extend, nextBinding_masked q key v]
  rfl

theorem bindParts_masked (q : Query) (parts : List DraftPart) :
    q.masked.bindParts (parts.map DraftPart.masked) =
      ((q.bindParts parts).1.masked, (q.bindParts parts).2) := by
  induction parts generalizing q with
  | nil => rfl
  | cons part rest ih =>
      cases part with
      | text s => rw [List.map_cons, DraftPart.masked, bindParts, bindParts, ih q]
      | value key v =>
          rw [List.map_cons, DraftPart.masked, bindParts, bindParts, q.bind_masked key v,
            ih (q.bind key v), freshName_masked]

theorem addClause_masked (q : Query) (key operator : String) (v : Value)
    (ignoreCase isProperty : Bool) :
    q.masked.addClause key operator v.masked ignoreCase isProperty =
      (q.addClause key operator v ignoreCase isProperty).masked := by
  rw [addClause, addClause, Value.isNull_masked, Value.masked]
  split
  · rfl
  · rw [bind_masked q key v, freshName_masked]
    rfl

/-- What a lexeme adds depends on its values only in what they are bound to. -/
theorem write_masked (q : Query) (l : Lexeme) :
    q.masked.write l.masked = (q.write l).masked := by
  cases l with
  | clause draft =>
      cases draft with
      | nullTest key operator => rfl
      | comparison key operator v ignoreCase =>
          exact q.addClause_masked key operator v ignoreCase true
      | composite parts =>
          change addComposite (q.masked.bindParts (parts.map DraftPart.masked)).1
            (q.masked.bindParts (parts.map DraftPart.masked)).2 = _
          rw [bindParts_masked]
          rfl
  | _ => rfl

theorem writeAll_masked (q : Query) (ls : List Lexeme) :
    q.masked.writeAll (ls.map Lexeme.masked) = (q.writeAll ls).masked := by
  induction ls generalizing q with
  | nil => rfl
  | cons l ls ih => rw [List.map_cons, writeAll_cons, writeAll_cons, write_masked, ih]

end Query

/-! ### Masked parameters -/

namespace Dictionary

variable {α β : Type} (f : α → β)

theorem insert_map (key : String) (value : α) (d : Dictionary α) :
    insert key (f value) (d.map (Prod.map id f)) = (d.insert key value).map (Prod.map id f) := by
  induction d with
  | nil => rfl
  | cons entry rest ih =>
      obtain ⟨k, v⟩ := entry
      rw [List.map_cons, Prod.map_apply, id_eq, insert, insert, ih]
      split
      · rfl
      · split <;> rfl

theorem ofEntries_map (entries : List (String × α)) :
    ofEntries (entries.map (Prod.map id f)) = (ofEntries entries).map (Prod.map id f) := by
  induction entries using List.reverseRecOn with
  | nil => rfl
  | append_singleton entries entry ih =>
      rw [List.map_append, List.map_singleton, ofEntries_concat, ofEntries_concat, ih,
        ← insert_map]
      rfl

end Dictionary

namespace Query

theorem parameters_masked (q : Query) :
    q.masked.parameters = q.parameters.map (Prod.map id fun _ => .boolean false) := by
  rw [parameters, parameters, ← Dictionary.ofEntries_map, List.map_map]
  exact congrArg Dictionary.ofEntries List.map_map

theorem parameterNames_masked (q : Query) :
    q.masked.parameters.map Prod.fst = q.parameters.map Prod.fst := by
  rw [parameters_masked, List.map_map]
  rfl

theorem bindingNames_masked (q : Query) :
    q.masked.bindings.map Binding.name = q.bindings.map Binding.name :=
  List.map_map

/-- Queries that are the same when masked are the same but for the values of their bindings. -/
theorem eq_of_masked_eq {q q' : Query} (h : q.masked = q'.masked) :
    q' = { q with bindings := q'.bindings } := by
  obtain ⟨kind, labels, paging, fragments, bindings, groups, sort⟩ := q
  obtain ⟨kind', labels', paging', fragments', bindings', groups', sort'⟩ := q'
  simp only [masked, mk.injEq] at h
  obtain ⟨rfl, rfl, rfl, rfl, -, rfl, rfl⟩ := h
  rfl

end Query

theorem Predicate.Alike.masked_build {p p' : Predicate} (h : p.Alike p') (ix : Index)
    (context : SearchContext) : (ix.build context p).masked = (ix.build context p').masked := by
  rw [Index.build_eq_writeAll, Index.build_eq_writeAll, ← Query.writeAll_masked,
    ← Query.writeAll_masked, h.masked_lexemes, h.sort?_eq]

/-- The statements of a search do not depend on the values that it compares with, and neither do the
names of its parameters: in the queries of predicates that differ only in values of the same
classes, nothing differs but the values under these names. -/
theorem statements_ignore_values (ix : Index) (context : SearchContext) {p p' : Predicate}
    (h : p.Alike p') :
    let q := ix.build context p
    let q' := ix.build context p'
    q'.countStatement = q.countStatement ∧
      (∀ sorted, q'.fetchStatement sorted = q.fetchStatement sorted) ∧
      q'.parameters.map Prod.fst = q.parameters.map Prod.fst ∧
      q'.bindings.map Binding.name = q.bindings.map Binding.name ∧
      q' = { q with bindings := q'.bindings } := by
  intro q q'
  have hmasked : q.masked = q'.masked := h.masked_build ix context
  have hquery := Query.eq_of_masked_eq hmasked
  refine ⟨?_, ?_, ?_, ?_, hquery⟩
  · rw [hquery]
    rfl
  · intro sorted
    rw [hquery]
    rfl
  · rw [← Query.parameterNames_masked q', ← hmasked, Query.parameterNames_masked]
  · rw [← Query.bindingNames_masked q', ← hmasked, Query.bindingNames_masked]

/-- People of an age with a tag, whose notes hold a text that looks like a statement. -/
def harmlessNotes : Predicate :=
  .allOf [.comparison "age" .greaterOrEqual (.integer 30), .exact "nick" .null,
    (Predicate.fulltext "notes" (.string "tea")).should, .array "tags" (.list [.string "a"])]

def hostileNotes : Predicate :=
  .allOf [.comparison "age" .greaterOrEqual (.string "30 OR 1 = 1"), .exact "nick" .null,
    (Predicate.fulltext "notes" (.string "` \x7d) RETURN 1 //")).should,
    .array "tags" (.list [.list [], .null])]

theorem alike_harmlessNotes : harmlessNotes.Alike hostileNotes :=
  .group _ _ (.cons (.leaf _ (.comparison _ rfl)) (.cons (.leaf _ (.exact rfl))
    (.cons (.leaf _ (.fulltext ⟨rfl, rfl⟩)) (.cons (.leaf _ (.array ⟨rfl, rfl⟩)) .nil))))

theorem statements_ignore_values_hostileNotes :
    let ix : Index := { kind := .node }
    harmlessNotes.Alike hostileNotes ∧
      (ix.build {} hostileNotes).countStatement = (ix.build {} harmlessNotes).countStatement ∧
      (ix.build {} hostileNotes).parameters.map Prod.fst =
        ["age_param", "notes_param", "tags_param"] := by
  intro ix
  obtain ⟨hcount, -, hnames, -, -⟩ := statements_ignore_values ix {} alike_harmlessNotes
  exact ⟨alike_harmlessNotes, hcount, hnames.trans (by decide +kernel)⟩

end GraphSearch

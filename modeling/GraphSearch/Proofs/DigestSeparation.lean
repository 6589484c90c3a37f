import GraphSearch.Proofs.LexemeDigest
import GraphSearch.Proofs.ParameterNames

/-!
The digest separates queries that may have different counts.

What is counted depends on the kind, the labels, the condition and the parameters of a query. All of
it can be read off the bytes that the digest is taken of, although a composite clause gives its parts
without a length: the clauses of predicates have only a few forms, and their first parts differ.
-/

namespace GraphSearch

open Encoding

/-- The values of a condition are short enough for a digest. -/
def Condition.Sized : Condition → Prop
  | comparison _ value => value.Sized
  | range low high _ _ => low.Sized ∧ high.Sized
  | fulltext value => value.Sized
  | exact value => value.Sized
  | array value => value.Sized
  | _ => True

namespace Predicate

mutual

/-- No list in a predicate has more items than a machine word counts. -/
def Sized : Predicate → Prop
  | leaf _ condition => condition.Sized
  | group _ _ children => AllSized children

/-- `Sized` for all members of a group. -/
def AllSized : List Predicate → Prop
  | [] => True
  | child :: rest => child.Sized ∧ AllSized rest

end

end Predicate

section Regularity

theorem regular_ofComparison {value : Value} (h : value.stored.Plain) (key : String)
    (operation : Comparison) : (Draft.ofComparison key operation value).Regular := by
  cases operation with
  | isNull | isNotNull => trivial
  | startsWithAnyCase | endsWithAnyCase | containsAnyCase => trivial
  | _ => exact h

theorem sized_bound {value : Value} (h : value.Sized) (key operator : String) :
    ∀ part ∈ Draft.bound key operator value, part.Sized := by
  simp only [Draft.bound, List.forall_mem_cons]
  exact ⟨trivial, Value.plain_stored value h, by simp⟩

theorem regular_ofRange? {key : String} {low high : Value} {includeLow includeHigh : Bool}
    {draft : Draft} (hlow : low.Sized) (hhigh : high.Sized)
    (h : Draft.ofRange? key low high includeLow includeHigh = some draft) : draft.Regular := by
  have hsizedLow := fun operator => sized_bound hlow key operator
  have hsizedHigh := fun operator => sized_bound hhigh key operator
  rw [Draft.ofRange?] at h
  split at h
  · exact absurd h (by simp)
  · obtain rfl := Option.some.inj h
    exact ⟨.bound, .bound _ _ _, hsizedLow _⟩
  · obtain rfl := Option.some.inj h
    exact ⟨.bound, .bound _ _ _, hsizedHigh _⟩
  · obtain rfl := Option.some.inj h
    refine ⟨.between, .between _ _ _ _ _, ?_⟩
    simp only [List.forall_mem_append, List.forall_mem_cons]
    exact ⟨⟨⟨⟨⟨trivial, by simp⟩, hsizedLow _⟩, trivial, by simp⟩, hsizedHigh _⟩, trivial, by simp⟩

theorem regular_holds {value : Value} (h : value.Sized) (key : String) :
    (Draft.holds key value).Regular := by
  have hplain := Value.plain_stored value h
  have hitem (hlist : ∀ items, value ≠ .list items)
      (hholds : Draft.holds key value =
        .composite [.value key value, .text (" IN " ++ Identifier.property key)]) :
      (Draft.holds key value).Regular := by
    rw [hholds]
    refine ⟨.holds, .holds key value hlist hholds, ?_⟩
    simp only [List.forall_mem_cons]
    exact ⟨hplain, trivial, by simp⟩
  cases value with
  | null => trivial
  | list items =>
      refine ⟨.holdsAll, .holdsAll key items rfl, ?_⟩
      simp only [List.forall_mem_cons]
      exact ⟨trivial, hplain, trivial, by simp⟩
  | _ => exact hitem (fun _ => Value.noConfusion) rfl

theorem regular_isRelated (type : String) (direction : Direction) (related : Option String) :
    (Draft.isRelated type direction related).Regular := by
  cases related with
  | none =>
      refine ⟨.related, .related type direction rfl, ?_⟩
      simp only [List.forall_mem_cons]
      exact ⟨trivial, by simp⟩
  | some uuid =>
      refine ⟨.relatedTo, .relatedTo type direction uuid rfl, ?_⟩
      simp only [List.forall_mem_cons]
      exact ⟨trivial, trivial, trivial, by simp⟩

theorem regular_within (latitude longitude distance : Binary64) :
    (Draft.within latitude longitude distance).Regular := by
  refine ⟨.within, .within latitude longitude distance rfl, ?_⟩
  simp only [List.forall_mem_cons]
  exact ⟨trivial, trivial, trivial, trivial, trivial, trivial, by simp⟩

theorem ClauseBuilder.regular_of_draft? {t : ClauseBuilder} {kind : EntityKind}
    {name? : Option String} {condition : Condition} {draft : Draft} (hsized : condition.Sized)
    (h : t.draft? kind name? condition = some draft) : draft.Regular := by
  unfold ClauseBuilder.draft? at h
  split at h
  · split at h
    · exact absurd h (by simp)
    · obtain rfl := Option.some.inj h
      apply regular_ofComparison
      rw [Value.stored_stored]
      exact Value.plain_stored _ hsized
  · exact regular_ofRange? hsized.1 hsized.2 h
  · obtain rfl := Option.some.inj h
    split
    · trivial
    · exact Value.plain_stored _ hsized
  · obtain rfl := Option.some.inj h
    split
    · trivial
    · trivial
    · exact Value.plain_stored _ hsized
  · obtain rfl := Option.some.inj h
    exact regular_holds hsized _
  · obtain rfl := Option.some.inj h
    trivial
  · obtain rfl := Option.some.inj h
    trivial
  · obtain rfl := Option.some.inj h
    trivial
  · obtain rfl := Option.some.inj h
    trivial
  · split at h
    · obtain rfl := Option.some.inj h
      exact regular_within _ _ _
    · exact absurd h (by simp)
  · split at h
    · exact absurd h (by simp)
    · obtain rfl := Option.some.inj h
      exact regular_isRelated _ _ _
  · exact absurd h (by simp)

theorem regular_occurrence_lexemes (o : Occurrence) (combinator : Combinator) (isFirst : Bool) :
    ∀ l ∈ o.lexemes combinator isFirst, l.Regular := by
  cases o <;> cases combinator <;> cases isFirst <;>
    simp [Occurrence.lexemes, Combinator.lexeme, Lexeme.Regular]

mutual

theorem regular_of_itemBy (r : Registry) (kind : EntityKind) (t : ClauseBuilder) :
    ∀ (p : Predicate) (item : Item), p.Sized → r.itemBy kind t p = some item →
      ∀ combinator isFirst, ∀ l ∈ item.lexemes combinator isFirst, l.Regular
  | .leaf a condition, item, hsized, h => by
      intro combinator isFirst l hl
      rw [Registry.itemBy, Option.map_eq_some_iff] at h
      obtain ⟨draft, hdraft, rfl⟩ := h
      rw [Item.lexemes] at hl
      rcases List.mem_append.mp hl with hl | hl
      · exact regular_occurrence_lexemes _ _ _ l hl
      · rw [List.mem_singleton.mp hl]
        exact ClauseBuilder.regular_of_draft? hsized hdraft
  | .group a inner children, item, hsized, h => by
      intro combinator isFirst l hl
      rw [Registry.itemBy] at h
      have hmembers := regular_of_itemsOf r kind children hsized
      split at h
      · cases hitems : r.itemsOf kind children with
        | nil => simp [hitems] at h
        | cons first rest =>
            rw [hitems] at h hmembers
            obtain rfl := Option.some.inj h
            rw [Item.lexemes, List.mem_append, List.mem_append, List.mem_cons,
              List.mem_singleton] at hl
            rcases hl with (hl | rfl | hl) | rfl
            · exact regular_occurrence_lexemes _ _ _ l hl
            · trivial
            · exact hmembers inner true l hl
            · trivial
      · exact absurd h (by simp)

theorem regular_of_itemsOf (r : Registry) (kind : EntityKind) :
    ∀ ps : List Predicate, Predicate.AllSized ps →
      ∀ combinator isFirst, ∀ l ∈ Item.lexemesOfAll combinator isFirst (r.itemsOf kind ps),
        l.Regular
  | [], _ => by simp [Registry.itemsOf, Item.lexemesOfAll]
  | child :: rest, hsized => by
      intro combinator isFirst l hl
      rw [Registry.itemsOf] at hl
      split at hl
      · next item hitem =>
          obtain ⟨t, -, hitemBy⟩ := Option.bind_eq_some_iff.mp hitem
          rw [Item.lexemesOfAll, List.mem_append] at hl
          rcases hl with hl | hl
          · exact regular_of_itemBy r kind t child item hsized.1 hitemBy _ _ l hl
          · exact regular_of_itemsOf r kind rest hsized.2 _ _ l hl
      · exact regular_of_itemsOf r kind rest hsized.2 _ _ l hl

end

end Regularity

namespace Index

theorem exists_build_eq_writeAll (ix : Index) (context : SearchContext) {p : Predicate}
    (hsized : p.Sized) :
    ∃ ls : List Lexeme, (∀ l ∈ ls, l.Regular) ∧
      ix.build context p = (ix.start context p.sort?).writeAll ls := by
  refine ⟨ix.registry.lexemes ix.kind p, ?_, ix.build_eq_writeAll context p⟩
  rw [Registry.lexemes]
  cases hitem : ix.registry.item? ix.kind p with
  | none => simp
  | some item =>
      obtain ⟨t, -, hitemBy⟩ := Option.bind_eq_some_iff.mp hitem
      exact regular_of_itemBy ix.registry _ t p item hsized hitemBy _ _

variable (ix : Index) (context : SearchContext) (sort : Option SortOrder)

theorem digestInput_start_writeAll (ls : List Lexeme) :
    ((ix.start context sort).writeAll ls).digestInput =
      ix.kind.digestInput ++ optional Encoding.text context.labels.type ++
        optional Encoding.text context.labels.source ++
        optional Encoding.text context.labels.target ++ ls.flatMap Lexeme.digestInput := by
  have hnumbered : Numbered ((ix.start context sort).writeAll ls).bindings :=
    Query.numbered_writeAll Numbered.nil ls
  have hcondition := digestInput_writeAll (ix.start context sort) ls
    fun b hb => Query.parameters_get?_of_mem hnumbered hb
  rw [Query.digestInput, Query.writeAll_kind, Query.writeAll_labels, hcondition]
  rfl

end Index

theorem kind_append_inj {kind kind' : EntityKind} {r r' : List UInt8}
    (h : kind.digestInput ++ r = kind'.digestInput ++ r') : kind = kind' ∧ r = r' := by
  cases kind with
  | node =>
      cases kind' with
      | node => exact ⟨rfl, List.append_cancel_left h⟩
      | relationship => exact absurd (tag_append_inj (by decide) (by decide) h).1 (by decide)
  | relationship =>
      cases kind' with
      | node => exact absurd (tag_append_inj (by decide) (by decide) h).1 (by decide)
      | relationship => exact ⟨rfl, List.append_cancel_left h⟩

/-- Two queries agree in all that a count depends on. -/
structure Query.CountedAlike (q q' : Query) : Prop where
  kind : q.kind = q'.kind
  labels : q.labels = q'.labels
  fragments : q.fragments = q'.fragments
  bindings : q.bindings = q'.bindings

namespace Query.CountedAlike

variable {q q' : Query} (h : q.CountedAlike q')

include h

theorem countStatement_eq : q.countStatement = q'.countStatement := by
  rw [countStatement, countStatement, matchText, matchText, whereText, whereText, h.kind,
    h.labels, h.fragments]

theorem parameters_eq : q.parameters = q'.parameters := by
  rw [parameters, parameters, h.bindings]

end Query.CountedAlike

theorem countedAlike_start_writeAll {ix ix' : Index} {context context' : SearchContext}
    (hkind : ix.kind = ix'.kind) (hlabels : context.labels = context'.labels)
    (sort sort' : Option SortOrder) (ls : List Lexeme) :
    ((ix.start context sort).writeAll ls).CountedAlike
      ((ix'.start context' sort').writeAll ls) := by
  obtain ⟨fs, bs, hextend⟩ := Query.exists_writeAll_eq_extend (ix.start context sort) ls
  rw [hextend _ rfl, hextend (ix'.start context' sort') rfl]
  exact ⟨hkind, hlabels, rfl, rfl⟩

theorem countedAlike_build (ix ix' : Index) (context context' : SearchContext) {p p' : Predicate}
    (hp : p.Sized) (hp' : p'.Sized)
    (h : (ix.build context p).digestInput = (ix'.build context' p').digestInput) :
    (ix.build context p).CountedAlike (ix'.build context' p') := by
  obtain ⟨ls, hregular, hbuild⟩ := ix.exists_build_eq_writeAll context hp
  obtain ⟨ls', hregular', hbuild'⟩ := ix'.exists_build_eq_writeAll context' hp'
  rw [hbuild, hbuild', Index.digestInput_start_writeAll, Index.digestInput_start_writeAll] at h
  simp only [List.append_assoc] at h
  obtain ⟨hkind, hafterKind⟩ := kind_append_inj h
  obtain ⟨htype, hafterType⟩ := optional_text_append_inj hafterKind
  obtain ⟨hsource, hafterSource⟩ := optional_text_append_inj hafterType
  obtain ⟨htarget, hcondition⟩ := optional_text_append_inj hafterSource
  have hlabels : context.labels = context'.labels := by
    rw [Labels.mk.injEq]
    exact ⟨htype, hsource, htarget⟩
  rw [hbuild, hbuild', ← writeAll_stored _ ls',
    ← stored_eq_of_digestInput_eq hregular hregular' hcondition, writeAll_stored]
  exact countedAlike_start_writeAll hkind hlabels _ _ ls

/-- Queries with equal bytes match the same entities: they have the same kind, labels, condition and
parameters, and so the same statement to count with. -/
theorem digestInput_separates_queries (ix ix' : Index) (context context' : SearchContext)
    (p p' : Predicate) (hp : p.Sized) (hp' : p'.Sized)
    (h : (ix.build context p).digestInput = (ix'.build context' p').digestInput) :
    (ix.build context p).kind = (ix'.build context' p').kind ∧
      (ix.build context p).labels = (ix'.build context' p').labels ∧
      (ix.build context p).fragments = (ix'.build context' p').fragments ∧
      (ix.build context p).countStatement = (ix'.build context' p').countStatement ∧
      (ix.build context p).parameters = (ix'.build context' p').parameters := by
  have halike := countedAlike_build ix ix' context context' hp hp' h
  exact ⟨halike.kind, halike.labels, halike.fragments, halike.countStatement_eq,
    halike.parameters_eq⟩

/-- A search for an age and a size. -/
def ageAndSize : Predicate :=
  .allOf [.exact "age" (.integer 3), .range "size" (.integer 1) .null]

/-- The same search in other words, with a group that comes to nothing. -/
def ageAndSizeReworded : Predicate :=
  .allOf [.comparison "age" .equal (.integer 3), .anyOf [], .range "size" (.integer 1) .null]

theorem digestInput_separates_queries_reworded :
    ageAndSize.Sized ∧ ageAndSizeReworded.Sized ∧
      (Index.build { kind := .node } {} ageAndSize).digestInput =
        (Index.build { kind := .node } { limit := some 5, offset := 2 }
          ageAndSizeReworded).digestInput ∧
      (Index.build { kind := .node } {} ageAndSize).parameters =
        (Index.build { kind := .node } { limit := some 5, offset := 2 }
          ageAndSizeReworded).parameters := by
  have hsized : ageAndSize.Sized := ⟨trivial, ⟨trivial, trivial⟩, trivial⟩
  have hsized' : ageAndSizeReworded.Sized := ⟨trivial, trivial, ⟨trivial, trivial⟩, trivial⟩
  have hdigest : (Index.build { kind := .node } {} ageAndSize).digestInput =
      (Index.build { kind := .node } { limit := some 5, offset := 2 }
        ageAndSizeReworded).digestInput := by rfl
  obtain ⟨-, -, -, -, hparameters⟩ :=
    digestInput_separates_queries _ _ _ _ _ _ hsized hsized' hdigest
  exact ⟨hsized, hsized', hdigest, hparameters⟩

end GraphSearch

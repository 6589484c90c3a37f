import GraphSearch.Proofs.Encoding
import GraphSearch.Proofs.Translation
import Mathlib.Data.List.Forall2

/-!
The leaves of a predicate that leave a clause.

Which leaves do is said here without the clauses: the registry must serve the kind with the builder
that is made for it, and the condition must have what a clause of its kind needs. Main statement: the
clauses among the lexemes of a predicate are those of these leaves, in the order of the tree.
-/

namespace GraphSearch

/-- Whether a condition on the property `name?` has what a clause needs. A relationship has no
relationships of its own. -/
def Condition.isExpressible (kind : EntityKind) (name? : Option String) : Condition → Bool
  | comparison operation value => name?.isSome && (operation.isNullTest || !value.isNull)
  | range low high _ _ => name?.isSome && !(low.isNull && high.isNull)
  | fulltext _ | exact _ | array _ | notEmpty | empty => name?.isSome
  | spatial latitude longitude distance =>
      latitude.isFinite && longitude.isFinite && distance.isFinite
  | type _ | uuid _ => true
  | relationship relType _ _ => !relType.isEmpty && kind == .node

namespace ClauseBuilder

variable {t : ClauseBuilder} (kind : EntityKind) (name? : Option String) {condition : Condition}

theorem draft?_eq_none_of_ne (h : Registry.standard condition.kind ≠ some t) :
    t.draft? kind name? condition = none := by
  unfold draft?
  split <;> first | rfl | exact absurd rfl h

theorem standard_draft?_isSome (h : Registry.standard condition.kind = some t) :
    (t.draft? kind name? condition).isSome = condition.isExpressible kind name? := by
  cases condition with
  | comparison operation value =>
      obtain rfl := Option.some.inj h
      cases name? with
      | none => rfl
      | some name =>
          cases value <;> cases operation <;> rfl
  | range low high includeLow includeHigh =>
      obtain rfl := Option.some.inj h
      cases name? with
      | none => rfl
      | some name =>
          rw [draft?, Draft.ofRange?, Condition.isExpressible]
          cases low.isNull <;> cases high.isNull <;> rfl
  | spatial latitude longitude distance =>
      obtain rfl := Option.some.inj h
      rw [draft?, Condition.isExpressible]
      cases latitude.isFinite && longitude.isFinite && distance.isFinite <;> rfl
  | relationship type direction related =>
      obtain rfl := Option.some.inj h
      rw [draft?, Condition.isExpressible]
      cases type.isEmpty <;> cases kind <;> rfl
  | type | uuid =>
      obtain rfl := Option.some.inj h
      rfl
  | fulltext | exact | array | notEmpty | empty =>
      obtain rfl := Option.some.inj h
      cases name? <;> rfl

end ClauseBuilder

/-- A condition and the property that it speaks of. -/
structure Leaf where
  name? : Option String
  condition : Condition

/-- The clause is the one for the leaf. -/
def Leaf.HasDraft (kind : EntityKind) (leaf : Leaf) (draft : Draft) : Prop :=
  ∃ t : ClauseBuilder, t.draft? kind leaf.name? leaf.condition = some draft

/-- The forms of the clauses of leaves. -/
inductive Leaf.Form : Leaf → Draft → Prop where
  | comparison {name : String} {operation : Comparison} {value : Value}
      (h : operation.isNullTest = true ∨ value.isNull = false) :
      Form ⟨some name, .comparison operation value⟩ (.ofComparison name operation value.stored)
  | above {name : String} {low high : Value} {includeLow includeHigh : Bool}
      (hlow : low.isNull = false) (hhigh : high.isNull = true) :
      Form ⟨some name, .range low high includeLow includeHigh⟩
        (.composite (Draft.bound name (if includeLow then ">=" else ">") low))
  | below {name : String} {low high : Value} {includeLow includeHigh : Bool}
      (hlow : low.isNull = true) (hhigh : high.isNull = false) :
      Form ⟨some name, .range low high includeLow includeHigh⟩
        (.composite (Draft.bound name (if includeHigh then "<=" else "<") high))
  | between {name : String} {low high : Value} {includeLow includeHigh : Bool}
      (hlow : low.isNull = false) (hhigh : high.isNull = false) :
      Form ⟨some name, .range low high includeLow includeHigh⟩
        (.composite ([.text "("] ++ Draft.bound name (if includeLow then ">=" else ">") low ++
          [.text " AND "] ++ Draft.bound name (if includeHigh then "<=" else "<") high ++
          [.text ")"]))
  | exactNull {name : String} : Form ⟨some name, .exact .null⟩ (.isMissing name)
  | exact {name : String} {value : Value} (h : value.isNull = false) :
      Form ⟨some name, .exact value⟩ (.equals name value)
  | fulltextNull {name : String} : Form ⟨some name, .fulltext .null⟩ (.isMissing name)
  | fulltextString {name text : String} :
      Form ⟨some name, .fulltext (.string text)⟩ (.containsText name text)
  | fulltext {name : String} {value : Value} (h : value.isNull = false)
      (htext : ∀ text, value ≠ .string text) :
      Form ⟨some name, .fulltext value⟩ (.equals name value)
  | arrayNull {name : String} : Form ⟨some name, .array .null⟩ (.isMissing name)
  | arrayAll {name : String} {items : List Value} :
      Form ⟨some name, .array (.list items)⟩
        (.composite [.text "ALL(x IN ", .value name (.list items),
          .text (" WHERE x IN " ++ Identifier.property name ++ ")")])
  | array {name : String} {value : Value} (h : value.isNull = false)
      (hlist : ∀ items, value ≠ .list items) :
      Form ⟨some name, .array value⟩
        (.composite [.value name value, .text (" IN " ++ Identifier.property name)])
  | notEmpty {name : String} : Form ⟨some name, .notEmpty⟩ (.isPresent name)
  | empty {name : String} : Form ⟨some name, .empty⟩ (.isMissing name)
  | type {name? : Option String} {typeName : String} :
      Form ⟨name?, .type typeName⟩ (.equals typeKey (.string typeName))
  | uuid {name? : Option String} {uuid : String} :
      Form ⟨name?, .uuid uuid⟩ (.equals uuidKey (.string uuid))
  | spatial {name? : Option String} {latitude longitude distance : Binary64} :
      Form ⟨name?, .spatial latitude longitude distance⟩ (.within latitude longitude distance)
  | relationship {name? : Option String} {relType : String} {direction : Direction}
      {related : Option String} :
      Form ⟨name?, .relationship relType direction related⟩ (.isRelated relType direction related)

theorem Leaf.HasDraft.form {kind : EntityKind} {leaf : Leaf} {draft : Draft}
    (h : leaf.HasDraft kind draft) : leaf.Form draft := by
  obtain ⟨t, ht⟩ := h
  obtain ⟨name?, condition⟩ := leaf
  dsimp only at ht
  unfold ClauseBuilder.draft? at ht
  split at ht
  · split at ht
    · exact absurd ht (by simp)
    · rename_i hvalue
      obtain rfl := Option.some.inj ht
      rw [Value.isNull_stored] at hvalue
      apply Leaf.Form.comparison
      simpa [Classical.or_iff_not_imp_left, and_comm, not_and] using hvalue
  · rw [Draft.ofRange?] at ht
    split at ht
    · exact absurd ht (by simp)
    · rename_i hlow hhigh
      obtain rfl := Option.some.inj ht
      exact .above hlow hhigh
    · rename_i hlow hhigh
      obtain rfl := Option.some.inj ht
      exact .below hlow hhigh
    · rename_i hlow hhigh
      obtain rfl := Option.some.inj ht
      exact .between hlow hhigh
  · rename_i value name
    obtain rfl := Option.some.inj ht
    cases value with
    | null => exact .exactNull
    | _ => exact .exact rfl
  · rename_i value name
    obtain rfl := Option.some.inj ht
    cases value with
    | null => exact .fulltextNull
    | string text => exact .fulltextString
    | _ => exact .fulltext rfl (by simp)
  · rename_i value name
    obtain rfl := Option.some.inj ht
    cases value with
    | null => exact .arrayNull
    | list items => exact .arrayAll
    | _ => exact .array rfl (by simp)
  · obtain rfl := Option.some.inj ht
    exact .notEmpty
  · obtain rfl := Option.some.inj ht
    exact .empty
  · obtain rfl := Option.some.inj ht
    exact .type
  · obtain rfl := Option.some.inj ht
    exact .uuid
  · split at ht
    · obtain rfl := Option.some.inj ht
      exact .spatial
    · exact absurd ht (by simp)
  · split at ht
    · exact absurd ht (by simp)
    · obtain rfl := Option.some.inj ht
      exact .relationship
  · exact absurd ht (by simp)

namespace Registry

variable (r : Registry) (kind : EntityKind)

/-- The builder of the kind is the one made for it, and nothing that the clause needs is missing. -/
def expresses (leaf : Leaf) : Bool :=
  r leaf.condition.kind = standard leaf.condition.kind &&
    leaf.condition.isExpressible kind leaf.name?

mutual

/-- The leaves that leave a clause, from left to right. -/
def leaves : Predicate → List Leaf
  | .leaf a condition => if r.expresses kind ⟨a.name, condition⟩ then [⟨a.name, condition⟩] else []
  | .group _ _ children => if r .group = some .group then leavesOfAll children else []

def leavesOfAll : List Predicate → List Leaf
  | [] => []
  | child :: rest => leaves child ++ leavesOfAll rest

end

theorem standard_isSome (k : PredicateKind) : ∃ t, standard k = some t := by
  cases k <;> exact ⟨_, rfl⟩

theorem draft?_isSome_iff (leaf : Leaf) :
    ((r leaf.condition.kind).bind fun t => t.draft? kind leaf.name? leaf.condition).isSome =
      r.expresses kind leaf := by
  obtain ⟨s, hs⟩ := standard_isSome leaf.condition.kind
  rw [expresses, hs]
  cases hbuilder : r leaf.condition.kind with
  | none => simp
  | some t =>
      by_cases ht : s = t
      · subst ht
        simpa using ClauseBuilder.standard_draft?_isSome kind leaf.name? hs
      · have hne : standard leaf.condition.kind ≠ some t := by
          rw [hs]
          exact fun h => ht (Option.some.inj h)
        simp [ClauseBuilder.draft?_eq_none_of_ne kind leaf.name? hne, Ne.symm ht]

end Registry

namespace Item

mutual

/-- The clauses of an item, from left to right. -/
def drafts : Item → List Draft
  | .clause _ draft => [draft]
  | .group _ _ members => draftsOfAll members

def draftsOfAll : List Item → List Draft
  | [] => []
  | item :: rest => drafts item ++ draftsOfAll rest

end

end Item

/-- The clause of a lexeme that is no keyword or parenthesis. -/
def Lexeme.draft? : Lexeme → Option Draft
  | clause draft => some draft
  | _ => none

theorem Occurrence.filterMap_draft?_lexemes (o : Occurrence) (combinator : Combinator)
    (isFirst : Bool) : (o.lexemes combinator isFirst).filterMap Lexeme.draft? = [] := by
  cases o <;> cases combinator <;> cases isFirst <;> rfl

namespace Item

mutual

theorem filterMap_draft?_lexemes (combinator : Combinator) (isFirst : Bool) :
    ∀ item : Item, (item.lexemes combinator isFirst).filterMap Lexeme.draft? = item.drafts
  | .clause o draft => by
      rw [lexemes, List.filterMap_append, o.filterMap_draft?_lexemes]
      rfl
  | .group o inner members => by
      rw [lexemes, List.filterMap_append, List.filterMap_append, o.filterMap_draft?_lexemes]
      change [] ++ (lexemesOfAll inner true members).filterMap Lexeme.draft? ++ [] = _
      rw [filterMap_draft?_lexemesOfAll inner true members, List.append_nil]
      rfl

theorem filterMap_draft?_lexemesOfAll (combinator : Combinator) (isFirst : Bool) :
    ∀ items : List Item,
      (lexemesOfAll combinator isFirst items).filterMap Lexeme.draft? = draftsOfAll items
  | [] => rfl
  | item :: rest => by
      rw [lexemesOfAll, List.filterMap_append, filterMap_draft?_lexemes combinator isFirst item,
        filterMap_draft?_lexemesOfAll combinator false rest]
      rfl

end

end Item

namespace Registry

variable (r : Registry) (kind : EntityKind)

mutual

theorem forall₂_leaves :
    ∀ p : Predicate,
      List.Forall₂ (Leaf.HasDraft kind) (r.leaves kind p)
        (((r.item? kind p).map Item.drafts).getD [])
  | .leaf a condition => by
      have hsome := r.draft?_isSome_iff kind ⟨a.name, condition⟩
      change ((r condition.kind).bind fun t => t.draft? kind a.name condition).isSome = _ at hsome
      rw [leaves, ← hsome]
      change List.Forall₂ _ _ ((((r condition.kind).bind
        fun t => r.itemBy kind t (.leaf a condition)).map Item.drafts).getD [])
      cases hbuilder : r condition.kind with
      | none => exact .nil
      | some t =>
          rw [Option.bind_some, Option.bind_some, itemBy]
          cases hdraft : t.draft? kind a.name condition with
          | none => exact .nil
          | some draft => exact .cons ⟨t, hdraft⟩ .nil
  | .group a combinator children => by
      have hmembers := forall₂_leavesOfAll children
      rw [leaves]
      change List.Forall₂ _ _ ((((r .group).bind
        fun t => r.itemBy kind t (.group a combinator children)).map Item.drafts).getD [])
      cases hbuilder : r .group with
      | none => exact .nil
      | some t =>
          rw [Option.bind_some, itemBy]
          by_cases hgroup : t = .group
          · rw [if_pos (congrArg some hgroup), if_pos hgroup]
            cases hitems : r.itemsOf kind children with
            | nil =>
                rw [hitems] at hmembers
                exact hmembers
            | cons item rest =>
                rw [hitems] at hmembers
                exact hmembers
          · rw [if_neg (fun h => hgroup (Option.some.inj h)), if_neg hgroup]
            exact .nil

theorem forall₂_leavesOfAll :
    ∀ ps : List Predicate,
      List.Forall₂ (Leaf.HasDraft kind) (r.leavesOfAll kind ps)
        (Item.draftsOfAll (r.itemsOf kind ps))
  | [] => .nil
  | child :: rest => by
      have hchild := forall₂_leaves child
      have hrest := forall₂_leavesOfAll rest
      rw [item?] at hchild
      rw [leavesOfAll, itemsOf]
      cases hitem : (r child.kind).bind fun t => r.itemBy kind t child with
      | none =>
          rw [hitem] at hchild
          exact List.rel_append hchild hrest
      | some item =>
          rw [hitem] at hchild
          exact List.rel_append hchild hrest

end

mutual

/-- A predicate comes to nothing if none of its leaves leaves a clause. -/
theorem item?_eq_none_iff :
    ∀ p : Predicate, r.item? kind p = none ↔ r.leaves kind p = []
  | .leaf a condition => by
      have hsome := r.draft?_isSome_iff kind ⟨a.name, condition⟩
      change ((r condition.kind).bind fun t => t.draft? kind a.name condition).isSome = _ at hsome
      change (r condition.kind).bind (fun t => r.itemBy kind t (.leaf a condition)) = none ↔ _
      rw [leaves, ← hsome]
      cases hbuilder : r condition.kind with
      | none => simp
      | some t =>
          rw [Option.bind_some, Option.bind_some, itemBy]
          cases t.draft? kind a.name condition <;> simp
  | .group a combinator children => by
      have hmembers := itemsOf_eq_nil_iff children
      change (r .group).bind (fun t => r.itemBy kind t (.group a combinator children)) = none ↔ _
      rw [leaves]
      cases hbuilder : r .group with
      | none => simp
      | some t =>
          rw [Option.bind_some, itemBy]
          by_cases hgroup : t = .group
          · rw [if_pos hgroup, if_pos (congrArg some hgroup), ← hmembers]
            cases r.itemsOf kind children <;> simp
          · rw [if_neg hgroup, if_neg (fun h => hgroup (Option.some.inj h))]
            simp

theorem itemsOf_eq_nil_iff :
    ∀ ps : List Predicate, r.itemsOf kind ps = [] ↔ r.leavesOfAll kind ps = []
  | [] => by simp [itemsOf, leavesOfAll]
  | child :: rest => by
      have hchild := item?_eq_none_iff child
      rw [item?] at hchild
      rw [itemsOf, leavesOfAll, List.append_eq_nil_iff, ← hchild, ← itemsOf_eq_nil_iff rest]
      cases (r child.kind).bind fun t => r.itemBy kind t child <;> simp

end

/-- The clauses of a predicate are those of its leaves that leave one. -/
theorem forall₂_leaves_lexemes (p : Predicate) :
    List.Forall₂ (Leaf.HasDraft kind) (r.leaves kind p)
      ((r.lexemes kind p).filterMap Lexeme.draft?) := by
  have hleaves := r.forall₂_leaves kind p
  rw [lexemes]
  cases hitem : r.item? kind p with
  | none =>
      rw [hitem] at hleaves
      exact hleaves
  | some item =>
      rw [hitem] at hleaves
      rw [Item.filterMap_draft?_lexemes]
      exact hleaves

end Registry

section Pointwise

variable {α β γ : Type} {R : α → β → Prop} {xs : List α} {ys : List β}

end Pointwise

end GraphSearch

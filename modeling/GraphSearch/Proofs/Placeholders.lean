import GraphSearch.Proofs.Leaves
import GraphSearch.Proofs.ParameterNames

/-!
The names in a condition and the parameters of its query match one to one.

Each value is bound under a name that is written where the value belongs, and nowhere else. So the
names, read from left to right, are those of the bindings in their order, and the values under them
are the ones that the leaves of the predicate supply.
-/

namespace GraphSearch

/-! ### Names in a condition -/

def Part.placeholder? : Part → Option String
  | text _ => none
  | parameter name => some name

/-- The parameter names in a fragment, from left to right. -/
def Fragment.placeholders : Fragment → List String
  | clause (.simple _ _ parameter _ _) => parameter.toList
  | clause (.composite parts) => parts.filterMap Part.placeholder?
  | _ => []

def Query.placeholders (q : Query) : List String :=
  q.fragments.flatMap Fragment.placeholders

/-! ### Values of leaves -/

/-- The values that a condition supplies, in the order in which its clause has them. -/
def Condition.values : Condition → List Value
  | comparison operation value =>
      match operation with
      | .isNull | .isNotNull => []
      | .startsWithAnyCase | .endsWithAnyCase | .containsAnyCase => [value.stored.lowered]
      | _ => [value.stored]
  | range low high _ _ => ([low, high].filter fun bound => !bound.isNull).map Value.stored
  | fulltext value =>
      match value with
      | .null => []
      | .string text => [.string ("(?i).*" ++ Draft.escapedPattern text ++ ".*")]
      | value => [value.stored]
  | exact value | array value => if value.isNull then [] else [value.stored]
  | spatial latitude longitude distance => [.float latitude, .float longitude, .float distance]
  | type text | uuid text => [.string text]
  | relationship _ _ related => (related.map Value.string).toList
  | notEmpty | empty => []

namespace Value

mutual

/-- Whether there is a date in the value, at any depth. -/
def containsDate : Value → Bool
  | date _ => true
  | list items => anyContainsDate items
  | _ => false

def anyContainsDate : List Value → Bool
  | [] => false
  | item :: rest => item.containsDate || anyContainsDate rest

end

mutual

theorem containsDate_stored : ∀ v : Value, v.stored.containsDate = false
  | null | boolean _ | integer _ | float _ | string _ | date _ => rfl
  | list items => anyContainsDate_storedItems items

theorem anyContainsDate_storedItems :
    ∀ items : List Value, anyContainsDate (storedItems items) = false
  | [] => rfl
  | item :: rest => by
      rw [storedItems, anyContainsDate, containsDate_stored item,
        anyContainsDate_storedItems rest]
      rfl

end

end Value

def DraftPart.value? : DraftPart → Option Value
  | text _ => none
  | value _ v => some v.stored

/-- The values that a clause binds, from left to right. -/
def Draft.values : Draft → List Value
  | nullTest _ _ => []
  | comparison _ _ value _ => if value.isNull then [] else [value.stored]
  | composite parts => parts.filterMap DraftPart.value?

def Lexeme.values : Lexeme → List Value
  | clause draft => draft.values
  | _ => []

namespace Query

end Query

/-! ### Clauses of leaves -/

namespace Leaf

variable {kind : EntityKind} {leaf : Leaf} {draft : Draft}

theorem HasDraft.isExpressible (h : leaf.HasDraft kind draft) :
    leaf.condition.isExpressible kind leaf.name? = true := by
  obtain ⟨t, ht⟩ := h
  by_cases hstandard : Registry.standard leaf.condition.kind = some t
  · rw [← ClauseBuilder.standard_draft?_isSome kind leaf.name? hstandard, ht]
    rfl
  · rw [ClauseBuilder.draft?_eq_none_of_ne kind leaf.name? hstandard] at ht
    exact absurd ht (by simp)

theorem Form.values_eq (h : leaf.Form draft) : draft.values = leaf.condition.values := by
  cases h with
  | @comparison name operation value hvalue =>
      cases operation with
      | isNull | isNotNull | startsWithAnyCase | endsWithAnyCase | containsAnyCase => rfl
      | _ =>
          have hnull : value.isNull = false := by simpa [Comparison.isNullTest] using hvalue
          simp [Draft.ofComparison, Draft.values, Condition.values, Value.isNull_stored,
            Value.stored_stored, hnull]
  | above hlow hhigh | below hlow hhigh | between hlow hhigh =>
      simp only [Condition.values, List.filter_cons, hlow, hhigh]
      rfl
  | exact hnull => simp [Draft.equals, Draft.values, Condition.values, hnull]
  | @fulltext name value hnull htext =>
      cases value with
      | null => exact absurd hnull (by decide)
      | string text => exact absurd rfl (htext text)
      | _ => rfl
  | array hnull hlist => simp [Draft.values, Condition.values, DraftPart.value?, hnull]
  | @relationship name? relType direction related => cases related <;> rfl
  | _ => rfl

end Leaf

/-! ### The query of an index -/

end GraphSearch

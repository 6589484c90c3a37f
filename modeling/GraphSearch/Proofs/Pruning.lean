import GraphSearch.Proofs.Leaves
import GraphSearch.Query.Statement

/-!
Leaving out a predicate is the same as pruning it from the tree first.

A translation drops what it cannot express while it runs, with keywords and parentheses already
written. Pruning takes the same predicates out of the tree beforehand. Main statement: an index that
no longer serves some kinds builds for a tree the query that an index with all kinds builds for what
is left of the tree.
-/

namespace GraphSearch

namespace Predicate

/-- The predicate without an order of its own. -/
def unsorted (p : Predicate) : Predicate :=
  p.mapAttributes fun a => { a with sort := none }

section Prune

variable (kind : EntityKind) (removed : List PredicateKind)

mutual

/-- What is left of a predicate when the removed kinds, the leaves that cannot be expressed and the
groups without members are taken out, from the bottom up. Only the outermost predicate keeps its
order. -/
def prune : Predicate → Option Predicate
  | leaf a condition =>
      if condition.kind ∈ removed then none
      else if condition.isExpressible kind a.name then some (leaf a condition)
      else none
  | group a combinator children =>
      if .group ∈ removed then none
      else
        match pruneAll children with
        | [] => none
        | kept => some (group a combinator kept)

/-- What is left of the members of a group. -/
def pruneAll : List Predicate → List Predicate
  | [] => []
  | child :: rest =>
      match prune child with
      | some kept => kept.unsorted :: pruneAll rest
      | none => pruneAll rest

end

end Prune

theorem sort?_of_prune {kind : EntityKind} {removed : List PredicateKind} {p kept : Predicate}
    (h : p.prune kind removed = some kept) : kept.sort? = p.sort? := by
  cases p with
  | leaf a condition =>
      rw [prune] at h
      split at h
      · exact absurd h (by simp)
      · split at h
        · obtain rfl := Option.some.inj h
          rfl
        · exact absurd h (by simp)
  | group a combinator children =>
      rw [prune] at h
      split at h
      · exact absurd h (by simp)
      · split at h
        · exact absurd h (by simp)
        · obtain rfl := Option.some.inj h
          rfl

end Predicate

namespace Registry

theorem foldl_without_apply (r : Registry) (removed : List PredicateKind) (k : PredicateKind) :
    removed.foldl without r k = if k ∈ removed then none else r k := by
  induction removed generalizing r with
  | nil => simp
  | cons first rest ih =>
      rw [List.foldl_cons, ih, without]
      by_cases hrest : k ∈ rest
      · simp [hrest]
      · by_cases hfirst : k = first <;> simp [hrest, hfirst]

theorem item?_unsorted (r : Registry) (kind : EntityKind) (p : Predicate) :
    r.item? kind p.unsorted = r.item? kind p := by
  cases p with
  | leaf a condition => rfl
  | group a combinator children => rfl

section Reduced

variable (kind : EntityKind) (removed : List PredicateKind)

mutual

theorem item?_foldl_without :
    ∀ p : Predicate,
      item? (removed.foldl without standard) kind p =
        (p.prune kind removed).bind (standard.item? kind)
  | .leaf a condition => by
      rw [item?, Predicate.prune]
      change (removed.foldl without standard condition.kind).bind _ = _
      rw [foldl_without_apply]
      by_cases hremoved : condition.kind ∈ removed
      · simp [hremoved]
      · obtain ⟨t, ht⟩ := standard_isSome condition.kind
        have hdraft := ClauseBuilder.standard_draft?_isSome kind a.name ht
        rw [if_neg hremoved, if_neg hremoved, ht, Option.bind_some, itemBy, ← hdraft]
        cases hsome : t.draft? kind a.name condition with
        | none => rfl
        | some draft =>
            change _ = (standard condition.kind).bind fun t => standard.itemBy kind t _
            rw [ht, Option.bind_some, itemBy, hsome]
  | .group a combinator children => by
      rw [item?, Predicate.prune]
      change (removed.foldl without standard .group).bind _ = _
      rw [foldl_without_apply]
      by_cases hremoved : PredicateKind.group ∈ removed
      · simp [hremoved]
      · rw [if_neg hremoved, if_neg hremoved, standard, Option.bind_some, itemBy, if_pos rfl,
          itemsOf_foldl_without children]
        cases hkept : Predicate.pruneAll kind removed children with
        | nil => rfl
        | cons child rest =>
            change _ = (standard.itemBy kind .group (.group a combinator (child :: rest)))
            rw [itemBy, if_pos rfl]

theorem itemsOf_foldl_without :
    ∀ ps : List Predicate,
      itemsOf (removed.foldl without standard) kind ps =
        standard.itemsOf kind (Predicate.pruneAll kind removed ps)
  | [] => rfl
  | child :: rest => by
      have hchild := item?_foldl_without child
      rw [item?] at hchild
      rw [itemsOf, Predicate.pruneAll, hchild, itemsOf_foldl_without rest]
      cases hkept : child.prune kind removed with
      | none => rfl
      | some kept =>
          rw [Option.bind_some, itemsOf, ← item?, item?_unsorted]

end

mutual

/-- Whatever pruning leaves comes to an item. -/
theorem item?_isSome_of_prune :
    ∀ p kept : Predicate, p.prune kind removed = some kept → (standard.item? kind kept).isSome
  | .leaf a condition, kept, h => by
      rw [Predicate.prune] at h
      split at h
      · exact absurd h (by simp)
      · split at h
        · rename_i hexpressible
          obtain rfl := Option.some.inj h
          obtain ⟨t, ht⟩ := standard_isSome condition.kind
          change ((standard condition.kind).bind fun t => standard.itemBy kind t _).isSome
          rw [ht, Option.bind_some, itemBy, Option.isSome_map,
            ClauseBuilder.standard_draft?_isSome kind a.name ht, hexpressible]
        · exact absurd h (by simp)
  | .group a combinator children, kept, h => by
      rw [Predicate.prune] at h
      split at h
      · exact absurd h (by simp)
      · split at h
        · exact absurd h (by simp)
        · rename_i hkept
          obtain rfl := Option.some.inj h
          change (standard.itemBy kind .group _).isSome
          rw [itemBy, if_pos rfl]
          cases hitems : standard.itemsOf kind (Predicate.pruneAll kind removed children) with
          | nil => exact absurd (pruneAll_eq_nil_of_itemsOf children hitems) hkept
          | cons item rest => rfl

theorem pruneAll_eq_nil_of_itemsOf :
    ∀ ps : List Predicate,
      standard.itemsOf kind (Predicate.pruneAll kind removed ps) = [] →
        Predicate.pruneAll kind removed ps = []
  | [], _ => rfl
  | child :: rest, h => by
      rw [Predicate.pruneAll] at h ⊢
      cases hkept : child.prune kind removed with
      | none =>
          rw [hkept] at h
          exact pruneAll_eq_nil_of_itemsOf rest h
      | some kept =>
          have hsome := item?_isSome_of_prune child kept hkept
          rw [hkept] at h
          dsimp only at h
          rw [itemsOf, ← item?, item?_unsorted] at h
          obtain ⟨item, hitem⟩ := Option.isSome_iff_exists.mp hsome
          rw [hitem] at h
          exact absurd h (by simp)

end

end Reduced

end Registry

theorem Query.whereText_eq_empty_iff (q : Query) : q.whereText = "" ↔ q.fragments = [] := by
  rw [whereText]
  cases q.fragments with
  | nil => simp
  | cons f fs =>
      simp only [List.isEmpty_cons, Bool.false_eq_true, if_false]
      constructor
      · intro h
        have hlist := congrArg String.toList h
        rw [String.toList_append] at hlist
        exact absurd hlist (by simp)
      · intro h
        exact absurd h (by simp)

theorem Item.lexemes_ne_nil (combinator : Combinator) (isFirst : Bool) (item : Item) :
    item.lexemes combinator isFirst ≠ [] := by
  cases item <;> simp [lexemes]

/-- The index with another registry. -/
def Index.serving (ix : Index) (r : Registry) : Index :=
  { ix with registry := r }

theorem Index.build_serving (ix : Index) (r : Registry) (context : SearchContext) (p : Predicate) :
    (ix.serving r).build context p =
      (ix.start context p.sort?).writeAll (r.lexemes ix.kind p) :=
  (ix.serving r).build_eq_writeAll context p

theorem Registry.lexemes_foldl_without (kind : EntityKind) (removed : List PredicateKind)
    (p : Predicate) :
    lexemes (removed.foldl without standard) kind p =
      ((p.prune kind removed).map (standard.lexemes kind)).getD [] := by
  rw [lexemes, item?_foldl_without kind removed p]
  cases p.prune kind removed <;> rfl

/-- Without some kinds, an index builds for a tree the very query that it builds with all kinds for
what is left of the tree: the fragments, the parameters, the statements and the digest are the same.
If nothing is left of the tree then there is no condition and no parameter, but still the order. -/
theorem build_eq_build_prune (ix : Index) (removed : List PredicateKind)
    (context : SearchContext) (p : Predicate) :
    match p.prune ix.kind removed with
    | some kept =>
        (ix.serving (removed.foldl Registry.without .standard)).build context p =
            (ix.serving .standard).build context kept ∧
          ((ix.serving .standard).build context kept).whereText ≠ ""
    | none =>
        let q := (ix.serving (removed.foldl Registry.without .standard)).build context p
        q.whereText = "" ∧ q.parameters = [] ∧ q.sort = p.sort? := by
  have hlexemes := Registry.lexemes_foldl_without ix.kind removed p
  cases hkept : p.prune ix.kind removed with
  | none =>
      rw [hkept] at hlexemes
      dsimp only
      rw [Index.build_serving, hlexemes]
      exact ⟨rfl, rfl, rfl⟩
  | some kept =>
      rw [hkept] at hlexemes
      constructor
      · rw [Index.build_serving, Index.build_serving, hlexemes, Predicate.sort?_of_prune hkept]
        rfl
      · obtain ⟨item, hitem⟩ := Option.isSome_iff_exists.mp
          (Registry.item?_isSome_of_prune ix.kind removed p kept hkept)
        have hlength := List.length_pos_iff.mpr (item.lexemes_ne_nil .and true)
        rw [ne_eq, Query.whereText_eq_empty_iff, Index.build_serving, Registry.lexemes, hitem,
          ← List.length_eq_zero_iff, Query.writeAll_fragments_length]
        dsimp only
        omega

end GraphSearch

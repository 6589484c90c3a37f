import GraphSearch.Proofs.Construction
import GraphSearch.Proofs.Expression
import GraphSearch.Proofs.Leaves

/-!
A predicate adds one well-formed item to a query, or nothing.

Items and expressions are given by a grammar. An item is a clause or an expression in parentheses,
and an expression is a row of items, each behind the keywords that join it to the one before. A
derived sequence has its parentheses matched and no keyword without its operands.
-/

namespace GraphSearch

inductive Phrase where
  | item
  | expression

/-- The sequences of fragments that items and expressions are written as. -/
inductive Derives : Phrase → List Fragment → Prop where
  | clause (c : Clause) : Derives .item [.clause c]
  | parens {fs : List Fragment} (h : Derives .expression fs) :
      Derives .item (.opening :: fs ++ [.closing])
  | single {fs : List Fragment} (h : Derives .item fs) : Derives .expression fs
  | negated {fs : List Fragment} (h : Derives .item fs) : Derives .expression (.not :: fs)
  | and {fs gs : List Fragment} (h : Derives .expression fs) (hitem : Derives .item gs) :
      Derives .expression (fs ++ .and :: gs)
  | or {fs gs : List Fragment} (h : Derives .expression fs) (hitem : Derives .item gs) :
      Derives .expression (fs ++ .or :: gs)
  | andNot {fs gs : List Fragment} (h : Derives .expression fs) (hitem : Derives .item gs) :
      Derives .expression (fs ++ .and :: .not :: gs)

/-! ### What a derived sequence looks like -/

/-- Whether a fragment may stand directly in front of another one. -/
def Fragment.mayPrecede : Fragment → Fragment → Bool
  | clause _, f | closing, f => f = and ∨ f = or ∨ f = closing
  | and, f | opening, f => f = not ∨ f = opening ∨ f.isClause
  | or, f | not, f => f = opening ∨ f.isClause

/-- How many parentheses are open after a sequence of fragments, if `n` are open before it and none
closes that is not open. -/
def openAfter (n : Nat) : List Fragment → Option Nat
  | [] => some n
  | .opening :: rest => openAfter (n + 1) rest
  | .closing :: rest => if n = 0 then none else openAfter (n - 1) rest
  | _ :: rest => openAfter n rest

/-- In parentheses, each fragment may stand where it stands, and the parentheses match. -/
structure Orderly (fs : List Fragment) : Prop where
  chain : List.IsChain (fun f g => f.mayPrecede g = true) (.opening :: fs ++ [.closing])
  nested : openAfter 0 fs = some 0

namespace Derives

variable {phrase : Phrase} {fs : List Fragment}

theorem openAfter_append (h : Derives phrase fs) (n : Nat) (rest : List Fragment) :
    openAfter n (fs ++ rest) = openAfter n rest := by
  induction h generalizing n rest with
  | clause c => rfl
  | parens _ ih =>
      rw [List.append_assoc, List.cons_append, openAfter, ih]
      simp [openAfter]
  | single _ ih => exact ih n rest
  | negated _ ih => exact ih n rest
  | and _ _ ihExpression ihItem | or _ _ ihExpression ihItem
  | andNot _ _ ihExpression ihItem =>
      rw [List.append_assoc, ihExpression]
      exact ihItem n rest

/-- A phrase stands between two fragments, the first of which leaves room for an operand. A negation
at the beginning of an expression needs the room of an opening parenthesis or of an `AND`. -/
theorem isChain_between (h : Derives phrase fs) {f g : Fragment}
    (hf : f = .opening ∨ f = .and ∨ phrase = .item ∧ (f = .or ∨ f = .not))
    (hg : g = .and ∨ g = .or ∨ g = .closing) :
    List.IsChain (fun f g => f.mayPrecede g = true) (f :: fs ++ [g]) := by
  have hglue (xs : List Fragment) (x : Fragment) (ys : List Fragment)
      (hxs : List.IsChain (fun f g => f.mayPrecede g = true) (xs ++ [x]))
      (hys : List.IsChain (fun f g => f.mayPrecede g = true) (x :: ys)) :
      List.IsChain (fun f g => f.mayPrecede g = true) (xs ++ x :: ys) := by
    have hys' : List.IsChain (fun f g => f.mayPrecede g = true) ([x] ++ ys) := hys
    simpa using hxs.append_overlap hys' (by simp)
  induction h generalizing f g with
  | clause c =>
      have hc : Fragment.mayPrecede f (.clause c) := by
        rcases hf with rfl | rfl | ⟨-, rfl | rfl⟩ <;> rfl
      have hc' : Fragment.mayPrecede (.clause c) g := by
        rcases hg with rfl | rfl | rfl <;> rfl
      simp [hc, hc']
  | @parens fs _ ih =>
      have hopen : Fragment.mayPrecede f .opening := by
        rcases hf with rfl | rfl | ⟨-, rfl | rfl⟩ <;> rfl
      have hclose : Fragment.mayPrecede .closing g := by
        rcases hg with rfl | rfl | rfl <;> rfl
      have hinner := ih (f := .opening) (g := .closing) (Or.inl rfl) (Or.inr (Or.inr rfl))
      have hleft : List.IsChain (fun f g => f.mayPrecede g = true)
          ((f :: .opening :: fs) ++ [.closing]) := List.IsChain.cons_cons hopen hinner
      simpa using hglue (f :: .opening :: fs) .closing [g] hleft (by simpa using hclose)
  | single _ ih =>
      apply ih _ hg
      rcases hf with hf | hf | ⟨hphrase, -⟩
      · exact Or.inl hf
      · exact Or.inr (Or.inl hf)
      · exact absurd hphrase (by simp)
  | negated _ ih =>
      have hnot : Fragment.mayPrecede f .not := by
        rcases hf with rfl | rfl | ⟨hphrase, -⟩
        · rfl
        · rfl
        · exact absurd hphrase (by simp)
      exact List.IsChain.cons_cons hnot (ih (Or.inr (Or.inr ⟨rfl, Or.inr rfl⟩)) hg)
  | @and fs gs _ _ ihExpression ihItem =>
      have hleft := ihExpression hf (Or.inl rfl)
      have hright := ihItem (f := .and) (Or.inr (Or.inl rfl)) hg
      simpa using hglue (f :: fs) .and (gs ++ [g]) hleft hright
  | @or fs gs _ _ ihExpression ihItem =>
      have hleft := ihExpression hf (Or.inr (Or.inl rfl))
      have hright := ihItem (f := .or) (Or.inr (Or.inr ⟨rfl, Or.inl rfl⟩)) hg
      simpa using hglue (f :: fs) .or (gs ++ [g]) hleft hright
  | @andNot fs gs _ _ ihExpression ihItem =>
      have hleft := ihExpression hf (Or.inl rfl)
      have hright := ihItem (f := .not) (Or.inr (Or.inr ⟨rfl, Or.inr rfl⟩)) hg
      have hnot : List.IsChain (fun f g => f.mayPrecede g = true)
          (.and :: .not :: (gs ++ [g])) := List.IsChain.cons_cons rfl hright
      simpa using hglue (f :: fs) .and (.not :: (gs ++ [g])) hleft hnot

theorem orderly (h : Derives phrase fs) : Orderly fs where
  chain := h.isChain_between (Or.inl rfl) (Or.inr (Or.inr rfl))
  nested := by simpa [openAfter] using h.openAfter_append 0 []

end Derives

/-! ### What a predicate adds -/

/-- The keywords in front of a member of a group with the given combinator. -/
def Occurrence.keywords (o : Occurrence) (combinator : Combinator) (isFirst : Bool) :
    List Fragment :=
  match o, isFirst, combinator with
  | must, true, _ => []
  | must, false, .and => [.and]
  | must, false, .or => [.or]
  | should, true, _ => []
  | should, false, _ => [.or]
  | mustNot, true, _ => [.not]
  | mustNot, false, _ => [.and, .not]

namespace Query

theorem join_eq_extend (q : Query) (o : Occurrence) (isFirst : Bool) :
    q.join o isFirst = q.extend (o.keywords q.combinator isFirst) [] := by
  cases o with
  | must =>
      cases isFirst with
      | true => exact (extend_nil q).symm
      | false =>
          rw [join]
          cases q.combinator <;> exact push_eq_extend q _
  | should =>
      cases isFirst with
      | true => exact (extend_nil q).symm
      | false => exact push_eq_extend q .or
  | mustNot =>
      cases isFirst with
      | true => exact push_eq_extend q .not
      | false =>
          rw [join, push_eq_extend, if_neg Bool.false_ne_true, push_eq_extend, extend_extend]
          rfl

/-- What a group writes around its members. -/
theorem endGroup_extend_beginGroup (q : Query) (combinator : Combinator) (fs : List Fragment)
    (bs : List Binding) :
    ((q.beginGroup combinator).extend fs bs).endGroup =
      q.extend (.opening :: fs ++ [.closing]) bs := by
  simp [beginGroup, endGroup, extend, push]

end Query

namespace Registry

variable (r : Registry) (kind : EntityKind)

mutual

/-- The item of a predicate is written as one item, behind the keywords of its occurrence. -/
theorem exists_append_item :
    ∀ (p : Predicate) (item : Item) (q : Query) (isFirst : Bool), r.item? kind p = some item →
      ∃ fs bs, Derives .item fs ∧
        q.append isFirst item =
          q.extend (p.occurrence.keywords q.combinator isFirst ++ fs) bs
  | .leaf a condition, item, q, isFirst, h => by
      obtain ⟨t, -, hitem⟩ := Option.bind_eq_some_iff.mp h
      rw [itemBy] at hitem
      obtain ⟨draft, -, rfl⟩ := Option.map_eq_some_iff.mp hitem
      refine ⟨[.clause ((q.join a.occurrence isFirst).clauseOf draft)],
        (q.join a.occurrence isFirst).draftBindings draft, .clause _, ?_⟩
      rw [Query.append, Query.appendDraft_eq_extend, Query.join_eq_extend, Query.extend_extend]
      rfl
  | .group a combinator children, item, q, isFirst, h => by
      obtain ⟨t, -, hitem⟩ := Option.bind_eq_some_iff.mp h
      rw [itemBy] at hitem
      split at hitem
      · split at hitem
        · exact absurd hitem (by simp)
        · rename_i hmembers
          obtain rfl := Option.some.inj hitem
          obtain ⟨fs, bs, hderives, happend⟩ := exists_appendAll_first children
            ((q.join a.occurrence isFirst).beginGroup combinator) hmembers
          refine ⟨.opening :: fs ++ [.closing], bs, .parens hderives, ?_⟩
          rw [Query.append, happend, Query.endGroup_extend_beginGroup, Query.join_eq_extend,
            Query.extend_extend]
          rfl
      · exact absurd hitem (by simp)

/-- The members of a group that come to anything are written as an expression. -/
theorem exists_appendAll_first :
    ∀ (ps : List Predicate) (q : Query), r.itemsOf kind ps ≠ [] →
      ∃ fs bs, Derives .expression fs ∧
        q.appendAll true (r.itemsOf kind ps) = q.extend fs bs
  | [], q, h => absurd rfl h
  | child :: rest, q, h => by
      rw [itemsOf] at h ⊢
      cases hitem : (r child.kind).bind fun t => r.itemBy kind t child with
      | none =>
          rw [hitem] at h
          exact exists_appendAll_first rest q h
      | some item =>
          obtain ⟨fs, bs, hderives, happend⟩ := exists_append_item child item q true hitem
          obtain ⟨tail, cs, htail, happendTail⟩ := exists_appendAll_rest rest (q.append true item)
          refine ⟨child.occurrence.keywords q.combinator true ++ fs ++ tail, bs ++ cs, ?_, ?_⟩
          · apply htail
            cases child.occurrence with
            | must | should => exact .single hderives
            | mustNot => exact .negated hderives
          · rw [Query.appendAll, happendTail, happend, Query.extend_extend]

/-- Further members continue the expression of those before them. -/
theorem exists_appendAll_rest :
    ∀ (ps : List Predicate) (q : Query),
      ∃ tail bs, (∀ fs, Derives .expression fs → Derives .expression (fs ++ tail)) ∧
        q.appendAll false (r.itemsOf kind ps) = q.extend tail bs
  | [], q => by
      refine ⟨[], [], ?_, (Query.extend_nil q).symm⟩
      intro fs hfs
      rwa [List.append_nil]
  | child :: rest, q => by
      rw [itemsOf]
      cases hitem : (r child.kind).bind fun t => r.itemBy kind t child with
      | none => exact exists_appendAll_rest rest q
      | some item =>
          obtain ⟨gs, bs, hderives, happend⟩ := exists_append_item child item q false hitem
          obtain ⟨tail, cs, htail, happendTail⟩ :=
            exists_appendAll_rest rest (q.append false item)
          refine ⟨child.occurrence.keywords q.combinator false ++ gs ++ tail, bs ++ cs, ?_, ?_⟩
          · intro fs hfs
            rw [← List.append_assoc]
            apply htail
            cases child.occurrence with
            | must =>
                cases q.combinator with
                | and => exact hfs.and hderives
                | or => exact hfs.or hderives
            | should => exact hfs.or hderives
            | mustNot => exact hfs.andNot hderives
          · rw [Query.appendAll, happendTail, happend, Query.extend_extend]

end

end Registry

/-- After any calls, translating a predicate leaves the query as it is, or it adds the keywords of
the predicate's occurrence and one item behind them; it adds one just if a leaf leaves a clause. The
item is derivable, and so it is orderly. Nothing else changes, and each parameter keeps its value. -/
theorem tryAdd_adds_item_or_nothing (kind : EntityKind) (pageSize : UInt64)
    (calls : List QueryCall) (r : Registry) (p : Predicate) (isFirst : Bool) :
    let q := (Query.new kind pageSize).run calls
    (r.leaves q.kind p = [] ∧ q.tryAdd r p isFirst = (false, q)) ∨
      (r.leaves q.kind p ≠ [] ∧
        ∃ item bs, Derives .item item ∧ Orderly item ∧
          q.tryAdd r p isFirst =
            (true, q.extend (p.occurrence.keywords q.combinator isFirst ++ item) bs) ∧
          ∀ name value, q.parameters.get? name = some value →
            (q.tryAdd r p isFirst).2.parameters.get? name = some value) := by
  intro q
  have hnumbered : Numbered q.bindings := Query.numbered_run Numbered.nil calls
  have hadd : Numbered (q.tryAdd r p isFirst).2.bindings :=
    Query.numbered_add hnumbered r p isFirst
  have hleaves := r.item?_eq_none_iff q.kind p
  rw [Query.tryAdd_eq] at hadd ⊢
  cases hitem : r.item? q.kind p with
  | none => exact Or.inl ⟨hleaves.mp hitem, rfl⟩
  | some item =>
      obtain ⟨fs, bs, hderives, happend⟩ := r.exists_append_item q.kind p item q isFirst hitem
      rw [hitem] at hadd hleaves
      dsimp only at hadd ⊢
      rw [happend] at hadd ⊢
      refine Or.inr ⟨?_, fs, bs, hderives, hderives.orderly, rfl, ?_⟩
      · intro hnil
        exact absurd (hleaves.mpr hnil) (by simp)
      · intro name value hvalue
        exact Query.parameters_get?_extend hadd hvalue

/-- A query with an open group whose first member compares the same key. -/
def openAges : Query :=
  (Query.new .node 10).run [.beginGroup .or, .addClause "age" ">" (.integer 1) false true]

theorem tryAdd_adds_item_or_nothing_secondAge :
    openAges.parameters.get? "age_param" = some (.integer 1) ∧
      ∃ item bs, Derives .item item ∧
        openAges.tryAdd .standard (.allOf [.empty "name", .exact "age" (.integer 2)]) false =
          (true, openAges.extend (.or :: item) bs) ∧
        (openAges.tryAdd .standard (.allOf [.empty "name", .exact "age" (.integer 2)])
          false).2.parameters.get? "age_param" = some (.integer 1) := by
  have hbound : openAges.parameters.get? "age_param" = some (.integer 1) := rfl
  have hadded : (openAges.tryAdd .standard (.allOf [.empty "name", .exact "age" (.integer 2)])
      false).1 = true := by decide
  refine ⟨hbound, ?_⟩
  rcases tryAdd_adds_item_or_nothing .node 10
    [.beginGroup .or, .addClause "age" ">" (.integer 1) false true] .standard
    (.allOf [.empty "name", .exact "age" (.integer 2)]) false with ⟨-, hnothing⟩ | ⟨-, hitem⟩
  · exact absurd (hadded.symm.trans (congrArg Prod.fst hnothing)) (by decide)
  · obtain ⟨item, bs, hderives, -, hadd, hkept⟩ := hitem
    exact ⟨item, bs, hderives, hadd, hkept _ _ hbound⟩

end GraphSearch

import GraphSearch.Proofs.Expression
import GraphSearch.Proofs.Leaves

/-!
The Boolean meaning of a predicate, and its translation.

The meaning of a predicate is defined along the tree. The translation writes the keywords one by one,
and what they mean follows from their precedence in the whole sequence of fragments. Main statement:
the sequence is an expression, and its value is the meaning of the tree. Its clauses are those of the
leaves, in the order of the tree.
-/

namespace GraphSearch

/-! ### Meaning -/

/-- Whether a member with this occurrence joins its predecessor by `OR`. -/
def Occurrence.joinsByOr (combinator : Combinator) : Occurrence → Bool
  | must => combinator = .or
  | should => true
  | mustNot => false

/-- A member that must not hold counts the other way round. -/
def Occurrence.signed (o : Occurrence) (b : Bool) : Bool :=
  match o with
  | mustNot => !b
  | _ => b

/-- The list, cut in front of each element but the first that is marked. -/
def pieces {α : Type} : List (Bool × α) → List (List α)
  | [] => []
  | (_, x) :: rest =>
      match rest, pieces rest with
      | (false, _) :: _, piece :: others => (x :: piece) :: others
      | _, others => [x] :: others

/-- Some piece has only members that hold. -/
def somePieceHolds (members : List (Bool × Bool)) : Bool :=
  (pieces members).any fun piece => piece.all id

namespace Registry

variable (r : Registry) (kind : EntityKind)

mutual

/-- How many clauses a predicate leaves. -/
def clauseCountOf : Predicate → Nat
  | .leaf a condition =>
      match (r condition.kind).bind fun t => t.draft? kind a.name condition with
      | some _ => 1
      | none => 0
  | .group _ _ children => if r .group = some .group then clauseCountOfAll children else 0

def clauseCountOfAll : List Predicate → Nat
  | [] => 0
  | child :: rest => clauseCountOf child + clauseCountOfAll rest

end

mutual

/-- The meaning of a predicate when its clauses have the given truth values. The clauses are numbered
from left to right, and `start` of them come before the predicate. -/
def meaning (truth : Nat → Bool) (start : Nat) : Predicate → Bool
  | .leaf a _ => a.occurrence.signed (truth start)
  | .group a combinator children =>
      a.occurrence.signed (somePieceHolds (members truth combinator start children))

/-- The members of a group that leave a clause: whether each joins by `OR`, and what it means. -/
def members (truth : Nat → Bool) (combinator : Combinator) (start : Nat) :
    List Predicate → List (Bool × Bool)
  | [] => []
  | child :: rest =>
      if r.clauseCountOf kind child = 0 then members truth combinator start rest
      else
        (child.occurrence.joinsByOr combinator, meaning truth start child) ::
          members truth combinator (start + r.clauseCountOf kind child) rest

end

end Registry

/-! ### The expression of a group -/

namespace Operand

/-- The operand for a member with an occurrence. -/
def signed (o : Occurrence) (x : Operand) : Operand :=
  match o with
  | .mustNot => .not x
  | _ => x

theorem value_signed (o : Occurrence) (x : Operand) (truth : Nat → Bool) (start : Nat) :
    (x.signed o).value truth start = o.signed (x.value truth start) := by
  cases o <;> rfl

theorem clauseCount_signed (o : Occurrence) (x : Operand) :
    clauseCount (x.signed o).fragments = clauseCount x.fragments := by
  cases o <;> simp [signed, fragments, Fragment.isClause]

end Operand

namespace Disjunction

/-- Puts an operand in front of the first conjunction. -/
def andFirst (x : Operand) : Disjunction → Disjunction
  | .single c => .single (.and x c)
  | .or c rest => .or (.and x c) rest

/-- The expression of an operand and further ones, of which each is marked if it joins by `OR`. -/
def chain (x : Operand) : List (Bool × Operand) → Disjunction
  | [] => .single (.single x)
  | (true, y) :: rest => .or (.single x) (chain y rest)
  | (false, y) :: rest => andFirst x (chain y rest)

end Disjunction

/-- The keyword in front of an operand that joins its predecessor. -/
def joint (byOr : Bool) : Fragment :=
  if byOr then .or else .and

/-- Operands, each behind the keyword that joins it to the one before; the first has none if nothing
comes before it. -/
def joinedFragments (isFirst : Bool) : List (Bool × Operand) → List Fragment
  | [] => []
  | (byOr, x) :: rest =>
      (if isFirst then [] else [joint byOr]) ++ x.fragments ++ joinedFragments false rest

/-- The values of operands that stand one behind the other. -/
def operandValues (truth : Nat → Bool) (start : Nat) :
    List (Bool × Operand) → List (Bool × Bool)
  | [] => []
  | (byOr, x) :: rest =>
      (byOr, x.value truth start) ::
        operandValues truth (start + clauseCount x.fragments) rest

theorem fragments_andFirst (x : Operand) (d : Disjunction) :
    (d.andFirst x).fragments = x.fragments ++ .and :: d.fragments := by
  cases d <;> simp [Disjunction.andFirst, Disjunction.fragments, Conjunction.fragments]

theorem fragments_chain (x : Operand) (rest : List (Bool × Operand)) :
    (Disjunction.chain x rest).fragments = x.fragments ++ joinedFragments false rest := by
  induction rest generalizing x with
  | nil => simp [Disjunction.chain, Disjunction.fragments, Conjunction.fragments, joinedFragments]
  | cons member rest ih =>
      obtain ⟨byOr, y⟩ := member
      cases byOr with
      | true =>
          simp [Disjunction.chain, Disjunction.fragments, Conjunction.fragments, joinedFragments,
            joint, ih]
      | false =>
          simp [Disjunction.chain, fragments_andFirst, joinedFragments, joint, ih]

/-- The values of the operands of a conjunction. -/
def Conjunction.values (truth : Nat → Bool) (start : Nat) : Conjunction → List Bool
  | .single x => [x.value truth start]
  | .and x rest => x.value truth start :: rest.values truth (start + clauseCount x.fragments)

/-- The values of the operands, conjunction by conjunction. -/
def Disjunction.pieceValues (truth : Nat → Bool) (start : Nat) : Disjunction → List (List Bool)
  | .single c => [c.values truth start]
  | .or c rest =>
      c.values truth start :: rest.pieceValues truth (start + clauseCount c.fragments)

theorem Conjunction.value_eq_all (truth : Nat → Bool) (start : Nat) (c : Conjunction) :
    c.value truth start = (c.values truth start).all id := by
  cases c with
  | single x => simp [Conjunction.value, Conjunction.values]
  | and x rest =>
      rw [Conjunction.value, Conjunction.values, Conjunction.value_eq_all truth _ rest]
      rfl

theorem Disjunction.value_eq_any (truth : Nat → Bool) (start : Nat) (d : Disjunction) :
    d.value truth start = (d.pieceValues truth start).any fun piece => piece.all id := by
  cases d with
  | single c => simp [Disjunction.value, Disjunction.pieceValues, c.value_eq_all]
  | or c rest =>
      rw [Disjunction.value, Disjunction.pieceValues, Disjunction.value_eq_any truth _ rest,
        c.value_eq_all]
      rfl

theorem pieceValues_andFirst {x : Operand} {d : Disjunction} {truth : Nat → Bool} {start : Nat}
    {piece : List Bool} {others : List (List Bool)}
    (h : d.pieceValues truth (start + clauseCount x.fragments) = piece :: others) :
    (d.andFirst x).pieceValues truth start = (x.value truth start :: piece) :: others := by
  cases d with
  | single c =>
      obtain ⟨rfl, rfl⟩ := List.cons.inj h
      rfl
  | or c rest =>
      obtain ⟨rfl, rfl⟩ := List.cons.inj h
      rw [Disjunction.andFirst, Disjunction.pieceValues, Conjunction.values, Conjunction.fragments,
        clauseCount_append, clauseCount_cons, ← Nat.add_assoc]
      rfl

theorem exists_pieces_cons {α : Type} (marked : Bool) (x : α) (rest : List (Bool × α)) :
    ∃ piece others, pieces ((marked, x) :: rest) = piece :: others := by
  unfold pieces
  split <;> exact ⟨_, _, rfl⟩

/-- An unmarked element belongs to the piece of the one before it. -/
theorem pieces_cons_unmarked {α : Type} {marked : Bool} {x y : α} {rest : List (Bool × α)}
    {piece : List α} {others : List (List α)}
    (h : pieces ((false, y) :: rest) = piece :: others) :
    pieces ((marked, x) :: (false, y) :: rest) = (x :: piece) :: others := by
  rw [pieces]
  exact h

theorem pieceValues_chain (truth : Nat → Bool) (start : Nat) (byOr : Bool) (x : Operand)
    (rest : List (Bool × Operand)) :
    (Disjunction.chain x rest).pieceValues truth start =
      pieces (operandValues truth start ((byOr, x) :: rest)) := by
  induction rest generalizing x start byOr with
  | nil => rfl
  | cons member rest ih =>
      obtain ⟨nextByOr, y⟩ := member
      have htail := ih (start + clauseCount x.fragments) nextByOr y
      rw [operandValues] at htail ⊢
      cases nextByOr with
      | true =>
          rw [Disjunction.chain, Disjunction.pieceValues, Conjunction.fragments, htail]
          rfl
      | false =>
          obtain ⟨piece, others, hpieces⟩ := exists_pieces_cons false
            (y.value truth (start + clauseCount x.fragments))
            (operandValues truth (start + clauseCount x.fragments + clauseCount y.fragments) rest)
          rw [hpieces] at htail
          rw [Disjunction.chain, pieceValues_andFirst htail, operandValues,
            pieces_cons_unmarked hpieces]

theorem value_chain (truth : Nat → Bool) (start : Nat) (byOr : Bool) (x : Operand)
    (rest : List (Bool × Operand)) :
    (Disjunction.chain x rest).value truth start =
      somePieceHolds (operandValues truth start ((byOr, x) :: rest)) := by
  rw [Disjunction.value_eq_any, pieceValues_chain truth start byOr]
  rfl

/-! ### What the translation writes -/

theorem join_fragments (q : Query) (o : Occurrence) (isFirst : Bool) :
    (q.join o isFirst).fragments =
      q.fragments ++ (if isFirst then [] else [joint (o.joinsByOr q.combinator)]) ++
        (if o = .mustNot then [.not] else []) := by
  cases o with
  | must =>
      cases isFirst with
      | true => simp [Query.join]
      | false =>
          rw [Query.join, Occurrence.joinsByOr]
          cases q.combinator <;> simp [Query.push, joint]
  | should => cases isFirst <;> simp [Query.join, Query.push, Occurrence.joinsByOr, joint]
  | mustNot => cases isFirst <;> simp [Query.join, Query.push, Occurrence.joinsByOr, joint]

theorem Operand.fragments_signed (o : Occurrence) (x : Operand) :
    (x.signed o).fragments = (if o = .mustNot then [.not] else []) ++ x.fragments := by
  cases o <;> rfl

namespace Registry

variable {r : Registry} {kind : EntityKind}

mutual

/-- Each leaf that leaves a clause is counted once. -/
theorem clauseCountOf_eq_length :
    ∀ p : Predicate, r.clauseCountOf kind p = (r.leaves kind p).length
  | .leaf a condition => by
      have hsome := r.draft?_isSome_iff kind ⟨a.name, condition⟩
      change ((r condition.kind).bind fun t => t.draft? kind a.name condition).isSome = _ at hsome
      rw [clauseCountOf, leaves, ← hsome]
      cases (r condition.kind).bind fun t => t.draft? kind a.name condition <;> rfl
  | .group a combinator children => by
      rw [clauseCountOf, leaves]
      split
      · exact clauseCountOfAll_eq_length children
      · rfl

theorem clauseCountOfAll_eq_length :
    ∀ ps : List Predicate, r.clauseCountOfAll kind ps = (r.leavesOfAll kind ps).length
  | [] => rfl
  | child :: rest => by
      rw [clauseCountOfAll, leavesOfAll, List.length_append, clauseCountOf_eq_length child,
        clauseCountOfAll_eq_length rest]

end

theorem clauseCountOf_eq_zero_iff (p : Predicate) :
    r.clauseCountOf kind p = 0 ↔ r.item? kind p = none := by
  rw [clauseCountOf_eq_length, List.length_eq_zero_iff, item?_eq_none_iff]

mutual

/-- The item of a predicate is appended as one operand behind the keyword that joins it. The operand
has the clauses of the predicate and its meaning. -/
theorem exists_operand_append (q : Query) (isFirst : Bool) :
    ∀ (p : Predicate) (item : Item), r.item? kind p = some item →
      ∃ x : Operand,
        (q.append isFirst item).fragments =
          q.fragments ++
            (if isFirst then [] else [joint (p.occurrence.joinsByOr q.combinator)]) ++
            x.fragments ∧
        clauseCount x.fragments = r.clauseCountOf kind p ∧
        ∀ truth start, x.value truth start = r.meaning kind truth start p
  | .leaf a condition, item, h => by
      obtain ⟨t, hbuilder, hitem⟩ := Option.bind_eq_some_iff.mp h
      rw [itemBy] at hitem
      obtain ⟨draft, hdraft, rfl⟩ := Option.map_eq_some_iff.mp hitem
      refine ⟨(Operand.clause ((q.join a.occurrence isFirst).clauseOf draft)).signed a.occurrence,
        ?_, ?_, ?_⟩
      · rw [Query.append, Query.appendDraft_eq_extend, Query.extend, join_fragments,
          Operand.fragments_signed]
        simp only [List.append_assoc]
        rfl
      · change r condition.kind = some t at hbuilder
        rw [Operand.clauseCount_signed, clauseCountOf, hbuilder, Option.bind_some, hdraft]
        rfl
      · intro truth start
        rw [Operand.value_signed]
        rfl
  | .group a combinator children, item, h => by
      obtain ⟨t, hbuilder, hitem⟩ := Option.bind_eq_some_iff.mp h
      change r .group = some t at hbuilder
      rw [itemBy] at hitem
      split at hitem
      · rename_i hgroup
        subst hgroup
        obtain ⟨ms, hfragments, hcount, hvalues, hlength⟩ := exists_operands_appendAll
          ((q.join a.occurrence isFirst).beginGroup combinator) true children
        split at hitem
        · exact absurd hitem (by simp)
        · rename_i hitems
          obtain rfl := Option.some.inj hitem
          -- A group that comes to an item has at least one member, which starts its expression.
          rcases ms with _ | ⟨⟨byOr, y⟩, rest⟩
          · exact absurd (List.length_eq_zero_iff.mp hlength.symm) hitems
          refine ⟨(Operand.parens (Disjunction.chain y rest)).signed a.occurrence, ?_, ?_, ?_⟩
          · rw [Query.append, Query.endGroup]
            change Query.fragments (Query.appendAll _ true _) ++ [Fragment.closing] = _
            rw [hfragments, Operand.fragments_signed, Operand.fragments, fragments_chain]
            change (q.join a.occurrence isFirst).fragments ++ [Fragment.opening] ++ _ ++ _ = _
            rw [join_fragments]
            simp [joinedFragments, Predicate.occurrence, Predicate.attributes]
          · rw [Operand.clauseCount_signed, clauseCountOf, if_pos hbuilder, ← hcount,
              Operand.fragments, fragments_chain]
            simp [joinedFragments, Fragment.isClause]
          · intro truth start
            rw [Operand.value_signed, Operand.value, value_chain truth start byOr, hvalues]
            rfl
      · exact absurd hitem (by simp)

theorem exists_operands_appendAll (q : Query) (isFirst : Bool) :
    ∀ ps : List Predicate,
      ∃ ms : List (Bool × Operand),
        (q.appendAll isFirst (r.itemsOf kind ps)).fragments =
          q.fragments ++ joinedFragments isFirst ms ∧
        clauseCount (joinedFragments isFirst ms) = r.clauseCountOfAll kind ps ∧
        (∀ truth start,
          operandValues truth start ms = r.members kind truth q.combinator start ps) ∧
        ms.length = (r.itemsOf kind ps).length
  | [] => ⟨[], by simp [itemsOf, Query.appendAll, joinedFragments, clauseCountOfAll,
      operandValues, members]⟩
  | child :: rest => by
      rw [itemsOf]
      cases hitem : (r child.kind).bind fun t => r.itemBy kind t child with
      | none =>
          have hzero := (clauseCountOf_eq_zero_iff child).mpr hitem
          obtain ⟨ms, hfragments, hcount, hvalues, hlength⟩ :=
            exists_operands_appendAll q isFirst rest
          refine ⟨ms, hfragments, ?_, ?_, hlength⟩
          · rw [hcount, clauseCountOfAll, hzero, Nat.zero_add]
          · intro truth start
            rw [hvalues, members, if_pos hzero]
      | some item =>
          have hpos : r.clauseCountOf kind child ≠ 0 := by
            intro hzero
            have hnone := (clauseCountOf_eq_zero_iff child).mp hzero
            exact absurd (hnone.symm.trans hitem) (by simp)
          obtain ⟨x, hx, hxCount, hxValue⟩ := exists_operand_append q isFirst child item hitem
          obtain ⟨ms, hfragments, hcount, hvalues, hlength⟩ :=
            exists_operands_appendAll (q.append isFirst item) false rest
          refine ⟨(child.occurrence.joinsByOr q.combinator, x) :: ms, ?_, ?_, ?_, ?_⟩
          · rw [Query.appendAll, hfragments, hx, joinedFragments]
            simp
          · rw [joinedFragments, clauseCountOfAll, clauseCount_append, clauseCount_append, hcount,
              hxCount]
            cases isFirst <;> cases child.occurrence.joinsByOr q.combinator <;>
              simp [joint, Fragment.isClause]
          · intro truth start
            rw [operandValues, members, if_neg hpos, hxValue, hvalues, hxCount,
              Query.append_combinator]
          · rw [List.length_cons, List.length_cons, hlength]

end

end Registry

theorem tryAdd_fst_iff (q : Query) (r : Registry) (p : Predicate) (isFirst : Bool) :
    (q.tryAdd r p isFirst).1 = true ↔ r.clauseCountOf q.kind p ≠ 0 := by
  rw [Query.tryAdd_eq, ne_eq, Registry.clauseCountOf_eq_zero_iff]
  cases r.item? q.kind p <;> simp

/-! ### Clauses of leaves -/

def Fragment.clause? : Fragment → Option Clause
  | clause c => some c
  | _ => none

/-- The clause is the one for the leaf, under the names that its values have got. -/
def Leaf.HasClause (kind : EntityKind) (leaf : Leaf) (c : Clause) : Prop :=
  ∃ (q : Query) (draft : Draft), leaf.HasDraft kind draft ∧ c = q.clauseOf draft

theorem exists_writeAll_clauses (q : Query) {kind : EntityKind} {leaves : List Leaf}
    {ls : List Lexeme}
    (h : List.Forall₂ (Leaf.HasDraft kind) leaves (ls.filterMap Lexeme.draft?)) :
    ∃ fs bs, q.writeAll ls = q.extend fs bs ∧
      List.Forall₂ (Leaf.HasClause kind) leaves (fs.filterMap Fragment.clause?) := by
  induction ls generalizing q leaves with
  | nil =>
      obtain rfl := List.forall₂_nil_right_iff.mp h
      exact ⟨[], [], q.extend_nil.symm, .nil⟩
  | cons l ls ih =>
      have hcons (fs : List Fragment) (bs : List Binding)
          (hrest : (q.write l).writeAll ls = (q.write l).extend fs bs) :
          q.writeAll (l :: ls) = q.extend ([q.fragmentOf l] ++ fs) (q.bindingsOf l ++ bs) := by
        rw [Query.writeAll_cons, hrest, Query.write_eq_extend, Query.extend_extend]
      cases l with
      | clause draft =>
          obtain ⟨leaf, others, hdraft, hothers, rfl⟩ := List.forall₂_cons_right_iff.mp h
          obtain ⟨fs, bs, hrest, hclauses⟩ := ih (q.write (.clause draft)) hothers
          exact ⟨_, _, hcons fs bs hrest, .cons ⟨q, draft, hdraft, rfl⟩ hclauses⟩
      | _ =>
          obtain ⟨fs, bs, hrest, hclauses⟩ := ih _ h
          exact ⟨_, _, hcons fs bs hrest, hclauses⟩

/-- The clauses that a predicate adds to a query are those of its leaves that leave one, in the order
of the tree. So the leaf of the `k`-th clause is the `k`-th of these leaves. -/
theorem forall₂_leaves_clauses (q : Query) (r : Registry) (p : Predicate) (isFirst : Bool) :
    ∃ fs bs, (q.tryAdd r p isFirst).2 = q.extend fs bs ∧
      List.Forall₂ (Leaf.HasClause q.kind) (r.leaves q.kind p)
        (fs.filterMap Fragment.clause?) := by
  have hleaves := r.forall₂_leaves q.kind p
  rw [Query.tryAdd_eq]
  cases hitem : r.item? q.kind p with
  | none =>
      rw [hitem] at hleaves
      rw [List.forall₂_nil_right_iff.mp hleaves]
      exact ⟨[], [], q.extend_nil.symm, .nil⟩
  | some item =>
      have hlexemes : List.Forall₂ (Leaf.HasDraft q.kind) (r.leaves q.kind p)
          ((item.lexemes q.combinator isFirst).filterMap Lexeme.draft?) := by
        rw [hitem] at hleaves
        rw [Item.filterMap_draft?_lexemes]
        exact hleaves
      obtain ⟨fs, bs, hwrite, hclauses⟩ := exists_writeAll_clauses q hlexemes
      exact ⟨fs, bs, (q.append_eq_writeAll isFirst item).trans hwrite, hclauses⟩

/-- If anything of a predicate is added to an empty query, then the fragments are an expression, and
for all truth values of the clauses its value is the meaning of the predicate. -/
theorem translation_preserves_meaning (r : Registry) (kind : EntityKind) (pageSize : UInt64)
    (labels : Labels) (limit : Option UInt64) (offset : UInt64) (p : Predicate)
    (hadded : ((Query.new kind pageSize labels limit offset).tryAdd r p true).1 = true) :
    ∃ d : Disjunction,
      Disjunction.read
        ((Query.new kind pageSize labels limit offset).tryAdd r p true).2.fragments = some d ∧
      clauseCount d.fragments = r.clauseCountOf kind p ∧
      ∀ truth : Nat → Bool, d.value truth 0 = r.meaning kind truth 0 p := by
  have htranslation := Query.tryAdd_eq (Query.new kind pageSize labels limit offset) r p true
  rw [show (Query.new kind pageSize labels limit offset).kind = kind from rfl] at htranslation
  cases hitem : r.item? kind p with
  | none =>
      rw [htranslation, hitem] at hadded
      exact absurd hadded (by simp)
  | some item =>
      rw [htranslation, hitem]
      obtain ⟨x, hfragments, hcount, hvalue⟩ := Registry.exists_operand_append
        (Query.new kind pageSize labels limit offset) true p item hitem
      refine ⟨.single (.single x), ?_, hcount, fun truth => hvalue truth 0⟩
      rw [Disjunction.read_eq_some_iff]
      exact hfragments.symm

/-- A group whose members join in all ways; the first has no finite distance. -/
def mixedGroup : Predicate :=
  .allOf [.spatial ⟨0⟩ ⟨0⟩ ⟨0x7ff0000000000000⟩, .notEmpty "a",
    (Predicate.notEmpty "b").should, (Predicate.anyOf [.notEmpty "c", .uuid "d"]).mustNot]

/-- The mixed group reads `(a OR b AND NOT (c OR d))`. -/
theorem translation_preserves_meaning_mixedGroup :
    ((Query.new .node 10).tryAdd .standard mixedGroup true).1 = true ∧
      ∃ d : Disjunction,
        Disjunction.read ((Query.new .node 10).tryAdd .standard mixedGroup true).2.fragments =
          some d ∧
        clauseCount d.fragments = 4 ∧
        ∀ truth : Nat → Bool,
          d.value truth 0 = (truth 0 || (truth 1 && !(truth 2 || truth 3))) := by
  have hadded : ((Query.new .node 10).tryAdd .standard mixedGroup true).1 = true := by decide
  obtain ⟨d, hread, hcount, hvalue⟩ :=
    translation_preserves_meaning .standard .node 10 {} none 0 mixedGroup hadded
  refine ⟨hadded, d, hread, hcount, ?_⟩
  intro truth
  have hmeaning : Registry.meaning .standard .node truth 0 mixedGroup =
      somePieceHolds [(false, truth 0), (true, truth 1),
        (false, !somePieceHolds [(true, truth 2), (true, truth 3)])] := rfl
  rw [hvalue, hmeaning]
  simp [somePieceHolds, pieces]

end GraphSearch

import GraphSearch.Query.Fragment

/-!
Conditions as Boolean expressions.

`NOT` binds tighter than `AND`, and `AND` tighter than `OR`: an expression is a disjunction of
conjunctions of operands, and parentheses turn a disjunction into an operand. Reading accepts exactly
the sequences of fragments that expressions are written as, and gives back the expression.
-/

namespace GraphSearch

mutual

/-- Conjunctions joined by `OR`. -/
inductive Disjunction where
  | single (c : Conjunction)
  | or (c : Conjunction) (rest : Disjunction)

/-- Operands joined by `AND`. -/
inductive Conjunction where
  | single (x : Operand)
  | and (x : Operand) (rest : Conjunction)

/-- What `NOT` applies to: a clause, a negation, or anything in parentheses. -/
inductive Operand where
  | clause (c : Clause)
  | not (x : Operand)
  | parens (d : Disjunction)

end

/-! ### Writing -/

mutual

def Disjunction.fragments : Disjunction → List Fragment
  | .single c => c.fragments
  | .or c rest => c.fragments ++ .or :: rest.fragments

def Conjunction.fragments : Conjunction → List Fragment
  | .single x => x.fragments
  | .and x rest => x.fragments ++ .and :: rest.fragments

def Operand.fragments : Operand → List Fragment
  | .clause c => [.clause c]
  | .not x => .not :: x.fragments
  | .parens d => .opening :: d.fragments ++ [.closing]

end

/-! ### Reading -/

mutual

/-- Reads as many conjunctions as are joined by `OR`, and gives the fragments behind them. -/
def readDisjunction : (fuel : Nat) → List Fragment → Option (Disjunction × List Fragment)
  | 0, _ => none
  | fuel + 1, fs =>
      match readConjunction fuel fs with
      | some (c, .or :: rest) =>
          match readDisjunction fuel rest with
          | some (d, rest) => some (.or c d, rest)
          | none => none
      | some (c, rest) => some (.single c, rest)
      | none => none

/-- Reads as many operands as are joined by `AND`. -/
def readConjunction : (fuel : Nat) → List Fragment → Option (Conjunction × List Fragment)
  | 0, _ => none
  | fuel + 1, fs =>
      match readOperand fuel fs with
      | some (x, .and :: rest) =>
          match readConjunction fuel rest with
          | some (c, rest) => some (.and x c, rest)
          | none => none
      | some (x, rest) => some (.single x, rest)
      | none => none

def readOperand : (fuel : Nat) → List Fragment → Option (Operand × List Fragment)
  | 0, _ => none
  | _ + 1, .clause c :: rest => some (.clause c, rest)
  | fuel + 1, .not :: rest =>
      match readOperand fuel rest with
      | some (x, rest) => some (.not x, rest)
      | none => none
  | fuel + 1, .opening :: rest =>
      match readDisjunction fuel rest with
      | some (d, .closing :: rest) => some (.parens d, rest)
      | _ => none
  | _ + 1, _ => none

end

/-- The expression that the fragments are, if they are one. Each fragment is behind at most three
levels of the grammar. -/
def Disjunction.read (fs : List Fragment) : Option Disjunction :=
  match readDisjunction (3 * fs.length) fs with
  | some (d, []) => some d
  | _ => none

/-! ### Value -/

def Fragment.isClause : Fragment → Bool
  | clause _ => true
  | _ => false

/-- How many clauses there are among fragments. -/
def clauseCount (fs : List Fragment) : Nat :=
  fs.countP Fragment.isClause

mutual

/-- The truth value of an expression when the clauses have the given ones. They are numbered as they
stand in the sequence, and `start` of them stand before the expression. -/
def Disjunction.value (truth : Nat → Bool) (start : Nat) : Disjunction → Bool
  | .single c => c.value truth start
  | .or c rest => c.value truth start || rest.value truth (start + clauseCount c.fragments)

def Conjunction.value (truth : Nat → Bool) (start : Nat) : Conjunction → Bool
  | .single x => x.value truth start
  | .and x rest => x.value truth start && rest.value truth (start + clauseCount x.fragments)

def Operand.value (truth : Nat → Bool) (start : Nat) : Operand → Bool
  | .clause _ => truth start
  | .not x => !x.value truth start
  | .parens d => d.value truth start

end

@[simp] theorem clauseCount_append (fs gs : List Fragment) :
    clauseCount (fs ++ gs) = clauseCount fs + clauseCount gs := by
  rw [clauseCount, List.countP_append]
  rfl

@[simp] theorem clauseCount_cons (f : Fragment) (fs : List Fragment) :
    clauseCount (f :: fs) = clauseCount fs + if f.isClause then 1 else 0 := by
  rw [clauseCount, List.countP_cons]
  rfl

@[simp] theorem clauseCount_nil : clauseCount [] = 0 := rfl

/-! ### Reading accepts exactly what writing produces -/

mutual

theorem Disjunction.fragments_length_pos : ∀ d : Disjunction, 0 < d.fragments.length
  | .single c => c.fragments_length_pos
  | .or c rest => by
      rw [Disjunction.fragments, List.length_append]
      exact Nat.add_pos_left c.fragments_length_pos _

theorem Conjunction.fragments_length_pos : ∀ c : Conjunction, 0 < c.fragments.length
  | .single x => x.fragments_length_pos
  | .and x rest => by
      rw [Conjunction.fragments, List.length_append]
      exact Nat.add_pos_left x.fragments_length_pos _

theorem Operand.fragments_length_pos : ∀ x : Operand, 0 < x.fragments.length
  | .clause c => Nat.one_pos
  | .not x => by simp [Operand.fragments]
  | .parens d => by simp [Operand.fragments]

end

mutual

/-- An expression is read back from its fragments, whatever stands behind them that does not join
on. -/
theorem readDisjunction_fragments (d : Disjunction) (fuel : Nat) (rest : List Fragment)
    (hfuel : 3 * d.fragments.length ≤ fuel) (hor : rest.head? ≠ some .or)
    (hand : rest.head? ≠ some .and) :
    readDisjunction fuel (d.fragments ++ rest) = some (d, rest) := by
  have hpos := d.fragments_length_pos
  obtain _ | fuel := fuel
  · omega
  cases d with
  | single c =>
      rw [Disjunction.fragments] at hfuel ⊢
      rw [readDisjunction, readConjunction_fragments c fuel rest (by omega) hand]
      rcases rest with _ | ⟨f, rest⟩
      · rfl
      · cases f <;> simp_all
  | or c d =>
      rw [Disjunction.fragments, List.length_append, List.length_cons] at hfuel
      rw [Disjunction.fragments, readDisjunction, List.append_assoc, List.cons_append,
        readConjunction_fragments c fuel (.or :: (d.fragments ++ rest)) (by omega) (by simp)]
      simp only [readDisjunction_fragments d fuel rest (by omega) hor hand]

theorem readConjunction_fragments (c : Conjunction) (fuel : Nat) (rest : List Fragment)
    (hfuel : 3 * c.fragments.length ≤ fuel + 1) (hand : rest.head? ≠ some .and) :
    readConjunction fuel (c.fragments ++ rest) = some (c, rest) := by
  have hpos := c.fragments_length_pos
  obtain _ | fuel := fuel
  · omega
  cases c with
  | single x =>
      rw [Conjunction.fragments] at hfuel ⊢
      rw [readConjunction, readOperand_fragments x fuel rest (by omega)]
      rcases rest with _ | ⟨f, rest⟩
      · rfl
      · cases f <;> simp_all
  | and x c =>
      rw [Conjunction.fragments, List.length_append, List.length_cons] at hfuel
      rw [Conjunction.fragments, readConjunction, List.append_assoc, List.cons_append,
        readOperand_fragments x fuel (.and :: (c.fragments ++ rest)) (by omega)]
      simp only [readConjunction_fragments c fuel rest (by omega) hand]

theorem readOperand_fragments (x : Operand) (fuel : Nat) (rest : List Fragment)
    (hfuel : 3 * x.fragments.length ≤ fuel + 2) :
    readOperand fuel (x.fragments ++ rest) = some (x, rest) := by
  have hpos := x.fragments_length_pos
  obtain _ | fuel := fuel
  · omega
  cases x with
  | clause c => rfl
  | not x =>
      rw [Operand.fragments, List.length_cons] at hfuel
      rw [Operand.fragments, List.cons_append, readOperand,
        readOperand_fragments x fuel rest (by omega)]
  | parens d =>
      rw [Operand.fragments, List.length_append, List.length_cons] at hfuel
      rw [Operand.fragments, List.append_assoc, List.cons_append, readOperand,
        readDisjunction_fragments d fuel ([Fragment.closing] ++ rest) (by omega) (by simp)
          (by simp)]
      rfl

end

/-- What the three readers read with some fuel is what was written. -/
structure ReadsWritten (fuel : Nat) : Prop where
  disjunction : ∀ fs d rest, readDisjunction fuel fs = some (d, rest) → d.fragments ++ rest = fs
  conjunction : ∀ fs c rest, readConjunction fuel fs = some (c, rest) → c.fragments ++ rest = fs
  operand : ∀ fs x rest, readOperand fuel fs = some (x, rest) → x.fragments ++ rest = fs

namespace ReadsWritten

variable {fuel : Nat} (ih : ReadsWritten fuel) {fs rest : List Fragment}

include ih

theorem disjunction_succ {d : Disjunction} (h : readDisjunction (fuel + 1) fs = some (d, rest)) :
    d.fragments ++ rest = fs := by
  rw [readDisjunction] at h
  split at h
  · rename_i c behind hc
    rw [← ih.conjunction _ _ _ hc]
    split at h
    · rename_i d' rest' hd
      obtain ⟨rfl, rfl⟩ := Prod.mk.inj (Option.some.inj h)
      rw [← ih.disjunction _ _ _ hd]
      simp [Disjunction.fragments]
    · exact absurd h (by simp)
  · rename_i c behind _ hc
    obtain ⟨rfl, rfl⟩ := Prod.mk.inj (Option.some.inj h)
    exact ih.conjunction _ _ _ hc
  · exact absurd h (by simp)

theorem conjunction_succ {c : Conjunction} (h : readConjunction (fuel + 1) fs = some (c, rest)) :
    c.fragments ++ rest = fs := by
  rw [readConjunction] at h
  split at h
  · rename_i x behind hx
    rw [← ih.operand _ _ _ hx]
    split at h
    · rename_i c' rest' hc
      obtain ⟨rfl, rfl⟩ := Prod.mk.inj (Option.some.inj h)
      rw [← ih.conjunction _ _ _ hc]
      simp [Conjunction.fragments]
    · exact absurd h (by simp)
  · rename_i x behind _ hx
    obtain ⟨rfl, rfl⟩ := Prod.mk.inj (Option.some.inj h)
    exact ih.operand _ _ _ hx
  · exact absurd h (by simp)

theorem operand_succ {x : Operand} (h : readOperand (fuel + 1) fs = some (x, rest)) :
    x.fragments ++ rest = fs := by
  rcases fs with _ | ⟨f, fs⟩
  · simp [readOperand] at h
  · cases f with
    | clause c =>
        rw [readOperand] at h
        obtain ⟨rfl, rfl⟩ := Prod.mk.inj (Option.some.inj h)
        rfl
    | not =>
        rw [readOperand] at h
        split at h
        · rename_i x' rest' hx
          obtain ⟨rfl, rfl⟩ := Prod.mk.inj (Option.some.inj h)
          rw [← ih.operand _ _ _ hx]
          rfl
        · exact absurd h (by simp)
    | opening =>
        rw [readOperand] at h
        split at h
        · rename_i d rest' hd
          obtain ⟨rfl, rfl⟩ := Prod.mk.inj (Option.some.inj h)
          rw [← ih.disjunction _ _ _ hd]
          simp [Operand.fragments]
        · exact absurd h (by simp)
    | _ => simp [readOperand] at h

end ReadsWritten

theorem readsWritten (fuel : Nat) : ReadsWritten fuel := by
  induction fuel with
  | zero => constructor <;> simp [readDisjunction, readConjunction, readOperand]
  | succ fuel ih =>
      constructor
      · intro fs d rest h
        exact ih.disjunction_succ h
      · intro fs c rest h
        exact ih.conjunction_succ h
      · intro fs x rest h
        exact ih.operand_succ h

theorem Disjunction.read_eq_some_iff (fs : List Fragment) (d : Disjunction) :
    Disjunction.read fs = some d ↔ d.fragments = fs := by
  constructor
  · intro h
    rw [Disjunction.read] at h
    split at h
    · rename_i d' hd
      obtain rfl := Option.some.inj h
      simpa using (readsWritten _).disjunction _ _ _ hd
    · exact absurd h (by simp)
  · rintro rfl
    have hread := readDisjunction_fragments d (3 * d.fragments.length) [] (Nat.le_refl _)
      (by simp) (by simp)
    rw [List.append_nil] at hread
    rw [Disjunction.read, hread]

end GraphSearch

import GraphSearch.Proofs.ParameterNames

/-!
Queries under construction.

A query is built by a sequence of calls. Whatever the calls are, also when they take back what was
added after an outdated checkpoint, the bindings stay numbered, so that a name stands for one value.
-/

namespace GraphSearch

/-- A call on a query under construction. -/
inductive QueryCall where
  | withLabels (labels : Labels)
  | withLimit (limit : Option UInt64) (offset : UInt64)
  | and
  | or
  | not
  | beginGroup (combinator : Combinator)
  | endGroup
  | addClause (key operator : String) (value : Value) (ignoreCase isProperty : Bool)
  | addComposite (parts : List Part)
  | bind (key : String) (value : Value)
  | rollback (c : Checkpoint)
  | sortBy (order : SortOrder)
  | nextPage
  | join (occurrence : Occurrence) (isFirst : Bool)
  | add (r : Registry) (p : Predicate) (isFirst : Bool)

namespace Query

def call (q : Query) : QueryCall → Query
  | .withLabels labels => { q with labels := labels }
  | .withLimit limit offset => { q with paging := { q.paging with limit := limit, offset := offset } }
  | .and => q.push .and
  | .or => q.push .or
  | .not => q.push .not
  | .beginGroup combinator => q.beginGroup combinator
  | .endGroup => q.endGroup
  | .addClause key operator value ignoreCase isProperty =>
      q.addClause key operator value ignoreCase isProperty
  | .addComposite parts => q.addComposite parts
  | .bind key value => q.bind key value
  | .rollback c => q.rollback c
  | .sortBy order => q.sortBy order
  | .nextPage => q.nextPage
  | .join occurrence isFirst => q.join occurrence isFirst
  | .add r p isFirst => q.add r p isFirst

/-- The query after a sequence of calls. -/
def run (q : Query) (calls : List QueryCall) : Query :=
  calls.foldl call q

end Query

theorem Numbered.take {bs : List Binding} (h : Numbered bs) (n : Nat) : Numbered (bs.take n) := by
  induction h with
  | nil => simpa using Numbered.nil
  | @snoc bs hbs key value ih =>
      by_cases hn : n ≤ bs.length
      · rw [List.take_append_of_le_length hn]
        exact ih
      · rw [List.take_of_length_le (by simp; omega)]
        exact hbs.snoc key value

namespace Query

variable {q : Query}

theorem numbered_append (h : Numbered q.bindings) (isFirst : Bool) (item : Item) :
    Numbered (q.append isFirst item).bindings := by
  rw [append_eq_writeAll]
  exact numbered_writeAll h _

theorem numbered_add (h : Numbered q.bindings) (r : Registry) (p : Predicate) (isFirst : Bool) :
    Numbered (q.add r p isFirst).bindings := by
  rw [add, tryAdd_eq]
  cases r.item? q.kind p with
  | none => exact h
  | some item => exact numbered_append h isFirst item

theorem numbered_call (h : Numbered q.bindings) (c : QueryCall) :
    Numbered (q.call c).bindings := by
  cases c with
  | addClause key operator value ignoreCase isProperty =>
      rw [call, addClause]
      split
      · exact h
      · exact numbered_bind h key value
  | bind key value => exact numbered_bind h key value
  | rollback c => exact h.take c.bindings
  | join o isFirst =>
      rw [call, join_eq_writeAll]
      exact numbered_writeAll h _
  | add r p isFirst => exact numbered_add h r p isFirst
  | _ => exact h

theorem numbered_run (h : Numbered q.bindings) (calls : List QueryCall) :
    Numbered (q.run calls).bindings := by
  induction calls generalizing q with
  | nil => exact h
  | cons c calls ih => exact ih (numbered_call h c)

end Query

theorem Dictionary.mem_of_get?_ofEntries {α : Type} {entries : List (String × α)} {key : String}
    {value : α} (h : (ofEntries entries).get? key = some value) : (key, value) ∈ entries := by
  induction entries using List.reverseRecOn with
  | nil => exact absurd h (by simp [ofEntries])
  | append_singleton entries entry ih =>
      rw [ofEntries_concat, get?_insert] at h
      split at h
      · rename_i hkey
        obtain rfl := Option.some.inj h
        subst hkey
        exact List.mem_append_right _ List.mem_cons_self
      · exact List.mem_append_left _ (ih h)

namespace Query

theorem exists_mem_of_parameters_get? {q : Query} {name : String} {value : Value}
    (h : q.parameters.get? name = some value) :
    ∃ b ∈ q.bindings, b.name = name ∧ b.value = value := by
  obtain ⟨b, hb, heq⟩ := List.mem_map.mp (Dictionary.mem_of_get?_ofEntries h)
  exact ⟨b, hb, congrArg Prod.fst heq, congrArg Prod.snd heq⟩

theorem parameters_get?_freshName {q : Query} (h : Numbered q.bindings) (key : String)
    (value : Value) : (q.bind key value).parameters.get? (q.freshName key) = some value.stored :=
  parameters_get?_of_mem (numbered_bind h key value)
    (List.mem_append_right q.bindings (List.mem_singleton_self (q.nextBinding key value)))

/-- A parameter keeps its value when more values are bound. -/
theorem parameters_get?_extend {q : Query} {fs : List Fragment} {bs : List Binding}
    (hnumbered : Numbered (q.extend fs bs).bindings) {name : String} {value : Value}
    (h : q.parameters.get? name = some value) :
    (q.extend fs bs).parameters.get? name = some value := by
  obtain ⟨b, hb, rfl, rfl⟩ := exists_mem_of_parameters_get? h
  exact parameters_get?_of_mem hnumbered (List.mem_append_left bs hb)

end Query

end GraphSearch

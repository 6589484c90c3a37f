import GraphSearch.Proofs.Construction
import GraphSearch.Query.Digest
import GraphSearch.Query.Statement

/-!
Parameters kept in a ledger.

A query works its names and its parameters out from its bindings. A ledger keeps them from call to
call: a dictionary of the parameters, a stack of their names, and a running count for each base,
which goes down again when a name is taken back. Main statement: whatever the calls are, a query
with a ledger is the query with its bindings. Its names are plain, no two are the same, and the next
one has no value yet.
-/

namespace GraphSearch

/-! ### Dictionaries without a key -/

namespace Dictionary

def erase {α : Type} (d : Dictionary α) (key : String) : Dictionary α :=
  d.filter fun entry => entry.1 ≠ key

theorem erase_of_not_mem {α : Type} {d : Dictionary α} {key : String} (h : key ∉ d.map Prod.fst) :
    erase d key = d := by
  rw [erase, List.filter_eq_self]
  intro entry hentry
  exact decide_eq_true fun heq => h (heq ▸ List.mem_map_of_mem hentry)

/-- Erasing what was put under a new key leaves what was there before. -/
theorem erase_insert {α : Type} {d : Dictionary α} {key : String} (value : α)
    (h : key ∉ d.map Prod.fst) : erase (d.insert key value) key = d := by
  induction d with
  | nil => simp [insert, erase]
  | cons entry rest ih =>
      obtain ⟨k, v⟩ := entry
      rw [List.map_cons, List.mem_cons, not_or] at h
      rw [insert]
      split
      · rw [erase, List.filter_cons_of_neg (by simp)]
        exact erase_of_not_mem (by simpa using h)
      · rw [if_neg h.1, erase, List.filter_cons_of_pos (by simpa using Ne.symm h.1)]
        exact congrArg ((k, v) :: ·) (ih h.2)

end Dictionary

/-! ### The ledger -/

/-- The name of the parameter of a base before which there are `n` others. -/
def numberedName (base : String) (n : Nat) : String :=
  if n = 0 then base else base ++ "_" ++ toString n

/-- The parameters of a query, kept from call to call. -/
structure Ledger where
  parameters : Dictionary Value := []
  /-- The names and their bases, in the order in which they were given. -/
  bound : List (String × String) := []
  /-- How many parameters there are with a base. A base whose names have all been taken back stays
  with none. -/
  counts : Dictionary Nat := []

namespace Ledger

def count (l : Ledger) (base : String) : Nat :=
  (l.counts.get? base).getD 0

/-- Puts a value under the next name of its key, and gives the name. -/
def bind (l : Ledger) (key : String) (value : Value) : String × Ledger :=
  let base := Identifier.parameterBase key
  let name := numberedName base (l.count base)
  (name, {
    parameters := l.parameters.insert name value.stored
    bound := l.bound ++ [(name, base)]
    counts := l.counts.insert base (l.count base + 1) })

/-- Takes the last name back. -/
def unbind (l : Ledger) : Ledger :=
  match l.bound.getLast? with
  | none => l
  | some (name, base) => {
      parameters := l.parameters.erase name
      bound := l.bound.dropLast
      counts := match l.counts.get? base with
        | some count => l.counts.insert base (count - 1)
        | none => l.counts }

/-- Takes names back until no more than `kept` are left. -/
def rollback (l : Ledger) (kept : Nat) : Ledger :=
  unbind^[l.bound.length - kept] l

/-- The ledger has the names, the values and the counts of the bindings. -/
structure Keeps (bs : List Binding) (l : Ledger) : Prop where
  parameters_eq : l.parameters = Dictionary.ofEntries (bs.map fun b => (b.name, b.value))
  bound_eq : l.bound = bs.map fun b => (b.name, b.base)
  count_eq : ∀ base, l.count base = bs.countP fun b => b.base = base

theorem keeps_nil : Keeps [] {} :=
  ⟨rfl, rfl, fun _ => rfl⟩

theorem Keeps.bind {bs : List Binding} {l : Ledger} (h : l.Keeps bs) (key : String)
    (value : Value) :
    let b : Binding := ⟨Identifier.parameterBase key,
      bs.countP fun b => b.base = Identifier.parameterBase key, value.stored⟩
    (l.bind key value).1 = b.name ∧ (l.bind key value).2.Keeps (bs ++ [b]) := by
  intro b
  have hname : numberedName b.base (l.count b.base) = b.name := by
    rw [h.count_eq]
    rfl
  refine ⟨hname, ?_, ?_, ?_⟩
  · change l.parameters.insert (numberedName b.base (l.count b.base)) b.value = _
    rw [hname, h.parameters_eq, List.map_append, List.map_singleton, Dictionary.ofEntries_concat]
  · change l.bound ++ [(numberedName b.base (l.count b.base), b.base)] = _
    rw [hname, h.bound_eq, List.map_append, List.map_singleton]
  · intro base
    change ((l.counts.insert b.base (l.count b.base + 1)).get? base).getD 0 = _
    rw [Dictionary.get?_insert, List.countP_append, List.countP_singleton]
    by_cases hbase : base = b.base
    · subst hbase
      simp [h.count_eq]
    · rw [if_neg hbase, if_neg (by simpa using Ne.symm hbase)]
      exact h.count_eq base

theorem Keeps.unbind {bs : List Binding} {b : Binding} {l : Ledger} (h : l.Keeps (bs ++ [b]))
    (hnumbered : Numbered (bs ++ [b])) : l.unbind.Keeps bs := by
  have hlast : l.bound.getLast? = some (b.name, b.base) := by
    rw [h.bound_eq, List.map_append, List.map_singleton, List.getLast?_concat]
  have hcount := h.count_eq b.base
  rw [List.countP_append, List.countP_singleton, if_pos (by simp)] at hcount
  -- The count of the base is there, since it is not zero.
  obtain ⟨n, hn⟩ : ∃ n, l.counts.get? b.base = some n := by
    rw [count] at hcount
    cases hget : l.counts.get? b.base with
    | none => simp [hget] at hcount
    | some n => exact ⟨n, rfl⟩
  have hbelow : n = (bs.countP fun c => c.base = b.base) + 1 := by
    rw [count, hn] at hcount
    exact hcount
  rw [Ledger.unbind, hlast]
  refine ⟨?_, ?_, ?_⟩
  · -- The name is under no other binding, so erasing it leaves what was there before it.
    have hnodup := hnumbered.nodup_names
    rw [List.map_append, List.nodup_append] at hnodup
    have hnew : b.name ∉
        (Dictionary.ofEntries (bs.map fun b => (b.name, b.value))).map Prod.fst := by
      intro hmem
      have hkeys : ((bs.map fun b => (b.name, b.value)).map Prod.fst).Nodup := by
        rw [List.map_map]
        exact hnodup.1
      have hold := ((Dictionary.ofEntries_perm hkeys).map Prod.fst).mem_iff.mp hmem
      rw [List.map_map] at hold
      exact hnodup.2.2 b.name hold b.name (by simp) rfl
    change l.parameters.erase b.name = _
    rw [h.parameters_eq, List.map_append, List.map_singleton, Dictionary.ofEntries_concat,
      Dictionary.erase_insert _ hnew]
  · change l.bound.dropLast = _
    rw [h.bound_eq, List.map_append, List.map_singleton, List.dropLast_concat]
  · intro base
    have hbase := h.count_eq base
    rw [List.countP_append, List.countP_singleton] at hbase
    change ((match l.counts.get? b.base with
      | some count => l.counts.insert b.base (count - 1)
      | none => l.counts).get? base).getD 0 = _
    rw [hn]
    dsimp only
    rw [Dictionary.get?_insert]
    by_cases hsame : base = b.base
    · subst hsame
      simp [hbelow]
    · rw [if_neg hsame]
      rw [if_neg (by simpa using Ne.symm hsame)] at hbase
      exact hbase

theorem unbind_of_bound_nil {l : Ledger} (h : l.bound = []) : l.unbind = l := by
  rw [Ledger.unbind, h]
  rfl

theorem Keeps.iterate_unbind {bs : List Binding} {l : Ledger} (h : l.Keeps bs)
    (hnumbered : Numbered bs) (n : Nat) :
    Keeps (bs.take (bs.length - n)) (Ledger.unbind^[n] l) := by
  -- The bindings lose their last one at each step, and stay numbered.
  induction n generalizing bs l with
  | zero =>
      rw [Nat.sub_zero, List.take_length]
      exact h
  | succ n ih =>
      rw [Function.iterate_succ_apply]
      obtain rfl | ⟨rest, b, rfl⟩ := List.eq_nil_or_concat bs
      · rw [unbind_of_bound_nil h.bound_eq, List.take_nil]
        have hrest := ih h hnumbered
        rwa [List.take_nil] at hrest
      · rw [List.concat_eq_append] at h hnumbered ⊢
        have hrest : Numbered rest := by
          have htake := hnumbered.take rest.length
          rwa [List.take_left] at htake
        have hlength : (rest ++ [b]).length - (n + 1) = rest.length - n := by
          rw [List.length_append, List.length_singleton]
          omega
        rw [hlength, List.take_append_of_le_length (by omega)]
        exact ih (h.unbind hnumbered) hrest

theorem Keeps.rollback {bs : List Binding} {l : Ledger} (h : l.Keeps bs) (hnumbered : Numbered bs)
    (kept : Nat) : Keeps (bs.take kept) (l.rollback kept) := by
  have hback := h.iterate_unbind hnumbered (l.bound.length - kept)
  rw [h.bound_eq, List.length_map] at hback
  rw [Ledger.rollback, h.bound_eq, List.length_map]
  by_cases hkept : kept ≤ bs.length
  · rwa [Nat.sub_sub_self hkept] at hback
  · rw [List.take_of_length_le (by omega)] at hback
    rwa [List.take_of_length_le (by omega)]

end Ledger

/-- The names of a base are numbered without gaps, in the order in which they were given. -/
theorem Numbered.names_of_base {bs : List Binding} (h : Numbered bs) (base : String) :
    (bs.filter fun b => b.base = base).map Binding.name =
      (List.range (bs.countP fun b => b.base = base)).map (numberedName base) := by
  induction h with
  | nil => rfl
  | @snoc bs hbs key value ih =>
      rw [List.filter_append, List.map_append, ih, List.countP_append, List.countP_singleton]
      by_cases hbase : Identifier.parameterBase key = base
      · subst hbase
        rw [List.filter_cons_of_pos (by simp), if_pos (by simp), List.range_succ, List.map_append]
        rfl
      · rw [List.filter_cons_of_neg (by simpa using hbase), if_neg (by simpa using hbase)]
        exact List.append_nil _

/-! ### Queries with a ledger -/

/-- A call on a query under construction. -/
inductive Edit where
  | and
  | or
  | not
  | beginGroup (combinator : Combinator)
  | endGroup
  | addClause (key operator : String) (value : Value) (ignoreCase isProperty : Bool)
  | addNullTest (key operator : String)
  | addComposite (parts : List Part)
  | bind (key : String) (value : Value)
  | checkpoint
  | rollback (c : Checkpoint)
  | withLabels (labels : Labels)
  | withLimit (limit : Option UInt64) (offset : UInt64)
  | sortBy (order : SortOrder)
  | nextPage

inductive EditReply where
  | nothing
  | name (s : String)
  | checkpoint (c : Checkpoint)
deriving DecidableEq

/-- What can be seen of a query under construction. -/
structure QueryView where
  countStatement : String
  sorted : String
  unsorted : String
  parameters : Dictionary Value
  digest : UInt64
  combinator : Combinator

namespace Query

def edit (q : Query) : Edit → Query
  | .and => q.push .and
  | .or => q.push .or
  | .not => q.push .not
  | .beginGroup combinator => q.beginGroup combinator
  | .endGroup => q.endGroup
  | .addClause key operator value ignoreCase isProperty =>
      q.addClause key operator value ignoreCase isProperty
  | .addNullTest key operator => q.addNullTest key operator
  | .addComposite parts => q.addComposite parts
  | .bind key value => q.bind key value
  | .checkpoint => q
  | .rollback c => q.rollback c
  | .withLabels labels => { q with labels := labels }
  | .withLimit limit offset =>
      { q with paging := { q.paging with limit := limit, offset := offset } }
  | .sortBy order => q.sortBy order
  | .nextPage => q.nextPage

def editReply (q : Query) : Edit → EditReply
  | .bind key _ => .name (q.freshName key)
  | .checkpoint => .checkpoint q.checkpoint
  | _ => .nothing

def view (q : Query) : QueryView where
  countStatement := q.countStatement
  sorted := q.fetchStatement true
  unsorted := q.fetchStatement false
  parameters := q.parameters
  digest := q.digest
  combinator := q.combinator

/-- What the calls return, one after the other. -/
def editReplies (q : Query) : List Edit → List EditReply
  | [] => []
  | e :: rest => q.editReply e :: (q.edit e).editReplies rest

end Query

/-- A query under construction that keeps its parameters in a ledger. -/
structure LedgerQuery where
  kind : EntityKind
  labels : Labels
  paging : Paging
  fragments : List Fragment := []
  groups : List Combinator := []
  sort : Option SortOrder := none
  ledger : Ledger := {}

namespace LedgerQuery

def new (kind : EntityKind) (pageSize : UInt64) (labels : Labels := {})
    (limit : Option UInt64 := none) (offset : UInt64 := 0) : LedgerQuery where
  kind := kind
  labels := labels
  paging := { Paging.ofSize pageSize with limit := limit, offset := offset }

def push (b : LedgerQuery) (f : Fragment) : LedgerQuery :=
  { b with fragments := b.fragments ++ [f] }

def addClause (b : LedgerQuery) (key operator : String) (value : Value)
    (ignoreCase isProperty : Bool) : LedgerQuery :=
  if value.isNull then b.push (.clause (.simple key operator none ignoreCase isProperty))
  else
    let (name, ledger) := b.ledger.bind key value
    { b with ledger := ledger }.push
      (.clause (.simple key operator (some name) ignoreCase isProperty))

def checkpoint (b : LedgerQuery) : Checkpoint :=
  ⟨b.fragments.length, b.ledger.bound.length, b.groups.length⟩

def rollback (b : LedgerQuery) (c : Checkpoint) : LedgerQuery :=
  { b with
    fragments := b.fragments.take c.fragments
    groups := b.groups.drop (b.groups.length - c.groups)
    ledger := b.ledger.rollback c.bindings }

def edit (b : LedgerQuery) : Edit → LedgerQuery
  | .and => b.push .and
  | .or => b.push .or
  | .not => b.push .not
  | .beginGroup combinator => { b.push .opening with groups := combinator :: b.groups }
  | .endGroup => { b.push .closing with groups := b.groups.tail }
  | .addClause key operator value ignoreCase isProperty =>
      b.addClause key operator value ignoreCase isProperty
  | .addNullTest key operator => b.addClause key operator .null false true
  | .addComposite parts => b.push (.clause (.composite parts))
  | .bind key value => { b with ledger := (b.ledger.bind key value).2 }
  | .checkpoint => b
  | .rollback c => b.rollback c
  | .withLabels labels => { b with labels := labels }
  | .withLimit limit offset =>
      { b with paging := { b.paging with limit := limit, offset := offset } }
  | .sortBy order => { b with sort := some order }
  | .nextPage => { b with paging := b.paging.next }

def editReply (b : LedgerQuery) : Edit → EditReply
  | .bind key value => .name (b.ledger.bind key value).1
  | .checkpoint => .checkpoint b.checkpoint
  | _ => .nothing

def editReplies (b : LedgerQuery) : List Edit → List EditReply
  | [] => []
  | e :: rest => b.editReply e :: (b.edit e).editReplies rest

/-- The query with the bindings that the ledger stands for. -/
def withBindings (b : LedgerQuery) (bs : List Binding) : Query :=
  ⟨b.kind, b.labels, b.paging, b.fragments, bs, b.groups, b.sort⟩

def digest (b : LedgerQuery) : UInt64 :=
  sipHash (b.kind.digestInput ++ Encoding.optional Encoding.text b.labels.type ++
    Encoding.optional Encoding.text b.labels.source ++
    Encoding.optional Encoding.text b.labels.target ++
    b.fragments.flatMap (Fragment.digestInput b.ledger.parameters))

/-- The statements have no bindings in them. -/
def view (b : LedgerQuery) : QueryView where
  countStatement := (b.withBindings []).countStatement
  sorted := (b.withBindings []).fetchStatement true
  unsorted := (b.withBindings []).fetchStatement false
  parameters := b.ledger.parameters
  digest := b.digest
  combinator := (b.withBindings []).combinator

/-- The ledger stands for the bindings of the query, and all else is the same. -/
def StandsFor (b : LedgerQuery) (q : Query) : Prop :=
  ∃ bs, q = b.withBindings bs ∧ Numbered bs ∧ b.ledger.Keeps bs

namespace StandsFor

variable {b : LedgerQuery} {q : Query}

theorem bind (h : b.StandsFor q) (key : String) (value : Value) :
    (b.ledger.bind key value).1 = q.freshName key ∧
      StandsFor { b with ledger := (b.ledger.bind key value).2 } (q.bind key value) := by
  obtain ⟨bs, rfl, hnumbered, hkeeps⟩ := h
  obtain ⟨hname, hbound⟩ := hkeeps.bind key value
  exact ⟨hname, _, rfl, Query.numbered_bind hnumbered key value, hbound⟩

theorem push (h : b.StandsFor q) (f : Fragment) : (b.push f).StandsFor (q.push f) := by
  obtain ⟨bs, rfl, hnumbered, hkeeps⟩ := h
  exact ⟨bs, rfl, hnumbered, hkeeps⟩

theorem addClause (h : b.StandsFor q) (key operator : String) (value : Value)
    (ignoreCase isProperty : Bool) :
    (b.addClause key operator value ignoreCase isProperty).StandsFor
      (q.addClause key operator value ignoreCase isProperty) := by
  rw [LedgerQuery.addClause, Query.addClause]
  split
  · exact h.push _
  · obtain ⟨hname, hbind⟩ := h.bind key value
    dsimp only
    rw [hname]
    exact hbind.push _

theorem edit (h : b.StandsFor q) (e : Edit) : (b.edit e).StandsFor (q.edit e) := by
  cases e with
  | addClause key operator value ignoreCase isProperty =>
      exact h.addClause key operator value ignoreCase isProperty
  | addNullTest key operator => exact h.addClause key operator .null false true
  | bind key value => exact (h.bind key value).2
  | rollback c =>
      obtain ⟨bs, rfl, hnumbered, hkeeps⟩ := h
      exact ⟨_, rfl, hnumbered.take c.bindings, hkeeps.rollback hnumbered c.bindings⟩
  | _ =>
      obtain ⟨bs, rfl, hnumbered, hkeeps⟩ := h
      exact ⟨bs, rfl, hnumbered, hkeeps⟩

theorem editReply_eq (h : b.StandsFor q) (e : Edit) : b.editReply e = q.editReply e := by
  cases e with
  | bind key value => exact congrArg EditReply.name (h.bind key value).1
  | checkpoint =>
      obtain ⟨bs, rfl, hnumbered, hkeeps⟩ := h
      have hlength : b.ledger.bound.length = bs.length := by
        rw [hkeeps.bound_eq, List.length_map]
      rw [LedgerQuery.editReply, LedgerQuery.checkpoint, hlength]
      rfl
  | _ => rfl

theorem view_eq (h : b.StandsFor q) : b.view = q.view := by
  obtain ⟨bs, rfl, hnumbered, hkeeps⟩ := h
  rw [LedgerQuery.view, LedgerQuery.digest, hkeeps.parameters_eq]
  rfl

theorem edits (h : b.StandsFor q) (es : List Edit) :
    (es.foldl LedgerQuery.edit b).StandsFor (es.foldl Query.edit q) := by
  induction es generalizing b q with
  | nil => exact h
  | cons e rest ih => exact ih (h.edit e)

theorem editReplies_eq (h : b.StandsFor q) (es : List Edit) :
    b.editReplies es = q.editReplies es := by
  induction es generalizing b q with
  | nil => rfl
  | cons e rest ih =>
      rw [LedgerQuery.editReplies, Query.editReplies, h.editReply_eq e, ih (h.edit e)]

end StandsFor

theorem standsFor_new (kind : EntityKind) (pageSize : UInt64) (labels : Labels)
    (limit : Option UInt64) (offset : UInt64) :
    (new kind pageSize labels limit offset).StandsFor
      (Query.new kind pageSize labels limit offset) :=
  ⟨[], rfl, Numbered.nil, Ledger.keeps_nil⟩

end LedgerQuery

/-! ### Names that are given -/

namespace Ledger.Keeps

variable {bs : List Binding} {l : Ledger}

theorem names_eq (h : l.Keeps bs) : l.bound.map Prod.fst = bs.map Binding.name := by
  rw [h.bound_eq, List.map_map]
  rfl

theorem keys_perm (h : l.Keeps bs) (hnumbered : Numbered bs) :
    (l.parameters.map Prod.fst).Perm (bs.map Binding.name) := by
  have hnodup : ((bs.map fun b => (b.name, b.value)).map Prod.fst).Nodup := by
    rw [List.map_map]
    exact hnumbered.nodup_names
  have hperm := (Dictionary.ofEntries_perm hnodup).map Prod.fst
  rw [← h.parameters_eq, List.map_map] at hperm
  exact hperm

theorem names_of_base (h : l.Keeps bs) (hnumbered : Numbered bs) (base : String) :
    (l.bound.filter fun entry => entry.2 = base).map Prod.fst =
      (List.range (l.count base)).map (numberedName base) := by
  rw [h.bound_eq, List.filter_map, List.map_map, h.count_eq, ← hnumbered.names_of_base]
  rfl

theorem count_eq_live (h : l.Keeps bs) (base : String) :
    l.count base = (l.bound.filter fun entry => entry.2 = base).length := by
  rw [h.count_eq, h.bound_eq, List.filter_map, List.length_map, List.countP_eq_length_filter]
  rfl

theorem bind_fst_not_mem (h : l.Keeps bs) (hnumbered : Numbered bs) (key : String)
    (value : Value) : (l.bind key value).1 ∉ bs.map Binding.name := by
  obtain ⟨hname, -⟩ := h.bind key value
  have hnodup := (hnumbered.snoc key value.stored).nodup_names
  rw [List.map_append, List.nodup_append] at hnodup
  rw [hname]
  intro hmem
  exact hnodup.2.2 _ hmem _ (List.mem_singleton_self _) rfl

end Ledger.Keeps

/-- Names are always fresh plain identifiers. After any calls, the names in the ledger are pairwise
different, plain, and those of the parameters; the count of each base is that of its live names, and
these are numbered without gaps in the order in which they were given. So the next name of any key
is in no use, and its value takes the place of no other. A query that has no ledger has the same
names, parameters and counts, and gives the same name next. -/
theorem bound_names_fresh (kind : EntityKind) (pageSize : UInt64) (labels : Labels)
    (limit : Option UInt64) (offset : UInt64) (edits : List Edit) :
    let b := edits.foldl LedgerQuery.edit (LedgerQuery.new kind pageSize labels limit offset)
    let q := edits.foldl Query.edit (Query.new kind pageSize labels limit offset)
    let names := b.ledger.bound.map Prod.fst
    names.Nodup ∧ (b.ledger.parameters.map Prod.fst).Perm names ∧
      (∀ name ∈ names, Identifier.IsName name) ∧
      (∀ base,
        let live := b.ledger.bound.filter fun entry => entry.2 = base
        b.ledger.count base = live.length ∧
          live.map Prod.fst = (List.range live.length).map (numberedName base)) ∧
      (∀ key value,
        let bound := b.ledger.bind key value
        bound.1 ∉ names ∧ bound.2.parameters.get? bound.1 = some value.stored ∧
          ∀ other, other ≠ bound.1 →
            bound.2.parameters.get? other = b.ledger.parameters.get? other) ∧
      names = q.bindings.map Binding.name ∧ b.ledger.parameters = q.parameters ∧
      (∀ base, b.ledger.count base = q.boundCount base) ∧
      ∀ key value, (b.ledger.bind key value).1 = q.freshName key := by
  intro b q names
  have hstands : b.StandsFor q :=
    (LedgerQuery.standsFor_new kind pageSize labels limit offset).edits edits
  obtain ⟨bs, hq, hnumbered, hkeeps⟩ := id hstands
  have hnames : names = bs.map Binding.name := hkeeps.names_eq
  rw [hnames]
  refine ⟨hnumbered.nodup_names, hkeeps.keys_perm hnumbered, ?_, ?_, ?_, ?_, ?_, ?_, ?_⟩
  · intro name hname
    obtain ⟨binding, hbinding, rfl⟩ := List.mem_map.mp hname
    obtain ⟨key, hbase⟩ := hnumbered.exists_key binding hbinding
    exact Binding.isName hbase
  · intro base live
    rw [← hkeeps.count_eq_live base]
    exact ⟨rfl, hkeeps.names_of_base hnumbered base⟩
  · intro key value bound
    refine ⟨hkeeps.bind_fst_not_mem hnumbered key value, ?_, ?_⟩
    · exact (Dictionary.get?_insert _ _ _ _).trans (if_pos rfl)
    · intro other hother
      exact (Dictionary.get?_insert _ _ _ _).trans (if_neg hother)
  · rw [hq]
    rfl
  · rw [hq]
    exact hkeeps.parameters_eq
  · rw [hq]
    exact hkeeps.count_eq
  · intro key value
    exact (hstands.bind key value).1

example :
    (LedgerQuery.new .node 10).editReplies
        [.bind "first-name" (.integer 1), .bind "first_name" (.integer 2), .checkpoint,
          .bind "first.name" (.integer 3), .rollback ⟨0, 1, 0⟩,
          .bind "first_name_param_1" (.integer 4), .bind "first name" (.integer 5)] =
      [.name "first_name_param", .name "first_name_param_1", .checkpoint ⟨0, 2, 0⟩,
        .name "first_name_param_2", .nothing, .name "first_name_param_1_param",
        .name "first_name_param_1"] := by
  rfl

end GraphSearch

import GraphSearch.Proofs.Ledger

/-!
A rollback undoes what was done since its checkpoint.

Calls that close no group of a checkpoint, and go back only to checkpoints taken since, build on
what was there at the checkpoint and take nothing of it away. Going back to it leaves exactly that;
order, paging and labels stay as the calls have left them. Main statement: a query with a ledger is
then as good as one on which the calls have never been made, whatever is done with it next, although
the ledger may know bases that the other has never heard of.
-/

namespace GraphSearch

/-! ### Calls that spare what was there -/

/-- Whether a call leaves what was there at the checkpoint `c`: it closes no group that was open
then, and goes back to none but the `taken` checkpoints. -/
def Edit.Spares (c : Checkpoint) (taken : List Checkpoint) (q : Query) : Edit → Prop
  | .endGroup => q.groups = [] ∨ c.groups < q.groups.length
  | .rollback d => d ∈ taken
  | _ => True

def Edit.takenAfter (taken : List Checkpoint) (q : Query) : Edit → List Checkpoint
  | .checkpoint => q.checkpoint :: taken
  | _ => taken

/-- Whether calls one after the other leave what was there at the checkpoint `c`. Those checkpoints
count as `taken` that have been taken since. -/
def Spares (c : Checkpoint) : List Checkpoint → Query → List Edit → Prop
  | _, _, [] => True
  | taken, q, e :: rest =>
      e.Spares c taken q ∧ Spares c (e.takenAfter taken q) (q.edit e) rest

namespace Query

/-- The query `t` has come about from `q` by additions, its settings apart. -/
structure Extends (q t : Query) : Prop where
  kind_eq : t.kind = q.kind
  fragments : q.fragments <+: t.fragments
  bindings : q.bindings <+: t.bindings
  groups : q.groups <:+ t.groups

/-- A checkpoint at which everything of the query was there. -/
structure ReachedBy (q : Query) (c : Checkpoint) : Prop where
  fragments : q.fragments.length ≤ c.fragments
  bindings : q.bindings.length ≤ c.bindings
  groups : q.groups.length ≤ c.groups

namespace Extends

variable {q t : Query}

theorem refl (q : Query) : q.Extends q :=
  ⟨rfl, List.prefix_rfl, List.prefix_rfl, List.suffix_rfl⟩

theorem reachedBy_checkpoint (h : q.Extends t) : q.ReachedBy t.checkpoint :=
  ⟨h.fragments.length_le, h.bindings.length_le, h.groups.length_le⟩

theorem push (h : q.Extends t) (f : Fragment) : q.Extends (t.push f) :=
  ⟨h.kind_eq, h.fragments.trans (List.prefix_append _ _), h.bindings, h.groups⟩

theorem bind (h : q.Extends t) (key : String) (value : Value) : q.Extends (t.bind key value) :=
  ⟨h.kind_eq, h.fragments, h.bindings.trans (List.prefix_append _ _), h.groups⟩

theorem beginGroup (h : q.Extends t) (combinator : Combinator) :
    q.Extends (t.beginGroup combinator) :=
  ⟨h.kind_eq, (h.push .opening).fragments, h.bindings, h.groups.trans (List.suffix_cons _ _)⟩

theorem endGroup (h : q.Extends t) (hopen : t.groups = [] ∨ q.groups.length < t.groups.length) :
    q.Extends t.endGroup := by
  refine ⟨h.kind_eq, (h.push .closing).fragments, h.bindings, ?_⟩
  change q.groups <:+ t.groups.tail
  rcases hopen with hnone | hmore
  · have hgroups := h.groups
    rw [hnone] at hgroups ⊢
    exact hgroups
  · obtain ⟨later, hlater⟩ := h.groups
    cases later with
    | nil =>
        rw [← hlater] at hmore
        exact absurd hmore (Nat.lt_irrefl _)
    | cons innermost later =>
        rw [← hlater]
        exact List.suffix_append later q.groups

theorem addClause (h : q.Extends t) (key operator : String) (value : Value)
    (ignoreCase isProperty : Bool) :
    q.Extends (t.addClause key operator value ignoreCase isProperty) := by
  rw [Query.addClause]
  split
  · exact h.push _
  · exact (h.bind key value).push _

theorem rollback (h : q.Extends t) {c : Checkpoint} (hc : q.ReachedBy c) :
    q.Extends (t.rollback c) := by
  refine ⟨h.kind_eq, List.prefix_take_iff.mpr ⟨h.fragments, hc.fragments⟩,
    List.prefix_take_iff.mpr ⟨h.bindings, hc.bindings⟩, ?_⟩
  change q.groups <:+ t.groups.drop (t.groups.length - c.groups)
  obtain ⟨later, hlater⟩ := h.groups
  -- The groups of `q` are the outer ones, and the checkpoint was taken inside all of them.
  have hkept : t.groups.length - c.groups ≤ later.length := by
    have hgroups := hc.groups
    rw [← hlater, List.length_append]
    omega
  rw [← hlater] at hkept ⊢
  rw [List.drop_append_of_le_length hkept]
  exact List.suffix_append _ _

theorem edit (h : q.Extends t) {taken : List Checkpoint} (htaken : ∀ c ∈ taken, q.ReachedBy c)
    {e : Edit} (hspares : e.Spares q.checkpoint taken t) :
    q.Extends (t.edit e) ∧ ∀ c ∈ e.takenAfter taken t, q.ReachedBy c := by
  cases e with
  | and | or | not | addComposite => exact ⟨h.push _, htaken⟩
  | beginGroup combinator => exact ⟨h.beginGroup combinator, htaken⟩
  | endGroup => exact ⟨h.endGroup hspares, htaken⟩
  | addClause key operator value ignoreCase isProperty =>
      exact ⟨h.addClause key operator value ignoreCase isProperty, htaken⟩
  | addNullTest key operator => exact ⟨h.addClause key operator .null false true, htaken⟩
  | bind key value => exact ⟨h.bind key value, htaken⟩
  | checkpoint => exact ⟨h, List.forall_mem_cons.mpr ⟨h.reachedBy_checkpoint, htaken⟩⟩
  | rollback c => exact ⟨h.rollback (htaken c hspares), htaken⟩
  | withLabels | withLimit | sortBy | nextPage =>
      exact ⟨⟨h.kind_eq, h.fragments, h.bindings, h.groups⟩, htaken⟩

theorem edits (h : q.Extends t) {taken : List Checkpoint} (htaken : ∀ c ∈ taken, q.ReachedBy c)
    {es : List Edit} (hspares : GraphSearch.Spares q.checkpoint taken t es) :
    q.Extends (es.foldl Query.edit t) := by
  -- What is carried along: no checkpoint taken since is short of anything of `q`.
  induction es generalizing t taken with
  | nil => exact h
  | cons e rest ih =>
      obtain ⟨hedit, hrest⟩ := hspares
      obtain ⟨hnext, htaken⟩ := h.edit htaken hedit
      exact ih hnext htaken hrest

/-- Going back to the checkpoint leaves what was there, under the later settings. -/
theorem rollback_checkpoint (h : q.Extends t) :
    t.rollback q.checkpoint =
      { q with labels := t.labels, paging := t.paging, sort := t.sort } := by
  have hfragments : t.fragments.take q.fragments.length = q.fragments :=
    (List.prefix_iff_eq_take.mp h.fragments).symm
  have hbindings : t.bindings.take q.bindings.length = q.bindings :=
    (List.prefix_iff_eq_take.mp h.bindings).symm
  have hgroups : t.groups.drop (t.groups.length - q.groups.length) = q.groups :=
    (List.suffix_iff_eq_drop.mp h.groups).symm
  rw [Query.rollback, checkpoint, hfragments, hbindings, hgroups, h.kind_eq]

end Extends

end Query

namespace LedgerQuery

def withSettingsOf (b late : LedgerQuery) : LedgerQuery :=
  { b with labels := late.labels, paging := late.paging, sort := late.sort }

theorem StandsFor.withSettingsOf {b late : LedgerQuery} {q t : Query} (h : b.StandsFor q)
    (hlate : late.StandsFor t) :
    (b.withSettingsOf late).StandsFor
      { q with labels := t.labels, paging := t.paging, sort := t.sort } := by
  obtain ⟨bs, rfl, hnumbered, hkeeps⟩ := h
  obtain ⟨cs, rfl, -, -⟩ := hlate
  exact ⟨bs, rfl, hnumbered, hkeeps⟩

theorem StandsFor.fragments_eq {b : LedgerQuery} {q : Query} (h : b.StandsFor q) :
    b.fragments = q.fragments := by
  obtain ⟨bs, rfl, -, -⟩ := h
  rfl

theorem StandsFor.groups_eq {b : LedgerQuery} {q : Query} (h : b.StandsFor q) :
    b.groups = q.groups := by
  obtain ⟨bs, rfl, -, -⟩ := h
  rfl

theorem StandsFor.checkpoint_eq {b : LedgerQuery} {q : Query} (h : b.StandsFor q) :
    b.checkpoint = q.checkpoint :=
  EditReply.checkpoint.inj (h.editReply_eq .checkpoint)

end LedgerQuery

/-- A rollback undoes everything since its checkpoint. Let a query with a ledger have come about by
any calls, and let later calls close no group that is open in it and go back only to checkpoints
taken since. Going back to its checkpoint then leaves its fragments, its parameters and its open
groups, under the settings of the later calls; and whatever is called next, the replies and the
views are those of the query on which the later calls were never made. The same goes for a query that
has no ledger, which is then that query. -/
theorem rollback_undoes (kind : EntityKind) (pageSize : UInt64) (labels : Labels)
    (limit : Option UInt64) (offset : UInt64) (before later : List Edit)
    (hspares :
      let q := before.foldl Query.edit (Query.new kind pageSize labels limit offset)
      Spares q.checkpoint [q.checkpoint] q later) :
    let b := before.foldl LedgerQuery.edit (LedgerQuery.new kind pageSize labels limit offset)
    let late := later.foldl LedgerQuery.edit b
    let back := late.rollback b.checkpoint
    let undone := b.withSettingsOf late
    let q := before.foldl Query.edit (Query.new kind pageSize labels limit offset)
    let t := later.foldl Query.edit q
    (back.fragments = b.fragments ∧ back.ledger.parameters = b.ledger.parameters ∧
        back.groups = b.groups) ∧
      (back.sort = late.sort ∧ back.paging = late.paging ∧ back.labels = late.labels) ∧
      (∀ more : List Edit,
        back.editReplies more = undone.editReplies more ∧
          (more.foldl LedgerQuery.edit back).view = (more.foldl LedgerQuery.edit undone).view) ∧
      t.rollback q.checkpoint =
        { q with labels := t.labels, paging := t.paging, sort := t.sort } := by
  intro b late back undone q t
  have hb : b.StandsFor q :=
    (LedgerQuery.standsFor_new kind pageSize labels limit offset).edits before
  have hlate : late.StandsFor t := hb.edits later
  have hundo : t.rollback q.checkpoint =
      { q with labels := t.labels, paging := t.paging, sort := t.sort } := by
    have hself : ∀ c ∈ [q.checkpoint], q.ReachedBy c :=
      List.forall_mem_singleton.mpr (Query.Extends.refl q).reachedBy_checkpoint
    exact ((Query.Extends.refl q).edits hself hspares).rollback_checkpoint
  -- Both ledgers stand for the bindings of one query, which is all that a reply can tell.
  have hundone : undone.StandsFor
      { q with labels := t.labels, paging := t.paging, sort := t.sort } := hb.withSettingsOf hlate
  have hback : back.StandsFor
      { q with labels := t.labels, paging := t.paging, sort := t.sort } := by
    have hrollback := hlate.edit (.rollback q.checkpoint)
    rw [← hundo, ← hb.checkpoint_eq]
    rw [← hb.checkpoint_eq] at hrollback
    exact hrollback
  have hsame (more : List Edit) :
      back.editReplies more = undone.editReplies more ∧
        (more.foldl LedgerQuery.edit back).view = (more.foldl LedgerQuery.edit undone).view :=
    ⟨(hback.editReplies_eq more).trans (hundone.editReplies_eq more).symm,
      (hback.edits more).view_eq.trans (hundone.edits more).view_eq.symm⟩
  refine ⟨⟨?_, congrArg QueryView.parameters (hsame []).2, ?_⟩, ⟨rfl, rfl, rfl⟩, hsame, hundo⟩
  · exact hback.fragments_eq.trans hb.fragments_eq.symm
  · exact hback.groups_eq.trans hb.groups_eq.symm

/-- An age, and a group that is left open. -/
def ageThenGroup : List Edit :=
  [.addClause "age" ">" (.integer 30) false true, .and, .beginGroup .or]

/-- Another age and a group of its own, the end of which is taken back again when the group has been
closed already. -/
def moreInGroup : List Edit :=
  [.addClause "age" "<" (.integer 40) false true, .or, .beginGroup .and, .bind "size" (.integer 1),
    .checkpoint, .addNullTest "size" "IS", .endGroup, .bind "age" (.integer 7),
    .rollback ⟨6, 3, 2⟩, .sortBy ⟨"id", .lexical, false⟩, .nextPage]

theorem rollback_undoes_moreInGroup :
    let q := ageThenGroup.foldl Query.edit (Query.new .node 5)
    let b := ageThenGroup.foldl LedgerQuery.edit (LedgerQuery.new .node 5)
    let back := (moreInGroup.foldl LedgerQuery.edit b).rollback b.checkpoint
    Spares q.checkpoint [q.checkpoint] q moreInGroup ∧
      back.editReplies [.bind "age" (.integer 50), .bind "size" (.integer 2)] =
        [.name "age_param_1", .name "size_param"] ∧
      back.view.sorted =
        "MATCH (n) WHERE n.`age` > $age_param AND ( RETURN DISTINCT n ORDER BY n.`id` SKIP 5 LIMIT 5" := by
  intro q b back
  have hspares : Spares q.checkpoint [q.checkpoint] q moreInGroup :=
    ⟨trivial, trivial, trivial, trivial, trivial, trivial, Or.inr (by decide), trivial,
      List.mem_cons_self, trivial, trivial, trivial⟩
  obtain ⟨-, -, hsame, -⟩ := rollback_undoes .node 5 {} none 0 ageThenGroup moreInGroup hspares
  refine ⟨hspares, (hsame _).1, ?_⟩
  exact congrArg QueryView.sorted (hsame []).2

end GraphSearch

import GraphSearch.Index.Basic

/-!
The translation of a predicate as one pass over its item.

The translation works on the query and takes back what a group without clauses has written. The
item of a predicate is worked out beforehand and has no such groups. Appending the item to the query
has the same effect, and what it writes is a sequence of lexemes: keywords, parentheses, and clauses
whose values are not named yet.
-/

namespace GraphSearch

/-- One piece of the condition before its values are named. -/
inductive Lexeme where
  | and
  | or
  | not
  | opening
  | closing
  | clause (draft : Draft)

/-- The keyword that joins a member that must hold to its predecessor. -/
def Combinator.lexeme : Combinator → Lexeme
  | and => .and
  | or => .or

/-- The keywords in front of a member of a group. -/
def Occurrence.lexemes (o : Occurrence) (combinator : Combinator) (isFirst : Bool) : List Lexeme :=
  match o with
  | must => if isFirst then [] else [combinator.lexeme]
  | should => if isFirst then [] else [.or]
  | mustNot => if isFirst then [.not] else [.and, .not]

namespace Item

mutual

/-- The lexemes of an item inside a group with the given combinator. -/
def lexemes (combinator : Combinator) (isFirst : Bool) : Item → List Lexeme
  | .clause o draft => o.lexemes combinator isFirst ++ [.clause draft]
  | .group o inner members =>
      o.lexemes combinator isFirst ++ .opening :: lexemesOfAll inner true members ++ [.closing]

/-- The lexemes of the members of a group. -/
def lexemesOfAll (combinator : Combinator) (isFirst : Bool) : List Item → List Lexeme
  | [] => []
  | item :: rest => lexemes combinator isFirst item ++ lexemesOfAll combinator false rest

end

end Item

namespace Query

/-- Writes one lexeme at the end of the condition; the values of a clause are bound. -/
def write (q : Query) : Lexeme → Query
  | .and => q.push .and
  | .or => q.push .or
  | .not => q.push .not
  | .opening => q.push .opening
  | .closing => q.push .closing
  | .clause draft => q.appendDraft draft

def writeAll (q : Query) (lexemes : List Lexeme) : Query :=
  lexemes.foldl write q

@[simp] theorem writeAll_nil (q : Query) : q.writeAll [] = q := rfl

@[simp] theorem writeAll_cons (q : Query) (l : Lexeme) (ls : List Lexeme) :
    q.writeAll (l :: ls) = (q.write l).writeAll ls := rfl

theorem writeAll_append (q : Query) (ls ms : List Lexeme) :
    q.writeAll (ls ++ ms) = (q.writeAll ls).writeAll ms := by
  rw [writeAll, List.foldl_append]
  rfl

/-- The query with more fragments and bindings at its end. -/
def extend (q : Query) (fragments : List Fragment) (bindings : List Binding) : Query :=
  { q with fragments := q.fragments ++ fragments, bindings := q.bindings ++ bindings }

theorem extend_nil (q : Query) : q.extend [] [] = q := by
  simp [extend]

theorem extend_extend (q : Query) (fs gs : List Fragment) (bs cs : List Binding) :
    (q.extend fs bs).extend gs cs = q.extend (fs ++ gs) (bs ++ cs) := by
  simp [extend]

theorem push_eq_extend (q : Query) (f : Fragment) : q.push f = q.extend [f] [] := by
  simp [push, extend]

theorem bind_eq_extend (q : Query) (key : String) (value : Value) :
    q.bind key value = q.extend [] [q.nextBinding key value] := by
  simp [bind, extend]

section Congruence

variable {q q' : Query} (h : q'.bindings = q.bindings)

include h

theorem nextBinding_congr (key : String) (value : Value) :
    q'.nextBinding key value = q.nextBinding key value := by
  simp [nextBinding, boundCount, h]

theorem bind_bindings_congr (key : String) (value : Value) :
    (q'.bind key value).bindings = (q.bind key value).bindings := by
  simp [bind, h, nextBinding_congr h]

theorem freshName_congr (key : String) : q'.freshName key = q.freshName key := by
  rw [freshName, freshName, nextBinding_congr h]

theorem bindParts_snd_congr (parts : List DraftPart) :
    (q'.bindParts parts).2 = (q.bindParts parts).2 := by
  induction parts generalizing q q' with
  | nil => rfl
  | cons part rest ih =>
      cases part with
      | text s => exact congrArg (Part.text s :: ·) (ih h)
      | value key v =>
          change Part.parameter _ :: ((q'.bind key v).bindParts rest).2 =
            Part.parameter _ :: ((q.bind key v).bindParts rest).2
          rw [ih (bind_bindings_congr h key v), freshName_congr h]

end Congruence

/-- The bindings that the values of a composite draft get. -/
def partBindings (q : Query) : List DraftPart → List Binding
  | [] => []
  | .text _ :: rest => q.partBindings rest
  | .value key v :: rest => q.nextBinding key v :: (q.bind key v).partBindings rest

theorem partBindings_congr {q q' : Query} (h : q'.bindings = q.bindings)
    (parts : List DraftPart) : q'.partBindings parts = q.partBindings parts := by
  induction parts generalizing q q' with
  | nil => rfl
  | cons part rest ih =>
      cases part with
      | text s => exact ih h
      | value key v =>
          rw [partBindings, partBindings, ih (bind_bindings_congr h key v),
            nextBinding_congr h]

theorem bindParts_fst (q : Query) (parts : List DraftPart) :
    (q.bindParts parts).1 = q.extend [] (q.partBindings parts) := by
  induction parts generalizing q with
  | nil => exact (extend_nil q).symm
  | cons part rest ih =>
      cases part with
      | text s => exact ih q
      | value key v =>
          change ((q.bind key v).bindParts rest).1 = _
          rw [ih, partBindings, bind_eq_extend, extend_extend]
          rfl

/-- The clause of a draft in a query, with the names that its values get there. -/
def clauseOf (q : Query) : Draft → Clause
  | .nullTest key operator => .simple key operator none false true
  | .comparison key operator value ignoreCase =>
      .simple key operator (if value.isNull then none else some (q.freshName key)) ignoreCase true
  | .composite parts => .composite (q.bindParts parts).2

/-- The bindings that the values of a draft get. -/
def draftBindings (q : Query) : Draft → List Binding
  | .nullTest _ _ => []
  | .comparison key _ value _ => if value.isNull then [] else [q.nextBinding key value]
  | .composite parts => q.partBindings parts

theorem appendDraft_eq_extend (q : Query) (draft : Draft) :
    q.appendDraft draft = q.extend [.clause (q.clauseOf draft)] (q.draftBindings draft) := by
  cases draft with
  | nullTest key operator => exact push_eq_extend q _
  | comparison key operator value ignoreCase =>
      rw [appendDraft, addClause, clauseOf, draftBindings]
      split
      · rw [push_eq_extend]
      · rw [push_eq_extend, bind_eq_extend, extend_extend]
        rfl
  | composite parts =>
      change (q.bindParts parts).1.push (.clause (.composite (q.bindParts parts).2)) = _
      rw [push_eq_extend, bindParts_fst, extend_extend, List.append_nil]
      rfl

def fragmentOf (q : Query) : Lexeme → Fragment
  | .and => .and
  | .or => .or
  | .not => .not
  | .opening => .opening
  | .closing => .closing
  | .clause draft => .clause (q.clauseOf draft)

def bindingsOf (q : Query) : Lexeme → List Binding
  | .clause draft => q.draftBindings draft
  | _ => []

/-- A lexeme adds to the fragments and the bindings and changes nothing else. -/
theorem write_eq_extend (q : Query) (l : Lexeme) :
    q.write l = q.extend [q.fragmentOf l] (q.bindingsOf l) := by
  cases l with
  | clause draft => exact appendDraft_eq_extend q draft
  | _ => exact push_eq_extend q _

section Congruence

variable {q q' : Query} (h : q'.bindings = q.bindings)

include h

theorem fragmentOf_congr (l : Lexeme) : q'.fragmentOf l = q.fragmentOf l := by
  cases l with
  | clause draft =>
      cases draft with
      | nullTest key operator => rfl
      | comparison key operator value ignoreCase =>
          simp only [fragmentOf, clauseOf, freshName_congr h]
      | composite parts => simp only [fragmentOf, clauseOf, bindParts_snd_congr h]
  | _ => rfl

theorem bindingsOf_congr (l : Lexeme) : q'.bindingsOf l = q.bindingsOf l := by
  cases l with
  | clause draft =>
      cases draft with
      | nullTest key operator => rfl
      | comparison key operator value ignoreCase =>
          simp only [bindingsOf, draftBindings, nextBinding_congr h]
      | composite parts => exact partBindings_congr h parts
  | _ => rfl

end Congruence

/-- What a lexeme adds depends on what is bound, and on nothing else of the query. -/
theorem exists_write_eq_extend (q : Query) (l : Lexeme) :
    ∃ f bs, ∀ q' : Query, q'.bindings = q.bindings → q'.write l = q'.extend [f] bs := by
  refine ⟨q.fragmentOf l, q.bindingsOf l, ?_⟩
  intro q' h
  rw [write_eq_extend, fragmentOf_congr h, bindingsOf_congr h]

theorem exists_writeAll_eq_extend (q : Query) (ls : List Lexeme) :
    ∃ fs bs, ∀ q' : Query, q'.bindings = q.bindings → q'.writeAll ls = q'.extend fs bs := by
  induction ls generalizing q with
  | nil => exact ⟨[], [], fun q' _ => (extend_nil q').symm⟩
  | cons l ls ih =>
      obtain ⟨f, bs, hwrite⟩ := exists_write_eq_extend q l
      obtain ⟨gs, cs, hrest⟩ := ih (q.write l)
      refine ⟨[f] ++ gs, bs ++ cs, ?_⟩
      intro q' h
      have hbound : (q'.write l).bindings = (q.write l).bindings := by
        rw [hwrite q' h, hwrite q rfl, extend, extend, h]
      rw [writeAll_cons, hrest _ hbound, hwrite q' h, extend_extend]

theorem writeAll_fragments_length (q : Query) (ls : List Lexeme) :
    (q.writeAll ls).fragments.length = q.fragments.length + ls.length := by
  induction ls generalizing q with
  | nil => rfl
  | cons l ls ih =>
      obtain ⟨f, bs, hwrite⟩ := exists_write_eq_extend q l
      rw [writeAll_cons, ih, hwrite q rfl, extend, List.length_append, List.length_singleton,
        List.length_cons, Nat.add_assoc, Nat.add_comm 1]

section Untouched

variable (q : Query) (ls : List Lexeme)

@[simp] theorem writeAll_kind : (q.writeAll ls).kind = q.kind := by
  obtain ⟨fs, bs, hwrite⟩ := exists_writeAll_eq_extend q ls
  rw [hwrite q rfl]
  rfl

@[simp] theorem writeAll_labels : (q.writeAll ls).labels = q.labels := by
  obtain ⟨fs, bs, hwrite⟩ := exists_writeAll_eq_extend q ls
  rw [hwrite q rfl]
  rfl

@[simp] theorem writeAll_sort : (q.writeAll ls).sort = q.sort := by
  obtain ⟨fs, bs, hwrite⟩ := exists_writeAll_eq_extend q ls
  rw [hwrite q rfl]
  rfl

@[simp] theorem writeAll_paging : (q.writeAll ls).paging = q.paging := by
  obtain ⟨fs, bs, hwrite⟩ := exists_writeAll_eq_extend q ls
  rw [hwrite q rfl]
  rfl

@[simp] theorem writeAll_combinator : (q.writeAll ls).combinator = q.combinator := by
  obtain ⟨fs, bs, hwrite⟩ := exists_writeAll_eq_extend q ls
  rw [hwrite q rfl]
  rfl

end Untouched

theorem join_eq_writeAll (q : Query) (o : Occurrence) (isFirst : Bool) :
    q.join o isFirst = q.writeAll (o.lexemes q.combinator isFirst) := by
  cases o with
  | must =>
      cases isFirst with
      | true => rfl
      | false =>
          rw [join, Occurrence.lexemes]
          cases q.combinator <;> rfl
  | should => cases isFirst <;> rfl
  | mustNot => cases isFirst <;> rfl

mutual

theorem append_eq_writeAll (q : Query) (isFirst : Bool) :
    ∀ item : Item, q.append isFirst item = q.writeAll (item.lexemes q.combinator isFirst)
  | .clause o draft => by
      rw [append, Item.lexemes, writeAll_append, join_eq_writeAll]
      rfl
  | .group o inner members => by
      rw [append, Item.lexemes, List.append_assoc, writeAll_append, ← join_eq_writeAll,
        List.cons_append, writeAll_cons, writeAll_append,
        appendAll_eq_writeAll ((q.join o isFirst).beginGroup inner) true members]
      -- An open group takes no part in what is written; closing it restores the ones around it.
      obtain ⟨fs, bs, hmembers⟩ := exists_writeAll_eq_extend ((q.join o isFirst).push .opening)
        (Item.lexemesOfAll inner true members)
      change endGroup (Query.writeAll _ (Item.lexemesOfAll inner true members)) = _
      rw [hmembers ((q.join o isFirst).beginGroup inner) rfl]
      change _ = (((q.join o isFirst).push .opening).writeAll _).push .closing
      rw [hmembers _ rfl]
      rfl

theorem appendAll_eq_writeAll (q : Query) (isFirst : Bool) :
    ∀ items : List Item,
      q.appendAll isFirst items = q.writeAll (Item.lexemesOfAll q.combinator isFirst items)
  | [] => rfl
  | item :: rest => by
      rw [appendAll, Item.lexemesOfAll, writeAll_append, append_eq_writeAll q isFirst item,
        appendAll_eq_writeAll _ false rest, writeAll_combinator]

end

theorem exists_append_eq_extend (q : Query) (isFirst : Bool) (item : Item) :
    ∃ fs bs, q.append isFirst item = q.extend fs bs := by
  obtain ⟨fs, bs, hwrite⟩ :=
    exists_writeAll_eq_extend q (item.lexemes q.combinator isFirst)
  exact ⟨fs, bs, (append_eq_writeAll q isFirst item).trans (hwrite q rfl)⟩

@[simp] theorem append_kind (q : Query) (isFirst : Bool) (item : Item) :
    (q.append isFirst item).kind = q.kind := by
  obtain ⟨fs, bs, happend⟩ := exists_append_eq_extend q isFirst item
  rw [happend]
  rfl

@[simp] theorem append_combinator (q : Query) (isFirst : Bool) (item : Item) :
    (q.append isFirst item).combinator = q.combinator := by
  rw [append_eq_writeAll, writeAll_combinator]

@[simp] theorem join_kind (q : Query) (o : Occurrence) (isFirst : Bool) :
    (q.join o isFirst).kind = q.kind := by
  obtain ⟨fs, bs, hwrite⟩ :=
    exists_writeAll_eq_extend q (o.lexemes q.combinator isFirst)
  rw [join_eq_writeAll, hwrite q rfl]
  rfl

/-- What a group has written before its members is taken back as a whole. -/
theorem rollback_beginGroup_join (q : Query) (o : Occurrence) (isFirst : Bool)
    (combinator : Combinator) :
    ((q.join o isFirst).beginGroup combinator).rollback q.checkpoint = q := by
  obtain ⟨fs, bs, hwrite⟩ :=
    exists_writeAll_eq_extend q (o.lexemes q.combinator isFirst)
  rw [join_eq_writeAll, hwrite q rfl]
  simp [beginGroup, rollback, checkpoint, push, extend]

mutual

theorem tryAddBy_eq (q : Query) (r : Registry) (t : ClauseBuilder) (isFirst : Bool) :
    ∀ p : Predicate, q.tryAddBy r t isFirst p =
      match r.itemBy q.kind t p with
      | some item => (true, q.append isFirst item)
      | none => (false, q)
  | .leaf a condition => by
      rw [tryAddBy, Registry.itemBy]
      cases t.draft? q.kind a.name condition <;> rfl
  | .group a combinator children => by
      rw [tryAddBy, Registry.itemBy,
        tryAddAll_eq ((q.join a.occurrence isFirst).beginGroup combinator) r true children]
      by_cases hgroup : t = .group
      · simp only [hgroup, decide_true, Bool.true_and, Bool.not_true, Bool.false_or, if_true]
        have hkind : ((q.join a.occurrence isFirst).beginGroup combinator).kind = q.kind :=
          join_kind q a.occurrence isFirst
        rw [hkind]
        cases hitems : r.itemsOf q.kind children with
        | nil =>
            have hback := rollback_beginGroup_join q a.occurrence isFirst combinator
            cases children <;> simp [appendAll, hback]
        | cons item rest =>
            cases children with
            | nil => simp [Registry.itemsOf] at hitems
            | cons child children => simp [append]
      · simp [hgroup]

theorem tryAddAll_eq (q : Query) (r : Registry) (isFirst : Bool) :
    ∀ ps : List Predicate, q.tryAddAll r isFirst ps =
      (!isFirst || !(r.itemsOf q.kind ps).isEmpty, q.appendAll isFirst (r.itemsOf q.kind ps))
  | [] => by simp [tryAddAll, Registry.itemsOf, appendAll]
  | child :: rest => by
      rw [tryAddAll, Registry.itemsOf]
      cases hbuilder : r child.kind with
      | none => exact tryAddAll_eq q r isFirst rest
      | some t =>
          simp only [Option.bind_some, tryAddBy_eq q r t isFirst child]
          cases hitem : r.itemBy q.kind t child with
          | none => simp [tryAddAll_eq q r isFirst rest]
          | some item => simp [tryAddAll_eq (q.append isFirst item) r false rest, appendAll]

end

/-- The translation appends the item of a predicate, or leaves the query as it was if the predicate
comes to nothing. -/
theorem tryAdd_eq (q : Query) (r : Registry) (p : Predicate) (isFirst : Bool) :
    q.tryAdd r p isFirst =
      match r.item? q.kind p with
      | some item => (true, q.append isFirst item)
      | none => (false, q) := by
  rw [tryAdd, Registry.item?]
  cases hbuilder : r p.kind with
  | none => rfl
  | some t => exact tryAddBy_eq q r t isFirst p

end Query

/-- The lexemes of a predicate outside of groups. -/
def Registry.lexemes (r : Registry) (kind : EntityKind) (p : Predicate) : List Lexeme :=
  match r.item? kind p with
  | some item => item.lexemes .and true
  | none => []

namespace Index

/-- The query of an index before anything is asked, with its order already set. -/
def start (ix : Index) (context : SearchContext) (sort : Option SortOrder) : Query :=
  { Query.new ix.kind (context.pageSize.getD ix.config.pageSize) context.labels context.limit
      context.offset with sort := sort }

theorem build_eq_writeAll (ix : Index) (context : SearchContext) (p : Predicate) :
    ix.build context p =
      (ix.start context p.sort?).writeAll (ix.registry.lexemes ix.kind p) := by
  have hbuild : ix.build context p =
      { ((ix.start context none).tryAdd ix.registry p true).2 with sort := p.sort? } := rfl
  rw [hbuild, Query.tryAdd_eq, Registry.lexemes]
  change _ = (ix.start context p.sort?).writeAll (match ix.registry.item? ix.kind p with
    | some item => item.lexemes .and true
    | none => [])
  rw [show (ix.start context none).kind = ix.kind from rfl]
  cases ix.registry.item? ix.kind p with
  | none => rfl
  | some item =>
      obtain ⟨fs, bs, hextend⟩ :=
        Query.exists_writeAll_eq_extend (ix.start context none) (item.lexemes .and true)
      dsimp only
      rw [Query.append_eq_writeAll]
      change { Query.writeAll _ (item.lexemes .and true) with sort := p.sort? } = _
      rw [hextend _ rfl, hextend (ix.start context p.sort?) rfl]
      rfl

end Index

end GraphSearch

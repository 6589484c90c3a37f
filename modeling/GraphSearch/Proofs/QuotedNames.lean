import GraphSearch.Proofs.Placeholders
import GraphSearch.Proofs.Scanner
import GraphSearch.Query.Statement

/-!
No name gets out of its quotes.

Labels, keys of properties, types of relationships and the key of the order are the only texts of a
search that stand in its statements, and they stand there in quotes. Scanning a statement gives
them back in their order, whatever characters they have.
-/

namespace GraphSearch

/-- The names that the clause of a leaf has in quotes, from left to right. -/
def Leaf.quotedNames (leaf : Leaf) : List String :=
  match leaf.condition with
  | .type _ => [typeKey]
  | .uuid _ => [uuidKey]
  | .spatial .. => ["latitude", "longitude"]
  | .relationship type _ related => type :: (related.map fun _ => uuidKey).toList
  | .range low high _ _ =>
      ([low, high].filter fun bound => !bound.isNull).flatMap fun _ => leaf.name?.toList
  | _ => leaf.name?.toList

/-! ### Clauses -/

/-- The texts between the values of a composite clause have the names in quotes. -/
inductive PartsQuote : List DraftPart → List String → Prop where
  | nil : PartsQuote [] []
  | text {s : String} {names names' : List String} {rest : List DraftPart}
      (hs : Spells s names [] []) (hrest : PartsQuote rest names') :
      PartsQuote (.text s :: rest) (names ++ names')
  | value {names : List String} {rest : List DraftPart} (key : String) (v : Value)
      (hrest : PartsQuote rest names) : PartsQuote (.value key v :: rest) names

namespace PartsQuote

variable {parts rest : List DraftPart} {names names' : List String}

theorem append (h : PartsQuote parts names) (h' : PartsQuote rest names') :
    PartsQuote (parts ++ rest) (names ++ names') := by
  induction h with
  | nil => exact h'
  | text hs _ ih =>
      rw [List.append_assoc]
      exact .text hs ih
  | value key v _ ih => exact .value key v ih

theorem fixed {s : String} (h : s ∈ fixedTexts) (hrest : PartsQuote rest names) :
    PartsQuote (.text s :: rest) names :=
  .text (.fixed h) hrest

theorem bound {operator : String} (h : operator ∈ fixedTexts) (key : String) (v : Value) :
    PartsQuote (Draft.bound key operator v) [key] := by
  have hspace : " " ∈ fixedTexts := by decide
  have hleft := (((Spells.property key).append_fixed hspace).append_fixed h).append_fixed hspace
  exact .text hleft (.value key v .nil)

end PartsQuote

/-- The draft of a clause that has the names in quotes. -/
def Draft.Quotes (names : List String) : Draft → Prop
  | nullTest key operator | comparison key operator _ _ => operator ∈ fixedTexts ∧ names = [key]
  | composite parts => PartsQuote parts names

theorem quotes_within (latitude longitude distance : Binary64) :
    (Draft.within latitude longitude distance).Quotes ["latitude", "longitude"] := by
  have hkeys : Spells ("point.distance(point(\x7blatitude: " ++ Identifier.property "latitude" ++
      ", longitude: " ++ Identifier.property "longitude" ++ "\x7d), point(\x7blatitude: ")
      ["latitude", "longitude"] [] [] :=
    ((((Spells.property "latitude").fixed_append (by decide)).append_fixed (by decide)).append
      (Spells.property "longitude")).append_fixed (by decide)
  refine .text hkeys (.value _ _ ?_)
  refine .fixed (by decide) (.value _ _ ?_)
  exact .fixed (by decide) (.value _ _ .nil)

theorem spells_relationshipPattern (type : String) (direction : Direction) :
    Spells (Draft.relationshipPattern type direction) [type] [] [] := by
  have hedge : Spells ("[:" ++ Identifier.quoted type ++ "]") [type] [] [] :=
    (Spells.quoted (by decide) type).append_fixed (by decide)
  have hentity : Spells ("(" ++ Identifier.entity ++ ")") [] [] [] :=
    ((Spells.fixed (show "(" ∈ fixedTexts by decide)).append_fixed (by decide)).append_fixed
      (by decide)
  cases direction <;>
    exact ((hentity.append_fixed (by decide)).append hedge).append_fixed (by decide)

theorem quotes_isRelated (type : String) (direction : Direction) (related : Option String) :
    (Draft.isRelated type direction related).Quotes
      (type :: (related.map fun _ => uuidKey).toList) := by
  have hpattern : Spells ("EXISTS \x7b " ++ Draft.relationshipPattern type direction) [type] [] [] :=
    (spells_relationshipPattern type direction).fixed_append (by decide)
  cases related with
  | none =>
      have hclosed := hpattern.append_fixed (show " \x7d" ∈ fixedTexts by decide)
      exact .text hclosed .nil
  | some uuid =>
      have hopen : Spells ("EXISTS \x7b " ++ Draft.relationshipPattern type direction ++ " WHERE m." ++
          Identifier.quoted uuidKey ++ " = ") [type, uuidKey] [] [] :=
        (hpattern.append_quoted (by decide) uuidKey).append_fixed (by decide)
      exact .text hopen (.value _ _ (.fixed (by decide) .nil))

theorem quotes_ofComparison (key : String) (operation : Comparison) (value : Value) :
    (Draft.ofComparison key operation value).Quotes [key] := by
  cases operation <;> exact ⟨by decide, rfl⟩

theorem Leaf.Form.quotes {leaf : Leaf} {draft : Draft} (h : leaf.Form draft) :
    draft.Quotes leaf.quotedNames := by
  have hlower (name : String) (value : Value) (includeLow : Bool) :
      PartsQuote (Draft.bound name (if includeLow then ">=" else ">") value) [name] := by
    apply PartsQuote.bound
    cases includeLow <;> decide
  have hupper (name : String) (value : Value) (includeHigh : Bool) :
      PartsQuote (Draft.bound name (if includeHigh then "<=" else "<") value) [name] := by
    apply PartsQuote.bound
    cases includeHigh <;> decide
  cases h with
  | comparison => exact quotes_ofComparison _ _ _
  | above hlow hhigh =>
      simp only [quotedNames, List.filter_cons, hlow, hhigh]
      exact hlower _ _ _
  | below hlow hhigh =>
      simp only [quotedNames, List.filter_cons, hlow, hhigh]
      exact hupper _ _ _
  | between hlow hhigh =>
      simp only [quotedNames, List.filter_cons, hlow, hhigh]
      exact .fixed (by decide) ((hlower _ _ _).append
        (.fixed (by decide) ((hupper _ _ _).append (.fixed (by decide) .nil))))
  | @arrayAll name items =>
      have hkey : Spells (" WHERE x IN " ++ Identifier.property name ++ ")") [name] [] [] :=
        ((Spells.property name).fixed_append (by decide)).append_fixed (by decide)
      exact .fixed (by decide) (.value _ _ (.text hkey .nil))
  | array => exact .value _ _ (.text ((Spells.property _).fixed_append (by decide)) .nil)
  | spatial => exact quotes_within _ _ _
  | relationship => exact quotes_isRelated _ _ _
  | exactNull | exact | fulltextNull | fulltextString | fulltext | arrayNull | notEmpty | empty
  | type | uuid => exact ⟨by decide, rfl⟩

/-! ### Fragments -/

def Lexeme.Quotes (names : List String) : Lexeme → Prop
  | clause draft => draft.Quotes names
  | _ => names = []

theorem spells_simple (key : String) {operator : String} (h : operator ∈ fixedTexts)
    {parameter : Option String} (hparameter : ∀ name ∈ parameter, Identifier.IsName name)
    (ignoreCase : Bool) :
    Spells (Clause.simple key operator parameter ignoreCase true).render [key] parameter.toList
      [] := by
  have hleft : Spells (Clause.leftSide key ignoreCase true) [key] [] [] := by
    cases ignoreCase with
    | true => exact ((Spells.property key).fixed_append (by decide)).append_fixed (by decide)
    | false => exact Spells.property key
  have hright : Spells (Clause.rightSide parameter) [] parameter.toList [] := by
    cases parameter with
    | none => exact .fixed (by decide)
    | some name => exact .parameter (hparameter name rfl)
  exact (((hleft.append_fixed (by decide)).append_fixed h).append_fixed (by decide)).append hright

namespace Query

theorem isName_freshName (q : Query) (key : String) : Identifier.IsName (q.freshName key) :=
  Binding.isName (b := q.nextBinding key .null) rfl

theorem spells_bindParts (q : Query) {parts : List DraftPart} {names : List String}
    (h : PartsQuote parts names) :
    Spells (String.join ((q.bindParts parts).2.map Part.render)) names
      ((q.bindParts parts).2.filterMap Part.placeholder?) [] := by
  induction h generalizing q with
  | nil => exact .empty
  | @text s names names' rest hs _ ih =>
      change Spells (String.join (s :: (q.bindParts rest).2.map Part.render)) _ _ _
      rw [String.join_cons]
      exact hs.append (ih q)
  | @value names rest key v _ ih =>
      change Spells (String.join (("$" ++ q.freshName key) ::
        ((q.bind key v).bindParts rest).2.map Part.render)) _ _ _
      rw [String.join_cons]
      exact (Spells.parameter (q.isName_freshName key)).append (ih (q.bind key v))

/-- The fragment of a lexeme has the names in quotes. -/
theorem spells_fragmentOf (q : Query) {l : Lexeme} {names : List String} (h : l.Quotes names) :
    Spells (q.fragmentOf l).render names (q.fragmentOf l).placeholders [] := by
  cases l with
  | clause draft =>
      cases draft with
      | nullTest key operator =>
          obtain ⟨hoperator, rfl⟩ := h
          exact spells_simple key hoperator (by simp) false
      | comparison key operator value ignoreCase =>
          obtain ⟨hoperator, rfl⟩ := h
          apply spells_simple key hoperator
          intro name hname
          split at hname
          · exact absurd hname (by simp)
          · obtain rfl := Option.some.inj hname
            exact q.isName_freshName key
      | composite parts => exact q.spells_bindParts h
  | _ =>
      obtain rfl : names = [] := h
      rw [fragmentOf]
      exact .fixed (by decide)

theorem exists_writeAll_spells {kind : EntityKind} {leaves : List Leaf} {ls : List Lexeme}
    (h : List.Forall₂ (Leaf.HasDraft kind) leaves (ls.filterMap Lexeme.draft?)) (q : Query) :
    ∃ fs bs, q.writeAll ls = q.extend fs bs ∧
      Spells (String.join (fs.map Fragment.render)) (leaves.flatMap Leaf.quotedNames)
        (fs.flatMap Fragment.placeholders) [] := by
  induction ls generalizing q leaves with
  | nil =>
      cases h
      exact ⟨[], [], (extend_nil q).symm, .empty⟩
  | cons l ls ih =>
      have hsplit : ∃ names rest, l.Quotes names ∧
          List.Forall₂ (Leaf.HasDraft kind) rest (ls.filterMap Lexeme.draft?) ∧
          leaves.flatMap Leaf.quotedNames = names ++ rest.flatMap Leaf.quotedNames := by
        cases l with
        | clause draft =>
            cases h with
            | cons hdraft hrest => exact ⟨_, _, hdraft.form.quotes, hrest, List.flatMap_cons⟩
        | _ => exact ⟨[], leaves, rfl, h, rfl⟩
      obtain ⟨names, rest, hnames, hrest, hleaves⟩ := hsplit
      obtain ⟨fs, bs, hwriteAll, hspells⟩ := ih hrest (q.write l)
      refine ⟨q.fragmentOf l :: fs, q.bindingsOf l ++ bs, ?_, ?_⟩
      · rw [writeAll_cons, hwriteAll, write_eq_extend, extend_extend]
        rfl
      · rw [hleaves, List.map_cons, String.join_cons, List.flatMap_cons]
        exact (q.spells_fragmentOf hnames).append hspells

end Query

/-! ### Statements -/

/-- The labels of a search in the order in which its statements have them. -/
def EntityKind.shownLabels (kind : EntityKind) (labels : Labels) : List String :=
  match kind with
  | node => labels.type.toList
  | relationship => labels.source.toList ++ labels.type.toList ++ labels.target.toList

theorem spells_labelText (label : Option String) :
    Spells (labelText label) label.toList [] [] := by
  cases label with
  | none => exact .empty
  | some label => exact .quoted (by decide) label

theorem spells_entityMatchText (kind : EntityKind) (labels : Labels) :
    Spells (kind.matchText labels) (kind.shownLabels labels) [] [] := by
  cases kind with
  | node =>
      have hopen : Spells ("MATCH (" ++ Identifier.entity) [] [] [] :=
        (Spells.fixed (by decide)).append_fixed (by decide)
      exact (hopen.append (spells_labelText labels.type)).append_fixed (by decide)
  | relationship =>
      have hsource : Spells ("MATCH (s" ++ labelText labels.source) labels.source.toList [] [] :=
        (spells_labelText labels.source).fixed_append (by decide)
      have htype : Spells ("MATCH (s" ++ labelText labels.source ++ ")-[" ++ Identifier.entity ++
          labelText labels.type) (labels.source.toList ++ labels.type.toList) [] [] :=
        ((hsource.append_fixed (by decide)).append_fixed (by decide)).append
          (spells_labelText labels.type)
      exact ((htype.append_fixed (by decide)).append
        (spells_labelText labels.target)).append_fixed (by decide)

theorem spells_countReturn : Spells countReturn [] [] [] := by
  have hopen : Spells (" RETURN COUNT(" ++ Identifier.entity) [] [] [] :=
    (Spells.fixed (by decide)).append_fixed (by decide)
  exact hopen.append_fixed (by decide)

theorem spells_fetchReturn : Spells fetchReturn [] [] [] :=
  (Spells.fixed (by decide)).append_fixed (by decide)

theorem spells_sortOrder (s : SortOrder) : Spells s.render [s.key] [] [] := by
  obtain ⟨key, mode, descending⟩ := s
  have hdescending : Spells (if descending then " DESC" else "") [] [] [] := by
    cases descending with
    | true => exact .fixed (by decide)
    | false => exact .empty
  cases mode with
  | lexical => exact ((Spells.property key).fixed_append (by decide)).append hdescending
  | numeric =>
      have hnumber : Spells ("toFloat(" ++ Identifier.property key ++ ")") [key] [] [] :=
        ((Spells.property key).fixed_append (by decide)).append_fixed (by decide)
      exact (hnumber.fixed_append (by decide)).append hdescending

theorem spells_window (w : Window) : Spells w.render [] [] [w.skip, w.take] :=
  (((Spells.number w.skip).fixed_append (by decide)).append_fixed (by decide)).append
    (.number w.take)

namespace Query

variable (q : Query)

/-- The keys in the order of a statement. -/
def shownSort (sorted : Bool) : List String :=
  if sorted then (q.sort.map SortOrder.key).toList else []

/-- The numbers in the window of a statement. -/
def shownNumbers : List Nat :=
  match q.window with
  | some w => [w.skip, w.take]
  | none => []

theorem spells_orderText (sorted : Bool) :
    Spells (q.orderText sorted) (q.shownSort sorted) [] [] := by
  rw [orderText, shownSort]
  cases sorted with
  | false => exact .empty
  | true =>
      cases q.sort with
      | none => exact .empty
      | some s => exact spells_sortOrder s

theorem spells_windowText : Spells q.windowText [] [] q.shownNumbers := by
  rw [windowText, shownNumbers]
  cases q.window with
  | none => exact .empty
  | some w => exact spells_window w

end Query

theorem Index.spells_matchText (ix : Index) (context : SearchContext) (p : Predicate) :
    Spells (ix.build context p).matchText
      (ix.kind.shownLabels context.labels ++
        (ix.registry.leaves ix.kind p).flatMap Leaf.quotedNames)
      (ix.build context p).placeholders [] := by
  obtain ⟨fs, bs, hextend, hspells⟩ := Query.exists_writeAll_spells
    (ix.registry.forall₂_leaves_lexemes ix.kind p) (ix.start context p.sort?)
  rw [ix.build_eq_writeAll, hextend]
  refine (spells_entityMatchText ix.kind context.labels).append ?_
  change Spells (if fs.isEmpty then "" else " WHERE " ++ String.join (fs.map Fragment.render)) _
    (fs.flatMap Fragment.placeholders) []
  cases fs with
  | nil => exact hspells
  | cons f fs => exact hspells.fixed_append (by decide)

/-- What a statement has in quotes are the labels, the names of the leaves that leave a clause, and
the key of the order where the statement has one. What is outside of the quotes are fixed texts, the
names of the parameters and the numbers of the window. -/
theorem statements_keep_quotes (ix : Index) (context : SearchContext) (p : Predicate) :
    let q := ix.build context p
    let names := ix.kind.shownLabels context.labels ++
      (ix.registry.leaves ix.kind p).flatMap Leaf.quotedNames
    ReadsAs q.countStatement names q.placeholders [] ∧
      ReadsAs (q.fetchStatement true) (names ++ (p.sort?.map SortOrder.key).toList) q.placeholders
        q.shownNumbers ∧
      ReadsAs (q.fetchStatement false) names q.placeholders q.shownNumbers := by
  intro q names
  have hmatch : Spells q.matchText names q.placeholders [] := ix.spells_matchText context p
  have hfetch (sorted : Bool) : Spells (q.fetchStatement sorted) (names ++ q.shownSort sorted)
      q.placeholders q.shownNumbers := by
    have hordered := (hmatch.append_silent spells_fetchReturn).append (q.spells_orderText sorted)
    rw [← List.append_nil (names ++ q.shownSort sorted), ← List.append_nil q.placeholders]
    rw [List.append_nil q.placeholders] at hordered
    exact hordered.append q.spells_windowText
  refine ⟨?_, ?_, ?_⟩
  · exact (hmatch.append_silent spells_countReturn).readsAs
  · exact (hfetch true).readsAs
  · have hunsorted := hfetch false
    rw [show q.shownSort false = [] from rfl, List.append_nil] at hunsorted
    exact hunsorted.readsAs

end GraphSearch

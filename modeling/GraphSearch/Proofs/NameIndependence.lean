import GraphSearch.Proofs.Construction
import GraphSearch.Proofs.Placeholders
import GraphSearch.Proofs.Recency

/-!
The digest of a query does not depend on the names of its parameters.

A script is a sequence of calls that write a condition; its composite clauses refer to the values
that it has bound by their numbers. Between its calls others may bind values of their own, set an
order or turn the page. They shift the numbers in later names, but no name is given twice, so that
each name in the condition still stands for the value of the script. Main statement: the digest is a
function of the script, the kind and the labels.
-/

namespace GraphSearch

open Encoding

/-! ### Scripts -/

/-- A piece of a composite clause in a script. -/
inductive ScriptPart where
  | text (s : String)
  /-- The name that a `bind` of the script has returned; they are counted from zero. -/
  | bound (number : Nat)

/-- A call that writes a condition. -/
inductive ScriptCall where
  | and
  | or
  | not
  | beginGroup (combinator : Combinator)
  | endGroup
  | addClause (key operator : String) (value : Value) (ignoreCase isProperty : Bool)
  | addNullTest (key operator : String)
  | bind (key : String) (value : Value)
  | addComposite (parts : List ScriptPart)

/-- A call that leaves the condition as it is. -/
inductive Aside where
  | bind (key : String) (value : Value)
  | sortBy (order : SortOrder)
  | nextPage

inductive Turn where
  | scripted (c : ScriptCall)
  | aside (a : Aside)

def Turn.scripted? : Turn → Option ScriptCall
  | scripted c => some c
  | aside _ => none

/-- The script refers only to values that it has bound before, of which there are `bound` at its
start. -/
def Scoped (bound : Nat) : List ScriptCall → Prop
  | [] => True
  | .bind _ _ :: rest => Scoped (bound + 1) rest
  | .addComposite parts :: rest =>
      (∀ number, .bound number ∈ parts → number < bound) ∧ Scoped bound rest
  | _ :: rest => Scoped bound rest

def ScriptPart.resolve (names : List String) : ScriptPart → Part
  | text s => .text s
  | bound number => .parameter (names.getD number "")

/-- A query under construction, with the names that the script has been given. -/
structure Scribe where
  query : Query
  names : List String := []

namespace Scribe

def perform (s : Scribe) : ScriptCall → Scribe
  | .and => { s with query := s.query.push .and }
  | .or => { s with query := s.query.push .or }
  | .not => { s with query := s.query.push .not }
  | .beginGroup combinator => { s with query := s.query.beginGroup combinator }
  | .endGroup => { s with query := s.query.endGroup }
  | .addClause key operator value ignoreCase isProperty =>
      { s with query := s.query.addClause key operator value ignoreCase isProperty }
  | .addNullTest key operator => { s with query := s.query.addNullTest key operator }
  | .bind key value => ⟨s.query.bind key value, s.names ++ [s.query.freshName key]⟩
  | .addComposite parts =>
      { s with query := s.query.addComposite (parts.map (ScriptPart.resolve s.names)) }

def interject (s : Scribe) : Aside → Scribe
  | .bind key value => { s with query := s.query.bind key value }
  | .sortBy order => { s with query := s.query.sortBy order }
  | .nextPage => { s with query := s.query.nextPage }

def turn (s : Scribe) : Turn → Scribe
  | .scripted c => s.perform c
  | .aside a => s.interject a

end Scribe

/-! ### The bytes of a script -/

def ScriptPart.digestInput (values : List Value) : ScriptPart → List UInt8
  | text s => Encoding.text s
  | bound number => optional Value.digestInput values[number]?

/-- What a call adds to the digest of a condition, after the script has bound the values. -/
def ScriptCall.digestInput (values : List Value) : ScriptCall → List UInt8
  | and => [0]
  | or => [1]
  | not => [2]
  | beginGroup _ => [3]
  | endGroup => [4]
  | addClause key operator value ignoreCase isProperty =>
      5 :: Encoding.text key ++ Encoding.text operator ++ flag ignoreCase ++ flag isProperty ++
        optional Value.digestInput (boundValue value)
  | addNullTest key operator =>
      5 :: Encoding.text key ++ Encoding.text operator ++ flag false ++ flag true ++ tag 0
  | bind _ _ => []
  | addComposite parts => 6 :: parts.flatMap (ScriptPart.digestInput values)

def ScriptCall.valuesAfter (values : List Value) : ScriptCall → List Value
  | bind _ value => values ++ [value.stored]
  | _ => values

def scriptDigestInput (values : List Value) : List ScriptCall → List UInt8
  | [] => []
  | c :: rest => c.digestInput values ++ scriptDigestInput (c.valuesAfter values) rest

/-! ### Names and values -/

/-- The bytes of a fragment depend on the values under its names, and on no others. -/
theorem Fragment.digestInput_congr {ps ps' : Dictionary Value} {f : Fragment}
    (h : ∀ name ∈ f.placeholders, ps.get? name = ps'.get? name) :
    f.digestInput ps = f.digestInput ps' := by
  cases f with
  | clause c =>
      cases c with
      | simple key operator parameter ignoreCase isProperty =>
          cases parameter with
          | none => rfl
          | some name =>
              have hname := h name (by simp [placeholders])
              simp only [digestInput, parameterDigestInput, hname]
      | composite parts =>
          have hparts : ∀ part ∈ parts, part.digestInput ps = part.digestInput ps' := by
            intro part hpart
            cases part with
            | text s => rfl
            | parameter name =>
                have hname := h name (List.mem_filterMap.mpr ⟨_, hpart, rfl⟩)
                simp only [Part.digestInput, parameterDigestInput, hname]
          exact congrArg (6 :: ·) (List.flatMap_congr hparts)
  | _ => rfl

theorem Query.parameters_get?_bind {q : Query} (h : Numbered q.bindings) (key : String)
    (value : Value) {name : String} {known : Value} (hname : q.parameters.get? name = some known) :
    (q.bind key value).parameters.get? name = some known := by
  have hnumbered := numbered_bind h key value
  rw [bind_eq_extend] at hnumbered ⊢
  exact parameters_get?_extend hnumbered hname

namespace Scribe

/-- The condition has the given bytes, and the names of the script stand for its values. -/
structure Tells (kind : EntityKind) (labels : Labels) (values : List Value) (bytes : List UInt8)
    (s : Scribe) : Prop where
  kind_eq : s.query.kind = kind
  labels_eq : s.query.labels = labels
  numbered : Numbered s.query.bindings
  /-- Each name in the condition stands for a value. -/
  bound : ∀ f ∈ s.query.fragments, ∀ name ∈ f.placeholders,
    ∃ value, s.query.parameters.get? name = some value
  digest_eq : s.query.fragments.flatMap (Fragment.digestInput s.query.parameters) = bytes
  values_eq : List.Forall₂ (fun name value => s.query.parameters.get? name = some value) s.names
    values

namespace Tells

variable {kind : EntityKind} {labels : Labels} {values : List Value} {bytes : List UInt8}
  {s : Scribe}

/-- Groups, order and paging are not part of the condition. -/
theorem congr (h : s.Tells kind labels values bytes) {q : Query} (hkind : q.kind = s.query.kind)
    (hlabels : q.labels = s.query.labels) (hfragments : q.fragments = s.query.fragments)
    (hbindings : q.bindings = s.query.bindings) :
    Tells kind labels values bytes { s with query := q } := by
  have hparameters : q.parameters = s.query.parameters := by
    rw [Query.parameters, Query.parameters, hbindings]
  refine ⟨hkind.trans h.kind_eq, hlabels.trans h.labels_eq, hbindings ▸ h.numbered, ?_, ?_, ?_⟩
  · rw [hfragments, hparameters]
    exact h.bound
  · rw [hfragments, hparameters]
    exact h.digest_eq
  · rw [hparameters]
    exact h.values_eq

/-- One more binding takes no name away from the condition or from the script. -/
theorem bind (h : s.Tells kind labels values bytes) (key : String) (value : Value) :
    Tells kind labels values bytes { s with query := s.query.bind key value } := by
  have hkeeps {name : String} {known : Value} (hname : s.query.parameters.get? name = some known) :=
    Query.parameters_get?_bind h.numbered key value hname
  refine ⟨h.kind_eq, h.labels_eq, Query.numbered_bind h.numbered key value, ?_, ?_, ?_⟩
  · intro f hf name hname
    obtain ⟨known, hknown⟩ := h.bound f hf name hname
    exact ⟨known, hkeeps hknown⟩
  · rw [← h.digest_eq]
    -- A name that stood for nothing could have come to stand for the new value.
    apply List.flatMap_congr
    intro f hf
    apply Fragment.digestInput_congr
    intro name hname
    obtain ⟨known, hknown⟩ := h.bound f hf name hname
    rw [hknown, hkeeps hknown]
  · exact h.values_eq.imp fun _ _ hname => hkeeps hname

theorem push (h : s.Tells kind labels values bytes) {f : Fragment}
    (hf : ∀ name ∈ f.placeholders, ∃ value, s.query.parameters.get? name = some value) :
    Tells kind labels values (bytes ++ f.digestInput s.query.parameters)
      { s with query := s.query.push f } := by
  refine ⟨h.kind_eq, h.labels_eq, h.numbered, ?_, ?_, h.values_eq⟩
  · intro g hg
    rcases List.mem_append.mp hg with hold | hnew
    · exact h.bound g hold
    · obtain rfl := List.mem_singleton.mp hnew
      exact hf
  · change (s.query.fragments ++ [f]).flatMap (Fragment.digestInput s.query.parameters) = _
    rw [List.flatMap_append, List.flatMap_singleton, h.digest_eq]

/-- Keywords and parentheses have no names in them. -/
theorem pushSilent (h : s.Tells kind labels values bytes) {f : Fragment}
    (hf : f.placeholders = []) :
    Tells kind labels values (bytes ++ f.digestInput s.query.parameters)
      { s with query := s.query.push f } := by
  apply h.push
  intro name hname
  rw [hf] at hname
  exact absurd hname List.not_mem_nil

theorem addClause (h : s.Tells kind labels values bytes) (key operator : String) (value : Value)
    (ignoreCase isProperty : Bool) :
    Tells kind labels values
      (bytes ++ (ScriptCall.addClause key operator value ignoreCase isProperty).digestInput values)
      { s with query := s.query.addClause key operator value ignoreCase isProperty } := by
  rw [Query.addClause, ScriptCall.digestInput, boundValue]
  split
  · exact h.pushSilent (f := .clause (.simple key operator none ignoreCase isProperty)) rfl
  · have hvalue := Query.parameters_get?_freshName h.numbered key value
    have hpush := (h.bind key value).push
      (f := .clause (.simple key operator (some (s.query.freshName key)) ignoreCase isProperty)) (by
        intro name hname
        obtain rfl := List.mem_singleton.mp hname
        exact ⟨_, hvalue⟩)
    simp only [Fragment.digestInput, parameterDigestInput, hvalue] at hpush
    exact hpush

theorem get?_getD (h : s.Tells kind labels values bytes) {number : Nat}
    (hnumber : number < values.length) :
    s.query.parameters.get? (s.names.getD number "") = values[number]? := by
  have hlength := h.values_eq.length_eq
  have hname : number < s.names.length := hlength ▸ hnumber
  rw [List.getD_eq_getElem _ _ hname, List.getElem?_eq_getElem hnumber]
  exact h.values_eq.get hname hnumber

theorem addComposite (h : s.Tells kind labels values bytes) {parts : List ScriptPart}
    (hscoped : ∀ number, .bound number ∈ parts → number < values.length) :
    Tells kind labels values (bytes ++ (ScriptCall.addComposite parts).digestInput values)
      { s with query := s.query.addComposite (parts.map (ScriptPart.resolve s.names)) } := by
  have hpush := h.push (f := .clause (.composite (parts.map (ScriptPart.resolve s.names)))) (by
    intro name hname
    obtain ⟨part, hpart, hplaceholder⟩ := List.mem_filterMap.mp hname
    obtain ⟨scripted, hscripted, rfl⟩ := List.mem_map.mp hpart
    cases scripted with
    | text s => exact absurd hplaceholder (by simp [ScriptPart.resolve, Part.placeholder?])
    | bound number =>
        obtain rfl := Option.some.inj hplaceholder
        have hnumber := hscoped number hscripted
        exact ⟨values[number], by rw [h.get?_getD hnumber, List.getElem?_eq_getElem hnumber]⟩)
  -- In scope, the name that a number resolves to stands for the value with that number.
  have hparts : (parts.map (ScriptPart.resolve s.names)).flatMap
      (Part.digestInput s.query.parameters) = parts.flatMap (ScriptPart.digestInput values) := by
    rw [List.flatMap_map]
    apply List.flatMap_congr
    intro part hpart
    cases part with
    | text s => rfl
    | bound number =>
        change parameterDigestInput _ _ = _
        rw [parameterDigestInput, h.get?_getD (hscoped number hpart)]
        rfl
  rw [Fragment.digestInput, hparts] at hpush
  exact hpush

theorem perform (h : s.Tells kind labels values bytes) {c : ScriptCall} {rest : List ScriptCall}
    (hscoped : Scoped values.length (c :: rest)) :
    (s.perform c).Tells kind labels (c.valuesAfter values) (bytes ++ c.digestInput values) ∧
      Scoped (c.valuesAfter values).length rest := by
  cases c with
  | addClause key operator value ignoreCase isProperty =>
      exact ⟨h.addClause key operator value ignoreCase isProperty, hscoped⟩
  | addNullTest key operator => exact ⟨h.addClause key operator .null false true, hscoped⟩
  | bind key value =>
      have hbind := h.bind key value
      have hname := Query.parameters_get?_freshName h.numbered key value
      refine ⟨⟨hbind.kind_eq, hbind.labels_eq, hbind.numbered, hbind.bound, ?_, ?_⟩, ?_⟩
      · rw [ScriptCall.digestInput, List.append_nil]
        exact hbind.digest_eq
      · exact List.rel_append hbind.values_eq (List.Forall₂.cons hname List.Forall₂.nil)
      · rw [ScriptCall.valuesAfter, List.length_append]
        exact hscoped
  | addComposite parts => exact ⟨h.addComposite hscoped.1, hscoped.2⟩
  | and => exact ⟨h.pushSilent (f := .and) rfl, hscoped⟩
  | or => exact ⟨h.pushSilent (f := .or) rfl, hscoped⟩
  | not => exact ⟨h.pushSilent (f := .not) rfl, hscoped⟩
  | beginGroup combinator =>
      exact ⟨(h.pushSilent (f := .opening) rfl).congr rfl rfl rfl rfl, hscoped⟩
  | endGroup => exact ⟨(h.pushSilent (f := .closing) rfl).congr rfl rfl rfl rfl, hscoped⟩

theorem interject (h : s.Tells kind labels values bytes) (a : Aside) :
    (s.interject a).Tells kind labels values bytes := by
  cases a with
  | bind key value => exact h.bind key value
  | sortBy order | nextPage => exact h.congr rfl rfl rfl rfl

/-- After any turns, the condition has the bytes of the script among them. -/
theorem turns (h : s.Tells kind labels values bytes) {turns : List Turn}
    (hscoped : Scoped values.length (turns.filterMap Turn.scripted?)) :
    ∃ known, (turns.foldl turn s).Tells kind labels known
      (bytes ++ scriptDigestInput values (turns.filterMap Turn.scripted?)) := by
  induction turns generalizing s values bytes with
  | nil =>
      refine ⟨values, ?_⟩
      rw [List.filterMap_nil, scriptDigestInput, List.append_nil]
      exact h
  | cons t rest ih =>
      cases t with
      | scripted c =>
          obtain ⟨hperform, hrest⟩ := h.perform hscoped
          obtain ⟨known, hknown⟩ := ih hperform hrest
          refine ⟨known, ?_⟩
          rw [List.append_assoc] at hknown
          exact hknown
      | aside a => exact ih (h.interject a) hscoped

theorem digestInput_eq (h : s.Tells kind labels values bytes) :
    s.query.digestInput = kind.digestInput ++ optional Encoding.text labels.type ++
      optional Encoding.text labels.source ++ optional Encoding.text labels.target ++ bytes := by
  rw [Query.digestInput, h.kind_eq, h.labels_eq, h.digest_eq]

end Tells

/-- The digest after any turns is a function of the kind, the labels and the script. -/
theorem digestInput_turns (kind : EntityKind) (labels : Labels) (size : UInt64)
    (limit : Option UInt64) (offset : UInt64) {turns : List Turn}
    (hscoped : Scoped 0 (turns.filterMap Turn.scripted?)) :
    (turns.foldl turn ⟨Query.new kind size labels limit offset, []⟩).query.digestInput =
      kind.digestInput ++ optional Encoding.text labels.type ++
        optional Encoding.text labels.source ++ optional Encoding.text labels.target ++
        scriptDigestInput [] (turns.filterMap Turn.scripted?) := by
  have hnew : Tells kind labels [] [] ⟨Query.new kind size labels limit offset, []⟩ :=
    ⟨rfl, rfl, Numbered.nil, fun _ hf => absurd hf List.not_mem_nil, rfl, List.Forall₂.nil⟩
  obtain ⟨known, hknown⟩ := hnew.turns hscoped
  rw [hknown.digestInput_eq, List.nil_append]

end Scribe

/-! ### Predicates that differ in their orders -/

namespace Predicate

mutual

/-- The predicate without the orders in it. -/
def sortless : Predicate → Predicate
  | leaf a condition => leaf { a with sort := none } condition
  | group a combinator children => group { a with sort := none } combinator (sortlessAll children)

def sortlessAll : List Predicate → List Predicate
  | [] => []
  | child :: rest => sortless child :: sortlessAll rest

end

theorem kind_sortless (p : Predicate) : p.sortless.kind = p.kind := by
  cases p <;> rfl

end Predicate

namespace Registry

mutual

theorem itemBy_sortless (r : Registry) (kind : EntityKind) (t : ClauseBuilder) :
    ∀ p : Predicate, r.itemBy kind t p.sortless = r.itemBy kind t p
  | .leaf a condition => rfl
  | .group a combinator children => by
      rw [Predicate.sortless, itemBy, itemBy, itemsOf_sortlessAll r kind children]

theorem itemsOf_sortlessAll (r : Registry) (kind : EntityKind) :
    ∀ ps : List Predicate, r.itemsOf kind (Predicate.sortlessAll ps) = r.itemsOf kind ps
  | [] => rfl
  | child :: rest => by
      rw [Predicate.sortlessAll, itemsOf, itemsOf, Predicate.kind_sortless,
        itemsOf_sortlessAll r kind rest]
      cases r child.kind with
      | none => rfl
      | some t => rw [Option.bind_some, Option.bind_some, itemBy_sortless r kind t child]

end

theorem lexemes_sortless (r : Registry) (kind : EntityKind) (p : Predicate) :
    r.lexemes kind p.sortless = r.lexemes kind p := by
  rw [lexemes, lexemes, item?, item?, Predicate.kind_sortless]
  congr 2
  funext t
  exact itemBy_sortless r kind t p

end Registry

/-! ### One entry for all of them -/

/-- What is at the front of the cache is found, and the cache stays as it is. -/
theorem CountCache.get_of_front {c : CountCache} {digest count : UInt64}
    {rest : List (UInt64 × UInt64)} (hentries : c.entries = (digest, count) :: rest)
    (hrest : ∀ entry ∈ rest, entry.1 ≠ digest) : c.get digest = (some count, c) := by
  have hfind : c.find? digest = some count := by
    rw [find?, hentries, List.lookup_cons_self]
  have hremove : remove digest c.entries = rest := by
    rw [hentries, remove, List.filter_cons_of_neg (by simp), List.filter_eq_self]
    intro entry hentry
    exact decide_eq_true (hrest entry hentry)
  rw [get_of_find?_some hfind, hremove, ← hentries]

namespace Index

variable {σ τ : Type} {session : Session σ} {state state' : σ} {cache cache' : CountCache}

/-- A query with the digest of one that has been counted is not counted again. -/
theorem resultCount_again (hcapacity : 0 < cache.capacity) {q q' : Query}
    (hdigest : q.digest = q'.digest) {count : UInt64}
    (hcount : resultCount session state cache q = (.ok count, cache', state'))
    (other : Session τ) (later : τ) :
    resultCount other later cache' q' = (.ok count, cache', later) := by
  have hothers : ∀ entry ∈ CountCache.remove q.digest cache.entries, entry.1 ≠ q.digest := by
    intro entry hentry
    exact of_decide_eq_true (List.mem_filter.mp hentry).2
  have hget : cache'.get q'.digest = (some count, cache') := by
    rw [← hdigest]
    cases hfind : cache.find? q.digest with
    | some known =>
        rw [resultCount_of_known session state hfind, Prod.mk.injEq, Prod.mk.injEq] at hcount
        obtain ⟨hknown, rfl, -⟩ := hcount
        obtain rfl := Except.ok.inj hknown
        exact CountCache.get_of_front rfl hothers
    | none =>
        rcases hanswer : session.count state q.countStatement q.parameters with ⟨e | told, told'⟩
        · rw [resultCount_of_failed hfind hanswer] at hcount
          exact absurd (Prod.mk.inj hcount).1 (by simp)
        · rw [resultCount_of_counted hfind hanswer, Prod.mk.injEq,
            Prod.mk.injEq] at hcount
          obtain ⟨hknown, rfl, -⟩ := hcount
          obtain rfl := Except.ok.inj hknown
          obtain ⟨room, hroom⟩ := Nat.exists_eq_succ_of_ne_zero hcapacity.ne'
          apply CountCache.get_of_front
          · rw [CountCache.put, hroom, List.take_succ_cons]
          · intro entry hentry
            exact hothers entry (List.mem_of_mem_take hentry)
  rw [resultCount, hget]

theorem digestInput_build_sortless (ix : Index) {context context' : SearchContext}
    (hlabels : context.labels = context'.labels) {p p' : Predicate}
    (hsortless : p.sortless = p'.sortless) :
    (ix.build context p).digestInput = (ix.build context' p').digestInput := by
  rw [build_eq_writeAll, build_eq_writeAll, digestInput_start_writeAll, digestInput_start_writeAll,
    hlabels, ← Registry.lexemes_sortless ix.registry ix.kind p, hsortless,
    Registry.lexemes_sortless]

end Index

/-- The digest ignores names, order and paging. Whatever comes between the calls of a script, on a
query with any paging, the digest is that of the script alone on a query with any other paging. And
searches of one index that differ only in their paging and in the orders of their predicates share
one count: where one of them has been counted, the other finds the count without asking, and the
cache stays as it is. -/
theorem digest_ignores_names (kind : EntityKind) (labels : Labels) (size size' : UInt64)
    (limit limit' : Option UInt64) (offset offset' : UInt64) (turns : List Turn)
    (hscoped : Scoped 0 (turns.filterMap Turn.scripted?)) (ix : Index)
    (context context' : SearchContext) (hlabels : context.labels = context'.labels)
    {p p' : Predicate} (hsortless : p.sortless = p'.sortless) :
    ((turns.filterMap Turn.scripted?).foldl Scribe.perform
        ⟨Query.new kind size labels limit offset, []⟩).query.digest =
      (turns.foldl Scribe.turn ⟨Query.new kind size' labels limit' offset', []⟩).query.digest ∧
    (ix.build context p).digest = (ix.build context' p').digest ∧
    ∀ {σ τ : Type} (session : Session σ) (state state' : σ) (cache cache' : CountCache)
      (count : UInt64), 0 < cache.capacity →
        Index.resultCount session state cache (ix.build context p) =
          (.ok count, cache', state') →
        ∀ (other : Session τ) (later : τ),
          Index.resultCount other later cache' (ix.build context' p') =
            (.ok count, cache', later) := by
  have hbuild : (ix.build context p).digest = (ix.build context' p').digest :=
    congrArg sipHash (ix.digestInput_build_sortless hlabels hsortless)
  refine ⟨?_, hbuild, ?_⟩
  · have hscript : ((turns.filterMap Turn.scripted?).map Turn.scripted).filterMap
        Turn.scripted? = turns.filterMap Turn.scripted? := by
      rw [List.filterMap_map]
      exact List.filterMap_some
    have hplain := Scribe.digestInput_turns kind labels size limit offset (hscript.symm ▸ hscoped)
    rw [hscript, List.foldl_map] at hplain
    have hmixed := Scribe.digestInput_turns kind labels size' limit' offset' hscoped
    exact congrArg sipHash (hplain.trans hmixed.symm)
  · intro σ τ session state state' cache cache' count hcapacity hcount other later
    exact Index.resultCount_again hcapacity hbuild hcount other later

/-- A script that compares an age and refers to a value, with another age bound in between. -/
def interruptedAges : List Turn :=
  [.scripted (.bind "age" (.integer 30)), .aside (.bind "age" (.integer 0)),
    .scripted (.addClause "age" ">" (.integer 18) false true), .aside .nextPage,
    .scripted .and, .aside (.sortBy ⟨"name", .lexical, true⟩),
    .scripted (.addComposite [.bound 0, .text " IN n.ages"])]

set_option maxRecDepth 4096 in
/-- The names drift apart, and the digests do not. -/
theorem digest_ignores_names_interruptedAges :
    let plain := ((interruptedAges.filterMap Turn.scripted?).foldl Scribe.perform
      ⟨Query.new .node 10, []⟩).query
    let mixed := (interruptedAges.foldl Scribe.turn ⟨Query.new .node 2 {} (some 5) 3, []⟩).query
    let sorted := Index.forgetful.build { limit := some 5, pageSize := some 2 }
      (ageAndSize.sortedBy "name" .lexical true)
    Scoped 0 (interruptedAges.filterMap Turn.scripted?) ∧
      plain.countStatement =
        "MATCH (n) WHERE n.`age` > $age_param_1 AND $age_param IN n.ages RETURN COUNT(n) AS count" ∧
      mixed.countStatement =
        "MATCH (n) WHERE n.`age` > $age_param_2 AND $age_param IN n.ages RETURN COUNT(n) AS count" ∧
      plain.digest = mixed.digest ∧
      ∃ cache state,
        Index.resultCount Index.tellsOnce (0, { count := some 7 }) Index.forgetful.emptyCache sorted =
          (.ok 7, cache, state) ∧
        (Index.resultCount Index.tellsOnce state cache
          (Index.forgetful.build {} ageAndSize)).1 = .ok 7 := by
  intro plain mixed sorted
  have hscoped : Scoped 0 (interruptedAges.filterMap Turn.scripted?) := by
    refine ⟨?_, trivial⟩
    intro number hnumber
    rcases List.mem_cons.mp hnumber with hfirst | hlater
    · obtain rfl := ScriptPart.bound.inj hfirst
      exact Nat.zero_lt_one
    · exact absurd (List.mem_singleton.mp hlater) (by simp)
  have hsortless : (ageAndSize.sortedBy "name" .lexical true).sortless = ageAndSize.sortless := rfl
  obtain ⟨hdigest, -, hshared⟩ := digest_ignores_names .node {} 10 2 none (some 5) 0 3
    interruptedAges hscoped Index.forgetful { limit := some 5, pageSize := some 2 } {} rfl hsortless
  obtain ⟨cache, state, hcount⟩ : ∃ cache state,
      Index.resultCount Index.tellsOnce (0, { count := some 7 }) Index.forgetful.emptyCache sorted =
        (.ok 7, cache, state) := ⟨_, _, rfl⟩
  refine ⟨hscoped, rfl, rfl, hdigest, cache, state, hcount, ?_⟩
  rw [hshared Index.tellsOnce _ _ _ _ _ (by decide) hcount]

end GraphSearch

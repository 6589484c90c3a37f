import Mathlib.Data.List.Infix
import GraphSearch.Proofs.ItemGrammar

/-!
What a search for a text finds.

The text becomes a pattern for the store's operator, which tests a whole property against it. The
store is not part of the library; what is asked of its operator are the rules for the few forms that
such a pattern has: characters for themselves, marks behind a backslash, a dot, a star, and the flag
that turns case off. A dot does not stand for a character that ends a line. Main statement: the
pattern of a text finds it in a property just if no line ends before or behind the place where it
stands.
-/

namespace GraphSearch

/-! ### Patterns -/

/-- What a character is tested for. -/
inductive PatternSymbol where
  | exactly (c : Char)
  | any
deriving DecidableEq, Repr

inductive PatternToken where
  | symbol (s : PatternSymbol)
  | star
deriving DecidableEq, Repr

/-- A symbol that stands once, or as often as there are characters for it. -/
structure PatternStep where
  symbol : PatternSymbol
  repeated : Bool
deriving DecidableEq, Repr

structure Pattern where
  ignoreCase : Bool
  steps : List PatternStep
deriving DecidableEq, Repr

namespace Pattern

/-- The characters that do not stand for themselves. -/
def marks : List Char :=
  ['\\', '^', '$', '.', '|', '?', '*', '+', '(', ')', '[', ']', '\x7b', '\x7d']

/-- The tokens of a pattern, if it has none of the forms that are left out here. -/
def tokens? : List Char → Option (List PatternToken)
  | [] => some []
  | '\\' :: c :: rest =>
    if c ∈ marks then (tokens? rest).map (.symbol (.exactly c) :: ·) else none
  | '.' :: rest => (tokens? rest).map (.symbol .any :: ·)
  | '*' :: rest => (tokens? rest).map (.star :: ·)
  | c :: rest => if c ∈ marks then none else (tokens? rest).map (.symbol (.exactly c) :: ·)

/-- A star repeats the symbol before it. -/
def steps? : List PatternToken → Option (List PatternStep)
  | [] => some []
  | .star :: _ => none
  | .symbol s :: .star :: rest => (steps? rest).map (⟨s, true⟩ :: ·)
  | .symbol s :: rest => (steps? rest).map (⟨s, false⟩ :: ·)

def read? (text : String) : Option Pattern :=
  match text.toList with
  | '(' :: '?' :: 'i' :: ')' :: rest => ((tokens? rest).bind steps?).map (⟨true, ·⟩)
  | rest => ((tokens? rest).bind steps?).map (⟨false, ·⟩)

/-- The characters that end a line. -/
def lineEnds : List Char := ['\n', '\r', '\x85', '\u2028', '\u2029']

end Pattern

/-- Case is that of the letters from a to z. -/
def PatternSymbol.admits (ignoreCase : Bool) : PatternSymbol → Char → Bool
  | exactly c, d => if ignoreCase then c.toLower = d.toLower else c = d
  | any, d => d ∉ Pattern.lineEnds

namespace Pattern

/-- A repeated symbol takes as many characters as it can, and gives them back one by one as long as
what is left is refused. -/
def acceptsRepeated (admits : Char → Bool) (accepts : List Char → Bool) : List Char → Bool
  | [] => accepts []
  | c :: rest => (admits c && acceptsRepeated admits accepts rest) || accepts (c :: rest)

def acceptsSteps (ignoreCase : Bool) : List PatternStep → List Char → Bool
  | [] => List.isEmpty
  | ⟨s, true⟩ :: steps => acceptsRepeated (s.admits ignoreCase) (acceptsSteps ignoreCase steps)
  | ⟨s, false⟩ :: steps => fun
    | [] => false
    | c :: rest => s.admits ignoreCase c && acceptsSteps ignoreCase steps rest

/-- Whether the pattern covers the whole text. -/
def accepts (p : Pattern) (text : String) : Bool :=
  acceptsSteps p.ignoreCase p.steps text.toList

/-- The operator of a store, given a property and a pattern, treats patterns by the rules. -/
def Rules (operator : String → String → Bool) : Prop :=
  ∀ pattern p, read? pattern = some p → ∀ property, operator property pattern = p.accepts property

/-- The operator that knows the forms above and no others. -/
def operator (property pattern : String) : Bool :=
  (read? pattern).any fun p => p.accepts property

theorem rules_operator : Rules operator := by
  intro pattern p hread property
  rw [operator, hread, Option.any_some]

/-! ### The pattern of a text -/

/-- A character as it stands in a pattern for itself. -/
def escaped (c : Char) : List Char :=
  if c ∈ Draft.patternMarks then ['\\', c] else [c]

/-- The steps that the characters of a text take one by one. -/
def exactSteps (text : List Char) : List PatternStep :=
  text.map fun c => ⟨.exactly c, false⟩

/-- The pattern that looks for a text in any case. -/
def ofText (text : String) : Pattern where
  ignoreCase := true
  steps := ⟨.any, true⟩ :: (exactSteps text.toList ++ [⟨.any, true⟩])

/-- The characters that stand behind a backslash are those that must. -/
theorem mem_patternMarks_iff (c : Char) : c ∈ Draft.patternMarks ↔ c ∈ marks := by
  have hperm : Draft.patternMarks.Perm marks := by decide
  exact hperm.mem_iff

theorem tokens?_escaped (c : Char) (rest : List Char) :
    tokens? (escaped c ++ rest) = (tokens? rest).map (.symbol (.exactly c) :: ·) := by
  rw [escaped]
  by_cases hmark : c ∈ marks
  · rw [if_pos ((mem_patternMarks_iff c).mpr hmark)]
    change tokens? ('\\' :: c :: rest) = _
    rw [tokens?, if_pos hmark]
  · rw [if_neg (mt (mem_patternMarks_iff c).mp hmark)]
    change tokens? (c :: rest) = _
    have hne (d : Char) (hd : d ∈ marks) : c ≠ d := fun heq => hmark (heq ▸ hd)
    rw [tokens?, if_neg hmark]
    · exact fun _ _ heq => absurd heq (hne '\\' (by decide))
    · exact hne '.' (by decide)
    · exact hne '*' (by decide)

theorem tokens?_flatMap_escaped (text rest : List Char) :
    tokens? (text.flatMap escaped ++ rest) =
      (tokens? rest).map (text.map (fun c => .symbol (.exactly c)) ++ ·) := by
  induction text with
  | nil => simp
  | cons c text ih =>
      rw [List.flatMap_cons, List.append_assoc, tokens?_escaped, ih, Option.map_map]
      rfl

theorem steps?_symbol_symbol (s s' : PatternSymbol) (rest : List PatternToken) :
    steps? (.symbol s :: .symbol s' :: rest) =
      (steps? (.symbol s' :: rest)).map (⟨s, false⟩ :: ·) :=
  rfl

theorem steps?_symbols (text : List Char) (s : PatternSymbol) (rest : List PatternToken) :
    steps? (text.map (fun c => .symbol (.exactly c)) ++ .symbol s :: rest) =
      (steps? (.symbol s :: rest)).map (exactSteps text ++ ·) := by
  induction text with
  | nil => simp [exactSteps]
  | cons c text ih =>
      have hfirst : steps? ((c :: text).map (fun c => .symbol (.exactly c)) ++ .symbol s :: rest) =
          (steps? (text.map (fun c => .symbol (.exactly c)) ++ .symbol s :: rest)).map
            (⟨.exactly c, false⟩ :: ·) := by
        cases text <;> exact steps?_symbol_symbol _ _ _
      rw [hfirst, ih, Option.map_map]
      rfl

theorem escapedPattern_toList (text : String) :
    (Draft.escapedPattern text).toList = text.toList.flatMap escaped := by
  rw [Draft.escapedPattern, String.toList_ofList]
  rfl

theorem read?_containsText (text : String) :
    read? ("(?i).*" ++ Draft.escapedPattern text ++ ".*") = some (ofText text) := by
  have htokens := tokens?_flatMap_escaped text.toList ['.', '*']
  have hsteps := steps?_symbols text.toList .any [.star]
  have htext : ("(?i).*" ++ Draft.escapedPattern text ++ ".*").toList =
      '(' :: '?' :: 'i' :: ')' :: '.' :: '*' ::
        (text.toList.flatMap escaped ++ ['.', '*']) := by
    simp [escapedPattern_toList]
  rw [read?, htext]
  change ((((tokens? _).map (.star :: ·)).map (.symbol .any :: ·)).bind steps?).map _ = _
  rw [htokens]
  change ((steps? (text.toList.map _ ++ [.symbol .any, .star])).map (⟨.any, true⟩ :: ·)).map _ = _
  rw [hsteps]
  rfl

/-! ### What is found -/

theorem acceptsRepeated_iff {admits : Char → Bool} {accepts : List Char → Bool}
    {text : List Char} :
    acceptsRepeated admits accepts text = true ↔
      ∃ before after, text = before ++ after ∧ (∀ c ∈ before, admits c = true) ∧
        accepts after = true := by
  induction text with
  | nil =>
      constructor
      · intro h
        exact ⟨[], [], rfl, by simp, h⟩
      · rintro ⟨before, after, htext, -, hafter⟩
        obtain ⟨-, rfl⟩ := List.append_eq_nil_iff.mp htext.symm
        exact hafter
  | cons c rest ih =>
      rw [acceptsRepeated, Bool.or_eq_true, Bool.and_eq_true, ih]
      constructor
      · rintro (⟨hc, before, after, rfl, hbefore, hafter⟩ | hnone)
        · exact ⟨c :: before, after, rfl, List.forall_mem_cons.mpr ⟨hc, hbefore⟩, hafter⟩
        · exact ⟨[], c :: rest, rfl, by simp, hnone⟩
      · rintro ⟨before, after, htext, hbefore, hafter⟩
        cases before with
        | nil => exact Or.inr (htext ▸ hafter)
        | cons d before =>
            obtain ⟨rfl, rfl⟩ := List.cons.inj htext
            obtain ⟨hc, hbefore⟩ := List.forall_mem_cons.mp hbefore
            exact Or.inl ⟨hc, before, after, rfl, hbefore, hafter⟩

theorem acceptsSteps_exactly {text property : List Char} {steps : List PatternStep} :
    acceptsSteps true (exactSteps text ++ steps) property = true ↔
      ∃ found after, property = found ++ after ∧
        found.map Char.toLower = text.map Char.toLower ∧ acceptsSteps true steps after = true := by
  induction text generalizing property with
  | nil => simp [exactSteps]
  | cons c text ih =>
      cases property with
      | nil => simp [exactSteps, acceptsSteps]
      | cons d property =>
          change (_ && acceptsSteps true (exactSteps text ++ steps) property) = true ↔ _
          rw [Bool.and_eq_true, ih, PatternSymbol.admits, if_pos rfl, decide_eq_true_eq]
          constructor
          · rintro ⟨hd, found, after, rfl, hfound, hafter⟩
            exact ⟨d :: found, after, rfl, by rw [List.map_cons, List.map_cons, hd, hfound], hafter⟩
          · rintro ⟨found, after, hproperty, hfound, hafter⟩
            cases found with
            | nil => exact absurd hfound (by simp)
            | cons e found =>
                obtain ⟨rfl, rfl⟩ := List.cons.inj hproperty
                obtain ⟨he, hfound⟩ := List.cons.inj hfound
                exact ⟨he.symm, found, after, rfl, hfound, hafter⟩

/-- The text stands in the property between two parts of it, in any case. -/
def StandsBetween (before after : List Char) (text property : String) : Prop :=
  ∃ found, property.toList = before ++ found ++ after ∧
    found.map Char.toLower = text.toList.map Char.toLower

theorem accepts_ofText_iff (text property : String) :
    (ofText text).accepts property = true ↔
      ∃ before after, StandsBetween before after text property ∧
        ∀ c ∈ before ++ after, c ∉ lineEnds := by
  have hany (part : List Char) : acceptsSteps true [⟨.any, true⟩] part = true ↔
      ∀ c ∈ part, c ∉ lineEnds := by
    change acceptsRepeated _ _ part = true ↔ _
    rw [acceptsRepeated_iff]
    constructor
    · rintro ⟨before, after, rfl, hbefore, hafter⟩
      obtain rfl := List.isEmpty_iff.mp hafter
      simpa [PatternSymbol.admits] using hbefore
    · intro hpart
      exact ⟨part, [], (List.append_nil part).symm, by simpa [PatternSymbol.admits] using hpart, rfl⟩
  change acceptsRepeated _ (acceptsSteps true (exactSteps text.toList ++ _)) property.toList = true ↔
    _
  simp only [acceptsRepeated_iff, acceptsSteps_exactly, hany]
  constructor
  · rintro ⟨before, rest, hproperty, hbefore, found, after, rfl, hfound, hafter⟩
    refine ⟨before, after, ⟨found, by rw [hproperty, List.append_assoc], hfound⟩, ?_⟩
    rw [List.forall_mem_append]
    exact ⟨by simpa [PatternSymbol.admits] using hbefore, hafter⟩
  · rintro ⟨before, after, ⟨found, hproperty, hfound⟩, hends⟩
    obtain ⟨hbefore, hafter⟩ := List.forall_mem_append.mp hends
    refine ⟨before, found ++ after, by rw [hproperty, List.append_assoc], ?_, found, after, rfl,
      hfound, hafter⟩
    simpa [PatternSymbol.admits] using hbefore

theorem exists_standsBetween_iff (text property : String) :
    (∃ before after, StandsBetween before after text property) ↔
      text.toList.map Char.toLower <:+: property.toList.map Char.toLower := by
  constructor
  · rintro ⟨before, after, found, hproperty, hfound⟩
    refine ⟨before.map Char.toLower, after.map Char.toLower, ?_⟩
    rw [hproperty, List.map_append, List.map_append, hfound]
  · rintro ⟨before, after, hproperty⟩
    obtain ⟨rest, after', hrest, hfront, -⟩ := List.map_eq_append_iff.mp hproperty.symm
    obtain ⟨before', found, rfl, -, hfound⟩ := List.map_eq_append_iff.mp hfront
    exact ⟨before', after', found, hrest, hfound⟩

end Pattern

/-! ### Searches -/

theorem Query.exists_tryAdd_fulltext {q : Query} (hnumbered : Numbered q.bindings) {r : Registry}
    (hserved : r .fulltext = some .keyword) (a : Attributes) (name text : String) (isFirst : Bool) :
    ∃ q' parameter,
      q.tryAdd r (.leaf { a with name := some name } (.fulltext (.string text))) isFirst =
        (true, q') ∧
      q'.fragments = q.fragments ++ a.occurrence.keywords q.combinator isFirst ++
        [.clause (.simple name "=~" (some parameter) false true)] ∧
      q'.parameters.get? parameter =
        some (.string ("(?i).*" ++ Draft.escapedPattern text ++ ".*")) := by
  have hjoined : Numbered (q.join a.occurrence isFirst).bindings := by
    rw [join_eq_writeAll]
    exact numbered_writeAll hnumbered _
  let p : Predicate := .leaf { a with name := some name } (.fulltext (.string text))
  have hkind : r p.kind = some .keyword := hserved
  have hitem : r.item? q.kind p = some (.clause a.occurrence (.containsText name text)) := by
    rw [Registry.item?, hkind]
    rfl
  refine ⟨(q.join a.occurrence isFirst).appendDraft (.containsText name text),
    (q.join a.occurrence isFirst).freshName name, ?_, ?_, ?_⟩
  · change q.tryAdd r p isFirst = _
    rw [tryAdd_eq, hitem]
    rfl
  · change (q.join a.occurrence isFirst).fragments ++ _ = _
    rw [join_eq_extend]
    rfl
  · exact parameters_get?_freshName hjoined name (.string _)

/-- A search for a text asks the operator for a pattern that finds the text in a property, in any
case, where no line ends before or behind it. In a property on one line it so finds the text just if
the property contains it. -/
theorem text_search_within_line {operator : String → String → Bool}
    (hrules : Pattern.Rules operator) (kind : EntityKind) (pageSize : UInt64)
    (calls : List QueryCall) {r : Registry} (hserved : r .fulltext = some .keyword)
    (a : Attributes) (name text : String) (isFirst : Bool) :
    let q := (Query.new kind pageSize).run calls
    let p := Predicate.leaf { a with name := some name } (.fulltext (.string text))
    ∃ q' parameter pattern,
      q.tryAdd r p isFirst = (true, q') ∧
      q'.fragments = q.fragments ++ a.occurrence.keywords q.combinator isFirst ++
        [.clause (.simple name "=~" (some parameter) false true)] ∧
      q'.parameters.get? parameter = some (.string pattern) ∧
      (∀ property, operator property pattern = true ↔
        ∃ before after, Pattern.StandsBetween before after text property ∧
          ∀ c ∈ before ++ after, c ∉ Pattern.lineEnds) ∧
      ∀ property : String, (∀ c ∈ property.toList, c ∉ Pattern.lineEnds) →
        (operator property pattern = true ↔
          text.toList.map Char.toLower <:+: property.toList.map Char.toLower) := by
  intro q p
  have hnumbered : Numbered q.bindings := Query.numbered_run Numbered.nil calls
  obtain ⟨q', parameter, hadd, hfragments, hvalue⟩ :=
    Query.exists_tryAdd_fulltext hnumbered hserved a name text isFirst
  have hfinds (property : String) := hrules _ _ (Pattern.read?_containsText text) property
  refine ⟨q', parameter, _, hadd, hfragments, hvalue, ?_, ?_⟩
  · intro property
    rw [hfinds, Pattern.accepts_ofText_iff]
  · intro property hline
    rw [hfinds, Pattern.accepts_ofText_iff, ← Pattern.exists_standsBetween_iff]
    constructor
    · rintro ⟨before, after, hstands, -⟩
      exact ⟨before, after, hstands⟩
    · rintro ⟨before, after, found, hproperty, hfound⟩
      refine ⟨before, after, ⟨found, hproperty, hfound⟩, ?_⟩
      intro c hc
      apply hline c
      rw [hproperty, List.append_assoc]
      rcases List.mem_append.mp hc with hbefore | hafter
      · exact List.mem_append_left _ hbefore
      · exact List.mem_append_right _ (List.mem_append_right _ hafter)

theorem text_search_within_line_draft :
    (∀ c ∈ "an A.B (draft)".toList, c ∉ Pattern.lineEnds) ∧
      ∃ q parameter pattern,
        (Query.new .node 10).tryAdd .standard
          (.leaf { name := some "title" } (.fulltext (.string "a.b ("))) true = (true, q) ∧
        q.parameters.get? parameter = some (.string pattern) ∧
        Pattern.operator "an A.B (draft)" pattern = true := by
  have hline : ∀ c ∈ "an A.B (draft)".toList, c ∉ Pattern.lineEnds := by
    simp [Pattern.lineEnds]
  obtain ⟨q, parameter, pattern, hadd, -, hvalue, -, hfinds⟩ :=
    text_search_within_line Pattern.rules_operator .node 10 [] (r := .standard) rfl {} "title"
      "a.b (" true
  have hcontains : "a.b (".toList.map Char.toLower <:+: "an A.B (draft)".toList.map Char.toLower :=
    ⟨"an ".toList, "draft)".toList, rfl⟩
  exact ⟨hline, q, parameter, pattern, hadd, hvalue, (hfinds _ hline).mpr hcontains⟩

/-- A property with a second line holds a text there, which a search for that text does not find. -/
theorem text_search_misses_second_line :
    let q := ((Query.new .node 10).tryAdd .standard
      (.leaf { name := some "title" } (.fulltext (.string "b"))) true).2
    q.parameters.get? "title_param" = some (.string "(?i).*b.*") ∧
      "b".toList.map Char.toLower <:+: "a\nb".toList.map Char.toLower ∧
      ∀ operator, Pattern.Rules operator → operator "a\nb" "(?i).*b.*" = false := by
  intro q
  refine ⟨rfl, ⟨['a', '\n'], [], rfl⟩, ?_⟩
  intro operator hrules
  exact hrules _ _ (Pattern.read?_containsText "b") _

end GraphSearch

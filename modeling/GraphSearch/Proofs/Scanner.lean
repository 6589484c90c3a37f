import GraphSearch.Proofs.ParameterNames
import GraphSearch.Proofs.Quoting

/-!
Scanning a statement for quoted identifiers.

The scanner reads a text from left to right and tells what stands inside of backticks from what stands
outside. A text that is put together of fixed texts, quoted names, parameter names and numbers scans
as just these pieces, whatever the names are.
-/

namespace GraphSearch

/-- A character outside of quotes, or an identifier that has been read inside of them. -/
inductive Token where
  | char (c : Char)
  | identifier (name : List Char)

mutual

/-- Scans a text outside of quotes. There is no result if the text ends inside of quotes. -/
def scan : List Char → Option (List Token)
  | [] => some []
  | '\x60' :: rest => scanQuoted [] rest
  | c :: rest => (scan rest).map (.char c :: ·)

/-- Scans a text inside of quotes, behind the beginning of an identifier. A doubled backtick stands
for one, and a single one closes. -/
def scanQuoted (name : List Char) : List Char → Option (List Token)
  | [] => none
  | '\x60' :: '\x60' :: rest => scanQuoted (name ++ ['\x60']) rest
  | '\x60' :: rest => (scan rest).map (.identifier name :: ·)
  | c :: rest => scanQuoted (name ++ [c]) rest

end

def Token.identifier? : Token → Option String
  | char _ => none
  | identifier name => some (String.ofList name)

theorem scan_cons_of_ne {c : Char} (h : c ≠ '\x60') (rest : List Char) :
    scan (c :: rest) = (scan rest).map (.char c :: ·) := by
  rw [scan]
  exact h

theorem scan_append_of_not_mem {cs : List Char} (h : '\x60' ∉ cs) (rest : List Char) :
    scan (cs ++ rest) = (scan rest).map (cs.map Token.char ++ ·) := by
  induction cs with
  | nil => simp
  | cons c cs ih =>
      rw [List.mem_cons, not_or] at h
      rw [List.cons_append, scan_cons_of_ne (Ne.symm h.1), ih h.2, Option.map_map]
      rfl

theorem scanQuoted_quotedChars (name cs : List Char) {rest : List Char}
    (h : rest.head? ≠ some '\x60') :
    scanQuoted name (Identifier.quotedChars cs ++ '\x60' :: rest) =
      (scan rest).map (.identifier (name ++ cs) :: ·) := by
  induction cs generalizing name with
  | nil =>
      rw [Identifier.quotedChars, List.nil_append, List.append_nil]
      cases rest with
      | nil => rfl
      | cons c rest =>
          have hc : c ≠ '\x60' := fun hc => h (by rw [hc]; rfl)
          rw [scanQuoted]
          intro rest' heq
          exact hc (List.cons.inj heq).1
  | cons c cs ih =>
      have hname : name ++ c :: cs = name ++ [c] ++ cs := by simp
      by_cases hc : c = '\x60'
      · subst hc
        rw [Identifier.quotedChars_backtick, List.cons_append, List.cons_append, scanQuoted,
          ih, hname]
      · rw [Identifier.quotedChars_cons_of_ne hc, List.cons_append, scanQuoted, ih, hname]
        · intro rest' heq
          exact absurd heq hc
        · exact hc

/-- A quoted name is read as it is. -/
theorem scan_quoted_append (name : String) {rest : List Char} (h : rest.head? ≠ some '\x60') :
    scan ((Identifier.quoted name).toList ++ rest) =
      (scan rest).map (.identifier name.toList :: ·) := by
  have hquoted : (Identifier.quoted name).toList ++ rest =
      '\x60' :: (Identifier.quotedChars name.toList ++ '\x60' :: rest) := by
    simp [Identifier.quoted]
  rw [hquoted, scan, scanQuoted_quotedChars [] _ h]
  rfl

example : (scan "(n.\x60a\x60\x60b\x60)".toList).map (List.filterMap Token.identifier?) =
    some ["a\x60b"] := rfl

/-! ### Pieces of a statement -/

/-- The texts of statements that are the same whatever is searched. -/
def fixedTexts : List String :=
  ["MATCH (", "MATCH (s", "n", ":", ")", ")-[", "]->(t", " WHERE ",
    " AND ", " OR ", "NOT ", "(",
    "n.", "toLower(", " ", "NULL", "=", "<>", ">", ">=", "<", "<=",
    "STARTS WITH", "ENDS WITH", "CONTAINS", "IS", "IS NOT", "=~",
    "ALL(x IN ", " WHERE x IN ", " IN ",
    "point.distance(point(\x7blatitude: ", ", longitude: ", "\x7d), point(\x7blatitude: ",
    "\x7d)) <= ",
    "EXISTS \x7b ", "[:", "]", "-", "<-", "->(m)", "-(m)", " WHERE m.", " = ", " \x7d",
    " RETURN COUNT(", ") AS count", " RETURN DISTINCT ", " ORDER BY ", "toFloat(", " DESC",
    " SKIP ", " LIMIT "]

theorem not_mem_of_mem_fixedTexts : ∀ text ∈ fixedTexts, '\x60' ∉ text.toList := by decide

theorem ne_empty_of_mem_fixedTexts : ∀ text ∈ fixedTexts, text ≠ "" := by decide

inductive Piece where
  | fixed (text : String)
  | quoted (name : String)
  | parameter (name : String)
  | number (n : Nat)

namespace Piece

def Allowed : Piece → Prop
  | fixed text => text ∈ fixedTexts
  | parameter name => Identifier.IsName name
  | quoted _ | number _ => True

/-- What the scanner makes of a piece. -/
def tokens : Piece → List Token
  | fixed text => text.toList.map .char
  | quoted name => [.identifier name.toList]
  | parameter name => ('$' :: name.toList).map .char
  | number n => (digits n).map .char

def name? : Piece → Option String
  | quoted name => some name
  | _ => none

def parameter? : Piece → Option String
  | parameter name => some name
  | _ => none

def number? : Piece → Option Nat
  | number n => some n
  | _ => none

end Piece

theorem filterMap_identifier?_char (cs : List Char) :
    (cs.map Token.char).filterMap Token.identifier? = [] := by
  rw [List.filterMap_map]
  exact List.filterMap_eq_nil_iff.mpr fun _ _ => rfl

/-- The quoted pieces are all that is read inside of quotes. -/
theorem filterMap_identifier?_tokens (pieces : List Piece) :
    (pieces.flatMap Piece.tokens).filterMap Token.identifier? = pieces.filterMap Piece.name? := by
  induction pieces with
  | nil => rfl
  | cons piece pieces ih =>
      rw [List.flatMap_cons, List.filterMap_append, ih]
      cases piece with
      | quoted name =>
          change String.ofList name.toList :: _ = _
          rw [String.ofList_toList]
          rfl
      | fixed text => rw [Piece.tokens, filterMap_identifier?_char]; rfl
      | parameter name => rw [Piece.tokens, filterMap_identifier?_char]; rfl
      | number n => rw [Piece.tokens, filterMap_identifier?_char]; rfl

/-- The scan of the text ends outside of quotes and reads these names inside of them. Outside are
only fixed texts, these parameters and these numbers. -/
def ReadsAs (s : String) (names parameters : List String) (numbers : List Nat) : Prop :=
  ∃ (tokens : List Token) (pieces : List Piece), scan s.toList = some tokens ∧
    tokens.filterMap Token.identifier? = names ∧ tokens = pieces.flatMap Piece.tokens ∧
    (∀ piece ∈ pieces, piece.Allowed) ∧ pieces.filterMap Piece.parameter? = parameters ∧
    pieces.filterMap Piece.number? = numbers

/-- The text is put together of allowed pieces and scans as these, whatever comes after it but a
backtick. The names, parameters and numbers are those of the pieces in their order. -/
def Spells (s : String) (names parameters : List String) (numbers : List Nat) : Prop :=
  ∃ pieces : List Piece, (∀ piece ∈ pieces, piece.Allowed) ∧
    pieces.filterMap Piece.name? = names ∧ pieces.filterMap Piece.parameter? = parameters ∧
    pieces.filterMap Piece.number? = numbers ∧ s.toList.head? ≠ some '\x60' ∧
    ∀ rest : List Char, rest.head? ≠ some '\x60' →
      scan (s.toList ++ rest) = (scan rest).map (pieces.flatMap Piece.tokens ++ ·)

theorem head?_append_ne {c : Char} {xs ys : List Char} (hxs : xs.head? ≠ some c)
    (hys : ys.head? ≠ some c) : (xs ++ ys).head? ≠ some c := by
  cases xs with
  | nil => exact hys
  | cons x xs => exact hxs

namespace Spells

variable {s s' text : String} {names names' parameters parameters' : List String}
  {numbers numbers' : List Nat}

theorem empty : Spells "" [] [] [] := by
  refine ⟨[], by simp, rfl, rfl, rfl, by simp, ?_⟩
  intro rest _
  cases h : scan rest <;> simp [h]

theorem append (h : Spells s names parameters numbers)
    (h' : Spells s' names' parameters' numbers') :
    Spells (s ++ s') (names ++ names') (parameters ++ parameters') (numbers ++ numbers') := by
  obtain ⟨ps, hps, rfl, rfl, rfl, hhead, hscan⟩ := h
  obtain ⟨qs, hqs, rfl, rfl, rfl, hhead', hscan'⟩ := h'
  refine ⟨ps ++ qs, ?_, List.filterMap_append, List.filterMap_append, List.filterMap_append,
    ?_, ?_⟩
  · intro piece hpiece
    rcases List.mem_append.mp hpiece with hpiece | hpiece
    · exact hps piece hpiece
    · exact hqs piece hpiece
  · rw [String.toList_append]
    exact head?_append_ne hhead hhead'
  · intro rest hrest
    rw [String.toList_append, List.append_assoc, hscan _ (head?_append_ne hhead' hrest),
      hscan' rest hrest, Option.map_map, List.flatMap_append]
    simp [Function.comp_def]

/-- A piece outside of quotes. -/
theorem of_not_mem (piece : Piece) (hallowed : piece.Allowed)
    (htokens : piece.tokens = s.toList.map Token.char) (hplain : '\x60' ∉ s.toList) :
    Spells s piece.name?.toList piece.parameter?.toList piece.number?.toList := by
  refine ⟨[piece], ?_, ?_, ?_, ?_, ?_, ?_⟩
  · intro _ hpiece
    rwa [List.mem_singleton.mp hpiece]
  · cases piece <;> rfl
  · cases piece <;> rfl
  · cases piece <;> rfl
  · exact fun hhead => hplain (List.mem_of_mem_head? hhead)
  · intro rest _
    rw [List.flatMap_singleton, htokens, scan_append_of_not_mem hplain]

theorem fixed (h : text ∈ fixedTexts) : Spells text [] [] [] :=
  of_not_mem (.fixed text) h rfl (not_mem_of_mem_fixedTexts text h)

theorem parameter {name : String} (h : Identifier.IsName name) :
    Spells ("$" ++ name) [] [name] [] := by
  have hchars : ("$" ++ name).toList = '$' :: name.toList := by simp [String.toList_append]
  apply of_not_mem (.parameter name) h
  · rw [hchars, Piece.tokens]
  · rw [hchars, List.mem_cons, not_or]
    exact ⟨by decide, h.not_mem (by decide)⟩

theorem number (n : Nat) : Spells (toString n) [] [] [n] := by
  apply of_not_mem (.number n) trivial
  · rw [toString_toList, Piece.tokens]
  · rw [toString_toList]
    exact not_mem_digits (by decide) n

/-- The text in front of the quotes keeps them apart from what comes before. -/
theorem quoted (h : text ∈ fixedTexts) (name : String) :
    Spells (text ++ Identifier.quoted name) [name] [] [] := by
  have hplain := not_mem_of_mem_fixedTexts text h
  refine ⟨[.fixed text, .quoted name], ?_, rfl, rfl, rfl, ?_, ?_⟩
  · intro piece hpiece
    simp only [List.mem_cons, List.not_mem_nil, or_false] at hpiece
    rcases hpiece with rfl | rfl
    · exact h
    · trivial
  · intro hhead
    rw [String.toList_append] at hhead
    cases hchars : text.toList with
    | nil => exact ne_empty_of_mem_fixedTexts text h (String.toList_eq_nil_iff.mp hchars)
    | cons c cs =>
        rw [hchars, List.cons_append, List.head?_cons, Option.some_inj] at hhead
        rw [hchars, hhead] at hplain
        exact hplain List.mem_cons_self
  · intro rest hrest
    rw [String.toList_append, List.append_assoc, scan_append_of_not_mem hplain,
      scan_quoted_append name hrest, Option.map_map]
    simp [Function.comp_def, Piece.tokens]

theorem fixed_append (h : text ∈ fixedTexts) (hs : Spells s names parameters numbers) :
    Spells (text ++ s) names parameters numbers :=
  (fixed h).append hs

theorem append_silent (hs : Spells s names parameters numbers) (hs' : Spells s' [] [] []) :
    Spells (s ++ s') names parameters numbers := by
  simpa using hs.append hs'

theorem append_fixed (hs : Spells s names parameters numbers) (h : text ∈ fixedTexts) :
    Spells (s ++ text) names parameters numbers :=
  hs.append_silent (fixed h)

theorem append_quoted (hs : Spells s names parameters numbers) (h : text ∈ fixedTexts)
    (name : String) :
    Spells (s ++ text ++ Identifier.quoted name) (names ++ [name]) parameters numbers := by
  rw [String.append_assoc]
  simpa using hs.append (quoted h name)

theorem property (key : String) : Spells (Identifier.property key) [key] [] [] :=
  quoted (by decide) key

theorem readsAs (h : Spells s names parameters numbers) : ReadsAs s names parameters numbers := by
  obtain ⟨pieces, hpieces, hnames, hparameters, hnumbers, -, hscan⟩ := h
  refine ⟨pieces.flatMap Piece.tokens, pieces, ?_, ?_, rfl, hpieces, hparameters, hnumbers⟩
  · have hwhole := hscan [] (by simp)
    rw [List.append_nil] at hwhole
    rw [hwhole]
    simp [scan]
  · rw [filterMap_identifier?_tokens, hnames]

end Spells

end GraphSearch

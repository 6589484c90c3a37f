/-!
Colored text for terminals.

A terminal changes its style at a control sequence and forgets all styles at a reset. Text that
holds resets of its own keeps its style, since the style is set again behind each of them.
-/

namespace GraphSearch

inductive Style where
  | bold
  | dimmed
  | green
  | yellow
  | magenta
  | cyan
deriving DecidableEq, Repr

namespace Style

/-- The number by which terminals know a style. -/
def code : Style → String
  | bold => "1"
  | dimmed => "2"
  | green => "32"
  | yellow => "33"
  | magenta => "35"
  | cyan => "36"

def start (styles : List Style) : List Char :=
  '\x1b' :: '[' :: (";".intercalate (styles.map code)).toList ++ ['m']

def reset : List Char :=
  ['\x1b', '[', '0', 'm']

/-- The text with a sequence behind each of its resets. -/
def afterResets (sequence : List Char) : List Char → List Char
  | '\x1b' :: '[' :: '0' :: 'm' :: rest => reset ++ sequence ++ afterResets sequence rest
  | c :: rest => c :: afterResets sequence rest
  | [] => []

/-- Text without control sequences stays as it is. -/
theorem afterResets_eq_self (sequence : List Char) {text : List Char} (h : '\x1b' ∉ text) :
    afterResets sequence text = text := by
  fun_induction afterResets sequence text with
  | case1 rest ih => simp at h
  | case2 c rest _ ih => simp [ih (List.not_mem_of_not_mem_cons h)]
  | case3 => rfl

end Style

/-- A text in some styles, or as it is where there are no colors. -/
def painted (colored : Bool) (styles : List Style) (text : String) : String :=
  if colored then
    String.ofList (Style.start styles ++ Style.afterResets (Style.start styles) text.toList ++
      Style.reset)
  else text

end GraphSearch

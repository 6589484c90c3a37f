import GraphSearch.Toml.Basic

/-!
Reading the parts of a TOML text: blanks, keys and values.

A reader takes what it needs from the front of the text, or fails; why it fails does not matter.
-/

namespace GraphSearch

namespace Toml

/-- Takes a part from the front of a text. -/
abbrev Reader := StateT (List Char) Option

/-- Arrays and inline tables that may be open at the same time, and parts that a key may have. -/
def maximalDepth : Nat := 79

namespace Reader

/-- The next character, which is left in the text. -/
def upcoming : Reader (Option Char) := do
  return (← get).head?

def advance : Reader Unit :=
  modify (·.drop 1)

def mark (c : Char) : Reader Unit := do
  if (← get).head? = some c then advance else failure

/-- The characters from the front that satisfy a test. -/
def takeWhile (test : Char → Bool) : Reader (List Char) := do
  let text ← get
  set (text.dropWhile test)
  return text.takeWhile test

/-! ### Blanks -/

def isBlank (c : Char) : Bool :=
  c == ' ' || c == '\t'

/-- Whether a character may stand in a comment or in a literal string. -/
def isText (c : Char) : Bool :=
  c == '\t' || (32 ≤ c.toNat && c.toNat ≠ 127)

def blanks : Reader Unit := do
  let _ ← takeWhile isBlank

/-- A comment up to the end of its line, if there is one. -/
def comment : Reader Unit := do
  if (← upcoming) = some '#' then
    let _ ← takeWhile isText

def lineEnd : Reader Unit := do
  match ← get with
  | '\n' :: rest => set rest
  | '\r' :: '\n' :: rest => set rest
  | _ => failure

/-- Blanks, comments and line ends, at most `fuel` of them. -/
def filler : (fuel : Nat) → Reader Unit
  | 0 => pure ()
  | fuel + 1 => do
    blanks
    comment
    match ← get with
    | '\n' :: rest =>
      set rest
      filler fuel
    | '\r' :: '\n' :: rest =>
      set rest
      filler fuel
    | _ => pure ()

/-- Blanks, comments and line ends between the items of an array. -/
def betweenItems : Reader Unit := do
  filler ((← get).length + 1)

/-- What may follow a value or a header on its line. -/
def restOfLine : Reader Unit := do
  blanks
  comment
  if !(← get).isEmpty then lineEnd

/-! ### Strings -/

def hexValue? (c : Char) : Option Nat :=
  if '0' ≤ c ∧ c ≤ '9' then some (c.toNat - 48)
  else if 'a' ≤ c ∧ c ≤ 'f' then some (c.toNat - 87)
  else if 'A' ≤ c ∧ c ≤ 'F' then some (c.toNat - 55)
  else none

/-- The number that hexadecimal digits write. -/
def hexNumber? (digits : List Char) : Option Nat :=
  digits.foldlM (fun n c => (hexValue? c).map (n * 16 + ·)) 0

/-- The character with a code point, if there is one. -/
def charOf? (n : Nat) : Option Char :=
  if n < 0xD800 ∨ (0xDFFF < n ∧ n < 0x110000) then some (Char.ofNat n) else none

/-- The character that stands for itself behind a backslash, or for a control character. -/
def plainEscape? : Char → Option Char
  | '"' => some '"'
  | '\\' => some '\\'
  | 'b' => some '\x08'
  | 'f' => some '\x0c'
  | 'n' => some '\n'
  | 'r' => some '\r'
  | 't' => some '\t'
  | _ => none

def escape : Reader Char := do
  match ← get with
  | 'u' :: rest =>
    set (rest.drop 4)
    if rest.length < 4 then failure
    StateT.lift ((hexNumber? (rest.take 4)).bind charOf?)
  | 'U' :: rest =>
    set (rest.drop 8)
    if rest.length < 8 then failure
    StateT.lift ((hexNumber? (rest.take 8)).bind charOf?)
  | c :: rest =>
    set rest
    StateT.lift (plainEscape? c)
  | [] => failure

/-- A basic string behind its opening quote. -/
def basicBody : (fuel : Nat) → Reader (List Char)
  | 0 => failure
  | fuel + 1 => do
    match ← get with
    | '"' :: rest =>
      set rest
      return []
    | '\\' :: rest =>
      set rest
      let c ← escape
      return c :: (← basicBody fuel)
    | c :: rest =>
      if isText c then
        set rest
        return c :: (← basicBody fuel)
      else failure
    | [] => failure

/-- A literal string behind its opening quote. -/
def literalBody : Reader (List Char) := do
  let chars ← takeWhile fun c => isText c && c != '\''
  mark '\''
  return chars

/-- The quotes at the end of a string over several lines: three that close it, behind at most two
that belong to it. -/
def closingQuotes? (quote : Char) (text : List Char) : Option (List Char × List Char) :=
  let quotes := text.takeWhile (· == quote)
  if 3 ≤ quotes.length then
    let inside := min 2 (quotes.length - 3)
    some (List.replicate inside quote, text.drop (inside + 3))
  else none

def dropLineBlanks : List Char → List Char
  | ' ' :: rest | '\t' :: rest | '\n' :: rest | '\r' :: '\n' :: rest => dropLineBlanks rest
  | text => text

/-- A basic string over several lines behind its opening quotes. A backslash at the end of a line
passes over the blanks up to the next text. -/
def longBasicBody : (fuel : Nat) → Reader (List Char)
  | 0 => failure
  | fuel + 1 => do
    let text ← get
    match closingQuotes? '"' text with
    | some (inside, rest) =>
      set rest
      return inside
    | none =>
      match text with
      | '\\' :: rest =>
        set rest
        let afterBlanks := rest.dropWhile isBlank
        match afterBlanks with
        | '\n' :: _ | '\r' :: '\n' :: _ =>
          set (dropLineBlanks afterBlanks)
          longBasicBody fuel
        | _ =>
          let c ← escape
          return c :: (← longBasicBody fuel)
      | '\r' :: '\n' :: rest =>
        set rest
        return '\n' :: (← longBasicBody fuel)
      | c :: rest =>
        if isText c || c == '\n' then
          set rest
          return c :: (← longBasicBody fuel)
        else failure
      | [] => failure

/-- A literal string over several lines behind its opening quotes. -/
def longLiteralBody : (fuel : Nat) → Reader (List Char)
  | 0 => failure
  | fuel + 1 => do
    let text ← get
    match closingQuotes? '\'' text with
    | some (inside, rest) =>
      set rest
      return inside
    | none =>
      match text with
      | '\r' :: '\n' :: rest =>
        set rest
        return '\n' :: (← longLiteralBody fuel)
      | c :: rest =>
        if isText c || c == '\n' then
          set rest
          return c :: (← longLiteralBody fuel)
        else failure
      | [] => failure

/-- Passes over a line end right behind opening quotes. -/
def openingLineEnd : Reader Unit := do
  match ← get with
  | '\n' :: rest => set rest
  | '\r' :: '\n' :: rest => set rest
  | _ => pure ()

def stringValue : Reader String := do
  let text ← get
  match text with
  | '"' :: '"' :: '"' :: rest =>
    set rest
    openingLineEnd
    return String.ofList (← longBasicBody (rest.length + 1))
  | '\'' :: '\'' :: '\'' :: rest =>
    set rest
    openingLineEnd
    return String.ofList (← longLiteralBody (rest.length + 1))
  | '"' :: rest =>
    set rest
    return String.ofList (← basicBody (rest.length + 1))
  | '\'' :: rest =>
    set rest
    return String.ofList (← literalBody)
  | _ => failure

/-! ### Keys -/

/-- Whether a character may stand in a key without quotes. -/
def isKeyChar (c : Char) : Bool :=
  c.isAlphanum || c == '_' || c == '-'

def keyPart : Reader String := do
  match ← get with
  | '"' :: rest =>
    set rest
    return String.ofList (← basicBody (rest.length + 1))
  | '\'' :: rest =>
    set rest
    return String.ofList (← literalBody)
  | _ =>
    let chars ← takeWhile isKeyChar
    if chars.isEmpty then failure
    return String.ofList chars

/-- The parts of a key behind its first one. -/
def keyRest : (fuel : Nat) → Reader (List String)
  | 0 => failure
  | fuel + 1 => do
    blanks
    if (← upcoming) = some '.' then
      advance
      blanks
      let part ← keyPart
      return part :: (← keyRest fuel)
    else return []

/-- A key: one or more parts with points between them, and the blanks around it. -/
def key : Reader (List String) := do
  blanks
  let part ← keyPart
  let path := part :: (← keyRest ((← get).length + 1))
  if maximalDepth < path.length then failure
  return path

/-! ### Numbers and moments -/

/-- The digits of a number whose underscores each stand between two digits. -/
def plainDigits? (isDigit : Char → Bool) (text : List Char) : Option (List Char) :=
  let digits := text.filter isDigit
  let fits (before after : Option Char) : Bool :=
    (before.map isDigit).getD false && (after.map isDigit).getD false
  let rec check (before : Option Char) : List Char → Bool
    | [] => true
    | '_' :: rest => fits before rest.head? && check (some '_') rest
    | c :: rest => isDigit c && check (some c) rest
  if digits.isEmpty || !check none text then none else some digits

def valueIn (base : Nat) (digits : List Char) : Nat :=
  digits.foldl (fun n c => n * base + (hexValue? c).getD 0) 0

/-- An integer of sixty-four bits, with its sign. -/
def boundedInteger? (n : Int) : Option Toml :=
  if Int64.minValue.toInt ≤ n ∧ n ≤ Int64.maxValue.toInt then some (.integer n) else none

def based? (base : Nat) (text : List Char) : Option Toml := do
  let isDigit (c : Char) : Bool := (hexValue? c).any fun d => decide (d < base)
  let digits ← plainDigits? isDigit text
  boundedInteger? (valueIn base digits)

/-- The digits of a whole number, which do not begin with a zero unless it is zero. -/
def wholeDigits? (text : List Char) : Option (List Char) := do
  let digits ← plainDigits? Char.isDigit text
  if digits.head? = some '0' ∧ 1 < text.length then none else some digits

/-- Whether a text is an exponent without its letter. -/
def isExponent (text : List Char) : Bool :=
  let digits := match text with
    | '+' :: rest | '-' :: rest => rest
    | text => text
  (plainDigits? Char.isDigit digits).isSome

/-- Whether a text without sign is a number with a fraction or an exponent. -/
def isFloat (text : List Char) : Bool :=
  let isLetter (c : Char) : Bool := c == 'e' || c == 'E'
  let mantissa := text.takeWhile fun c => !isLetter c
  let exponent := text.dropWhile fun c => !isLetter c
  let whole := mantissa.takeWhile (· != '.')
  let fraction := mantissa.dropWhile (· != '.')
  let fractionFits := match fraction with
    | [] => !exponent.isEmpty
    | _ :: digits => (plainDigits? Char.isDigit digits).isSome
  let exponentFits := match exponent with
    | [] => true
    | _ :: rest => isExponent rest
  (wholeDigits? whole).isSome && fractionFits && exponentFits

/-- Whether a number with a fraction or an exponent stays below the least power of two that is too
large for floating point, or rounds down from it. The decimal place of its first digit settles most
cases. -/
def isInRange (text : List Char) : Bool :=
  let isLetter (c : Char) : Bool := c == 'e' || c == 'E'
  let mantissa := (text.takeWhile fun c => !isLetter c).filter (· != '_')
  let written := (text.dropWhile fun c => !isLetter c).filter (· != '_')
  let exponent : Int := match written with
    | _ :: '-' :: digits => -(valueIn 10 digits : Int)
    | _ :: '+' :: digits | _ :: digits => valueIn 10 digits
    | [] => 0
  let whole := mantissa.takeWhile (· != '.')
  let fraction := (mantissa.dropWhile (· != '.')).drop 1
  let significand := valueIn 10 (whole ++ fraction)
  let power := exponent - fraction.length
  let place := power + (Nat.toDigits 10 significand).length
  significand = 0 || place < 309 ||
    (place = 309 &&
      let scaled : Nat × Nat := if 0 ≤ power then (significand * Nat.pow 10 power.toNat, 1)
        else (significand, Nat.pow 10 (-power).toNat)
      scaled.1 < (Nat.pow 2 1024 - Nat.pow 2 970) * scaled.2)

/-- A number in base ten. What is too large for floating point is refused unless it has a minus
sign. -/
def decimal? (text : List Char) : Option Toml :=
  let (negative, unsigned) := match text with
    | '-' :: rest => (true, rest)
    | '+' :: rest => (false, rest)
    | text => (false, text)
  match wholeDigits? unsigned with
  | some digits =>
    let n := valueIn 10 digits
    boundedInteger? (if negative then -(n : Int) else n)
  | none =>
    if unsigned = ['i', 'n', 'f'] || unsigned = ['n', 'a', 'n'] ||
        (isFloat unsigned && (negative || isInRange unsigned)) then
      some (.float (String.ofList text))
    else none

/-- The number that exactly two digits write, if it is within bounds. -/
def pair? (low high : Nat) : List Char → Option Unit
  | [a, b] =>
    if a.isDigit && b.isDigit && low ≤ valueIn 10 [a, b] && valueIn 10 [a, b] ≤ high then some ()
    else none
  | _ => none

def daysIn (year month : Nat) : Nat :=
  match month with
  | 4 | 6 | 9 | 11 => 30
  | 2 => if year % 4 = 0 ∧ (year % 100 ≠ 0 ∨ year % 400 = 0) then 29 else 28
  | _ => 31

def isDate (text : List Char) : Bool :=
  match text with
  | [y1, y2, y3, y4, '-', m1, m2, '-', d1, d2] =>
    [y1, y2, y3, y4].all Char.isDigit && (pair? 1 12 [m1, m2]).isSome &&
      (pair? 1 (daysIn (valueIn 10 [y1, y2, y3, y4]) (valueIn 10 [m1, m2])) [d1, d2]).isSome
  | _ => false

/-- A time of day of eight characters, and a fraction of a second. -/
def isTime (text : List Char) : Bool :=
  match text with
  | h1 :: h2 :: ':' :: m1 :: m2 :: ':' :: s1 :: s2 :: rest =>
    (pair? 0 23 [h1, h2]).isSome && (pair? 0 59 [m1, m2]).isSome &&
      (pair? 0 60 [s1, s2]).isSome &&
      match rest with
      | [] => true
      | '.' :: digits => !digits.isEmpty && digits.all Char.isDigit
      | _ => false
  | _ => false

/-- A time of day with an offset from universal time, if it has one. -/
def isTimeWithOffset (text : List Char) : Bool :=
  let time := text.takeWhile fun c => c.isDigit || c == ':' || c == '.'
  isTime time &&
    match text.drop time.length with
    | [] | ['Z'] | ['z'] => true
    | [sign, h1, h2, ':', m1, m2] =>
      (sign == '+' || sign == '-') && (pair? 0 23 [h1, h2]).isSome && (pair? 0 59 [m1, m2]).isSome
    | _ => false

/-- Whether a text is a date, a time of day, or both with a separator between them. -/
def isMoment (text : List Char) : Bool :=
  isDate text || isTime text ||
    (isDate (text.take 10) &&
      match text.drop 10 with
      | 'T' :: time | 't' :: time | ' ' :: time => isTimeWithOffset time
      | _ => false)

/-- Whether a character may stand in a number or a moment. -/
def isScalarChar (c : Char) : Bool :=
  c.isAlphanum || c == '_' || c == '-' || c == '+' || c == '.' || c == ':'

/-- A number, a moment or a truth value. A date may be followed by a time behind one blank. -/
def scalar : Reader Toml := do
  let first ← takeWhile isScalarChar
  let lexeme ← match ← get with
    | ' ' :: c :: rest =>
      if isDate first && c.isDigit then
        advance
        let second ← takeWhile isScalarChar
        if isTimeWithOffset second then pure (first ++ ' ' :: second)
        else
          set (' ' :: c :: rest)
          pure first
      else pure first
    | _ => pure first
  match lexeme with
  | ['t', 'r', 'u', 'e'] => return .boolean true
  | ['f', 'a', 'l', 's', 'e'] => return .boolean false
  | '0' :: 'x' :: digits => StateT.lift (based? 16 digits)
  | '0' :: 'o' :: digits => StateT.lift (based? 8 digits)
  | '0' :: 'b' :: digits => StateT.lift (based? 2 digits)
  | lexeme =>
    if isMoment lexeme then return .moment (String.ofList lexeme)
    else StateT.lift (decimal? lexeme)

/-! ### Arrays and inline tables -/

/-- Puts a value under a key of one or more parts; tables on the way to it are made. -/
def insertAt : List String → Toml → List (String × Toml) → List (String × Toml)
  | [], _, entries => entries
  | [k], value, entries => entries ++ [(k, value)]
  | k :: path, value, entries =>
    match entries.lookup k with
    | some (.table inner) =>
      let inner := insertAt path value inner
      entries.map fun entry => if entry.1 = k then (k, .table inner) else entry
    | _ => entries ++ [(k, .table (insertAt path value []))]

/-- The table of values under keys of one or more parts. -/
def tableOf (assignments : List (List String × Toml)) : Toml :=
  .table (assignments.foldl (fun entries a => insertAt a.1 a.2 entries) [])

/-- Whether two keys cannot stand in one inline table: they are equal, or one of them is on the way
to the other. -/
def clash (a b : List String) : Bool :=
  a.isPrefixOf b || b.isPrefixOf a

/-- The items of an array up to its closing bracket. -/
def items (item : Reader Toml) : (fuel : Nat) → Reader (List Toml)
  | 0 => failure
  | fuel + 1 => do
    betweenItems
    if (← upcoming) = some ']' then
      advance
      return []
    let x ← item
    betweenItems
    match ← upcoming with
    | some ',' =>
      advance
      return x :: (← items item fuel)
    | some ']' =>
      advance
      return [x]
    | _ => failure

/-- The assignments of an inline table up to its closing brace, behind those before them. -/
def assignments (value : Reader Toml) : (fuel : Nat) → List (List String × Toml) →
    Reader (List (List String × Toml))
  | 0, _ => failure
  | fuel + 1, done => do
    let path ← key
    mark '='
    blanks
    let x ← value
    blanks
    if done.any fun a => clash a.1 path then failure
    let done := done ++ [(path, x)]
    match ← upcoming with
    | some ',' =>
      advance
      assignments value fuel done
    | some '\x7d' =>
      advance
      return done
    | _ => failure

/-- A value in which at most `depth` arrays and inline tables are open at the same time. -/
def value : (depth : Nat) → Reader Toml
  | 0 => do
    match ← upcoming with
    | some '"' | some '\'' => return .string (← stringValue)
    | _ => scalar
  | depth + 1 => do
    match ← upcoming with
    | some '"' | some '\'' => return .string (← stringValue)
    | some '[' =>
      advance
      return .array (← items (value depth) ((← get).length + 1))
    | some '\x7b' =>
      advance
      blanks
      if (← upcoming) = some '\x7d' then
        advance
        return .table []
      return tableOf (← assignments (value depth) ((← get).length + 1) [])
    | _ => scalar

end Reader

end Toml

end GraphSearch

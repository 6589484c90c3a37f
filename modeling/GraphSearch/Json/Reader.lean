import GraphSearch.Json.Basic
import GraphSearch.Json.Fault

/-!
Reading JSON text.

A reader takes what it needs from the front of the text and leaves the rest. Typed readers find a
wrong shape as soon as they meet it, before they look at what follows, so the first fault of a text
is the one that is reported. `value` reads any document; its argument is the number of containers
that may still be opened inside each other.
-/

namespace GraphSearch

namespace Json

/-- Takes a part from the front of a text. -/
abbrev Reader := StateT (List Char) (Except Fault)

/-- Containers that may be open at the same time. -/
def maximalDepth : Nat := 127

/-- The largest number that is read digit by digit without loss. -/
def largestSignificand : Nat := UInt64.size - 1

def isSpace (c : Char) : Bool :=
  c == ' ' || c == '\n' || c == '\t' || c == '\r'

namespace Reader

/-- The next character after white space, which is left in the text. -/
def upcoming : Reader (Option Char) := do
  modify (·.dropWhile isSpace)
  return (← get).head?

def advance : Reader Unit :=
  modify (·.drop 1)

/-- Passes over the characters of a keyword. -/
def keyword : List Char → Reader Unit
  | [] => pure ()
  | c :: expected => do
    match (← get).head? with
    | none => throw .unexpectedEnd
    | some d =>
      if c = d then
        advance
        keyword expected
      else throw .malformed

/-! ### Strings -/

def hexDigit? (c : Char) : Option Nat :=
  if '0' ≤ c ∧ c ≤ '9' then some (c.toNat - 48)
  else if 'a' ≤ c ∧ c ≤ 'f' then some (c.toNat - 87)
  else if 'A' ≤ c ∧ c ≤ 'F' then some (c.toNat - 55)
  else none

/-- The number that four hexadecimal digits write. -/
def hexNumber? (a b c d : Char) : Option Nat := do
  return (((← hexDigit? a) * 16 + (← hexDigit? b)) * 16 + (← hexDigit? c)) * 16 + (← hexDigit? d)

/-- The fault of a text that should go on with four hexadecimal digits: it may have fewer than four
bytes left. -/
def hexFault (text : List Char) : Fault :=
  if text.foldl (fun n c => n + c.utf8Size) 0 < 4 then .unexpectedEnd else .malformed

/-- The character that stands for itself behind a backslash, or for a control character. -/
def plainEscape? : Char → Option Char
  | '"' => some '"'
  | '\\' => some '\\'
  | '/' => some '/'
  | 'b' => some '\x08'
  | 'f' => some '\x0c'
  | 'n' => some '\n'
  | 'r' => some '\r'
  | 't' => some '\t'
  | _ => none

/-- The characters up to the closing quote, and the text after it. Code points beyond the sixteen
bits of one escape are written as a pair of surrogates. -/
def stringChars : List Char → Except Fault (List Char × List Char)
  | [] => .error .unexpectedEnd
  | '"' :: rest => .ok ([], rest)
  | ['\\'] => .error .unexpectedEnd
  | '\\' :: 'u' :: a :: b :: c :: d :: rest =>
    match hexNumber? a b c d with
    | none => .error .malformed
    | some n =>
      if 0xDC00 ≤ n ∧ n ≤ 0xDFFF then .error .malformed
      else if 0xD800 ≤ n ∧ n ≤ 0xDBFF then
        match rest with
        | '\\' :: 'u' :: e :: f :: g :: h :: rest =>
          match hexNumber? e f g h with
          | none => .error .malformed
          | some n' =>
            if 0xDC00 ≤ n' ∧ n' ≤ 0xDFFF then do
              let (chars, rest) ← stringChars rest
              return (Char.ofNat ((n - 0xD800) * 0x400 + (n' - 0xDC00) + 0x10000) :: chars, rest)
            else .error .malformed
        | '\\' :: 'u' :: rest => .error (hexFault rest)
        | [] | ['\\'] => .error .unexpectedEnd
        | _ => .error .malformed
      else do
        let (chars, rest) ← stringChars rest
        return (Char.ofNat n :: chars, rest)
  | '\\' :: 'u' :: rest => .error (hexFault rest)
  | '\\' :: c :: rest =>
    match plainEscape? c with
    | none => .error .malformed
    | some c => do
      let (chars, rest) ← stringChars rest
      return (c :: chars, rest)
  | c :: rest =>
    if c.toNat < 32 then .error .malformed
    else do
      let (chars, rest) ← stringChars rest
      return (c :: chars, rest)

/-- The content of a string whose opening quote has been read. -/
def stringBody : Reader String := fun text => do
  let (chars, rest) ← stringChars text
  return (String.ofList chars, rest)

/-! ### Numbers -/

def digitValue (c : Char) : Nat :=
  c.toNat - 48

/-- Takes in digits as long as the number stays within sixty-four bits, and gives the others
back. -/
def absorbDigits (significand : Nat) : List Char → Nat × List Char
  | [] => (significand, [])
  | c :: rest =>
    if significand * 10 + digitValue c ≤ largestSignificand then
      absorbDigits (significand * 10 + digitValue c) rest
    else (significand, c :: rest)

/-- `significand * 10 ^ exponent`, scaled by at most `10 ^ 308` at a time with a rounding after each
step; nothing where the result would be infinite. Two steps reach from the largest significand to
zero, and `steps` bounds them. -/
def scaled (x : Binary64) (exponent : Int) : (steps : Nat) → Option Binary64
  | 0 => some x
  | steps + 1 =>
    if exponent.natAbs ≤ 308 then
      let power := Binary64.powerOfTen exponent.natAbs
      if 0 ≤ exponent then
        let y := x.product power
        if y.isFinite then some y else none
      else some (x.quotient power)
    else if x.isZero then some x
    else if 0 ≤ exponent then none
    else scaled (x.quotient (Binary64.powerOfTen 308)) (exponent + 308) steps

/-- The number of a significand, a power of ten and a sign. -/
def floatOf (negative : Bool) (significand : Nat) (exponent : Int) : Except Fault Json :=
  match scaled (Binary64.ofInt significand) exponent 4 with
  | some x => .ok (.float (x.withSign negative))
  | none => .error .malformed

/-- The number of digits without fraction and exponent: an integer if it fits into sixty-four bits,
with or without a sign. Minus zero is no integer. -/
def wholeNumber (negative : Bool) (significand : Nat) : Json :=
  if negative then
    if significand = 0 ∨ Nat.pow 2 63 < significand then
      .float ((Binary64.ofInt significand).withSign true)
    else .integer (-(significand : Int))
  else .integer significand

/-- The exponent that follows its letter, and the text after it. An exponent too large for
thirty-two bits makes a number zero or out of range. -/
def exponentPart (negative : Bool) (significand : Nat) (start : Int) (text : List Char) :
    Except Fault (Json × List Char) :=
  let (downward, text) := match text with
    | '+' :: rest => (false, rest)
    | '-' :: rest => (true, rest)
    | text => (false, text)
  let digits := text.takeWhile Char.isDigit
  let rest := text.dropWhile Char.isDigit
  if digits.isEmpty then .error (if text.isEmpty then .unexpectedEnd else .malformed)
  else
    let exponent := digits.foldl (fun n c => n * 10 + digitValue c) 0
    if Nat.pow 2 31 ≤ exponent then
      if significand ≠ 0 ∧ !downward then .error .malformed
      else .ok (.float (Binary64.zero negative), rest)
    else do
      let total := if downward then start - exponent else start + exponent
      return (← floatOf negative significand total, rest)

/-- What follows the digits before the decimal point: a fraction, an exponent or nothing. `dropped`
counts the digits before the point that were too many for the significand. -/
def afterWhole (negative : Bool) (significand dropped : Nat) (text : List Char) :
    Except Fault (Json × List Char) :=
  match text with
  | '.' :: text =>
    let digits := text.takeWhile Char.isDigit
    let rest := text.dropWhile Char.isDigit
    if digits.isEmpty then .error (if text.isEmpty then .unexpectedEnd else .malformed)
    else
      let (significand, extra) := absorbDigits significand digits
      let exponent : Int := dropped - ((digits.length - extra.length : Nat) : Int)
      match rest with
      | 'e' :: rest | 'E' :: rest => exponentPart negative significand exponent rest
      | rest => do return (← floatOf negative significand exponent, rest)
  | 'e' :: rest | 'E' :: rest => exponentPart negative significand dropped rest
  | text =>
    if dropped = 0 then .ok (wholeNumber negative significand, text)
    else do return (← floatOf negative significand dropped, text)

/-- A number whose sign has been read. No digit may follow a leading zero. -/
def numberBody (negative : Bool) : Reader Json := fun text =>
  match text with
  | [] => .error .unexpectedEnd
  | '0' :: rest =>
    if (rest.head?.map Char.isDigit).getD false then .error .malformed
    else afterWhole negative 0 0 rest
  | c :: _ =>
    if c.isDigit then
      let (significand, extra) := absorbDigits 0 (text.takeWhile Char.isDigit)
      afterWhole negative significand extra.length (text.dropWhile Char.isDigit)
    else .error .malformed

/-! ### Arrays and objects -/

/-- Whether another item comes before the closing bracket, which is left in the text. -/
def nextItem (first : Bool) : Reader Bool := do
  match ← upcoming with
  | none => throw .unexpectedEnd
  | some ']' => return false
  | some c =>
    if first then return true
    else if c = ',' then
      advance
      match ← upcoming with
      | none => throw .unexpectedEnd
      | some ']' => throw .malformed
      | some _ => return true
    else throw .malformed

/-- The key of the next member, or nothing before the closing brace, which is left in the text. -/
def nextKey (first : Bool) : Reader (Option String) := do
  let start ← match ← upcoming with
    | none => throw .unexpectedEnd
    | some '}' => return none
    | some c =>
      if first then pure (some c)
      else if c = ',' then
        advance
        upcoming
      else throw .malformed
  match start with
  | some '"' =>
    advance
    return some (← stringBody)
  | some _ => throw .malformed
  | none => throw .unexpectedEnd

def colon : Reader Unit := do
  match ← upcoming with
  | some ':' => advance
  | some _ => throw .malformed
  | none => throw .unexpectedEnd

def closeArray : Reader Unit := do
  match ← upcoming with
  | some ']' => advance
  | some _ => throw .malformed
  | none => throw .unexpectedEnd

def closeObject : Reader Unit := do
  match ← upcoming with
  | some '}' => advance
  | some _ => throw .malformed
  | none => throw .unexpectedEnd

/-- The items of an array up to its closing bracket; there are fewer of them than `fuel`. -/
def items {α : Type} (item : Reader α) : (fuel : Nat) → (first : Bool) → Reader (List α)
  | 0, _ => throw .malformed
  | fuel + 1, first => do
    if ← nextItem first then
      let x ← item
      return x :: (← items item fuel false)
    else return []

/-- The members of an object up to its closing brace; there are fewer of them than `fuel`. -/
def members {α : Type} (value : Reader α) :
    (fuel : Nat) → (first : Bool) → Reader (List (String × α))
  | 0, _ => throw .malformed
  | fuel + 1, first => do
    match ← nextKey first with
    | some key =>
      colon
      let x ← value
      return (key, x) :: (← members value fuel false)
    | none => return []

/-- An array whose items are read by `item`. -/
def array (item : Reader Json) : Reader Json := do
  advance
  let found ← items item ((← get).length + 1) true
  closeArray
  return .array found

/-- An object whose values are read by `value`. -/
def object (value : Reader Json) : Reader Json := do
  advance
  let found ← members value ((← get).length + 1) true
  closeObject
  return .object found

/-- A document; the arguments read an array and an object. -/
def valueWith (array object : Reader Json) : Reader Json := do
  match ← upcoming with
  | none => throw .unexpectedEnd
  | some '"' =>
    advance
    return .string (← stringBody)
  | some '[' => array
  | some '{' => object
  | some 'n' =>
    keyword ['n', 'u', 'l', 'l']
    return .null
  | some 't' =>
    keyword ['t', 'r', 'u', 'e']
    return .boolean true
  | some 'f' =>
    keyword ['f', 'a', 'l', 's', 'e']
    return .boolean false
  | some '-' =>
    advance
    numberBody true
  | some c => if c.isDigit then numberBody false else throw .malformed

/-- A document in which at most `depth` containers are open at the same time. -/
def value : (depth : Nat) → Reader Json
  | 0 => valueWith (throw .malformed) (throw .malformed)
  | depth + 1 => valueWith (array (value depth)) (object (value depth))

/-! ### Passing over a value -/

/-- The text after the closing quote of a string that nobody asks for. Its escapes need not make up
characters. -/
def skipChars : List Char → Except Fault (List Char)
  | [] => .error .unexpectedEnd
  | '"' :: rest => .ok rest
  | ['\\'] => .error .unexpectedEnd
  | '\\' :: 'u' :: a :: b :: c :: d :: rest =>
    if (hexNumber? a b c d).isSome then skipChars rest else .error .malformed
  | '\\' :: 'u' :: rest => .error (hexFault rest)
  | '\\' :: c :: rest => if (plainEscape? c).isSome then skipChars rest else .error .malformed
  | c :: rest => if c.toNat < 32 then .error .malformed else skipChars rest

def skipString : Reader Unit := fun text => do
  return ((), ← skipChars text)

def skipExponent (text : List Char) : Except Fault (List Char) :=
  let text := match text with
    | '+' :: rest | '-' :: rest => rest
    | text => text
  if (text.head?.map Char.isDigit).getD false then .ok (text.dropWhile Char.isDigit)
  else .error .malformed

/-- Passes over a number whose sign has been read, in or out of range. -/
def skipNumber : Reader Unit := fun text => do
  let afterWhole ← match text with
    | '0' :: rest =>
      if (rest.head?.map Char.isDigit).getD false then .error .malformed else .ok rest
    | c :: _ => if c.isDigit then .ok (text.dropWhile Char.isDigit) else .error .malformed
    | [] => .error .malformed
  match afterWhole with
  | '.' :: rest =>
    if (rest.head?.map Char.isDigit).getD false then
      match rest.dropWhile Char.isDigit with
      | 'e' :: rest | 'E' :: rest => do return ((), ← skipExponent rest)
      | rest => .ok ((), rest)
    else .error .malformed
  | 'e' :: rest | 'E' :: rest => do return ((), ← skipExponent rest)
  | rest => .ok ((), rest)

/-- Where a reader that passes over a value stands. -/
inductive SkipPlace where
  /-- Before a value. -/
  | value
  /-- Behind the bracket or brace that opens a container. -/
  | opened
  /-- Behind a value inside a container. -/
  | followed

/-- Passes over the key and the colon of a member, if the container is an object. -/
def skipKey (isObject : Bool) : Reader Unit := do
  if isObject then
    match ← upcoming with
    | some '"' =>
      advance
      skipString
      colon
    | some _ => throw .malformed
    | none => throw .unexpectedEnd

/-- Passes over what is left of a value. `containers` holds the open containers, innermost first,
true for objects; there is no limit to their number. -/
def skipFrom : (fuel : Nat) → SkipPlace → (containers : List Bool) → Reader Unit
  | 0, _, _ => throw .malformed
  | fuel + 1, .value, containers => do
    let done : Reader Unit := match containers with
      | [] => pure ()
      | _ :: _ => skipFrom fuel .followed containers
    match ← upcoming with
    | none => throw .unexpectedEnd
    | some '"' =>
      advance
      skipString
      done
    | some '[' =>
      advance
      skipFrom fuel .opened (false :: containers)
    | some '{' =>
      advance
      skipFrom fuel .opened (true :: containers)
    | some 'n' =>
      keyword ['n', 'u', 'l', 'l']
      done
    | some 't' =>
      keyword ['t', 'r', 'u', 'e']
      done
    | some 'f' =>
      keyword ['f', 'a', 'l', 's', 'e']
      done
    | some '-' =>
      advance
      skipNumber
      done
    | some c =>
      if c.isDigit then
        skipNumber
        done
      else throw .malformed
  | _ + 1, _, [] => pure ()
  | fuel + 1, place, isObject :: outer => do
    match ← upcoming with
    | none => throw .unexpectedEnd
    | some c =>
      if c = (if isObject then '}' else ']') then
        advance
        match outer with
        | [] => pure ()
        | _ :: _ => skipFrom fuel .followed outer
      else
        match place with
        | .followed =>
          if c = ',' then
            advance
            skipKey isObject
            skipFrom fuel .value (isObject :: outer)
          else throw .malformed
        | _ =>
          skipKey isObject
          skipFrom fuel .value (isObject :: outer)

def skip : Reader Unit := do
  skipFrom (2 * (← get).length + 2) .value []

/-! ### Typed readers -/

/-- Refuses what comes next, which is not what is expected. -/
def refuse {α : Type} (expected : String) : Reader α := do
  let found ← match ← upcoming with
    | some '[' => pure Found.sequence
    | some '{' => pure Found.map
    | some _ => do
      match ← value 0 with
      | .null => pure Found.null
      | .boolean b => pure (Found.boolean b)
      | .integer n => pure (Found.integer n)
      | .float x => pure (Found.float x)
      | .string s => pure (Found.string s)
      | .array _ => pure Found.sequence
      | .object _ => pure Found.map
    | none => throw .unexpectedEnd
  throw (.mismatch (.invalidType found expected))

def string (expected : String) : Reader String := do
  match ← upcoming with
  | some '"' =>
    advance
    stringBody
  | _ => refuse expected

def boolean : Reader Bool := do
  match ← upcoming with
  | some 't' =>
    keyword ['t', 'r', 'u', 'e']
    return true
  | some 'f' =>
    keyword ['f', 'a', 'l', 's', 'e']
    return false
  | _ => refuse "a boolean"

/-- A natural number of at most sixty-four bits. -/
def word (expected : String) : Reader UInt64 := do
  match ← upcoming with
  | some c =>
    if c = '-' ∨ c.isDigit then
      match ← value 0 with
      | .integer n =>
        if 0 ≤ n then return UInt64.ofNat n.toNat
        else throw (.mismatch (.invalidValue (.integer n) expected))
      | .float x => throw (.mismatch (.invalidType (.float x) expected))
      | _ => throw .malformed
    else refuse expected
  | none => refuse expected

/-- What `reader` reads, or nothing for a null. -/
def optional {α : Type} (reader : Reader α) : Reader (Option α) := do
  match ← upcoming with
  | some 'n' =>
    keyword ['n', 'u', 'l', 'l']
    return none
  | _ => return some (← reader)

def variantName {α : Type} (variants : List (String × α)) : Reader α := do
  let name ← string "variant identifier"
  match variants.lookup name with
  | some x => return x
  | none => throw (.mismatch (.unknownVariant name (variants.map Prod.fst)))

/-- One of the variants, given by its name or by an object with its name and a null. -/
def variant {α : Type} (variants : List (String × α)) : Reader α := do
  match ← upcoming with
  | some '"' => variantName variants
  | some '{' =>
    advance
    let x ← variantName variants
    colon
    match ← upcoming with
    | some 'n' => keyword ['n', 'u', 'l', 'l']
    | _ => refuse "unit"
    match ← upcoming with
    | some '}' => advance
    | some _ => throw .malformed
    | none => throw .unexpectedEnd
    return x
  | some _ => throw .malformed
  | none => throw .unexpectedEnd

/-- The value of a field that has not been given before. -/
def once {α : Type} (field : String) (held : Option α) (reader : Reader α) :
    Reader (Option α) := do
  if held.isSome then throw (.mismatch (.duplicateField field))
  colon
  return some (← reader)

/-- The members of an object, each taken in by `step`; there are fewer of them than `fuel`. -/
def foldMembers {σ : Type} (step : σ → String → Reader σ) :
    (fuel : Nat) → (first : Bool) → σ → Reader σ
  | 0, _, _ => throw .malformed
  | fuel + 1, first, state => do
    match ← nextKey first with
    | some key => foldMembers step fuel false (← step state key)
    | none => return state

/-- The item of an array at a place that may be left out. -/
def itemOr {α : Type} (first : Bool) (default : α) (reader : Reader α) : Reader α := do
  if ← nextItem first then reader else return default

/-- A record, given by an object or by an array of its fields in order. -/
def record {σ α : Type} (expected : String) (start : σ) (step : σ → String → Reader σ)
    (finish : σ → Except Mismatch α) (sequence : Reader α) : Reader α := do
  match ← upcoming with
  | some '{' =>
    advance
    let state ← foldMembers step ((← get).length + 1) true start
    match finish state with
    | .ok x =>
      closeObject
      return x
    | .error m => throw (.mismatch m)
  | some '[' =>
    advance
    let x ← sequence
    closeArray
    return x
  | _ => refuse expected

/-- Passes over a field that the record does not have. -/
def ignoredField {σ : Type} (state : σ) : Reader σ := do
  colon
  skip
  return state

end Reader

/-- What `reader` reads, if nothing but white space follows it. -/
def Reader.whole {α : Type} (reader : Reader α) (text : String) : Except Fault α := do
  let (x, rest) ← reader text.toList
  if (rest.dropWhile isSpace).isEmpty then return x else throw .malformed

def parse (text : String) : Except Fault Json :=
  (Reader.value maximalDepth).whole text

end Json

end GraphSearch

/-!
The words of a command line.

A word is an option, a cluster of one-letter options, or a plain word, which is the content of the
option before it or the file of a command; behind `--` all words are plain. What an option is given
is checked when the next one begins, so that of two faults the first one is usually told.
-/

namespace GraphSearch

/-- What a command line can give. -/
inductive Argument where
  | file
  | relationships
  | label
  | source
  | target
  | limit
  | offset
  | pageSize
  | json
  /-- The labels of a schema, each given on its own. -/
  | labels
  | verbose
  | config
  | help
  | version
deriving DecidableEq, Repr

/-- What an argument takes. -/
inductive ContentKind where
  | nothing
  | text
  /-- A text that is not empty. -/
  | path
  | number
deriving DecidableEq, Repr

def Argument.takes : Argument → ContentKind
  | file | config => .path
  | label | source | target | labels => .text
  | limit | offset | pageSize => .number
  | relationships | json | verbose | help | version => .nothing

/-- The commands that there are. -/
inductive CommandName where
  | explain
  | query
  | count
  | schema
deriving DecidableEq, Repr

def CommandName.names : List (String × CommandName) :=
  [("explain", .explain), ("query", .query), ("count", .count), ("schema", .schema)]

/-- Why a command line is not run as a command. -/
inductive Usage where
  | help
  /-- Help takes the place of a command that is missing altogether. -/
  | helpWithoutCommand
  | version (command : Option CommandName)
  | unknownArgument
  | unknownCommand
  | missingCommand
  | missingArgument
  | missingContent
  | excessContent
  | repeatedArgument
  | badNumber
deriving DecidableEq, Repr

def Usage.status : Usage → UInt32
  | help | version _ => 0
  | _ => 2

/-- An option with its names. -/
structure OptionForm where
  argument : Argument
  long : String
  short : Option Char := none

/-- A part of the command line with options of its own: what stands before a command, or behind
one. -/
structure Level where
  command : Option CommandName := none
  options : List OptionForm
  /-- The argument that has to be given. -/
  required : Option Argument := none

namespace Level

/-- The options that may be given at every level. -/
def shared : List OptionForm :=
  [⟨.verbose, "verbose", some 'v'⟩, ⟨.config, "config", some 'c'⟩, ⟨.help, "help", some 'h'⟩,
    ⟨.version, "version", some 'V'⟩]

def search : List OptionForm :=
  [⟨.relationships, "relationships", some 'r'⟩, ⟨.label, "label", some 'l'⟩,
    ⟨.source, "source", none⟩, ⟨.target, "target", none⟩, ⟨.limit, "limit", none⟩,
    ⟨.offset, "offset", none⟩, ⟨.pageSize, "page-size", none⟩]

/-- The option for JSON in the place of text. -/
def json : OptionForm := ⟨.json, "json", none⟩

def outer : Level where
  options := shared

def ofCommand (name : CommandName) : Level :=
  match name with
  | .explain | .query =>
    { command := some name, options := search ++ [json] ++ shared, required := some .file }
  | .count => { command := some name, options := search ++ shared, required := some .file }
  | .schema =>
    { command := some name
      options := ⟨.labels, "label", some 'l'⟩ :: shared
      required := some .labels }

def long? (level : Level) (name : String) : Option Argument :=
  (level.options.find? fun o => o.long = name).map OptionForm.argument

def short? (level : Level) (c : Char) : Option Argument :=
  (level.options.find? fun o => o.short = some c).map OptionForm.argument

end Level

/-- The word that asks for help in the place of a command. -/
def helpWord : String := "help"

/-- Whether a word stands for a command or asks for help. -/
def isCommandWord (word : String) : Bool :=
  word = helpWord || (CommandName.names.lookup word).isSome

/-- What an argument was given. -/
inductive Content where
  | nothing
  | text (s : String)
  | number (n : UInt64)
deriving DecidableEq, Repr

/-- A number of sixty-four bits without a minus sign. -/
def Content.number? (text : String) : Option UInt64 :=
  let digits := match text.toList with
    | '+' :: digits => digits
    | digits => digits
  if digits.isEmpty || !digits.all Char.isDigit then none
  else
    let n := digits.foldl (fun n c => n * 10 + (c.toNat - 48)) 0
    if n < UInt64.size then some (.ofNat n) else none

/-- What is known from the words so far. -/
structure Arguments where
  given : List (Argument × Content) := []
  /-- The argument that was begun last, and what it is given. -/
  begun : Option (Argument × Option String) := none
  /-- Whether the words that follow are plain. -/
  onlyPlain : Bool := false

namespace Arguments

def isGiven (as : Arguments) (a : Argument) : Bool :=
  (as.given.lookup a).isSome

def content (a : Argument) (text : Option String) : Except Usage Content :=
  match a.takes, text with
  | .nothing, _ => .ok .nothing
  | _, none => .error .missingContent
  | .text, some s => .ok (.text s)
  | .path, some s => if s.isEmpty then .error .missingContent else .ok (.text s)
  | .number, some s =>
    match Content.number? s with
    | some n => .ok (.number n)
    | none => .error .badNumber

/-- Takes down what an argument is given. Only labels may be given again. -/
def accept (as : Arguments) (a : Argument) (text : Option String) : Except Usage Arguments :=
  if a.takes ≠ .nothing ∧ text.isNone then .error .missingContent
  else if as.isGiven a ∧ a ≠ .labels then .error .repeatedArgument
  else do
    let c ← content a text
    return { as with given := as.given ++ [(a, c)] }

/-- Takes down the argument that was begun. -/
def settle (as : Arguments) : Except Usage Arguments :=
  match as.begun with
  | none => .ok as
  | some (a, text) => ({ as with begun := none } : Arguments).accept a text

/-- Whether an option waits for its content. -/
def isWaiting (as : Arguments) : Bool :=
  match as.begun with
  | some (_, none) => true
  | _ => false

def addFlag (as : Arguments) (level : Level) (a : Argument) : Except Usage Arguments := do
  let as ← as.settle
  match a with
  | .help => .error .help
  | .version => .error (.version level.command)
  | a => as.accept a none

def addAttached (as : Arguments) (a : Argument) (text : String) : Except Usage Arguments := do
  (← as.settle).accept a (some text)

/-- Begins an option whose content is the next word. -/
def begin (as : Arguments) (a : Argument) : Except Usage Arguments := do
  return { ← as.settle with begun := some (a, none) }

/-- Reads a long option, with the content behind its equals sign. -/
def readLong (as : Arguments) (level : Level) (name : String) (text : Option String) :
    Except Usage Arguments :=
  match level.long? name with
  | none => .error .unknownArgument
  | some a =>
    match a.takes, text with
    | .nothing, none => as.addFlag level a
    | .nothing, some _ => .error .excessContent
    | _, some s => as.addAttached a s
    | _, none => as.begin a

/-- Reads a cluster of one-letter options. The first of them that takes a content takes the rest of
the cluster, behind an equals sign if there is one. -/
def readCluster (level : Level) : List Char → Arguments → Except Usage Arguments
  | [], as => .ok as
  | c :: rest, as =>
    match level.short? c with
    | none => .error .unknownArgument
    | some a =>
      if a.takes = .nothing then do
        readCluster level rest (← as.addFlag level a)
      else
        match rest with
        | [] => as.begin a
        | '=' :: text => as.addAttached a (String.ofList text)
        | text => as.addAttached a (String.ofList text)

/-- Reads a plain word that no option waits for. -/
def readPlain (as : Arguments) (level : Level) (word : String) : Except Usage Arguments :=
  match level.command with
  | none =>
    if as.onlyPlain && isCommandWord word then .error .unknownArgument else .error .unknownCommand
  | some _ =>
    if level.required ≠ some .file ∨ as.isGiven .file ∨ (as.begun.map Prod.fst) = some .file then
      .error .unknownArgument
    else do
      return { ← as.settle with begun := some (.file, some word) }

def read (as : Arguments) (level : Level) (word : String) : Except Usage Arguments :=
  if as.onlyPlain then as.readPlain level word
  else
    match word.toList with
    | ['-', '-'] => .ok { as with onlyPlain := true }
    | '-' :: '-' :: chars =>
      let name := chars.takeWhile (· != '=')
      let text := match chars.drop name.length with
        | '=' :: text => some (String.ofList text)
        | _ => none
      as.readLong level (String.ofList name) text
    | '-' :: c :: rest => readCluster level (c :: rest) as
    | _ =>
      match as.begun with
      | some (a, none) => .ok { as with begun := some (a, some word) }
      | _ => as.readPlain level word

def readAll (level : Level) : List String → Arguments → Except Usage Arguments
  | [], as => as.settle
  | word :: rest, as => do readAll level rest (← as.read level word)

def text? (as : Arguments) (a : Argument) : Option String :=
  match as.given.lookup a with
  | some (.text s) => some s
  | _ => none

def texts (as : Arguments) (a : Argument) : List String :=
  as.given.filterMap fun g =>
    match g.2 with
    | .text s => if g.1 = a then some s else none
    | _ => none

def number? (as : Arguments) (a : Argument) : Option UInt64 :=
  match as.given.lookup a with
  | some (.number n) => some n
  | _ => none

end Arguments

end GraphSearch

import GraphSearch.CommandLine.Arguments
import GraphSearch.Index.Context

/-!
Commands: what a command line asks for.

Main definition: `Invocation.parse`, which reads the words of a command line.
-/

namespace GraphSearch

/-- What a search by command is made of. -/
structure SearchRequest where
  /-- The file that holds the predicate. -/
  file : String
  kind : EntityKind := .node
  context : SearchContext := {}
deriving DecidableEq, Repr

/-- What is to be done. -/
inductive Command where
  /-- Show what would be sent for a search. -/
  | explain (request : SearchRequest) (json : Bool)
  /-- Show the result of a search. -/
  | query (request : SearchRequest) (json : Bool)
  /-- Show the size of a result. -/
  | count (request : SearchRequest)
  /-- Create the indexes of labels. -/
  | schema (labels : List String)
deriving DecidableEq, Repr

/-- A command, and where its settings are. -/
structure Invocation where
  command : Command
  settingsFile : Option String := none
  verbose : Bool := false
deriving DecidableEq, Repr

namespace Arguments

def request (as : Arguments) (file : String) : SearchRequest where
  file := file
  kind := if as.isGiven .relationships then .relationship else .node
  context :=
    { labels := ⟨as.text? .label, as.text? .source, as.text? .target⟩
      limit := as.number? .limit
      offset := (as.number? .offset).getD 0
      pageSize := as.number? .pageSize }

def command (as : Arguments) (name : CommandName) : Except Usage Command :=
  match name with
  | .schema =>
    match as.texts .labels with
    | [] => .error .missingArgument
    | labels => .ok (.schema labels)
  | name =>
    match as.text? .file with
    | none => .error .missingArgument
    | some file =>
      let r := as.request file
      match name with
      | .explain => .ok (.explain r (as.isGiven .json))
      | .query => .ok (.query r (as.isGiven .json))
      | _ => .ok (.count r)

end Arguments

namespace Invocation

/-- The words up to the first that stands for a command, that word, and those behind it. -/
def split : List String → Arguments → Except Usage (Arguments × Option (String × List String))
  | [], as => do return (← as.settle, none)
  | word :: rest, as => do
    if isCommandWord word && !as.onlyPlain && !as.isWaiting then
      return (as, some (word, rest))
    else split rest (← as.read .outer word)

/-- Checks the variable that stands in for the option for the settings' file. -/
def checkVariable (as : Arguments) (fromVariable : Option String) : Except Usage Unit :=
  if !as.isGiven .config && fromVariable = some "" then .error .missingContent else .ok ()

/-- What to tell somebody who asks for help on words. -/
def helpUsage : List String → Usage
  | [] => .help
  | [word] => if isCommandWord word then .help else .unknownCommand
  | _ => .unknownCommand

/-- Reads the words of a command line. The file of the settings may also be named by a variable; an
option wins over it, and an option behind the command over one before it. -/
def parse (fromVariable : Option String) (words : List String) : Except Usage Invocation := do
  match ← split words {} with
  | (outer, none) =>
    checkVariable outer fromVariable
    if outer.given.isEmpty && fromVariable.isNone then .error .helpWithoutCommand
    else .error .missingCommand
  | (outer, some (word, rest)) =>
    match CommandName.names.lookup word with
    | none => .error (helpUsage rest)
    | some name =>
      let inner ← Arguments.readAll (.ofCommand name) rest {}
      checkVariable inner fromVariable
      let command ← inner.command name
      let outer ← outer.settle
      checkVariable outer fromVariable
      return { command := command
               settingsFile := (inner.text? .config).or ((outer.text? .config).or fromVariable)
               verbose := inner.isGiven .verbose || outer.isGiven .verbose }

end Invocation

end GraphSearch

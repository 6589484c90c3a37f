import GraphSearch.Bolt.Server
import GraphSearch.CommandLine.Settings
import GraphSearch.Json.Fault
import GraphSearch.Clause.Registry

/-!
What a command finds around it, and what it leaves behind.
-/

namespace GraphSearch

/-- What a command can read. -/
structure World where
  /-- The texts of the files that can be read. -/
  files : Dictionary String := []
  /-- The variables of the environment. -/
  environment : Dictionary String := []
  /-- The standard input, if it is text. -/
  input : Option String := some ""
  /-- Whether the standard output shows colors. -/
  colored : Bool := false

/-- Why a command ends early. -/
inductive Failure where
  | settings (cause : SettingsError)
  | unreadableFile (path : String)
  | unreadableInput
  | invalidPredicate (cause : Json.Fault)
  | connection (cause : ConnectError)
  | server (cause : BoltError)
  | search (cause : SearchError)

def Failure.message : Failure → String
  | settings cause => cause.message
  | unreadableFile path => "Failed to read " ++ path
  | unreadableInput => "Failed to read predicate from stdin"
  | invalidPredicate _ => "Invalid predicate JSON"
  | connection cause => cause.message
  | server cause => cause.message
  | search cause => cause.message

/-- What a command has left behind so far: lines on the standard output, warnings, and the state of
the server. -/
structure Console (σ : Type) where
  server : σ
  lines : List String := []
  warnings : List Warning := []

/-- A piece of work on the console, which may fail; what has been left behind then stays. -/
abbrev Task (σ α : Type) := ExceptT Failure (StateM (Console σ)) α

namespace Task

variable {σ α : Type}

def say (lines : List String) : Task σ Unit :=
  modify fun c => { c with lines := c.lines ++ lines }

def warn (warnings : List Warning) : Task σ Unit :=
  modify fun c => { c with warnings := c.warnings ++ warnings }

def check {ε : Type} (failure : ε → Failure) : Except ε α → Task σ α
  | .ok x => pure x
  | .error e => throw (failure e)

def onServer (change : σ → α × σ) : Task σ α :=
  modifyGet fun c =>
    let (x, server) := change c.server
    (x, { c with server := server })

end Task

end GraphSearch

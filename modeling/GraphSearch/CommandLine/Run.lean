import GraphSearch.CommandLine.Command
import GraphSearch.CommandLine.Console
import GraphSearch.Bolt.Schema
import GraphSearch.Predicate.Decode
import GraphSearch.Terminal.Report

/-!
Running commands.

A command reads its settings first, then its predicate, and only then turns to the server. What it
has written before a failure stays written.
-/

namespace GraphSearch

/-- The path that stands for the standard input. -/
def inputPath : String := "-"

namespace SearchRequest

variable {σ : Type}

def predicate (r : SearchRequest) (world : World) : Task σ Predicate := do
  let text ← if r.file = inputPath then
      match world.input with
      | some text => pure text
      | none => throw .unreadableInput
    else
      match world.files.get? r.file with
      | some text => pure text
      | none => throw (.unreadableFile r.file)
  Task.check .invalidPredicate (Predicate.parse text)

def index (r : SearchRequest) (settings : Settings) : Index where
  kind := r.kind
  config := settings.index

/-- Tells what a search leaves out of its predicate. -/
def warn (r : SearchRequest) (settings : Settings) (p : Predicate) : Task σ Unit :=
  Task.warn ((r.index settings).registry.warnings r.kind p)

end SearchRequest

namespace Command

variable {σ : Type}

/-- The number of records that a result can have at most. -/
def maximalResult : Nat := UInt64.size

/-- Shows the records of a stream from a position on, at most `fuel` of them; the result is the last
position. -/
def showRecords (session : Session σ) (linesOf : Nat → Record → List String) :
    (fuel : Nat) → (position : Nat) → ResultStream → Task σ Nat
  | 0, position, _ => pure position
  | fuel + 1, position, stream => do
    let (item, stream) ← Task.onServer fun state =>
      let (item, stream, state) := stream.next session Except.ok state
      ((item, stream), state)
    match item with
    | none => return position
    | some (.error e) => throw (.search e)
    | some (.ok record) =>
      Task.say (linesOf (position + 1) record)
      showRecords session linesOf fuel (position + 1) stream

def connect (server : Server σ) (settings : Settings) : Task σ Unit := do
  let answer ← Task.onServer (server.connect settings.bolt)
  Task.check .connection answer

/-- Shows what would be sent for a search, without turning to the server. -/
def runExplain (world : World) (settings : Settings) (r : SearchRequest) (json : Bool) :
    Task σ Unit := do
  let p ← r.predicate world
  r.warn settings p
  let e := (r.index settings).explain r.context p
  Task.say (if json then [e.toJson.indentedText] else e.report world.colored)

/-- Shows the records of a search, each on a line as JSON, or as lines between a head and their
number. -/
def runQuery (world : World) (server : Server σ) (settings : Settings) (r : SearchRequest)
    (json : Bool) : Task σ Unit := do
  let p ← r.predicate world
  connect server settings
  r.warn settings p
  let ix := r.index settings
  let session := server.session settings.bolt
  let answer ← Task.onServer fun state =>
    let (stream, _, state) := ix.search session state ix.emptyCache r.context p
    (stream, state)
  let stream ← Task.check .search answer
  if json then
    let _ ← showRecords session (fun _ record => [record.toJson.text]) maximalResult 0 stream
  else
    Task.say (stream.report world.colored)
    let shown ← showRecords session (fun position record => record.report position world.colored)
      maximalResult 0 stream
    Task.say (if shown = 0 then [painted world.colored [.dimmed] "No results."]
      else ["", toString shown ++ " result(s)"])

/-- Shows the size of the result of a search. -/
def runCount (world : World) (server : Server σ) (settings : Settings) (r : SearchRequest) :
    Task σ Unit := do
  let p ← r.predicate world
  connect server settings
  r.warn settings p
  let ix := r.index settings
  let answer ← Task.onServer fun state =>
    let (size, _, state) := Index.resultCount (server.session settings.bolt) state ix.emptyCache
      (ix.build r.context p)
    (size, state)
  let size ← Task.check .search answer
  Task.say [painted world.colored [.bold, .green] (toString size.toNat)]

def runSchema (world : World) (server : Server σ) (settings : Settings) (labels : List String) :
    Task σ Unit := do
  Task.say [painted world.colored [.bold] "Creating graph indexes..."]
  connect server settings
  let statements := schemaStatements labels
  let answer ← Task.onServer fun state => server.runAll settings.bolt state statements
  Task.check .server answer
  Task.say [painted world.colored [.green] "✓" ++ " " ++ toString statements.length ++
    " index statement(s) applied"]

end Command

def Invocation.run {σ : Type} (i : Invocation) (world : World) (server : Server σ) :
    Task σ Unit := do
  let settings ← Task.check .settings (Settings.load world.files world.environment i.settingsFile)
  match i.command with
  | .explain r json => Command.runExplain world settings r json
  | .query r json => Command.runQuery world server settings r json
  | .count r => Command.runCount world server settings r
  | .schema labels => Command.runSchema world server settings labels

def Invocation.paths (i : Invocation) : List String :=
  i.settingsFile.getD Settings.defaultFile ::
    match i.command with
    | .explain r _ | .query r _ | .count r => [r.file]
    | .schema _ => []

/-- The text that a program shows for its version. -/
def versionText (command : Option CommandName) : String :=
  let name := (command.bind fun c => (CommandName.names.find? fun n => n.2 = c).map Prod.fst)
  "cypherix" ++ (name.map ("-" ++ ·)).getD "" ++ " 0.3.0\n"

/-- The result of a command line: what it writes, the warnings on the way, and the failure, if it
fails. -/
structure Outcome (σ : Type) where
  output : String
  warnings : List Warning
  failure : Option Failure
  server : σ

def runCommandLine {σ : Type} (world : World) (server : Server σ) (state : σ)
    (words : List String) : Except Usage (Outcome σ) := do
  let i ← Invocation.parse (world.environment.get? Settings.fileVariable) words
  let (result, console) := (i.run world server).run.run { server := state }
  return { output := linesText console.lines
           warnings := console.warnings
           failure := match result with
             | .ok () => none
             | .error f => some f
           server := console.server }

end GraphSearch

import GraphSearch.CommandLine.Run

/-!
The command line program.

It gathers what a command may read, runs it, and hands out what the command has left behind. It has
no transport to a graph server of its own, so every server is one that does not answer.
-/

namespace GraphSearch

def readFile? (path : String) : IO (Option String) := do
  try
    return some (← IO.FS.readFile path)
  catch _ =>
    return none

/-- All bytes of a stream. -/
partial def readBytes (stream : IO.FS.Stream) (bytes : ByteArray) : IO ByteArray := do
  let more ← stream.read 65536
  if more.isEmpty then return bytes else readBytes stream (bytes ++ more)

/-- Whether the standard output shows colors: if they are forced, or if it is a terminal and nobody
objects. -/
def showsColors : IO Bool := do
  if ((← IO.getEnv "CLICOLOR_FORCE").getD "0") ≠ "0" then return true
  else if (← IO.getEnv "NO_COLOR").isSome then return false
  else (← IO.getStdout).isTty

/-- What a command may read: the files at some paths, and the standard input if it is among
them. -/
def readWorld (paths : List String) : IO World := do
  let files ← (paths.filter (· ≠ inputPath)).filterMapM fun path => do
    return (← readFile? path).map fun text => (path, text)
  let environment ← Settings.variableNames.filterMapM fun name => do
    return (← IO.getEnv name).map fun value => (name, value)
  let input ← if paths.contains inputPath then
      pure (String.fromUTF8? (← readBytes (← IO.getStdin) .empty))
    else pure (some "")
  return { files := .ofEntries files, environment := .ofEntries environment, input
           colored := ← showsColors }

/-- The word for why a command line is not run. -/
def Usage.text : Usage → String
  | help | helpWithoutCommand => "commands: explain, query, count, schema"
  | version _ => ""
  | unknownArgument => "unexpected argument"
  | unknownCommand => "unrecognized command"
  | missingCommand => "a command is missing"
  | missingArgument => "a required argument is missing"
  | missingContent => "an option lacks its value"
  | excessContent => "an option takes no value"
  | repeatedArgument => "an option is given more than once"
  | badNumber => "a value is not a number"

def Usage.tell (u : Usage) : IO UInt32 := do
  match u with
  | version command => IO.print (versionText command)
  | help => IO.println u.text
  | u => IO.eprintln u.text
  return u.status

end GraphSearch

open GraphSearch

def main (words : List String) : IO UInt32 := do
  let settingsFile ← IO.getEnv Settings.fileVariable
  match Invocation.parse settingsFile words with
  | .error usage => usage.tell
  | .ok i =>
    let world ← readWorld i.paths
    match runCommandLine world .unreachable () words with
    | .error usage => usage.tell
    | .ok outcome =>
      IO.print outcome.output
      outcome.warnings.forM fun w => IO.eprintln ("WARN " ++ w.message)
      match outcome.failure with
      | none => return 0
      | some failure =>
        IO.eprintln ("Error: " ++ failure.message)
        return 1

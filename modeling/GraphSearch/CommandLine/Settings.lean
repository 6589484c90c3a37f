import GraphSearch.Bolt.Config
import GraphSearch.Index.Config
import GraphSearch.Toml.Document

/-!
The settings of the command line program: those of the server and those of the index.

They come from a file and from the variables of the environment, and the variables win.
-/

namespace GraphSearch

/-- Settings of the server and of the index. -/
structure Settings where
  bolt : BoltConfig := {}
  index : IndexConfig := {}
deriving DecidableEq, Repr

/-- Why there are no settings. -/
inductive SettingsError where
  | unreadable (path : String)
  | malformed
  | invalid (cause : SearchError)

/-- What the user is told about missing settings. -/
def SettingsError.message : SettingsError → String
  | unreadable path => "Failed to read config file " ++ path
  | malformed => "Invalid configuration file"
  | invalid cause => cause.message

namespace Toml

/-- The entries of a table, or of an array whose items stand for the keys in order. A moment counts
as a table without any of the keys. -/
def entriesUnder? (keys : List String) : Toml → Option (List (String × Toml))
  | table entries => some entries
  | array items => some (keys.zip items)
  | moment _ => some []
  | _ => none

/-- The entry under a key as `read` understands it, or a default if there is none. -/
def entryOr? {α : Type} (entries : List (String × Toml)) (key : String) (default : α)
    (read : Toml → Option α) : Option α :=
  match entries.lookup key with
  | some v => read v
  | none => some default

def text? : Toml → Option String
  | string s => some s
  | _ => none

def count? : Toml → Option UInt64
  | integer n => if 0 ≤ n then some (.ofNat n.toNat) else none
  | _ => none

end Toml

/-- The settings of a server in a document. -/
def BoltConfig.ofToml? (t : Toml) : Option BoltConfig := do
  let default : BoltConfig := {}
  let entries ← t.entriesUnder?
    ["uri", "user", "password", "database", "max_connections", "fetch_size"]
  return { uri := ← Toml.entryOr? entries "uri" default.uri Toml.text?
           user := ← Toml.entryOr? entries "user" default.user Toml.text?
           password := ← Toml.entryOr? entries "password" default.password Toml.text?
           database := ← Toml.entryOr? entries "database" default.database Toml.text?
           maxConnections := ← Toml.entryOr? entries "max_connections" default.maxConnections
             Toml.count?
           fetchSize := ← Toml.entryOr? entries "fetch_size" default.fetchSize Toml.count? }

/-- The settings of an index in a document. -/
def IndexConfig.ofToml? (t : Toml) : Option IndexConfig := do
  let default : IndexConfig := {}
  let entries ← t.entriesUnder? ["query_cache_size", "sort_threshold", "page_size"]
  return { cacheSize := ← Toml.entryOr? entries "query_cache_size" default.cacheSize Toml.count?
           sortThreshold := ← Toml.entryOr? entries "sort_threshold" default.sortThreshold
             Toml.count?
           pageSize := ← Toml.entryOr? entries "page_size" default.pageSize Toml.count? }

namespace Settings

def ofToml? (t : Toml) : Option Settings := do
  let entries ← t.entriesUnder? ["bolt", "index"]
  return { bolt := ← Toml.entryOr? entries "bolt" {} BoltConfig.ofToml?
           index := ← Toml.entryOr? entries "index" {} IndexConfig.ofToml? }

def parse (text : String) : Except SettingsError Settings :=
  match Toml.parse? text >>= ofToml? with
  | some s => .ok s
  | none => .error .malformed

/-- The file that is read if no other one is asked for. -/
def defaultFile : String := "cypherix.toml"

def fileVariable : String := "CYPHERIX_CONFIG"

def uriVariable : String := "CYPHERIX_URI"
def userVariable : String := "CYPHERIX_USER"
def passwordVariable : String := "CYPHERIX_PASSWORD"
def databaseVariable : String := "CYPHERIX_DATABASE"

/-- All variables that settings may come from. -/
def variableNames : List String :=
  [fileVariable, uriVariable, userVariable, passwordVariable, databaseVariable]

/-- The settings with those that variables give. -/
def overridden (s : Settings) (environment : Dictionary String) : Settings :=
  { s with
    bolt :=
      { s.bolt with
        uri := (environment.get? uriVariable).getD s.bolt.uri
        user := (environment.get? userVariable).getD s.bolt.user
        password := (environment.get? passwordVariable).getD s.bolt.password
        database := (environment.get? databaseVariable).getD s.bolt.database } }

/-- The settings in a file: in the one asked for, or in the default one if it is there. -/
def ofFiles (files : Dictionary String) : Option String → Except SettingsError Settings
  | some path =>
    match files.get? path with
    | some text => parse text
    | none => .error (.unreadable path)
  | none =>
    match files.get? defaultFile with
    | some text => parse text
    | none => .ok {}

def load (files environment : Dictionary String) (path : Option String) :
    Except SettingsError Settings := do
  let s := (← ofFiles files path).overridden environment
  s.index.validate.mapError SettingsError.invalid
  return s

end Settings

end GraphSearch

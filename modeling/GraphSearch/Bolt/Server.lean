import GraphSearch.Bolt.Address
import GraphSearch.Bolt.Config
import GraphSearch.Bolt.Row
import GraphSearch.Store.Session

/-!
Sessions against a graph server.
-/

namespace GraphSearch

/-- A server as far as the program can see it: it runs statements, each with its parameters, and its
state may change with every statement. A server that cannot be reached fails them all. -/
structure Server (σ : Type) where
  run : BoltConfig → σ → String → Dictionary WireValue → Except String (List Row) × σ

/-- Why there is no connection. -/
inductive ConnectError where
  /-- The address is of no known kind. -/
  | pool
  | notResponding (uri : String)
deriving DecidableEq, Repr

def ConnectError.message : ConnectError → String
  | pool => "Failed to create Bolt connection pool"
  | notResponding uri => "Graph server at " ++ uri ++ " is not responding"

namespace Server

variable {σ : Type}

def unreachable : Server σ where
  run _ state _ _ := (.error "connection failed", state)

/-- The statement that finds out whether a server answers. -/
def ping : String := "RETURN 1"

def connect (server : Server σ) (config : BoltConfig) (state : σ) : Except ConnectError Unit × σ :=
  if isBoltAddress config.uri then
    match server.run config state ping [] with
    | (.ok _, state) => (.ok (), state)
    | (.error _, state) => (.error (.notResponding config.uri), state)
  else (.error .pool, state)

/-- The rows of a statement, or the failure of a search. -/
def rows (server : Server σ) (config : BoltConfig) (state : σ) (statement : String)
    (parameters : Dictionary Value) : Except BoltError (List Row) × σ :=
  match server.run config state statement (wireParameters parameters) with
  | (.ok rows, state) => (.ok rows, state)
  | (.error cause, state) => (.error (.driver cause), state)

def countOf : List Row → Except BoltError UInt64
  | [] => .error .missingCount
  | row :: _ => row.count

def session (server : Server σ) (config : BoltConfig) : Session σ where
  fetch state statement parameters :=
    let (answer, state) := server.rows config state statement parameters
    ((answer >>= fun rows => rows.mapM Row.record).mapError BoltError.toSearchError, state)
  count state statement parameters :=
    let (answer, state) := server.rows config state statement parameters
    ((answer >>= countOf).mapError BoltError.toSearchError, state)

/-- Runs statements one after the other, up to the first failure. -/
def runAll (server : Server σ) (config : BoltConfig) (state : σ) :
    List String → Except BoltError Unit × σ
  | [] => (.ok (), state)
  | statement :: rest =>
    match server.run config state statement [] with
    | (.ok _, state) => runAll server config state rest
    | (.error cause, state) => (.error (.driver cause), state)

end Server

end GraphSearch

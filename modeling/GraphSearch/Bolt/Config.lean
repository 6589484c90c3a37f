import GraphSearch.Json.Reader

/-!
How to reach the graph server.
-/

namespace GraphSearch

structure BoltConfig where
  uri : String := "bolt://localhost:7687"
  user : String := "neo4j"
  password : String := "neo4j"
  database : String := "neo4j"
  /-- Connections that may be open at the same time. -/
  maxConnections : UInt64 := 4
  /-- Rows that the server sends at a time. -/
  fetchSize : UInt64 := 200
deriving DecidableEq, Repr

namespace BoltConfig

def toJson (c : BoltConfig) : Json :=
  .object [("uri", .string c.uri), ("user", .string c.user), ("password", .string c.password),
    ("database", .string c.database), ("max_connections", .integer c.maxConnections.toNat),
    ("fetch_size", .integer c.fetchSize.toNat)]

/-- The settings found so far. -/
structure Draft where
  uri : Option String := none
  user : Option String := none
  password : Option String := none
  database : Option String := none
  maxConnections : Option UInt64 := none
  fetchSize : Option UInt64 := none

/-- Settings that are not given keep their defaults. -/
def Draft.finish (d : Draft) : BoltConfig :=
  let default : BoltConfig := {}
  { uri := d.uri.getD default.uri
    user := d.user.getD default.user
    password := d.password.getD default.password
    database := d.database.getD default.database
    maxConnections := d.maxConnections.getD default.maxConnections
    fetchSize := d.fetchSize.getD default.fetchSize }

open Json

def text : Reader String :=
  Reader.string "a string"

def count : Reader UInt64 :=
  Reader.word "usize"

def Draft.read (d : Draft) (key : String) : Reader Draft :=
  match key with
  | "uri" => do return { d with uri := ← Reader.once key d.uri text }
  | "user" => do return { d with user := ← Reader.once key d.user text }
  | "password" => do return { d with password := ← Reader.once key d.password text }
  | "database" => do return { d with database := ← Reader.once key d.database text }
  | "max_connections" => do
    return { d with maxConnections := ← Reader.once key d.maxConnections count }
  | "fetch_size" => do return { d with fetchSize := ← Reader.once key d.fetchSize count }
  | _ => Reader.ignoredField d

/-- Reads settings: an object, or an array of them in order. -/
def reader : Reader BoltConfig :=
  Reader.record "struct BoltConfig" {} Draft.read (fun d => .ok d.finish) do
    let default : BoltConfig := {}
    let uri ← Reader.itemOr true default.uri text
    let user ← Reader.itemOr false default.user text
    let password ← Reader.itemOr false default.password text
    let database ← Reader.itemOr false default.database text
    let maxConnections ← Reader.itemOr false default.maxConnections count
    let fetchSize ← Reader.itemOr false default.fetchSize count
    return ⟨uri, user, password, database, maxConnections, fetchSize⟩

def parse (text : String) : Except Fault BoltConfig :=
  reader.whole text

end BoltConfig

end GraphSearch

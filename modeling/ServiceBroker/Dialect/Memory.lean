/-
# Database servers in memory

A server is a set of databases and, once prepared, a table of bindings; servers are told
apart by salt.  A server that cannot be reached refuses new connections and nothing
else.
-/

import ServiceBroker.Dialect.Basic
import ServiceBroker.Table

namespace ServiceBroker
namespace Dialect

/-- A row of the table of bindings. -/
structure Row where
  username : String
  /-- The password as it is stored. -/
  stored : String
deriving DecidableEq, Repr

/-- One database server. -/
structure Server where
  /-- The table of bindings, once there is one. -/
  bindings : Option (Table String Row) := none
  /-- The names of the databases, each once. -/
  databases : List String := []
deriving Inhabited

/-- All servers of one engine. -/
structure Servers where
  table : Table String Server := .empty
  unreachable : Bool := false
  /-- How many bindings were ever made. -/
  created : Nat := 0

namespace Servers

/-- The server with a salt; one that nobody has met is empty. -/
def server (s : Servers) (salt : String) : Server := (s.table.get? salt).getD {}

def setServer (s : Servers) (salt : String) (server : Server) : Servers :=
  { s with table := s.table.put salt server }

/-- The databases of a server. -/
def databases (s : Servers) (salt : String) : List String := (s.server salt).databases

/-- The row of a binding. -/
def row? (s : Servers) (salt binding : String) : Option Row :=
  (s.server salt).bindings.bind (·.get? binding)

/-- The stored password of a binding. -/
def stored? (s : Servers) (salt binding : String) : Option String :=
  (s.row? salt binding).map (·.stored)

/-- Replaces the stored password of a binding, and says whether there is one. -/
def overwrite (s : Servers) (salt binding stored : String) : Bool × Servers :=
  let server := s.server salt
  match server.bindings with
  | none => (false, s)
  | some bindings =>
    match bindings.get? binding with
    | none => (false, s)
    | some row =>
      (true, s.setServer salt
        { server with bindings := some (bindings.put binding { row with stored }) })

/-- The names with one more, each once. -/
def addName (name : String) (names : List String) : List String :=
  if name ∈ names then names else names ++ [name]

/-- The failure to reach a server that cannot be reached. -/
def refused (c : Connection) : ServiceError :=
  .internal ("connection refused: " ++ c.host ++ ":" ++ c.portText)

/-- The failure to record a binding without a table. -/
def tableMissing : ServiceError := .internal "metadata table missing"

/-- The answer to a call about servers of an engine. -/
def answer (engine : Engine) : (call : Call) → Servers → call.Answer × Servers
  | .connect c, s =>
    if s.unreachable then (.error (refused c), s)
    else (.ok (), s.setServer c.salt (s.server c.salt))
  | .prepare c, s =>
    let server := s.server c.salt
    (.ok (), s.setServer c.salt { server with bindings := some (server.bindings.getD .empty) })
  | .hasTable c, s => (.ok (s.server c.salt).bindings.isSome, s)
  | .read c binding, s =>
    match s.row? c.salt binding with
    | none => (.ok none, s)
    | some row =>
      ((loadedPassword engine c.salt row.stored).map fun password =>
        some ⟨binding, row.username, password⟩, s)
  | .readUser c binding, s => (.ok ((s.row? c.salt binding).map (·.username)), s)
  | .create c binding draw, s =>
    let server := s.server c.salt
    match server.bindings with
    | none => (.error tableMissing, s)
    | some bindings =>
      let record := draw.record binding
      let stored := storedPassword engine c.salt draw.nonce record.password
      (.ok record, { s.setServer c.salt {
          bindings := some (bindings.put binding ⟨record.username, stored⟩)
          databases := addName record.username server.databases } with
        created := s.created + 1 })
  | .delete c binding username, s =>
    let server := s.server c.salt
    (.ok (), s.setServer c.salt {
      bindings := server.bindings.map (·.erase binding)
      databases := server.databases.filter (· ≠ username) })

end Servers
end Dialect
end ServiceBroker

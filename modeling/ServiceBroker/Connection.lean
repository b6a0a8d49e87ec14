/-
# Connections and credentials

How a database server is reached: the user, the database and the address, and the
credentials that a platform is handed for them.  The URI strings these together
without escaping anything.
-/

import ServiceBroker.Engine
import ServiceBroker.Json.Value

namespace ServiceBroker

/-- What a platform is handed to reach a database. -/
structure Credentials where
  host : String
  port : String
  database : String
  username : String
  password : String
  sslRequired : String
  uri : String
deriving DecidableEq, Repr

def Credentials.toJson (c : Credentials) : Json :=
  .object [
    ("database", .string c.database),
    ("host", .string c.host),
    ("password", .string c.password),
    ("port", .string c.port),
    ("sslRequired", .string c.sslRequired),
    ("uri", .string c.uri),
    ("username", .string c.username)]

/-- How a database is reached. -/
structure Connection where
  engine : Engine
  host : String
  /-- Zero for the port of the engine. -/
  rawPort : UInt16
  database : String
  username : String
  password : String
  /-- What the server is known by when passwords are sealed for it. -/
  salt : String
deriving DecidableEq, Repr

namespace Connection

/-- The port in use. -/
def port (c : Connection) : UInt16 := if c.rawPort > 0 then c.rawPort else c.engine.defaultPort

/-- The port as texts show it. -/
def portText (c : Connection) : String := toString c.port.toNat

def scheme : Engine → String
  | .mariaDb => "mysql"
  | .postgreSql => "postgres"

/-- What a URI ends with. -/
def options : Engine → String
  | .mariaDb => ""
  | .postgreSql => "?sslmode=disable"

/-- The connection as a URI. -/
def uri (c : Connection) : String :=
  scheme c.engine ++ "://" ++ c.username ++ ":" ++ c.password ++ "@" ++ c.host ++ ":" ++
    c.portText ++ "/" ++ c.database ++ options c.engine

/-- The same server for another user of another database. -/
def forUser (c : Connection) (database username password : String) : Connection :=
  { c with database, username, password }

/-- The connection as credentials. -/
def credentials (c : Connection) : Credentials where
  host := c.host
  port := c.portText
  database := c.database
  username := c.username
  password := c.password
  sslRequired := "false"
  uri := c.uri

end Connection
end ServiceBroker

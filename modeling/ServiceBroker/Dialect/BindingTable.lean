/-
# The table of bindings

How the table of bindings is declared on either engine, and the row that stands in it for
a binding: the name under which it was asked for, a generated user, and a password as it
is stored.
-/

import ServiceBroker.Dialect.Basic
import ServiceBroker.Sql.Declared

namespace ServiceBroker
namespace Dialect

open Sql (Declared)

/-- The table of bindings in the reach of an administrator. -/
def bindingTable (engine : Engine) (c : Connection) : Declared where
  name := match engine with
    | .mariaDb =>
      String.singleton '\x60' ++ c.username ++ String.singleton '\x60' ++ "." ++ tableName
    | .postgreSql => tableName
  columns := [("binding_id", 36), ("name", 20), ("password", 128)]

/-- The places for the values of a row. -/
def places : Engine → List String
  | .mariaDb => ["?", "?", "?"]
  | .postgreSql => ["$1", "$2", "$3"]

/-- The row for a binding. -/
def row (engine : Engine) (c : Connection) (binding : String) (draw : Draw) : List String :=
  [binding, draw.username.text,
    storedPassword engine c.salt draw.nonce draw.password.text]

end Dialect
end ServiceBroker

/-
# A SQL server

A server as the dialects see it: databases, one of which holds the table of bindings, accounts
and what was granted to them.  Everything that can be done with it is done wherever it can be
(`Host.select` and its neighbours), and is refused elsewhere.
-/

import ServiceBroker.Sql.Basic
import ServiceBroker.Table

namespace ServiceBroker
namespace Sql

/-- A row of a table of bindings. -/
structure Entry where
  binding : String
  username : String
  /-- The password as it is stored. -/
  stored : String
deriving DecidableEq, Repr

/-- A database: who owns it, and its table of bindings, once there is one. -/
structure Database where
  owner : String
  bindings : Option (List Entry) := none

/-- Who is connected, and to which database. -/
structure Session where
  user : String
  database : String

/-- A database server. -/
structure Host where
  databases : Table String Database := .empty
  /-- The passwords of the accounts. -/
  accounts : Table String String := .empty
  /-- What was granted to whom. -/
  grants : List (String × String) := []
  session : Option Session := none

namespace Host

/-- The table of bindings in a database. -/
def table? (host : Host) (database : String) : Option (List Entry) :=
  (host.databases.get? database).bind (·.bindings)

/-- Who is or belongs to a role. -/
def HasRole (host : Host) (user role : String) : Prop := user = role ∨ (role, user) ∈ host.grants

instance (host : Host) (user role : String) : Decidable (host.HasRole user role) :=
  inferInstanceAs (Decidable (_ ∨ _))

/-- One row, if something is there. -/
def found (there : Bool) : List Row := if there then [[some "1"]] else []

/-- Some columns of the first row of a binding. -/
def select (host : Host) (database binding : String) (columns : Entry → Row) :
    Option (List Row) :=
  (host.table? database).map fun entries =>
    (entries.find? (·.binding = binding)).toList.map columns

/-- The server with another table of bindings in a database. -/
def withTable (host : Host) (database : String) (d : Database) (entries : List Entry) : Host :=
  { host with databases := host.databases.put database { d with bindings := some entries } }

/-- The table of bindings in a database made into another. -/
def changeTable (host : Host) (database : String)
    (change : Option (List Entry) → Option (List Entry)) : Option Host :=
  (host.databases.get? database).bind fun d =>
    (change d.bindings).map (host.withTable database d)

/-- A new table, where there is none. -/
def createTable (host : Host) (database : String) : Option Host :=
  host.changeTable database fun
    | none => some []
    | some _ => none

/-- The table with one more row. -/
def insert (host : Host) (database : String) (entry : Entry) : Option Host :=
  host.changeTable database (·.map (· ++ [entry]))

/-- The table without the rows of a binding. -/
def remove (host : Host) (database binding : String) : Option Host :=
  host.changeTable database (·.map fun entries => entries.filter (·.binding ≠ binding))

/-- The server with one more database, if there is none of this name. -/
def createDatabase (host : Host) (owner name : String) : Option Host :=
  if (host.databases.get? name).isSome then none
  else some { host with databases := host.databases.put name { owner } }

/-- The server without a database; only who has the role of its owner may drop it. -/
def dropDatabase (host : Host) (user name : String) : Option Host :=
  (host.databases.get? name).bind fun d =>
    if host.HasRole user d.owner then some { host with databases := host.databases.erase name }
    else none

/-- The server with one more account, if there is none of this name. -/
def createAccount (host : Host) (name password : String) : Option Host :=
  if (host.accounts.get? name).isSome then none
  else some { host with accounts := host.accounts.put name password }

/-- Grants something to an account. -/
def grant (host : Host) (what account : String) : Option Host :=
  if (host.accounts.get? account).isSome then
    some { host with grants := (what, account) :: host.grants }
  else none

section Preconditions

variable {host : Host} {database name : String} {d : Database} {entries : List Entry}

/-- Selecting tells of the first row of a binding. -/
theorem select_eq (table : host.table? database = some entries) (binding : String)
    (columns : Entry → Row) :
    host.select database binding columns =
      some ((entries.find? (·.binding = binding)).toList.map columns) := by
  rw [select, table, Option.map_some]

/-- The table of a database is changed where it can be. -/
theorem changeTable_eq {change : Option (List Entry) → Option (List Entry)}
    (there : host.databases.get? database = some d) (h : change d.bindings = some entries) :
    host.changeTable database change = some (host.withTable database d entries) := by
  rw [changeTable, there, Option.bind_some, h, Option.map_some]

/-- A new table has no rows. -/
theorem createTable_eq (there : host.databases.get? database = some d)
    (none_yet : d.bindings = none) :
    host.createTable database = some (host.withTable database d []) :=
  changeTable_eq there (by rw [none_yet])

/-- A row is inserted at the end. -/
theorem insert_eq (there : host.databases.get? database = some d)
    (table : d.bindings = some entries) (entry : Entry) :
    host.insert database entry = some (host.withTable database d (entries ++ [entry])) :=
  changeTable_eq there (by rw [table, Option.map_some])

/-- The rows of a binding are deleted. -/
theorem remove_eq (there : host.databases.get? database = some d)
    (table : d.bindings = some entries) (binding : String) :
    host.remove database binding =
      some (host.withTable database d (entries.filter (·.binding ≠ binding))) :=
  changeTable_eq there (by rw [table, Option.map_some])

/-- A database is created where there is none of its name. -/
theorem createDatabase_eq (unmade : host.databases.get? name = none) (owner : String) :
    host.createDatabase owner name =
      some { host with databases := host.databases.put name { owner } } := by
  rw [createDatabase, unmade]
  rfl

/-- A database is dropped by who has the role of its owner. -/
theorem dropDatabase_eq {user : String} (there : host.databases.get? name = some d)
    (may : host.HasRole user d.owner) :
    host.dropDatabase user name =
      some { host with databases := host.databases.erase name } := by
  rw [dropDatabase, there, Option.bind_some, if_pos may]

/-- An account is created where there is none of its name. -/
theorem createAccount_eq (unknown : host.accounts.get? name = none) (password : String) :
    host.createAccount name password =
      some { host with accounts := host.accounts.put name password } := by
  rw [createAccount, unknown]
  rfl

/-- Something is granted to an account that is there. -/
theorem grant_eq (known : (host.accounts.get? name).isSome) (what : String) :
    host.grant what name = some { host with grants := (what, name) :: host.grants } :=
  if_pos known

end Preconditions

end Host

/-- The answer to what a dialect asks of a server.  A connection takes an account with its password
and a database, and a statement a connection. -/
def reply {S : Type} (execute : S → Session → Host → Option (List Row × Host)) :
    (call : Call S) → StateM Host (Except Failure call.Result)
  | .connect c => fun host =>
    if host.accounts.get? c.username = some c.password ∧
        (host.databases.get? c.database).isSome then
      (.ok (), { host with session := some ⟨c.username, c.database⟩ })
    else (.error .refused, host)
  | .execute statement => fun host =>
    match host.session.bind fun session => execute statement session host with
    | some (rows, host) => (.ok rows, host)
    | none => (.error .refused, host)

variable {S : Type} {execute : S → Session → Host → Option (List Row × Host)} {host host' : Host}

/-- An account with its password and a database gets a session. -/
theorem reply_connect {c : Connection} (account : host.accounts.get? c.username = some c.password)
    (there : (host.databases.get? c.database).isSome) :
    (reply execute (.connect c)).run host =
      (.ok (), { host with session := some ⟨c.username, c.database⟩ }) :=
  if_pos ⟨account, there⟩

/-- In a session a statement that can be carried out selects its rows. -/
theorem reply_execute {statement : S} {session : Session} {rows : List Row}
    (here : host.session = some session)
    (h : execute statement session host = some (rows, host')) :
    (reply execute (.execute statement)).run host = (.ok rows, host') := by
  have bound : (host.session.bind fun session => execute statement session host) =
      some (rows, host') := by
    rw [here, Option.bind_some, h]
  simp only [reply, StateT.run, bound]

end Sql
end ServiceBroker

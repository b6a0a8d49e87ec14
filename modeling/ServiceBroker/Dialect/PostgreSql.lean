/-
# Bindings on PostgreSQL

The statements of the PostgreSQL dialect, each a fixed text with words in its holes, and
the calls of a dialect as programs of them.  The table of bindings stands in the
database of the administrator, and every user owns its database.
-/

import ServiceBroker.Dialect.Basic
import ServiceBroker.Sql.Basic

namespace ServiceBroker
namespace Dialect
namespace PostgreSql

open Sql (Word Script)

/-- A statement of the dialect. -/
inductive Statement where
  | findDatabase (name : String)
  | findTable (database : String)
  | createTable
  | readBinding (binding : String)
  | readUser (binding : String)
  | createRole (name password : Word)
  | grantRole (name admin : Word)
  | createDatabase (name : Word)
  | insertBinding (binding name stored : String)
  | dropDatabase (name : Word)
  | deleteBinding (binding : String)
deriving DecidableEq, Repr

/-- A word as the name of a role or database. -/
def name (w : Word) : String := w.quoted '"'

namespace Statement

/-- The text of a statement. -/
def text : Statement → String
  | findDatabase _ => "SELECT 1 FROM pg_database WHERE datname = $1 LIMIT 1"
  | findTable _ =>
    "SELECT 1 FROM information_schema.tables WHERE table_catalog = $1 AND table_name = $2 LIMIT 1"
  | createTable =>
    "CREATE TABLE " ++ tableName ++
      " (binding_id VARCHAR(36), name VARCHAR(20), password VARCHAR(128))"
  | readBinding _ =>
    "SELECT name, password FROM " ++ tableName ++ " WHERE binding_id = $1 LIMIT 1"
  | readUser _ => "SELECT name FROM " ++ tableName ++ " WHERE binding_id = $1 LIMIT 1"
  | createRole w password =>
    "CREATE ROLE " ++ name w ++ " WITH PASSWORD " ++ password.literal ++ " LOGIN"
  | grantRole w admin => "GRANT " ++ name w ++ " TO " ++ name admin
  | createDatabase w => "CREATE DATABASE " ++ name w ++ " OWNER " ++ name w
  | insertBinding _ _ _ =>
    "INSERT INTO " ++ tableName ++ " (binding_id, name, password) VALUES ($1, $2, $3)"
  | dropDatabase w => "DROP DATABASE " ++ name w
  | deleteBinding _ => "DELETE FROM " ++ tableName ++ " WHERE binding_id = $1"

/-- The parameters bound to a statement. -/
def parameters : Statement → List String
  | findDatabase name => [name]
  | findTable database => [database, tableName]
  | readBinding binding | readUser binding | deleteBinding binding => [binding]
  | insertBinding binding name stored => [binding, name, stored]
  | createTable | createRole _ _ | grantRole _ _ | createDatabase _ | dropDatabase _ => []

end Statement

/-- Whether there is a table of bindings. -/
def hasTable (c : Connection) : Script Statement Bool :=
  Sql.selectsAny (.findTable c.database)

/-- Makes sure that there is a table of bindings. -/
def prepare (c : Connection) : Script Statement Unit := do
  unless ← hasTable c do
    Sql.perform .createTable

/-- The record of a binding. -/
def read (c : Connection) (binding : String) : Script Statement (Option BindingRecord) := do
  match ← Sql.execute (.readBinding binding) with
  | [] => return none
  | row :: _ =>
    let username ← Sql.check (Sql.cell row 0)
    let stored ← Sql.check (Sql.cell row 1)
    let password ← Sql.check (loadedPassword .postgreSql c.salt stored)
    return some ⟨binding, username, password⟩

/-- The user of a binding. -/
def readUser (binding : String) : Script Statement (Option String) := do
  match ← Sql.execute (.readUser binding) with
  | [] => return none
  | row :: _ => return some (← Sql.check (Sql.cell row 0))

/-- Makes role, database and record of a binding.  The administrator has to be a member of the role
to make a database that the role owns. -/
def create (c : Connection) (binding : String) (draw : Draw) : Script Statement BindingRecord := do
  let role := Word.ofLetters draw.username
  let password := Word.ofLetters draw.password
  let admin ← Sql.check (Word.ofText c.username)
  Sql.inStep "creating role" (Sql.perform (.createRole role password))
  Sql.inStep "granting role" (Sql.perform (.grantRole role admin))
  Sql.inStep "creating database" (Sql.perform (.createDatabase role))
  let stored := storedPassword .postgreSql c.salt draw.nonce draw.password.text
  Sql.inStep "creating metadata record" (Sql.perform (.insertBinding binding role.text stored))
  return draw.record binding

/-- Removes the database of a user, if there is one. -/
def dropDatabase (username : String) : Script Statement Unit := do
  if ← Sql.selectsAny (.findDatabase username) then
    Sql.perform (.dropDatabase (← Sql.check (Word.ofText username)))

/-- Removes the database of a user and the record of a binding. -/
def delete (binding username : String) : Script Statement Unit := do
  Sql.inStep "deleting user database" (dropDatabase username)
  Sql.inStep "deleting metadata record" (Sql.perform (.deleteBinding binding))

/-- The calls of a dialect as programs of statements. -/
def answer : (call : Call) → Program (Sql.interface Statement) call.Answer
  | .connect c => Sql.connect c
  | .prepare c => prepare c
  | .hasTable c => hasTable c
  | .read c binding => read c binding
  | .readUser _ binding => readUser binding
  | .create c binding draw => create c binding draw
  | .delete _ binding username => delete binding username

end PostgreSql
end Dialect
end ServiceBroker

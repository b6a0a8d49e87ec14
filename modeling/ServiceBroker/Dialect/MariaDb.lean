/-
# Bindings on MariaDB

The statements of the MariaDB dialect, each a fixed text with words in its holes, and
the calls of a dialect as programs of them.  The table of bindings stands in the schema
of the administrator.
-/

import ServiceBroker.Dialect.Basic
import ServiceBroker.Sql.Basic

namespace ServiceBroker
namespace Dialect
namespace MariaDb

open Sql (Word Script)

/-- A statement of the dialect. -/
inductive Statement where
  | findDatabase (name : String)
  | findTable (schema : String)
  | createTable (schema : Word)
  | readBinding (schema : Word) (binding : String)
  | readUser (schema : Word) (binding : String)
  | createDatabase (name : Word)
  | createUser (name password : Word)
  | grant (name : Word)
  | insertBinding (schema : Word) (binding name stored : String)
  | dropDatabase (name : Word)
  | deleteBinding (schema : Word) (binding : String)
deriving DecidableEq, Repr

/-- A word as the name of a schema or database. -/
def name (w : Word) : String := w.quoted '\x60'

/-- The table of bindings in a schema. -/
def table (schema : Word) : String := name schema ++ "." ++ tableName

/-- The account of a user, from any host. -/
def account (user : Word) : String := user.literal ++ "@'%'"

/-- What a user may do in its database. -/
def privileges : String :=
  "SELECT, INSERT, UPDATE, DELETE, CREATE, DROP, INDEX, ALTER, CREATE TEMPORARY TABLES, " ++
    "LOCK TABLES, CREATE VIEW, SHOW VIEW, CREATE ROUTINE, ALTER ROUTINE, EXECUTE, " ++
    "REFERENCES, EVENT, TRIGGER"

namespace Statement

/-- The text of a statement. -/
def text : Statement → String
  | findDatabase _ =>
    "SELECT 1 FROM information_schema.schemata WHERE schema_name = ? LIMIT 1"
  | findTable _ =>
    "SELECT 1 FROM information_schema.tables WHERE table_schema = ? AND table_name = ? LIMIT 1"
  | createTable schema =>
    "CREATE TABLE " ++ table schema ++
      " (binding_id VARCHAR(36), name VARCHAR(20), password VARCHAR(128))"
  | readBinding schema _ =>
    "SELECT name, password FROM " ++ table schema ++ " WHERE binding_id = ? LIMIT 1"
  | readUser schema _ => "SELECT name FROM " ++ table schema ++ " WHERE binding_id = ? LIMIT 1"
  | createDatabase w => "CREATE DATABASE " ++ name w
  | createUser w password => "CREATE USER " ++ account w ++ " IDENTIFIED BY " ++ password.literal
  | grant w => "GRANT " ++ privileges ++ " ON " ++ name w ++ ".* TO " ++ account w
  | insertBinding schema _ _ _ =>
    "INSERT INTO " ++ table schema ++ " (binding_id, name, password) VALUES (?, ?, ?)"
  | dropDatabase w => "DROP DATABASE " ++ name w
  | deleteBinding schema _ => "DELETE FROM " ++ table schema ++ " WHERE binding_id = ?"

/-- The parameters bound to a statement. -/
def parameters : Statement → List String
  | findDatabase name => [name]
  | findTable schema => [schema, tableName]
  | readBinding _ binding | readUser _ binding | deleteBinding _ binding => [binding]
  | insertBinding _ binding name stored => [binding, name, stored]
  | createTable _ | createDatabase _ | createUser _ _ | grant _ | dropDatabase _ => []

end Statement

/-- Whether there is a table of bindings. -/
def hasTable (c : Connection) : Script Statement Bool :=
  Sql.selectsAny (.findTable c.username)

/-- Makes sure that there is a table of bindings. -/
def prepare (c : Connection) : Script Statement Unit := do
  unless ← hasTable c do
    Sql.perform (.createTable (← Sql.check (Word.ofText c.username)))

/-- The record of a binding, its password opened. -/
def read (c : Connection) (binding : String) : Script Statement (Option BindingRecord) := do
  let schema ← Sql.check (Word.ofText c.username)
  match ← Sql.execute (.readBinding schema binding) with
  | [] => return none
  | row :: _ =>
    let username ← Sql.check (Sql.cell row 0)
    let stored ← Sql.check (Sql.cell row 1)
    let password ← Sql.check (loadedPassword .mariaDb c.salt stored)
    return some ⟨binding, username, password⟩

/-- The user of a binding. -/
def readUser (c : Connection) (binding : String) : Script Statement (Option String) := do
  let schema ← Sql.check (Word.ofText c.username)
  match ← Sql.execute (.readUser schema binding) with
  | [] => return none
  | row :: _ => return some (← Sql.check (Sql.cell row 0))

/-- Makes database, user and record of a binding. -/
def create (c : Connection) (binding : String) (draw : Draw) : Script Statement BindingRecord := do
  let user := Word.ofLetters draw.username
  let password := Word.ofLetters draw.password
  Sql.inStep "creating database" (Sql.perform (.createDatabase user))
  Sql.inStep "creating user" (Sql.perform (.createUser user password))
  Sql.inStep "granting privileges" (Sql.perform (.grant user))
  let stored := storedPassword .mariaDb c.salt draw.nonce draw.password.text
  let schema ← Sql.check (Word.ofText c.username)
  Sql.inStep "creating metadata record"
    (Sql.perform (.insertBinding schema binding user.text stored))
  return draw.record binding

/-- Removes the database of a user, if there is one. -/
def dropDatabase (username : String) : Script Statement Unit := do
  if ← Sql.selectsAny (.findDatabase username) then
    Sql.perform (.dropDatabase (← Sql.check (Word.ofText username)))

/-- Removes the database of a user and the record of a binding. -/
def delete (c : Connection) (binding username : String) : Script Statement Unit := do
  Sql.inStep "deleting user database" (dropDatabase username)
  let schema ← Sql.check (Word.ofText c.username)
  Sql.inStep "deleting metadata record" (Sql.perform (.deleteBinding schema binding))

/-- The calls of a dialect as programs of statements. -/
def answer : (call : Call) → Program (Sql.interface Statement) call.Answer
  | .connect c => Sql.connect c
  | .prepare c => prepare c
  | .hasTable c => hasTable c
  | .read c binding => read c binding
  | .readUser c binding => readUser c binding
  | .create c binding draw => create c binding draw
  | .delete c binding username => delete c binding username

end MariaDb
end Dialect
end ServiceBroker

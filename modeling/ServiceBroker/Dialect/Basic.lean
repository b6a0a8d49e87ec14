/-
# Bindings on a database server

Every binding is a user with a database of the same name, recorded with its password in
a table on the server.  A dialect answers calls about that table and those users: in
memory, or with the statements of an engine.  MariaDB servers keep passwords sealed.
-/

import ServiceBroker.Connection
import ServiceBroker.Program
import ServiceBroker.ServiceError
import ServiceBroker.Text.Letters

namespace ServiceBroker

/-- Whether the passwords of bindings are stored sealed. -/
def Engine.sealsPasswords : Engine → Bool
  | .mariaDb => true
  | .postgreSql => false

/-- What is recorded of a binding. -/
structure BindingRecord where
  bindingId : String
  username : String
  password : String
deriving DecidableEq, Repr

namespace Dialect

/-- The name of the table of bindings. -/
def tableName : String := "open_service_broker_meta"

/-- The chance that goes into a new binding. -/
structure Draw where
  username : Letters 20
  password : Letters 30
  nonce : GcmSiv.Nonce

/-- The record of a new binding. -/
def Draw.record (draw : Draw) (bindingId : String) : BindingRecord :=
  ⟨bindingId, draw.username.text, draw.password.text⟩

/-- A call about the bindings of the server that a connection reaches. -/
inductive Call where
  /-- Reaches the server. -/
  | connect (at' : Connection)
  /-- Makes sure that there is a table. -/
  | prepare (at' : Connection)
  /-- Whether there is a table. -/
  | hasTable (at' : Connection)
  /-- The record of a binding. -/
  | read (at' : Connection) (binding : String)
  /-- The user of a binding; its password need not open. -/
  | readUser (at' : Connection) (binding : String)
  /-- Makes user, database and record of a binding. -/
  | create (at' : Connection) (binding : String) (draw : Draw)
  /-- Removes the database of a user and the record of a binding. -/
  | delete (at' : Connection) (binding username : String)

/-- What a successful call gives. -/
abbrev Call.Result : Call → Type
  | connect _ | prepare _ | delete _ _ _ => Unit
  | hasTable _ => Bool
  | read _ _ => Option BindingRecord
  | readUser _ _ => Option String
  | create _ _ _ => BindingRecord

abbrev Call.Answer (call : Call) : Type := Except ServiceError call.Result

/-- The server that a call is about, by its salt. -/
def Call.salt : Call → String
  | connect c | prepare c | hasTable c | read c _ | readUser c _ | create c _ _ | delete c _ _ =>
    c.salt

/-- The questions that a dialect answers. -/
abbrev interface : Interface := ⟨Call, Call.Answer⟩

/-- A password as it is stored. -/
def storedPassword (engine : Engine) (salt : String) (nonce : GcmSiv.Nonce) (password : String) :
    String :=
  if engine.sealsPasswords then Sealing.sealText salt nonce password else password

/-- The password that is stored so. -/
def loadedPassword (engine : Engine) (salt stored : String) : Except ServiceError String :=
  if engine.sealsPasswords then (Sealing.openText salt stored).mapError .sealing else .ok stored

end Dialect
end ServiceBroker

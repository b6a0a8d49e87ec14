/-
# The handler of a database engine

Instances are appliances of a provider, found by name; bindings are users on the
database server of an appliance, which is reached as its administrator.  The handler is
a program over the backend: provider, deletions, dialect and chance.
-/

import ServiceBroker.Dialect.Basic
import ServiceBroker.Handler.Basic
import ServiceBroker.Provider.Basic

namespace ServiceBroker
namespace Backend

/-- The chance that goes into a new appliance. -/
structure Draw where
  username : Letters 10
  password : Letters 20

/-- What a handler asks of the backend. -/
inductive Call where
  | provider (call : Provider.Call)
  /-- Starts the deletion of an appliance that was found under a name. -/
  | startDeletion (name : String) (id : ApplianceId)
  | dialect (call : Dialect.Call)
  | drawAdmin
  | drawBinding

abbrev Call.Answer : Call → Type
  | provider call => call.Answer
  | startDeletion _ _ => Unit
  | dialect call => call.Answer
  | drawAdmin => Draw
  | drawBinding => Dialect.Draw

/-- The questions that a backend answers. -/
abbrev interface : Interface := ⟨Call, Call.Answer⟩

/-- A program on the backend that may fail. -/
abbrev Action (α : Type) := ExceptT ServiceError (Program interface) α

/-- A program on the provider. -/
def onProvider {α : Type} (p : ExceptT ProviderError (Program Provider.interface) α) : Action α :=
  ExceptT.mk ((p.run.interpret fun call => .ask (I := interface) (.provider call) .done).bind
    fun result => .done (result.mapError .provider))

/-- A call to the dialect. -/
def dialect (call : Dialect.Call) : Action call.Result :=
  ExceptT.mk (.ask (I := interface) (.dialect call) .done)

/-- A call to the dialect as one named step. -/
def dialectStep (step : String) (call : Dialect.Call) : Action call.Result :=
  ExceptT.mk (.ask (I := interface) (.dialect call) fun answer =>
    .done (ServiceError.inStep step answer))

def startDeletion (name : String) (id : ApplianceId) : Action Unit :=
  ExceptT.mk (.ask (I := interface) (.startDeletion name id) fun _ => .done (.ok ()))

def drawAdmin : Action Draw :=
  ExceptT.mk (.ask (I := interface) .drawAdmin fun draw => .done (.ok draw))

def drawBinding : Action Dialect.Draw :=
  ExceptT.mk (.ask (I := interface) .drawBinding fun draw => .done (.ok draw))

/-- The one appliance with a name. -/
def findOne (name : String) : Action (Option Appliance) := onProvider (Provider.findOne name)

end Backend

/-- The handler of an engine for a plan of some size. -/
structure DatabaseHandler where
  engine : Engine
  planSize : UInt32
deriving DecidableEq, Repr

namespace DatabaseHandler

open Backend (Action)

/-- The order for an appliance with these parameters. -/
def order (h : DatabaseHandler) (name : String) (p : Parameters) (draw : Backend.Draw) :
    ApplianceOrder where
  name
  engine := h.engine
  planSize := h.planSize
  switchId := p.switchId
  ipAddress := p.ipAddress
  maskLength := p.maskLength
  defaultRoute := p.defaultRoute
  port := p.port.getD h.engine.defaultPort
  defaultUser := p.username.getD draw.username.text
  userPassword := draw.password.text
  backupTime := p.backupTime
  allowNetworks := p.allowNetworks
  tags := [markerTag]

/-- How the server of an appliance is reached as its administrator. -/
def administrator (h : DatabaseHandler) (a : Appliance) : Except ServiceError Connection :=
  match a.ipAddress with
  | none => .error (.internal ("appliance " ++ a.id.text ++ " has no IP address"))
  | some address => .ok {
      engine := h.engine
      host := address.text
      rawPort := a.port
      database := a.defaultUser
      username := a.defaultUser
      password := a.userPassword
      salt := a.id.text }

/-- An appliance has a connection exactly where it has an address, and then this one. -/
theorem administrator_eq_ok_iff {h : DatabaseHandler} {a : Appliance} {admin : Connection} :
    h.administrator a = .ok admin ↔ ∃ address, a.ipAddress = some address ∧
      admin = ⟨h.engine, address.text, a.port, a.defaultUser, a.defaultUser, a.userPassword,
        a.id.text⟩ := by
  rw [administrator]
  cases a.ipAddress with
  | none => exact iff_of_false nofun (by rintro ⟨_, ⟨⟩, _⟩)
  | some address => simp [eq_comm]

/-- The connection to the server of an instance, as its administrator. -/
def connection (h : DatabaseHandler) (name : String) : Action Connection := do
  match ← Backend.findOne name with
  | none => throw (.instanceNotFound name)
  | some a => ExceptT.mk (pure (h.administrator a))

/-- What a platform is handed for a binding. -/
def credentials (admin : Connection) (record : BindingRecord) : Credentials :=
  (admin.forUser record.username record.username record.password).credentials

def instanceState (name : String) (requested : Option Parameters) :
    Action (Option InstanceState) := do
  return (← Backend.findOne name).map fun a => ⟨a, requested⟩

def bindingState (h : DatabaseHandler) (name binding : String) :
    Action (Option BindingState) := do
  let admin ← h.connection name
  Backend.dialect (.connect admin)
  if ← Backend.dialectStep "reading metadata table" (.hasTable admin) then
    let record ← Backend.dialectStep "reading metadata table" (.read admin binding)
    return record.map fun record => ⟨credentials admin record⟩
  else return none

def createInstance (h : DatabaseHandler) (name : String) (p : Parameters) : Action Unit := do
  let draw ← Backend.drawAdmin
  let _ ← Backend.onProvider (Provider.create (h.order name p draw))

/-- Begins to delete an instance: finds it and leaves the rest to the background. -/
def deleteInstance (name : String) : Action Unit := do
  match ← Backend.findOne name with
  | none => throw (.provider (.notFound name))
  | some a => Backend.startDeletion name a.id

def createBinding (h : DatabaseHandler) (name binding : String) : Action Credentials := do
  let admin ← h.connection name
  Backend.dialect (.connect admin)
  Backend.dialectStep "creating metadata table" (.prepare admin)
  match ← Backend.dialectStep "reading metadata table" (.read admin binding) with
  | some _ => throw (.bindingAlreadyExists binding)
  | none =>
    let draw ← Backend.drawBinding
    let record ← Backend.dialectStep "creating user database" (.create admin binding draw)
    return credentials admin record

/-- Removes a binding.  Only its user is looked up, because its password may not open. -/
def deleteBinding (h : DatabaseHandler) (name binding : String) : Action Unit := do
  let admin ← h.connection name
  Backend.dialect (.connect admin)
  if ← Backend.dialectStep "reading metadata table" (.hasTable admin) then
    match ← Backend.dialectStep "reading metadata table" (.readUser admin binding) with
    | none => return ()
    | some username => Backend.dialectStep "deleting binding" (.delete admin binding username)

/-- The answers of the handler, as programs on the backend. -/
def answer (h : DatabaseHandler) : (call : Handler.Call) → Program Backend.interface call.Answer
  | .instanceState name requested => instanceState name requested
  | .bindingState name binding => h.bindingState name binding
  | .createInstance name p => h.createInstance name p
  | .deleteInstance name => deleteInstance name
  | .createBinding name binding => h.createBinding name binding
  | .deleteBinding name binding => h.deleteBinding name binding

end DatabaseHandler
end ServiceBroker

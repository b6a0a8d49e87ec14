/-
# The lifecycle of instances and bindings

What a broker does when a platform asks for an instance, gives it up, asks how far an
operation has come, binds or unbinds.  Each operation is a program on a handler that
looks first and changes at most one thing, last.
-/

import ServiceBroker.Handler.Basic
import ServiceBroker.Operation

namespace ServiceBroker
namespace Lifecycle

/-- What comes of a request to provision. -/
inductive ProvisionOutcome where
  | accepted
  | alreadyProvisioned
  /-- The instance exists with other attributes. -/
  | conflict
  | invalidParameters (text : String)
  | internalError
deriving DecidableEq, Repr

/-- What comes of a request to deprovision. -/
inductive DeprovisionOutcome where
  | accepted
  | gone
  /-- The instance is being moved. -/
  | unprocessable
  | internalError
deriving DecidableEq, Repr

/-- What comes of a poll. -/
inductive PollOutcome where
  | inProgress
  | succeeded
  | failed
  | gone
  | internalError
deriving DecidableEq, Repr

/-- The progress that a poll reports. -/
def PollOutcome.progress? : PollOutcome → Option Progress
  | inProgress => some .inProgress
  | succeeded => some .succeeded
  | failed => some .failed
  | gone => some .gone
  | internalError => none

/-- What comes of a request to bind. -/
inductive BindOutcome where
  | created (credentials : Credentials)
  | alreadyBound (credentials : Credentials)
  /-- The binding exists with other attributes. -/
  | conflict
  | instanceNotFound
  | internalError
deriving DecidableEq, Repr

/-- What comes of a request to unbind. -/
inductive UnbindOutcome where
  | unbound
  | instanceNotFound
  | internalError
deriving DecidableEq, Repr

/-- A program on a handler. -/
abbrev Action (α : Type) := Program Handler.interface α

/-- A question to the handler. -/
def ask (call : Handler.Call) : Action call.Answer := .call (I := Handler.interface) call

/-- Provisions an instance: creates it unless it is there, and otherwise says how it stands to the
parameters. -/
def provision (name : String) (parameters : Option Json) : Action ProvisionOutcome :=
  match Parameters.parse parameters with
  | .error e => return .invalidParameters e.message
  | .ok p => do
    match ← ask (.instanceState name (some p)) with
    | .error _ => return .internalError
    | .ok none =>
      match ← ask (.createInstance name p) with
      | .ok _ => return .accepted
      | .error _ => return .internalError
    | .ok (some state) =>
      if state.hasDiff then return .conflict
      else if state.isFailed then return .internalError
      else if state.isUp then return .alreadyProvisioned
      else return .accepted

/-- Deprovisions an instance.  One that is neither up nor failed is taken to be on its way down. -/
def deprovision (name : String) : Action DeprovisionOutcome := do
  match ← ask (.instanceState name none) with
  | .error _ => return .internalError
  | .ok none => return .gone
  | .ok (some state) =>
    if state.isMigrating then return .unprocessable
    else if state.isUp || state.isFailed then
      match ← ask (.deleteInstance name) with
      | .ok _ => return .accepted
      | .error _ => return .internalError
    else return .accepted

/-- The progress of an operation on an instance. -/
def poll (operation : Operation) (name : String) : Action PollOutcome := do
  match ← ask (.instanceState name none) with
  | .error _ => return .internalError
  | .ok none => return if operation = .deprovisioning then .gone else .failed
  | .ok (some state) =>
    if operation = .provisioning ∧ state.isFailed then return .failed
    else if operation = .provisioning ∧ state.isUp then return .succeeded
    else return .inProgress

/-- Binds: creates a binding unless it is on record. -/
def bind (name binding : String) : Action BindOutcome := do
  match ← ask (.instanceState name none) with
  | .error _ => return .internalError
  | .ok none => return .instanceNotFound
  | .ok (some _) =>
    match ← ask (.bindingState name binding) with
    | .error _ => return .internalError
    | .ok none =>
      match ← ask (.createBinding name binding) with
      | .ok credentials => return .created credentials
      | .error _ => return .internalError
    | .ok (some state) =>
      if state.hasDiff then return .conflict else return .alreadyBound state.credentials

/-- Unbinds: removes a binding of an instance that runs. -/
def unbind (name binding : String) : Action UnbindOutcome := do
  match ← ask (.instanceState name none) with
  | .error _ => return .internalError
  | .ok none => return .instanceNotFound
  | .ok (some state) =>
    if !state.isUp || state.isFailed then return .internalError
    else
      match ← ask (.deleteBinding name binding) with
      | .ok _ => return .unbound
      | .error _ => return .internalError

/-- An operation that a platform asks for. -/
inductive Request where
  | provision (name : String) (parameters : Option Json)
  | deprovision (name : String)
  | poll (operation : Operation) (name : String)
  | bind (name binding : String)
  | unbind (name binding : String)

/-- What comes of an operation. -/
inductive Outcome where
  | provision (outcome : ProvisionOutcome)
  | deprovision (outcome : DeprovisionOutcome)
  | poll (outcome : PollOutcome)
  | bind (outcome : BindOutcome)
  | unbind (outcome : UnbindOutcome)
deriving DecidableEq, Repr

/-- Does what a request asks for. -/
def perform : Request → Action Outcome
  | .provision name parameters => return .provision (← provision name parameters)
  | .deprovision name => return .deprovision (← deprovision name)
  | .poll operation name => return .poll (← poll operation name)
  | .bind name binding => return .bind (← bind name binding)
  | .unbind name binding => return .unbind (← unbind name binding)

end Lifecycle
end ServiceBroker

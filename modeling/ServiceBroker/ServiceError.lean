/-
# Failures of a service

Why an operation on an instance or a binding fails.  A failure can name the step in
which it arose and the failure underneath.
-/

import ServiceBroker.Provider.Error
import ServiceBroker.Sealing
import ServiceBroker.Text.Quoted

namespace ServiceBroker

/-- Why an operation on an instance or a binding fails. -/
inductive ServiceError where
  | instanceNotFound (name : String)
  | bindingAlreadyExists (binding : String)
  /-- A named step fails. -/
  | step (name : String) (source : ServiceError)
  /-- The provider fails. -/
  | provider (source : ProviderError)
  /-- The database server, or the way to it, fails. -/
  | database
  /-- A stored password does not open. -/
  | sealing (cause : SealingError)
  /-- A name cannot stand in a statement. -/
  | invalidIdentifier (name : String)
  | internal (text : String)
deriving DecidableEq, Repr, Inhabited

namespace ServiceError

/-- The text of a failure, where the failure at its root has one. -/
def message? : ServiceError → Option String
  | instanceNotFound name => some ("instance not found: " ++ name)
  | bindingAlreadyExists binding => some ("binding already exists: " ++ binding)
  | step name source => source.message?.map (name ++ " failed: " ++ ·)
  | provider source => source.message?
  | database => none
  | sealing cause => cause.message?.map ("password sealing failed: " ++ ·)
  | invalidIdentifier name => some ("invalid identifier " ++ Text.quote name)
  | internal text => some ("internal error: " ++ text)

/-- The failure, if any, as one of a named step. -/
def inStep {α : Type} (name : String) : Except ServiceError α → Except ServiceError α :=
  Except.mapError (step name)

/-- Naming the step of a failure leaves a result as it is. -/
theorem inStep_eq_ok_iff {α : Type} {name : String} {result : Except ServiceError α} {value : α} :
    inStep name result = .ok value ↔ result = .ok value := by
  cases result with
  | error e => exact ⟨nofun, nofun⟩
  | ok told => exact Iff.rfl

end ServiceError
end ServiceBroker

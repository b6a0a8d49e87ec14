/-
# Waiting for an appliance

The states of an appliance that a broker waits for, the call that shows each of them and
what the answer says.
-/

import ServiceBroker.Provider.Basic
import ServiceBroker.Provider.Polling

namespace ServiceBroker
namespace Provider

/-- A state of an appliance that is waited for. -/
inductive Condition where
  | up
  | down
  /-- The engine on the appliance runs. -/
  | running
deriving DecidableEq, Repr

namespace Condition

/-- How messages name the state. -/
def what : Condition → String
  | up => "instance up"
  | down => "instance down"
  | running => "database running"

/-- The call that shows the state. -/
abbrev call (id : ApplianceId) : Condition → Call
  | up | down => .read id
  | running => .status id

/-- What a reading of the appliance says; one that does not exist is not found. -/
def ofReading (id : ApplianceId) (holds : Appliance → Bool) :
    Except ProviderError (Option Appliance) → Except ProviderError Bool
  | .ok (some a) => .ok (holds a)
  | .ok none => .error (.notFound id.text)
  | .error e => .error e

/-- What an answer says about the state.  A status that cannot be had says that the engine does not
run yet. -/
def seen (id : ApplianceId) : (c : Condition) → (c.call id).Answer → Except ProviderError Bool
  | up, answer => ofReading id Appliance.isUp answer
  | down, answer => ofReading id Appliance.isDown answer
  | running, .ok status => .ok (status = some Appliance.engineRunning)
  | running, .error _ => .ok false

end Condition

/-- One look at whether a state holds. -/
def look {σ : Type} (provider : Provider σ) (condition : Condition) (id : ApplianceId)
    (now : Instant) (state : σ) : (Duration × Except ProviderError Bool) × σ :=
  let (answer, state) := provider.answer now (condition.call id) state
  ((answer.delay, condition.seen id answer.value), state)

/-- A wait for a state that begins now. -/
def waitFor {σ : Type} (provider : Provider σ) (condition : Condition) (timeout : Duration)
    (now : Instant) : Polling :=
  .start condition.what timeout provider.pollInterval now

/-- The whole wait for a state. -/
def await {σ : Type} (provider : Provider σ) (condition : Condition) (id : ApplianceId)
    (timeout : Duration) (now : Instant) (state : σ) :
    (Except ProviderError Unit × Instant) × σ :=
  (provider.waitFor condition timeout now).run (provider.look condition id) now state

end Provider
end ServiceBroker

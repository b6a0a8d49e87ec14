/-
# Providers

What a provider can be asked, and what a provider is to the rest of the broker: a way of
answering calls in a state of its own, each answer after some time.  `Provider.findOne`
turns a search by name into the one appliance that has it.
-/

import ServiceBroker.Appliance
import ServiceBroker.Program
import ServiceBroker.Provider.Error

namespace ServiceBroker
namespace Provider

/-- The account that a provider knows the broker by. -/
structure Account where
  id : String
  name : String
deriving DecidableEq, Repr

def Account.toJson (account : Account) : Json :=
  .object [("account_id", .string account.id), ("account_name", .string account.name)]

/-- A call to a provider. -/
inductive Call where
  | authStatus
  | find (name : String)
  | read (id : ApplianceId)
  | create (order : ApplianceOrder)
  | stop (id : ApplianceId)
  | status (id : ApplianceId)
  | delete (id : ApplianceId)
deriving DecidableEq, Repr

/-- What a successful call gives. -/
abbrev Call.Result : Call → Type
  | authStatus => Account
  | find _ => List Appliance
  | read _ => Option Appliance
  | create _ => Appliance
  | stop _ => Unit
  | status _ => Option String
  | delete _ => Unit

/-- A call succeeds or fails. -/
abbrev Call.Answer (call : Call) : Type := Except ProviderError call.Result

/-- The appliance that a call is about, where it names one by number. -/
def Call.target? : Call → Option ApplianceId
  | read id | stop id | status id | delete id => some id
  | authStatus | find _ | create _ => none

/-- The questions that a provider answers. -/
abbrev interface : Interface := ⟨Call, Call.Answer⟩

/-- An answer and the time until it arrives. -/
structure Timed (α : Type) where
  delay : Duration
  value : α

/-- Of the appliances found under a name, the only one. -/
def only (name : String) : List Appliance → Except ProviderError (Option Appliance)
  | [] => .ok none
  | [a] => .ok (some a)
  | _ => .error (.ambiguous name)

end Provider

/-- A provider whose state has type `σ`. -/
structure Provider (σ : Type) where
  /-- Bound for waits on the state of an appliance. -/
  waitTimeout : Duration
  /-- Time between two looks at the state of an appliance. -/
  pollInterval : Duration
  /-- The answer to a call made at some time. -/
  answer : Instant → (call : Provider.Call) → σ → Provider.Timed call.Answer × σ

namespace Provider

/-- The appliance that an order gives. -/
def create (order : ApplianceOrder) : ExceptT ProviderError (Program interface) Appliance :=
  Program.attempt (I := interface) (Call.create order)

/-- The one appliance with a name. -/
def findOne (name : String) : ExceptT ProviderError (Program interface) (Option Appliance) := do
  let found ← Program.attempt (I := interface) (Call.find name)
  ExceptT.mk (pure (only name found))

end Provider
end ServiceBroker

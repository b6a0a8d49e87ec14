/-
# What is known of an instance

An instance is an appliance seen next to the parameters of a request for it, a binding
the credentials on record.
-/

import ServiceBroker.Appliance
import ServiceBroker.Connection
import ServiceBroker.Parameters

namespace ServiceBroker

/-- An appliance, and the parameters that a request asks for. -/
structure InstanceState where
  appliance : Appliance
  requested : Option Parameters := none
deriving DecidableEq, Repr

namespace InstanceState

/-- The network attributes of an appliance are not those of the parameters. -/
def differs (p : Parameters) (a : Appliance) : Bool :=
  p.switchId ≠ a.switchId || some p.ipAddress ≠ a.ipAddress || p.maskLength ≠ a.maskLength ||
    some p.defaultRoute ≠ a.defaultRoute

/-- The network attributes are not those asked for; without a request there is no difference. -/
def hasDiff (s : InstanceState) : Bool := s.requested.any (differs · s.appliance)

def isUp (s : InstanceState) : Bool := s.appliance.isUp

def isDown (s : InstanceState) : Bool := s.appliance.isDown

def isFailed (s : InstanceState) : Bool := s.appliance.isFailed

def isMigrating (s : InstanceState) : Bool := s.appliance.isMigrating

end InstanceState

/-- A binding on record. -/
structure BindingState where
  credentials : Credentials
deriving DecidableEq, Repr

/-- A binding has no attributes that a request could ask for differently. -/
def BindingState.hasDiff (_ : BindingState) : Bool := false

end ServiceBroker

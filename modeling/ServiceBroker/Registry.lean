/-
# The handlers on offer

For each service that a broker serves, what handles its plans.
-/

import ServiceBroker.Handler.Database

namespace ServiceBroker

/-- The handler of an engine for a plan of its service. -/
def Engine.handler? (engine : Engine) (planId : String) : Option DatabaseHandler :=
  (engine.planSize? planId).map (⟨engine, ·⟩)

/-- The services that are served, each with what handles its plans. -/
structure Registry where
  services : List (String × (String → Option DatabaseHandler)) := []

namespace Registry

/-- The registry of this broker: the service of each engine. -/
def databases : Registry := ⟨Engine.all.map fun engine => (engine.serviceId, engine.handler?)⟩

/-- The handler for a service and a plan of it; there is none for an empty identifier. -/
def handler? (registry : Registry) (serviceId planId : String) : Option DatabaseHandler :=
  if serviceId = "" ∨ planId = "" then none
  else (registry.services.lookup serviceId).bind (· planId)

end Registry

/-- The handler of this broker for a service and a plan of it. -/
def DatabaseHandler.forOffer? (serviceId planId : String) : Option DatabaseHandler :=
  Registry.databases.handler? serviceId planId

end ServiceBroker

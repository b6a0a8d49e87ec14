/-
# The catalog

The document that tells a platform which services and plans there are, and look-ups
in it.  Parts that a document may leave out are options here.
-/

import ServiceBroker.Json.Value

namespace ServiceBroker

/-- The schema of the parameters of one kind of request. -/
structure ParameterSchema where
  parameters : Option Json := none
deriving Repr, Inhabited, BEq

/-- The schemas of requests about an instance. -/
structure InstanceSchemas where
  create : Option ParameterSchema := none
  update : Option ParameterSchema := none
deriving Repr, Inhabited, BEq

/-- The schemas of requests about a binding. -/
structure BindingSchemas where
  create : Option ParameterSchema := none
deriving Repr, Inhabited, BEq

/-- The schemas of a plan. -/
structure Schemas where
  instances : Option InstanceSchemas := none
  bindings : Option BindingSchemas := none
deriving Repr, Inhabited, BEq

/-- A plan of a service as a catalog shows it. -/
structure CatalogPlan where
  id : String
  name : String
  description : String
  metadata : Option (List (String × Json)) := none
  free : Bool
  bindable : Bool
  schemas : Option Schemas := none
deriving Repr, Inhabited, BEq

/-- A service as a catalog shows it. -/
structure CatalogService where
  name : String
  id : String
  description : String
  tags : List String := []
  permissions : List String := []
  bindable : Bool
  metadata : Option (List (String × Json)) := none
  planUpdateable : Bool := false
  plans : List CatalogPlan
deriving Repr, Inhabited, BEq

/-- The services on offer. -/
structure Catalog where
  services : List CatalogService
deriving Repr, Inhabited, BEq

namespace Catalog

/-- The first service with an identifier. -/
def service? (catalog : Catalog) (id : String) : Option CatalogService :=
  catalog.services.find? (·.id = id)

end Catalog

/-- The first plan of a service with an identifier. -/
def CatalogService.plan? (service : CatalogService) (id : String) : Option CatalogPlan :=
  service.plans.find? (·.id = id)

end ServiceBroker

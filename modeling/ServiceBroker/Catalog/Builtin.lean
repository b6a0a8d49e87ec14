/-
# The catalog of this broker

One service for each database engine, with the engine's storage plans.  Every plan
carries the schema of the parameters with which an instance is created.
-/

import ServiceBroker.Catalog.Basic
import ServiceBroker.Engine

namespace ServiceBroker

/-- The JSON schema of the parameters with which an instance is created. -/
def createParametersSchema : Json :=
  let kind (name : String) : Json := .object [("type", .string name)]
  .object [
    ("$schema", .string "http://json-schema.org/draft-04/schema#"),
    ("additionalProperties", .bool false),
    ("properties", .object [
      ("allowNetworks", .object [("items", kind "string"), ("type", .string "array")]),
      ("backupTime", kind "string"),
      ("defaultRoute", kind "string"),
      ("ipaddress", kind "string"),
      ("maskLen", kind "integer"),
      ("port", kind "integer"),
      ("switchID", kind "integer"),
      ("username", kind "string")]),
    ("type", .string "object")]

/-- A storage plan as the catalog shows it. -/
def CatalogPlan.ofStorage (id name description : String) : CatalogPlan where
  id
  name
  description
  metadata := some []
  free := false
  bindable := true
  schemas := some {
    instances := some { create := some ⟨some createParametersSchema⟩ }
    bindings := some { create := some {} } }

namespace Engine

/-- The service of an engine as the catalog shows it. -/
def catalogService (engine : Engine) : CatalogService where
  name := match engine with
    | .mariaDb => "sacloud-mariadb"
    | .postgreSql => "sacloud-postgres"
  id := engine.serviceId
  description := match engine with
    | .mariaDb => "SAKURA Cloud Database appliance(MariaDB)"
    | .postgreSql => "SAKURA Cloud Database appliance(PostgreSQL)"
  tags := ["database", match engine with
    | .mariaDb => "mariadb"
    | .postgreSql => "postgres"]
  permissions := []
  bindable := true
  metadata := some []
  planUpdateable := false
  plans := (engine.planIds.zip planSizes).map fun (id, name, _, description) =>
    .ofStorage id name description

end Engine

/-- The services of this broker. -/
def Catalog.builtin : Catalog := ⟨Engine.all.map (·.catalogService)⟩

/-- Each engine's service is found under its identifier. -/
theorem Catalog.service?_serviceId (engine : Engine) :
    Catalog.builtin.service? engine.serviceId = some engine.catalogService := by
  cases engine <;> rfl

end ServiceBroker

/-
# The catalog as a document

Reading a catalog from JSON and writing it.  What a document may leave out is not
written when it is not set, and `plan_updateable` only when it is true.
-/

import ServiceBroker.Catalog.Basic
import ServiceBroker.Json.Shape
import ServiceBroker.Json.Fields

namespace ServiceBroker

open Json (Shape)

namespace ParameterSchema

def shape : Shape := .record [("parameters", .any)]

/-- A member that is there, `null` or not, but counts as unset when `null`. -/
def ofJson? (v : Json) : Option ParameterSchema := do
  let fields ← v.fields? ["parameters"]
  return ⟨← fields.optional "parameters" some⟩

def toJson (schema : ParameterSchema) : Json := .present [("parameters", schema.parameters)]

end ParameterSchema

namespace InstanceSchemas

def shape : Shape :=
  .record [("create", ParameterSchema.shape), ("update", ParameterSchema.shape)]

def ofJson? (v : Json) : Option InstanceSchemas := do
  let fields ← v.fields? ["create", "update"]
  return ⟨← fields.optional "create" ParameterSchema.ofJson?,
    ← fields.optional "update" ParameterSchema.ofJson?⟩

def toJson (schemas : InstanceSchemas) : Json :=
  .present [("create", schemas.create.map (·.toJson)), ("update", schemas.update.map (·.toJson))]

end InstanceSchemas

namespace BindingSchemas

def shape : Shape := .record [("create", ParameterSchema.shape)]

def ofJson? (v : Json) : Option BindingSchemas := do
  let fields ← v.fields? ["create"]
  return ⟨← fields.optional "create" ParameterSchema.ofJson?⟩

def toJson (schemas : BindingSchemas) : Json :=
  .present [("create", schemas.create.map (·.toJson))]

end BindingSchemas

namespace Schemas

def shape : Shape :=
  .record [("service_instance", InstanceSchemas.shape), ("service_binding", BindingSchemas.shape)]

def ofJson? (v : Json) : Option Schemas := do
  let fields ← v.fields? ["service_instance", "service_binding"]
  return ⟨← fields.optional "service_instance" InstanceSchemas.ofJson?,
    ← fields.optional "service_binding" BindingSchemas.ofJson?⟩

def toJson (schemas : Schemas) : Json :=
  .present [("service_binding", schemas.bindings.map (·.toJson)),
    ("service_instance", schemas.instances.map (·.toJson))]

end Schemas

namespace CatalogPlan

/-- The fields of a plan in order of declaration. -/
def fieldShapes : List (String × Shape) :=
  [("id", .any), ("name", .any), ("description", .any), ("metadata", .any), ("free", .any),
    ("bindable", .any), ("schemas", Schemas.shape)]

def shape : Shape := .record fieldShapes

def ofJson? (v : Json) : Option CatalogPlan := do
  let fields ← v.fields? (fieldShapes.map (·.1))
  return {
    id := ← fields.required "id" Json.string?
    name := ← fields.required "name" Json.string?
    description := ← fields.required "description" Json.string?
    metadata := ← fields.optional "metadata" Json.members?
    free := ← fields.required "free" Json.bool?
    bindable := ← fields.required "bindable" Json.bool?
    schemas := ← fields.optional "schemas" Schemas.ofJson? }

def toJson (plan : CatalogPlan) : Json :=
  .present [
    ("bindable", some (.bool plan.bindable)),
    ("description", some (.string plan.description)),
    ("free", some (.bool plan.free)),
    ("id", some (.string plan.id)),
    ("metadata", plan.metadata.map .object),
    ("name", some (.string plan.name)),
    ("schemas", plan.schemas.map (·.toJson))]

end CatalogPlan

namespace CatalogService

/-- The fields of a service in order of declaration. -/
def fieldShapes : List (String × Shape) :=
  [("name", .any), ("id", .any), ("description", .any), ("tags", .any), ("requires", .any),
    ("bindable", .any), ("metadata", .any), ("plan_updateable", .any),
    ("plans", .list CatalogPlan.shape)]

def shape : Shape := .record fieldShapes

def ofJson? (v : Json) : Option CatalogService := do
  let fields ← v.fields? (fieldShapes.map (·.1))
  return {
    name := ← fields.required "name" Json.string?
    id := ← fields.required "id" Json.string?
    description := ← fields.required "description" Json.string?
    tags := ← fields.orElse "tags" [] Json.strings?
    permissions := ← fields.orElse "requires" [] Json.strings?
    bindable := ← fields.required "bindable" Json.bool?
    metadata := ← fields.optional "metadata" Json.members?
    planUpdateable := ← fields.orElse "plan_updateable" false Json.bool?
    plans := ← fields.required "plans" (Json.list? CatalogPlan.ofJson?) }

def toJson (service : CatalogService) : Json :=
  .present [
    ("bindable", some (.bool service.bindable)),
    ("description", some (.string service.description)),
    ("id", some (.string service.id)),
    ("metadata", service.metadata.map .object),
    ("name", some (.string service.name)),
    ("plan_updateable", if service.planUpdateable then some (.bool true) else none),
    ("plans", some (.array (service.plans.map (·.toJson)))),
    ("requires", some (.ofStrings service.permissions)),
    ("tags", some (.ofStrings service.tags))]

end CatalogService

namespace Catalog

def shape : Shape := .record [("services", .list CatalogService.shape)]

/-- The catalog that a value describes. -/
def ofJson? (v : Json) : Option Catalog := do
  let fields ← v.fields? ["services"]
  return ⟨← fields.required "services" (Json.list? CatalogService.ofJson?)⟩

/-- The catalog that a text describes. -/
def parse? (text : Bytes) : Option Catalog := (Json.parseAs? shape text).bind ofJson?

/-- The document of a catalog. -/
def toJson (catalog : Catalog) : Json :=
  .present [("services", some (.array (catalog.services.map (·.toJson))))]

end Catalog
end ServiceBroker

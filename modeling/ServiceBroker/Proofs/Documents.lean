/-
# A catalog comes back from its document

A catalog is read from records in either form, with members that are left out or `null`, and written
as objects in which just what is not set is left out.  What was read is read again from what is
written for it (`Catalog.ofJson?_toJson`): every part that is left out is read as not set, and none
that is set is written as `null`.  The latter would fail of the schema `null`, which no document
gives, because such a member counts as left out.

Which parts are left out is said record by record (`Catalog.Written`).  The text of what is written
is read again too: no part is deeper in it than where it was read (`Catalog.readable_toJson`), and
it consists of what a reader of a text looks at (`Catalog.fits_toJson`).
-/

import ServiceBroker.Catalog.Document
import ServiceBroker.Proofs.Fields

namespace ServiceBroker

variable {v : Json}

/-! ### Records as they are read -/

/-- What a schema is read from. -/
theorem ParameterSchema.ofJson?_eq_some_iff {schema : ParameterSchema} :
    ofJson? v = some schema ↔ ∃ fields, v.fields? ["parameters"] = some fields ∧
      fields.optional "parameters" some = some schema.parameters := by
  obtain ⟨parameters⟩ := schema
  simp [ofJson?, Option.bind_eq_some_iff]

/-- What the schemas for an instance are read from. -/
theorem InstanceSchemas.ofJson?_eq_some_iff {schemas : InstanceSchemas} :
    ofJson? v = some schemas ↔ ∃ fields, v.fields? ["create", "update"] = some fields ∧
      fields.optional "create" ParameterSchema.ofJson? = some schemas.create ∧
      fields.optional "update" ParameterSchema.ofJson? = some schemas.update := by
  obtain ⟨create, update⟩ := schemas
  simp [ofJson?, Option.bind_eq_some_iff]

/-- What the schema for a binding is read from. -/
theorem BindingSchemas.ofJson?_eq_some_iff {schemas : BindingSchemas} :
    ofJson? v = some schemas ↔ ∃ fields, v.fields? ["create"] = some fields ∧
      fields.optional "create" ParameterSchema.ofJson? = some schemas.create := by
  obtain ⟨create⟩ := schemas
  simp [ofJson?, Option.bind_eq_some_iff]

/-- What the schemas of a plan are read from. -/
theorem Schemas.ofJson?_eq_some_iff {schemas : Schemas} :
    ofJson? v = some schemas ↔
      ∃ fields, v.fields? ["service_instance", "service_binding"] = some fields ∧
        fields.optional "service_instance" InstanceSchemas.ofJson? = some schemas.instances ∧
        fields.optional "service_binding" BindingSchemas.ofJson? = some schemas.bindings := by
  obtain ⟨instances, bindings⟩ := schemas
  simp [ofJson?, Option.bind_eq_some_iff]

/-- What a plan is read from, member by member. -/
theorem CatalogPlan.ofJson?_eq_some_iff {plan : CatalogPlan} :
    ofJson? v = some plan ↔ ∃ fields, v.fields? (fieldShapes.map (·.1)) = some fields ∧
      fields.required "id" Json.string? = some plan.id ∧
      fields.required "name" Json.string? = some plan.name ∧
      fields.required "description" Json.string? = some plan.description ∧
      fields.optional "metadata" Json.members? = some plan.metadata ∧
      fields.required "free" Json.bool? = some plan.free ∧
      fields.required "bindable" Json.bool? = some plan.bindable ∧
      fields.optional "schemas" Schemas.ofJson? = some plan.schemas := by
  simp only [ofJson?, Option.bind_eq_bind, Option.bind_eq_some_iff, Option.pure_def,
    Option.some.injEq]
  constructor
  · rintro ⟨fields, told, _, id, _, name, _, description, _, metadata, _, free, _, bindable, _,
      schemas, rfl⟩
    exact ⟨fields, told, id, name, description, metadata, free, bindable, schemas⟩
  · rintro ⟨fields, told, id, name, description, metadata, free, bindable, schemas⟩
    exact ⟨fields, told, _, id, _, name, _, description, _, metadata, _, free, _, bindable, _,
      schemas, rfl⟩

/-- What a service is read from, member by member. -/
theorem CatalogService.ofJson?_eq_some_iff {service : CatalogService} :
    ofJson? v = some service ↔ ∃ fields, v.fields? (fieldShapes.map (·.1)) = some fields ∧
      fields.required "name" Json.string? = some service.name ∧
      fields.required "id" Json.string? = some service.id ∧
      fields.required "description" Json.string? = some service.description ∧
      fields.orElse "tags" [] Json.strings? = some service.tags ∧
      fields.orElse "requires" [] Json.strings? = some service.permissions ∧
      fields.required "bindable" Json.bool? = some service.bindable ∧
      fields.optional "metadata" Json.members? = some service.metadata ∧
      fields.orElse "plan_updateable" false Json.bool? = some service.planUpdateable ∧
      fields.required "plans" (Json.list? CatalogPlan.ofJson?) = some service.plans := by
  simp only [ofJson?, Option.bind_eq_bind, Option.bind_eq_some_iff, Option.pure_def,
    Option.some.injEq]
  constructor
  · rintro ⟨fields, told, _, name, _, id, _, description, _, tags, _, permissions, _, bindable, _,
      metadata, _, updateable, _, plans, rfl⟩
    exact ⟨fields, told, name, id, description, tags, permissions, bindable, metadata, updateable,
      plans⟩
  · rintro ⟨fields, told, name, id, description, tags, permissions, bindable, metadata,
      updateable, plans⟩
    exact ⟨fields, told, _, name, _, id, _, description, _, tags, _, permissions, _, bindable, _,
      metadata, _, updateable, _, plans, rfl⟩

/-- What a catalog is read from. -/
theorem Catalog.ofJson?_eq_some_iff {catalog : Catalog} :
    ofJson? v = some catalog ↔ ∃ fields, v.fields? ["services"] = some fields ∧
      fields.required "services" (Json.list? CatalogService.ofJson?) = some catalog.services := by
  obtain ⟨services⟩ := catalog
  simp [ofJson?, Option.bind_eq_some_iff]

/-! ### What was read is read again -/

open Json (member?_present fields?_present)
open Json.Fields (required_of_eq orElse_of_eq orElse_of_none optional_of_eq optional_again
  of_optional list_again)

/-- The value `null` is never a schema that was read, so a schema that is set is written. -/
theorem ParameterSchema.ofJson?_toJson {schema : ParameterSchema}
    (decoded : ofJson? v = some schema) : ofJson? schema.toJson = some schema := by
  obtain ⟨fields, -, said⟩ := ofJson?_eq_some_iff.1 decoded
  refine ofJson?_eq_some_iff.2 ⟨_, fields?_present _ _, ?_⟩
  have there : schema.toJson.member? "parameters" = schema.parameters.map id := by
    rw [Option.map_id]
    exact member?_present (by simp) (by simp)
  refine optional_of_eq there fun w set => ?_
  rw [set] at said
  obtain ⟨_, -, nonnull, is⟩ := of_optional said
  cases is
  exact ⟨nonnull, rfl⟩

/-- The schemas for an instance that were read are read back. -/
theorem InstanceSchemas.ofJson?_toJson {schemas : InstanceSchemas}
    (decoded : ofJson? v = some schemas) : ofJson? schemas.toJson = some schemas := by
  obtain ⟨fields, -, create, update⟩ := ofJson?_eq_some_iff.1 decoded
  refine ofJson?_eq_some_iff.2 ⟨_, fields?_present _ _, ?_, ?_⟩
  · exact optional_again create (fun _ _ => ParameterSchema.ofJson?_toJson)
      (fun _ => ⟨_, rfl⟩) (by simp) (by simp)
  · exact optional_again update (fun _ _ => ParameterSchema.ofJson?_toJson)
      (fun _ => ⟨_, rfl⟩) (by simp) (by simp)

/-- The schema for a binding that was read is read back. -/
theorem BindingSchemas.ofJson?_toJson {schemas : BindingSchemas}
    (decoded : ofJson? v = some schemas) : ofJson? schemas.toJson = some schemas := by
  obtain ⟨fields, -, create⟩ := ofJson?_eq_some_iff.1 decoded
  refine ofJson?_eq_some_iff.2 ⟨_, fields?_present _ _, ?_⟩
  exact optional_again create (fun _ _ => ParameterSchema.ofJson?_toJson)
      (fun _ => ⟨_, rfl⟩) (by simp) (by simp)

/-- The schemas of a plan that were read are read back. -/
theorem Schemas.ofJson?_toJson {schemas : Schemas} (decoded : ofJson? v = some schemas) :
    ofJson? schemas.toJson = some schemas := by
  obtain ⟨fields, -, instances, bindings⟩ := ofJson?_eq_some_iff.1 decoded
  refine ofJson?_eq_some_iff.2 ⟨_, fields?_present _ _, ?_, ?_⟩
  · exact optional_again instances (fun _ _ => InstanceSchemas.ofJson?_toJson)
      (fun _ => ⟨_, rfl⟩) (by simp) (by simp)
  · exact optional_again bindings (fun _ _ => BindingSchemas.ofJson?_toJson)
      (fun _ => ⟨_, rfl⟩) (by simp) (by simp)

/-- A plan that was read is read back. -/
theorem CatalogPlan.ofJson?_toJson {plan : CatalogPlan} (decoded : ofJson? v = some plan) :
    ofJson? plan.toJson = some plan := by
  obtain ⟨fields, -, -, -, -, metadata, -, -, schemas⟩ := ofJson?_eq_some_iff.1 decoded
  refine ofJson?_eq_some_iff.2 ⟨_, fields?_present _ _, ?_, ?_, ?_, ?_, ?_, ?_, ?_⟩
  · exact required_of_eq (w := .string plan.id) (member?_present (by simp) (by simp)) rfl
  · exact required_of_eq (w := .string plan.name) (member?_present (by simp) (by simp)) rfl
  · exact required_of_eq (w := .string plan.description) (member?_present (by simp) (by simp)) rfl
  · exact optional_again (f := .object) metadata (fun _ _ _ => rfl) (fun _ => ⟨_, rfl⟩)
      (by simp) (by simp)
  · exact required_of_eq (w := .bool plan.free) (member?_present (by simp) (by simp)) rfl
  · exact required_of_eq (w := .bool plan.bindable) (member?_present (by simp) (by simp)) rfl
  · exact optional_again schemas (fun _ _ => Schemas.ofJson?_toJson)
      (fun _ => ⟨_, rfl⟩) (by simp) (by simp)

/-- A service that was read is read back. -/
theorem CatalogService.ofJson?_toJson {service : CatalogService}
    (decoded : ofJson? v = some service) : ofJson? service.toJson = some service := by
  obtain ⟨fields, -, -, -, -, -, -, -, metadata, -, plans⟩ := ofJson?_eq_some_iff.1 decoded
  refine ofJson?_eq_some_iff.2 ⟨_, fields?_present _ _, ?_, ?_, ?_, ?_, ?_, ?_, ?_, ?_, ?_⟩
  · exact required_of_eq (w := .string service.name) (member?_present (by simp) (by simp)) rfl
  · exact required_of_eq (w := .string service.id) (member?_present (by simp) (by simp)) rfl
  · exact required_of_eq (w := .string service.description) (member?_present (by simp) (by simp))
      rfl
  · exact orElse_of_eq (w := .ofStrings service.tags) (member?_present (by simp) (by simp))
      (Json.strings?_ofStrings _)
  · exact orElse_of_eq (w := .ofStrings service.permissions) (member?_present (by simp) (by simp))
      (Json.strings?_ofStrings _)
  · exact required_of_eq (w := .bool service.bindable) (member?_present (by simp) (by simp)) rfl
  · exact optional_again (f := .object) metadata (fun _ _ _ => rfl) (fun _ => ⟨_, rfl⟩)
      (by simp) (by simp)
  · cases service.planUpdateable with
    | false => exact orElse_of_none false (member?_present (by simp) (by simp))
    | true => exact orElse_of_eq (w := .bool true) (member?_present (by simp) (by simp)) rfl
  · exact list_again plans (fun _ _ => CatalogPlan.ofJson?_toJson) (by simp) (by simp)

/-- A catalog that was read is read back. -/
theorem Catalog.ofJson?_toJson {catalog : Catalog} (decoded : ofJson? v = some catalog) :
    ofJson? catalog.toJson = some catalog := by
  obtain ⟨fields, -, services⟩ := ofJson?_eq_some_iff.1 decoded
  refine ofJson?_eq_some_iff.2 ⟨_, fields?_present _ _, ?_⟩
  exact list_again services (fun _ _ => CatalogService.ofJson?_toJson) (by simp) (by simp)

/-! ### What is left out -/

/-- A schema is in the document just if there is one. -/
structure ParameterSchema.Written (schema : ParameterSchema) (v : Json) : Prop where
  parameters : v.member? "parameters" = schema.parameters

/-- A schema is written just if there is one. -/
theorem ParameterSchema.written_toJson (schema : ParameterSchema) :
    schema.Written schema.toJson where
  parameters := member?_present (by simp) (by simp)

/-- The schemas for an instance are in the document just as far as there are any. -/
structure InstanceSchemas.Written (schemas : InstanceSchemas) (v : Json) : Prop where
  create : Option.Rel ParameterSchema.Written schemas.create (v.member? "create")
  update : Option.Rel ParameterSchema.Written schemas.update (v.member? "update")

/-- The schemas for an instance are written just as far as there are any. -/
theorem InstanceSchemas.written_toJson (schemas : InstanceSchemas) :
    schemas.Written schemas.toJson where
  create := Json.rel_member? ParameterSchema.written_toJson (by simp) (by simp)
  update := Json.rel_member? ParameterSchema.written_toJson (by simp) (by simp)

/-- The schema for a binding is in the document just if there is one. -/
structure BindingSchemas.Written (schemas : BindingSchemas) (v : Json) : Prop where
  create : Option.Rel ParameterSchema.Written schemas.create (v.member? "create")

/-- The schema for a binding is written just if there is one. -/
theorem BindingSchemas.written_toJson (schemas : BindingSchemas) :
    schemas.Written schemas.toJson where
  create := Json.rel_member? ParameterSchema.written_toJson (by simp) (by simp)

/-- The schemas of a plan are in the document just as far as there are any. -/
structure Schemas.Written (schemas : Schemas) (v : Json) : Prop where
  instances : Option.Rel InstanceSchemas.Written schemas.instances (v.member? "service_instance")
  bindings : Option.Rel BindingSchemas.Written schemas.bindings (v.member? "service_binding")

/-- The schemas of a plan are written just as far as there are any. -/
theorem Schemas.written_toJson (schemas : Schemas) : schemas.Written schemas.toJson where
  instances := Json.rel_member? InstanceSchemas.written_toJson (by simp) (by simp)
  bindings := Json.rel_member? BindingSchemas.written_toJson (by simp) (by simp)

/-- Metadata and schemas of a plan are in the document just if there are any. -/
structure CatalogPlan.Written (plan : CatalogPlan) (v : Json) : Prop where
  metadata : v.member? "metadata" = plan.metadata.map .object
  schemas : Option.Rel Schemas.Written plan.schemas (v.member? "schemas")

/-- Metadata and schemas of a plan are written just if there are any. -/
theorem CatalogPlan.written_toJson (plan : CatalogPlan) : plan.Written plan.toJson where
  metadata := member?_present (by simp) (by simp)
  schemas := Json.rel_member? Schemas.written_toJson (by simp) (by simp)

/-- The metadata of a service is in the document just if there is any, and that plans can be changed
just if they can. -/
structure CatalogService.Written (service : CatalogService) (v : Json) : Prop where
  metadata : v.member? "metadata" = service.metadata.map .object
  updateable : v.member? "plan_updateable" =
    if service.planUpdateable then some (.bool true) else none
  plans : ∃ plans, v.member? "plans" = some (.array plans) ∧
    List.Forall₂ CatalogPlan.Written service.plans plans

/-- A service is written with what it has. -/
theorem CatalogService.written_toJson (service : CatalogService) :
    service.Written service.toJson where
  metadata := member?_present (by simp) (by simp)
  updateable := member?_present (by simp) (by simp)
  plans := ⟨_, member?_present (by simp) (by simp),
    Json.forall₂_map CatalogPlan.written_toJson service.plans⟩

/-- Every service is in the document, each with what it has. -/
structure Catalog.Written (catalog : Catalog) (v : Json) : Prop where
  services : ∃ services, v.member? "services" = some (.array services) ∧
    List.Forall₂ CatalogService.Written catalog.services services

/-- A catalog is written service by service. -/
theorem Catalog.written_toJson (catalog : Catalog) : catalog.Written catalog.toJson where
  services := ⟨_, member?_present (by simp) (by simp),
    Json.forall₂_map CatalogService.written_toJson catalog.services⟩

/-! ### The text of a catalog -/

open Json (Readable Fits readable_present fits_present)
open Json.Fields (readable_optional)

section Texts

variable {depth : Nat}

/-- A schema that was read is written so that it can be read. -/
theorem ParameterSchema.readable_toJson {schema : ParameterSchema} (h : Readable depth v)
    (decoded : ofJson? v = some schema) : Readable depth schema.toJson := by
  obtain ⟨fields, told, said⟩ := ofJson?_eq_some_iff.1 decoded
  obtain ⟨d, rfl, inner⟩ := h.fields told
  have parameters := readable_optional (f := id) said inner fun v x h is => Option.some.inj is ▸ h
  refine readable_present (by decide : ["parameters"].Pairwise (· < ·)) rfl ?_
  simpa using parameters

/-- The schemas for an instance that were read are written so that they can be read. -/
theorem InstanceSchemas.readable_toJson {schemas : InstanceSchemas} (h : Readable depth v)
    (decoded : ofJson? v = some schemas) : Readable depth schemas.toJson := by
  obtain ⟨fields, told, create, update⟩ := ofJson?_eq_some_iff.1 decoded
  obtain ⟨d, rfl, inner⟩ := h.fields told
  have create := readable_optional create inner fun _ _ => ParameterSchema.readable_toJson
  have update := readable_optional update inner fun _ _ => ParameterSchema.readable_toJson
  refine readable_present (by decide : ["create", "update"].Pairwise (· < ·)) rfl ?_
  simpa using ⟨create, update⟩

/-- The schema for a binding that was read is written so that it can be read. -/
theorem BindingSchemas.readable_toJson {schemas : BindingSchemas} (h : Readable depth v)
    (decoded : ofJson? v = some schemas) : Readable depth schemas.toJson := by
  obtain ⟨fields, told, create⟩ := ofJson?_eq_some_iff.1 decoded
  obtain ⟨d, rfl, inner⟩ := h.fields told
  have create := readable_optional create inner fun _ _ => ParameterSchema.readable_toJson
  refine readable_present (by decide : ["create"].Pairwise (· < ·)) rfl ?_
  simpa using create

/-- The schemas of a plan that were read are written so that they can be read. -/
theorem Schemas.readable_toJson {schemas : Schemas} (h : Readable depth v)
    (decoded : ofJson? v = some schemas) : Readable depth schemas.toJson := by
  obtain ⟨fields, told, instances, bindings⟩ := ofJson?_eq_some_iff.1 decoded
  obtain ⟨d, rfl, inner⟩ := h.fields told
  have instances := readable_optional instances inner fun _ _ => InstanceSchemas.readable_toJson
  have bindings := readable_optional bindings inner fun _ _ => BindingSchemas.readable_toJson
  refine readable_present (by decide :
    ["service_binding", "service_instance"].Pairwise (· < ·)) rfl ?_
  simpa using ⟨bindings, instances⟩

/-- A plan that was read is written so that it can be read. -/
theorem CatalogPlan.readable_toJson {plan : CatalogPlan} (h : Readable depth v)
    (decoded : ofJson? v = some plan) : Readable depth plan.toJson := by
  obtain ⟨fields, told, -, -, -, metadata, -, -, schemas⟩ := ofJson?_eq_some_iff.1 decoded
  obtain ⟨d, rfl, inner⟩ := h.fields told
  have metadata := readable_optional metadata inner fun _ _ => Json.readable_members
  have schemas := readable_optional schemas inner fun _ _ => Schemas.readable_toJson
  refine readable_present (by decide : ["bindable", "description", "free", "id", "metadata",
    "name", "schemas"].Pairwise (· < ·)) rfl ?_
  simpa [Readable.bool, Readable.string] using ⟨metadata, schemas⟩

/-- A service that was read is written so that it can be read. -/
theorem CatalogService.readable_toJson {service : CatalogService} (h : Readable depth v)
    (decoded : ofJson? v = some service) : Readable depth service.toJson := by
  obtain ⟨fields, told, -, -, -, -, -, -, metadata, -, plans⟩ := ofJson?_eq_some_iff.1 decoded
  obtain ⟨d, rfl, inner⟩ := h.fields told
  have metadata := readable_optional metadata inner fun _ _ => Json.readable_members
  obtain ⟨w, there, said⟩ := Option.bind_eq_some_iff.1 plans
  -- the texts of a service are a list in its object, just as its plans are
  obtain ⟨d, rfl, plans⟩ := Json.readable_list (inner _ w there) said fun _ _ _ =>
    CatalogPlan.readable_toJson
  refine readable_present (by decide : ["bindable", "description", "id", "metadata", "name",
    "plan_updateable", "plans", "requires", "tags"].Pairwise (· < ·)) rfl ?_
  simpa [Readable.bool, Readable.string, Json.readable_ofStrings] using ⟨metadata, plans⟩

/-- A catalog that was read is written so that it can be read. -/
theorem Catalog.readable_toJson {catalog : Catalog} (h : Readable depth v)
    (decoded : ofJson? v = some catalog) : Readable depth catalog.toJson := by
  obtain ⟨fields, told, services⟩ := ofJson?_eq_some_iff.1 decoded
  obtain ⟨d, rfl, inner⟩ := h.fields told
  obtain ⟨w, there, said⟩ := Option.bind_eq_some_iff.1 services
  obtain ⟨-, -, services⟩ := Json.readable_list (inner _ w there) said fun _ _ _ =>
    CatalogService.readable_toJson
  refine readable_present (by decide : ["services"].Pairwise (· < ·)) rfl ?_
  simpa using services

/-- A schema is written in its shape. -/
theorem ParameterSchema.fits_toJson (schema : ParameterSchema) : Fits shape schema.toJson :=
  fits_present (by simp [Fits.any])

/-- The schemas for an instance are written in their shape. -/
theorem InstanceSchemas.fits_toJson (schemas : InstanceSchemas) : Fits shape schemas.toJson :=
  fits_present (by simp [ParameterSchema.fits_toJson, List.lookup_cons])

/-- The schema for a binding is written in its shape. -/
theorem BindingSchemas.fits_toJson (schemas : BindingSchemas) : Fits shape schemas.toJson :=
  fits_present (by simp [ParameterSchema.fits_toJson])

/-- The schemas of a plan are written in their shape. -/
theorem Schemas.fits_toJson (schemas : Schemas) : Fits shape schemas.toJson :=
  fits_present (by simp [InstanceSchemas.fits_toJson, BindingSchemas.fits_toJson, List.lookup_cons])

/-- A plan is written in its shape. -/
theorem CatalogPlan.fits_toJson (plan : CatalogPlan) : Fits shape plan.toJson :=
  fits_present (by simp [fieldShapes, Fits.any, Schemas.fits_toJson, List.lookup_cons])

/-- A service is written in its shape. -/
theorem CatalogService.fits_toJson (service : CatalogService) : Fits shape service.toJson :=
  fits_present (by
    simp [fieldShapes, Fits.any, Json.fits_list _ CatalogPlan.fits_toJson, List.lookup_cons])

/-- A catalog is written in its shape. -/
theorem Catalog.fits_toJson (catalog : Catalog) : Fits shape catalog.toJson :=
  fits_present (by simp [Json.fits_list _ CatalogService.fits_toJson])

end Texts

namespace Catalog

variable {catalog : Catalog}

/-- **A catalog comes back from its document**, as a value and as its text, and what the document
leaves out is just what the catalog does not have. -/
theorem comes_back (decoded : ofJson? v = some catalog) :
    ofJson? catalog.toJson = some catalog ∧
    (ofJson? catalog.toJson).map (·.toJson) = some catalog.toJson ∧
    catalog.Written catalog.toJson ∧
    (Readable Json.Document.maxDepth v →
      parse? (Bytes.ofText catalog.toJson.text) = some catalog) := by
  have again := ofJson?_toJson decoded
  refine ⟨again, by rw [again, Option.map_some], written_toJson catalog, fun readable => ?_⟩
  have value := Json.parseAs?_text (readable_toJson readable decoded) (fits_toJson catalog)
  rw [parse?, value, Option.bind_some, again]

/-- A document with records in either form, and with members that are left out, `null` or
unknown. -/
def spelled : Json :=
  .object [("services", .array [.array [.string "db", .string "s", .string "é", .array [],
    .ofStrings ["syslog"], .bool true, .null, .bool false, .array [
      .array [.string "p", .string "small", .string "", .object [("cost", .integer 5)],
        .bool true, .bool true],
      .object [("bindable", .bool true), ("description", .string "\"\n"), ("free", .bool false),
        ("id", .string "q"), ("metadata", .null), ("name", .string "large"), ("schemas", .array [
          .object [("create", .array [.null]), ("update", .null)],
          .array [.array [.object [("type", .array [])]]]]), ("zone", .null)]]]])]

/-- The document can be read. -/
theorem readable_spelled : Readable Json.Document.maxDepth spelled := by
  have five {depth : Nat} : Readable depth (.integer 5) := .integer (by decide)
  rw [spelled, Json.Document.maxDepth]
  simp only [Json.readable_array_iff, Json.readable_object_iff, Json.ofStrings, List.map_cons,
    List.map_nil, List.forall_mem_cons, List.not_mem_nil, IsEmpty.forall_iff, implies_true,
    Readable.null, Readable.bool, Readable.string, five, true_and, and_true]
  -- what is left is the order of the keys
  decide

/-- It comes back. -/
theorem spelled_comes_back :
    let schema : Json := .object [("type", .array [])]
    let catalog : Catalog := ⟨[{
      name := "db", id := "s", description := "é", tags := [], permissions := ["syslog"],
      bindable := true, metadata := none, planUpdateable := false,
      plans := [
        { id := "p", name := "small", description := "", metadata := some [("cost", .integer 5)],
          free := true, bindable := true, schemas := none },
        { id := "q", name := "large", description := "\"\n", metadata := none, free := false,
          bindable := true, schemas := some {
            instances := some { create := some { parameters := none }, update := none }
            bindings := some { create := some { parameters := some schema } } } }] }]⟩
    ofJson? spelled = some catalog ∧ ofJson? catalog.toJson = some catalog ∧
      catalog.Written catalog.toJson ∧
      parse? (Bytes.ofText catalog.toJson.text) = some catalog := by
  intro schema catalog
  have decoded : ofJson? spelled = some catalog := rfl
  obtain ⟨again, -, written, text⟩ := comes_back decoded
  exact ⟨decoded, again, written, text readable_spelled⟩

end Catalog

end ServiceBroker

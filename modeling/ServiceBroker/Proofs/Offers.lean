/-
# What is offered has a handler

A platform is told by the catalog which services and plans there are, and the registry has a
handler for what it asks for.  The two are looked up apart: the catalog finds a service and then
a plan among those it shows, the registry finds an engine and then a size in the place of an
identifier (`Engine.planSize?_eq`).  Both come to the same (`Registry.handler?_databases`), so
that a plan is on offer where it has a handler, and what is ordered has the storage that the
catalog promised.
-/

import ServiceBroker.Proofs.Asking
import ServiceBroker.Proofs.Checks

namespace ServiceBroker

/-- The storage that a plan of the catalog stands for, in gigabytes: that of the size with its name
and its description. -/
def CatalogPlan.size? (plan : CatalogPlan) : Option UInt32 :=
  (Engine.planSizes.find? fun size => size.1 = plan.name ∧ size.2.2 = plan.description).map (·.2.1)

namespace Engine

/-- No two sizes have the same name and description. -/
theorem find?_planSizes : ∀ size ∈ planSizes,
    planSizes.find? (fun other => other.1 = size.1 ∧ other.2.2 = size.2.2) = some size := by
  decide

/-- The plan that the catalog shows for a size stands for its storage. -/
theorem size?_ofStorage {id name description : String} {size : UInt32}
    (listed : (name, size, description) ∈ planSizes) :
    (CatalogPlan.ofStorage id name description).size? = some size := by
  have found := find?_planSizes _ listed
  exact congrArg (Option.map fun size => size.2.1) found

/-- The catalog finds its plans where the identifiers are, next to the sizes. -/
theorem catalogService_plan? (engine : Engine) (planId : String) :
    engine.catalogService.plan? planId = ((engine.planIds.zip planSizes).find? (·.1 = planId)).map
      fun (id, name, _, description) => .ofStorage id name description := by
  rw [CatalogService.plan?]
  exact List.find?_map

/-- **The two look-ups agree.**  The size in the place of an identifier is the storage of the plan
that the catalog has under it. -/
theorem planSize?_eq (engine : Engine) (planId : String) :
    engine.planSize? planId = (engine.catalogService.plan? planId).bind (·.size?) := by
  rw [planSize?, catalogService_plan?]
  cases found : (engine.planIds.zip planSizes).find? (·.1 = planId) with
  | none => rfl
  | some placed => exact (size?_ofStorage (List.of_mem_zip (List.mem_of_find?_eq_some found)).2).symm

/-- An engine that is found by an identifier has it. -/
theorem serviceId_of_ofServiceId? {serviceId : String} {engine : Engine}
    (found : ofServiceId? serviceId = some engine) : engine.serviceId = serviceId := by
  simpa using List.find?_some found

/-- A plan belongs to the service of one engine only. -/
theorem eq_of_mem_planIds {first second : Engine} {planId : String} (one : planId ∈ first.planIds)
    (other : planId ∈ second.planIds) : first = second := by
  cases first <;> cases second
  · rfl
  · exact absurd other (planIds_disjoint planId one)
  · exact absurd one (planIds_disjoint planId other)
  · rfl

end Engine

namespace Registry

variable {serviceId planId : String} {handler : DatabaseHandler}

/-- **The look-up in the registry, told by the catalog**: the engine of the service, with the
storage of the plan that the catalog has under the identifier. -/
theorem handler?_databases (serviceId planId : String) :
    databases.handler? serviceId planId = (Engine.ofServiceId? serviceId).bind fun engine =>
      ((engine.catalogService.plan? planId).bind (·.size?)).map (⟨engine, ·⟩) := by
  have nameless : Engine.ofServiceId? "" = none := by decide
  have planless : ∀ engine : Engine, engine.catalogService.plan? "" = none := by
    intro engine
    rw [← Option.not_isSome_iff_eq_none, Http.Check.plan?_catalogService]
    cases engine <;> decide
  rw [handler?]
  by_cases empty : serviceId = "" ∨ planId = ""
  · rw [if_pos empty]
    obtain rfl | rfl := empty
    · rw [nameless]
      rfl
    · simp [planless]
  · rw [if_neg empty, Http.Check.lookup_databases, Option.bind_map]
    congr 1
    funext engine
    show (engine.planSize? planId).map _ = _
    rw [Engine.planSize?_eq]

/-- What a handler in the registry is: the engine of the service, and the storage of the plan. -/
theorem of_handler?_databases (registered : databases.handler? serviceId planId = some handler) :
    handler.engine.serviceId = serviceId ∧
      ∃ plan, handler.engine.catalogService.plan? planId = some plan ∧
        plan.size? = some handler.planSize := by
  rw [handler?_databases] at registered
  obtain ⟨engine, named, sized⟩ := Option.bind_eq_some_iff.mp registered
  obtain ⟨size, looked, rfl⟩ := Option.map_eq_some_iff.mp sized
  obtain ⟨plan, shown, large⟩ := Option.bind_eq_some_iff.mp looked
  exact ⟨Engine.serviceId_of_ofServiceId? named, plan, shown, large⟩

end Registry

namespace Backend

open Program (Asked)

/-- The appliances that are ordered by answered questions. -/
def orders (asked : List (Asked interface)) : List ApplianceOrder :=
  asked.filterMap fun x =>
    match x.call with
    | .provider (.create order) => some order
    | _ => none

end Backend

namespace DatabaseHandler

open Program (Leads)

/-- Creating an instance draws an administrator and then orders an appliance. -/
theorem createInstance_eq (h : DatabaseHandler) (name : String) (p : Parameters) :
    (h.createInstance name p).run =
      .ask (I := Backend.interface) .drawAdmin fun draw =>
        .ask (I := Backend.interface) (.provider (.create (h.order name p draw))) fun made =>
          .done ((made.mapError .provider).map fun _ => ()) := by
  show Program.ask _ _ = _
  congr 1
  funext draw
  show Program.ask _ _ = _
  congr 1
  funext made
  cases made <;> rfl

/-- A handler makes an instance by ordering one appliance. -/
theorem orders_of_createInstance (h : DatabaseHandler) (name : String) (p : Parameters)
    {asked : List (Program.Asked Backend.interface)} {result : Except ServiceError Unit}
    (leads : Leads (h.answer (.createInstance name p)) asked (.done result)) :
    ∃ draw, Backend.orders asked = [h.order name p draw] := by
  have program : h.answer (.createInstance name p) = (h.createInstance name p).run := rfl
  rw [program, createInstance_eq] at leads
  obtain ⟨draw, rest, rfl, ordering⟩ := Leads.of_ask leads
  obtain ⟨made, rest, rfl, ending⟩ := Leads.of_ask ordering
  obtain ⟨rfl, -⟩ := Leads.of_done ending
  exact ⟨draw, rfl⟩

/-- A handler is the right one for a plan of a service. -/
structure IsFor (h : DatabaseHandler) (serviceId planId : String) : Prop where
  /-- Its engine is the one whose service is named. -/
  engine : h.engine.serviceId = serviceId
  /-- No other service has the plan, in the catalog or in the registry. -/
  only : ∀ other, other ≠ serviceId →
    (Catalog.builtin.service? other).bind (·.plan? planId) = none ∧
      Registry.databases.handler? other planId = none
  /-- Whoever has an instance made by it orders one appliance, with the engine and with the storage
  of the plan that the catalog has under the identifier. -/
  storage : ∃ service plan, Catalog.builtin.service? serviceId = some service ∧
    service.plan? planId = some plan ∧
    ∀ name parameters asked result,
      Leads (h.answer (.createInstance name parameters)) asked (.done result) →
      ∃ order, Backend.orders asked = [order] ∧ order.name = name ∧ order.engine = h.engine ∧
        plan.size? = some order.planSize

/-- A handler in the registry is the right one. -/
theorem isFor_of_handler? {h : DatabaseHandler} {serviceId planId : String}
    (registered : Registry.databases.handler? serviceId planId = some h) :
    h.IsFor serviceId planId := by
  obtain ⟨named, plan, shown, large⟩ := Registry.of_handler?_databases registered
  have mine : planId ∈ h.engine.planIds := by
    rw [← Http.Check.plan?_catalogService, shown]
    rfl
  constructor
  · exact named
  · intro other foreign
    -- a service with the plan is that of the engine
    have without : ∀ engine : Engine, engine.serviceId = other → planId ∉ engine.planIds := by
      rintro engine rfl theirs
      rw [Engine.eq_of_mem_planIds theirs mine] at foreign
      exact foreign named
    have unplanned : ∀ engine, Engine.ofServiceId? other = some engine →
        engine.catalogService.plan? planId = none := by
      intro engine found
      rw [← Option.not_isSome_iff_eq_none, Http.Check.plan?_catalogService]
      exact without engine (Engine.serviceId_of_ofServiceId? found)
    rw [Http.Check.service?_builtin, Registry.handler?_databases]
    cases found : Engine.ofServiceId? other with
    | none => exact ⟨rfl, rfl⟩
    | some engine => simp [unplanned engine found]
  · refine ⟨h.engine.catalogService, plan, ?_, shown, ?_⟩
    · rw [← named]
      exact Catalog.service?_serviceId h.engine
    · intro name parameters asked result leads
      obtain ⟨draw, ordered⟩ := orders_of_createInstance h name parameters leads
      exact ⟨_, ordered, rfl, rfl, large⟩

end DatabaseHandler

namespace Http

namespace Check

/-- A plan on offer is one of a service, and neither of them is nameless. -/
theorem holds_offer_iff {serviceId planId : String} :
    (∀ check ∈ offer serviceId planId, check.holds) ↔ isPlanOf serviceId planId := by
  constructor
  · intro hold
    exact hold ⟨isPlanOf serviceId planId, .invalidPlanId⟩ (by simp [offer])
  · intro offered
    obtain ⟨engine, listed, mine⟩ := List.any_eq_true.mp offered
    simp only [Bool.and_eq_true, decide_eq_true_eq] at mine
    obtain ⟨rfl, planned⟩ := mine
    have named : engine.serviceId ≠ "" := by cases engine <;> decide
    have spelled : planId ≠ "" := by
      rintro rfl
      exact absurd planned (by cases engine <;> decide)
    have known : isService engine.serviceId :=
      List.any_eq_true.mpr ⟨engine, listed, decide_eq_true rfl⟩
    simp [offer, named, spelled, known, offered]

end Check

namespace Front

/-- Checks pass just if each of them holds. -/
theorem passing_eq_ok_iff {checks : List Check} :
    passing checks = .ok () ↔ ∀ check ∈ checks, check.holds := by
  rw [passing, Check.first?]
  cases failing : checks.find? (!·.holds) with
  | none => simpa using failing
  | some check =>
    have fails : check.holds = false := by simpa using List.find?_some failing
    refine iff_of_false (by rintro ⟨⟩) fun hold => ?_
    rw [hold check (List.mem_of_find?_eq_some failing)] at fails
    cases fails

/-- **A request names a service and a plan on offer exactly if there is a handler for them.** -/
theorem checkIds_eq_ok_iff {front : Front} (builtin : front.catalog = .builtin)
    (serviceId planId : String) :
    front.checkIds serviceId planId = .ok () ↔
      (Registry.databases.handler? serviceId planId).isSome := by
  rw [checkIds_eq builtin, passing_eq_ok_iff, Check.holds_offer_iff,
    Check.isSome_handler?_databases]

/-- How a step ends: with a value of which `post` holds, or with a response that puts the blame on
the body only where the body is to blame. -/
def Blames {α : Type} (unread : Prop) (post : α → Prop) : Step α → Prop
  | .ok value => post value
  | .error response => response = Rejection.malformedRequestBody.response → unread

section Steps

variable {α β : Type} {unread : Prop} {post : α → Prop}

/-- Of two steps that blame fairly the whole does. -/
theorem Blames.bind {step : Step α} {next : α → Step β} {after : β → Prop}
    (first : Blames unread post step)
    (rest : ∀ value, post value → Blames unread after (next value)) :
    Blames unread after (step >>= next) := by
  cases step with
  | ok value => exact rest value first
  | error response => exact first

/-- Where the body is blamed it cannot be read. -/
theorem Blames.of_refused {step : Step α} (h : Blames unread post step)
    (refused : step = refuse .malformedRequestBody) : unread := by
  subst refused
  exact h rfl

/-- Text puts the blame on nothing. -/
theorem blames_ofText (status : Nat) (text : String) :
    Blames unread post (.error (.ofText status text)) := by
  intro same
  have bodies := congrArg Response.body same
  cases bodies

/-- A name in the path is never the fault of the body. -/
theorem blames_parameter (read : Except String String) :
    Blames unread (fun _ => True) (parameter read) := by
  cases read with
  | ok text => trivial
  | error name => exact blames_ofText _ _

/-- A query is never the fault of the body. -/
theorem blames_query (request : Request) : Blames unread (fun _ => True) (query request) := by
  unfold query
  cases Query.parse request.target.query with
  | ok query => trivial
  | error key => exact blames_ofText _ _

/-- A body that is too long is not blamed for what it says. -/
theorem blames_body (request : Request) : Blames unread (· = request.body) (body request) := by
  unfold body
  split_ifs
  · rfl
  · exact blames_ofText _ _

/-- The body is blamed if it cannot be read as a request for a service. -/
theorem blames_serviceRequest (body : Bytes) :
    Blames (ServiceRequest.parse? body = none) (fun _ => True) (serviceRequest body) := by
  unfold serviceRequest
  cases parsed : ServiceRequest.parse? body with
  | some asked => trivial
  | none => exact fun _ => rfl

/-- The refusals that look at a query, a service or a plan have errors of their own. -/
theorem response_ne_malformed : ∀ r ∈ [Rejection.asyncRequired, .serviceIdRequired,
    .planIdRequired, .invalidServiceId, .invalidPlanId],
    r.response ≠ Rejection.malformedRequestBody.response := by
  simp [Rejection.response, Rejection.body, Rejection.description?, Response.ofJson,
    Rejection.status]

/-- That a platform does not wait is not the fault of the body. -/
theorem blames_async (query : Query) :
    Blames unread (fun _ => True) (require query.acceptsAsync .asyncRequired) := by
  cases query.acceptsAsync with
  | true => trivial
  | false => exact fun same => absurd same (response_ne_malformed _ (by simp))

end Steps

section Orders

variable {unread : Prop} (auth : BasicAuth) (serviceId planId : String)

/-- What has passed the look-up of its service and plan has a handler. -/
theorem blames_checkIds :
    Blames unread (fun _ => (Registry.databases.handler? serviceId planId).isSome)
      (checkIds { auth } serviceId planId) := by
  have passed : checkIds { auth } serviceId planId = .ok () ↔
      (Registry.databases.handler? serviceId planId).isSome :=
    checkIds_eq_ok_iff rfl serviceId planId
  cases ended : checkIds { auth } serviceId planId with
  | ok value => exact passed.1 ended
  | error response =>
    intro same
    rw [checkIds_eq rfl, passing] at ended
    cases failed : Check.first? (Check.offer serviceId planId) with
    | none => rw [failed] at ended; cases ended
    | some r =>
      rw [failed] at ended
      obtain ⟨check, found, rfl⟩ := Option.map_eq_some_iff.mp failed
      have listed := List.mem_of_find?_eq_some found
      cases ended
      refine absurd same (response_ne_malformed _ ?_)
      simp only [Check.offer, List.mem_cons, List.not_mem_nil, or_false] at listed
      obtain rfl | rfl | rfl | rfl := listed <;> simp

/-- An operation for a service and a plan that have passed is handed on. -/
theorem blames_handing (operation : Lifecycle.Request)
    (registered : (Registry.databases.handler? serviceId planId).isSome) :
    Blames unread (fun _ => True) (handing { auth } serviceId planId operation) := by
  obtain ⟨handler, found⟩ := Option.isSome_iff_exists.mp registered
  have same : handing { auth } serviceId planId operation = .ok (handler, operation) := by
    have handled : Front.handler { auth } serviceId planId = .ok handler := by
      rw [Front.handler, found]
    rw [handing, handled]
    rfl
  rw [same]
  trivial

variable (request : Request) (spelled bound : Bytes)

/-- A request to provision blames the body only if it cannot be read. -/
theorem blames_provision :
    Blames (ServiceRequest.parse? request.body = none) (fun _ => True)
      (provision { auth } request spelled) := by
  refine (blames_parameter _).bind fun name _ => ?_
  refine (blames_query request).bind fun query _ => ?_
  refine (blames_body request).bind fun body whole => ?_
  subst whole
  refine (blames_async query).bind fun _ _ => ?_
  refine (blames_serviceRequest _).bind fun asked _ => ?_
  refine (blames_checkIds auth _ _).bind fun _ registered => ?_
  exact blames_handing auth _ _ _ registered

/-- A request to bind blames the body only if it cannot be read. -/
theorem blames_bind :
    Blames (ServiceRequest.parse? request.body = none) (fun _ => True)
      (bind { auth } request spelled bound) := by
  refine (blames_parameter _).bind fun name _ => ?_
  refine (blames_parameter _).bind fun binding _ => ?_
  refine (blames_body request).bind fun body whole => ?_
  subst whole
  refine (blames_serviceRequest _).bind fun asked _ => ?_
  refine (blames_checkIds auth _ _).bind fun _ registered => ?_
  exact blames_handing auth _ _ _ registered

/-- A request to deprovision never blames the body. -/
theorem blames_deprovision :
    Blames False (fun _ => True) (deprovision { auth } request spelled) := by
  refine (blames_parameter _).bind fun name _ => ?_
  refine (blames_query request).bind fun query _ => ?_
  refine (blames_async query).bind fun _ _ => ?_
  refine (blames_checkIds auth _ _).bind fun _ registered => ?_
  exact blames_handing auth _ _ _ registered

/-- A request to unbind never blames the body. -/
theorem blames_unbind :
    Blames False (fun _ => True) (unbind { auth } request spelled bound) := by
  refine (blames_parameter _).bind fun name _ => ?_
  refine (blames_parameter _).bind fun binding _ => ?_
  refine (blames_query request).bind fun query _ => ?_
  refine (blames_checkIds auth _ _).bind fun _ registered => ?_
  exact blames_handing auth _ _ _ registered

end Orders

/-- **What the catalog offers is what the registry handles.**  A service and a plan pass the look-up
in the catalog exactly if there is a handler for them; it is the one for the service and the plan
(`DatabaseHandler.IsFor`); and so no request to provision, to deprovision, to bind or to unbind is
refused for want of a handler: the refusal that says so is given to a body that cannot be read. -/
theorem catalog_agrees_with_registry (auth : BasicAuth) (serviceId planId : String) :
    (checkIds { auth } serviceId planId = .ok () ↔
      (Registry.databases.handler? serviceId planId).isSome) ∧
    (∀ handler, Registry.databases.handler? serviceId planId = some handler →
      handler.IsFor serviceId planId) ∧
    ∀ (request : Request) (spelled bound : Bytes),
      (provision { auth } request spelled = refuse .malformedRequestBody →
        ServiceRequest.parse? request.body = none) ∧
      (bind { auth } request spelled bound = refuse .malformedRequestBody →
        ServiceRequest.parse? request.body = none) ∧
      deprovision { auth } request spelled ≠ refuse .malformedRequestBody ∧
      unbind { auth } request spelled bound ≠ refuse .malformedRequestBody := by
  refine ⟨checkIds_eq_ok_iff rfl serviceId planId,
    fun handler => DatabaseHandler.isFor_of_handler?, fun request spelled bound => ?_⟩
  refine ⟨?_, ?_, ?_, ?_⟩
  · exact (blames_provision auth request spelled).of_refused
  · exact (blames_bind auth request spelled bound).of_refused
  · exact (blames_deprovision auth request spelled).of_refused
  · exact (blames_unbind auth request spelled bound).of_refused

/-- The largest plan of PostgreSQL is handled as one of a terabyte, and not under MariaDB. -/
theorem terabyte_of_postgreSql :
    checkIds {} "cc17eabf-0178-4eea-966e-2f5fb2aa62a9" "f4bf204d-a73f-4b41-b8e8-1417c47c18dc" =
      .ok () ∧
    DatabaseHandler.IsFor ⟨.postgreSql, 1000⟩ "cc17eabf-0178-4eea-966e-2f5fb2aa62a9"
      "f4bf204d-a73f-4b41-b8e8-1417c47c18dc" ∧
    Registry.databases.handler? "c4f353f3-8a59-437d-b4af-6a6f856248db"
      "f4bf204d-a73f-4b41-b8e8-1417c47c18dc" = none := by
  have registered : Registry.databases.handler? "cc17eabf-0178-4eea-966e-2f5fb2aa62a9"
      "f4bf204d-a73f-4b41-b8e8-1417c47c18dc" = some ⟨.postgreSql, 1000⟩ := by decide +kernel
  obtain ⟨passed, suits, -⟩ := catalog_agrees_with_registry {}
    "cc17eabf-0178-4eea-966e-2f5fb2aa62a9" "f4bf204d-a73f-4b41-b8e8-1417c47c18dc"
  have right := suits _ registered
  refine ⟨passed.2 ?_, right, (right.only _ (by decide)).2⟩
  rw [registered]
  rfl

end Front
end Http
end ServiceBroker

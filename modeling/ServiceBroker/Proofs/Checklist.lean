/-
# What a request has to show

The front decides about a request step by step, each step free to answer it.  Here the same
order is written down as a list, one entry for each thing that a request has to show: what
has to hold, and the refusal of a request for which it does not (`Check`, `Front.checks`).  The
list is stated in terms of what the broker offers, the services and the plans of its two
engines, and not of the look-ups with which the front finds out.

The look-ups come to the same as the list (`Check.isService_eq`, `Check.isPlanOf_eq`), and
a list of checks is the steps one after another (`Front.passing`, `Front.checkIds_eq`).
-/

import ServiceBroker.Http.Front

namespace ServiceBroker
namespace Http

/-- Something that a request has to show, and the refusal of a request that does not. -/
structure Check where
  holds : Bool
  refusal : Rejection

namespace Check

/-- The refusal by the first check that fails. -/
def first? (checks : List Check) : Option Rejection :=
  (checks.find? (!·.holds)).map (·.refusal)

end Check

/-- What a request addresses behind the gate, the parameters of its path read. -/
inductive Endpoint where
  | catalog
  | provision (name : String)
  | update (name : String)
  | deprovision (name : String)
  | lastOperation (name : String)
  | bind (name binding : String)
  | unbind (name binding : String)
  /-- A path that takes other methods than that of the request. -/
  | elsewhere (methods : List Method)
deriving DecidableEq, Repr

namespace Endpoint

/-- What a request addresses on a route that takes its method, if the path can be read. -/
def onRoute? (method : Method) : Route → Option Endpoint
  | .health => none
  | .catalog => some .catalog
  | .inst spelled => do
    let name ← (Route.instanceName spelled).toOption
    return match method with
      | .put => .provision name
      | .patch => .update name
      | _ => .deprovision name
  | .lastOperation spelled => do
    let name ← (Route.instanceName spelled).toOption
    return .lastOperation name
  | .binding spelled bound => do
    let name ← (Route.instanceName spelled).toOption
    let binding ← (Route.bindingName bound).toOption
    return match method with
      | .put => .bind name binding
      | _ => .unbind name binding

/-- What a request addresses, if its path is one behind the gate and can be read. -/
def of? (request : Request) : Option Endpoint := do
  let route ← Route.ofPath? request.target.path
  if route.isPublic then none
  else if request.method ∈ route.methods then onRoute? request.method route
  else some (.elsewhere route.methods)

/-- The request is asked for a body. -/
def takesBody : Endpoint → Bool
  | provision _ | bind _ _ => true
  | _ => false

/-- The methods that an answer tells of. -/
def allow : Endpoint → Option (List Method)
  | elsewhere methods => some methods
  | _ => none

end Endpoint

namespace Check

/-- The service of one of the engines. -/
def isService (serviceId : String) : Bool := Engine.all.any (·.serviceId = serviceId)

/-- A plan of the service of an engine. -/
def isPlanOf (serviceId planId : String) : Bool :=
  Engine.all.any fun engine => engine.serviceId = serviceId && planId ∈ engine.planIds

/-- The gate: credentials where there are any to show, then the version of the interface. -/
def gate (auth : BasicAuth) (headers : Headers) : List Check :=
  let version := headers.text? versionHeader
  [⟨!auth.isEnabled || Gate.credentials? headers = some (auth.username, auth.password),
      .unauthorized⟩,
    ⟨version.any (· ≠ ""), .missingApiVersion⟩,
    ⟨version.any ("2.".toList.isPrefixOf ·.toList), .apiVersionIncorrect⟩]

/-- The platform waits for operations on instances. -/
def async (query : Query) : Check :=
  ⟨query.acceptsIncomplete.any (· ∈ ["1", "t", "T", "true", "TRUE", "True"]), .asyncRequired⟩

/-- A service with one of its plans. -/
def offer (serviceId planId : String) : List Check :=
  [⟨serviceId ≠ "", .serviceIdRequired⟩, ⟨planId ≠ "", .planIdRequired⟩,
    ⟨isService serviceId, .invalidServiceId⟩, ⟨isPlanOf serviceId planId, .invalidPlanId⟩]

/-- A service with one of its plans, in the query. -/
def offerInQuery (query : Query) : List Check :=
  offer (query.serviceId.getD "") (query.planId.getD "")

/-- What a body says; one that says nothing names no service. -/
def asked (body : Bytes) : ServiceRequest := (ServiceRequest.parse? body).getD ⟨"", "", none⟩

/-- A body that can be read, and in it a service with one of its plans. -/
def offerInBody (body : Bytes) : List Check :=
  ⟨(ServiceRequest.parse? body).isSome, .malformedRequestBody⟩ ::
    offer (asked body).serviceId (asked body).planId

/-- The operation that a poll asks about. -/
def polled (query : Query) : Operation :=
  (query.operation.bind Operation.ofName?).getD .provisioning

/-- The answer to a poll that leaves out its service or its plan. -/
def withoutOffer (operation : String) : Rejection :=
  if operation = Operation.provisioning.name then .serviceIdRequired
  else if operation = Operation.deprovisioning.name then .gone
  else .malformedRequestBody

/-- A poll names an operation that is polled.  Its service and, next to a service, its plan have
to be known where they are given, and both have to be given. -/
def poll (query : Query) : List Check :=
  let operation := query.operation.getD ""
  let serviceId := query.serviceId.getD ""
  let planId := query.planId.getD ""
  [⟨operation ≠ "", .operationRequired⟩,
    ⟨operation ∈ ["provisioning", "updating", "deprovisioning"], .operationInvalid⟩,
    ⟨serviceId = "" || isService serviceId, .invalidServiceId⟩,
    ⟨serviceId = "" || planId = "" || isPlanOf serviceId planId, .invalidPlanId⟩,
    ⟨serviceId ≠ "" && planId ≠ "", withoutOffer operation⟩]

end Check

/-- What a request has to show of its query and its body. -/
def Endpoint.checks (query : Query) (body : Bytes) : Endpoint → List Check
  | catalog | update _ | elsewhere _ => []
  | provision _ => Check.async query :: Check.offerInBody body
  | deprovision _ => Check.async query :: Check.offerInQuery query
  | lastOperation _ => Check.poll query
  | bind _ _ => Check.offerInBody body
  | unbind _ _ => Check.offerInQuery query

namespace Front

/-- Everything that a request has to show, in order. -/
def checks (front : Front) (request : Request) (query : Query) (endpoint : Endpoint) :
    List Check :=
  Check.gate front.auth request.headers ++ endpoint.checks query request.body

/-- An operation is for the handler that is registered for a service and a plan. -/
def assign (front : Front) (serviceId planId : String) (operation : Lifecycle.Request) : Decision :=
  match front.registry.handler? serviceId planId with
  | some handler => .perform handler operation
  | none => .reply Rejection.malformedRequestBody.response

/-- What becomes of a request that has shown everything. -/
def admitted (front : Front) (query : Query) (body : Bytes) : Endpoint → Decision
  | .catalog => .reply (.ofJson 200 front.catalog.toJson)
  | .provision name =>
    front.assign (Check.asked body).serviceId (Check.asked body).planId
      (.provision name (Check.asked body).parameters)
  | .update _ => .reply Rejection.updateUnsupported.response
  | .deprovision name =>
    front.assign (query.serviceId.getD "") (query.planId.getD "") (.deprovision name)
  | .lastOperation name =>
    front.assign (query.serviceId.getD "") (query.planId.getD "")
      (.poll (Check.polled query) name)
  | .bind name binding =>
    front.assign (Check.asked body).serviceId (Check.asked body).planId (.bind name binding)
  | .unbind name binding =>
    front.assign (query.serviceId.getD "") (query.planId.getD "") (.unbind name binding)
  | .elsewhere methods => .reply { Response.bare 405 with allow := some methods }

end Front

/-! ### What the broker offers -/

namespace Check

/-- The built-in catalog has the services of the engines. -/
theorem service?_builtin (serviceId : String) :
    Catalog.builtin.service? serviceId =
      (Engine.ofServiceId? serviceId).map (·.catalogService) := by
  rw [Catalog.service?, Catalog.builtin, List.find?_map]
  rfl

/-- A service is known exactly where an engine has its identifier. -/
theorem isService_eq (serviceId : String) :
    isService serviceId = (Engine.ofServiceId? serviceId).isSome := by
  rw [Bool.eq_iff_iff, Engine.ofServiceId?, List.find?_isSome, isService, List.any_eq_true]

/-- Every plan has a size in its place. -/
theorem map_fst_zip_planSizes (engine : Engine) :
    (engine.planIds.zip Engine.planSizes).map Prod.fst = engine.planIds := by
  cases engine <;> rfl

/-- The service of an engine has the plans of the engine. -/
theorem plan?_catalogService (engine : Engine) (planId : String) :
    (engine.catalogService.plan? planId).isSome = (planId ∈ engine.planIds) := by
  have ids : engine.catalogService.plans.map (·.id) = engine.planIds :=
    List.map_map.trans (map_fst_zip_planSizes engine)
  rw [CatalogService.plan?, List.find?_isSome, ← ids, List.mem_map]
  simp

/-- A plan is one of a service exactly where its catalog entry lists it. -/
theorem isPlanOf_eq {serviceId : String} {engine : Engine}
    (found : Engine.ofServiceId? serviceId = some engine) (planId : String) :
    isPlanOf serviceId planId = (engine.catalogService.plan? planId).isSome := by
  have named : engine.serviceId = serviceId := by simpa using List.find?_some found
  rw [Bool.eq_iff_iff, plan?_catalogService, ← named]
  cases engine <;> simp [isPlanOf, Engine.all, Engine.serviceId]

/-- An engine has a handler for each of its plans and for nothing else. -/
theorem isSome_engineHandler? (engine : Engine) (planId : String) :
    (engine.handler? planId).isSome = (planId ∈ engine.planIds) := by
  rw [Engine.handler?, Engine.planSize?, Option.isSome_map, Option.isSome_map, List.find?_isSome]
  conv => rhs; rw [← map_fst_zip_planSizes engine, List.mem_map]
  simp

/-- The registry has the handlers of the engines. -/
theorem lookup_databases (serviceId : String) :
    Registry.databases.services.lookup serviceId =
      (Engine.ofServiceId? serviceId).map (·.handler?) := by
  have along : ∀ engines : List Engine,
      (engines.map fun engine => (engine.serviceId, engine.handler?)).lookup serviceId =
        (engines.find? (·.serviceId = serviceId)).map (·.handler?) := by
    intro engines
    induction engines with
    | nil => rfl
    | cons engine rest ih =>
      by_cases same : serviceId = engine.serviceId
      · subst same; simp
      · rw [List.map_cons, List.lookup_cons, beq_false_of_ne same, ih, List.find?_cons_of_neg]
        simpa using Ne.symm same
  exact along Engine.all

/-- The plans that have a handler in the registry of this broker are those of the services on
offer. -/
theorem isSome_handler?_databases (serviceId planId : String) :
    (Registry.databases.handler? serviceId planId).isSome = isPlanOf serviceId planId := by
  rw [Registry.handler?]
  by_cases empty : serviceId = "" ∨ planId = ""
  · rw [if_pos empty]
    obtain rfl | rfl := empty <;>
      simp [isPlanOf, Engine.all, Engine.serviceId, Engine.planIds]
  rw [if_neg empty, lookup_databases]
  cases found : Engine.ofServiceId? serviceId with
  | none =>
    have foreign : ∀ engine ∈ Engine.all, engine.serviceId ≠ serviceId := by
      simpa using List.find?_eq_none.mp found
    have unoffered : isPlanOf serviceId planId = false := by
      simp only [isPlanOf, List.any_eq_false, Bool.and_eq_true, decide_eq_true_eq]
      intro engine listed same
      exact foreign engine listed same.1
    rw [unoffered]
    rfl
  | some engine =>
    rw [Bool.eq_iff_iff, isPlanOf_eq found, plan?_catalogService, Option.map_some,
      Option.bind_some, isSome_engineHandler?]

end Check

/-! ### Lists of checks as steps -/

namespace Front

/-- What holds is required in vain. -/
@[simp]
theorem require_true (r : Rejection) : require true r = .ok () := rfl

/-- What does not hold is refused. -/
@[simp]
theorem require_false (r : Rejection) : require false r = refuse r := rfl

/-- A step that went well hands its value on. -/
@[simp]
theorem ok_bind {α β : Type} (a : α) (next : α → Step β) : (Except.ok a >>= next) = next a := rfl

/-- Nothing follows a refusal. -/
@[simp]
theorem refuse_bind {α β : Type} (r : Rejection) (next : α → Step β) :
    (refuse r >>= next) = refuse r := rfl

/-- A step that passes a list of checks. -/
def passing (checks : List Check) : Step Unit :=
  match Check.first? checks with
  | some r => refuse r
  | none => .ok ()

/-- Where nothing is checked, nothing is refused. -/
theorem passing_nil : passing [] = .ok () := rfl

/-- Checks pass one after another. -/
theorem passing_cons (check : Check) (rest : List Check) :
    passing (check :: rest) =
      (do require check.holds check.refusal; passing rest) := by
  obtain ⟨holds, refusal⟩ := check
  cases holds <;> rfl

variable {front : Front} {serviceId planId : String} {query : Query}

/-- A service that an engine has is found in the built-in catalog. -/
theorem service_eq_some (builtin : front.catalog = .builtin) {engine : Engine}
    (found : Engine.ofServiceId? serviceId = some engine) :
    front.service serviceId = .ok engine.catalogService := by
  rw [service, builtin, Check.service?_builtin, found]
  rfl

/-- A service that no engine has is refused. -/
theorem service_eq_none (builtin : front.catalog = .builtin)
    (missing : Engine.ofServiceId? serviceId = none) :
    front.service serviceId = refuse .invalidServiceId := by
  rw [service, builtin, Check.service?_builtin, missing]
  rfl

/-- The look-up of a service and of its plan, as two checks. -/
theorem look_up_eq (builtin : front.catalog = .builtin) (serviceId planId : String) :
    (do plan (← front.service serviceId) planId) =
      passing [⟨Check.isService serviceId, .invalidServiceId⟩,
        ⟨Check.isPlanOf serviceId planId, .invalidPlanId⟩] := by
  rw [passing_cons, passing_cons, passing_nil, Check.isService_eq]
  cases found : Engine.ofServiceId? serviceId with
  | none => rw [service_eq_none builtin found]; rfl
  | some engine =>
    rw [service_eq_some builtin found, Check.isPlanOf_eq found]
    exact (bind_pure _).symm

/-- The identifiers of an offer are checked as `Check.offer` lists it. -/
theorem checkIds_eq (builtin : front.catalog = .builtin) (serviceId planId : String) :
    front.checkIds serviceId planId = passing (Check.offer serviceId planId) := by
  simp only [checkIds, look_up_eq builtin, Check.offer, passing_cons]

/-- A body that can be read, and what it names, as checks. -/
theorem offerInBody_eq (builtin : front.catalog = .builtin) (body : Bytes) {α : Type}
    (next : ServiceRequest → Step α) :
    (do
      let asked ← serviceRequest body
      front.checkIds asked.serviceId asked.planId
      next asked) =
    (do passing (Check.offerInBody body); next (Check.asked body)) := by
  rw [Check.offerInBody, passing_cons, serviceRequest, Check.asked]
  cases ServiceRequest.parse? body with
  | none => rfl
  | some asked => simp only [checkIds_eq builtin]; rfl

/-- An operation that is found by a name has this name. -/
theorem name_of_ofName? {name : String} {operation : Operation}
    (found : Operation.ofName? name = some operation) : operation.name = name := by
  simpa using List.find?_some found

/-- The operation that is polled is checked before it is read. -/
theorem polledOperation_eq (query : Query) :
    polledOperation query =
      (do
        passing [⟨query.operation.getD "" ≠ "", .operationRequired⟩,
          ⟨query.operation.getD "" ∈ ["provisioning", "updating", "deprovisioning"],
            .operationInvalid⟩]
        return Check.polled query) := by
  rw [polledOperation, Check.polled, passing_cons, passing_cons, passing_nil]
  cases query.operation with
  | none => rfl
  | some name =>
    by_cases empty : name = ""
    · subst empty; rfl
    simp only [Option.getD_some, Option.bind_some, ne_eq, empty, not_false_eq_true, decide_true,
      if_false]
    cases found : Operation.ofName? name with
    | none =>
      have unknown : name ∉ ["provisioning", "updating", "deprovisioning"] := by
        intro listed
        have named := List.find?_eq_none.mp found
        simp only [List.mem_cons, List.not_mem_nil, or_false] at listed
        obtain rfl | rfl | rfl := listed
        · exact named .provisioning (by simp [Operation.all]) (by decide)
        · exact named .updating (by simp [Operation.all]) (by decide)
        · exact named .deprovisioning (by simp [Operation.all]) (by decide)
      simp only [unknown, decide_false]
      rfl
    | some operation =>
      obtain rfl := name_of_ofName? found
      cases operation <;> rfl

/-- One of the three names is that of an operation that can be polled. -/
theorem polled_of_listed
    (listed : query.operation.getD "" ∈ ["provisioning", "updating", "deprovisioning"]) :
    (Check.polled query).isPollable ∧ (Check.polled query).name = query.operation.getD "" := by
  rw [Check.polled]
  cases given : query.operation with
  | none =>
    rw [given] at listed
    exact absurd listed (by decide)
  | some name =>
    rw [given] at listed
    simp only [Option.getD_some, List.mem_cons, List.not_mem_nil, or_false] at listed
    obtain rfl | rfl | rfl := listed <;> exact ⟨rfl, rfl⟩

/-- The service and the plan of a poll, as checks; `next` is what follows and refuses what has no
service or no plan. -/
theorem polledPlan_eq (builtin : front.catalog = .builtin) {operation : Operation}
    (pollable : operation.isPollable) (query : Query) {α : Type} (next : String → Step α)
    (refused : ∀ planId, query.serviceId.getD "" = "" ∨ planId = "" →
      next planId = refuse .malformedRequestBody) :
    (do
      let planId ← front.polledPlan query
      if query.serviceId.getD "" = "" ∨ planId = "" then polledWithoutOffer operation
      next planId) =
    (do
      passing [⟨query.serviceId.getD "" = "" || Check.isService (query.serviceId.getD ""),
          .invalidServiceId⟩,
        ⟨query.serviceId.getD "" = "" || query.planId.getD "" = "" ||
            Check.isPlanOf (query.serviceId.getD "") (query.planId.getD ""), .invalidPlanId⟩,
        ⟨query.serviceId.getD "" ≠ "" && query.planId.getD "" ≠ "",
          Check.withoutOffer operation.name⟩]
      next (query.planId.getD "")) := by
  simp only [polledPlan, passing_cons, passing_nil]
  generalize query.serviceId.getD "" = serviceId at *
  generalize query.planId.getD "" = planId at *
  -- what follows when the service or the plan is missing
  have without : ∀ planId', serviceId = "" ∨ planId' = "" →
      (do polledWithoutOffer operation; next planId') =
        refuse (Check.withoutOffer operation.name) := by
    intro planId' missing
    cases operation with
    | updating => exact refused planId' missing
    | provisioning | deprovisioning => rfl
    | binding | unbinding => exact absurd pollable (by decide)
  by_cases noService : serviceId = ""
  · subst noService
    exact without "" (.inl rfl)
  cases found : Engine.ofServiceId? serviceId with
  | none =>
    simp only [noService, Check.isService_eq, found, service_eq_none builtin found, if_false]
    rfl
  | some engine =>
    by_cases noPlan : planId = ""
    · subst noPlan
      simpa [noService, Check.isService_eq, found, service_eq_some builtin found]
        using without "" (.inr rfl)
    · cases known : (engine.catalogService.plan? planId).isSome <;>
        simp [noService, noPlan, plan, known, Check.isService_eq, Check.isPlanOf_eq found, found,
          service_eq_some builtin found]

end Front

end Http
end ServiceBroker

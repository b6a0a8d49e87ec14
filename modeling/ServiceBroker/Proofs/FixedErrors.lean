/-
# The texts of refusals

What is said in responses to requests that come to nothing is one of a few texts that never
change (`Http.fixedErrors`), with one exception: what is wrong with the parameters of a
request to provision is told in the words of their parser.  Each step of the front ends in one
of them or has its value (`Http.Ensures`), from the single reader to the order of a route
(`Http.ensures_order?`).
-/

import Mathlib.Tactic.SplitIfs
import ServiceBroker.Http.Front

namespace ServiceBroker
namespace Http

/-- Every response with which a request comes to nothing, apart from what is wrong with its
parameters. -/
def fixedErrors : List Response :=
  [.bare 404, .bare 405, .blank 410, .blank 500, .instanceNotFound,
    .conflict "A service instance exists with the specified service id",
    .conflict "A service binding exists with the specified binding id",
    Response.ofDeprovision .unprocessable,
    .ofText 400 "Invalid URL: Invalid UTF-8 in `instance_id`",
    .ofText 400 "Invalid URL: Invalid UTF-8 in `binding_id`",
    .ofText 413 "Failed to buffer the request body: length limit exceeded"] ++
  (Query.knownKeys.map fun key =>
    .ofText 400 ("Failed to deserialize query string: duplicate field `" ++ key ++ "`")) ++
  [Rejection.unauthorized, .missingApiVersion, .apiVersionIncorrect, .asyncRequired,
    .serviceIdRequired, .planIdRequired, .invalidServiceId, .invalidPlanId,
    .malformedRequestBody, .operationRequired, .operationInvalid, .updateUnsupported,
    .gone].map (·.response)

/-- What comes of an operation is told without a text of its own, unless its parameters are
wrong. -/
theorem ofOutcome_fixed {outcome : Lifecycle.Outcome}
    (valid : ∀ text, outcome ≠ .provision (.invalidParameters text)) :
    (Response.ofOutcome outcome).status < 400 ∨ Response.ofOutcome outcome ∈ fixedErrors := by
  cases outcome with
  | provision outcome =>
    cases outcome with
    | accepted => exact .inl (show 202 < 400 by omega)
    | alreadyProvisioned => exact .inl (show 200 < 400 by omega)
    | conflict => exact .inr (by simp [fixedErrors, Response.ofOutcome, Response.ofProvision])
    | invalidParameters text => exact absurd rfl (valid text)
    | internalError => exact .inr (by simp [fixedErrors, Response.ofOutcome, Response.ofProvision])
  | deprovision outcome =>
    cases outcome with
    | accepted => exact .inl (show 202 < 400 by omega)
    | gone => exact .inr (by simp [fixedErrors, Response.ofOutcome, Response.ofDeprovision])
    | unprocessable => exact .inr (by simp [fixedErrors, Response.ofOutcome])
    | internalError =>
      exact .inr (by simp [fixedErrors, Response.ofOutcome, Response.ofDeprovision])
  | poll outcome =>
    cases outcome with
    | inProgress | succeeded | failed => exact .inl (show 200 < 400 by omega)
    | gone | internalError =>
      exact .inr (by simp [fixedErrors, Response.ofOutcome, Response.ofPoll,
        Lifecycle.PollOutcome.progress?])
  | bind outcome =>
    cases outcome with
    | created credentials => exact .inl (show 201 < 400 by omega)
    | alreadyBound credentials => exact .inl (show 200 < 400 by omega)
    | conflict | instanceNotFound | internalError =>
      exact .inr (by simp [fixedErrors, Response.ofOutcome, Response.ofBind])
  | unbind outcome =>
    cases outcome with
    | unbound => exact .inl (show 200 < 400 by omega)
    | instanceNotFound | internalError =>
      exact .inr (by simp [fixedErrors, Response.ofOutcome, Response.ofUnbind])

/-- A step that ends in one of the fixed responses unless it has a value, and then one that
`post` holds of. -/
def Ensures {α : Type} (post : α → Prop) : Front.Step α → Prop
  | .ok value => post value
  | .error response => response ∈ fixedErrors

section Steps

variable {α β : Type} {post : α → Prop}

/-- Two steps one after another, the second with what the first ensures. -/
theorem Ensures.bind {step : Front.Step α} {next : α → Front.Step β} {after : β → Prop}
    (first : Ensures post step) (rest : ∀ value, post value → Ensures after (next value)) :
    Ensures after (step >>= next) := by
  cases step with
  | ok value => exact rest value first
  | error response => exact first

/-- A step that ensures something ensures what follows from it. -/
theorem Ensures.mono {step : Front.Step α} {weaker : α → Prop} (h : Ensures post step)
    (weaken : ∀ value, post value → weaker value) : Ensures weaker step := by
  cases step with
  | ok value => exact weaken value h
  | error response => exact h

/-- A fixed refusal ensures anything. -/
theorem ensures_refuse {r : Rejection} (listed : r.response ∈ fixedErrors) :
    Ensures post (Front.refuse r) := listed

/-- A condition is met, or a fixed response is given. -/
theorem ensures_require (condition : Bool) {r : Rejection} (listed : r.response ∈ fixedErrors) :
    Ensures (fun _ => True) (Front.require condition r) := by
  cases condition with
  | true => trivial
  | false => exact listed

end Steps

/-- The name of an instance is read from the path, or a fixed response is given. -/
theorem ensures_parameter_instance (spelled : Bytes) :
    Ensures (fun _ => True) (Front.parameter (Route.instanceName spelled)) := by
  unfold Route.instanceName Route.parameter
  split
  · trivial
  · simp [Ensures, Front.parameter, fixedErrors]

/-- The name of a binding is read from the path, or a fixed response is given. -/
theorem ensures_parameter_binding (spelled : Bytes) :
    Ensures (fun _ => True) (Front.parameter (Route.bindingName spelled)) := by
  unfold Route.bindingName Route.parameter
  split
  · trivial
  · simp [Ensures, Front.parameter, fixedErrors]

/-- A key that is found twice is one of those that are known. -/
theorem mem_of_duplicate? {seen : List String} {pairs : List (String × String)} {key : String}
    (twice : Query.duplicate? seen pairs = some key) : key ∈ Query.knownKeys := by
  induction pairs generalizing seen with
  | nil => cases twice
  | cons pair rest ih =>
    unfold Query.duplicate? at twice
    split_ifs at twice with known again
    · rwa [← Option.some.inj twice]
    · exact ih twice
    · exact ih twice

/-- The query is read, or a fixed response is given. -/
theorem ensures_query (request : Request) : Ensures (fun _ => True) (Front.query request) := by
  simp only [Front.query, Query.parse]
  cases twice : Query.duplicate? [] (Query.pairs (request.target.query.getD [])) with
  | none => trivial
  | some key =>
    have known := mem_of_duplicate? twice
    exact List.mem_append_left _ (List.mem_append_right _ (List.mem_map_of_mem known))

/-- The body is taken as it was sent, or a fixed response is given. -/
theorem ensures_body (request : Request) : Ensures (· = request.body) (Front.body request) := by
  unfold Front.body
  split
  · rfl
  · simp [Ensures, fixedErrors]

/-- The body is read as a request for a service, or a fixed response is given. -/
theorem ensures_serviceRequest (body : Bytes) :
    Ensures (fun asked => ServiceRequest.parse? body = some asked) (Front.serviceRequest body) := by
  unfold Front.serviceRequest
  cases parsed : ServiceRequest.parse? body with
  | none => exact ensures_refuse (by simp [fixedErrors])
  | some asked => rfl

section Offers

variable (front : Front) (serviceId planId : String)

/-- A service is found, or a fixed response is given. -/
theorem ensures_service : Ensures (fun _ => True) (front.service serviceId) := by
  unfold Front.service
  split
  · trivial
  · exact ensures_refuse (by simp [fixedErrors])

/-- A plan is found, or a fixed response is given. -/
theorem ensures_plan (service : CatalogService) :
    Ensures (fun _ => True) (Front.plan service planId) :=
  ensures_require _ (by simp [fixedErrors])

/-- The identifiers are of an offer, or a fixed response is given. -/
theorem ensures_checkIds : Ensures (fun _ => True) (front.checkIds serviceId planId) := by
  refine (ensures_require _ (by simp [fixedErrors])).bind fun _ _ => ?_
  refine (ensures_require _ (by simp [fixedErrors])).bind fun _ _ => ?_
  exact (ensures_service front serviceId).bind fun service _ => ensures_plan planId service

/-- The operation of an order is not to provision, or its parameters are those of the body. -/
def Verbatim (request : Request) (order : Front.Order) : Prop :=
  ∀ name raw, order.2 = .provision name raw →
    ∃ asked, ServiceRequest.parse? request.body = some asked ∧ asked.parameters = raw

variable {request : Request} {operation : Lifecycle.Request}

/-- A handler is found for the order, or a fixed response is given. -/
theorem ensures_handler (verbatim : ∀ handler, Verbatim request (handler, operation)) :
    Ensures (Verbatim request) (do return (← front.handler serviceId planId, operation)) := by
  unfold Front.handler
  cases front.registry.handler? serviceId planId with
  | none => exact ensures_refuse (by simp [fixedErrors])
  | some handler => exact verbatim handler

end Offers

section Polls

variable (front : Front) (query : Query)

/-- The operation that is polled is read, or a fixed response is given. -/
theorem ensures_polledOperation : Ensures (fun _ => True) (Front.polledOperation query) := by
  simp only [Front.polledOperation]
  split_ifs
  · exact ensures_refuse (by simp [fixedErrors])
  · split
    · trivial
    · exact ensures_refuse (by simp [fixedErrors])

/-- The plan that is polled is found, or a fixed response is given. -/
theorem ensures_polledPlan : Ensures (fun _ => True) (front.polledPlan query) := by
  simp only [Front.polledPlan]
  split_ifs
  · trivial
  · refine (ensures_service front _).bind fun service _ => ?_
    exact (ensures_plan _ service).bind fun _ _ => trivial
  · exact (ensures_service front _).bind fun _ _ => trivial

/-- A poll without an offer ends in a fixed response. -/
theorem ensures_polledWithoutOffer (operation : Operation) :
    Ensures (fun _ => True) (Front.polledWithoutOffer operation) := by
  cases operation with
  | provisioning | deprovisioning => exact ensures_refuse (by simp [fixedErrors])
  | updating | binding | unbinding => trivial

end Polls

section Operations

variable (front : Front) (request : Request) (spelled bound : Bytes)

/-- A request to provision is ordered as it stands in the body, or gets a fixed response. -/
theorem ensures_provision : Ensures (Verbatim request) (front.provision request spelled) := by
  refine (ensures_parameter_instance spelled).bind fun name _ => ?_
  refine (ensures_query request).bind fun query _ => ?_
  refine (ensures_body request).bind fun body whole => ?_
  subst whole
  refine (ensures_require _ (by simp [fixedErrors])).bind fun _ _ => ?_
  refine (ensures_serviceRequest request.body).bind fun asked parsed => ?_
  refine (ensures_checkIds front _ _).bind fun _ _ => ensures_handler front _ _ fun handler => ?_
  intro name' raw same
  cases same
  exact ⟨asked, parsed, rfl⟩

/-- A request to update gets a fixed response. -/
theorem ensures_update : Ensures (Verbatim request) (Front.update spelled) := by
  refine (ensures_parameter_instance spelled).bind fun _ _ => ?_
  exact ensures_refuse (by simp [fixedErrors])

/-- A request to deprovision is ordered, or gets a fixed response. -/
theorem ensures_deprovision : Ensures (Verbatim request) (front.deprovision request spelled) := by
  refine (ensures_parameter_instance spelled).bind fun name _ => ?_
  refine (ensures_query request).bind fun query _ => ?_
  refine (ensures_require _ (by simp [fixedErrors])).bind fun _ _ => ?_
  refine (ensures_checkIds front _ _).bind fun _ _ => ensures_handler front _ _ fun handler => ?_
  intro name' raw same
  cases same

/-- A poll is ordered, or gets a fixed response. -/
theorem ensures_lastOperation :
    Ensures (Verbatim request) (front.lastOperation request spelled) := by
  refine (ensures_parameter_instance spelled).bind fun name _ => ?_
  refine (ensures_query request).bind fun query _ => ?_
  refine (ensures_polledOperation query).bind fun operation _ => ?_
  refine (ensures_polledPlan front query).bind fun planId _ => ?_
  have handing : Ensures (Verbatim request)
      (do return (← front.handler (query.serviceId.getD "") planId, .poll operation name)) :=
    ensures_handler front _ _ fun handler name' raw same => by cases same
  split_ifs
  · exact (ensures_polledWithoutOffer operation).bind fun _ _ => handing
  · exact handing

/-- A request to bind is ordered, or gets a fixed response. -/
theorem ensures_bind : Ensures (Verbatim request) (front.bind request spelled bound) := by
  refine (ensures_parameter_instance spelled).bind fun name _ => ?_
  refine (ensures_parameter_binding bound).bind fun binding _ => ?_
  refine (ensures_body request).bind fun body _ => ?_
  refine (ensures_serviceRequest body).bind fun asked _ => ?_
  refine (ensures_checkIds front _ _).bind fun _ _ => ensures_handler front _ _ fun handler => ?_
  intro name' raw same
  cases same

/-- A request to unbind is ordered, or gets a fixed response. -/
theorem ensures_unbind : Ensures (Verbatim request) (front.unbind request spelled bound) := by
  refine (ensures_parameter_instance spelled).bind fun name _ => ?_
  refine (ensures_parameter_binding bound).bind fun binding _ => ?_
  refine (ensures_query request).bind fun query _ => ?_
  refine (ensures_checkIds front _ _).bind fun _ _ => ensures_handler front _ _ fun handler => ?_
  intro name' raw same
  cases same

/-- On every route a request is ordered, or gets a fixed response. -/
theorem ensures_order? {route : Route} {order : Front.Step Front.Order}
    (ordered : front.order? request route = some order) : Ensures (Verbatim request) order := by
  unfold Front.order? at ordered
  split at ordered
  · cases ordered
  · cases ordered
  · split at ordered <;> cases ordered
    · exact ensures_provision front request _
    · exact ensures_update request _
    · exact ensures_deprovision front request _
  · cases ordered
    exact ensures_lastOperation front request _
  · split at ordered <;> cases ordered
    · exact ensures_bind front request _ _
    · exact ensures_unbind front request _ _

end Operations

end Http
end ServiceBroker

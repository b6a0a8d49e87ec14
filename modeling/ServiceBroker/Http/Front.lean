/-
# The front of the broker

What becomes of a request before a handler is asked: a response, or an operation of the
lifecycle with the handler that performs it.  Checks come in a fixed order, and the
first that fails answers the request.
-/

import ServiceBroker.Catalog.Builtin
import ServiceBroker.Catalog.Document
import ServiceBroker.Http.Gate
import ServiceBroker.Http.Route
import ServiceBroker.Registry

namespace ServiceBroker
namespace Http

/-- What a broker shows, has handled and asks for. -/
structure Front where
  catalog : Catalog := .builtin
  registry : Registry := .databases
  auth : BasicAuth := {}

/-- What becomes of a request. -/
inductive Decision where
  | reply (response : Response)
  | perform (handler : DatabaseHandler) (request : Lifecycle.Request)

/-- The response that a decision leads to, with handlers that answer in a monad. -/
def Decision.respond {m : Type → Type} [Monad m]
    (answer : DatabaseHandler → (call : Handler.Call) → m call.Answer) : Decision → m Response
  | reply response => pure response
  | perform handler request =>
    Response.ofOutcome <$> (Lifecycle.perform request).run (I := Handler.interface) (answer handler)

/-- The body of a request to provision or to bind. -/
structure ServiceRequest where
  serviceId : String
  planId : String
  parameters : Option Json

namespace ServiceRequest

/-- The fields in order of declaration. -/
def fieldShapes : List (String × Json.Shape) :=
  [("service_id", .any), ("plan_id", .any), ("parameters", .any)]

def ofJson? (v : Json) : Option ServiceRequest := do
  let fields ← v.fields? (fieldShapes.map (·.1))
  return {
    serviceId := ← fields.orElse "service_id" "" Json.string?
    planId := ← fields.orElse "plan_id" "" Json.string?
    parameters := ← fields.optional "parameters" some }

/-- The request that a body carries. -/
def parse? (body : Bytes) : Option ServiceRequest := do
  ofJson? (← Json.parseAs? (.record fieldShapes) body)

end ServiceRequest

namespace Front

/-- A step on the way to an operation, which may end in a response. -/
abbrev Step (α : Type) := Except Response α

def refuse {α : Type} (r : Rejection) : Step α := .error r.response

def require (condition : Bool) (r : Rejection) : Step Unit :=
  if condition then .ok () else refuse r

/-- The largest body that is read. -/
def maxBody : Nat := 2097152

/-- A parameter of the path. -/
def parameter : Except String String → Step String
  | .ok text => .ok text
  | .error name => .error (.ofText 400 ("Invalid URL: Invalid UTF-8 in `" ++ name ++ "`"))

/-- The query of a request. -/
def query (request : Request) : Step Query :=
  match Query.parse request.target.query with
  | .ok query => .ok query
  | .error key => .error (.ofText 400
      ("Failed to deserialize query string: duplicate field `" ++ key ++ "`"))

/-- The body of a request. -/
def body (request : Request) : Step Bytes :=
  if request.body.length ≤ maxBody then .ok request.body
  else .error (.ofText 413 "Failed to buffer the request body: length limit exceeded")

/-- What a body asks for. -/
def serviceRequest (body : Bytes) : Step ServiceRequest :=
  match ServiceRequest.parse? body with
  | some request => .ok request
  | none => refuse .malformedRequestBody

/-- A service of the catalog. -/
def service (front : Front) (id : String) : Step CatalogService :=
  match front.catalog.service? id with
  | some service => .ok service
  | none => refuse .invalidServiceId

/-- A plan of a service has to be known. -/
def plan (service : CatalogService) (id : String) : Step Unit :=
  require (service.plan? id).isSome .invalidPlanId

/-- Service and plan have to be given and known. -/
def checkIds (front : Front) (serviceId planId : String) : Step Unit := do
  require (serviceId ≠ "") .serviceIdRequired
  require (planId ≠ "") .planIdRequired
  plan (← front.service serviceId) planId

/-- The handler for a service and a plan. -/
def handler (front : Front) (serviceId planId : String) : Step DatabaseHandler :=
  match front.registry.handler? serviceId planId with
  | some handler => .ok handler
  | none => refuse .malformedRequestBody

/-- An operation with its handler. -/
abbrev Order := DatabaseHandler × Lifecycle.Request

def provision (front : Front) (request : Request) (spelled : Bytes) : Step Order := do
  let name ← parameter (Route.instanceName spelled)
  let query ← query request
  let body ← body request
  require query.acceptsAsync .asyncRequired
  let asked ← serviceRequest body
  front.checkIds asked.serviceId asked.planId
  return (← front.handler asked.serviceId asked.planId, .provision name asked.parameters)

def update (spelled : Bytes) : Step Order := do
  let _ ← parameter (Route.instanceName spelled)
  refuse .updateUnsupported

def deprovision (front : Front) (request : Request) (spelled : Bytes) : Step Order := do
  let name ← parameter (Route.instanceName spelled)
  let query ← query request
  require query.acceptsAsync .asyncRequired
  let serviceId := query.serviceId.getD ""
  let planId := query.planId.getD ""
  front.checkIds serviceId planId
  return (← front.handler serviceId planId, .deprovision name)

/-- The operation that a poll is about. -/
def polledOperation (query : Query) : Step Operation :=
  let name := query.operation.getD ""
  if name = "" then refuse .operationRequired
  else match (Operation.ofName? name).filter (·.isPollable) with
    | some operation => .ok operation
    | none => refuse .operationInvalid

/-- The plan that a poll names next to a service; both may be left out but have to be known when
they are given, the plan only next to a service. -/
def polledPlan (front : Front) (query : Query) : Step String := do
  let serviceId := query.serviceId.getD ""
  if serviceId = "" then return ""
  let service ← front.service serviceId
  let planId := query.planId.getD ""
  if planId ≠ "" then plan service planId
  return planId

/-- The answer to a poll without service or plan: there is nothing left to look up for an instance
that is going away. -/
def polledWithoutOffer : Operation → Step Unit
  | .provisioning => refuse .serviceIdRequired
  | .deprovisioning => refuse .gone
  | _ => .ok ()

def lastOperation (front : Front) (request : Request) (spelled : Bytes) : Step Order := do
  let name ← parameter (Route.instanceName spelled)
  let query ← query request
  let operation ← polledOperation query
  let serviceId := query.serviceId.getD ""
  let planId ← front.polledPlan query
  if serviceId = "" ∨ planId = "" then polledWithoutOffer operation
  return (← front.handler serviceId planId, .poll operation name)

def bind (front : Front) (request : Request) (spelled bound : Bytes) : Step Order := do
  let name ← parameter (Route.instanceName spelled)
  let binding ← parameter (Route.bindingName bound)
  let asked ← serviceRequest (← body request)
  front.checkIds asked.serviceId asked.planId
  return (← front.handler asked.serviceId asked.planId, .bind name binding)

def unbind (front : Front) (request : Request) (spelled bound : Bytes) : Step Order := do
  let name ← parameter (Route.instanceName spelled)
  let binding ← parameter (Route.bindingName bound)
  let query ← query request
  let serviceId := query.serviceId.getD ""
  let planId := query.planId.getD ""
  front.checkIds serviceId planId
  return (← front.handler serviceId planId, .unbind name binding)

/-- The operation that a request for a route asks for; none for the routes that have none. -/
def order? (front : Front) (request : Request) : Route → Option (Step Order)
  | .health | .catalog => none
  | .inst spelled => match request.method with
    | .put => some (front.provision request spelled)
    | .patch => some (update spelled)
    | _ => some (front.deprovision request spelled)
  | .lastOperation spelled => some (front.lastOperation request spelled)
  | .binding spelled bound => match request.method with
    | .put => some (front.bind request spelled bound)
    | _ => some (front.unbind request spelled bound)

/-- What a route without an operation shows. -/
def page (front : Front) : Route → Response
  | .catalog => .ofJson 200 front.catalog.toJson
  | _ => .blank 200

/-- What becomes of a request for a route that takes its method. -/
def onRoute (front : Front) (request : Request) (route : Route) : Decision :=
  match front.order? request route with
  | none => .reply (front.page route)
  | some (.ok (handler, operation)) => .perform handler operation
  | some (.error response) => .reply response

/-- The methods to tell of a path that does not take the method of a request. -/
def allowed? (request : Request) (route : Option Route) : Option (List Method) :=
  match route with
  | none => none
  | some route => if request.method ∈ route.methods then none else some route.methods

/-- Why the gate refuses a request for a path, if it does; what is public has no gate. -/
def refused? (front : Front) (request : Request) (route : Option Route) : Option Rejection :=
  if route.any Route.isPublic then none else Gate.check front.auth request.headers

/-- What becomes of a request. -/
def decide (front : Front) (request : Request) : Decision :=
  let route := Route.ofPath? request.target.path
  let allow := allowed? request route
  match front.refused? request route with
  | some r => .reply { r.response with allow }
  | none =>
    match route, allow with
    | none, _ => .reply (.bare 404)
    | some _, some methods => .reply { Response.bare 405 with allow := some methods }
    | some route, none => front.onRoute request route

/-- A response as it is sent for a method: `HEAD` has no body. -/
def sent (method : Method) (response : Response) : Response :=
  if method = .head then { response with body := .empty } else response

/-- The response to a request, with handlers that answer in a monad. -/
def respond {m : Type → Type} [Monad m] (front : Front)
    (answer : DatabaseHandler → (call : Handler.Call) → m call.Answer) (request : Request) :
    m Response :=
  sent request.method <$> (front.decide request).respond answer

end Front
end Http
end ServiceBroker

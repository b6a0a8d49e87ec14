/-
# Responses

What the broker answers: a status, perhaps the methods that a path takes, and a body.
Requests that are refused have an error code and a description; what comes of an
operation is told by status.
-/

import ServiceBroker.Http.Request
import ServiceBroker.Lifecycle

namespace ServiceBroker
namespace Http

/-- The body of a response. -/
inductive Body where
  | empty
  | json (value : Json)
  | text (value : String)

/-- A response. -/
structure Response where
  status : Nat
  body : Body
  /-- The content type, which stays when a body is left out. -/
  contentType : Option String
  allow : Option (List Method) := none

namespace Response

def ofJson (status : Nat) (value : Json) : Response :=
  ⟨status, .json value, some "application/json", none⟩

def ofText (status : Nat) (value : String) : Response :=
  ⟨status, .text value, some "text/plain; charset=utf-8", none⟩

/-- A response without a body. -/
def bare (status : Nat) : Response := ⟨status, .empty, none, none⟩

/-- A response that says no more than its status. -/
def blank (status : Nat) : Response := ofJson status (.object [])

end Response

/-- The header that tells the version of the interface. -/
def versionHeader : String := "X-Broker-API-Version"

/-- Why a request is refused. -/
inductive Rejection where
  | unauthorized
  | missingApiVersion
  | apiVersionIncorrect
  | asyncRequired
  | serviceIdRequired
  | planIdRequired
  | invalidServiceId
  | invalidPlanId
  | malformedRequestBody
  | malformedParameter (detail : String)
  | operationRequired
  | operationInvalid
  | updateUnsupported
  | gone
  | internal (text : String)
deriving DecidableEq, Repr

namespace Rejection

def status : Rejection → Nat
  | unauthorized => 401
  | missingApiVersion | apiVersionIncorrect => 412
  | asyncRequired | updateUnsupported => 422
  | gone => 410
  | internal _ => 500
  | serviceIdRequired | planIdRequired | invalidServiceId | invalidPlanId | malformedRequestBody
  | malformedParameter _ | operationRequired | operationInvalid => 400

/-- The code and the description of a refusal; some have none. -/
def description? : Rejection → Option (String × String)
  | unauthorized | gone | internal _ => none
  | missingApiVersion => some ("MissingAPIVersion",
      "The request did not include the " ++ versionHeader ++ " header")
  | apiVersionIncorrect => some ("APIVersionIncorrect",
      versionHeader ++ " header includes an incompatible version")
  | asyncRequired => some ("AsyncRequired",
      "This service plan requires client support for asynchronous service operations.")
  | serviceIdRequired => some ("ServiceIdRequired", "service_id is a required field.")
  | planIdRequired => some ("PlanIdRequired", "plan_id is a required field.")
  | invalidServiceId => some ("InvalidServiceId", "The provided service_id is invalid.")
  | invalidPlanId => some ("InvalidPlanId", "The provided plan_id is invalid.")
  | malformedRequestBody => some ("MalformedRequestBody",
      "The request body did not contain valid, well-formed JSON")
  | malformedParameter detail => some ("MalformedRequestBody",
      "The request body did not contain valid: " ++ detail)
  | operationRequired => some ("OperationRequired",
      "The polling request did not include the required operation query parameter")
  | operationInvalid => some ("OperationInvalid",
      "The polling request included an invalid value for the required operation query parameter")
  | updateUnsupported => some ("UpdateUnsupported", "Updating a service instance is not supported")

/-- The body of a refusal. -/
def body (r : Rejection) : Json :=
  match r.description? with
  | none => .object []
  | some (code, description) =>
    .object [("description", .string description), ("error", .string code)]

/-- The text of a refusal for the log. -/
def message : Rejection → String
  | unauthorized => "unauthorized"
  | missingApiVersion => "missing " ++ versionHeader ++ " header"
  | apiVersionIncorrect => "incompatible " ++ versionHeader ++ " header"
  | asyncRequired => "accepts_incomplete=true is required"
  | serviceIdRequired => "service_id is required"
  | planIdRequired => "plan_id is required"
  | invalidServiceId => "unknown service_id"
  | invalidPlanId => "unknown plan_id"
  | malformedRequestBody => "malformed request body"
  | malformedParameter detail => "invalid request: " ++ detail
  | operationRequired => "operation query parameter is required"
  | operationInvalid => "invalid operation query parameter"
  | updateUnsupported => "service instance updates are not supported"
  | gone => "gone"
  | internal text => "internal error: " ++ text

def response (r : Rejection) : Response := .ofJson r.status r.body

end Rejection

namespace Response

/-- The answer that an operation has begun. -/
def accepted (operation : Operation) : Response :=
  .ofJson 202 (.object [("operation", .string operation.name)])

/-- The answer that something exists with other attributes. -/
def conflict (description : String) : Response :=
  .ofJson 409 (.object [("description", .string description)])

def withCredentials (status : Nat) (c : Credentials) : Response :=
  .ofJson status (.object [("credentials", c.toJson)])

/-- The answer to a request about an instance that does not exist. -/
def instanceNotFound : Response := (Rejection.malformedParameter "Instance not found").response

def ofProvision : Lifecycle.ProvisionOutcome → Response
  | .accepted => accepted .provisioning
  | .alreadyProvisioned => blank 200
  | .conflict => conflict "A service instance exists with the specified service id"
  | .invalidParameters text => (Rejection.malformedParameter text).response
  | .internalError => blank 500

def ofDeprovision : Lifecycle.DeprovisionOutcome → Response
  | .accepted => accepted .deprovisioning
  | .gone => blank 410
  | .unprocessable => .ofJson 400 (.object [
      ("description", .string "Instance is migrating. Please try again later."),
      ("error", .string "UnprocessableState")])
  | .internalError => blank 500

def ofPoll (outcome : Lifecycle.PollOutcome) : Response :=
  match outcome.progress? with
  | some .gone => blank 410
  | some progress => .ofJson 200 (.object [("state", .string progress.name)])
  | none => blank 500

def ofBind : Lifecycle.BindOutcome → Response
  | .created c => withCredentials 201 c
  | .alreadyBound c => withCredentials 200 c
  | .conflict => conflict "A service binding exists with the specified binding id"
  | .instanceNotFound => instanceNotFound
  | .internalError => blank 500

def ofUnbind : Lifecycle.UnbindOutcome → Response
  | .unbound => blank 200
  | .instanceNotFound => instanceNotFound
  | .internalError => blank 500

/-- What comes of an operation as a response. -/
def ofOutcome : Lifecycle.Outcome → Response
  | .provision outcome => ofProvision outcome
  | .deprovision outcome => ofDeprovision outcome
  | .poll outcome => ofPoll outcome
  | .bind outcome => ofBind outcome
  | .unbind outcome => ofUnbind outcome

end Response
end Http
end ServiceBroker

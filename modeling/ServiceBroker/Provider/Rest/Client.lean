/-
# A provider behind a REST interface

Calls to the provider as exchanges of requests and replies.  A reply says that there is
nothing, that the provider refuses, or carries a value; a failure that may pass is
tried again a number of times, after a pause each.

To send a request is to hand it to an HTTP library.  What that does with it is left to
the world that answers: whether it can put the request together at all, for which the
address has to be one and the headers have to be free of control characters, how long it
waits, which redirections it follows, and how it reads the bytes of a body as text.
-/

import ServiceBroker.Config
import ServiceBroker.Http.Percent
import ServiceBroker.Json.Text
import ServiceBroker.Provider.Rest.Wire
import ServiceBroker.Text.Base64
import ServiceBroker.Text.Blank

namespace ServiceBroker
namespace Provider
namespace Rest

/-- What a request does to what its path names. -/
inductive Verb where
  | get
  | post
  | delete
deriving DecidableEq, Repr

def Verb.name : Verb → String
  | get => "GET"
  | post => "POST"
  | delete => "DELETE"

/-- A request to the provider. -/
structure Request where
  verb : Verb
  url : String
  headers : List (String × String)
  body : Option Json := none

/-- A reply of the provider, its body read as text. -/
structure Reply where
  status : Nat
  text : String
deriving DecidableEq, Repr

/-- What the client asks of the world. -/
inductive Exchange where
  /-- Sends a request and waits for the reply; none when it cannot be put together, cannot be
  brought to the provider, or is not answered in full. -/
  | send (request : Request)
  /-- Lets time pass. -/
  | pause (time : Duration)

abbrev Exchange.Answer : Exchange → Type
  | send _ => Option Reply
  | pause _ => Unit

/-- The questions that a client asks. -/
abbrev exchange : Interface := ⟨Exchange, Exchange.Answer⟩

/-- How a client reaches its provider. -/
structure Client where
  baseUrl : String
  accessToken : String
  accessTokenSecret : String
  acceptLanguage : Option String
  retryMax : UInt32
  retryInterval : Duration
  waitTimeout : Duration
  pollInterval : Duration
deriving DecidableEq, Repr

namespace Client

/-- A text without the slashes at its end. -/
def trimSlashes (s : String) : String :=
  String.ofList (s.toList.reverse.dropWhile (· = '/')).reverse

/-- The client for a configuration. -/
def ofConfig (config : ProviderConfig) : Client where
  baseUrl := trimSlashes config.apiRootUrl ++ "/" ++ config.zone ++ "/api/cloud/1.1"
  accessToken := config.accessToken
  accessTokenSecret := config.accessTokenSecret
  acceptLanguage := config.acceptLanguage.filter (· ≠ "")
  retryMax := config.retryMax
  retryInterval := config.retryInterval
  waitTimeout := config.waitTimeout
  pollInterval := config.pollInterval

/-- The name under which the client presents itself. -/
def userAgent : String := "open-service-broker-sacloud/v0.4.0"

/-- The credentials of the client as a header. -/
def authorization (client : Client) : String :=
  "Basic " ++ Base64.encode
    (Bytes.ofText (client.accessToken ++ ":" ++ client.accessTokenSecret))

/-- A request for a path. -/
def request (client : Client) (verb : Verb) (path : String) (body : Option Json) : Request where
  verb
  url := client.baseUrl ++ path
  headers :=
    [("authorization", client.authorization), ("accept", "application/json"),
      ("user-agent", userAgent)] ++
    (client.acceptLanguage.toList.map fun language => ("accept-language", language)) ++
    (body.toList.map fun _ => ("content-type", "application/json"))
  body

/-- What a refusal says: the member `error_msg` of its body, or the beginning of the body. -/
def refusalText (body : String) : String :=
  match (Json.parse? (Bytes.ofText body)).bind (·.member? "error_msg") with
  | some (.string text) => text
  | _ => String.ofList (body.toList.take 200)

/-- What a reply says: a value, nothing, or a failure. -/
def judge : Option Reply → Except ProviderError (Option Json)
  | none => .error .http
  | some reply =>
    if reply.status = 404 then .ok none
    else if reply.status < 200 ∨ 300 ≤ reply.status then
      .error (.api (UInt16.ofNat reply.status) (refusalText reply.text))
    else if reply.text.toList.all Text.isBlank then .ok (some .null)
    else match Json.parse? (Bytes.ofText reply.text) with
      | some value => .ok (some value)
      | none => .error (.decode none)

/-- Sends a request once. -/
def attempt (request : Request) : Program exchange (Except ProviderError (Option Json)) :=
  .ask (I := exchange) (.send request) fun reply => .done (judge reply)

/-- Sends a request until what comes of it will not pass, at most a number of times again. -/
def retrying (interval : Duration) (request : Request) :
    Nat → Program exchange (Except ProviderError (Option Json))
  | 0 => attempt request
  | n + 1 => do
    match ← attempt request with
    | .error e =>
      if e.isTransient then
        let () ← Program.call (I := exchange) (.pause interval)
        retrying interval request n
      else return .error e
    | .ok value => return .ok value

/-- A program of the client that may fail. -/
abbrev Action (α : Type) := ExceptT ProviderError (Program exchange) α

/-- What a request brings; nothing when there is nothing under the path. -/
def call (client : Client) (verb : Verb) (path : String) (body : Option Json := none) :
    Action (Option Json) :=
  ExceptT.mk (retrying client.retryInterval (client.request verb path body) client.retryMax.toNat)

/-- What a request brings; there has to be something under the path. -/
def callExisting (client : Client) (verb : Verb) (path : String) (body : Option Json := none) :
    Action Json := do
  match ← client.call verb path body with
  | some value => return value
  | none => throw (.notFound path)

/-- A value read in its form. -/
def decode {α : Type} (read : Json → Option α) (v : Json) : Action α :=
  match read v with
  | some value => return value
  | none => throw (.decode none)

/-- The path of an appliance. -/
def appliancePath (id : ApplianceId) : String := "/appliance/" ++ id.text

/-- The filter of a search by name. -/
def filter (name : String) : Json :=
  .object [("Filter", .object [("Class", .string "database"), ("Name", .string name)])]

/-- The path of a search by name. -/
def searchPath (name : String) : String :=
  "/appliance?" ++ Bytes.latin (Percent.encode (Bytes.ofText (filter name).text))

def authStatus (client : Client) : Action Account := do
  decode Wire.account? (← client.callExisting .get "/auth-status")

def find (client : Client) (name : String) : Action (List Appliance) := do
  let listed ← decode Wire.listing? (← client.callExisting .get (searchPath name))
  ExceptT.mk (pure (Wire.exactMatches name listed))

def read (client : Client) (id : ApplianceId) : Action (Option Appliance) := do
  match ← client.call .get (appliancePath id) with
  | none => return none
  | some value =>
    let found ← decode Wire.single? value
    return some (← ExceptT.mk (pure found.toAppliance))

def create (client : Client) (order : ApplianceOrder) : Action Appliance := do
  let value ← client.callExisting .post "/appliance" (some (Wire.orderBody order))
  let found ← decode Wire.single? value
  ExceptT.mk (pure found.toAppliance)

def stop (client : Client) (id : ApplianceId) : Action Unit := do
  let _ ← client.callExisting .delete (appliancePath id ++ "/power")

def status (client : Client) (id : ApplianceId) : Action (Option String) := do
  match ← client.call .get (appliancePath id ++ "/status") with
  | none => return none
  | some value => decode Wire.status? value

def delete (client : Client) (id : ApplianceId) : Action Unit := do
  let _ ← client.callExisting .delete (appliancePath id)

/-- The calls to a provider as exchanges. -/
def answer (client : Client) : (call : Call) → Program exchange call.Answer
  | .authStatus => client.authStatus
  | .find name => client.find name
  | .read id => client.read id
  | .create order => client.create order
  | .stop id => client.stop id
  | .status id => client.status id
  | .delete id => client.delete id

end Client
end Rest
end Provider
end ServiceBroker

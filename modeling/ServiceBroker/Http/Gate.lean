/-
# The gate

What a request has to show before anything else is looked at: the credentials of the
broker, when it has any, and a version of the interface that it speaks.
-/

import ServiceBroker.Config
import ServiceBroker.Http.Response
import ServiceBroker.Text.Base64

namespace ServiceBroker
namespace Http
namespace Gate

/-- The text before and the text behind the first occurrence of a character. -/
def cut? (c : Char) (s : String) : Option (String × String) :=
  match s.toList.dropWhile (· ≠ c) with
  | [] => none
  | _ :: rest => some (String.ofList (s.toList.takeWhile (· ≠ c)), String.ofList rest)

/-- The user and the password that headers carry. -/
def credentials? (headers : Headers) : Option (String × String) := do
  let value ← headers.text? "Authorization"
  let (scheme, encoded) ← cut? ' ' value
  if scheme = "Basic" then
    let decoded ← Bytes.text? (← Base64.decode? encoded)
    cut? ':' decoded
  else none

/-- The headers carry the credentials that are asked for, if any are. -/
def isAuthorized (auth : BasicAuth) (headers : Headers) : Bool :=
  !auth.isEnabled || credentials? headers = some (auth.username, auth.password)

/-- The version of the interface that headers tell; none counts as empty. -/
def version (headers : Headers) : String := (headers.text? versionHeader).getD ""

/-- A version that the broker speaks. -/
def isSupported (version : String) : Bool := "2.".toList.isPrefixOf version.toList

/-- Why headers are refused, if they are. -/
def check (auth : BasicAuth) (headers : Headers) : Option Rejection :=
  if !isAuthorized auth headers then some .unauthorized
  else if version headers = "" then some .missingApiVersion
  else if !isSupported (version headers) then some .apiVersionIncorrect
  else none

end Gate
end Http
end ServiceBroker

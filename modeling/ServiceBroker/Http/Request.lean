/-
# Requests

A request as it reaches the broker: method, target, headers and body.
-/

import ServiceBroker.Http.Target

namespace ServiceBroker
namespace Http

/-- A character of the names of methods and headers. -/
def isTokenChar (c : Char) : Bool := c.isAlphanum || "!#$%&'*+-.^_`|~".toList.contains c

/-- Letters, digits and some other characters, at least one of them. -/
def isToken (name : String) : Bool := name ≠ "" && name.toList.all isTokenChar

/-- What a request wants of its target. -/
inductive Method where
  | get
  | head
  | put
  | patch
  | delete
  | other (name : String)
deriving DecidableEq, Repr

namespace Method

def name : Method → String
  | get => "GET"
  | head => "HEAD"
  | put => "PUT"
  | patch => "PATCH"
  | delete => "DELETE"
  | other name => name

/-- The method with a name, which counts as it is written. -/
def ofName? (name : String) : Option Method :=
  if isToken name then
    some (([get, head, put, patch, delete].find? (·.name = name)).getD (other name))
  else none

end Method

/-- The headers of a request in order: names, and values as bytes. -/
abbrev Headers := List (String × Bytes)

/-- A request. -/
structure Request where
  method : Method
  target : Target
  headers : Headers := []
  body : Bytes := []

namespace Headers

/-- A name without regard to the case of ASCII letters. -/
def fold (name : String) : String := String.ofList (name.toList.map Char.toLower)

/-- A byte that a header value may have to count as text. -/
def isVisible (b : UInt8) : Bool := b = 0x09 || (0x20 ≤ b && b < 0x7f)

/-- The value of the first header with a name, if it is visible ASCII. -/
def text? (headers : Headers) (name : String) : Option String := do
  let (_, value) ← headers.find? fun (n, _) => fold n = fold name
  if value.all isVisible then some (Bytes.latin value) else none

/-- A header that can be sent: a name, and a value without control characters. -/
def isSendable (header : String × Bytes) : Bool :=
  isToken header.1 && header.2.all fun b => b = 0x09 || (0x20 ≤ b && b ≠ 0x7f)

end Headers

/-- The request with these parts, when each of them is well formed. -/
def Request.ofParts? (method : String) (uri : Bytes) (headers : Headers) (body : Bytes) :
    Option Request := do
  let method ← Method.ofName? method
  let target ← Target.ofUri? uri
  if headers.all Headers.isSendable then return { method, target, headers, body } else none

end Http
end ServiceBroker

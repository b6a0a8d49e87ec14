/-
# Routes

The paths that the broker serves, and the methods that each one takes.  A path is
matched segment by segment as it is spelled; a parameter takes one segment, which may
be empty unless it is the last one, and is percent-decoded afterwards.
-/

import ServiceBroker.Http.Query
import ServiceBroker.Http.Request

namespace ServiceBroker
namespace Http

/-- A path that the broker serves, its parameters as spelled. -/
inductive Route where
  | health
  | catalog
  | inst (name : Bytes)
  | lastOperation (name : Bytes)
  | binding (name binding : Bytes)
deriving DecidableEq, Repr

namespace Route

/-- The segments of a path that begins with a slash. -/
def segments (path : Bytes) : List Bytes := (Bytes.split 0x2f path).drop 1

/-- The route of a path. -/
def ofPath? (path : Bytes) : Option Route :=
  match segments path with
  | [a] => if a = Bytes.ofText "healthz" then some health else none
  | [a, b] =>
    if a = Bytes.ofText "v2" ∧ b = Bytes.ofText "catalog" then some catalog else none
  | [a, b, name] =>
    if a = Bytes.ofText "v2" ∧ b = Bytes.ofText "service_instances" ∧ name ≠ [] then
      some (inst name)
    else none
  | [a, b, name, c] =>
    if a = Bytes.ofText "v2" ∧ b = Bytes.ofText "service_instances" ∧
        c = Bytes.ofText "last_operation" then
      some (lastOperation name)
    else none
  | [a, b, name, c, bound] =>
    if a = Bytes.ofText "v2" ∧ b = Bytes.ofText "service_instances" ∧
        c = Bytes.ofText "service_bindings" ∧ bound ≠ [] then
      some (binding name bound)
    else none
  | _ => none

/-- The methods that a route takes. -/
def methods : Route → List Method
  | health | catalog | lastOperation _ => [.get, .head]
  | inst _ => [.put, .patch, .delete]
  | binding _ _ => [.put, .delete]

/-- The route is open to everybody. -/
def isPublic : Route → Bool
  | health => true
  | _ => false

/-- The text of a parameter, or its name where it is no UTF-8. -/
def parameter (name : String) (spelled : Bytes) : Except String String :=
  match Bytes.text? (Percent.decode spelled) with
  | some text => .ok text
  | none => .error name

/-- The name of an instance in a path. -/
def instanceName (spelled : Bytes) : Except String String := parameter "instance_id" spelled

/-- The name of a binding in a path. -/
def bindingName (spelled : Bytes) : Except String String := parameter "binding_id" spelled

end Route
end Http
end ServiceBroker

/-
# Query strings

The parts of a query that the broker knows.  A query is a list of pairs between
ampersands; a plus sign is a blank, percent coding is undone, and what is no UTF-8
becomes U+FFFD.  A known key may occur once.
-/

import ServiceBroker.Http.Percent

namespace ServiceBroker
namespace Http

/-- The parts of a query that the broker knows. -/
structure Query where
  acceptsIncomplete : Option String := none
  serviceId : Option String := none
  planId : Option String := none
  operation : Option String := none
deriving DecidableEq, Repr

namespace Query

/-- The text that a piece of a query stands for. -/
def component (bytes : Bytes) : String :=
  Bytes.textLossy (Percent.decode (bytes.map fun b => if b = 0x2b then 0x20 else b))

/-- The key and the value of a pair; without an equals sign the value is empty. -/
def pair (bytes : Bytes) : String × String :=
  (component (bytes.takeWhile (· ≠ 0x3d)), component ((bytes.dropWhile (· ≠ 0x3d)).drop 1))

/-- The pairs of a query; empty ones are left out. -/
def pairs (query : Bytes) : List (String × String) :=
  ((Bytes.split 0x26 query).filter (· ≠ [])).map pair

/-- The keys that the broker knows. -/
def knownKeys : List String := ["accepts_incomplete", "service_id", "plan_id", "operation"]

/-- The first known key that occurs a second time. -/
def duplicate? : List String → List (String × String) → Option String
  | _, [] => none
  | seen, (key, _) :: rest =>
    if key ∈ knownKeys then
      if key ∈ seen then some key else duplicate? (key :: seen) rest
    else duplicate? seen rest

/-- The known parts of a query, or the key that occurs twice. -/
def parse (query : Option Bytes) : Except String Query :=
  let found := pairs (query.getD [])
  match duplicate? [] found with
  | some key => .error key
  | none => .ok {
      acceptsIncomplete := found.lookup "accepts_incomplete"
      serviceId := found.lookup "service_id"
      planId := found.lookup "plan_id"
      operation := found.lookup "operation" }

/-- The spellings of yes. -/
def isTrue (value : String) : Bool := value ∈ ["1", "t", "T", "true", "TRUE", "True"]

/-- The platform takes an answer before the operation is complete. -/
def acceptsAsync (q : Query) : Bool := q.acceptsIncomplete.any isTrue

end Query
end Http
end ServiceBroker

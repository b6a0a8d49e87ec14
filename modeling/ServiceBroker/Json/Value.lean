/-
# JSON values

The values that requests, configurations and provider replies are made of.  A number
is an integer or a double, as its text says; the members of an object are listed in
ascending order of their keys, each key once, which `Json.ofMembers` establishes.
-/

import ServiceBroker.Decimal.Double

namespace ServiceBroker

/-- A JSON value. -/
inductive Json where
  | null
  | bool (value : Bool)
  | integer (value : Int)
  | double (value : Double)
  | string (value : String)
  | array (elements : List Json)
  | object (members : List (String × Json))
deriving Repr, Inhabited, BEq

namespace Json

/-- The members with one set: put at its place in key order, replacing an earlier one of that
key. -/
def insertMember (key : String) (value : Json) : List (String × Json) → List (String × Json)
  | [] => [(key, value)]
  | (k, v) :: rest =>
    if key = k then (key, value) :: rest
    else if key < k then (key, value) :: (k, v) :: rest
    else (k, v) :: insertMember key value rest

/-- An object from members in any order; of several with one key the last one counts. -/
def ofMembers (members : List (String × Json)) : Json :=
  .object (members.foldl (fun sorted (key, value) => insertMember key value sorted) [])

/-- The value of a member of an object. -/
def member? (key : String) : Json → Option Json
  | .object members => members.lookup key
  | _ => none

def string? : Json → Option String
  | .string s => some s
  | _ => none

def bool? : Json → Option Bool
  | .bool b => some b
  | _ => none

def integer? : Json → Option Int
  | .integer n => some n
  | _ => none

def array? : Json → Option (List Json)
  | .array elements => some elements
  | _ => none

def isNull : Json → Bool
  | .null => true
  | _ => false

/-- An object with those of the listed members that are set; the keys are listed in ascending
order. -/
def present (members : List (String × Option Json)) : Json :=
  .object (members.filterMap fun (key, value) => value.map (key, ·))

/-- A list of texts as an array. -/
def ofStrings (texts : List String) : Json := .array (texts.map .string)

/-- A text, or `null` for none. -/
def ofString? : Option String → Json
  | some s => .string s
  | none => .null

end Json
end ServiceBroker

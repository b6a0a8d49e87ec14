/-
# Parameters for creating an instance

The `parameters` object of a provision request, checked and typed.  Keys count
without regard to the case of ASCII letters, and unknown keys are ignored; of several
keys that differ in case only, the greatest one counts.  Complaints come in a fixed
order: an object at all, the type of each recognised member in ascending order of the
keys, the members that have to be there, the syntax of the addresses, the port.
-/

import ServiceBroker.Json.Text
import ServiceBroker.Json.Fields
import ServiceBroker.Net.Ipv4

namespace ServiceBroker

/-- The type that a member of the parameters should have. -/
inductive MemberType where
  | int64
  | int32
  | text
  | sequence
deriving DecidableEq, Repr

/-- How a message names the type. -/
def MemberType.description : MemberType → String
  | .int64 => "i64"
  | .int32 => "i32"
  | .text => "a string"
  | .sequence => "a sequence"

/-- What is wrong with the form of the parameters. -/
inductive Malformation where
  | notAnObject
  /-- A member has a value of another type. -/
  | wrongType (found : Json) (expected : MemberType)
  /-- An integer is out of the range of its type. -/
  | outOfRange (found : Int) (expected : MemberType)
  /-- The port is no port number. -/
  | badPort (port : Int)
deriving Repr

/-- How a message names a value of the wrong type. -/
def Json.unexpected : Json → String
  | .null => "null"
  | .bool true => "boolean `true`"
  | .bool false => "boolean `false`"
  | .integer n => "integer `" ++ toString n ++ "`"
  | .double d => "floating point `" ++ Decimal.textOf Json.numberLayout d ++ "`"
  | .string s => "string " ++ Text.quote s
  | .array _ => "sequence"
  | .object _ => "map"

namespace Malformation

def message : Malformation → String
  | notAnObject => "expected a JSON object"
  | wrongType found expected =>
    "invalid type: " ++ found.unexpected ++ ", expected " ++ expected.description
  | outOfRange found expected =>
    "invalid value: " ++ Json.unexpected (.integer found) ++ ", expected " ++ expected.description
  | badPort port => "port out of range: " ++ toString port

end Malformation

/-- The members that have to be there. -/
inductive RequiredMember where
  | switchId
  | ipAddress
  | maskLength
  | defaultRoute
deriving DecidableEq, Repr

/-- The member's name in messages. -/
def RequiredMember.name : RequiredMember → String
  | switchId => "switchID"
  | ipAddress => "ipaddress"
  | maskLength => "maskLen"
  | defaultRoute => "defaultRoute"

/-- Why parameters are refused. -/
inductive ParameterError where
  | empty
  | malformed (cause : Malformation)
  | missing (member : RequiredMember)
  | invalidIpv4 (member : RequiredMember)
deriving Repr

namespace ParameterError

/-- The text that a platform is sent. -/
def message : ParameterError → String
  | empty => "parameter JSON is empty"
  | malformed cause => "parameter JSON is invalid: " ++ cause.message
  | missing member => Text.quote member.name ++ " is required"
  | invalidIpv4 member => Text.quote member.name ++ " expects IPv4 format(xxx.xxx.xxx.xxx)"

end ParameterError

/-- Checked parameters for creating an instance. -/
structure Parameters where
  switchId : Int64
  ipAddress : Ipv4
  maskLength : Int32
  defaultRoute : Ipv4
  username : Option String := none
  port : Option UInt16 := none
  backupTime : Option String := none
  allowNetworks : List String := []
deriving DecidableEq, Repr

namespace Parameters

/-- A key without regard to the case of ASCII letters. -/
def fold (key : String) : String := String.ofList (key.toList.map Char.toLower)

/-- Of the members whose key folds to `name` and the one found before, the one with the greatest
key. -/
def greatest (name : String) (found : Option (String × Json)) :
    List (String × Json) → Option (String × Json)
  | [] => found
  | (key, value) :: rest =>
    let better : Bool := match found with
      | none => true
      | some (k, _) => decide (k ≤ key)
    if fold key = name ∧ better = true then greatest name (some (key, value)) rest
    else greatest name found rest

/-- The member that counts under a folded name. -/
def folded? (members : List (String × Json)) (name : String) : Option Json :=
  (greatest name none members).map (·.2)

/-- An integer of a type with these bounds. -/
def readInteger (expected : MemberType) (low high : Int) : Json → Except Malformation Int
  | .integer n => if low ≤ n ∧ n ≤ high then .ok n else .error (.outOfRange n expected)
  | v => .error (.wrongType v expected)

def readInt64 (v : Json) : Except Malformation Int64 :=
  (readInteger .int64 Int64.minValue.toInt Int64.maxValue.toInt v).map Int64.ofInt

def readInt32 (v : Json) : Except Malformation Int32 :=
  (readInteger .int32 Int32.minValue.toInt Int32.maxValue.toInt v).map Int32.ofInt

def readText : Json → Except Malformation String
  | .string s => .ok s
  | v => .error (.wrongType v .text)

def readTexts : Json → Except Malformation (List String)
  | .array elements => elements.mapM readText
  | v => .error (.wrongType v .sequence)

/-- The members of the parameters with their types, absent ones by default. -/
structure Raw where
  switchId : Int64
  ipAddress : String
  maskLength : Int32
  defaultRoute : String
  username : String
  port : Int32
  backupTime : String
  allowNetworks : List String
deriving DecidableEq, Repr

/-- A member by its folded name. -/
def readMember {α : Type} (members : List (String × Json)) (name : String) (absent : α)
    (read : Json → Except Malformation α) : Except Malformation α :=
  match folded? members name with
  | none => .ok absent
  | some v => read v

/-- The typed members; the first member of a wrong type in ascending order of the folded keys is
the one complained about. -/
def readMembers (members : List (String × Json)) : Except Malformation Raw := do
  let allowNetworks ← readMember members "allownetworks" [] readTexts
  let backupTime ← readMember members "backuptime" "" readText
  let defaultRoute ← readMember members "defaultroute" "" readText
  let ipAddress ← readMember members "ipaddress" "" readText
  let maskLength ← readMember members "masklen" 0 readInt32
  let port ← readMember members "port" 0 readInt32
  let switchId ← readMember members "switchid" 0 readInt64
  let username ← readMember members "username" "" readText
  return ⟨switchId, ipAddress, maskLength, defaultRoute, username, port, backupTime, allowNetworks⟩

/-- An empty text counts as none. -/
def nonEmpty (s : String) : Option String := if s = "" then none else some s

/-- The port: zero is none. -/
def readPort (port : Int32) : Except ParameterError (Option UInt16) :=
  if port = 0 then .ok none
  else if 0 ≤ port.toInt ∧ port.toInt ≤ 65535 then .ok (some (UInt16.ofNat port.toInt.toNat))
  else .error (.malformed (.badPort port.toInt))

/-- An address under the name of its member. -/
def readAddress (member : RequiredMember) (s : String) : Except ParameterError Ipv4 :=
  match Ipv4.parse? s with
  | some address => .ok address
  | none => .error (.invalidIpv4 member)

/-- The checks on typed members, in order. -/
def ofRaw (raw : Raw) : Except ParameterError Parameters := do
  if raw.switchId = 0 then throw (.missing .switchId)
  if raw.ipAddress = "" then throw (.missing .ipAddress)
  if raw.maskLength = 0 then throw (.missing .maskLength)
  if raw.defaultRoute = "" then throw (.missing .defaultRoute)
  let ipAddress ← readAddress .ipAddress raw.ipAddress
  let defaultRoute ← readAddress .defaultRoute raw.defaultRoute
  let port ← readPort raw.port
  return {
    switchId := raw.switchId
    ipAddress
    maskLength := raw.maskLength
    defaultRoute
    username := nonEmpty raw.username
    port
    backupTime := nonEmpty raw.backupTime
    allowNetworks := raw.allowNetworks }

/-- The parameters of a provision request, checked. -/
def parse : Option Json → Except ParameterError Parameters
  | none | some .null | some (.object []) => .error .empty
  | some (.object members) => do
    let raw ← (readMembers members).mapError .malformed
    ofRaw raw
  | some _ => .error (.malformed .notAnObject)

/-- Parameters as the object that a request carries for them. -/
def toJson (p : Parameters) : Json :=
  .present [
    ("allowNetworks", if p.allowNetworks = [] then none else some (.ofStrings p.allowNetworks)),
    ("backupTime", p.backupTime.map .string),
    ("defaultRoute", some (.string p.defaultRoute.text)),
    ("ipaddress", some (.string p.ipAddress.text)),
    ("maskLen", some (.integer p.maskLength.toInt)),
    ("port", p.port.map fun port => .integer port.toNat),
    ("switchID", some (.integer p.switchId.toInt)),
    ("username", p.username.map .string)]

end Parameters
end ServiceBroker

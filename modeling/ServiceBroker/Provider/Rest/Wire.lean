/-
# Appliances on the wire

The JSON in which a provider behind a REST interface tells of appliances and takes
orders for them.  Numbers may come as texts; parts that are left out have defaults.
`Wire.Appliance` is an appliance as it is written, `toAppliance` reads the numbers and
addresses in it.
-/

import ServiceBroker.Json.Fields
import ServiceBroker.Provider.Basic
import ServiceBroker.Text.Integer

namespace ServiceBroker
namespace Provider
namespace Rest
namespace Wire

/-- A record whose fields have these names in order of declaration. -/
def record {α : Type} (names : List String) (read : Json.Fields → Option α) (v : Json) :
    Option α := (v.fields? names).bind read

/-- A text, an integer of 64 bits as its digits, or `null` as the empty text. -/
def looseText? : Json → Option String
  | .string s => some s
  | .null => some ""
  | v => v.int64?.map fun n => toString n.toInt

/-- A field that may be left out and is then empty. -/
def looseText (fields : Json.Fields) (name : String) : Option String :=
  fields.orElse name "" looseText?

/-- A text field that may be left out and is then empty. -/
def text (fields : Json.Fields) (name : String) : Option String :=
  fields.orElse name "" Json.string?

/-- A part of a record of which one field counts; a part left out has the field empty. -/
def part {α : Type} (fields : Json.Fields) (name : String) (absent : α) (names : List String)
    (read : Json.Fields → Option α) : Option α :=
  fields.orElse name absent (record names read)

/-- What an order and a report say of the network. -/
structure Network where
  maskLength : Int32 := 0
  defaultRoute : String := ""
deriving DecidableEq, Repr

/-- What a report says beside name and state. -/
structure Remark where
  databaseName : String := ""
  network : Network := {}
  /-- The addresses of the servers. -/
  servers : List String := []
  switchId : String := ""
  planId : String := ""
deriving DecidableEq, Repr

/-- How the engine is set up. -/
structure Settings where
  defaultUser : String := ""
  userPassword : String := ""
  servicePort : String := ""
deriving DecidableEq, Repr

/-- An appliance as it is written. -/
structure Appliance where
  id : String
  name : String
  availability : String
  instanceStatus : String
  remark : Remark
  settings : Settings
  tags : List String
deriving DecidableEq, Repr

def network? : Json → Option Network :=
  record ["NetworkMaskLen", "DefaultRoute"] fun f => do
    return ⟨← f.orElse "NetworkMaskLen" 0 Json.int32?, ← text f "DefaultRoute"⟩

/-- A record with a number under `ID`. -/
def identified? : Json → Option String := record ["ID"] (looseText · "ID")

def server? : Json → Option String := record ["IPAddress"] (text · "IPAddress")

def remark? : Json → Option Remark :=
  record ["DBConf", "Network", "Servers", "Switch", "Plan"] fun f => do
    return {
      databaseName := ← part f "DBConf" "" ["Common"] fun f =>
        part f "Common" "" ["DatabaseName"] (text · "DatabaseName")
      network := ← f.orElse "Network" {} network?
      servers := ← f.orElse "Servers" [] (Json.list? server?)
      switchId := ← f.orElse "Switch" "" identified?
      planId := ← f.orElse "Plan" "" identified? }

def engineSettings? : Json → Option Settings :=
  record ["DefaultUser", "UserPassword", "ServicePort"] fun f => do
    return ⟨← text f "DefaultUser", ← text f "UserPassword", ← looseText f "ServicePort"⟩

def settings? : Json → Option Settings :=
  record ["DBConf"] fun f =>
    part f "DBConf" {} ["Common"] fun f => f.orElse "Common" {} engineSettings?

def appliance? : Json → Option Appliance :=
  record ["ID", "Name", "Availability", "Instance", "Remark", "Settings", "Tags"] fun f => do
    return {
      id := ← f.required "ID" looseText?
      name := ← text f "Name"
      availability := ← text f "Availability"
      instanceStatus := ← part f "Instance" "" ["Status"] (text · "Status")
      remark := ← f.orElse "Remark" {} remark?
      settings := ← f.orElse "Settings" {} settings?
      tags := ← f.orElse "Tags" [] Json.strings? }

/-- The answer that tells of one appliance. -/
def single? : Json → Option Appliance :=
  record ["Appliance"] fun f => f.required "Appliance" appliance?

/-- The answer that lists appliances. -/
def listing? : Json → Option (List Appliance) :=
  record ["Appliances"] fun f => f.orElse "Appliances" [] (Json.list? appliance?)

/-- The answer that tells the state of an engine; each part on the way to it may be missing. -/
def status? : Json → Option (Option String) :=
  record ["Appliance"] fun f => do
    let found ← f.optional "Appliance" <| record ["SettingsResponse"] fun f => do
      let found ← f.optional "SettingsResponse" <| record ["Status"] fun f =>
        f.optional "Status" (record ["status"] (text · "status"))
      return found.join
    return found.join

/-- The answer that tells who asks. -/
def account? : Json → Option Account :=
  record ["Account"] fun f =>
    f.orElse "Account" ⟨"", ""⟩ <| record ["ID", "Name"] fun f => do
      return ⟨← looseText f "ID", ← text f "Name"⟩

/-- The engine of an appliance. -/
def Remark.engine (r : Remark) : Engine :=
  if r.databaseName = Engine.postgreSql.providerName then .postgreSql else .mariaDb

/-- An appliance with its numbers and addresses read.  Only the number of the appliance has to be
one; others that cannot be read are zero, none or the default. -/
def Appliance.toAppliance (a : Appliance) : Except ProviderError ServiceBroker.Appliance :=
  match Integer.int64? a.id with
  | none => .error (.decode (some ("invalid appliance ID: " ++ a.id)))
  | some id => .ok {
      id
      name := a.name
      engine := a.remark.engine
      planSize := (Integer.uint32? a.remark.planId).getD 0
      instanceStatus := a.instanceStatus
      availability := a.availability
      switchId := (Integer.int64? a.remark.switchId).getD 0
      ipAddress := a.remark.servers.head?.bind Ipv4.parse?
      maskLength := a.remark.network.maskLength
      defaultRoute := Ipv4.parse? a.remark.network.defaultRoute
      port := (Integer.uint16? a.settings.servicePort).getD a.remark.engine.defaultPort
      defaultUser := a.settings.defaultUser
      userPassword := a.settings.userPassword
      tags := a.tags }

/-- Of the appliances listed, those with exactly a name. -/
def exactMatches (name : String) (listed : List Appliance) :
    Except ProviderError (List ServiceBroker.Appliance) :=
  (listed.filter (·.name = name)).mapM Appliance.toAppliance

/-- The version of an engine that is ordered. -/
def engineVersion : Engine → String
  | .mariaDb => "10.2"
  | .postgreSql => "9.6"

/-- The plan of backups for a time of day. -/
def backup : Option String → Json
  | none => .null
  | some time => .object [
      ("DayOfWeek", .ofStrings ["sun", "mon", "tue", "wed", "thu", "fri", "sat"]),
      ("Rotate", .integer 8),
      ("Time", .string time)]

/-- An order as it is sent. -/
def orderBody (order : ApplianceOrder) : Json :=
  let plan : Json := .object [("ID", .integer order.planSize.toNat)]
  .object [("Appliance", .object [
    ("Class", .string "database"),
    ("Description", .string ""),
    ("Name", .string order.name),
    ("Plan", plan),
    ("Remark", .object [
      ("DBConf", .object [("Common", .object [
        ("DatabaseName", .string order.engine.providerName),
        ("DatabaseVersion", .string (engineVersion order.engine))])]),
      ("Network", .object [
        ("DefaultRoute", .string order.defaultRoute.text),
        ("NetworkMaskLen", .integer order.maskLength.toInt)]),
      ("Plan", plan),
      ("Servers", .array [.object [("IPAddress", .string order.ipAddress.text)]]),
      ("Switch", .object [("ID", .string (toString order.switchId.toInt))])]),
    ("Settings", .object [("DBConf", .object [
      ("Backup", backup order.backupTime),
      ("Common", .object [
        ("DefaultUser", .string order.defaultUser),
        ("ServicePort", .integer order.port.toNat),
        ("SourceNetwork", .ofStrings order.allowNetworks),
        ("UserPassword", .string order.userPassword)])])]),
    ("Tags", .ofStrings order.tags)])]

end Wire
end Rest
end Provider
end ServiceBroker

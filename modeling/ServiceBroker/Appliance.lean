/-
# Database appliances

An appliance as its provider reports it, and the order for a new one.  The states of an
appliance overlap: `isUp` and `isDown` look at the power, `isFailed` and `isMigrating`
at the availability, and a provider may report words that are none of these.
-/

import ServiceBroker.Engine
import ServiceBroker.Json.Value
import ServiceBroker.Net.Ipv4

namespace ServiceBroker

/-- The number under which a provider knows an appliance. -/
abbrev ApplianceId := Int64

/-- The number as texts show it. -/
def ApplianceId.text (id : ApplianceId) : String := toString id.toInt

/-- An appliance as its provider reports it. -/
structure Appliance where
  id : ApplianceId
  name : String
  engine : Engine
  /-- Storage in gigabytes. -/
  planSize : UInt32
  instanceStatus : String
  availability : String
  switchId : Int64
  ipAddress : Option Ipv4
  maskLength : Int32
  defaultRoute : Option Ipv4
  port : UInt16
  defaultUser : String
  userPassword : String
  tags : List String
deriving DecidableEq, Repr

/-- The order for a new appliance. -/
structure ApplianceOrder where
  name : String
  engine : Engine
  /-- Storage in gigabytes. -/
  planSize : UInt32
  switchId : Int64
  ipAddress : Ipv4
  maskLength : Int32
  defaultRoute : Ipv4
  port : UInt16
  defaultUser : String
  userPassword : String
  backupTime : Option String
  allowNetworks : List String
  tags : List String
deriving DecidableEq, Repr

/-- The tag of every appliance that a broker orders. -/
def markerTag : String := "@open-service-broker-sacloud"

namespace Appliance

def statusUp : String := "up"
def statusDown : String := "down"
def availabilityAvailable : String := "available"
def availabilityMigrating : String := "migrating"
def availabilityFailed : String := "failed"

/-- What the status call says of an engine that runs. -/
def engineRunning : String := "running"

def isUp (a : Appliance) : Bool := a.instanceStatus = statusUp

def isDown (a : Appliance) : Bool := a.instanceStatus = statusDown

def isFailed (a : Appliance) : Bool := a.availability = availabilityFailed

def isMigrating (a : Appliance) : Bool := a.availability = availabilityMigrating

/-- An appliance as JSON. -/
def toJson (a : Appliance) : Json :=
  .object [
    ("availability", .string a.availability),
    ("default_route", .ofString? (a.defaultRoute.map (·.text))),
    ("default_user", .string a.defaultUser),
    ("id", .integer a.id.toInt),
    ("instance_status", .string a.instanceStatus),
    ("ip_address", .ofString? (a.ipAddress.map (·.text))),
    ("kind", .string a.engine.name),
    ("mask_len", .integer a.maskLength.toInt),
    ("name", .string a.name),
    ("plan_size", .integer a.planSize.toNat),
    ("port", .integer a.port.toNat),
    ("switch_id", .integer a.switchId.toInt),
    ("tags", .ofStrings a.tags),
    ("user_password", .string a.userPassword)]

end Appliance

namespace ApplianceOrder

/-- An order as JSON. -/
def toJson (order : ApplianceOrder) : Json :=
  .object [
    ("allow_networks", .ofStrings order.allowNetworks),
    ("backup_time", .ofString? order.backupTime),
    ("default_route", .string order.defaultRoute.text),
    ("default_user", .string order.defaultUser),
    ("ip_address", .string order.ipAddress.text),
    ("kind", .string order.engine.name),
    ("mask_len", .integer order.maskLength.toInt),
    ("name", .string order.name),
    ("plan_size", .integer order.planSize.toNat),
    ("port", .integer order.port.toNat),
    ("switch_id", .integer order.switchId.toInt),
    ("tags", .ofStrings order.tags),
    ("user_password", .string order.userPassword)]

end ApplianceOrder
end ServiceBroker

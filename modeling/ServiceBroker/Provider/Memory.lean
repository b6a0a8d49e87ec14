/-
# A provider in memory

Appliances in a table under numbers that count up and are never given twice.  A new
appliance is up at once or, where it is started by hand, down and migrating.  While the
provider is unavailable every call fails, and none is counted.
-/

import ServiceBroker.Provider.Basic

namespace ServiceBroker
namespace Provider

/-- In what state a new appliance is. -/
inductive BootMode where
  | manual
  | instant
deriving DecidableEq, Repr

/-- How often the calls that find and change appliances were made. -/
structure CallCounts where
  find : Nat := 0
  create : Nat := 0
  stop : Nat := 0
  delete : Nat := 0
deriving DecidableEq, Repr

/-- The state of a provider in memory. -/
structure Memory where
  lastId : ApplianceId := 100000000000
  /-- By ascending number. -/
  appliances : List Appliance := []
  unavailable : Bool := false
  counts : CallCounts := {}
deriving DecidableEq, Repr

namespace Memory

/-- The appliance with a number. -/
def get? (m : Memory) (id : ApplianceId) : Option Appliance := m.appliances.find? (·.id = id)

/-- The appliances with a name. -/
def named (m : Memory) (name : String) : List Appliance := m.appliances.filter (·.name = name)

/-- The first appliance with a name, by ascending number. -/
def first? (m : Memory) (name : String) : Option Appliance := m.appliances.find? (·.name = name)

def size (m : Memory) : Nat := m.appliances.length

/-- The list with the first appliance that has a name changed. -/
def changeFirst (name : String) (change : Appliance → Appliance) :
    List Appliance → List Appliance
  | [] => []
  | a :: rest => if a.name = name then change a :: rest else a :: changeFirst name change rest

/-- Changes power and availability of the first appliance with a name, and says whether there is
one. -/
def mark (m : Memory) (name status availability : String) : Bool × Memory :=
  let change (a : Appliance) : Appliance := { a with instanceStatus := status, availability }
  ((m.first? name).isSome, { m with appliances := changeFirst name change m.appliances })

/-- The appliance has come up. -/
def markUp (m : Memory) (name : String) : Bool × Memory :=
  m.mark name Appliance.statusUp Appliance.availabilityAvailable

/-- The appliance has failed. -/
def markFailed (m : Memory) (name : String) : Bool × Memory :=
  m.mark name Appliance.statusDown Appliance.availabilityFailed

/-- The appliance is being moved. -/
def markMigrating (m : Memory) (name : String) : Bool × Memory :=
  m.mark name Appliance.statusDown Appliance.availabilityMigrating

/-- The appliance that an order gives, under a number. -/
def boot (mode : BootMode) (id : ApplianceId) (order : ApplianceOrder) : Appliance where
  id
  name := order.name
  engine := order.engine
  planSize := order.planSize
  instanceStatus := match mode with
    | .manual => Appliance.statusDown
    | .instant => Appliance.statusUp
  availability := match mode with
    | .manual => Appliance.availabilityMigrating
    | .instant => Appliance.availabilityAvailable
  switchId := order.switchId
  ipAddress := some order.ipAddress
  maskLength := order.maskLength
  defaultRoute := some order.defaultRoute
  port := order.port
  defaultUser := order.defaultUser
  userPassword := order.userPassword
  tags := order.tags

/-- The failure of every call while the provider is unavailable. -/
def unavailableError : ProviderError := .api 503 "service unavailable"

/-- A new appliance under the next number. -/
def create (mode : BootMode) (order : ApplianceOrder) (m : Memory) : Appliance × Memory :=
  let id := m.lastId + 1
  let appliance := boot mode id order
  (appliance, { m with
    lastId := id
    appliances := m.appliances ++ [appliance]
    counts := { m.counts with create := m.counts.create + 1 } })

/-- Turns an appliance off. -/
def stop (id : ApplianceId) (m : Memory) : Except ProviderError Unit × Memory :=
  let counted := { m with counts := { m.counts with stop := m.counts.stop + 1 } }
  if (m.get? id).isSome then
    (.ok (), { counted with appliances := m.appliances.map fun a =>
      if a.id = id then { a with instanceStatus := Appliance.statusDown } else a })
  else (.error (.notFound id.text), counted)

/-- Removes an appliance. -/
def delete (id : ApplianceId) (m : Memory) : Except ProviderError Unit × Memory :=
  let counted := { m with counts := { m.counts with delete := m.counts.delete + 1 } }
  if (m.get? id).isSome then
    (.ok (), { counted with appliances := m.appliances.filter (·.id ≠ id) })
  else (.error (.notFound id.text), counted)

/-- The engine runs on an appliance that is up, as far as a provider in memory can tell. -/
def status? (m : Memory) (id : ApplianceId) : Option String :=
  ((m.get? id).filter (·.isUp)).map fun _ => Appliance.engineRunning

/-- The answer to a call while the provider is available. -/
def perform (mode : BootMode) : (call : Call) → Memory → call.Answer × Memory
  | .authStatus, m => (.ok ⟨"000000000000", "in-memory"⟩, m)
  | .find name, m =>
    (.ok (m.named name), { m with counts := { m.counts with find := m.counts.find + 1 } })
  | .read id, m => (.ok (m.get? id), m)
  | .create order, m => let (appliance, m) := m.create mode order; (.ok appliance, m)
  | .stop id, m => m.stop id
  | .status id, m => (.ok (m.status? id), m)
  | .delete id, m => m.delete id

/-- The answer to a call. -/
def answer (mode : BootMode) (call : Call) (m : Memory) : call.Answer × Memory :=
  if m.unavailable then (.error unavailableError, m) else perform mode call m

end Memory

/-- The bound for waits of a provider in memory, unless set. -/
def memoryWaitTimeout : Duration := Duration.seconds 5

/-- The time between two looks of a provider in memory, unless set. -/
def memoryPollInterval : Duration := Duration.milliseconds 10

/-- The provider in memory; its answers take no time. -/
def inMemory (mode : BootMode) (waitTimeout pollInterval : Duration) : Provider Memory where
  waitTimeout
  pollInterval
  answer := fun _ call m => let (answer, m) := Memory.answer mode call m; (⟨0, answer⟩, m)

end Provider
end ServiceBroker

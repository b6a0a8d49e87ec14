/-
# Lifecycle operations and their progress

The names by which a platform asks about an operation, and the states in which an
asynchronous operation is reported.
-/

import ServiceBroker.Json.Fields
import ServiceBroker.Json.Shape

namespace ServiceBroker

/-- An operation that a platform can ask about. -/
inductive Operation where
  | provisioning
  | updating
  | deprovisioning
  | binding
  | unbinding
deriving DecidableEq, Repr

namespace Operation

def all : List Operation := [.provisioning, .updating, .deprovisioning, .binding, .unbinding]

/-- The operation's name, in requests and in JSON. -/
def name : Operation → String
  | provisioning => "provisioning"
  | updating => "updating"
  | deprovisioning => "deprovisioning"
  | binding => "binding"
  | unbinding => "unbinding"

/-- The operation with exactly this name. -/
def ofName? (name : String) : Option Operation := all.find? (·.name = name)

/-- The operations that are polled. -/
def isPollable : Operation → Bool
  | provisioning | deprovisioning | updating => true
  | binding | unbinding => false

/-- What is said about a name that belongs to no operation. -/
def unknownMessage (name : String) : String := "unknown operation: " ++ name

/-- The operation that a JSON text names. -/
def parse? (text : Bytes) : Option Operation := do
  ofName? (← Json.variant? (← Json.parseAs? .variant text))

/-- An operation is read back from its name. -/
theorem ofName?_name (operation : Operation) : ofName? operation.name = some operation := by
  cases operation <;> decide

end Operation

/-- The progress of an asynchronous operation.  An operation on something that no longer exists is
`gone`. -/
inductive Progress where
  | inProgress
  | succeeded
  | failed
  | gone
deriving DecidableEq, Repr

namespace Progress

def all : List Progress := [.inProgress, .succeeded, .failed, .gone]

/-- The state's name. -/
def name : Progress → String
  | inProgress => "in progress"
  | succeeded => "succeeded"
  | failed => "failed"
  | gone => "gone"

def ofName? (name : String) : Option Progress := all.find? (·.name = name)

/-- The state that a JSON text names. -/
def parse? (text : Bytes) : Option Progress := do
  ofName? (← Json.variant? (← Json.parseAs? .variant text))

/-- A progress is read back from its name. -/
theorem ofName?_name (progress : Progress) : ofName? progress.name = some progress := by
  cases progress <;> decide

end Progress
end ServiceBroker

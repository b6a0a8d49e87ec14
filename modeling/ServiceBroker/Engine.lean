/-
# Database engines and their storage plans

The two engines that a broker offers, each as one service with six storage plans: the
identifiers under which a platform asks for them, the spellings of the engine, and
the port on which it listens unless told otherwise.
-/

namespace ServiceBroker

/-- A database engine. -/
inductive Engine where
  | mariaDb
  | postgreSql
deriving DecidableEq, Repr, Inhabited

namespace Engine

/-- Both engines, in catalog order. -/
def all : List Engine := [.mariaDb, .postgreSql]

/-- The service that offers the engine. -/
def serviceId : Engine → String
  | .mariaDb => "c4f353f3-8a59-437d-b4af-6a6f856248db"
  | .postgreSql => "cc17eabf-0178-4eea-966e-2f5fb2aa62a9"

/-- The engine's name in messages and in JSON. -/
def name : Engine → String
  | .mariaDb => "mariadb"
  | .postgreSql => "postgresql"

/-- The engine's name in the settings of an appliance. -/
def providerName : Engine → String
  | .mariaDb => "MariaDB"
  | .postgreSql => "postgres"

/-- The port of the engine unless an appliance has another one. -/
def defaultPort : Engine → UInt16
  | .mariaDb => 3306
  | .postgreSql => 5432

/-- The engine with a name. -/
def ofName? (name : String) : Option Engine := all.find? (·.name = name)

/-- The engine that a service offers. -/
def ofServiceId? (id : String) : Option Engine := all.find? (·.serviceId = id)

/-- The identifiers of the plans of an engine's service, by ascending size. -/
def planIds : Engine → List String
  | .mariaDb =>
    ["7320351e-4664-4df5-938c-c0bfe8551609", "d4591cca-6361-4957-bfad-3f5e84ef2215",
      "66907d28-6440-41ca-9f7f-ab9c4a0d171b", "b3321210-e5f0-4224-99cf-34abc4435ed3",
      "92a30279-e938-4e20-8e4e-50a0231e719e", "8705f035-805b-4009-9158-1dd48aebcb41"]
  | .postgreSql =>
    ["590eb4a9-6efb-4f14-ac03-b66fe49adb2e", "feb02498-4cdb-404a-8606-4e56ec019d39",
      "bfff8edd-fb74-4e63-85e7-04f143db0a5f", "8ebb52e3-7b6a-47b6-87b3-cfe9af9b78bf",
      "64d02933-b8c4-45fc-afda-7e7045af5b3f", "f4bf204d-a73f-4b41-b8e8-1417c47c18dc"]

/-- Name, size and description of the plans of either service, by ascending size. -/
def planSizes : List (String × UInt32 × String) :=
  [("db-10g", 10, "DB 10GB"), ("db-30g", 30, "DB 30GB"), ("db-90g", 90, "DB 90GB"),
    ("db-240g", 240, "DB 240GB"), ("db-500g", 500, "DB 500GB"), ("db-1t", 1000, "DB 1TB")]

/-- The size of a plan of the engine's service: the one in the place of its identifier. -/
def planSize? (engine : Engine) (planId : String) : Option UInt32 :=
  ((engine.planIds.zip planSizes).find? (·.1 = planId)).map fun (_, _, size, _) => size

/-- The two services share no plan. -/
theorem planIds_disjoint : ∀ id ∈ planIds .mariaDb, id ∉ planIds .postgreSql := by decide

end Engine
end ServiceBroker

/-
# The broker

A broker at work: deletions in the background of a provider, the database servers that
bindings live on, and a source of chance.  It performs operations one after another;
`settle` and `advance` let the background go on.
-/

import ServiceBroker.Deletion
import ServiceBroker.Dialect.Memory
import ServiceBroker.Http.Front

namespace ServiceBroker

/-- The chance that goes into appliances and bindings, each time anew. -/
structure Chance where
  admin : Nat → Backend.Draw
  binding : Nat → Dialect.Draw

namespace Chance

/-- A number that looks random, from a seed and the place where it is used. -/
def number (seed : Bytes) (place : String) (n : Nat) : Nat :=
  (Sha256.digest (seed ++ Bytes.ofText place ++ Bytes.ofText (toString n))).toList.foldl
    (fun acc b => acc * 256 + b.toNat) 0

/-- The chance that a secret seed gives. -/
def ofSeed (seed : Bytes) : Chance where
  admin n := ⟨.nth 10 (number seed "admin name" n), .nth 20 (number seed "admin password" n)⟩
  binding n := {
    username := .nth 20 (number seed "binding name" n)
    password := .nth 30 (number seed "binding password" n)
    nonce := Vector.ofFn fun i : Fin 12 =>
      UInt8.ofNat (number seed "binding nonce" n >>> (8 * i.val)) }

end Chance

/-- What a broker works with: deletions over a provider with states of type `σ`, and chance. -/
structure BrokerSettings (σ : Type) extends Deletion.Settings σ where
  chance : Chance

/-- A broker at work. -/
structure Broker (σ : Type) where
  deletions : Deletions σ
  mariaDb : Dialect.Servers := {}
  postgreSql : Dialect.Servers := {}
  /-- How often chance was used. -/
  drawn : Nat := 0

namespace Broker

variable {σ : Type}

/-- A broker before its first operation. -/
def start (provider : σ) : Broker σ := { deletions := { shared := { provider } } }

/-- The state of the provider. -/
def provider (b : Broker σ) : σ := b.deletions.shared.provider

def setProvider (b : Broker σ) (provider : σ) : Broker σ :=
  { b with deletions := { b.deletions with shared := { b.deletions.shared with provider } } }

/-- The time since the start. -/
def now (b : Broker σ) : Instant := b.deletions.now

/-- The number of deletions that have not ended. -/
def pending (b : Broker σ) : Nat := b.deletions.pending

/-- The database servers of an engine. -/
def servers (b : Broker σ) : Engine → Dialect.Servers
  | .mariaDb => b.mariaDb
  | .postgreSql => b.postgreSql

def setServers (b : Broker σ) (servers : Dialect.Servers) : Engine → Broker σ
  | .mariaDb => { b with mariaDb := servers }
  | .postgreSql => { b with postgreSql := servers }

/-- Lets the background go on until it waits. -/
def settle (s : BrokerSettings σ) (b : Broker σ) : Broker σ :=
  { b with deletions := b.deletions.settle (Deletion.kind s.toSettings) }

/-- Lets time pass. -/
def advance (s : BrokerSettings σ) (time : Duration) (b : Broker σ) : Broker σ :=
  { b with deletions := b.deletions.advance (Deletion.kind s.toSettings) time }

/-- The answer to a question of a handler. -/
def answer (s : BrokerSettings σ) (engine : Engine) :
    (call : Backend.Call) → StateM (Broker σ) call.Answer
  | .provider call => modifyGet fun b =>
    let (answer, deletions) := b.deletions.ask s.toSettings call
    (answer, { b with deletions })
  | .startDeletion name id => modify fun b => { b with deletions := (b.deletions.start name id).2 }
  | .dialect call => modifyGet fun b =>
    let (answer, servers) := Dialect.Servers.answer engine call (b.servers engine)
    (answer, b.setServers servers engine)
  | .drawAdmin => modifyGet fun b => (s.chance.admin b.drawn, { b with drawn := b.drawn + 1 })
  | .drawBinding => modifyGet fun b => (s.chance.binding b.drawn, { b with drawn := b.drawn + 1 })

/-- The answer of a handler. -/
def handle (s : BrokerSettings σ) (handler : DatabaseHandler) (call : Handler.Call) :
    StateM (Broker σ) call.Answer :=
  (handler.answer call).run (I := Backend.interface) (answer s handler.engine)

/-- Does what a request asks for. -/
def perform (s : BrokerSettings σ) (handler : DatabaseHandler) (request : Lifecycle.Request) :
    StateM (Broker σ) Lifecycle.Outcome :=
  (Lifecycle.perform request).run (I := Handler.interface) (handle s handler)

/-- The response to a request of a platform. -/
def serve (s : BrokerSettings σ) (front : Http.Front) (request : Http.Request) :
    StateM (Broker σ) Http.Response :=
  front.respond (handle s) request

end Broker
end ServiceBroker

/-
# What a handler's programs come to

`Broker.exec` is what comes of a program of a handler and the broker after it; it goes
through a program call by call (`exec_bind`).  Each call of the backend has a plain
answer, one to a provider in memory at once: later proofs speak of these and unfold no
program.
-/

import ServiceBroker.Broker
import ServiceBroker.Provider.Memory
import Mathlib.Tactic.Common

namespace ServiceBroker
namespace Program

variable {I : Interface} {m : Type → Type} [Monad m] {α β : Type}

/-- A question is answered, and the rest of the program goes on with the answer. -/
theorem run_ask (answer : (c : I.Call) → m (I.Answer c)) (c : I.Call)
    (next : I.Answer c → Program I α) :
    (Program.ask c next).run answer = answer c >>= fun a => (next a).run answer := rfl

/-- Two programs one after another are run one after the other. -/
theorem run_bind [LawfulMonad m] (answer : (c : I.Call) → m (I.Answer c)) (p : Program I α)
    (f : α → Program I β) :
    (p.bind f).run answer = p.run answer >>= fun a => (f a).run answer := by
  induction p with
  | done value => simp [Program.bind, Program.run]
  | ask c next ih => simp only [Program.bind, run_ask, ih, bind_assoc]

end Program

/-- Programs that may fail, one after another, up to one that fails. -/
theorem Program.run_bind_except {I : Interface} {ε α β : Type} (p : ExceptT ε (Program I) α)
    (f : α → ExceptT ε (Program I) β) :
    (p >>= f).run = Program.bind p.run fun
      | .ok value => (f value).run
      | .error e => .done (.error e) := rfl

/-- **So are they where every question is answered from a state.** -/
theorem Program.run_bind_state {I : Interface} {ε σ α β : Type}
    (answer : (c : I.Call) → StateM σ (I.Answer c)) (p : ExceptT ε (Program I) α)
    (f : α → ExceptT ε (Program I) β) (s : σ) :
    (Program.run answer (p >>= f).run).run s =
      match (Program.run answer p.run).run s with
      | (.ok value, s) => (Program.run answer (f value).run).run s
      | (.error e, s) => (.error e, s) := by
  rw [Program.run_bind_except, Program.run_bind, StateT.run_bind]
  show (match (Program.run answer p.run).run s with
    | (a, s') => _) = _
  rcases (Program.run answer p.run).run s with ⟨value | e, s'⟩ <;> rfl

namespace Broker

variable {σ α β : Type} (s : BrokerSettings σ) (engine : Engine)

/-- What comes of a program of a handler, and the broker after it. -/
def exec (p : Backend.Action α) (b : Broker σ) : Except ServiceError α × Broker σ :=
  (Program.run (I := Backend.interface) (answer s engine) p.run).run b

/-- **One program after another.** -/
theorem exec_bind (p : Backend.Action α) (f : α → Backend.Action β) (b : Broker σ) :
    exec s engine (p >>= f) b =
      match exec s engine p b with
      | (.ok value, b) => exec s engine (f value) b
      | (.error e, b) => (.error e, b) := by
  unfold exec
  rw [Program.run_bind_state]
  split <;> rename_i h <;> rw [h]

/-- A step that succeeds is gone from the program. -/
theorem exec_bind_ok {p : Backend.Action α} {b b' : Broker σ} {value : α}
    (h : exec s engine p b = (.ok value, b')) (f : α → Backend.Action β) :
    exec s engine (p >>= f) b = exec s engine (f value) b' := by
  rw [exec_bind, h]

section Servers

variable (b : Broker σ) (engine' : Engine) (servers : Dialect.Servers)

/-- Servers that stay as they are change nothing. -/
@[simp] theorem setServers_servers : b.setServers (b.servers engine) engine = b := by
  cases engine <;> rfl

/-- Servers are not the provider. -/
@[simp] theorem provider_setServers : (b.setServers servers engine).provider = b.provider := by
  cases engine <;> rfl

/-- Servers are not the deletions. -/
@[simp] theorem deletions_setServers : (b.setServers servers engine).deletions = b.deletions := by
  cases engine <;> rfl

/-- Servers draw nothing. -/
@[simp] theorem drawn_setServers : (b.setServers servers engine).drawn = b.drawn := by
  cases engine <;> rfl

/-- The servers of an engine change, and those of the other stay. -/
theorem servers_setServers : (b.setServers servers engine).servers engine' =
    if engine' = engine then servers else b.servers engine' := by
  cases engine <;> cases engine' <;> rfl

/-- Of two changes of the servers of an engine the second one counts. -/
@[simp] theorem setServers_setServers (servers' : Dialect.Servers) :
    (b.setServers servers engine).setServers servers' engine = b.setServers servers' engine := by
  cases engine <;> rfl

end Servers

/-- A call to the dialect is answered by the servers of the engine. -/
theorem exec_dialect_eq (call : Dialect.Call) (b : Broker σ) :
    exec s engine (Backend.dialect call) b =
      ((Dialect.Servers.answer engine call (b.servers engine)).1,
        b.setServers (Dialect.Servers.answer engine call (b.servers engine)).2 engine) := rfl

/-- A named step is answered by the servers of the engine. -/
theorem exec_dialectStep_eq (step : String) (call : Dialect.Call) (b : Broker σ) :
    exec s engine (Backend.dialectStep step call) b =
      (ServiceError.inStep step (Dialect.Servers.answer engine call (b.servers engine)).1,
        b.setServers (Dialect.Servers.answer engine call (b.servers engine)).2 engine) := rfl

/-- A call of the dialect is answered by the servers that are there. -/
theorem exec_dialect {call : Dialect.Call} {servers servers' : Dialect.Servers}
    {result : call.Result}
    (h : Dialect.Servers.answer engine call servers = (.ok result, servers')) (b : Broker σ) :
    exec s engine (Backend.dialect call) (b.setServers servers engine) =
      (.ok result, b.setServers servers' engine) := by
  rw [exec_dialect_eq, servers_setServers, if_pos rfl, h, setServers_setServers]

/-- A named step that goes well is answered by the servers that are there. -/
theorem exec_dialectStep {step : String} {call : Dialect.Call}
    {servers servers' : Dialect.Servers} {result : call.Result}
    (h : Dialect.Servers.answer engine call servers = (.ok result, servers')) (b : Broker σ) :
    exec s engine (Backend.dialectStep step call) (b.setServers servers engine) =
      (.ok result, b.setServers servers' engine) := by
  rw [exec_dialectStep_eq, servers_setServers, if_pos rfl, h, setServers_setServers]
  rfl

/-- An administrator is the next draw. -/
theorem exec_drawAdmin (b : Broker σ) :
    exec s engine Backend.drawAdmin b =
      (.ok (s.chance.admin b.drawn), { b with drawn := b.drawn + 1 }) := rfl

/-- A user with its password is the next draw, whatever the servers are. -/
theorem exec_drawBinding (servers : Dialect.Servers) (b : Broker σ) :
    exec s engine Backend.drawBinding (b.setServers servers engine) =
      (.ok (s.chance.binding b.drawn),
        { b with drawn := b.drawn + 1 }.setServers servers engine) := by
  cases engine <;> rfl

end Broker

/-- The search for the one appliance with a name, as the one call that it is. -/
theorem Backend.findOne_eq (name : String) :
    (Backend.findOne name).run = .ask (I := Backend.interface) (.provider (.find name)) fun
      | .ok found => .done ((Provider.only name found).mapError .provider)
      | .error e => .done (.error (.provider e)) := by
  show Program.ask (I := Backend.interface) _ _ = _
  congr 1
  funext answer
  cases answer <;> rfl

/-- A request to delete finds the appliance and starts its deletion. -/
theorem DatabaseHandler.deleteInstance_eq (name : String) :
    (DatabaseHandler.deleteInstance name).run = .ask (I := Backend.interface) (.provider (.find name)) fun
      | .ok [] => .done (.error (.provider (.notFound name)))
      | .ok [a] => .ask (I := Backend.interface) (.startDeletion name a.id) fun _ => .done (.ok ())
      | .ok _ => .done (.error (.provider (.ambiguous name)))
      | .error e => .done (.error (.provider e)) := by
  show Program.ask (I := Backend.interface) _ _ = _
  congr 1
  funext answer
  rcases answer with e | (_ | ⟨a, _ | ⟨b, rest⟩⟩) <;> rfl

/-- The connection that the answer to a search for an instance gives. -/
def DatabaseHandler.connected (h : DatabaseHandler) (name : String) :
    Except ProviderError (List Appliance) → Except ServiceError Connection
  | .ok [] => .error (.instanceNotFound name)
  | .ok [a] => h.administrator a
  | .ok _ => .error (.provider (.ambiguous name))
  | .error e => .error (.provider e)

/-- The connection to an instance, as the one call that it takes. -/
theorem DatabaseHandler.connection_eq (h : DatabaseHandler) (name : String) :
    (h.connection name).run = .ask (I := Backend.interface) (.provider (.find name)) fun answer =>
      .done (h.connected name answer) := by
  show Program.ask (I := Backend.interface) _ _ = _
  congr 1
  funext answer
  rcases answer with e | (_ | ⟨a, _ | ⟨b, rest⟩⟩) <;> rfl

/-- What a search for an instance is answered, and the broker after it. -/
def Broker.search {σ : Type} (s : BrokerSettings σ) (engine : Engine) (name : String)
    (b : Broker σ) : Except ProviderError (List Appliance) × Broker σ :=
  (Broker.answer s engine (.provider (.find name))).run b

/-- The connection to an instance takes a search for it. -/
theorem Broker.exec_connection_eq {σ : Type} (s : BrokerSettings σ) (h : DatabaseHandler)
    (name : String) (b : Broker σ) :
    exec s h.engine (h.connection name) b =
      (h.connected name (search s h.engine name b).1, (search s h.engine name b).2) := by
  unfold exec
  rw [DatabaseHandler.connection_eq, Program.run_ask, StateT.run_bind]
  rfl

/-- Chance that counts. -/
def Chance.counting : Chance where
  admin n := ⟨.nth 10 n, .nth 20 n⟩
  binding n := ⟨.nth 20 n, .nth 30 n, Vector.replicate 12 0⟩

namespace Broker

open Provider (Memory inMemory)

variable {s : BrokerSettings Memory} {mode : Provider.BootMode} {w i : Duration}

/-- A broker over a provider in memory with the usual waits. -/
def inMemorySettings (mode : Provider.BootMode) (chance : Chance) : BrokerSettings Memory where
  provider := inMemory mode Provider.memoryWaitTimeout Provider.memoryPollInterval
  chance

/-- A call to a provider in memory is answered at once. -/
theorem answer_provider (hs : s.provider = inMemory mode w i) (engine : Engine)
    (call : Provider.Call) (b : Broker Memory) :
    (answer s engine (.provider call)).run b =
      ((Memory.answer mode call b.provider).1,
        b.setProvider (Memory.answer mode call b.provider).2) := by
  show (let (answer, deletions) := b.deletions.ask s.toSettings call
    (answer, ({ b with deletions } : Broker Memory))) = _
  simp only [Deletions.ask, hs, inMemory, if_true, setProvider, provider]

/-- The broker with one more search counted. -/
def searched (b : Broker Memory) : Broker Memory :=
  b.setProvider { b.provider with
    counts := { b.provider.counts with find := b.provider.counts.find + 1 } }

/-- A search for one appliance tells the only one of those with the name. -/
theorem exec_findOne (hs : s.provider = inMemory mode w i) (engine : Engine) (name : String)
    {b : Broker Memory} (hb : b.provider.unavailable = false) :
    exec s engine (Backend.findOne name) b =
      ((Provider.only name (b.provider.named name)).mapError .provider, b.searched) := by
  unfold exec
  rw [Backend.findOne_eq, Program.run_ask, StateT.run_bind, answer_provider hs, Memory.answer,
    if_neg (by simp [hb])]
  rfl

/-- A connection is one to the appliance that the provider finds. -/
theorem exec_connection (hs : s.provider = inMemory mode w i) (h : DatabaseHandler) (name : String)
    (b : Broker Memory) :
    exec s h.engine (h.connection name) b =
      (h.connected name (Memory.answer mode (.find name) b.provider).1,
        b.setProvider (Memory.answer mode (.find name) b.provider).2) := by
  rw [exec_connection_eq, search, answer_provider hs]

/-- An appliance is ordered from the provider. -/
theorem exec_createAppliance (hs : s.provider = inMemory mode w i) (engine : Engine)
    (order : ApplianceOrder) {b : Broker Memory} (hb : b.provider.unavailable = false) :
    exec s engine (Backend.onProvider (Provider.create order)) b =
      (.ok (b.provider.create mode order).1, b.setProvider (b.provider.create mode order).2) := by
  show ((answer s engine (.provider (.create order))).run b |> fun (created, b) =>
    (created.mapError ServiceError.provider, b)) = _
  rw [answer_provider hs, Memory.answer, if_neg (by simp [hb])]
  rfl

end Broker
end ServiceBroker

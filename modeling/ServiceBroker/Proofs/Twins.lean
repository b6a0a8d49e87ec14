/-
# A handler on two brokers at once

A broker whose bindings live on a SQL server answers the questions of a handler about bindings
with the statements of the dialect (`Broker.answerOn`), and all others as a broker in memory.
A program of a handler is followed on both at once (`Twins`): what each call needs and leaves is
carried from one to the next.
-/

import ServiceBroker.Proofs.Bookkeeping
import ServiceBroker.Proofs.Mirror

namespace ServiceBroker

open Dialect (Servers)
open Provider (Memory inMemory)
open Sql (Host)

namespace Handler

/-- A question about a binding of an instance. -/
inductive Call.OfBinding (name : String) : Call → Prop
  | bindingState (binding : String) : OfBinding name (.bindingState name binding)
  | createBinding (binding : String) : OfBinding name (.createBinding name binding)
  | deleteBinding (binding : String) : OfBinding name (.deleteBinding name binding)

/-- The answers to calls made one after another. -/
def answerAll {m : Type → Type} [Monad m] (answer : (call : Call) → m call.Answer) :
    List Call → m (List ((call : Call) × call.Answer))
  | [] => pure []
  | call :: rest => do
    let result ← answer call
    let results ← answerAll answer rest
    return ⟨call, result⟩ :: results

/-- A call that is answered, and then the others. -/
theorem answerAll_cons {σ : Type} {answer : (call : Call) → StateM σ call.Answer} {call : Call}
    {rest : List Call} {result : call.Answer} {results : List ((call : Call) × call.Answer)}
    {s₀ s₁ s₂ : σ} (first : (answer call).run s₀ = (result, s₁))
    (others : (answerAll answer rest).run s₁ = (results, s₂)) :
    (answerAll answer (call :: rest)).run s₀ = (⟨call, result⟩ :: results, s₂) := by
  rw [answerAll, StateT.run_bind, first]
  show ((answerAll answer rest).run s₁ |> fun (results, s) =>
    ((⟨call, result⟩ :: results : List ((call : Call) × call.Answer)), s)) = _
  rw [others]

end Handler

namespace Broker

variable {σ : Type} (s : BrokerSettings σ)

/-- The answer to a question of a handler, with the bindings on a SQL server. -/
def answerOn (engine : Engine) : (call : Backend.Call) → StateM (Broker σ × Host) call.Answer
  | .dialect call => fun (b, host) =>
    let (answer, host) := (Dialect.answerOn engine call).run host
    (answer, (b, host))
  | .provider call => fun (b, host) =>
    let (answer, b) := (answer s engine (.provider call)).run b
    (answer, (b, host))
  | .startDeletion name id => fun (b, host) =>
    let (answer, b) := (answer s engine (.startDeletion name id)).run b
    (answer, (b, host))
  | .drawAdmin => fun (b, host) =>
    let (draw, b) := (answer s engine .drawAdmin).run b
    (draw, (b, host))
  | .drawBinding => fun (b, host) =>
    let (draw, b) := (answer s engine .drawBinding).run b
    (draw, (b, host))

/-- The answer of a handler, with the bindings on a SQL server. -/
def handleOn (handler : DatabaseHandler) (call : Handler.Call) :
    StateM (Broker σ × Host) call.Answer :=
  (handler.answer call).run (I := Backend.interface) (answerOn s handler.engine)

/-- What comes of a program of a handler, with the bindings on a SQL server. -/
def execOn {α : Type} (engine : Engine) (p : Backend.Action α) (x : Broker σ × Host) :
    Except ServiceError α × (Broker σ × Host) :=
  (Program.run (I := Backend.interface) (answerOn s engine) p.run).run x

/-- Two actions one after another, the second with the value of the first. -/
theorem execOn_bind {α β : Type} (engine : Engine) (p : Backend.Action α)
    (f : α → Backend.Action β) (x : Broker σ × Host) :
    execOn s engine (p >>= f) x =
      match execOn s engine p x with
      | (.ok value, x) => execOn s engine (f value) x
      | (.error e, x) => (.error e, x) := by
  unfold execOn
  rw [Program.run_bind_state]
  split <;> rename_i h <;> rw [h]

/-- A connection is one to the appliance that the provider finds. -/
theorem execOn_connection {s : BrokerSettings Memory} {mode : Provider.BootMode} {w i : Duration}
    (hs : s.provider = inMemory mode w i) (h : DatabaseHandler) (name : String)
    (x : Broker Memory × Host) :
    execOn s h.engine (h.connection name) x =
      (h.connected name (Memory.answer mode (.find name) x.1.provider).1,
        (x.1.setProvider (Memory.answer mode (.find name) x.1.provider).2, x.2)) := by
  unfold execOn
  rw [DatabaseHandler.connection_eq, Program.run_ask, StateT.run_bind]
  show (h.connected name ((answer s h.engine (.provider (.find name))).run x.1).1,
    (((answer s h.engine (.provider (.find name))).run x.1).2, x.2)) = _
  rw [answer_provider hs]

end Broker

/-- What holds of a broker in memory and one with its bindings on a SQL server. -/
abbrev Between (σ : Type) := Broker σ → Broker σ × Host → Prop

/-- What holds of two brokers after a program: `after` of its value, or `fails` if it has none. -/
def ends {σ α : Type} (fails : Between σ) (after : α → Between σ) :
    Except ServiceError α → Between σ
  | .ok value => after value
  | .error _ => fails

/-- **A program of a handler on two brokers at once**: where `before` holds of them it comes to the
same on both, and then `after` holds of them and of its value, or `fails` if it has none. -/
def Twins {σ α : Type} (s : BrokerSettings σ) (engine : Engine) (fails before : Between σ)
    (p : Backend.Action α) (after : α → Between σ) : Prop :=
  ∀ b x, before b x → ∃ result b' x', Broker.exec s engine p b = (result, b') ∧
    Broker.execOn s engine p x = (result, x') ∧ ends fails after result b' x'

/-- A call to the dialect that is answered alike. -/
def Alike {σ : Type} (engine : Engine) (fails before : Between σ) (call : Dialect.Call)
    (after : call.Result → Between σ) : Prop :=
  ∀ b x, before b x → ∃ result servers host,
    Servers.answer engine call (b.servers engine) = (result, servers) ∧
      (Dialect.answerOn engine call).run x.2 = (result, host) ∧
      ends fails after result (b.setServers servers engine) (x.1, host)

namespace Twins

section Rules

variable {σ α β : Type} {s : BrokerSettings σ} {engine : Engine} {fails before : Between σ}

/-- Two actions one after another are twins if each of them is. -/
theorem bind {p : Backend.Action α} {f : α → Backend.Action β} {between : α → Between σ}
    {after : β → Between σ} (first : Twins s engine fails before p between)
    (second : ∀ value, Twins s engine fails (between value) (f value) after) :
    Twins s engine fails before (p >>= f) after := by
  intro b x h
  obtain ⟨result, b', x', memory, sql, holds⟩ := first b x h
  cases result with
  | error e =>
    refine ⟨.error e, b', x', ?_, ?_, holds⟩
    · rw [Broker.exec_bind, memory]
    · rw [Broker.execOn_bind, sql]
  | ok value =>
    obtain ⟨result, b'', x'', memory', sql', holds⟩ := second value b' x' holds
    refine ⟨result, b'', x'', ?_, ?_, holds⟩
    · rw [Broker.exec_bind, memory]
      exact memory'
    · rw [Broker.execOn_bind, sql]
      exact sql'

/-- A value is the same on both. -/
theorem pure {value : α} {after : α → Between σ} (holds : ∀ b x, before b x → after value b x) :
    Twins s engine fails before (Pure.pure value) after :=
  fun b x h => ⟨.ok value, b, x, rfl, rfl, holds b x h⟩

/-- A failure is the same on both. -/
theorem throw {e : ServiceError} {after : α → Between σ}
    (holds : ∀ b x, before b x → fails b x) :
    Twins s engine fails before (throwThe ServiceError e) after :=
  fun b x h => ⟨.error e, b, x, rfl, rfl, holds b x h⟩

/-- More may hold before. -/
theorem given {p : Backend.Action α} {before' : Between σ} {after : α → Between σ}
    (twins : Twins s engine fails before p after) (holds : ∀ b x, before' b x → before b x) :
    Twins s engine fails before' p after :=
  fun b x h => twins b x (holds b x h)

/-- A call that is answered alike is the same on both. -/
theorem dialect {call : Dialect.Call} {after : call.Result → Between σ}
    (alike : Alike engine fails before call after) :
    Twins s engine fails before (Backend.dialect call) after := by
  intro b x h
  obtain ⟨result, servers, host, memory, sql, holds⟩ := alike b x h
  refine ⟨result, b.setServers servers engine, (x.1, host), ?_, ?_, holds⟩
  · show ((Servers.answer engine call (b.servers engine)).1,
      b.setServers (Servers.answer engine call (b.servers engine)).2 engine) = _
    rw [memory]
  · show (((Dialect.answerOn engine call).run x.2).1,
      (x.1, ((Dialect.answerOn engine call).run x.2).2)) = _
    rw [sql]

/-- A named step whose call is answered alike is the same on both. -/
theorem dialectStep {step : String} {call : Dialect.Call} {after : call.Result → Between σ}
    (alike : Alike engine fails before call after) :
    Twins s engine fails before (Backend.dialectStep step call) after := by
  intro b x h
  obtain ⟨result, servers, host, memory, sql, holds⟩ := alike b x h
  refine ⟨ServiceError.inStep step result, b.setServers servers engine, (x.1, host), ?_, ?_, ?_⟩
  · show (ServiceError.inStep step (Servers.answer engine call (b.servers engine)).1,
      b.setServers (Servers.answer engine call (b.servers engine)).2 engine) = _
    rw [memory]
  · show (ServiceError.inStep step ((Dialect.answerOn engine call).run x.2).1,
      (x.1, ((Dialect.answerOn engine call).run x.2).2)) = _
    rw [sql]
  · cases result <;> exact holds

end Rules

end Twins

end ServiceBroker

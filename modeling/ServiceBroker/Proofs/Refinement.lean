/-
# A broker in memory keeps its ledger

The outcomes of any requests, one after another, are those of a ledger
(`Broker.outcomes_eq_ledger`): what a broker tells a platform depends on nothing but the
instances and bindings that the platform itself asked for.  Each request takes the ledger
of a steady broker to the ledger after it (`Broker.Steady.perform`), and a run follows
request by request.  What is drawn for a new binding is drawn once: the draws are counted, and
each outcome that needs one takes the next (`Lifecycle.Outcome.draws`).
-/

import ServiceBroker.Proofs.Bookkeeping

namespace ServiceBroker
namespace Broker

open Lifecycle (Request Outcome)
open Provider (Memory inMemory)

section Execution

variable {σ α β : Type} (s : BrokerSettings σ) (handler : DatabaseHandler)

/-- What comes of a program of an operation, and the broker after it. -/
def execute (p : Lifecycle.Action α) (b : Broker σ) : α × Broker σ :=
  (Program.run (I := Handler.interface) (handle s handler) p).run b

/-- A call is answered by the handler, and the operation goes on with the answer. -/
theorem execute_ask {call : Handler.Call} {answer : call.Answer} {b b' : Broker σ}
    (h : handle s handler call b = (answer, b')) (next : call.Answer → Lifecycle.Action α) :
    execute s handler (Lifecycle.ask call >>= next) b = execute s handler (next answer) b' := by
  show (let (a, b) := handle s handler call b; execute s handler (next a) b) = _
  rw [h]

/-- Telling the value in other words changes nothing of the broker. -/
theorem execute_map (p : Lifecycle.Action α) (f : α → β) (b : Broker σ) :
    execute s handler (p >>= fun a => pure (f a)) b =
      (f (execute s handler p b).1, (execute s handler p b).2) := by
  have h : (p >>= fun a => pure (f a)) = Program.bind p fun a => .done (f a) := rfl
  rw [execute, h, Program.run_bind, StateT.run_bind]
  rfl

/-- Performs requests one after another; after each the background settles. -/
def performAll (s : BrokerSettings σ) :
    List (DatabaseHandler × Request) → Broker σ → List Outcome × Broker σ
  | [], b => ([], b)
  | (handler, request) :: rest, b =>
    let (outcome, b) := perform s handler request b
    let (outcomes, b) := performAll s rest (b.settle s)
    (outcome :: outcomes, b)

end Execution

/-- Credentials whose user and password are those of a draw. -/
def Drawn {σ : Type} (s : BrokerSettings σ) (draw : Nat) (c : Credentials) : Prop :=
  c.username = (s.chance.binding draw).username.text ∧
    c.password = (s.chance.binding draw).password.text

/-- There are credentials for every draw. -/
theorem exists_drawn {σ : Type} (s : BrokerSettings σ) (draw : Nat) : ∃ c, Drawn s draw c :=
  ⟨⟨"", "", "", (s.chance.binding draw).username.text, (s.chance.binding draw).password.text, "",
    ""⟩, rfl, rfl⟩

/-- The draws made before a request, where chance was used some times before the first. -/
def drawsBefore (first : Nat) (outcomes : List Outcome) (request : Nat) : Nat :=
  first + ((outcomes.take request).map Outcome.draws).sum

/-- The draws made for the first request are behind all later ones. -/
theorem drawsBefore_succ (first : Nat) (outcome : Outcome) (outcomes : List Outcome)
    (request : Nat) : drawsBefore first (outcome :: outcomes) (request + 1) =
      drawsBefore (first + outcome.draws) outcomes request := by
  rw [drawsBefore, drawsBefore, List.take_succ_cons, List.map_cons, List.sum_cons, Nat.add_assoc]

/-- What comes of a request is what the ledger says, and the broker is steady with the ledger
after it once the background has settled.  Chance was used as often before as `draws` says, and
since then as often as the outcome needs it. -/
structure Follows (s : BrokerSettings Memory) (n draws : Nat) (result : Outcome × Broker Memory)
    (answer : Outcome × Ledger) : Prop where
  outcome : result.1 = answer.1
  steady : Steady n (result.2.settle s)
  ledger : (result.2.settle s).ledger = answer.2
  drawn : result.2.drawn = draws + answer.1.draws

section Requests

variable {s : BrokerSettings Memory} {w i : Duration} {n : Nat} {b : Broker Memory}

/-- A steady broker has nothing to settle. -/
theorem Steady.settle (h : Steady n b) (s : BrokerSettings Memory) : b.settle s = b := by
  rw [Broker.settle, h.atRest.settle]

/-- A request that leaves the background alone. -/
theorem Steady.follows (h : Steady n b) {outcome : Outcome} {l : Ledger} {draws : Nat}
    (hl : b.ledger = l) (hd : b.drawn = draws + outcome.draws) :
    Follows s n draws (outcome, b) (outcome, l) :=
  ⟨rfl, (h.settle s).symm ▸ h, (h.settle s).symm ▸ hl, hd⟩

/-- The appliance of an instance is up, and differs from what is asked for where the ledger
does. -/
theorem Steady.of_instance (h : Steady n b) {name : String} {network : Network}
    (hn : b.ledger.instances name = some network) :
    ∃ a, b.provider.first? name = some a ∧
      a.isUp = true ∧ a.isFailed = false ∧ a.isMigrating = false ∧
      ∀ p, InstanceState.differs p a = decide (network ≠ p.network) := by
  obtain ⟨a, ha, hnetwork⟩ := exists_appliance hn
  obtain ⟨up, sound, staying⟩ := h.provider.up a (Memory.mem_of_first? ha)
  exact ⟨a, ha, up, sound, staying, fun p => InstanceState.differs_eq hnetwork⟩

variable (hs : s.provider = inMemory .instant w i) (handler : DatabaseHandler) (name : String)

include hs

/-- A request to provision comes to what the ledger says. -/
theorem Steady.perform_provision (h : Steady n b) (hn : n + 1 < 2 ^ 64) (fresh : Credentials)
    (parameters : Option Json) :
    ∃ n' ≤ n + 1, Follows s n' b.drawn (perform s handler (.provision name parameters) b)
      (b.ledger.answer fresh handler.engine (.provision name parameters)) := by
  show ∃ n' ≤ n + 1,
    Follows s n' b.drawn (execute s handler (Lifecycle.perform (.provision name parameters)) b) _
  rw [Lifecycle.perform, execute_map, Lifecycle.provision, Ledger.answer]
  cases hp : Parameters.parse parameters with
  | error e => exact ⟨n, Nat.le_succ n, h.follows rfl rfl⟩
  | ok p =>
    dsimp only
    rw [execute_ask _ _ (h.handle_instanceState hs handler name (some p))]
    cases hname : b.ledger.instances name with
    | none =>
      obtain ⟨b', created, steady, entered, drawn⟩ :=
        h.searched.handle_createInstance hs handler hn hname p
      rw [h.first?_eq_none hname]
      dsimp only [Option.map_none]
      rw [execute_ask _ _ created]
      exact ⟨n + 1, Nat.le_refl _, steady.follows entered drawn⟩
    | some network =>
      obtain ⟨a, ha, up, sound, -, differs⟩ := h.of_instance hname
      refine ⟨n, Nat.le_succ n, ?_⟩
      rw [ha]
      simp only [Option.map_some, InstanceState.hasDiff, Option.any_some, differs,
        decide_eq_true_eq, InstanceState.isFailed, sound, InstanceState.isUp, up, if_true]
      by_cases same : network = p.network
      · rw [if_neg (not_not.2 same), if_neg Bool.false_ne_true, if_pos same]
        exact h.searched.follows rfl rfl
      · rw [if_pos same, if_neg same]
        exact h.searched.follows rfl rfl

/-- A request to deprovision comes to what the ledger says. -/
theorem Steady.perform_deprovision (h : Steady n b) (fresh : Credentials) :
    Follows s n b.drawn (perform s handler (.deprovision name) b)
      (b.ledger.answer fresh handler.engine (.deprovision name)) := by
  show Follows s n b.drawn (execute s handler (Lifecycle.perform (.deprovision name)) b) _
  rw [Lifecycle.perform, execute_map, Lifecycle.deprovision,
    execute_ask _ _ (h.handle_instanceState hs handler name none), Ledger.answer]
  cases hn : b.ledger.instances name with
  | none =>
    rw [h.first?_eq_none hn]
    exact h.searched.follows rfl rfl
  | some network =>
    obtain ⟨a, ha, up, -, staying, -⟩ := h.of_instance hn
    obtain ⟨b', deleted, steady, struck, drawn⟩ :=
      h.searched.handle_deleteInstance hs handler hn
    rw [ha]
    simp only [Option.map_some, InstanceState.isMigrating, staying, InstanceState.isUp, up,
      Bool.true_or, if_true]
    rw [if_neg Bool.false_ne_true, execute_ask _ _ deleted]
    exact ⟨rfl, steady, struck, drawn⟩

/-- A poll comes to what the ledger says. -/
theorem Steady.perform_poll (h : Steady n b) (fresh : Credentials) (operation : Operation) :
    Follows s n b.drawn (perform s handler (.poll operation name) b)
      (b.ledger.answer fresh handler.engine (.poll operation name)) := by
  show Follows s n b.drawn (execute s handler (Lifecycle.perform (.poll operation name)) b) _
  rw [Lifecycle.perform, execute_map, Lifecycle.poll,
    execute_ask _ _ (h.handle_instanceState hs handler name none), Ledger.answer]
  cases hn : b.ledger.instances name with
  | none =>
    rw [h.first?_eq_none hn]
    exact h.searched.follows rfl rfl
  | some network =>
    obtain ⟨a, ha, up, sound, -, -⟩ := h.of_instance hn
    rw [ha]
    simp only [Option.map_some, InstanceState.isFailed, sound, InstanceState.isUp, up, and_true]
    rw [if_neg (by simp)]
    split <;> exact h.searched.follows rfl rfl

/-- A request to bind comes to what the ledger says, with the credentials of the next draw. -/
theorem Steady.perform_bind (h : Steady n b) (binding : String) :
    ∃ fresh, Drawn s b.drawn fresh ∧ Follows s n b.drawn (perform s handler (.bind name binding) b)
      (b.ledger.answer fresh handler.engine (.bind name binding)) := by
  show ∃ fresh, Drawn s b.drawn fresh ∧
    Follows s n b.drawn (execute s handler (Lifecycle.perform (.bind name binding)) b) _
  rw [Lifecycle.perform, execute_map, Lifecycle.bind,
    execute_ask _ _ (h.handle_instanceState hs handler name none)]
  obtain ⟨some_fresh, drawn⟩ := exists_drawn s b.drawn
  cases hn : b.ledger.instances name with
  | none =>
    refine ⟨some_fresh, drawn, ?_⟩
    simp only [h.first?_eq_none hn, Ledger.answer, hn]
    exact h.searched.follows rfl rfl
  | some network =>
    obtain ⟨a, ha, -, -, -, -⟩ := h.of_instance hn
    obtain ⟨b₁, asked, steady₁, same, undrawn⟩ := h.searched.handle_bindingState hs handler hn binding
    have same : b₁.ledger = b.ledger := same
    rw [ha]
    simp only [Option.map_some, Ledger.answer, hn]
    rw [execute_ask _ _ asked]
    cases hb : b.ledger.bindings handler.engine name binding with
    | none =>
      obtain ⟨b₂, fresh, created, steady₂, recorded, user, password, drawn'⟩ :=
        steady₁.handle_createBinding hs handler (same ▸ hn) (same ▸ hb)
      have undrawn : b₁.drawn = b.drawn := undrawn
      rw [undrawn] at user password drawn'
      refine ⟨fresh, ⟨user, password⟩, ?_⟩
      rw [show b.searched.ledger.bindings handler.engine name binding = none from hb,
        Option.map_none]
      dsimp only
      rw [execute_ask _ _ created]
      exact steady₂.follows (same ▸ recorded) drawn'
    | some credentials =>
      refine ⟨some_fresh, drawn, ?_⟩
      rw [show b.searched.ledger.bindings handler.engine name binding = some credentials from hb]
      exact steady₁.follows same undrawn

/-- A request to unbind comes to what the ledger says. -/
theorem Steady.perform_unbind (h : Steady n b) (fresh : Credentials) (binding : String) :
    Follows s n b.drawn (perform s handler (.unbind name binding) b)
      (b.ledger.answer fresh handler.engine (.unbind name binding)) := by
  show Follows s n b.drawn (execute s handler (Lifecycle.perform (.unbind name binding)) b) _
  rw [Lifecycle.perform, execute_map, Lifecycle.unbind,
    execute_ask _ _ (h.handle_instanceState hs handler name none), Ledger.answer]
  cases hn : b.ledger.instances name with
  | none =>
    rw [h.first?_eq_none hn]
    exact h.searched.follows rfl rfl
  | some network =>
    obtain ⟨a, ha, up, sound, -, -⟩ := h.of_instance hn
    obtain ⟨b', removed, steady, unset, drawn⟩ :=
      h.searched.handle_deleteBinding hs handler hn binding
    rw [ha]
    simp only [Option.map_some, InstanceState.isFailed, sound, InstanceState.isUp, up,
      Bool.not_true, Bool.or_self]
    rw [if_neg Bool.false_ne_true, execute_ask _ _ removed]
    exact steady.follows unset drawn

/-- **Every request takes the ledger to the ledger after it.** -/
theorem Steady.perform (h : Steady n b) (request : Request)
    (hn : n + request.provisions < 2 ^ 64) :
    ∃ fresh, Drawn s b.drawn fresh ∧ ∃ n' ≤ n + request.provisions,
      Follows s n' b.drawn (perform s handler request b)
        (b.ledger.answer fresh handler.engine request) := by
  obtain ⟨fresh, drawn⟩ := exists_drawn s b.drawn
  cases request with
  | provision name parameters =>
    exact ⟨fresh, drawn, h.perform_provision hs handler name hn fresh parameters⟩
  | deprovision name =>
    exact ⟨fresh, drawn, n, Nat.le_refl n, h.perform_deprovision hs handler name fresh⟩
  | poll operation name =>
    exact ⟨fresh, drawn, n, Nat.le_refl n, h.perform_poll hs handler name fresh operation⟩
  | bind name binding =>
    obtain ⟨fresh, drawn, follows⟩ := h.perform_bind hs handler name binding
    exact ⟨fresh, drawn, n, Nat.le_refl n, follows⟩
  | unbind name binding =>
    exact ⟨fresh, drawn, n, Nat.le_refl n, h.perform_unbind hs handler name fresh binding⟩

/-- A steady broker keeps its ledger through any run of requests. -/
theorem Steady.performAll (h : Steady n b) (calls : List (DatabaseHandler × Request))
    (hn : n + (calls.map (·.2.provisions)).sum < 2 ^ 64) :
    ∃ fresh : Nat → Credentials,
      (∀ k, Drawn s (drawsBefore b.drawn (performAll s calls b).1 k) (fresh k)) ∧
      (performAll s calls b).1 =
        Ledger.outcomes fresh (calls.map fun (handler, request) => (handler.engine, request))
          b.ledger := by
  induction calls generalizing n b with
  | nil =>
    choose fresh drawn using exists_drawn s
    exact ⟨fun k => fresh (drawsBefore b.drawn [] k), fun k => drawn _, rfl⟩
  | cons call rest ih =>
    obtain ⟨handler, request⟩ := call
    simp only [List.map_cons, List.sum_cons] at hn
    obtain ⟨first, drawn, n', hn', follows⟩ := h.perform hs handler request (by omega)
    obtain ⟨fresh, later, outcomes⟩ := ih follows.steady (by omega)
    refine ⟨fun k => k.casesOn first fresh, ?_, ?_⟩
    · rintro (_ | k)
      · exact drawn
      -- What was drawn for the first request is behind all later ones.
      · have behind := later k
        rw [show ((Broker.perform s handler request b).2.settle s).drawn = _ from follows.drawn,
          ← follows.outcome, ← drawsBefore_succ] at behind
        exact behind
    · rw [follows.ledger] at outcomes
      exact congrArg₂ List.cons follows.outcome outcomes

end Requests

/-- **A broker in memory is a ledger.**  Whatever is asked of it through any handler, one request
after another with the background settled in between, the outcomes are those of the ledger that
begins empty; the credentials of a new binding carry the user and the password of the draw that
comes after all draws made before, so that no two bindings share one.  The requests to provision
must be fewer than there are numbers for appliances. -/
theorem outcomes_eq_ledger {s : BrokerSettings Memory} {w i : Duration}
    (hs : s.provider = inMemory .instant w i) (calls : List (DatabaseHandler × Request))
    (hn : (calls.map (·.2.provisions)).sum < 2 ^ 64) :
    ∃ fresh : Nat → Credentials,
      (∀ k, Drawn s (drawsBefore 0 (performAll s calls (start {})).1 k) (fresh k)) ∧
      (performAll s calls (start {})).1 =
        Ledger.outcomes fresh (calls.map fun (handler, request) => (handler.engine, request))
          Ledger.empty :=
  steady_start.performAll hs calls (by rwa [Nat.zero_add])

/-- An instance is made, bound twice under one name, given up and gone. -/
theorem outcomes_of_one_instance :
    let handler : DatabaseHandler := ⟨.mariaDb, 10⟩
    let parameters : Json := .object [("switchID", .integer 1), ("ipaddress", .string "10.0.0.2"),
      ("maskLen", .integer 24), ("defaultRoute", .string "10.0.0.1")]
    let calls : List (DatabaseHandler × Request) := [(handler, .provision "a" (some parameters)),
      (handler, .bind "a" "b"), (handler, .bind "a" "b"), (handler, .deprovision "a"),
      (handler, .poll .deprovisioning "a")]
    (calls.map (·.2.provisions)).sum < 2 ^ 64 ∧
      ∃ c, (performAll (inMemorySettings .instant (Chance.ofSeed [])) calls (start {})).1 =
        [.provision .accepted, .bind (.created c), .bind (.alreadyBound c),
          .deprovision .accepted, .poll .gone] := by
  intro handler parameters calls
  have few : (calls.map (·.2.provisions)).sum < 2 ^ 64 := by decide
  obtain ⟨fresh, -, outcomes⟩ :=
    outcomes_eq_ledger (s := inMemorySettings .instant (Chance.ofSeed [])) rfl calls few
  exact ⟨few, fresh 1, outcomes.trans rfl⟩

end Broker
end ServiceBroker

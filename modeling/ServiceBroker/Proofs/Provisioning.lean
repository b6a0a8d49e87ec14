/-
# Requests that provision one instance at the same time

A request to provision searches for its instance and creates it when it finds none.  No
lock is held in between, and a provider gives the same name to any number of appliances.
`Traffic.provisioned_once_iff` states exactly when at most one is created: unless a request
creates after another one has created between its own search and its own creation.
`Traffic.provisioned_twice` is a run in which one does, and leaves a name that nobody can
search for any more.
-/

import ServiceBroker.Proofs.Hindsight

namespace ServiceBroker

namespace DatabaseHandler

open Program (Asked Leads)

variable (h : DatabaseHandler) {name : String} {parameters : Option Json} {p : Parameters}

/-- Provisioning with parameters that parse, question by question. -/
theorem interpret_provision (parsed : Parameters.parse parameters = .ok p) :
    (Lifecycle.provision name parameters).interpret h.answer =
      .ask (I := Backend.interface) (.provider (.find name)) fun
        | .ok [] => .ask (I := Backend.interface) .drawAdmin fun draw =>
          .ask (I := Backend.interface) (.provider (.create (h.order name p draw))) fun
            | .ok _ => .done .accepted
            | .error _ => .done .internalError
        | .ok [a] =>
          if (⟨a, some p⟩ : InstanceState).hasDiff then .done .conflict
          else if a.isFailed then .done .internalError
          else if a.isUp then .done .alreadyProvisioned
          else .done .accepted
        | .ok _ => .done .internalError
        | .error _ => .done .internalError := by
  rw [Lifecycle.provision, parsed]
  show Program.ask (I := Backend.interface) _ _ = _
  congr 1
  funext answer
  rcases answer with e | (_ | ⟨a, _ | ⟨b, rest⟩⟩)
  · rfl
  · show Program.ask (I := Backend.interface) _ _ = _
    congr 1
    funext draw
    show Program.ask (I := Backend.interface) _ _ = _
    congr 1
    funext answer
    cases answer <;> rfl
  · show Program.interpret (I := Handler.interface) h.answer
      (if (⟨a, some p⟩ : InstanceState).hasDiff = true then .done _
        else if a.isFailed = true then .done _
        else if a.isUp = true then .done _ else .done _) = _
    dsimp only
    split_ifs <;> rfl
  · rfl

/-- A request to provision asks for its instance, and then, if there is none, for chance and for a
new appliance under its name. -/
theorem asks_of_provision (parsed : Parameters.parse parameters = .ok p)
    {asked : List (Asked Backend.interface)} {call : Backend.Call}
    {next : call.Answer → Program Backend.interface Lifecycle.Outcome}
    (leads : Leads ((Lifecycle.perform (.provision name parameters)).interpret h.answer) asked
      (.ask (I := Backend.interface) call next)) :
    call = .provider (.find name) ∨ call = .drawAdmin ∨
      ∃ order : ApplianceOrder, call = .provider (.create order) ∧ order.name = name ∧
        ⟨.provider (.find name), .ok []⟩ ∈ asked := by
  have whole : (Lifecycle.perform (.provision name parameters)).interpret h.answer =
      ((Lifecycle.provision name parameters).interpret h.answer).bind
        fun outcome => .done (.provision outcome) := Program.interpret_bind _ _ _
  rw [whole, h.interpret_provision parsed] at leads
  cases leads with
  | start => exact .inl rfl
  | ask answer rest =>
    rcases answer with e | (_ | ⟨a, _ | ⟨b, more⟩⟩)
    · cases rest
    · cases rest with
      | start => exact .inr (.inl rfl)
      | ask draw rest =>
        cases rest with
        | start => exact .inr (.inr ⟨_, rfl, rfl, List.mem_cons_self⟩)
        | ask answer rest => cases answer <;> cases rest
    · dsimp only at rest
      split_ifs at rest <;> cases rest
    · cases rest

end DatabaseHandler

namespace Traffic

open Provider (Memory inMemory)
open Scheduler (taskIn)

/-- Requests to provision one instance, with parameters that parse; the appliances with its name
change by them only. -/
def provisioning (s : BrokerSettings Memory) (name : String) :
    World Memory Lifecycle.Outcome where
  settings := s
  arrives u := ∃ (handler : DatabaseHandler) (parameters : Option Json) (p : Parameters),
    Parameters.parse parameters = .ok p ∧
      u = ⟨handler.engine,
        (Lifecycle.perform (.provision name parameters)).interpret handler.answer⟩
  changes before after := after.named name = before.named name

/-- The appliance that a request creates in a step. -/
def Event.creation? : Event Memory → Option Appliance
  | .asked _ (.provider (.create _)) (.ok a) => some a
  | _ => none

/-- The appliances that requests created, in this order. -/
def creations (events : List (Event Memory)) : List Appliance :=
  events.filterMap Event.creation?

/-- A step that creates an appliance is an order that went well. -/
theorem Event.eq_of_creation? {e : Event Memory} {a : Appliance} (h : e.creation? = some a) :
    ∃ r order, e = .asked r (.provider (.create order)) (.ok a) := by
  cases e with
  | asked r call answer =>
    cases call with
    | provider call =>
      cases call with
      | create order =>
        cases answer with
        | error e => cases h
        | ok made =>
          cases h
          exact ⟨r, order, rfl⟩
      | _ => cases h
    | _ => cases h
  | _ => cases h

/-- The appliances created in two runs are those of the one and then of the other. -/
theorem creations_append (before after : List (Event Memory)) :
    creations (before ++ after) = creations before ++ creations after :=
  List.filterMap_append

/-- A request searches for an instance and finds none. -/
def searchedInVain (name : String) (r : Nat) : Event Memory :=
  .asked r (.provider (.find name)) (.ok [])

section

variable {s : BrokerSettings Memory} {mode : Provider.BootMode} {w i : Duration}
  (hs : s.provider = inMemory mode w i) {b : Broker Memory} {name : String}
  {events : List (Event Memory)} {e : Event Memory} {t t' : Traffic Memory Lifecycle.Outcome}

/-- What a request that provisions asks. -/
theorem Run.asks_of_provisioning (run : Run (provisioning s name) ⟨b, []⟩ events t) {r : Nat}
    {engine : Engine} {call : Backend.Call}
    {next : call.Answer → Program Backend.interface Lifecycle.Outcome}
    (asks : t.requests[r]? = some ⟨engine, .ask (I := Backend.interface) call next⟩) :
    call = .provider (.find name) ∨ call = .drawAdmin ∨
      ∃ order : ApplianceOrder, call = .provider (.create order) ∧ order.name = name ∧
        ⟨.provider (.find name), .ok []⟩ ∈ askedBy r events := by
  obtain ⟨p, ⟨handler, parameters, q, parsed, is⟩, leads⟩ := (run.leads r).2 _ asks
  obtain ⟨-, rfl⟩ := Underway.mk.inj is
  exact handler.asks_of_provision parsed leads

include hs

/-- A request creates an appliance with the name, or leaves those with the name as they are. -/
theorem Run.named_asked (run : Run (provisioning s name) ⟨b, []⟩ events t) {r : Nat}
    {engine : Engine} {call : Backend.Call}
    {next : call.Answer → Program Backend.interface Lifecycle.Outcome}
    (asks : t.requests[r]? = some ⟨engine, .ask (I := Backend.interface) call next⟩) :
    (t.reply (provisioning s name) engine call).2.deletions.tasks = t.deletions.tasks ∧
      (t.reply (provisioning s name) engine call).2.provider.named name =
        t.broker.provider.named name ++
          (Event.asked r call
            (t.reply (provisioning s name) engine call).1).creation?.toList := by
  have answered (call : Provider.Call) :=
    Provider.answer_of_inMemory hs t.broker.now call t.broker.provider
  have reply (call : Provider.Call) : t.reply (provisioning s name) engine (.provider call) =
      ((Memory.answer mode call t.broker.provider).1,
        t.broker.setProvider (Memory.answer mode call t.broker.provider).2) := by
    show ((s.provider.answer t.broker.now call t.broker.provider).1.value,
      t.broker.setProvider (s.provider.answer t.broker.now call t.broker.provider).2) = _
    rw [answered]
  rcases run.asks_of_provisioning asks with rfl | rfl | ⟨order, rfl, named, -⟩
  · rw [reply, Memory.answer]
    split
    · exact ⟨rfl, (List.append_nil _).symm⟩
    · exact ⟨rfl, (List.append_nil _).symm⟩
  · exact ⟨rfl, (List.append_nil _).symm⟩
  · rw [reply, Memory.answer]
    split
    · exact ⟨rfl, (List.append_nil _).symm⟩
    · refine ⟨rfl, (List.filter_append _ _).trans (congrArg (t.broker.provider.named name ++ ·) ?_)⟩
      exact List.filter_cons_of_pos (by simp [Memory.boot, named])

/-- **The appliances with the name are those that requests created**, in this order. -/
theorem Run.named (rest : b.deletions.tasks = []) (absent : b.provider.named name = [])
    (run : Run (provisioning s name) ⟨b, []⟩ events t) :
    t.deletions.tasks = [] ∧ t.broker.provider.named name = creations events := by
  induction run with
  | start => exact ⟨rest, absent⟩
  | @step events e t₁ t₂ run step ih =>
    rw [creations_append, ← ih.2]
    cases step with
    | ask asks =>
      obtain ⟨tasks, named⟩ := run.named_asked hs asks
      exact ⟨tasks.trans ih.1, named⟩
    | turn ready running =>
      rw [ih.1] at running
      cases running
    | change may => exact ⟨ih.1, may.trans (List.append_nil _).symm⟩
    | _ => exact ⟨ih.1, (List.append_nil _).symm⟩

/-- Before a search that finds nothing, nothing was created. -/
theorem Run.creations_of_search (rest : b.deletions.tasks = [])
    (absent : b.provider.named name = [])
    {before after : List (Event Memory)} {r : Nat}
    (run : Run (provisioning s name) ⟨b, []⟩ (before ++ searchedInVain name r :: after) t) :
    creations before = [] := by
  obtain ⟨t₁, t₂, run, step⟩ := run.split
  obtain ⟨engine, -, -, is⟩ := step.answered
  have answered := Provider.answer_of_inMemory hs t₁.broker.now (.find name) t₁.broker.provider
  rw [← (run.named hs rest absent).2]
  cases available : t₁.broker.provider.unavailable with
  | false =>
    rw [reply_find (w := provisioning s name) hs t₁ available] at is
    exact (Except.ok.inj is).symm
  | true =>
    have failed : (t₁.reply (provisioning s name) engine (.provider (.find name))).1 =
        .error Memory.unavailableError := by
      show (s.provider.answer t₁.broker.now (.find name) t₁.broker.provider).1.value = _
      rw [answered, Memory.answer, if_pos available]
    cases is.trans failed

/-- A request that creates the second appliance, or a later one, was overtaken. -/
theorem Run.overtaken (rest : b.deletions.tasks = []) (absent : b.provider.named name = [])
    (run : Run (provisioning s name) ⟨b, []⟩ events t) :
    (creations events).length ≤ 1 ∨ Overtaken (searchedInVain name) Event.creation? events := by
  refine run.few_or_overtaken (fun _ => rfl) (fun e made => ?_) (fun run step made => ?_)
    fun run => run.creations_of_search hs rest absent
  · obtain ⟨a, made⟩ := Option.isSome_iff_exists.1 made
    obtain ⟨r, order, rfl⟩ := Event.eq_of_creation? made
    exact ⟨r, _, _, rfl⟩
  · obtain ⟨a, made⟩ := Option.isSome_iff_exists.1 made
    obtain ⟨r, order, is⟩ := Event.eq_of_creation? made
    cases is
    obtain ⟨engine, next, asks, -⟩ := step.asked
    obtain ⟨⟨⟩⟩ | ⟨⟨⟩⟩ | ⟨order', -, -, searched⟩ := run.asks_of_provisioning asks
    obtain ⟨before, between, rfl⟩ := split_of_mem_askedBy searched
    exact List.mem_append_right _ List.mem_cons_self

/-- **At most one appliance is created, unless a request is overtaken.**  Of requests to provision
one instance at the same time, over a provider in memory that has none and in any order of their
steps: the appliances with the name are those that requests created; at most one was created if and
only if no request created one after another request had, since its own search; and where one did,
and only there, a search for the instance fails as ambiguous from then on. -/
theorem provisioned_once_iff (rest : b.deletions.tasks = []) (absent : b.provider.named name = [])
    (run : Run (provisioning s name) ⟨b, []⟩ events t) :
    t.broker.provider.named name = creations events ∧
      ((creations events).length ≤ 1 ↔ ¬Overtaken (searchedInVain name) Event.creation? events) ∧
      (t.broker.provider.unavailable = false → ∀ engine,
        (Broker.exec s engine (Backend.findOne name) t.broker).1 =
          .error (.provider (.ambiguous name)) ↔
            Overtaken (searchedInVain name) Event.creation? events) := by
  have named := (run.named hs rest absent).2
  have once := run.overtaken hs rest absent
  refine ⟨named, ⟨fun few overtaken => ?_, once.resolve_right⟩, fun available engine => ?_⟩
  · have two : 2 ≤ (creations events).length := overtaken.two_le
    omega
  · have ambiguous : Overtaken (searchedInVain name) Event.creation? events ↔
        2 ≤ (creations events).length :=
      ⟨Overtaken.two_le, fun two => once.resolve_left (by omega)⟩
    rw [Broker.exec_findOne hs engine name available, named, ambiguous]
    rcases creations events with _ | ⟨a, _ | ⟨a', more⟩⟩
    · exact iff_of_false nofun (by simp)
    · exact iff_of_false nofun (by simp)
    · exact iff_of_true rfl (by simp)

end

/-- Parameters with nothing but what is required. -/
def plainParameters : Json :=
  .object [("switchID", .integer 1), ("ipaddress", .string "10.0.0.2"), ("maskLen", .integer 24),
    ("defaultRoute", .string "10.0.0.1")]

/-- Of two requests the second searches after the first has created. -/
theorem provisioned_once :
    let w := provisioning (Broker.inMemorySettings .instant (Chance.ofSeed [])) "a"
    ∃ events t, Run w ⟨Broker.start {}, []⟩ events t ∧
      [0, 1].map t.outcome? =
        [some (.provision .accepted), some (.provision .alreadyProvisioned)] ∧
      (creations events).length = 1 ∧ ¬Overtaken (searchedInVain "a") Event.creation? events ∧
      (t.broker.provider.named "a").length = 1 := by
  intro w
  have arrives (handler : DatabaseHandler) : w.arrives ⟨handler.engine,
      (Lifecycle.perform (.provision "a" (some plainParameters))).interpret handler.answer⟩ :=
    ⟨handler, _, _, rfl, rfl⟩
  have empty : Run w ⟨Broker.start {}, []⟩ [] ⟨Broker.start {}, []⟩ := .start
  have one := empty.step (.arrive (arrives ⟨.mariaDb, 10⟩))
  have two := one.step (.arrive (arrives ⟨.mariaDb, 10⟩))
  have run := two.follow [.request 0, .request 0, .request 0, .request 1]
  obtain ⟨named, once, -⟩ := provisioned_once_iff rfl rfl rfl run
  have one_created := congrArg List.length named
  exact ⟨_, _, run, by decide +kernel, by decide +kernel, once.1 (by decide +kernel),
    one_created.trans (by decide +kernel)⟩

/-- **Two requests both search before either creates**, and both create: the name is ambiguous from
then on. -/
theorem provisioned_twice :
    let s := Broker.inMemorySettings .instant (Chance.ofSeed [])
    ∃ events t, Run (provisioning s "a") ⟨Broker.start {}, []⟩ events t ∧
      [0, 1].map t.outcome? = [some (.provision .accepted), some (.provision .accepted)] ∧
      (creations events).length = 2 ∧
      (Broker.exec s .mariaDb (Backend.findOne "a") t.broker).1 =
        .error (.provider (.ambiguous "a")) := by
  intro s
  have arrives (handler : DatabaseHandler) : (provisioning s "a").arrives ⟨handler.engine,
      (Lifecycle.perform (.provision "a" (some plainParameters))).interpret handler.answer⟩ :=
    ⟨handler, _, _, rfl, rfl⟩
  have empty : Run (provisioning s "a") ⟨Broker.start {}, []⟩ [] ⟨Broker.start {}, []⟩ := .start
  have one := empty.step (.arrive (arrives ⟨.mariaDb, 10⟩))
  have two := one.step (.arrive (arrives ⟨.mariaDb, 10⟩))
  have run := two.follow [.request 0, .request 1, .request 0, .request 0, .request 1, .request 1]
  exact ⟨_, _, run, by decide +kernel, by decide +kernel, rfl⟩

end Traffic
end ServiceBroker

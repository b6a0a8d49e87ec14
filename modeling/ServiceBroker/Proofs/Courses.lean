/-
# Courses over a provider and servers that change

The provider changes of itself, and database servers become unreachable and reachable again
(`Traffic.Course`).  A row on a server is from before a call or is made by it
(`Dialect.Servers.row?_answer`), and an appliance is there before a step or is created by it,
with the next number (`Traffic.Step.growth`).
-/

import ServiceBroker.Proofs.Collision
import ServiceBroker.Proofs.Directed
import ServiceBroker.Proofs.Provisioning
import ServiceBroker.Proofs.Standing

namespace ServiceBroker

namespace Dialect.Servers

variable {engine : Engine} {s : Servers} {salt binding : String} {row : Row}

/-- **A row is from before, or the call makes it.** -/
theorem row?_answer {call : Call} (there : (answer engine call s).2.row? salt binding = some row) :
    s.row? salt binding = some row ∨ ∃ c draw, call = .create c binding draw ∧ salt = c.salt ∧
      (answer engine (.create c binding draw) s).1 = .ok (draw.record binding) ∧
      row = ⟨draw.username.text, storedPassword engine c.salt draw.nonce draw.password.text⟩ := by
  cases call with
  | connect c => exact .inl (by rwa [row?_connect] at there)
  | prepare c => exact .inl (by rwa [row?_prepare] at there)
  | hasTable c => exact .inl there
  | read c binding' => exact .inl (by rwa [answer_read] at there)
  | readUser c binding' => exact .inl there
  | create c binding' draw =>
    cases prepared : (s.server c.salt).bindings.isSome with
    | false =>
      refine .inl ?_
      have missing : (s.server c.salt).bindings = none := by simpa using prepared
      simpa only [answer, missing] using there
    | true =>
      rw [row?_create engine s c binding' draw prepared] at there
      split_ifs at there with same
      · cases there
        obtain ⟨rfl, rfl⟩ := same
        exact .inr ⟨c, draw, rfl, rfl, answer_create engine s c binding draw prepared, rfl⟩
      · exact .inl there
  | delete c binding' username =>
    rw [row?_delete] at there
    split_ifs at there
    exact .inl there

/-- Only a binding with what was drawn for it is ever made. -/
theorem record_of_create {c : Connection} {draw : Draw} {record : BindingRecord}
    (made : (answer engine (.create c binding draw) s).1 = .ok record) :
    record = draw.record binding := by
  cases prepared : (s.server c.salt).bindings.isSome with
  | false =>
    have missing : (s.server c.salt).bindings = none := by simpa using prepared
    simp only [answer, missing] at made
    cases made
  | true =>
    rw [answer_create engine s c binding draw prepared] at made
    exact (Except.ok.inj made).symm

/-- What is on record has a row with its user, whose password opens. -/
theorem exists_row_of_recorded {c : Connection} {record : BindingRecord}
    (shown : recorded engine s c binding = .ok (some record)) :
    ∃ row, s.row? c.salt binding = some row ∧ ∃ password,
      loadedPassword engine c.salt row.stored = .ok password ∧
        record = ⟨binding, row.username, password⟩ := by
  cases there : s.row? c.salt binding with
  | none =>
    rw [recorded_of_none engine s c there] at shown
    cases shown
  | some row =>
    rw [recorded_of_some engine s c there] at shown
    cases opened : loadedPassword engine c.salt row.stored with
    | error e =>
      rw [opened] at shown
      cases shown
    | ok password =>
      rw [opened] at shown
      exact ⟨row, rfl, password, opened, (Option.some.inj (Except.ok.inj shown)).symm⟩

end Dialect.Servers

/-- A call about an appliance brings none into being. -/
theorem Provider.Memory.known_answer (mode : BootMode) (m : Memory) {call : Call}
    {j : ApplianceId} (target : call.target? = some j) (id : ApplianceId)
    (there : ((answer mode call m).2.get? id).isSome) : (m.get? id).isSome := by
  rcases answer_cases mode m j target with ⟨counts, same⟩ | ⟨rfl, off⟩ | ⟨rfl, gone⟩
  · rwa [same] at there
  · rw [off, get?_turnOff, Option.isSome_map] at there
    exact there
  · rw [gone, get?_remove] at there
    split_ifs at there
    · cases there
    · exact there

namespace Traffic

open Backend (found lastFound?)
open DatabaseHandler (credentials)
open Dialect (Servers storedPassword)
open Provider (Memory inMemory)

/-- What came of a request to the service of a handler, or of a call to the handler. -/
inductive Told where
  | performed (handler : DatabaseHandler) (request : Lifecycle.Request)
    (outcome : Lifecycle.Outcome)
  | answered (handler : DatabaseHandler) (call : Handler.Call) (answer : call.Answer)

/-- The credentials that are handed out. -/
def Told.handout? : Told → Option Handout
  | performed handler request outcome => request.handout? handler.engine outcome
  | answered handler call answer => call.handout? handler.engine answer

/-- Requests of platforms and calls to handlers, of any services, over a provider in memory that
changes of itself as well. -/
def everyone (s : BrokerSettings Memory) : World Memory Told where
  settings := s
  arrives u := ∃ handler : DatabaseHandler,
    (∃ request, u = ⟨handler.engine, ((Lifecycle.perform request).interpret handler.answer).bind
      fun outcome => .done (.performed handler request outcome)⟩) ∨
    ∃ call, u = ⟨handler.engine, (handler.answer call).bind
      fun answer => .done (.answered handler call answer)⟩
  changes := Memory.Changes

section Courses

variable {σ α : Type}

/-- The servers of an engine become unreachable, or reachable again. -/
def switch (t : Traffic σ α) (engine : Engine) (unreachable : Bool) : Traffic σ α :=
  { t with broker := t.broker.setServers { t.broker.servers engine with unreachable } engine }

/-- Step after step, while database servers become unreachable and reachable again. -/
inductive Course (w : World σ α) (t : Traffic σ α) : List (Event σ) → Traffic σ α → Prop where
  | start : Course w t [] t
  | step {events : List (Event σ)} {e : Event σ} {t₁ t₂ : Traffic σ α}
    (course : Course w t events t₁) (step : Step w t₁ e t₂) : Course w t (events ++ [e]) t₂
  | switch {events : List (Event σ)} {t₁ : Traffic σ α} (course : Course w t events t₁)
    (engine : Engine) (unreachable : Bool) : Course w t events (t₁.switch engine unreachable)

variable {w : World σ α} {t t' : Traffic σ α} {events before after : List (Event σ)} {e : Event σ}

/-- A run is a course on which no server is switched. -/
theorem Run.course (run : Run w t events t') : Course w t events t' := by
  induction run with
  | start => exact .start
  | step _ step ih => exact ih.step step

/-- A step on the way. -/
theorem Course.split (course : Course w t (before ++ e :: after) t') :
    ∃ t₁ t₂, Course w t before t₁ ∧ Step w t₁ e t₂ := by
  generalize hall : before ++ e :: after = events at course
  induction course generalizing after with
  | start => simp at hall
  | @step events last t₁ t₂ course step ih =>
    rcases List.eq_nil_or_concat after with rfl | ⟨after, x, rfl⟩
    · obtain ⟨rfl, same⟩ := List.append_inj' hall rfl
      obtain rfl := List.singleton_inj.1 same
      exact ⟨t₁, t₂, course, step⟩
    · rw [List.concat_eq_append, ← List.cons_append, ← List.append_assoc] at hall
      exact ih (List.append_inj' hall rfl).1
  | switch _ _ _ ih => exact ih hall

/-- Every request has done what its answers led it to. -/
theorem Course.led {b : Broker σ} (course : Course w ⟨b, []⟩ events t) : Led w events t := by
  induction course with
  | start => exact led_start w b
  | step _ step ih => exact step.led ih
  | switch _ _ _ ih => exact ih

end Courses

section Numbers

/-- The number of the appliance that a step creates, for a request or of itself. -/
def Event.born? (e : Event Memory) : Option ApplianceId :=
  e.created?.or (e.creation?.map (·.id))

/-- The numbers of the appliances that were created, in this order. -/
def born (events : List (Event Memory)) : List ApplianceId := events.filterMap Event.born?

/-- The numbers given in two runs are those of the one and then of the other. -/
theorem born_append (before after : List (Event Memory)) :
    born (before ++ after) = born before ++ born after := List.filterMap_append

/-- A step adds the number that it gives. -/
theorem born_snoc (events : List (Event Memory)) (e : Event Memory) :
    born (events ++ [e]) = born events ++ e.born?.toList :=
  filterMap_snoc ..

/-- Which appliances there are after a step: none but those before, or one more with the next
number. -/
inductive Growth (e : Event Memory) (m m' : Memory) : Prop where
  | none (unborn : e.born? = none) (lastId : m'.lastId = m.lastId)
    (known : ∀ id, (m'.get? id).isSome → (m.get? id).isSome)
  | one (born : e.born? = some m'.lastId) (lastId : m'.lastId = m.lastId + 1)
    (known : ∀ id, (m'.get? id).isSome → (m.get? id).isSome ∨ id = m'.lastId)

/-- A change of the provider of itself brings into being one appliance at most. -/
theorem growth_changed {m m' : Memory} (h : Memory.Changes m m') :
    Growth (.changed m m') m m' := by
  cases turnover_changed h with
  | none unmade _ lastId kept =>
    exact .none (by rw [Event.born?, unmade]; rfl) lastId fun id there => by rwa [← kept id]
  | removed is => cases is
  | created made _ lastId kept =>
    exact .one (by rw [Event.born?, made]; rfl) lastId fun id => (kept id).1

/-- A call to the provider brings into being one appliance at most. -/
theorem growth_answer (mode : Provider.BootMode) (r : Nat) (call : Provider.Call) (m : Memory) :
    Growth (.asked r (.provider call) (Memory.answer mode call m).1) m
      (Memory.answer mode call m).2 := by
  by_cases hm : m.unavailable = true
  · have failed : Memory.answer mode call m = (.error Memory.unavailableError, m) := if_pos hm
    rw [failed]
    exact .none (by cases call <;> rfl) rfl fun _ there => there
  have done : Memory.answer mode call m = Memory.perform mode call m := if_neg hm
  cases call with
  | create order =>
    rw [done]
    refine .one rfl rfl fun id there => ?_
    simp only [Memory.isSome_get?_iff, Memory.perform, Memory.create, List.map_append,
      List.mem_append, List.map_singleton, List.mem_singleton] at there ⊢
    exact there
  | authStatus =>
    rw [done]
    exact .none rfl rfl fun _ there => there
  | find name =>
    rw [done]
    exact .none rfl rfl fun _ there => there
  | read id => exact .none rfl (Memory.lastId_answer mode m id rfl) (Memory.known_answer mode m rfl)
  | stop id => exact .none rfl (Memory.lastId_answer mode m id rfl) (Memory.known_answer mode m rfl)
  | status id =>
    exact .none rfl (Memory.lastId_answer mode m id rfl) (Memory.known_answer mode m rfl)
  | delete id =>
    exact .none rfl (Memory.lastId_answer mode m id rfl) (Memory.known_answer mode m rfl)

variable {s : BrokerSettings Memory} {mode : Provider.BootMode} {w i : Duration}
  {events : List (Event Memory)} {e : Event Memory} {t t' : Traffic Memory Told}

/-- A call to the provider in memory is answered by it. -/
theorem reply_provider (hs : s.provider = inMemory mode w i) (t : Traffic Memory Told)
    (engine : Engine) (call : Provider.Call) :
    t.reply (everyone s) engine (.provider call) =
      ((Memory.answer mode call t.broker.provider).1,
        t.broker.setProvider (Memory.answer mode call t.broker.provider).2) := by
  show ((s.provider.answer t.broker.now call t.broker.provider).1.value,
    t.broker.setProvider (s.provider.answer t.broker.now call t.broker.provider).2) = _
  rw [Provider.answer_of_inMemory hs]

/-- **A step brings into being one appliance at most,** and its number is the next one. -/
theorem Step.growth (hs : s.provider = inMemory mode w i) (step : Step (everyone s) t e t') :
    Growth e t.broker.provider t'.broker.provider := by
  cases step with
  | @ask r engine call next asks =>
    cases call with
    | provider call =>
      rw [reply_provider hs]
      exact growth_answer mode r call t.broker.provider
    | dialect call =>
      show Growth _ _ (t.broker.setServers _ engine).provider
      rw [Broker.provider_setServers]
      exact .none rfl rfl fun _ there => there
    | startDeletion name id => exact .none rfl rfl fun _ there => there
    | drawAdmin => exact .none rfl rfl fun _ there => there
    | drawBinding => exact .none rfl rfl fun _ there => there
  | @turn task d ready running =>
    rw [provider_give]
    cases is : d.phase.call? d.id with
    | none => exact .none rfl rfl fun _ there => there
    | some call =>
      have target := Deletion.target?_of_call? is
      have left : (s.provider.answer t.broker.now call t.broker.provider).2 =
          (Memory.answer mode call t.broker.provider).2 :=
        congrArg Prod.snd (Provider.answer_of_inMemory hs _ _ _)
      show Growth _ _ (s.provider.answer t.broker.now call t.broker.provider).2
      rw [left]
      exact .none rfl (Memory.lastId_answer mode _ d.id target)
        (Memory.known_answer mode _ target)
  | change may => exact growth_changed may
  | _ => exact .none rfl rfl fun _ there => there

end Numbers

end Traffic
end ServiceBroker

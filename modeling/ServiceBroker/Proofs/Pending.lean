/-
# The count of pending deletions is exact

Any number of calls to handlers of both engines, each on its way next to the others and to the
deletions that they start, over any provider whatsoever (`Traffic.handling`).

A step counts one deletion more when it starts one and one fewer when one ends, and otherwise
leaves the count alone (`Traffic.Step.pending`); a deletion is there from its start until it ends,
once (`Traffic.Step.running`).  And a call starts a deletion if and only if it is accepted as one to
delete an instance (`DatabaseHandler.keeps_serve`).  `Traffic.pending_exact` joins the three.
-/

import ServiceBroker.Proofs.Counted
import ServiceBroker.Proofs.Repertoire
import ServiceBroker.Proofs.Tally

namespace ServiceBroker

open Program (Asked Keeps)

/-- The question starts a deletion. -/
def Backend.Call.isStart : Backend.Call → Bool
  | .startDeletion _ _ => true
  | .provider _ | .dialect _ | .drawAdmin | .drawBinding => false

/-- How many deletions were started. -/
def Backend.starts (asked : List (Asked Backend.interface)) : Nat :=
  asked.countP (·.call.isStart)

/-- Another question counts if it starts a deletion. -/
theorem Backend.starts_snoc (asked : List (Asked Backend.interface))
    (x : Asked Backend.interface) : starts (asked ++ [x]) = starts asked + x.call.isStart.toNat :=
  countP_snoc ..

/-- A call to delete an instance that was accepted. -/
def Handler.accepts : Asked Handler.interface → Bool
  | ⟨.deleteInstance _, .ok ()⟩ => true
  | _ => false

namespace DatabaseHandler

open Backend (starts starts_snoc)
open Handler (accepts)

/-- A handler answers a call. -/
def serve (h : DatabaseHandler) (call : Handler.Call) :
    Program Backend.interface (Asked Handler.interface) :=
  (h.answer call).bind fun answer => .done ⟨call, answer⟩

/-- Only a call to delete an instance starts a deletion. -/
theorem isStart_of_needs {call : Handler.Call} {question : Backend.Call}
    (needs : call.Needs question) (other : ∀ name, call ≠ .deleteInstance name) :
    question.isStart = false := by
  cases needs with
  | startDeletion name id => exact absurd rfl (other name)
  | _ => rfl

/-- Only a call to delete an instance is accepted as one. -/
theorem accepts_of_ne {call : Handler.Call} (other : ∀ name, call ≠ .deleteInstance name)
    (answer : call.Answer) : accepts ⟨call, answer⟩ = false := by
  cases call with
  | deleteInstance name => exact absurd rfl (other name)
  | _ => rfl

/-- **A call starts a deletion last, and if and only if it is accepted.** -/
theorem keeps_serve (h : DatabaseHandler) (call : Handler.Call) :
    Keeps (fun asked _ => starts asked = 0)
      (fun asked served => starts asked = (accepts served).toNat) [] (h.serve call) := by
  by_cases deletes : ∃ name, call = .deleteInstance name
  · obtain ⟨name, rfl⟩ := deletes
    show Keeps _ _ [] ((deleteInstance name).run.bind _)
    rw [deleteInstance_eq]
    refine ⟨rfl, fun answer => ?_⟩
    rcases answer with e | (_ | ⟨a, _ | ⟨b, rest⟩⟩)
    · exact rfl
    · exact rfl
    · exact ⟨rfl, fun _ => rfl⟩
    · exact rfl
  · have other (name : String) (is : call = .deleteInstance name) : False := deletes ⟨name, is⟩
    have quiet := (h.only_answer call).mono fun question needs => isStart_of_needs needs other
    have silent : Keeps (fun asked _ => starts asked = 0) (fun asked _ => starts asked = 0) []
        (h.answer call) := by
      refine quiet.keeps (fun asked x none_yet still => ?_) rfl
      rw [starts_snoc, none_yet, still]
      rfl
    refine silent.bind fun asked answer none_yet => ?_
    show starts asked = (accepts ⟨call, answer⟩).toNat
    rw [accepts_of_ne other, Bool.toNat_false, none_yet]

end DatabaseHandler

/-- A call on its way that was accepted as one to delete an instance. -/
def Underway.accepted (u : Underway (Asked Handler.interface)) : Bool :=
  u.program.value?.any Handler.accepts

namespace Traffic

open Scheduler (taskIn Orderly)

variable {σ : Type}

/-- The deletion that ends in a step. -/
def Event.ended? : Event σ → Option TaskId
  | .turned task d _ => if d.phase = .ended then some task else none
  | _ => none

/-- The deletions that have ended, in this order. -/
def ended (events : List (Event σ)) : List TaskId := events.filterMap Event.ended?

/-- A step adds the deletion that ends in it. -/
theorem ended_snoc (events : List (Event σ)) (e : Event σ) :
    ended (events ++ [e]) = ended events ++ e.ended?.toList :=
  filterMap_snoc ..

/-- A question starts one deletion or none. -/
theorem length_started?_asked (r : Nat) (call : Backend.Call) (answer : call.Answer) :
    (Event.asked r call answer : Event σ).started?.toList.length = call.isStart.toNat := by
  cases call <;> rfl

section Counting

variable {α : Type} {w : World σ α} {t t' : Traffic σ α} {e : Event σ}

/-- **A step counts what it starts and what ends in it**, and nothing else. -/
theorem Step.pending (step : Step w t e t') (counted : Counted t.deletions) :
    t'.broker.pending + e.ended?.toList.length = t.broker.pending + e.started?.toList.length := by
  cases step with
  | @ask i engine call next asks =>
    cases call with
    | dialect call => cases engine <;> rfl
    | _ => rfl
  | @turn id d ready running =>
    have shared : (t.give w id d).broker.pending =
        (Deletion.turn w.settings.toSettings t.broker.now d t.deletions.shared).2.pending :=
      congrArg Deletion.Shared.pending (Scheduler.shared_give _ _ _ _ _)
    have there : 0 < t.broker.pending := by
      have known := isSome_taskIn.1 (Option.isSome_of_eq_some running)
      show 0 < t.deletions.pending
      rw [counted.pending, ← List.length_map Prod.fst]
      exact List.length_pos_of_mem known
    rw [shared]
    obtain ⟨name, key, phase⟩ := d
    cases phase with
    | ended => exact Nat.sub_add_cancel there
    | _ => rfl
  | _ => rfl

/-- **A deletion is there from the step that starts it to the step in which it ends.** -/
theorem Step.running (step : Step w t e t') (orderly : Orderly Deletion.stage t.deletions)
    (task : TaskId) :
    e.ended?.toList.count task + (taskIn t'.deletions.tasks task).isSome.toNat =
      (taskIn t.deletions.tasks task).isSome.toNat +
        if e.started?.isSome ∧ task = t.deletions.added then 1 else 0 := by
  cases step with
  | @ask i engine call next asks =>
    show 0 + (taskIn (t.reply w engine call).2.deletions.tasks task).isSome.toNat = _
    cases call with
    | startDeletion name id =>
      show 0 + (taskIn (t.deletions.start name id).2.tasks task).isSome.toNat = _
      have added : taskIn (t.deletions.start name id).2.tasks =
          Function.update (taskIn t.deletions.tasks) t.deletions.added (some { name, id }) :=
        Orderly.taskIn_add (s := { t.deletions with shared := _ }) orderly
      rw [added, Function.update_apply]
      by_cases new : task = t.deletions.added
      · rw [if_pos new, if_pos ⟨rfl, new⟩, new, orderly.taskIn_added]
        rfl
      · rw [if_neg new, if_neg fun is => new is.2, Nat.zero_add]
        rfl
    | dialect call => cases engine <;> exact Nat.zero_add _
    | _ => exact Nat.zero_add _
  | @turn id d ready running =>
    rw [show taskIn (t.give w id d).deletions.tasks = _ from
      Scheduler.taskIn_tasks_give (t.deletions.ready.erase id) running, Function.update_apply]
    by_cases same : task = id
    · rw [if_pos same, same, running]
      obtain ⟨name, key, phase⟩ := d
      cases phase with
      | ended => exact List.count_singleton_self
      | _ => rfl
    · have another : task ∉ (t.turned w id d).ended?.toList := by
        rw [Option.mem_toList]
        intro ends
        exact same (Option.some.inj (Option.ite_none_right_eq_some.1 ends).2).symm
      rw [if_neg same, List.count_eq_zero.2 another, Nat.zero_add]
      rfl
  | _ => exact Nat.zero_add _

variable {provider : σ} {events : List (Event σ)}

/-- Without deletions none is pending. -/
theorem counted_start (provider : σ) : Counted (Broker.start provider).deletions :=
  ⟨List.nodup_nil, rfl⟩

/-- The deletions that were started are those that are pending and those that have ended. -/
theorem Run.pending (run : Run w ⟨Broker.start provider, []⟩ events t) :
    t.broker.pending + (ended events).length = (started events).length := by
  induction run with
  | start => rfl
  | @step events e t₁ t₂ run step ih =>
    have counts := step.pending (run.counted (Scheduler.orderly_start _) (counted_start provider))
    rw [ended_snoc, started_snoc, List.length_append, List.length_append]
    omega

/-- There are as many deletions as were started. -/
theorem Run.added (run : Run w ⟨Broker.start provider, []⟩ events t) :
    t.deletions.added = (started events).length := by
  induction run with
  | start => rfl
  | step run step ih => rw [step.added, ih, started_snoc, List.length_append]

/-- A number below the next one is below this one or this one. -/
theorem ite_lt_succ (task added : Nat) :
    ((if task < added then 1 else 0) + if task = added then 1 else 0) =
      if task < added + 1 then 1 else 0 := by
  split_ifs <;> omega

/-- **A deletion that was started is there or has ended, and ends once.** -/
theorem Run.running (run : Run w ⟨Broker.start provider, []⟩ events t) (task : TaskId) :
    (ended events).count task + (taskIn t.deletions.tasks task).isSome.toNat =
      if task < t.deletions.added then 1 else 0 := by
  induction run with
  | start => rfl
  | @step events e t₁ t₂ run step ih =>
    have runs := step.running (run.orderly (Scheduler.orderly_start _)) task
    rw [ended_snoc, List.count_append, step.added, Nat.add_assoc, runs, ← Nat.add_assoc, ih]
    cases e.started? with
    | none => exact Nat.add_zero _
    | some started =>
      have newest : (some started).isSome = true ∧ task = t₁.deletions.added ↔
          task = t₁.deletions.added := by simp
      exact (congrArg _ (if_congr newest rfl rfl)).trans (ite_lt_succ task _)

end Counting

section Handling

open Backend (starts)

/-- Calls to the handlers of both engines for any plans, and a provider that may change into any
other one at any time. -/
def handling (s : BrokerSettings σ) : World σ (Asked Handler.interface) where
  settings := s
  arrives u := ∃ (h : DatabaseHandler) (call : Handler.Call), u = ⟨h.engine, h.serve call⟩
  changes _ _ := True

/-- How many calls to delete an instance were accepted. -/
def accepted (t : Traffic σ (Asked Handler.interface)) : Nat := t.requests.countP (·.accepted)

variable {s : BrokerSettings σ} {provider : σ} {events : List (Event σ)}
  {t : Traffic σ (Asked Handler.interface)}

/-- A call has started a deletion if it was accepted as one to delete an instance, and one only. -/
theorem Run.starts_askedBy (run : Run (handling s) ⟨Broker.start provider, []⟩ events t) {r : Nat}
    {u : Underway (Asked Handler.interface)} (there : t.requests[r]? = some u) :
    starts (askedBy r events) = u.accepted.toNat := by
  obtain ⟨p, ⟨h, call, is⟩, leads⟩ := (run.leads r).2 u there
  obtain rfl : p = h.serve call := congrArg Underway.program is
  have keeps := (h.keeps_serve call).of_leads leads
  obtain ⟨engine, program⟩ := u
  cases program with
  | done served => exact keeps
  | ask call next => exact keeps.1

/-- **A call is accepted when it starts its deletion.** -/
theorem Run.accepted_asked (run : Run (handling s) ⟨Broker.start provider, []⟩ events t) {i : Nat}
    {engine : Engine} {call : Backend.Call}
    {next : call.Answer → Program Backend.interface (Asked Handler.interface)}
    (asks : t.requests[i]? = some ⟨engine, .ask (I := Backend.interface) call next⟩) :
    (Underway.accepted ⟨engine, next (t.reply (handling s) engine call).1⟩).toNat =
      call.isStart.toNat := by
  have inside := (List.getElem?_eq_some_iff.1 asks).1
  have before := run.starts_askedBy asks
  have after := (run.step (.ask asks)).starts_askedBy (r := i) (List.getElem?_set_self inside)
  rw [askedBy_snoc, Event.askedBy?, if_pos rfl, Option.toList_some, Backend.starts_snoc,
    before] at after
  exact after.symm.trans (Nat.zero_add _)

/-- **As many deletions were started as calls to delete an instance were accepted.** -/
theorem Run.length_started (run : Run (handling s) ⟨Broker.start provider, []⟩ events t) :
    (started events).length = t.accepted := by
  induction run with
  | start => rfl
  | @step events e t₁ t₂ run step ih =>
    have later := run.step step
    rw [started_snoc, List.length_append, ih]
    cases step with
    | @arrive u may =>
      have silent : askedBy t₁.requests.length events = [] :=
        (run.leads t₁.requests.length).1 (Nat.le_refl _)
      have new := later.starts_askedBy (r := t₁.requests.length) List.getElem?_concat_length
      rw [askedBy_snoc, silent] at new
      have waits : u.accepted = false := Bool.toNat_eq_zero.1 new.symm
      show t₁.accepted = (t₁.requests ++ [u]).countP (·.accepted)
      rw [List.countP_append, List.countP_singleton, waits]
      rfl
    | @ask i engine call next asks =>
      obtain ⟨inside, is⟩ := List.getElem?_eq_some_iff.1 asks
      have waits : Underway.accepted ⟨engine, .ask (I := Backend.interface) call next⟩ = false :=
        rfl
      simp only [accepted]
      rw [length_started?_asked, ← run.accepted_asked asks, List.countP_set inside, is, waits]
      cases Underway.accepted _ <;> rfl
    | _ => rfl

/-- **What the count of pending deletions is worth** after any run. -/
structure Exact (s : BrokerSettings σ) (events : List (Event σ))
    (t : Traffic σ (Asked Handler.interface)) : Prop where
  /-- The broker shows the count of the deletions. -/
  shown : t.broker.pending = t.deletions.pending
  /-- It counts the calls to delete an instance that were accepted, without those whose deletion has
  ended. -/
  pending : t.broker.pending + (ended events).length = t.accepted
  /-- Of each accepted call the deletion is there, or it has ended once. -/
  once : ∀ task, (ended events).count task + (taskIn t.deletions.tasks task).isSome.toNat =
    if task < t.accepted then 1 else 0
  /-- A call raises the count when it is accepted, and never if it is refused. -/
  called : ∀ {i call answer t'}, Step (handling s) t (.asked i call answer) t' →
    t'.broker.pending = t.broker.pending + (t'.requests[i]?.any (·.accepted)).toNat
  /-- A step lowers the count by one if a deletion ends in it, and there is one to lower it by. -/
  stepped : ∀ {e t'}, Step (handling s) t e t' →
    t'.broker.pending + e.ended?.toList.length = t.broker.pending + e.started?.toList.length

/-- **The count of pending deletions is exact.**  Whatever calls to the handlers of both engines are
on their way next to each other and to the deletions, whatever the provider answers. -/
theorem pending_exact (run : Run (handling s) ⟨Broker.start provider, []⟩ events t) :
    Exact s events t := by
  have counted := run.counted (Scheduler.orderly_start _) (counted_start provider)
  constructor
  case shown => rfl
  case pending => exact run.pending.trans run.length_started
  case once =>
    intro task
    rw [← run.length_started, ← run.added]
    exact run.running task
  case called =>
    intro i call answer t' step
    have counts := step.pending counted
    rw [length_started?_asked] at counts
    cases step with
    | ask asks =>
      have inside := (List.getElem?_eq_some_iff.1 asks).1
      rw [List.getElem?_set_self inside, Option.any_some, run.accepted_asked asks]
      exact counts
  case stepped =>
    intro e t' step
    exact step.pending counted

open Provider (Memory) in
/-- An instance is deleted through the services of both engines, and one that does not exist through
the first of them.  The second deletion waits for the lock of the appliance until the first one has
ended, and is pending when it has. -/
theorem pending_exact_of_three :
    let s := Broker.inMemorySettings .instant (Chance.ofSeed [])
    let provider := (Memory.create .instant (.plain "a") {}).2
    ∃ events t, Run (handling s) ⟨Broker.start provider, []⟩ events t ∧ Exact s events t ∧
      t.requests.map (·.accepted) = [true, true, false] ∧ ended events = [0] ∧
      t.broker.pending = 1 := by
  intro s provider
  have empty : Run (handling s) ⟨Broker.start provider, []⟩ [] _ := .start
  have one := empty.step (.arrive ⟨⟨.mariaDb, 10⟩, .deleteInstance "a", rfl⟩)
  have two := one.step (.arrive ⟨⟨.postgreSql, 10⟩, .deleteInstance "a", rfl⟩)
  have three := two.step (.arrive ⟨⟨.mariaDb, 10⟩, .deleteInstance "b", rfl⟩)
  have run := Run.follow [.request 0, .request 1, .request 0, .request 2, .request 1, .deletion 0,
    .deletion 1, .deletion 0, .deletion 0, .deletion 0, .deletion 0, .deletion 0, .deletion 0] three
  exact ⟨_, _, run, pending_exact run, by decide +kernel, by decide +kernel, by decide +kernel⟩

end Handling

end Traffic
end ServiceBroker

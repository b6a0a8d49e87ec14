/-
# What stands behind an accepted deprovision

A broker that accepts to deprovision an instance starts a deletion if it found the instance
up or failed.  If it found it neither, it takes a deletion to be under way and starts none.
`Traffic.accepted_deletes_iff` states exactly when one is, for any provider, any requests at
the same time and any order of their steps; `Traffic.accepted_without_deletion` is a run in
which none is, because the deletion that turned the appliance off could not delete it.
-/

import ServiceBroker.Proofs.Appliances
import ServiceBroker.Proofs.Execution

namespace ServiceBroker

namespace DatabaseHandler

open Backend (found startedDeletion)
open Program (Asked Leads)

variable (h : DatabaseHandler)

/-- Deprovisioning, question by question. -/
theorem interpret_deprovision (name : String) :
    (Lifecycle.deprovision name).interpret h.answer =
      .ask (I := Backend.interface) (.provider (.find name)) fun
        | .ok [] => .done .gone
        | .ok [a] =>
          if a.isMigrating then .done .unprocessable
          else if a.isUp || a.isFailed then
            (deleteInstance name).run.bind fun
              | .ok _ => .done .accepted
              | .error _ => .done .internalError
          else .done .accepted
        | .ok _ => .done .internalError
        | .error _ => .done .internalError := by
  show Program.ask (I := Backend.interface) _ _ = _
  congr 1
  funext answer
  rcases answer with e | (_ | ⟨a, _ | ⟨b, rest⟩⟩)
  · rfl
  · rfl
  · show Program.interpret (I := Handler.interface) h.answer (if a.isMigrating = true then .done _
      else if (a.isUp || a.isFailed) = true then _ else .done _) = _
    dsimp only
    split_ifs
    · rfl
    · show Program.bind _ _ = _
      congr 1
      funext result
      cases result <;> rfl
    · rfl
  · rfl

/-- What a request to deprovision asked that was accepted: it found the appliance up or failed and
started its deletion, or it found it neither and asked nothing more. -/
theorem asked_of_accepted {name : String} {asked : List (Asked Backend.interface)}
    (accepted : Leads ((Lifecycle.deprovision name).interpret h.answer) asked (.done .accepted)) :
    ∃ seen, seen.isMigrating = false ∧
      (((seen.isUp = true ∨ seen.isFailed = true) ∧ ∃ a, asked =
          [found name seen, found name a, startedDeletion name a.id]) ∨
        ¬(seen.isUp = true ∨ seen.isFailed = true) ∧ asked = [found name seen]) := by
  rw [interpret_deprovision] at accepted
  obtain ⟨answer, rest, rfl, further⟩ := accepted.of_ask
  rcases answer with e | (_ | ⟨seen, _ | ⟨b, more⟩⟩)
  · cases further.of_done.2
  · cases further.of_done.2
  · refine ⟨seen, ?_⟩
    dsimp only at further
    split_ifs at further with migrating up
    · cases further.of_done.2
    · refine ⟨by simpa using migrating, .inl ⟨by simpa using up, ?_⟩⟩
      rw [deleteInstance_eq, Program.bind] at further
      obtain ⟨answer, rest, rfl, deletes⟩ := further.of_ask
      rcases answer with e | (_ | ⟨a, _ | ⟨b, more⟩⟩)
      · cases deletes.of_done.2
      · cases deletes.of_done.2
      · obtain ⟨⟨⟩, rest, rfl, ends⟩ := deletes.of_ask
        obtain ⟨rfl, -⟩ := ends.of_done
        exact ⟨a, rfl⟩
      · cases deletes.of_done.2
    · obtain ⟨rfl, -⟩ := further.of_done
      exact ⟨by simpa using migrating, .inr ⟨by simpa using up, rfl⟩⟩
  · cases further.of_done.2

/-- Only a request to deprovision is accepted as one. -/
theorem asked_of_outcome {request : Lifecycle.Request} {asked : List (Asked Backend.interface)}
    (accepted : Leads ((Lifecycle.perform request).interpret h.answer) asked
      (.done (.deprovision .accepted))) :
    ∃ name seen, request = .deprovision name ∧ seen.isMigrating = false ∧
      (((seen.isUp = true ∨ seen.isFailed = true) ∧ ∃ a, asked =
          [found name seen, found name a, startedDeletion name a.id]) ∨
        ¬(seen.isUp = true ∨ seen.isFailed = true) ∧ asked = [found name seen]) := by
  have made {α : Type} {p : Lifecycle.Action α} {f : α → Lifecycle.Outcome}
      (h' : Leads (Program.interpret (I := Handler.interface) h.answer
        (p.bind fun outcome => .done (f outcome))) asked (.done (.deprovision .accepted))) :
      ∃ value, Lifecycle.Outcome.deprovision .accepted = f value ∧
        Leads (Program.interpret (I := Handler.interface) h.answer p) asked (.done value) := by
    rw [Program.interpret_bind] at h'
    exact Leads.of_map h'
  cases request with
  | deprovision name =>
    obtain ⟨outcome, is, leads⟩ := made (f := .deprovision) accepted
    cases is
    obtain ⟨seen, asked⟩ := h.asked_of_accepted leads
    exact ⟨name, seen, rfl, asked⟩
  | provision name parameters =>
    obtain ⟨-, ⟨⟩, -⟩ := made (f := .provision) accepted
  | poll operation name =>
    obtain ⟨-, ⟨⟩, -⟩ := made (f := .poll) accepted
  | bind name binding =>
    obtain ⟨-, ⟨⟩, -⟩ := made (f := .bind) accepted
  | unbind name binding =>
    obtain ⟨-, ⟨⟩, -⟩ := made (f := .unbind) accepted

end DatabaseHandler

namespace Traffic

open Backend (found startedDeletion)
open Provider (Memory)
open Scheduler (taskIn)

variable {σ : Type}

/-- What has come of a request, once it is done. -/
def outcome? {α : Type} (t : Traffic σ α) (r : Nat) : Option α :=
  t.requests[r]?.bind (·.program.value?)

/-- A deletion of the appliance has not ended. -/
def Pending {α : Type} (t : Traffic σ α) (id : ApplianceId) : Prop :=
  ∃ task d, taskIn t.deletions.tasks task = some d ∧ d.id = id

/-- What a request found under a name, in this order. -/
def findings (r : Nat) (events : List (Event σ)) : List (String × Appliance) :=
  (askedBy r events).filterMap fun
    | ⟨.provider (.find name), .ok [a]⟩ => some (name, a)
    | _ => none

/-- The step in which a request gets its outcome is that of its last question. -/
theorem Run.last_asked {α : Type} {w : World σ α} {b : Broker σ} {events : List (Event σ)}
    {e : Event σ} {t t' : Traffic σ α} {r : Nat} {outcome : α}
    (run : Run w ⟨b, []⟩ events t) (step : Step w t e t')
    (first : List (Program.Asked Backend.interface)) {last : Program.Asked Backend.interface}
    (unanswered : t.outcome? r = none) (answered : t'.outcome? r = some outcome)
    (asked : askedBy r (events ++ [e]) = first ++ [last]) :
    e = .asked r last.call last.answer := by
  rw [askedBy_snoc] at asked
  cases he : e.askedBy? r with
  | some asks =>
    rw [he] at asked
    obtain rfl := List.singleton_inj.1 (List.append_inj_right' asked rfl)
    exact Event.eq_of_askedBy? he
  | none =>
    rw [he, Option.toList_none, List.append_nil] at asked
    have known : r < t.requests.length := by
      by_contra beyond
      rw [(run.leads r).1 (by omega)] at asked
      simp at asked
    rw [outcome?, step.request known he] at answered
    cases unanswered.symm.trans answered

/-- **What stands behind an accepted deprovision.**  Of any provider, whatever it answers and
however it changes, and among any requests and deletions: a request to deprovision that is accepted
found an appliance that is not being moved.  It started the deletion of the one that it found last
if and only if it found the first up or failed; and when it is accepted a deletion of that one is
pending if and only if it started one or one was pending before. -/
theorem accepted_deletes_iff {s : BrokerSettings σ} {changes : σ → σ → Prop} {provider : σ}
    {events : List (Event σ)} {e : Event σ} {t t' : Traffic σ Lifecycle.Outcome} {r : Nat}
    (run : Run (service s changes) ⟨Broker.start provider, []⟩ events t)
    (step : Step (service s changes) t e t') (unanswered : t.outcome? r = none)
    (accepted : t'.outcome? r = some (.deprovision .accepted)) :
    ∃ name seen a, (findings r (events ++ [e])).head? = some (name, seen) ∧
      (findings r (events ++ [e])).getLast? = some (name, a) ∧ seen.isMigrating = false ∧
      (startedDeletion name a.id ∈ askedBy r (events ++ [e]) ↔
        seen.isUp = true ∨ seen.isFailed = true) ∧
      (t'.Pending a.id ↔ (seen.isUp = true ∨ seen.isFailed = true) ∨ t.Pending a.id) := by
  obtain ⟨u, hu, hv⟩ := Option.bind_eq_some_iff.1 accepted
  obtain ⟨p, ⟨handler, request, is⟩, leads⟩ := ((run.step step).leads r).2 u hu
  obtain ⟨-, rfl⟩ := Underway.mk.inj is
  rw [Program.eq_done_of_value? hv] at leads
  obtain ⟨name, seen, -, still, answers⟩ := handler.asked_of_outcome leads
  rcases answers with ⟨up, a, whole⟩ | ⟨notUp, whole⟩
  · refine ⟨name, seen, a, ?_, ?_, still, ?_, ?_⟩
    · rw [findings, whole]
      rfl
    · rw [findings, whole]
      rfl
    · rw [whole]
      simp [up]
    · refine iff_of_true ?_ (.inl up)
      -- The last answer started the deletion.
      have started := run.last_asked step [found name seen, found name a] unanswered
        accepted whole
      subst started
      obtain ⟨engine, next, -, broker⟩ := step.asked
      refine ⟨t.deletions.added, { name, id := a.id }, ?_, rfl⟩
      have orderly := run.orderly (Scheduler.orderly_start _)
      have added : taskIn (Scheduler.add t.deletions { name, id := a.id }).2.tasks = _ :=
        orderly.taskIn_add
      show taskIn t'.broker.deletions.tasks t.deletions.added = _
      rw [broker]
      exact (congrFun added _).trans (Function.update_self _ _ _)
  · refine ⟨name, seen, seen, ?_, ?_, still, ?_, ?_⟩
    · rw [findings, whole]
      rfl
    · rw [findings, whole]
      rfl
    · rw [whole]
      simp [notUp, found, startedDeletion]
    · rw [or_iff_right notUp]
      -- The only answer left the deletions as they were.
      have searched := run.last_asked step [] unanswered accepted whole
      subst searched
      obtain ⟨engine, next, -, broker⟩ := step.asked
      show (∃ task d, taskIn t'.broker.deletions.tasks task = some d ∧ d.id = seen.id) ↔ _
      rw [broker]
      exact Iff.rfl

/-- An appliance that is up has its deletion pending when its deprovisioning is accepted. -/
theorem accepted_deletes_what_is_up :
    let w := service (Broker.inMemorySettings .instant (Chance.ofSeed [])) Memory.Changes
    let provider := (Memory.create .instant (.plain "a") {}).2
    ∃ events t, Run w ⟨Broker.start provider, []⟩ events t ∧
      t.outcome? 0 = some (.deprovision .accepted) ∧ t.Pending (applianceId 1) := by
  intro w provider
  let request : Underway Lifecycle.Outcome := ⟨.mariaDb,
    (Lifecycle.perform (.deprovision "a")).interpret (⟨.mariaDb, 10⟩ : DatabaseHandler).answer⟩
  have empty : Run w ⟨Broker.start provider, []⟩ [] ⟨Broker.start provider, []⟩ := .start
  have arrived : Run w ⟨Broker.start provider, []⟩ [.arrived] ⟨Broker.start provider, [request]⟩ :=
    empty.step (.arrive ⟨⟨.mariaDb, 10⟩, .deprovision "a", rfl⟩)
  have run := arrived.follow [.request 0, .request 0]
  have step : Step w (follow w [.request 0, .request 0] ⟨Broker.start provider, [request]⟩).2 _ _ :=
    Step.next (.request 0) (by decide +kernel)
  obtain ⟨name, seen, a, first, last, -, -, pending⟩ :=
    accepted_deletes_iff (r := 0) run step (by decide +kernel) (by decide +kernel)
  have up : some true = some seen.isUp :=
    Eq.trans (by decide +kernel) (congrArg (Option.map fun f => f.2.isUp) first)
  have id : some (applianceId 1) = some a.id :=
    Eq.trans (by decide +kernel) (congrArg (Option.map fun f => f.2.id) last)
  refine ⟨_, _, run.step step, by decide +kernel, ?_⟩
  rw [Option.some.inj id]
  exact pending.2 (.inl (.inl (Option.some.inj up).symm))

/-- A deletion turns an appliance off, cannot delete it and ends.  Deprovisioning it again is
accepted, and no deletion is started or pending. -/
theorem accepted_without_deletion :
    let w := service (Broker.inMemorySettings .instant (Chance.ofSeed [])) Memory.Changes
    ∃ events t, Run w ⟨Broker.start {}, []⟩ events t ∧
      t.outcome? 1 = some (.deprovision .accepted) ∧
      (t.broker.provider.get? (applianceId 1)).isSome ∧ t.deletions.tasks = [] ∧
      started events = [("a", applianceId 1)] ∧
      (findings 1 events).map (·.2.id) = [applianceId 1] ∧ (askedBy 1 events).length = 1 := by
  intro w
  have empty : Run w ⟨Broker.start {}, []⟩ [] ⟨Broker.start {}, []⟩ := .start
  have made := empty.step (.change (.create .instant (.plain "a")))
  have arrived := made.step (.arrive ⟨⟨.mariaDb, 10⟩, .deprovision "a", rfl⟩)
  have off := arrived.follow [.request 0, .request 0, .request 0, .deletion 0, .deletion 0,
    .deletion 0, .deletion 0, .deletion 0]
  have cut := off.step (.change (.switch true))
  have ended := cut.follow [.deletion 0, .deletion 0]
  have back := ended.step (.change (.switch false))
  have again := back.step (.arrive ⟨⟨.mariaDb, 10⟩, .deprovision "a", rfl⟩)
  have run := again.follow [.request 1]
  refine ⟨_, _, run, ?_, ?_, ?_, ?_, ?_, ?_⟩ <;> decide +kernel

end Traffic
end ServiceBroker

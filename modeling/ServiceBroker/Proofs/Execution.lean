/-
# What a broker executes is a run

A broker performs one request after another and lets its deletions go on in an order of its
own.  Whatever it executes is one of the runs of requests and deletions at the same time
(`Traffic.Run.perform`, `Traffic.Run.settle`, `Traffic.Run.advance`), so that what holds of
all of them holds of it.
-/

import ServiceBroker.Proofs.Traffic

namespace ServiceBroker

namespace Broker

open Scheduler (Moves Orderly)

/-- An answer is the reply at once, and whatever the deletions do until it arrives. -/
theorem run_answer {σ : Type} (s : BrokerSettings σ) (engine : Engine) (b : Broker σ)
    (h : Orderly Deletion.stage b.deletions) (call : Backend.Call) :
    ∃ deletions, Moves (Deletion.kind s.toSettings) (reply s engine b call).2.deletions deletions ∧
      (answer s engine call).run b =
        ((reply s engine b call).1, { (reply s engine b call).2 with deletions }) := by
  cases call with
  | provider call =>
    let asked : Deletions σ := { b.deletions with shared := { b.deletions.shared with
      provider := (s.provider.answer b.now call b.provider).2 } }
    by_cases at_once : (s.provider.answer b.now call b.provider).1.delay = 0
    · refine ⟨asked, .refl, ?_⟩
      have answered : b.deletions.ask s.toSettings call = (_, asked) := if_pos at_once
      show ((b.deletions.ask s.toSettings call).1,
        ({ b with deletions := (b.deletions.ask s.toSettings call).2 } : Broker σ)) = _
      rw [answered]
      rfl
    · have orderly : Orderly Deletion.stage asked := h
      refine ⟨_, orderly.moves_advance (Deletion.disciplined s.toSettings)
        (s.provider.answer b.now call b.provider).1.delay, ?_⟩
      have answered : b.deletions.ask s.toSettings call = (_, asked.advance _ _) := if_neg at_once
      show ((b.deletions.ask s.toSettings call).1,
        ({ b with deletions := (b.deletions.ask s.toSettings call).2 } : Broker σ)) = _
      rw [answered]
      rfl
  | startDeletion name id => exact ⟨_, .refl, rfl⟩
  | dialect call => exact ⟨_, .refl, rfl⟩
  | drawAdmin => exact ⟨_, .refl, rfl⟩
  | drawBinding => exact ⟨_, .refl, rfl⟩

end Broker

namespace Traffic

open Scheduler (Move Moves Orderly)

section Execution

variable {σ α : Type} {w : World σ α} {t₀ t : Traffic σ α} {events : List (Event σ)}

/-- What the deletions do is a step. -/
theorem step_of_move {deletions : Deletions σ}
    (move : Move (Deletion.kind w.settings.toSettings) t.deletions deletions) :
    ∃ e, Step w t e (t.withDeletions deletions) := by
  cases move with
  | turn ready running => exact ⟨_, .turn ready running⟩
  | wake resting => exact ⟨_, .wake resting⟩
  | tick now => exact ⟨_, .tick now⟩

/-- The moves of the deletions are steps of a run. -/
theorem Run.moves (run : Run w t₀ events t) {deletions : Deletions σ}
    (moves : Moves (Deletion.kind w.settings.toSettings) t.deletions deletions) :
    ∃ more, Run w t₀ (events ++ more) (t.withDeletions deletions) := by
  induction moves with
  | refl => exact ⟨[], by rwa [List.append_nil]⟩
  | @tail deletions _ _ move ih =>
    obtain ⟨more, run⟩ := ih
    obtain ⟨e, step⟩ := step_of_move (t := t.withDeletions deletions) move
    refine ⟨more ++ [e], ?_⟩
    rw [← List.append_assoc]
    exact run.step step

/-- Letting the background settle is a run. -/
theorem Run.settle (run : Run w t₀ events t) (h : Orderly Deletion.stage t.deletions) :
    ∃ more, Run w t₀ (events ++ more) { t with broker := t.broker.settle w.settings } :=
  run.moves (h.moves_settle (Deletion.disciplined _))

/-- Letting time pass is a run. -/
theorem Run.advance (run : Run w t₀ events t) (h : Orderly Deletion.stage t.deletions)
    (time : Duration) :
    ∃ more, Run w t₀ (events ++ more) { t with broker := t.broker.advance w.settings time } :=
  run.moves (h.moves_advance (Deletion.disciplined _) time)

/-- **A request that nothing comes between** is answered as when it is executed alone. -/
theorem Run.execute (run : Run w t₀ events t) (h : Orderly Deletion.stage t.deletions) {r : Nat}
    {engine : Engine} {p : Program Backend.interface α} (asks : t.requests[r]? = some ⟨engine, p⟩) :
    ∃ more, Run w t₀ (events ++ more)
      ⟨((p.run (Broker.answer w.settings engine)).run t.broker).2, t.requests.set r
        ⟨engine, .done ((p.run (Broker.answer w.settings engine)).run t.broker).1⟩⟩ := by
  induction p generalizing t events with
  | done value =>
    refine ⟨[], ?_⟩
    have same : t.requests.set r ⟨engine, .done value⟩ = t.requests := by
      obtain ⟨inside, here⟩ := List.getElem?_eq_some_iff.1 asks
      rw [← here, List.set_getElem_self]
    show Run w t₀ (events ++ []) ⟨t.broker, t.requests.set r ⟨engine, .done value⟩⟩
    rwa [same, List.append_nil]
  | ask call next ih =>
    have step : Step w t _ _ := .ask asks
    have inside : r < t.requests.length := (List.getElem?_eq_some_iff.1 asks).1
    obtain ⟨deletions, moves, answered⟩ := Broker.run_answer w.settings engine t.broker h call
    have orderly := (step.orderly h).moves (Deletion.disciplined w.settings.toSettings) moves
    obtain ⟨meanwhile, run⟩ := (run.step step).moves moves
    obtain ⟨more, run⟩ := ih (t.reply w engine call).1 run orderly (List.getElem?_set_self inside)
    refine ⟨.asked r call (t.reply w engine call).1 :: (meanwhile ++ more), ?_⟩
    rw [Program.run_ask, StateT.run_bind, answered]
    simp only [withDeletions, List.set_set, List.append_assoc, List.singleton_append] at run
    exact run

end Execution

section Service

variable {σ : Type} {s : BrokerSettings σ} {changes : σ → σ → Prop}
  {t₀ t : Traffic σ Lifecycle.Outcome} {events : List (Event σ)}

/-- Requests of platforms to a broker, whose provider changes of itself as well. -/
def service (s : BrokerSettings σ) (changes : σ → σ → Prop) : World σ Lifecycle.Outcome where
  settings := s
  arrives u := ∃ (handler : DatabaseHandler) (request : Lifecycle.Request),
    u = ⟨handler.engine, (Lifecycle.perform request).interpret handler.answer⟩
  changes

/-- **Performing a request is a run.** -/
theorem Run.perform (run : Run (service s changes) t₀ events t)
    (h : Orderly Deletion.stage t.deletions) (handler : DatabaseHandler)
    (request : Lifecycle.Request) :
    ∃ more, Run (service s changes) t₀ (events ++ more)
      ⟨((Broker.perform s handler request).run t.broker).2, t.requests ++
        [⟨handler.engine, .done ((Broker.perform s handler request).run t.broker).1⟩]⟩ := by
  have arrived := run.step (.arrive ⟨handler, request, rfl⟩)
  obtain ⟨more, performed⟩ := arrived.execute h List.getElem?_concat_length
  refine ⟨.arrived :: more, ?_⟩
  rw [Broker.perform_eq_run]
  simp only [List.set_append_right _ _ (Nat.le_refl _), Nat.sub_self, List.set_cons_zero,
    List.append_assoc, List.singleton_append] at performed
  exact performed

end Service

end Traffic
end ServiceBroker

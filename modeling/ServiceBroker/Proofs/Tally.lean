/-
# Steps on time and the calls that they make

A deletion that waits looks at its appliance again by the deadline of its wait
(`Traffic.Timely`).  A run is told by the calls to the provider that its steps make
(`Traffic.calls`), and for one appliance by how many of them turn it off and delete it
(`Traffic.Tally`).
-/

import ServiceBroker.Proofs.Collision
import ServiceBroker.Proofs.Hindsight

namespace ServiceBroker

/-- The time by which the next look of a wait has to begin. -/
def Deletion.Phase.deadline? : Phase → Option Instant
  | awaitingUp wait | awaitingRunning wait | awaitingDown wait => some wait.deadline
  | _ => none

namespace Traffic

open Provider (Memory)

section Timely

variable {σ α : Type}

/-- If a deletion looks at its appliance in a step, it does so by the deadline of its wait. -/
def OnTime (t : Traffic σ α) : Event σ → Prop
  | .turned _ d _ => ∀ deadline ∈ d.phase.deadline?, t.broker.now ≤ deadline
  | _ => True

instance (t : Traffic σ α) (e : Event σ) : Decidable (t.OnTime e) :=
  match e with
  | .turned _ d _ => inferInstanceAs (Decidable (∀ deadline ∈ d.phase.deadline?, _))
  | .arrived | .asked _ _ _ | .waited | .changed _ _ => .isTrue trivial

/-- Step after step, where the looks of a wait begin by its deadline: the first at once, and each
other after a rest that the deadline leaves room for. -/
abbrev Timely (w : World σ α) : Traffic σ α → List (Event σ) → Traffic σ α → Prop :=
  Along w OnTime

/-- Whether those that are chosen look on time. -/
def isPrompt (w : World σ α) : List Choice → Traffic σ α → Bool
  | [], _ => true
  | choice :: rest, t =>
    match t.next? w choice with
    | none => true
    | some (e, t') => decide (t.OnTime e) && isPrompt w rest t'

/-- What is chosen is a run, if those that are chosen look on time. -/
theorem Timely.follow {w : World σ α} {t₀ t : Traffic σ α} {events : List (Event σ)}
    (choices : List Choice) (run : Timely w t₀ events t) (prompt : isPrompt w choices t = true) :
    Timely w t₀ (events ++ (Traffic.follow w choices t).1) (Traffic.follow w choices t).2 := by
  induction choices generalizing t events with
  | nil => simpa [Traffic.follow] using run
  | cons choice rest ih =>
    rw [Traffic.follow]
    rw [isPrompt] at prompt
    cases h : t.next? w choice with
    | none => simpa using run
    | some step =>
      obtain ⟨e, t'⟩ := step
      rw [h, Bool.and_eq_true, decide_eq_true_iff] at prompt
      simpa using ih (run.step (step_of_next? h) prompt.1) prompt.2

end Timely

section Calls

/-- The call to the provider that a step makes. -/
def Event.call? {σ : Type} : Event σ → Option Provider.Call
  | .asked _ (.provider call) _ => some call
  | .turned _ _ made => made.map (·.call)
  | _ => none

/-- The calls to the provider, in this order. -/
def calls {σ : Type} (events : List (Event σ)) : List Provider.Call :=
  events.filterMap Event.call?

/-- A step adds the call that it makes. -/
theorem calls_snoc {σ : Type} (events : List (Event σ)) (e : Event σ) :
    calls (events ++ [e]) = calls events ++ e.call?.toList :=
  filterMap_snoc ..

/-- The turn of a deletion, as the step that it is. -/
abbrev turned {σ α : Type} (t : Traffic σ α) (w : World σ α) (task : TaskId) (d : Deletion) :
    Event σ :=
  .turned task d (made? w t d)

/-- The call of a turn is that of the phase of the deletion. -/
theorem call?_turned {σ α : Type} (w : World σ α) (t : Traffic σ α) (task : TaskId)
    (d : Deletion) : (t.turned w task d).call? = d.phase.call? d.id := by
  rw [Event.call?, made?, Option.map_map]
  exact congrFun Option.map_id _

/-- How often it was called to turn an appliance off and to delete it; every call to delete it did
so. -/
structure Tally (events : List (Event Memory)) (id : ApplianceId) (stops deletes : Nat) : Prop where
  stopped : (calls events).count (.stop id) = stops
  deleted : (calls events).count (.delete id) = deletes
  succeeded : (removed events).count id = deletes

variable {events : List (Event Memory)} {e : Event Memory} {id : ApplianceId} {stops deletes : Nat}

/-- What removes an appliance is a call to delete it. -/
theorem call?_of_removed? (h : e.removed? = some id) : e.call? = some (.delete id) := by
  cases e with
  | turned task d made =>
    rcases made with _ | ⟨call, answer⟩
    · cases h
    · cases call with
      | delete id =>
        rcases answer with _ | ⟨⟨⟩⟩
        · cases h
        · cases h
          rfl
      | _ => cases h
  | _ => cases h

/-- An appliance that was deleted once was removed. -/
theorem Tally.mem_removed (h : Tally events id stops 1) : id ∈ removed events := by
  rw [← List.count_pos_iff, h.succeeded]
  exact Nat.one_pos

/-- An appliance that was never deleted was not removed. -/
theorem Tally.not_mem_removed (h : Tally events id stops 0) : id ∉ removed events :=
  List.count_eq_zero.1 h.succeeded

/-- Calls that were made are not unmade. -/
theorem Tally.le_append {later : List (Event Memory)} {stops' deletes' : Nat}
    (h : Tally events id stops deletes) (h' : Tally (events ++ later) id stops' deletes') :
    stops ≤ stops' ∧ deletes ≤ deletes' := by
  rw [← h.stopped, ← h'.stopped, ← h.deleted, ← h'.deleted, calls, calls, List.filterMap_append,
    List.count_append, List.count_append]
  exact ⟨Nat.le_add_right _ _, Nat.le_add_right _ _⟩

/-- A step that neither turns the appliance off nor deletes it counts nothing. -/
theorem Tally.quiet (h : Tally events id stops deletes) (stop : e.call? ≠ some (.stop id))
    (delete : e.call? ≠ some (.delete id)) : Tally (events ++ [e]) id stops deletes where
  stopped := by
    rw [calls_snoc, List.count_append, h.stopped, List.count_eq_zero_of_not_mem]
    · rfl
    · simpa using stop
  deleted := by
    rw [calls_snoc, List.count_append, h.deleted, List.count_eq_zero_of_not_mem]
    · rfl
    · simpa using delete
  succeeded := by
    rw [removed_snoc, List.count_append, h.succeeded, List.count_eq_zero_of_not_mem]
    · rfl
    · simpa using fun hr => delete (call?_of_removed? hr)

/-- A step that turns the appliance off counts one more. -/
theorem Tally.stop (h : Tally events id stops deletes) (stop : e.call? = some (.stop id)) :
    Tally (events ++ [e]) id (stops + 1) deletes where
  stopped := by
    rw [calls_snoc, stop, List.count_append, h.stopped]
    simp
  deleted := by
    rw [calls_snoc, stop, List.count_append, h.deleted]
    simp
  succeeded := by
    rw [removed_snoc, List.count_append, h.succeeded, List.count_eq_zero_of_not_mem]
    · rfl
    · have kept : e.removed? ≠ some id := fun hr => by
        cases stop.symm.trans (call?_of_removed? hr)
      simpa using kept

/-- A step that deletes the appliance counts one more. -/
theorem Tally.delete (h : Tally events id stops deletes) (delete : e.removed? = some id) :
    Tally (events ++ [e]) id stops (deletes + 1) where
  stopped := by
    rw [calls_snoc, call?_of_removed? delete, List.count_append, h.stopped]
    simp
  deleted := by
    rw [calls_snoc, call?_of_removed? delete, List.count_append, h.deleted]
    simp
  succeeded := by
    rw [removed_snoc, delete, List.count_append, h.succeeded]
    simp

end Calls

end Traffic
end ServiceBroker

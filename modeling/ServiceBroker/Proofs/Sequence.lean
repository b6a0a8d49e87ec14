/-
# One deletion against any provider

What a deletion may do is settled by what it did and saw before (`Deletion.Guard`): it
stops only an appliance that it just saw up, deletes only one that it saw failed or that
it stopped and saw down, and calls nothing more once anything went wrong.
`Deletion.guarded_history` states this for every provider and for turns at any times,
whatever happened to the provider in between.  The invariant is what a deletion has
behind it in each of its phases (`Deletion.Phase.Reached`).
-/

import ServiceBroker.Deletion
import ServiceBroker.Proofs.Appliances
import Mathlib.Tactic.Common

namespace ServiceBroker
namespace Polling

/-- The answer to a look, unless the wait has given up on it. -/
def inTime {α : Type} (p : Polling) (began : Instant) (answer : Provider.Timed α) : Option α :=
  if p.deadline < began + answer.delay then none else some answer.value

/-- A look ends the wait in failure, ends it because it saw what was waited for, or is followed
by another look because it did not. -/
theorem judge_cases (p : Polling) (began : Instant) (delay : Duration)
    (seen : Except ProviderError Bool) :
    (∃ e time, p.judge began delay seen = .ended (.error e) time) ∨
      (seen = .ok true ∧ ¬p.deadline < began + delay ∧
        p.judge began delay seen = .ended (.ok ()) (began + delay)) ∨
      (seen = .ok false ∧ ¬p.deadline < began + delay ∧
        ∃ q time, p.judge began delay seen = .again q time) := by
  unfold judge timedOut
  split
  · exact .inl ⟨_, _, rfl⟩
  · rename_i hd
    rcases seen with e | (_ | _)
    · exact .inl ⟨_, _, rfl⟩
    · dsimp only
      split
      · exact .inl ⟨_, _, rfl⟩
      · split
        · exact .inr (.inr ⟨rfl, hd, _, _, rfl⟩)
        · exact .inl ⟨_, _, rfl⟩
    · exact .inr (.inl ⟨rfl, hd, rfl⟩)

end Polling

namespace Provider.Condition

/-- A reading tells something only of an appliance that is there. -/
theorem ofReading_eq_ok {id : ApplianceId} {holds : Appliance → Bool} {value : Bool}
    {answer : Except ProviderError (Option Appliance)} (h : ofReading id holds answer = .ok value) :
    ∃ a, answer = .ok (some a) ∧ holds a = value := by
  rcases answer with e | (_ | a)
  · cases h
  · cases h
  · exact ⟨a, rfl, Except.ok.inj h⟩

end Provider.Condition

namespace Deletion

/-- What happens in a deletion: a call with its answer, which is nothing where a wait has given up
on it, or the end of a wait. -/
inductive Event where
  | read (id : ApplianceId) (answer : Option (Except ProviderError (Option Appliance)))
  | status (id : ApplianceId) (answer : Option (Except ProviderError (Option String)))
  | stop (id : ApplianceId) (answer : Except ProviderError Unit)
  | delete (id : ApplianceId) (answer : Except ProviderError Unit)
  | waited (condition : Provider.Condition) (result : Except ProviderError Unit)

namespace Event

/-- A reading that shows an appliance. -/
abbrev saw (id : ApplianceId) (a : Appliance) : Event := read id (some (.ok (some a)))

/-- The call to the provider, if it is one. -/
def call? : Event → Option Provider.Call
  | read id _ => some (.read id)
  | status id _ => some (.status id)
  | stop id _ => some (.stop id)
  | delete id _ => some (.delete id)
  | waited _ _ => none

/-- A reading of the appliance. -/
def IsRead : Event → Prop
  | read _ _ => True
  | _ => False

/-- A call to turn the appliance off. -/
def IsStop : Event → Prop
  | stop _ _ => True
  | _ => False

/-- A call to delete the appliance. -/
def IsDelete : Event → Prop
  | delete _ _ => True
  | _ => False

/-- A reading turns nothing off. -/
theorem IsRead.not_isStop {e : Event} (h : e.IsRead) : ¬e.IsStop := by
  cases e <;> first | exact not_false | exact h.elim

/-- An event after which nothing is called any more: a reading that fails or shows nothing, a
failed stop, a failed wait for the appliance to come up or go down, and the deletion itself. -/
def IsFatal : Event → Prop
  | read _ (some (.ok (some _))) => False
  | read _ _ => True
  | stop _ (.error _) => True
  | delete _ _ => True
  | waited .up (.error _) => True
  | waited .down (.error _) => True
  | _ => False

/-- The end of a wait, if a look brings it about. -/
def ofVerdict (condition : Provider.Condition) : Polling.Verdict → List Event
  | .ended result _ => [waited condition result]
  | .again _ _ => []

end Event

variable {σ : Type}

/-- What happens in a turn. -/
def Phase.events (s : Settings σ) (id : ApplianceId) (now : Instant) (state : σ) :
    Phase → List Event
  | .queued | .ended => []
  | .examining | .refreshing =>
    [.read id (some (s.provider.answer now (.read id) state).1.value)]
  | .awaitingUp wait =>
    let answer := (s.provider.answer now (.read id) state).1
    .read id (wait.inTime now answer) :: Event.ofVerdict .up
      (wait.judge now answer.delay (Provider.Condition.seen id .up answer.value))
  | .awaitingRunning wait =>
    let answer := (s.provider.answer now (.status id) state).1
    .status id (wait.inTime now answer) :: Event.ofVerdict .running
      (wait.judge now answer.delay (Provider.Condition.seen id .running answer.value))
  | .stopping => [.stop id (s.provider.answer now (.stop id) state).1.value]
  | .awaitingDown wait =>
    let answer := (s.provider.answer now (.read id) state).1
    .read id (wait.inTime now answer) :: Event.ofVerdict .down
      (wait.judge now answer.delay (Provider.Condition.seen id .down answer.value))
  | .deleting => [.delete id (s.provider.answer now (.delete id) state).1.value]

/-- A turn changes the provider by the one call of its phase. -/
theorem advance_state (s : Settings σ) (id : ApplianceId) (now : Instant) (state : σ)
    (phase : Phase) :
    (advance s id now state phase).2 =
      match phase.call? id with
      | none => state
      | some call => (s.provider.answer now call state).2 := by
  cases phase <;> rfl

/-- What happens in the turns of a deletion, each taken at some time with the deletions' shared
state as it is then. -/
def history (s : Settings σ) (d : Deletion) : List (Instant × Shared σ) → List Event
  | [] => []
  | (now, shared) :: rest =>
    d.phase.events s d.id now shared.provider ++
      match (turn s now d shared).1 with
      | .rest _ d' | .acquire _ d' => history s d' rest
      | .finish _ => []

/-- After a reading that shows a move, the wait for the appliance to come up saw it up. -/
def Moved (id : ApplianceId) (before : List Event) : Prop :=
  ∀ first rest, before = .saw id first :: rest → first.isMigrating = true →
    ∃ looks a later, rest = looks ++ .saw id a :: .waited .up (.ok ()) :: later ∧
      a.isUp = true ∧ ∀ e ∈ looks, e.IsRead

/-- What decides that an appliance is deleted: it was read again and is failed and not up, or it
was read again, was up, was turned off, and the last reading since shows it down. -/
def Condemned (id : ApplianceId) (before : List Event) : Prop :=
  (∃ earlier a, before = earlier ++ [.saw id a] ∧ earlier ≠ [] ∧
      a.isFailed = true ∧ a.isUp = false ∧ ∀ e ∈ earlier, ¬e.IsStop) ∨
    ∃ earlier a looks b, before = earlier ++ .saw id a :: .stop id (.ok ()) ::
        (looks ++ [.saw id b, .waited .down (.ok ())]) ∧ earlier ≠ [] ∧
      a.isUp = true ∧ b.isDown = true ∧ ∀ e ∈ looks, e.IsRead

/-- What was before an event of the deletion of an appliance. -/
structure Guard (id : ApplianceId) (before : List Event) (e : Event) : Prop where
  /-- A call is about the appliance. -/
  target : ∀ call, e.call? = some call → call.target? = some id
  /-- Nothing is called after anything went wrong, and nothing after the deletion. -/
  alive : e.call?.isSome → ∀ x ∈ before, ¬x.IsFatal
  /-- The appliance is turned off once, right after a second reading that shows it up. -/
  stop : e.IsStop → (∀ x ∈ before, ¬x.IsStop) ∧
    ∃ earlier a, before = earlier ++ [.saw id a] ∧ earlier ≠ [] ∧ a.isUp = true
  delete : e.IsDelete → Condemned id before
  moved : e.IsStop ∨ e.IsDelete → Moved id before

/-- Each of these events has before it what it needs. -/
def GuardedFrom (id : ApplianceId) (before : List Event) : List Event → Prop
  | [] => True
  | e :: rest => Guard id before e ∧ GuardedFrom id (before ++ [e]) rest

section Guards

variable {id : ApplianceId} {before : List Event}

/-- Events are guarded if the first part is and the rest is behind it. -/
theorem guardedFrom_append {events more : List Event} (h : GuardedFrom id before events)
    (hm : GuardedFrom id (before ++ events) more) : GuardedFrom id before (events ++ more) := by
  induction events generalizing before with
  | nil => simpa using hm
  | cons e rest ih => exact ⟨h.1, ih h.2 (by simpa using hm)⟩

/-- Each of some guarded events has before it what it needs. -/
theorem GuardedFrom.guard {events : List Event} (h : GuardedFrom id before events)
    {earlier later : List Event} {e : Event} (he : events = earlier ++ e :: later) :
    Guard id (before ++ earlier) e := by
  induction earlier generalizing before events with
  | nil =>
    subst he
    rw [List.append_nil]
    exact h.1
  | cons x earlier ih =>
    subst he
    have := ih h.2 rfl
    rwa [List.append_assoc] at this

/-- A reading needs nothing but that all went well. -/
theorem guard_read (h : ∀ x ∈ before, ¬x.IsFatal) (answer) : Guard id before (.read id answer) where
  target := by rintro _ ⟨⟩; rfl
  alive _ := h
  stop := False.elim
  delete := False.elim
  moved := by rintro (⟨⟨⟩⟩ | ⟨⟨⟩⟩)

/-- A look at the status needs nothing but that all went well. -/
theorem guard_status (h : ∀ x ∈ before, ¬x.IsFatal) (answer) :
    Guard id before (.status id answer) where
  target := by rintro _ ⟨⟩; rfl
  alive _ := h
  stop := False.elim
  delete := False.elim
  moved := by rintro (⟨⟨⟩⟩ | ⟨⟨⟩⟩)

/-- The end of a wait needs nothing. -/
theorem guard_waited (condition : Provider.Condition) (result : Except ProviderError Unit) :
    Guard id before (.waited condition result) where
  target := by rintro _ ⟨⟩
  alive h := absurd h Bool.false_ne_true
  stop := False.elim
  delete := False.elim
  moved := by rintro (⟨⟨⟩⟩ | ⟨⟨⟩⟩)

/-- The end of a wait, if a look brings it about, needs nothing. -/
theorem guardedFrom_ofVerdict (condition : Provider.Condition) (verdict : Polling.Verdict) :
    GuardedFrom id before (Event.ofVerdict condition verdict) := by
  cases verdict with
  | ended result _ => exact ⟨guard_waited condition result, trivial⟩
  | again _ _ => exact trivial

/-- What follows a first event does not undo a move that was waited for. -/
theorem Moved.append (h : Moved id before) (hb : before ≠ []) (more : List Event) :
    Moved id (before ++ more) := by
  intro first rest hrest moving
  obtain ⟨x, tail, rfl⟩ := List.exists_cons_of_ne_nil hb
  rw [List.cons_append, List.cons.injEq] at hrest
  obtain ⟨rfl, rfl⟩ := hrest
  obtain ⟨looks, a, later, rfl, up, reads⟩ := h _ _ rfl moving
  exact ⟨looks, a, later ++ more, by simp, up, reads⟩

end Guards

/-- What a deletion has behind it before it reads the appliance for its decision: nothing went
wrong, nothing was turned off, and a move was waited for. -/
structure Prelude (id : ApplianceId) (before : List Event) : Prop where
  begun : before ≠ []
  sound : ∀ e ∈ before, ¬e.IsFatal
  untouched : ∀ e ∈ before, ¬e.IsStop
  moved : Moved id before

/-- The appliance was read, is up and is turned off, and since then it was only looked at. -/
def Stopped (id : ApplianceId) (before : List Event) : Prop :=
  ∃ earlier a looks, before = earlier ++ .saw id a :: .stop id (.ok ()) :: looks ∧
    Prelude id earlier ∧ a.isUp = true ∧ ∀ e ∈ looks, e.IsRead ∧ ¬e.IsFatal

/-- **What a deletion has behind it in a phase.** -/
def Phase.Reached (id : ApplianceId) (before : List Event) : Phase → Prop
  | .queued | .examining => before = []
  | .awaitingUp _ =>
    ∃ first looks, before = .saw id first :: looks ∧ ∀ e ∈ looks, e.IsRead ∧ ¬e.IsFatal
  | .awaitingRunning _ | .refreshing => Prelude id before
  | .stopping =>
    ∃ earlier a, before = earlier ++ [.saw id a] ∧ Prelude id earlier ∧ a.isUp = true
  | .awaitingDown _ => Stopped id before
  | .deleting => (∀ e ∈ before, ¬e.IsFatal) ∧ Condemned id before ∧ Moved id before
  | .ended => True

section Steps

variable {id : ApplianceId} {before : List Event} {now : Instant} {state : σ}

/-- What a look in a wait for a reading brings: the wait fails, it has seen what it waited for, or
it goes on and has seen that it is not so. -/
theorem look_cases (id : ApplianceId) (wait : Polling) (now : Instant) (holds : Appliance → Bool)
    (answer : Provider.Timed (Except ProviderError (Option Appliance))) :
    let verdict := wait.judge now answer.delay
      (Provider.Condition.ofReading id holds answer.value)
    (∃ e time, verdict = .ended (.error e) time) ∨
      ∃ a, wait.inTime now answer = some (.ok (some a)) ∧
        ((holds a = true ∧ verdict = .ended (.ok ()) (now + answer.delay)) ∨
          ∃ q time, verdict = .again q time) := by
  intro verdict
  rcases wait.judge_cases now answer.delay (Provider.Condition.ofReading id holds answer.value)
    with failed | ⟨seen, intime, hv⟩ | ⟨seen, intime, q, time, hv⟩
  · exact .inl failed
  · obtain ⟨a, ha, holds⟩ := Provider.Condition.ofReading_eq_ok seen
    exact .inr ⟨a, by rw [Polling.inTime, if_neg intime, ha], .inl ⟨holds, hv⟩⟩
  · obtain ⟨a, ha, -⟩ := Provider.Condition.ofReading_eq_ok seen
    exact .inr ⟨a, by rw [Polling.inTime, if_neg intime, ha], .inr ⟨q, time, hv⟩⟩

variable (s : Settings σ)

/-- The first reading is guarded, and leads to a phase with this behind it. -/
theorem step_examining (h : Phase.Reached id before .examining) :
    GuardedFrom id before (Phase.events s id now state .examining) ∧
      ((advance s id now state .examining).1.1).Reached id
        (before ++ Phase.events s id now state .examining) := by
  obtain rfl : before = [] := h
  refine ⟨⟨guard_read (fun _ h => absurd h List.not_mem_nil) _, trivial⟩, ?_⟩
  simp only [advance, Phase.events, List.nil_append]
  rcases (s.provider.answer now (.read id) state).1.value with e | (_ | a)
  · trivial
  · trivial
  · by_cases moving : a.isMigrating = true
    · simp only [afterExamining, moving, if_true]
      exact ⟨a, [], rfl, fun _ h => absurd h List.not_mem_nil⟩
    · simp only [afterExamining, moving]
      refine ⟨List.cons_ne_nil _ _, ?_, ?_, ?_⟩
      · simp [Event.IsFatal]
      · simp [Event.IsStop]
      · rintro first rest hrest hm
        cases hrest
        exact absurd hm moving

/-- A look at an appliance that is to come up is guarded, and leads to a phase with this behind
it. -/
theorem step_awaitingUp {wait : Polling} (h : Phase.Reached id before (.awaitingUp wait)) :
    GuardedFrom id before (Phase.events s id now state (.awaitingUp wait)) ∧
      ((advance s id now state (.awaitingUp wait)).1.1).Reached id
        (before ++ Phase.events s id now state (.awaitingUp wait)) := by
  obtain ⟨first, looks, rfl, calm⟩ := h
  have sound : ∀ x ∈ Event.saw id first :: looks, ¬x.IsFatal := by
    rintro x (_ | ⟨_, hx⟩)
    · exact not_false
    · exact (calm x hx).2
  refine ⟨⟨guard_read sound _, guardedFrom_ofVerdict _ _⟩, ?_⟩
  simp only [advance, lookAgain, Provider.look, Provider.Condition.seen, Phase.events]
  generalize (s.provider.answer now (.read id) state).1 = answer
  rcases look_cases id wait now Appliance.isUp answer with
    ⟨e, time, hv⟩ | ⟨a, seen, ⟨up, hv⟩ | ⟨q, time, hv⟩⟩
  · rw [hv]
    trivial
  · rw [hv, seen]
    refine ⟨by simp, ?_, ?_, ?_⟩
    · simp only [List.forall_mem_append, Event.ofVerdict, List.forall_mem_cons]
      exact ⟨⟨not_false, fun x hx => (calm x hx).2⟩, not_false, not_false, by simp⟩
    · simp only [List.forall_mem_append, Event.ofVerdict, List.forall_mem_cons]
      refine ⟨⟨not_false, fun x hx => (calm x hx).1.not_isStop⟩, not_false, not_false, by simp⟩
    · rintro first' rest hrest -
      cases hrest
      exact ⟨looks, a, [], rfl, up, fun x hx => (calm x hx).1⟩
  · rw [hv, seen]
    refine ⟨first, looks ++ [.saw id a], by simp [Event.ofVerdict], ?_⟩
    simp only [List.forall_mem_append, List.forall_mem_cons]
    exact ⟨calm, ⟨trivial, not_false⟩, by simp⟩

/-- A look at an appliance that is to run is guarded, and leads to a phase with this behind it. -/
theorem step_awaitingRunning {wait : Polling}
    (h : Phase.Reached id before (.awaitingRunning wait)) :
    GuardedFrom id before (Phase.events s id now state (.awaitingRunning wait)) ∧
      ((advance s id now state (.awaitingRunning wait)).1.1).Reached id
        (before ++ Phase.events s id now state (.awaitingRunning wait)) := by
  have prelude : Prelude id before := h
  refine ⟨⟨guard_status prelude.sound _, guardedFrom_ofVerdict _ _⟩, ?_⟩
  -- However the wait goes on, it adds nothing that matters.
  have longer (answer) (verdict : Polling.Verdict) :
      Prelude id (before ++ .status id answer :: Event.ofVerdict .running verdict) := by
    refine ⟨by simp, ?_, ?_, prelude.moved.append prelude.begun _⟩
    · cases verdict <;> simp only [List.forall_mem_append, Event.ofVerdict, List.forall_mem_cons]
      · exact ⟨prelude.sound, not_false, not_false, by simp⟩
      · exact ⟨prelude.sound, not_false, by simp⟩
    · cases verdict <;> simp only [List.forall_mem_append, Event.ofVerdict, List.forall_mem_cons]
      · exact ⟨prelude.untouched, not_false, not_false, by simp⟩
      · exact ⟨prelude.untouched, not_false, by simp⟩
  simp only [advance, lookAgain, Provider.look, Phase.events]
  generalize (s.provider.answer now (.status id) state).1 = answer
  generalize wait.judge now answer.delay _ = verdict
  cases verdict <;> exact longer _ _

/-- The second reading is guarded, and leads to a phase with this behind it. -/
theorem step_refreshing (h : Phase.Reached id before .refreshing) :
    GuardedFrom id before (Phase.events s id now state .refreshing) ∧
      ((advance s id now state .refreshing).1.1).Reached id
        (before ++ Phase.events s id now state .refreshing) := by
  have prelude : Prelude id before := h
  refine ⟨⟨guard_read prelude.sound _, trivial⟩, ?_⟩
  simp only [advance, Phase.events]
  rcases (s.provider.answer now (.read id) state).1.value with e | (_ | a)
  · trivial
  · trivial
  · by_cases up : a.isUp = true
    · simp only [afterRefreshing, up, if_true]
      exact ⟨before, a, rfl, prelude, up⟩
    · by_cases failed : a.isFailed = true
      · simp only [afterRefreshing, up, failed, if_true]
        refine ⟨?_, .inl ⟨before, a, rfl, prelude.begun, failed, by simpa using up,
          prelude.untouched⟩, prelude.moved.append prelude.begun _⟩
        simp only [List.forall_mem_append, List.forall_mem_cons]
        exact ⟨prelude.sound, not_false, by simp⟩
      · simp only [afterRefreshing, up, failed]
        trivial

/-- Turning an appliance off is guarded, and leads to a phase with this behind it. -/
theorem step_stopping (h : Phase.Reached id before .stopping) :
    GuardedFrom id before (Phase.events s id now state .stopping) ∧
      ((advance s id now state .stopping).1.1).Reached id
        (before ++ Phase.events s id now state .stopping) := by
  obtain ⟨earlier, a, rfl, prelude, up⟩ := h
  have sound : ∀ x ∈ earlier ++ [.saw id a], ¬x.IsFatal := by
    simp only [List.forall_mem_append, List.forall_mem_cons]
    exact ⟨prelude.sound, not_false, by simp⟩
  have untouched : ∀ x ∈ earlier ++ [.saw id a], ¬x.IsStop := by
    simp only [List.forall_mem_append, List.forall_mem_cons]
    exact ⟨prelude.untouched, not_false, by simp⟩
  refine ⟨⟨?_, trivial⟩, ?_⟩
  · exact {
      target := by rintro _ ⟨⟩; rfl
      alive := fun _ => sound
      stop := fun _ => ⟨untouched, earlier, a, rfl, prelude.begun, up⟩
      delete := False.elim
      moved := fun _ => prelude.moved.append prelude.begun _ }
  · simp only [advance, Phase.events]
    rcases (s.provider.answer now (.stop id) state).1.value with e | ⟨⟩
    · trivial
    · exact ⟨earlier, a, [], by simp, prelude, up, fun _ h => absurd h List.not_mem_nil⟩

/-- Nothing went wrong in a deletion that has turned its appliance off. -/
theorem Stopped.sound (h : Stopped id before) : ∀ e ∈ before, ¬e.IsFatal := by
  obtain ⟨earlier, a, looks, rfl, prelude, -, calm⟩ := h
  simp only [List.forall_mem_append, List.forall_mem_cons]
  exact ⟨prelude.sound, not_false, not_false, fun x hx => (calm x hx).2⟩

/-- A look at an appliance that is to go down is guarded, and leads to a phase with this behind
it. -/
theorem step_awaitingDown {wait : Polling} (h : Phase.Reached id before (.awaitingDown wait)) :
    GuardedFrom id before (Phase.events s id now state (.awaitingDown wait)) ∧
      ((advance s id now state (.awaitingDown wait)).1.1).Reached id
        (before ++ Phase.events s id now state (.awaitingDown wait)) := by
  have stopped : Stopped id before := h
  refine ⟨⟨guard_read stopped.sound _, guardedFrom_ofVerdict _ _⟩, ?_⟩
  obtain ⟨earlier, a, looks, rfl, prelude, up, calm⟩ := stopped
  simp only [advance, lookAgain, Provider.look, Provider.Condition.seen, Phase.events]
  generalize (s.provider.answer now (.read id) state).1 = answer
  rcases look_cases id wait now Appliance.isDown answer with
    ⟨e, time, hv⟩ | ⟨b, seen, ⟨down, hv⟩ | ⟨q, time, hv⟩⟩
  · rw [hv]
    trivial
  · rw [hv, seen]
    refine ⟨?_, .inr ⟨earlier, a, looks, b, by simp [Event.ofVerdict], prelude.begun, up, down,
      fun x hx => (calm x hx).1⟩, ?_⟩
    · rw [List.forall_mem_append]
      refine ⟨h.sound, ?_⟩
      simp only [Event.ofVerdict, List.forall_mem_cons]
      exact ⟨not_false, not_false, by simp⟩
    · rw [List.append_assoc]
      exact prelude.moved.append prelude.begun _
  · rw [hv, seen]
    refine ⟨earlier, a, looks ++ [.saw id b], by simp [Event.ofVerdict], prelude, up, ?_⟩
    simp only [List.forall_mem_append, List.forall_mem_cons]
    exact ⟨calm, ⟨trivial, not_false⟩, by simp⟩

/-- The deletion of the appliance is guarded. -/
theorem step_deleting (h : Phase.Reached id before .deleting) :
    GuardedFrom id before (Phase.events s id now state .deleting) := by
  obtain ⟨sound, condemned, moved⟩ := h
  exact ⟨{
    target := by rintro _ ⟨⟩; rfl
    alive := fun _ => sound
    stop := False.elim
    delete := fun _ => condemned
    moved := fun _ => moved }, trivial⟩

/-- **In a turn a deletion does only what it may**, and what the next phase needs is then behind
it. -/
theorem step_phase (now : Instant) (state : σ) (phase : Phase) (h : phase.Reached id before) :
    GuardedFrom id before (phase.events s id now state) ∧
      ((advance s id now state phase).1.1).Reached id
        (before ++ phase.events s id now state) := by
  cases phase with
  | queued => exact ⟨trivial, (List.append_nil before).trans h⟩
  | examining => exact step_examining s h
  | awaitingUp wait => exact step_awaitingUp s h
  | awaitingRunning wait => exact step_awaitingRunning s h
  | refreshing => exact step_refreshing s h
  | stopping => exact step_stopping s h
  | awaitingDown wait => exact step_awaitingDown s h
  | deleting => exact ⟨step_deleting s h, trivial⟩
  | ended => exact ⟨trivial, trivial⟩

/-- From whatever a deletion has behind it, its further turns do only what it may. -/
theorem guardedFrom_history (d : Deletion) (turns : List (Instant × Shared σ))
    (h : d.phase.Reached d.id before) : GuardedFrom d.id before (history s d turns) := by
  induction turns generalizing d before with
  | nil => exact trivial
  | cons turn rest ih =>
    obtain ⟨now, shared⟩ := turn
    obtain ⟨guarded, reached⟩ := step_phase s now shared.provider d.phase h
    refine guardedFrom_append guarded ?_
    obtain ⟨name, id, phase⟩ := d
    have further := ih ⟨name, id, (advance s id now shared.provider phase).1.1⟩ reached
    cases phase with
    | ended => exact trivial
    | _ => exact further

end Steps

/-- **A deletion does only what it may.**  Whatever the provider answers, however long that takes,
whenever the deletion gets its turns and whatever happens to the provider between them, each event
of the deletion has before it what `Guard` asks for. -/
theorem guarded_history (s : Settings σ) (name : String) (id : ApplianceId)
    (turns : List (Instant × Shared σ)) (before after : List Event) (e : Event)
    (h : history s { name, id } turns = before ++ e :: after) : Guard id before e :=
  (guardedFrom_history s { name, id } turns (show Phase.Reached id [] .queued from rfl)).guard h

/-- What is up is read twice, turned off, seen down and deleted. -/
theorem guarded_stop_and_delete :
    let a : Appliance := Provider.Memory.boot .instant 1 (.plain "a")
    let off : Appliance := { a with instanceStatus := Appliance.statusDown }
    let s : Settings Provider.Memory :=
      ⟨Provider.inMemory .instant (Duration.seconds 5) (Duration.milliseconds 10),
        Duration.seconds 180⟩
    let turns : List (Instant × Shared Provider.Memory) :=
      List.replicate 4 (0, ⟨{ appliances := [a] }, 1⟩) ++
        List.replicate 2 (0, ⟨{ appliances := [off] }, 1⟩)
    history s { name := "a", id := 1 } turns =
        [.saw 1 a, .saw 1 a, .stop 1 (.ok ()), .saw 1 off, .waited .down (.ok ()),
          .delete 1 (.ok ())] ∧
      Condemned 1 [.saw 1 a, .saw 1 a, .stop 1 (.ok ()), .saw 1 off, .waited .down (.ok ())] := by
  intro a off s turns
  have events : history s { name := "a", id := 1 } turns =
      [.saw 1 a, .saw 1 a, .stop 1 (.ok ()), .saw 1 off, .waited .down (.ok ())] ++
        .delete 1 (.ok ()) :: [] := rfl
  have guard := guarded_history s "a" 1 turns _ [] _ events
  exact ⟨events, guard.delete trivial⟩
end Deletion
end ServiceBroker

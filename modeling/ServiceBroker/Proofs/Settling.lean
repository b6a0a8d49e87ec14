/-
# A deletion that nothing disturbs

In a provider in memory that is available, the deletion of an appliance that is up goes
from its first turn to its last without resting: it reads twice, turns the appliance off,
sees it down and deletes it.  `Deletions.settle_start` says what that leaves behind: the
provider without the appliance, no task, and every lock free again.
-/

import ServiceBroker.Deletion
import ServiceBroker.Proofs.Appliances

namespace ServiceBroker
namespace KeyedLock

variable {ρ : Type}

/-- Nobody holds a key and nobody waits for one. -/
def Free (locks : KeyedLock ρ) : Prop :=
  ∀ key entry, locks.get? key = some entry → entry = ⟨none, []⟩

/-- In an empty table nobody holds a key. -/
theorem free_empty : Free ({} : KeyedLock ρ) := fun _ _ h => by cases h

/-- Of free locks, a key is given at once, and when it is given up all are free again. -/
theorem Free.request_release {locks : KeyedLock ρ} (h : locks.Free) (key : Int64) (who : ρ) :
    (locks.request key who).1 = true ∧
      ((locks.request key who).2.release key).1 = none ∧
      ((locks.request key who).2.release key).2.Free := by
  have entered : locks.request key who = (true, ⟨locks.entries.put key ⟨some who, []⟩⟩) := by
    rw [request]
    cases he : locks.get? key with
    | none => rfl
    | some entry => rw [h key entry he]
  have released : (⟨locks.entries.put key ⟨some who, []⟩⟩ : KeyedLock ρ).release key =
      (none, ⟨(locks.entries.put key ⟨some who, []⟩).put key ⟨none, []⟩⟩) := by
    rw [release, get?, Table.get?_put_self]
  rw [entered, released]
  refine ⟨rfl, rfl, fun k entry hk => ?_⟩
  rw [get?] at hk
  rw [Table.get?_put, Table.get?_put] at hk
  split_ifs at hk
  · exact (Option.some.inj hk).symm
  · exact h k entry hk

end KeyedLock

namespace Scheduler

variable {τ σ : Type} (kind : TaskKind τ σ) (s : Scheduler τ σ) (id : TaskId)

/-- The only task, about to take a turn. -/
def alone (task : τ) : Scheduler τ σ :=
  { s with tasks := [(id, task)], ready := [id], resting := [] }

/-- No task at all. -/
def idle : Scheduler τ σ := { s with tasks := [], ready := [], resting := [] }

variable {kind s}

/-- Without a task turns change nothing. -/
theorem turns_idle (n : Nat) : turns kind n s.idle = s.idle := by
  cases n <;> rfl

/-- A number of turns is one turn and then the others. -/
theorem turns_of_turn? {s' : Scheduler τ σ} (n : Nat) (h : s.turn? kind = some s') :
    turns kind (n + 1) s = turns kind n s' := by
  rw [turns, h]

/-- The only task takes the turn. -/
theorem turn?_alone (task : τ) :
    (s.alone id task).turn? kind = some ((s.alone id task).give kind id task []) := by
  simp [turn?, alone]

/-- A task that goes on now is again about to take a turn. -/
theorem turn?_alone_rest {task task' : τ} {shared : σ} {time : Instant}
    (h : kind.turn s.now task s.shared = (.rest time task', shared)) (ht : time ≤ s.now) :
    (s.alone id task).turn? kind = some ({ s with shared }.alone id task') := by
  rw [turn?_alone]
  simp [give, alone, h, ht, setTask]

/-- A task that asks for a free key holds it in its next turn. -/
theorem turn?_alone_acquire {task task' : τ} {shared : σ} {key : Int64}
    (h : kind.turn s.now task s.shared = (.acquire key task', shared))
    (hk : (s.locks.request key id).1 = true) :
    (s.alone id task).turn? kind =
      some ({ s with shared, locks := (s.locks.request key id).2 }.alone id task') := by
  rw [turn?_alone]
  simp [give, alone, h, hk, setTask]

/-- When the only task ends and nobody waits for its key, there is nothing left to do. -/
theorem turn?_alone_finish {task : τ} {shared : σ} {key : Int64}
    (h : kind.turn s.now task s.shared = (.finish (some key), shared))
    (hk : (s.locks.release key).1 = none) :
    (s.alone id task).turn? kind =
      some ({ s with shared, locks := (s.locks.release key).2 }.idle) := by
  rw [turn?_alone]
  simp [give, alone, idle, h, hk]

end Scheduler

namespace Deletion

open Provider (Memory inMemory)

variable {s : Settings Memory} {mode : Provider.BootMode} {w i : Duration}
  {now : Instant} {name : String} {id : ApplianceId} {shared : Shared Memory} {a : Appliance}

/-- A deletion that reads an appliance which is not migrating goes on to read it again. -/
theorem turn_examining (hs : s.provider = inMemory mode w i)
    (hm : shared.provider.unavailable = false) (ha : shared.provider.get? id = some a)
    (hmig : a.isMigrating = false) :
    turn s now ⟨name, id, .examining⟩ shared = (.rest now ⟨name, id, .refreshing⟩, shared) := by
  simp only [turn, advance, hs, inMemory, Memory.answer_read hm, ha]
  simp [afterExamining, hmig]

/-- A deletion that reads an appliance which is up goes on to turn it off. -/
theorem turn_refreshing (hs : s.provider = inMemory mode w i)
    (hm : shared.provider.unavailable = false) (ha : shared.provider.get? id = some a)
    (hup : a.isUp = true) :
    turn s now ⟨name, id, .refreshing⟩ shared = (.rest now ⟨name, id, .stopping⟩, shared) := by
  simp only [turn, advance, hs, inMemory, Memory.answer_read hm, ha]
  simp [afterRefreshing, hup]

/-- A deletion turns its appliance off and waits for it to go down. -/
theorem turn_stopping (hs : s.provider = inMemory mode w i)
    (hm : shared.provider.unavailable = false) (ha : shared.provider.get? id = some a) :
    turn s now ⟨name, id, .stopping⟩ shared =
      (.rest now ⟨name, id, .awaitingDown (s.provider.waitFor .down w now)⟩,
        { shared with provider := shared.provider.turnOff id }) := by
  simp only [turn, advance, hs, inMemory, Memory.answer_stop hm ha]
  simp [afterStopping, hs, inMemory]

/-- A deletion whose appliance is down goes on to delete it. -/
theorem turn_awaitingDown (hs : s.provider = inMemory mode w i) (shared : Shared Memory)
    (hm : shared.provider.unavailable = false) (ha : shared.provider.get? id = some a)
    (hdown : a.isDown = true) :
    turn s now ⟨name, id, .awaitingDown (s.provider.waitFor .down w now)⟩ shared =
      (.rest now ⟨name, id, .deleting⟩, shared) := by
  have look : (s.provider.waitFor .down w now).judge now 0 (.ok true) = .ended (.ok ()) now :=
    if_neg (Nat.not_lt.2 (Nat.le_add_right _ _))
  simp only [turn, advance, lookAgain, Provider.look]
  simp only [hs, inMemory, Memory.answer_read hm, ha, Provider.Condition.seen,
    Provider.Condition.ofReading, hdown] at look ⊢
  rw [look]
  rfl

/-- A deletion deletes its appliance and has ended. -/
theorem turn_deleting (hs : s.provider = inMemory mode w i) (shared : Shared Memory)
    (hm : shared.provider.unavailable = false) (ha : shared.provider.get? id = some a) :
    turn s now ⟨name, id, .deleting⟩ shared =
      (.rest now ⟨name, id, .ended⟩,
        { shared with provider := shared.provider.remove id }) := by
  simp only [turn, advance, hs, inMemory, Memory.answer_delete hm ha]
  rfl

end Deletion

namespace Scheduler

/-- No task is left, and every lock is free. -/
structure AtRest {τ σ : Type} (s : Scheduler τ σ) : Prop where
  tasks : s.tasks = []
  ready : s.ready = []
  resting : s.resting = []
  locks : s.locks.Free

/-- A scheduler at rest is so whatever it shares. -/
theorem AtRest.withShared {τ σ : Type} {s : Scheduler τ σ} (h : s.AtRest) (shared : σ) :
    AtRest { s with shared } := ⟨h.tasks, h.ready, h.resting, h.locks⟩

/-- Where no task is left there is nothing to settle. -/
theorem AtRest.settle {τ σ : Type} {s : Scheduler τ σ} (h : s.AtRest) (kind : TaskKind τ σ) :
    s.settle kind = s := by
  rw [Scheduler.settle, turnsLeft, h.tasks]
  rfl

end Scheduler

namespace Deletions

open Provider (Memory inMemory)
open Scheduler (alone turns turns_of_turn? turn?_alone_rest turn?_alone_acquire
  turn?_alone_finish turns_idle)

variable {s : Deletion.Settings Memory} {mode : Provider.BootMode} {w i : Duration}

/-- The turns of a deletion that nothing disturbs: it asks for the lock, reads twice, turns the
appliance off, sees it down, deletes it and ends. -/
theorem turns_alone (hs : s.provider = inMemory mode w i) (b : Deletions Memory)
    (hl : b.locks.Free) (hm : b.shared.provider.unavailable = false) {task : TaskId}
    {name : String} {id : ApplianceId} {a : Appliance} (ha : b.shared.provider.get? id = some a)
    (hup : a.isUp = true) (hmig : a.isMigrating = false) (n : Nat) :
    (turns (Deletion.kind s) (n + 7) (b.alone task { name, id })).AtRest ∧
      (turns (Deletion.kind s) (n + 7) (b.alone task { name, id })).shared.provider =
        (b.shared.provider.turnOff id).remove id := by
  obtain ⟨granted, released, free⟩ := hl.request_release id task
  rw [turns_of_turn? _ (turn?_alone_acquire _ rfl granted)]
  rw [turns_of_turn? _ (turn?_alone_rest _
    (Deletion.turn_examining hs hm ha hmig) (Nat.le_refl _))]
  rw [turns_of_turn? _ (turn?_alone_rest _
    (Deletion.turn_refreshing hs hm ha hup) (Nat.le_refl _))]
  rw [turns_of_turn? _ (turn?_alone_rest _
    (Deletion.turn_stopping hs hm ha) (Nat.le_refl _))]
  let off : Deletion.Shared Memory :=
    { b.shared with provider := b.shared.provider.turnOff id }
  have present := Memory.get?_turnOff_self ha
  rw [turns_of_turn? _ (turn?_alone_rest _
    (Deletion.turn_awaitingDown hs off hm present rfl) (Nat.le_refl _))]
  rw [turns_of_turn? _ (turn?_alone_rest _
    (Deletion.turn_deleting hs off hm present) (Nat.le_refl _))]
  rw [turns_of_turn? _ (turn?_alone_finish _ rfl released), turns_idle]
  exact ⟨⟨rfl, rfl, rfl, free⟩, rfl⟩

/-- **A deletion that nothing disturbs deletes its appliance** and leaves nothing else behind. -/
theorem settle_start (hs : s.provider = inMemory mode w i) {b : Deletions Memory} (hb : b.AtRest)
    (hm : b.shared.provider.unavailable = false) {name : String} {id : ApplianceId}
    {a : Appliance} (ha : b.shared.provider.get? id = some a) (hup : a.isUp = true)
    (hmig : a.isMigrating = false) :
    ((b.start name id).2.settle (Deletion.kind s)).AtRest ∧
      ((b.start name id).2.settle (Deletion.kind s)).shared.provider =
        (b.shared.provider.turnOff id).remove id := by
  let c : Deletions Memory :=
    { b with
      added := b.added + 1
      shared := { b.shared with pending := b.shared.pending + 1 } }
  have started : (b.start name id).2 = c.alone b.added { name, id } := by
    simp [c, start, Scheduler.add, alone, hb.tasks, hb.ready, hb.resting]
  have fuel : ∃ n, (b.start name id).2.turnsLeft (Deletion.kind s) = n + 7 := by
    have once (timeout : Duration) : 1 ≤ Deletion.looks s timeout := Nat.le_add_left _ _
    have := once s.provider.waitTimeout
    have := once s.startupTimeout
    refine ⟨(b.start name id).2.turnsLeft (Deletion.kind s) - 7, ?_⟩
    rw [started]
    simp only [Scheduler.turnsLeft, alone, Deletion.kind, Deletion.Phase.turnsLeft,
      List.foldr_cons, List.foldr_nil]
    omega
  obtain ⟨n, hn⟩ := fuel
  rw [Scheduler.settle, hn, started]
  exact turns_alone hs c hb.locks hm ha hup hmig n

end Deletions
end ServiceBroker

/-
# Deleting appliances in the background

A deletion turns an appliance off, waits until it is down and deletes it, one call to
the provider after another.  An appliance that is being moved is waited for first; one
that has failed is deleted as it stands; one that is neither up nor failed is left
alone.  A deletion holds the lock of its appliance, so that deletions of one appliance
follow one another and the later ones look again at what the earlier ones left.
Whatever goes wrong ends the deletion.
-/

import ServiceBroker.Concurrency.Scheduler
import ServiceBroker.Provider.Wait

namespace ServiceBroker
namespace Deletion

/-- Where a deletion stands: what it does in its next turn. -/
inductive Phase where
  /-- It asks for the lock of the appliance. -/
  | queued
  /-- It reads the appliance for the first time. -/
  | examining
  /-- It looks whether the appliance has come up after a move. -/
  | awaitingUp (wait : Polling)
  /-- It looks whether the engine runs after a move. -/
  | awaitingRunning (wait : Polling)
  /-- It reads the appliance before it decides. -/
  | refreshing
  /-- It turns the appliance off. -/
  | stopping
  /-- It looks whether the appliance has gone down. -/
  | awaitingDown (wait : Polling)
  /-- It deletes the appliance. -/
  | deleting
  /-- It has nothing left to do. -/
  | ended
deriving DecidableEq, Repr

end Deletion

/-- The deletion of one appliance. -/
structure Deletion where
  /-- The name under which the appliance was found. -/
  name : String
  id : ApplianceId
  phase : Deletion.Phase := .queued
deriving DecidableEq, Repr

namespace Deletion

/-- What deletions share: the provider, and the number of those that have not ended. -/
structure Shared (σ : Type) where
  provider : σ
  pending : Nat := 0

/-- How deletions reach the provider, and how long they wait for an engine to start. -/
structure Settings (σ : Type) where
  provider : Provider σ
  startupTimeout : Duration := Duration.seconds 180

variable {σ : Type}

/-- The call that a phase makes, if it makes one. -/
def Phase.call? (id : ApplianceId) : Phase → Option Provider.Call
  | examining | refreshing => some (.read id)
  | awaitingUp _ => some (Provider.Condition.call id .up)
  | awaitingRunning _ => some (Provider.Condition.call id .running)
  | stopping => some (.stop id)
  | awaitingDown _ => some (Provider.Condition.call id .down)
  | deleting => some (.delete id)
  | queued | ended => none

/-- The phase after the first reading, which is there at a time. -/
def afterExamining (s : Settings σ) (time : Instant) :
    Except ProviderError (Option Appliance) → Phase
  | .ok (some a) =>
    if a.isMigrating then .awaitingUp (s.provider.waitFor .up s.provider.waitTimeout time)
    else .refreshing
  | .ok none | .error _ => .ended

/-- The phase after the reading on which the deletion decides. -/
def afterRefreshing : Except ProviderError (Option Appliance) → Phase
  | .ok (some a) => if a.isUp then .stopping else if a.isFailed then .deleting else .ended
  | .ok none | .error _ => .ended

/-- The phase after the wait for the appliance to come up. -/
def afterUp (s : Settings σ) (time : Instant) : Except ProviderError Unit → Phase
  | .ok _ => .awaitingRunning (s.provider.waitFor .running s.startupTimeout time)
  | .error _ => .ended

/-- The phase after the appliance was told to turn off. -/
def afterStopping (s : Settings σ) (time : Instant) : Except ProviderError Unit → Phase
  | .ok _ => .awaitingDown (s.provider.waitFor .down s.provider.waitTimeout time)
  | .error _ => .ended

/-- The phase after the wait for the appliance to go down. -/
def afterDown : Except ProviderError Unit → Phase
  | .ok _ => .deleting
  | .error _ => .ended

/-- The phase and the time that follow from a look in a wait. -/
def afterLook (again : Polling → Phase) (ended : Instant → Except ProviderError Unit → Phase) :
    Polling.Verdict → Phase × Instant
  | .ended result time => (ended time result, time)
  | .again wait time => (again wait, time)

/-- What follows from a look at a condition. -/
def lookAgain (s : Settings σ) (condition : Provider.Condition) (id : ApplianceId)
    (again : Polling → Phase) (ended : Instant → Except ProviderError Unit → Phase)
    (wait : Polling) (now : Instant) (state : σ) : (Phase × Instant) × σ :=
  let ((delay, seen), state) := s.provider.look condition id now state
  (afterLook again ended (wait.judge now delay seen), state)

/-- The phase that follows a call to the provider and the time at which it does. -/
def advance (s : Settings σ) (id : ApplianceId) (now : Instant) (state : σ) :
    Phase → (Phase × Instant) × σ
  | .queued => ((.examining, now), state)
  | .examining =>
    let (answer, state) := s.provider.answer now (.read id) state
    ((afterExamining s (now + answer.delay) answer.value, now + answer.delay), state)
  | .awaitingUp wait => lookAgain s .up id .awaitingUp (afterUp s) wait now state
  | .awaitingRunning wait =>
    lookAgain s .running id .awaitingRunning (fun _ _ => .refreshing) wait now state
  | .refreshing =>
    let (answer, state) := s.provider.answer now (.read id) state
    ((afterRefreshing answer.value, now + answer.delay), state)
  | .stopping =>
    let (answer, state) := s.provider.answer now (.stop id) state
    ((afterStopping s (now + answer.delay) answer.value, now + answer.delay), state)
  | .awaitingDown wait =>
    lookAgain s .down id .awaitingDown (fun _ => afterDown) wait now state
  | .deleting =>
    let (answer, state) := s.provider.answer now (.delete id) state
    ((.ended, now + answer.delay), state)
  | .ended => ((.ended, now), state)

/-- One turn of a deletion. -/
def turn (s : Settings σ) (now : Instant) (d : Deletion) (shared : Shared σ) :
    Turn Deletion × Shared σ :=
  match d.phase with
  | .queued => (.acquire d.id { d with phase := .examining }, shared)
  | .ended => (.finish (some d.id), { shared with pending := shared.pending - 1 })
  | phase =>
    let ((next, time), provider) := advance s d.id now shared.provider phase
    (.rest time { d with phase := next }, { shared with provider })

/-- A bound for the looks of a whole wait. -/
def looks (s : Settings σ) (timeout : Duration) : Nat :=
  timeout / max s.provider.pollInterval 1 + 1

/-- A bound for the turns from a phase on. -/
def Phase.turnsLeft (s : Settings σ) : Phase → Nat
  | ended => 1
  | deleting => 2
  | awaitingDown wait => wait.looksLeft + 1 + 2
  | stopping => 1 + looks s s.provider.waitTimeout + 2
  | refreshing => 1 + (1 + looks s s.provider.waitTimeout + 2)
  | awaitingRunning wait => wait.looksLeft + 1 + (2 + looks s s.provider.waitTimeout + 2)
  | awaitingUp wait =>
    wait.looksLeft + 1 + (looks s s.startupTimeout + (2 + looks s s.provider.waitTimeout + 2))
  | examining =>
    1 + (looks s s.provider.waitTimeout +
      (looks s s.startupTimeout + (2 + looks s s.provider.waitTimeout + 2)))
  | queued =>
    2 + (looks s s.provider.waitTimeout +
      (looks s s.startupTimeout + (2 + looks s s.provider.waitTimeout + 2)))

/-- Deletions as tasks. -/
def kind (s : Settings σ) : TaskKind Deletion (Shared σ) where
  turn := turn s
  turnsLeft := fun d => d.phase.turnsLeft s

end Deletion

/-- The deletions of a broker, in the background of everything else. -/
abbrev Deletions (σ : Type) := Scheduler Deletion (Deletion.Shared σ)

namespace Deletions

variable {σ : Type}

/-- Starts the deletion of an appliance that was found under a name. -/
def start (name : String) (id : ApplianceId) (s : Deletions σ) : TaskId × Deletions σ :=
  { s with shared := { s.shared with pending := s.shared.pending + 1 } }.add { name, id }

/-- The number of deletions that have not ended. -/
def pending (s : Deletions σ) : Nat := s.shared.pending

/-- The answer to a call to the provider; everything that is due happens until it arrives. -/
def ask (settings : Deletion.Settings σ) (call : Provider.Call) (s : Deletions σ) :
    call.Answer × Deletions σ :=
  let (answer, provider) := settings.provider.answer s.now call s.shared.provider
  let s : Deletions σ := { s with shared := { s.shared with provider } }
  if answer.delay = 0 then (answer.value, s)
  else (answer.value, s.advance (Deletion.kind settings) answer.delay)

end Deletions
end ServiceBroker

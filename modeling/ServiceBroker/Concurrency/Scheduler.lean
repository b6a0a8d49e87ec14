/-
# Tasks on one processor

Tasks take turns on a processor whose clock jumps to the next rest that ends when nobody
can go on.  A task goes on until it rests, waits for a key or ends; those that can go on
do so in the order in which they became able to.  Time passes only in `advance`.
-/

import ServiceBroker.Concurrency.KeyedLock
import ServiceBroker.Time.Duration

namespace ServiceBroker

/-- The number of a task, in the order in which tasks were added. -/
abbrev TaskId := Nat

/-- How a turn of a task ends. -/
inductive Turn (τ : Type) where
  /-- The task goes on at a time. -/
  | rest (time : Instant) (task : τ)
  /-- The task goes on as soon as it holds a key. -/
  | acquire (key : Int64) (task : τ)
  /-- The task has ended and gives up a key that it held. -/
  | finish (held : Option Int64)

/-- A kind of task over a shared state. -/
structure TaskKind (τ σ : Type) where
  /-- One turn, from a time and the shared state. -/
  turn : Instant → τ → σ → Turn τ × σ
  /-- A bound for the turns that a task still takes. -/
  turnsLeft : τ → Nat

/-- Tasks, the time and the state that they share. -/
structure Scheduler (τ σ : Type) where
  now : Instant := 0
  shared : σ
  /-- How many tasks were ever added. -/
  added : Nat := 0
  /-- The tasks that have not ended. -/
  tasks : List (TaskId × τ) := []
  /-- The tasks that can go on, in this order. -/
  ready : List TaskId := []
  /-- The tasks that rest, in the order in which they began to, and until when. -/
  resting : List (Instant × TaskId) := []
  locks : KeyedLock TaskId := {}

namespace Scheduler

/-- Adds a task; its first turn comes after those of all tasks that can go on. -/
def add {τ σ : Type} (s : Scheduler τ σ) (task : τ) : TaskId × Scheduler τ σ :=
  (s.added, { s with
    added := s.added + 1
    tasks := s.tasks ++ [(s.added, task)]
    ready := s.ready ++ [s.added] })

/-- A task has not ended. -/
def isRunning {τ σ : Type} (s : Scheduler τ σ) (id : TaskId) : Bool := (s.tasks.lookup id).isSome

/-- The tasks with one changed. -/
def setTask {τ : Type} (id : TaskId) (task : τ) (tasks : List (TaskId × τ)) : List (TaskId × τ) :=
  tasks.map fun (i, t) => if i = id then (i, task) else (i, t)

/-- One turn of a task that can go on, `rest` being the others that can. -/
def give {τ σ : Type} (kind : TaskKind τ σ) (id : TaskId) (task : τ) (others : List TaskId)
    (s : Scheduler τ σ) : Scheduler τ σ :=
  let (turn, shared) := kind.turn s.now task s.shared
  match turn with
  | .rest time task =>
    let s := { s with shared, tasks := setTask id task s.tasks }
    if time ≤ s.now then { s with ready := id :: others }
    else { s with ready := others, resting := s.resting ++ [(time, id)] }
  | .acquire key task =>
    let (granted, locks) := s.locks.request key id
    let s := { s with shared, locks, tasks := setTask id task s.tasks }
    if granted then { s with ready := id :: others } else { s with ready := others }
  | .finish held =>
    let s := { s with shared, tasks := s.tasks.filter (·.1 ≠ id) }
    match held with
    | none => { s with ready := others }
    | some key =>
      let (next, locks) := s.locks.release key
      { s with locks, ready := others ++ next.toList }

/-- One turn of the first task that can go on; nothing when none can. -/
def turn? {τ σ : Type} (kind : TaskKind τ σ) (s : Scheduler τ σ) : Option (Scheduler τ σ) :=
  match s.ready with
  | [] => none
  | id :: others =>
    match s.tasks.lookup id with
    | none => some { s with ready := others }
    | some task => some (s.give kind id task others)

/-- At most a number of turns. -/
def turns {τ σ : Type} (kind : TaskKind τ σ) : Nat → Scheduler τ σ → Scheduler τ σ
  | 0, s => s
  | n + 1, s =>
    match s.turn? kind with
    | none => s
    | some s => turns kind n s

/-- A bound for the turns of all tasks. -/
def turnsLeft {τ σ : Type} (kind : TaskKind τ σ) (s : Scheduler τ σ) : Nat :=
  s.tasks.foldr (fun (_, task) turns => kind.turnsLeft task + turns) 0

/-- Lets tasks go on until each one rests, waits or has ended. -/
def settle {τ σ : Type} (kind : TaskKind τ σ) (s : Scheduler τ σ) : Scheduler τ σ :=
  turns kind (s.turnsLeft kind) s

/-- The earliest end of a rest. -/
def nextWake? {τ σ : Type} (s : Scheduler τ σ) : Option Instant := (s.resting.map (·.1)).min?

/-- The clock stands at a time, and every rest that is over by then has ended. -/
def wake {τ σ : Type} (time : Instant) (s : Scheduler τ σ) : Scheduler τ σ :=
  let (rested, resting) := s.resting.partition (·.1 ≤ time)
  { s with now := time, resting, ready := s.ready ++ rested.map (·.2) }

/-- Lets at most a number of rests end by a time, settling after each. -/
def wakes {τ σ : Type} (kind : TaskKind τ σ) (until' : Instant) :
    Nat → Scheduler τ σ → Scheduler τ σ
  | 0, s => s
  | n + 1, s =>
    match s.nextWake? with
    | none => s
    | some time =>
      if time ≤ until' then wakes kind until' n ((s.wake time).settle kind) else s

/-- Lets time pass up to some time, with everything that is due by then. -/
def advanceTo {τ σ : Type} (kind : TaskKind τ σ) (time : Instant) (s : Scheduler τ σ) :
    Scheduler τ σ :=
  let s := s.settle kind
  let s := wakes kind time (s.turnsLeft kind) s
  { s with now := max s.now time }

/-- Lets an amount of time pass. -/
def advance {τ σ : Type} (kind : TaskKind τ σ) (time : Duration) (s : Scheduler τ σ) :
    Scheduler τ σ :=
  s.advanceTo kind (s.now + time)

/-- Lets at most a number of rests end until none of the named tasks runs. -/
def wakesUntilEnded {τ σ : Type} (kind : TaskKind τ σ) (ids : List TaskId) :
    Nat → Scheduler τ σ → Scheduler τ σ
  | 0, s => s
  | n + 1, s =>
    if ids.any s.isRunning then
      match s.nextWake? with
      | none => s
      | some time => wakesUntilEnded kind ids n ((s.wake time).settle kind)
    else s

/-- Lets time pass until none of the named tasks runs. -/
def join {τ σ : Type} (kind : TaskKind τ σ) (ids : List TaskId) (s : Scheduler τ σ) :
    Scheduler τ σ :=
  let s := s.settle kind
  wakesUntilEnded kind ids (s.turnsLeft kind) s

/-- Lets time pass until no task rests. -/
def runToEnd {τ σ : Type} (kind : TaskKind τ σ) (s : Scheduler τ σ) : Scheduler τ σ :=
  s.join kind (s.tasks.map (·.1))

end Scheduler
end ServiceBroker

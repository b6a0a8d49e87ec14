/-
# Locks by key

A lock for every key that was ever asked for.  Who asks for a free key holds it at once,
who asks for a held key waits, and a released key goes to the one who has waited
longest.  Keys are never forgotten.
-/

import ServiceBroker.Table

namespace ServiceBroker

/-- One lock: who holds it, and who waits for it in the order of asking. -/
structure LockEntry (ρ : Type) where
  holder : Option ρ
  waiting : List ρ := []
deriving Repr, DecidableEq

namespace LockEntry

variable {ρ : Type}

/-- A lock that nobody holds or waits for. -/
def free : LockEntry ρ := ⟨none, []⟩

/-- A lock is asked for; it is held at once unless another one holds it. -/
def ask (lock : LockEntry ρ) (who : ρ) : Bool × LockEntry ρ :=
  match lock.holder with
  | none => (true, ⟨some who, lock.waiting⟩)
  | some holder => (false, ⟨some holder, lock.waiting ++ [who]⟩)

/-- A lock is given up; the first of those who wait holds it now. -/
def pass (lock : LockEntry ρ) : Option ρ × LockEntry ρ :=
  (lock.waiting.head?, ⟨lock.waiting.head?, lock.waiting.tail⟩)

end LockEntry

/-- The lock of every key asked for so far, by numbers as keys and requests of type `ρ`. -/
structure KeyedLock (ρ : Type) where
  entries : Table Int64 (LockEntry ρ) := .empty

namespace KeyedLock

/-- The lock of a key. -/
def get? {ρ : Type} (locks : KeyedLock ρ) (key : Int64) : Option (LockEntry ρ) :=
  locks.entries.get? key

/-- The number of keys ever asked for. -/
def size {ρ : Type} (locks : KeyedLock ρ) : Nat := locks.entries.size

/-- Who holds a key. -/
def holder? {ρ : Type} (locks : KeyedLock ρ) (key : Int64) : Option ρ :=
  (locks.get? key).bind (·.holder)

/-- Who waits for a key, the first one next. -/
def queue {ρ : Type} (locks : KeyedLock ρ) (key : Int64) : List ρ :=
  ((locks.get? key).map (·.waiting)).getD []

/-- A key is asked for; it is held at once unless another one holds it. -/
def request {ρ : Type} (locks : KeyedLock ρ) (key : Int64) (who : ρ) : Bool × KeyedLock ρ :=
  match locks.get? key with
  | none => (true, ⟨locks.entries.put key ⟨some who, []⟩⟩)
  | some ⟨none, waiting⟩ => (true, ⟨locks.entries.put key ⟨some who, waiting⟩⟩)
  | some ⟨some holder, waiting⟩ =>
    (false, ⟨locks.entries.put key ⟨some holder, waiting ++ [who]⟩⟩)

/-- A key is given up; the first of those who wait holds it now. -/
def release {ρ : Type} (locks : KeyedLock ρ) (key : Int64) : Option ρ × KeyedLock ρ :=
  match locks.get? key with
  | none => (none, locks)
  | some ⟨_, []⟩ => (none, ⟨locks.entries.put key ⟨none, []⟩⟩)
  | some ⟨_, next :: waiting⟩ =>
    (some next, ⟨locks.entries.put key ⟨some next, waiting⟩⟩)

/-- The lock of a key is looked up; a key that is new has a free lock from then on. -/
def know {ρ : Type} (locks : KeyedLock ρ) (key : Int64) : KeyedLock ρ :=
  match locks.get? key with
  | none => ⟨locks.entries.put key .free⟩
  | some _ => locks

/-- What happens to locks. -/
inductive Event (ρ : Type) where
  /-- The lock of a key is looked up. -/
  | found (key : Int64)
  /-- A request asks for a key, and is granted it at once or not. -/
  | asked (key : Int64) (who : ρ) (granted : Bool)
  /-- A request gives a key up, and the next one is granted it. -/
  | released (key : Int64) (who : ρ) (next : Option ρ)

/-- **One step**: a lock is looked up or asked for, or is given up by the one that holds it. -/
inductive Step {ρ : Type} (locks : KeyedLock ρ) : Event ρ → KeyedLock ρ → Prop where
  | find (key : Int64) : Step locks (.found key) (locks.know key)
  | ask (key : Int64) (who : ρ) :
    Step locks (.asked key who (locks.request key who).1) (locks.request key who).2
  | release {key : Int64} {who : ρ} (holds : locks.holder? key = some who) :
    Step locks (.released key who (locks.release key).1) (locks.release key).2

/-- Step after step, with everything that happened, from where no lock was ever looked up. -/
inductive Run {ρ : Type} : List (Event ρ) → KeyedLock ρ → Prop where
  | start : Run [] {}
  | step {events : List (Event ρ)} {e : Event ρ} {locks locks' : KeyedLock ρ}
    (run : Run events locks) (step : Step locks e locks') : Run (events ++ [e]) locks'

end KeyedLock
end ServiceBroker

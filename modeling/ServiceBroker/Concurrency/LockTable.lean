/-
# A table of locks

Who wants a lock looks it up in a table, leaves the table, and asks for the lock that was
found when other requests may have come and gone.  Every lock has a place of its own, and
the lock of a key stays in the same place for good.
-/

import ServiceBroker.Concurrency.KeyedLock

namespace ServiceBroker

/-- Locks in places of their own, and the place of the lock of every key looked up so far. -/
structure LockTable (ρ : Type) where
  places : Table Int64 Nat
  locks : List (LockEntry ρ)
  inside {key : Int64} {place : Nat} : places.get? key = some place → place < locks.length
  /-- No two keys share a lock. -/
  apart {key key' : Int64} {place : Nat} :
    places.get? key = some place → places.get? key' = some place → key = key'

namespace LockTable

variable {ρ : Type} (t : LockTable ρ) (key : Int64)

/-- A table in which no lock was ever looked up. -/
def empty : LockTable ρ where
  places := .empty
  locks := []
  inside := by rintro _ _ ⟨⟩
  apart := by rintro _ _ _ ⟨⟩

/-- The lock in a place. -/
def lock (place : Nat) : LockEntry ρ := t.locks[place]?.getD .free

/-- The lock of every key, wherever its place is. -/
def keyed : KeyedLock ρ := ⟨t.places.map t.lock⟩

/-- A new lock, free and in a place of its own. -/
def make : LockTable ρ where
  places := t.places.put key t.locks.length
  locks := t.locks ++ [.free]
  inside := by
    intro k place there
    rw [Table.get?_put] at there
    rw [List.length_append, List.length_singleton]
    split at there
    · cases there
      exact Nat.lt_succ_self _
    · exact Nat.lt_succ_of_lt (t.inside there)
  apart := by
    intro k k' place there there'
    rw [Table.get?_put] at there there'
    split at there <;> split at there'
    · next is is' => rw [is, is']
    · cases there
      exact absurd (t.inside there') (Nat.lt_irrefl _)
    · cases there'
      exact absurd (t.inside there) (Nat.lt_irrefl _)
    · exact t.apart there there'

/-- The place of the lock of a key is looked up; a key that is new gets a new lock. -/
def lookUp : Nat × LockTable ρ :=
  match t.places.get? key with
  | some place => (place, t)
  | none => (t.locks.length, t.make key)

/-- A lock in its place made into another one. -/
def change (place : Nat) (lock : LockEntry ρ) : LockTable ρ where
  places := t.places
  locks := t.locks.set place lock
  inside there := by
    rw [List.length_set]
    exact t.inside there
  apart := t.apart

/-- The lock in a place is asked for. -/
def ask (place : Nat) (who : ρ) : Bool × LockTable ρ :=
  (((t.lock place).ask who).1, t.change place ((t.lock place).ask who).2)

/-- The lock in a place is given up. -/
def pass (place : Nat) : Option ρ × LockTable ρ :=
  ((t.lock place).pass.1, t.change place (t.lock place).pass.2)

end LockTable
end ServiceBroker

/-
# Locking with guards

Requests find the lock of their key in a table, ask for it later on, and hold a guard
from when they are granted it until they give it up.  The steps of any number of requests
come in any order.
-/

import ServiceBroker.Concurrency.LockTable

namespace ServiceBroker

/-- A request for a key, with the place in which it found the lock. -/
structure LockRequest where
  key : Int64
  place : Nat
deriving Repr, DecidableEq

/-- A lock table with every request so far, by their numbers. -/
structure Locking where
  table : LockTable Nat := .empty
  requests : List LockRequest := []
  /-- Those that have found their lock and have not asked for it yet. -/
  about : List Nat := []
  /-- Those that were granted their lock and have not given it up. -/
  guards : List Nat := []

namespace Locking

/-- The locks by key. -/
def locks (t : Locking) : KeyedLock Nat := t.table.keyed

/-- The key that a request is for. -/
def key? (t : Locking) (who : Nat) : Option Int64 := t.requests[who]?.map (·.key)

/-- A new request finds the lock of its key. -/
def find (t : Locking) (key : Int64) : Locking where
  table := (t.table.lookUp key).2
  requests := t.requests ++ [⟨key, (t.table.lookUp key).1⟩]
  about := t.about ++ [t.requests.length]
  guards := t.guards

/-- A request asks for the lock that it has found. -/
def ask (t : Locking) (who : Nat) (r : LockRequest) : Bool × Locking :=
  ((t.table.ask r.place who).1,
    { table := (t.table.ask r.place who).2
      requests := t.requests
      about := t.about.filter (· ≠ who)
      guards := t.guards ++ (if (t.table.ask r.place who).1 then some who else none).toList })

/-- A guard is given up. -/
def release (t : Locking) (who : Nat) (r : LockRequest) : Option Nat × Locking :=
  ((t.table.pass r.place).1,
    { table := (t.table.pass r.place).2
      requests := t.requests
      about := t.about
      guards := t.guards.filter (· ≠ who) ++ (t.table.pass r.place).1.toList })

/-- **One step**: a new request finds its lock, one that has found it asks for it, or a guard is
given up. -/
inductive Step (t : Locking) : KeyedLock.Event Nat → Locking → Prop where
  | find (key : Int64) : Step t (.found key) (t.find key)
  | ask (who : Nat) (r : LockRequest) (about : who ∈ t.about)
    (requested : t.requests[who]? = some r) :
    Step t (.asked r.key who (t.ask who r).1) (t.ask who r).2
  | release (who : Nat) (r : LockRequest) (guards : who ∈ t.guards)
    (requested : t.requests[who]? = some r) :
    Step t (.released r.key who (t.release who r).1) (t.release who r).2

/-- Step after step, with everything that happened. -/
inductive Run : List (KeyedLock.Event Nat) → Locking → Prop where
  | start : Run [] {}
  | step {events : List (KeyedLock.Event Nat)} {e : KeyedLock.Event Nat} {t t' : Locking}
    (run : Run events t) (step : Step t e t') : Run (events ++ [e]) t'

end Locking
end ServiceBroker

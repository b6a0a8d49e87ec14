/-
# Waiting by looking again

A bounded wait looks at something at once and then after every interval, until it holds,
a look fails or the deadline passes.  `Polling.judge` says what follows from one look:
a look that begins at the deadline still counts, one that takes beyond it is abandoned.

The clock is an ideal one: a pause ends, and a deadline passes, at the very instant for
which it was set.  A timer that goes by ticks does the same as long as all times are
whole ticks; it is late by less than a tick otherwise.
-/

import ServiceBroker.Provider.Error

namespace ServiceBroker

/-- A bounded wait on the way. -/
structure Polling where
  /-- What is waited for, as messages name it. -/
  what : String
  timeout : Duration
  interval : Duration
  deadline : Instant
  /-- A bound for the looks after the next one. -/
  looksLeft : Nat
deriving DecidableEq, Repr

namespace Polling

/-- A wait that begins now.  With an interval the deadline leaves room for `timeout / interval`
looks after the first. -/
def start (what : String) (timeout interval : Duration) (now : Instant) : Polling where
  what
  timeout
  interval
  deadline := now + timeout
  looksLeft := timeout / max interval 1

/-- What follows from a look. -/
inductive Verdict where
  /-- The wait is over. -/
  | ended (result : Except ProviderError Unit) (time : Instant)
  /-- The next look begins at this time. -/
  | again (polling : Polling) (time : Instant)

/-- The wait has run out. -/
def timedOut (p : Polling) : Verdict := .ended (.error (.timeout p.timeout p.what)) p.deadline

/-- What follows from a look that began at some time, took `delay` and saw `seen`. -/
def judge (p : Polling) (began : Instant) (delay : Duration) (seen : Except ProviderError Bool) :
    Verdict :=
  if p.deadline < began + delay then p.timedOut
  else match seen with
    | .error e => .ended (.error e) (began + delay)
    | .ok true => .ended (.ok ()) (began + delay)
    | .ok false =>
      let next := began + delay + p.interval
      match p.looksLeft with
      | 0 => p.timedOut
      | n + 1 => if next ≤ p.deadline then .again { p with looksLeft := n } next else p.timedOut

/-- Every look uses up one of those that are left. -/
theorem looksLeft_of_again {p q : Polling} {began time : Instant} {delay : Duration}
    {seen : Except ProviderError Bool} (h : p.judge began delay seen = .again q time) :
    q.looksLeft < p.looksLeft := by
  unfold judge timedOut at h
  split at h
  · cases h
  · split at h
    · cases h
    · cases h
    · dsimp only at h
      split at h
      · cases h
      · split at h
        · cases h; simp_all
        · cases h

/-- The whole wait, looking at a state that each look may change: the result, the time at which it
is there, and the state. -/
def run {σ : Type} (look : Instant → σ → (Duration × Except ProviderError Bool) × σ) (p : Polling)
    (now : Instant) (state : σ) : (Except ProviderError Unit × Instant) × σ :=
  let ((delay, seen), state) := look now state
  match _h : p.judge now delay seen with
  | .ended result time => ((result, time), state)
  | .again q time => q.run look time state
termination_by p.looksLeft
decreasing_by exact looksLeft_of_again _h

end Polling
end ServiceBroker

/-
# When a wait looks and when it ends

Checks that take any time and see anything: each is due an interval after the one before
has ended (`Polling.due`).  `Polling.run_exact` states which of them a wait makes, when it
begins each of them, and what it ends with at which time.

A wait keeps a count of the looks that it has left.  With an interval the count never
decides: it leaves room for every look that can begin by the deadline (`Polling.Ample`),
so that what follows from a look is settled by the clock (`Polling.Ample.judge_false`).
-/

import ServiceBroker.Provider.Polling

namespace ServiceBroker
namespace Polling

/-- Looks without end: if the next one begins at this time, those that are left reach beyond the
deadline. -/
def Ample (p : Polling) (next : Instant) : Prop :=
  p.deadline < next + (p.looksLeft + 1) * p.interval

/-- What is ample remains so when the next look begins later. -/
theorem Ample.mono {p : Polling} {next later : Instant} (h : p.Ample next) (le : next ≤ later) :
    p.Ample later := by
  unfold Ample at h ⊢
  lia

/-- A wait begins with ample looks. -/
theorem ample_start (what : String) (timeout : Duration) {interval : Duration}
    (positive : 0 < interval) (now : Instant) : (start what timeout interval now).Ample now := by
  have same : max interval 1 = interval := by lia
  have room := Nat.lt_mul_div_succ timeout positive
  show now + timeout < now + (timeout / max interval 1 + 1) * interval
  rw [same, Nat.mul_comm]
  lia

/-- **The clock alone decides what follows from a look in vain**: the next look, an interval after
this one has ended, if that is by the deadline, and otherwise the end of the wait. -/
theorem Ample.judge_false {p : Polling} {began : Instant} (h : p.Ample began)
    (delay : Duration) :
    (began + delay + p.interval ≤ p.deadline ∧
      ∃ looksLeft, looksLeft < p.looksLeft ∧
        ({ p with looksLeft } : Polling).Ample (began + delay + p.interval) ∧
        p.judge began delay (.ok false) =
          .again { p with looksLeft } (began + delay + p.interval)) ∨
      p.deadline < began + delay + p.interval ∧ p.judge began delay (.ok false) = p.timedOut := by
  unfold Ample at h
  by_cases beyond : p.deadline < began + delay
  · right
    constructor
    · lia
    · rw [judge, if_pos beyond]
  · cases left : p.looksLeft with
    | zero =>
      right
      rw [left] at h
      constructor
      · lia
      · rw [judge, if_neg beyond]
        simp only [left]
    | succ n =>
      rw [left, Nat.succ_mul] at h
      by_cases due : began + delay + p.interval ≤ p.deadline
      · left
        refine ⟨due, n, Nat.lt_succ_self n, ?_, ?_⟩
        · show p.deadline < began + delay + p.interval + (n + 1) * p.interval
          lia
        · rw [judge, if_neg beyond]
          simp only [left]
          rw [if_pos due]
      · right
        constructor
        · lia
        · rw [judge, if_neg beyond]
          simp only [left]
          rw [if_neg due]

/-- A look that decides ends the wait if it is over by the deadline. -/
theorem judge_decisive (p : Polling) (began : Instant) (delay : Duration)
    {seen : Except ProviderError Bool} (decisive : seen ≠ .ok false) :
    p.judge began delay seen =
      if began + delay ≤ p.deadline then .ended (seen.map fun _ => ()) (began + delay)
      else p.timedOut := by
  unfold judge
  by_cases inTime : began + delay ≤ p.deadline
  · rw [if_neg (by lia), if_pos inTime]
    match seen, decisive with
    | .error e, _ => rfl
    | .ok true, _ => rfl
    | .ok false, decisive => exact absurd rfl decisive
  · rw [if_pos (by lia), if_neg inTime]

/-- Only the time of the next look and the looks that are left change when a wait goes on, and they
remain ample. -/
theorem Ample.of_again {p q : Polling} {began time : Instant} {delay : Duration}
    {seen : Except ProviderError Bool} (h : p.Ample began)
    (again : p.judge began delay seen = .again q time) :
    time = began + delay + p.interval ∧ time ≤ p.deadline ∧ q.deadline = p.deadline ∧
      q.interval = p.interval ∧ q.Ample time := by
  by_cases vain : seen = .ok false
  · subst vain
    rcases h.judge_false delay with ⟨next, fewer, -, room, judged⟩ | ⟨-, judged⟩
    · cases judged.symm.trans again
      exact ⟨rfl, next, rfl, rfl, room⟩
    · cases judged.symm.trans again
  · rw [judge_decisive _ _ _ vain] at again
    split at again <;> cases again

/-- A wait that a look ends. -/
theorem run_ended {σ : Type} {look : Instant → σ → (Duration × Except ProviderError Bool) × σ}
    {p : Polling} {began time : Instant} {state state' : σ} {delay : Duration}
    {seen : Except ProviderError Bool} {result : Except ProviderError Unit}
    (looked : look began state = ((delay, seen), state'))
    (judged : p.judge began delay seen = .ended result time) :
    p.run look began state = ((result, time), state') := by
  rw [Polling.run, looked]
  simp only
  split
  · rename_i ended
    cases judged.symm.trans ended
    rfl
  · rename_i again
    cases judged.symm.trans again

/-- A wait that goes on after a look. -/
theorem run_again {σ : Type} {look : Instant → σ → (Duration × Except ProviderError Bool) × σ}
    {p q : Polling} {began time : Instant} {state state' : σ} {delay : Duration}
    {seen : Except ProviderError Bool} (looked : look began state = ((delay, seen), state'))
    (judged : p.judge began delay seen = .again q time) :
    p.run look began state = q.run look time state' := by
  rw [Polling.run, looked]
  simp only
  split
  · rename_i ended
    cases judged.symm.trans ended
  · rename_i again
    cases judged.symm.trans again
    rfl

/-- A check: how long it takes, and what it sees. -/
structure Check where
  duration : Duration
  seen : Except ProviderError Bool

/-- Checks in turn: the number of those begun says which one is next, and the time at which it
begins is noted. -/
def inTurn (checks : Nat → Check) (now : Instant) (begun : List Instant) :
    (Duration × Except ProviderError Bool) × List Instant :=
  let check := checks begun.length
  ((check.duration, check.seen), begun ++ [now])

/-- When a check is due: the first one now, every other one an interval after the one before has
ended. -/
def due (interval : Duration) (checks : Nat → Check) (now : Instant) : Nat → Instant
  | 0 => now
  | k + 1 => due interval checks now k + (checks k).duration + interval

/-- The checks before this one see that it does not hold yet. -/
def Vain (checks : Nat → Check) (k : Nat) : Prop := ∀ j < k, (checks j).seen = .ok false

/-- The first check that sees something else than that it does not hold yet. -/
def Decisive (checks : Nat → Check) (k : Nat) : Prop :=
  Vain checks k ∧ (checks k).seen ≠ .ok false

/-- The times at which the first checks are due. -/
def dues (interval : Duration) (checks : Nat → Check) (now : Instant) (n : Nat) : List Instant :=
  (List.range n).map (due interval checks now)

section Following

variable (interval : Duration) (checks : Nat → Check) (now : Instant)

/-- There are as many times as checks. -/
theorem length_dues (n : Nat) : (dues interval checks now n).length = n := by
  simp [dues]

/-- One check more is one time more. -/
theorem dues_succ (n : Nat) : dues interval checks now (n + 1) =
    dues interval checks now n ++ [due interval checks now n] := by
  simp [dues, List.range_succ]

/-- Every check is due at least an interval after the one before. -/
theorem due_add_le (k d : Nat) :
    due interval checks now k + d * interval ≤ due interval checks now (k + d) := by
  induction d with
  | zero => simp
  | succ d ih =>
    have step : due interval checks now (k + (d + 1)) =
        due interval checks now (k + d) + (checks (k + d)).duration + interval := rfl
    rw [step, Nat.succ_mul]
    lia

/-- A later check is not due earlier. -/
theorem due_mono {j k : Nat} (le : j ≤ k) :
    due interval checks now j ≤ due interval checks now k := by
  obtain ⟨d, rfl⟩ := Nat.exists_eq_add_of_le le
  have apart := due_add_le interval checks now j d
  lia

variable {interval} {checks} {now}

/-- Only one check is the first that decides. -/
theorem Decisive.eq_of_vain {j k : Nat} (h : Decisive checks j) (vain : Vain checks k)
    (le : j ≤ k) : j = k := by
  rcases Nat.lt_or_eq_of_le le with lt | eq
  · exact absurd (vain j lt) h.2
  · exact eq

/-- How a wait ends with its last check: the check decides and is over by the deadline, or the
deadline comes before its end and before the next check. -/
inductive Concludes (p : Polling) (checks : Nat → Check) (now : Instant) (last : Nat) :
    Except ProviderError Unit × Instant → Prop where
  | decided (decisive : Decisive checks last)
    (inTime : due p.interval checks now last + (checks last).duration ≤ p.deadline) :
    Concludes p checks now last ((checks last).seen.map fun _ => (),
      due p.interval checks now last + (checks last).duration)
  | timedOut (undecided : Decisive checks last →
      p.deadline < due p.interval checks now last + (checks last).duration)
    (passed : p.deadline < due p.interval checks now (last + 1)) :
    Concludes p checks now last (.error (.timeout p.timeout p.what), p.deadline)

/-- What a wait has done when it is over, the checks up to the last one having been made. -/
structure Followed (p : Polling) (checks : Nat → Check) (now : Instant) (last : Nat)
    (ran : (Except ProviderError Unit × Instant) × List Instant) : Prop where
  vain : Vain checks last
  inTime : due p.interval checks now last ≤ p.deadline
  begun : ran.2 = dues p.interval checks now (last + 1)
  concludes : Concludes p checks now last ran.1

/-- What a wait does is not a matter of the looks it has left. -/
theorem Followed.of_looksLeft {p : Polling} {last looksLeft : Nat}
    {ran : (Except ProviderError Unit × Instant) × List Instant}
    (h : Followed { p with looksLeft } checks now last ran) : Followed p checks now last ran := by
  obtain ⟨vain, inTime, begun, concludes⟩ := h
  refine ⟨vain, inTime, begun, ?_⟩
  generalize ran.1 = result at concludes ⊢
  cases concludes with
  | decided decisive inTime => exact .decided decisive inTime
  | timedOut undecided passed => exact .timedOut undecided passed

/-- **A wait follows its checks**: from a check on that is due by the deadline, it makes those that
are, up to the one that it ends with. -/
theorem follows {p : Polling} {k : Nat} (vain : Vain checks k)
    (inTime : due p.interval checks now k ≤ p.deadline)
    (ample : p.Ample (due p.interval checks now k)) :
    ∃ last, k ≤ last ∧ Followed p checks now last
      (p.run (inTurn checks) (due p.interval checks now k) (dues p.interval checks now k)) := by
  -- the induction is on the looks that are left; that they are ample is what carries it
  induction left : p.looksLeft using Nat.strongRecOn generalizing p k with
  | _ n ih =>
    have look : inTurn checks (due p.interval checks now k) (dues p.interval checks now k) =
        (((checks k).duration, (checks k).seen), dues p.interval checks now (k + 1)) := by
      rw [inTurn, length_dues, dues_succ]
    by_cases decisive : (checks k).seen = .ok false
    · rw [decisive] at look
      rcases ample.judge_false (checks k).duration with
        ⟨next, fewer, less, room, judged⟩ | ⟨passed, judged⟩
      · have vain' : Vain checks (k + 1) := by
          intro j lt
          rcases Nat.lt_or_eq_of_le (Nat.le_of_lt_succ lt) with lt | rfl
          · exact vain j lt
          · exact decisive
        obtain ⟨last, le, followed⟩ :=
          ih fewer (left ▸ less) (p := { p with looksLeft := fewer }) vain' next room rfl
        rw [run_again look judged]
        exact ⟨last, by lia, followed.of_looksLeft⟩
      · rw [run_ended look judged]
        refine ⟨k, Nat.le_refl k, vain, inTime, rfl, .timedOut (fun h => ?_) passed⟩
        exact absurd decisive h.2
    · have judged := p.judge_decisive (due p.interval checks now k) (checks k).duration decisive
      by_cases answered : due p.interval checks now k + (checks k).duration ≤ p.deadline
      · rw [if_pos answered] at judged
        rw [run_ended look judged]
        exact ⟨k, Nat.le_refl k, vain, inTime, rfl, .decided ⟨vain, decisive⟩ answered⟩
      · rw [if_neg answered] at judged
        rw [run_ended look judged]
        refine ⟨k, Nat.le_refl k, vain, inTime, rfl, .timedOut (fun _ => by lia) ?_⟩
        show p.deadline < due p.interval checks now k + (checks k).duration + p.interval
        lia

namespace Followed

variable {p : Polling} {last : Nat} {ran : (Except ProviderError Unit × Instant) × List Instant}

/-- The checks made are those before which nothing else was seen and that are due in time. -/
theorem le_last_iff (h : Followed p checks now last ran) (k : Nat) :
    k ≤ last ↔ Vain checks k ∧ due p.interval checks now k ≤ p.deadline := by
  constructor
  · intro le
    refine ⟨fun j lt => h.vain j (by lia), ?_⟩
    exact Nat.le_trans (due_mono _ _ _ le) h.inTime
  · rintro ⟨vain, inTime⟩
    rcases Nat.lt_or_ge last k with beyond | le
    · have concludes := h.concludes
      generalize ran.1 = result at concludes
      cases concludes with
      | decided decisive _ => exact absurd (vain last beyond) decisive.2
      | timedOut _ passed =>
        have later := due_mono p.interval checks now beyond
        exact absurd inTime (by lia)
    · exact le

/-- A check that decides in time is the last one, and the wait ends with it. -/
theorem eq_of_decisive (h : Followed p checks now last ran) {k : Nat}
    (decisive : Decisive checks k)
    (inTime : due p.interval checks now k + (checks k).duration ≤ p.deadline) :
    ran.1 = ((checks k).seen.map fun _ => (),
      due p.interval checks now k + (checks k).duration) := by
  have le : k ≤ last := (h.le_last_iff k).2 ⟨decisive.1, by lia⟩
  obtain rfl := decisive.eq_of_vain h.vain le
  have concludes := h.concludes
  generalize ran.1 = result at concludes ⊢
  cases concludes with
  | decided _ _ => rfl
  | timedOut undecided _ => exact absurd (undecided decisive) (by lia)

/-- If no check decides in time, the wait runs out. -/
theorem eq_of_undecided (h : Followed p checks now last ran)
    (undecided : ∀ k, Decisive checks k →
      p.deadline < due p.interval checks now k + (checks k).duration) :
    ran.1 = (.error (.timeout p.timeout p.what), p.deadline) := by
  have concludes := h.concludes
  generalize ran.1 = result at concludes ⊢
  cases concludes with
  | decided decisive inTime => exact absurd (undecided last decisive) (by lia)
  | timedOut _ _ => rfl

/-- As many intervals as there were checks after the first fit before the deadline. -/
theorem mul_le (h : Followed p checks now last ran) : now + last * p.interval ≤ p.deadline := by
  have apart := due_add_le p.interval checks now 0 last
  have first : due p.interval checks now 0 = now := rfl
  have inTime := h.inTime
  rw [Nat.zero_add, first] at apart
  lia

end Followed

end Following

/-- **The exact timing of a wait.**  It begins its checks when they are due, and just those before
which all others have seen that it does not hold and that are due by the deadline.  If the first
check that sees something else is over by the deadline, the wait ends with it; otherwise it runs
out, at the deadline.  So there are at most `timeout / interval + 1` checks, and one check if there
is no time at all. -/
theorem run_exact (what : String) (timeout : Duration) {interval : Duration}
    (positive : 0 < interval) (now : Instant) (checks : Nat → Check) :
    let ran := (start what timeout interval now).run (inTurn checks) now []
    ran.2 = (List.range ran.2.length).map (due interval checks now) ∧
      (∀ k, k < ran.2.length ↔ Vain checks k ∧ due interval checks now k ≤ now + timeout) ∧
      (∀ k, Decisive checks k →
        due interval checks now k + (checks k).duration ≤ now + timeout →
          ran.1 = ((checks k).seen.map fun _ => (),
            due interval checks now k + (checks k).duration)) ∧
      ((∀ k, Decisive checks k →
        now + timeout < due interval checks now k + (checks k).duration) →
          ran.1 = (.error (.timeout timeout what), now + timeout)) ∧
      ran.2.length ≤ timeout / interval + 1 ∧ (timeout = 0 → ran.2.length = 1) := by
  intro ran
  have nothing : Vain checks 0 := fun j lt => absurd lt (Nat.not_lt_zero j)
  obtain ⟨last, -, followed⟩ := follows (p := start what timeout interval now) nothing
    (Nat.le_add_right now timeout) (ample_start what timeout positive now)
  have begun : ran.2 = dues interval checks now (last + 1) := followed.begun
  have made : ran.2.length = last + 1 := by rw [begun, length_dues]
  have fit : now + last * interval ≤ now + timeout := followed.mul_le
  refine ⟨?_, fun k => ?_, fun k => followed.eq_of_decisive, followed.eq_of_undecided, ?_, ?_⟩
  · rw [made]
    exact begun
  · rw [made, Nat.lt_succ_iff]
    exact followed.le_last_iff k
  · rw [made, Nat.add_le_add_iff_right, Nat.le_div_iff_mul_le positive]
    lia
  · intro none
    rw [none] at fit
    have last_zero : last = 0 := by
      rcases Nat.eq_zero_or_pos last with zero | more
      · exact zero
      · have := Nat.mul_pos more positive
        lia
    rw [made, last_zero]

/-- Three checks in vain, the last of them slow, and one that holds. -/
def slowly (k : Nat) : Check := ⟨if k = 2 then 10 else 0, .ok (k = 3)⟩

/-- What is seen at the very deadline counts. -/
theorem found_at_the_deadline :
    0 < 10 ∧ ((start "up" 40 10 0).run (inTurn slowly) 0 []).1 = (.ok (), 40) := by
  have decisive : Decisive slowly 3 := by
    constructor
    · intro j lt
      show Except.ok (decide (j = 3)) = .ok false
      rw [decide_eq_false (by lia)]
    · intro same
      cases same
  exact ⟨by decide, (run_exact "up" 40 (by decide) 0 slowly).2.2.1 3 decisive (by decide)⟩

end Polling
end ServiceBroker

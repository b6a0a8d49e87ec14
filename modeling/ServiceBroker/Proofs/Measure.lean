/-
# How long a deletion can go on

A deletion is measured by the clock (`Deletion.Phase.turnsFrom`): the next look of a wait
begins an interval later and by the deadline, so fewer intervals are left before the
deadline than before this one.  Every turn lessens that number
(`Deletion.lessens_advance`).
-/

import ServiceBroker.Deletion
import ServiceBroker.Proofs.Timing

namespace ServiceBroker

namespace Polling

/-- A bound for the looks of a wait, the next of them at a time or later. -/
def looksFrom (p : Polling) (next : Instant) : Nat := (p.deadline - next) / p.interval + 1

/-- The later the next look is, the fewer are left. -/
theorem looksFrom_le {p : Polling} {next later : Instant} (le : next ≤ later) :
    p.looksFrom later ≤ p.looksFrom next := by
  have less : p.deadline - later ≤ p.deadline - next := by lia
  exact Nat.succ_le_succ (Nat.div_le_div_right less)

/-- Every look that is followed by another one leaves fewer. -/
theorem Ample.looksFrom_lt {p q : Polling} {began time : Instant} {delay : Duration}
    {seen : Except ProviderError Bool} (h : p.Ample began) (positive : 0 < p.interval)
    (again : p.judge began delay seen = .again q time) :
    q.looksFrom time < p.looksFrom began := by
  obtain ⟨later, inTime, deadline, interval, -⟩ := h.of_again again
  have less : p.deadline - time + p.interval ≤ p.deadline - began := by lia
  have fewer := Nat.div_le_div_right (c := p.interval) less
  rw [Nat.add_div_right _ positive] at fewer
  rw [looksFrom, looksFrom, deadline, interval]
  lia

end Polling

namespace Deletion

variable {σ : Type} {s : Settings σ}

/-- The wait that a phase is in. -/
def Phase.wait? : Phase → Option Polling
  | awaitingUp wait | awaitingRunning wait | awaitingDown wait => some wait
  | _ => none

/-- A bound for the turns from a phase on, the next of them at a time or later. -/
def Phase.turnsFrom (s : Settings σ) (next : Instant) : Phase → Nat
  | awaitingDown wait => wait.looksFrom next + 2
  | awaitingRunning wait =>
    wait.looksFrom next + (2 + looks s s.provider.waitTimeout + 2)
  | awaitingUp wait =>
    wait.looksFrom next + (looks s s.startupTimeout + (2 + looks s s.provider.waitTimeout + 2))
  | phase => phase.turnsLeft s

/-- A bound for the turns of a deletion. -/
def turnLimit (s : Settings σ) : Nat := Phase.queued.turnsLeft s

/-- The looks of a phase that waits are an interval apart and more than enough, the next of them
being at a time. -/
def Phase.Paced (s : Settings σ) (next : Instant) (phase : Phase) : Prop :=
  ∀ wait ∈ phase.wait?, wait.interval = s.provider.pollInterval ∧ wait.Ample next

/-- What is paced from a time on is paced from any later time on. -/
theorem Phase.Paced.mono {phase : Phase} {next later : Instant} (h : phase.Paced s next)
    (le : next ≤ later) : phase.Paced s later := by
  intro wait waits
  obtain ⟨interval, ample⟩ := h wait waits
  exact ⟨interval, ample.mono le⟩

/-- The later the next turn is, the fewer are left. -/
theorem Phase.turnsFrom_le {phase : Phase} {next later : Instant} (le : next ≤ later) :
    phase.turnsFrom s later ≤ phase.turnsFrom s next := by
  cases phase with
  | awaitingUp wait | awaitingRunning wait | awaitingDown wait =>
    have fewer := wait.looksFrom_le le
    simp only [Phase.turnsFrom]
    lia
  | _ => exact Nat.le_refl _

/-- In every phase there is a turn to take. -/
theorem Phase.turnsFrom_pos (phase : Phase) (next : Instant) : 0 < phase.turnsFrom s next := by
  cases phase <;> simp only [Phase.turnsFrom, Phase.turnsLeft] <;> lia

/-- A wait that begins now has the looks that its timeout leaves room for. -/
theorem looksFrom_waitFor (positive : 0 < s.provider.pollInterval)
    (condition : Provider.Condition) (timeout : Duration) (now : Instant) :
    (s.provider.waitFor condition timeout now).looksFrom now = looks s timeout := by
  have interval : max s.provider.pollInterval 1 = s.provider.pollInterval := by lia
  show (now + timeout - now) / s.provider.pollInterval + 1 =
    timeout / max s.provider.pollInterval 1 + 1
  rw [interval, Nat.add_sub_cancel_left]

/-- What a turn leads to is paced, and leaves fewer turns than these. -/
structure Lessens (s : Settings σ) (turns : Nat) (next : Phase × Instant) : Prop where
  paced : next.1.Paced s next.2
  less : next.1.turnsFrom s next.2 < turns

/-- Where there is no wait there is nothing to pace. -/
theorem lessens_of_wait? {turns : Nat} {phase : Phase} {time : Instant} (none : phase.wait? = none)
    (less : phase.turnsFrom s time < turns) : Lessens s turns (phase, time) where
  paced := by
    intro wait waits
    rw [none] at waits
    cases waits
  less := less

/-- Unless a deletion has ended there is a turn to take before the last one. -/
theorem Phase.one_lt_turnsFrom {phase : Phase} (unended : phase ≠ .ended) (next : Instant) :
    1 < phase.turnsFrom s next := by
  cases phase with
  | ended => exact absurd rfl unended
  | _ =>
    simp only [Phase.turnsFrom, Phase.turnsLeft]
    lia

/-- A deletion that ends lessens what any other phase leaves. -/
theorem lessens_ended {phase : Phase} (unended : phase ≠ .ended) {now time : Instant} :
    Lessens s (phase.turnsFrom s now) (.ended, time) :=
  lessens_of_wait? rfl (Phase.one_lt_turnsFrom unended now)

/-- A wait that begins has the looks that its timeout leaves room for. -/
theorem lessens_waitFor (positive : 0 < s.provider.pollInterval) (condition : Provider.Condition)
    (timeout : Duration) {begin_wait : Polling → Phase} {rest turns : Nat}
    (waits : ∀ q, (begin_wait q).wait? = some q)
    (after : ∀ q time, (begin_wait q).turnsFrom s time = q.looksFrom time + rest)
    (more : looks s timeout + rest < turns) (time : Instant) :
    Lessens s turns (begin_wait (s.provider.waitFor condition timeout time), time) where
  paced := by
    intro wait is
    rw [waits, Option.mem_some_iff] at is
    subst is
    exact ⟨rfl, Polling.ample_start _ _ positive _⟩
  less := by
    show (begin_wait _).turnsFrom s time < turns
    rw [after, looksFrom_waitFor positive]
    exact more

/-- A look in a wait leaves fewer turns: either it leaves fewer looks, or the wait is over. -/
theorem lessens_afterLook (positive : 0 < s.provider.pollInterval) {wait : Polling} {now : Instant}
    (interval : wait.interval = s.provider.pollInterval) (ample : wait.Ample now)
    {again : Polling → Phase} {ended : Instant → Except ProviderError Unit → Phase} {rest : Nat}
    (waits : ∀ q, (again q).wait? = some q)
    (turns : ∀ q time, (again q).turnsFrom s time = q.looksFrom time + rest)
    (finish : ∀ time result, Lessens s (rest + 1) (ended time result, time))
    (delay : Duration) (seen : Except ProviderError Bool) :
    Lessens s (wait.looksFrom now + rest) (afterLook again ended (wait.judge now delay seen)) := by
  have some_left : 1 ≤ wait.looksFrom now := Nat.le_add_left _ _
  cases judged : wait.judge now delay seen with
  | ended result time =>
    obtain ⟨paced, less⟩ := finish time result
    exact ⟨paced, Nat.lt_of_lt_of_le less (by lia)⟩
  | again q time =>
    obtain ⟨-, -, -, same, room⟩ := ample.of_again judged
    have fewer := ample.looksFrom_lt (interval ▸ positive) judged
    constructor
    · intro wait' is
      rw [afterLook, waits, Option.mem_some_iff] at is
      subst is
      exact ⟨same.trans interval, room⟩
    · show (again q).turnsFrom s time < _
      rw [turns]
      lia

/-- **Every turn leaves fewer turns**, whatever the provider answers and after whatever time. -/
theorem lessens_advance (positive : 0 < s.provider.pollInterval) (id : ApplianceId)
    {now : Instant} (state : σ) {phase : Phase} (paced : phase.Paced s now)
    (unended : phase ≠ .ended) :
    Lessens s (phase.turnsFrom s now) (advance s id now state phase).1 := by
  cases phase with
  | queued =>
    refine lessens_of_wait? rfl ?_
    simp only [Phase.turnsFrom, Phase.turnsLeft]
    lia
  | examining =>
    simp only [advance]
    generalize (s.provider.answer now (.read id) state).1 = answer
    obtain ⟨delay, e | _ | a⟩ := answer
    · exact lessens_ended unended
    · exact lessens_ended unended
    · simp only [afterExamining]
      split
      · refine lessens_waitFor positive _ _ (fun _ => rfl) (fun _ _ => rfl) ?_ _
        simp only [Phase.turnsFrom, Phase.turnsLeft]
        lia
      · refine lessens_of_wait? rfl ?_
        simp only [Phase.turnsFrom, Phase.turnsLeft]
        lia
  | awaitingUp wait =>
    obtain ⟨interval, ample⟩ := paced wait rfl
    refine lessens_afterLook positive interval ample (fun _ => rfl) (fun _ _ => rfl) ?_ _ _
    rintro time (e | done)
    · exact lessens_of_wait? rfl (by simp only [afterUp, Phase.turnsFrom, Phase.turnsLeft]; lia)
    · exact lessens_waitFor positive _ _ (fun _ => rfl) (fun _ _ => rfl) (by lia) _
  | awaitingRunning wait =>
    obtain ⟨interval, ample⟩ := paced wait rfl
    refine lessens_afterLook positive interval ample (fun _ => rfl) (fun _ _ => rfl) ?_ _ _
    intro time result
    refine lessens_of_wait? rfl ?_
    simp only [Phase.turnsFrom, Phase.turnsLeft]
    lia
  | refreshing =>
    simp only [advance]
    generalize (s.provider.answer now (.read id) state).1 = answer
    obtain ⟨delay, e | _ | a⟩ := answer
    · exact lessens_ended unended
    · exact lessens_ended unended
    · simp only [afterRefreshing]
      split
      · refine lessens_of_wait? rfl ?_
        simp only [Phase.turnsFrom, Phase.turnsLeft]
        lia
      · split
        · refine lessens_of_wait? rfl ?_
          simp only [Phase.turnsFrom, Phase.turnsLeft]
          lia
        · exact lessens_ended unended
  | stopping =>
    simp only [advance]
    generalize (s.provider.answer now (.stop id) state).1 = answer
    obtain ⟨delay, e | done⟩ := answer
    · exact lessens_ended unended
    · refine lessens_waitFor positive _ _ (fun _ => rfl) (fun _ _ => rfl) ?_ _
      simp only [Phase.turnsFrom, Phase.turnsLeft]
      lia
  | awaitingDown wait =>
    obtain ⟨interval, ample⟩ := paced wait rfl
    refine lessens_afterLook positive interval ample (fun _ => rfl) (fun _ _ => rfl) ?_ _ _
    rintro time (e | done)
    · exact lessens_of_wait? rfl (by simp only [afterDown, Phase.turnsFrom, Phase.turnsLeft]; lia)
    · exact lessens_of_wait? rfl (by simp only [afterDown, Phase.turnsFrom, Phase.turnsLeft]; lia)
  | deleting => exact lessens_ended unended
  | ended => exact absurd rfl unended

end Deletion

end ServiceBroker

/-
# Every deletion ends and frees its lock

Deletions that are started at any times and take their turns in any order, over a provider
that answers anything after any time and changes of itself as well (`Deletions.Run`).
`Deletions.all_end` states that they take so many turns and rests at most, that nothing is
left of them when none can go on, and that they get there.  Each deletion has at most the
turns left that its measure says (`Deletions.Limited`).
-/

import ServiceBroker.Proofs.Counted
import ServiceBroker.Proofs.Measure
import ServiceBroker.Proofs.Settling
import Mathlib.Algebra.Order.BigOperators.Group.Finset

namespace ServiceBroker

namespace Scheduler

variable {τ σ : Type}

/-- A turn takes no time. -/
theorem now_give (kind : TaskKind τ σ) (s : Scheduler τ σ) (id : TaskId) (task : τ)
    (others : List TaskId) : (s.give kind id task others).now = s.now := by
  unfold Scheduler.give
  rcases kind.turn s.now task s.shared with ⟨_ | _ | _ | _, shared⟩ <;>
    dsimp only <;> split_ifs <;> rfl

/-- After a turn the others rest as before, and the task rests until a later time if it has to. -/
theorem resting_give (kind : TaskKind τ σ) (s : Scheduler τ σ) (id : TaskId) (task : τ)
    (others : List TaskId) :
    (s.give kind id task others).resting =
      match (kind.turn s.now task s.shared).1 with
      | .rest time _ => if time ≤ s.now then s.resting else s.resting ++ [(time, id)]
      | _ => s.resting := by
  unfold Scheduler.give
  rcases kind.turn s.now task s.shared with ⟨_ | _ | _ | _, shared⟩ <;>
    dsimp only <;> split_ifs <;> rfl

/-- A turn adds one rest at most. -/
theorem length_resting_give_le (kind : TaskKind τ σ) (s : Scheduler τ σ) (id : TaskId) (task : τ)
    (others : List TaskId) :
    (s.give kind id task others).resting.length ≤ s.resting.length + 1 := by
  rw [resting_give]
  split
  · split
    · exact Nat.le_succ _
    · exact Nat.le_of_eq List.length_append
  · exact Nat.le_succ _

/-- The others rest as before. -/
theorem mem_resting_give_of_ne (kind : TaskKind τ σ) (s : Scheduler τ σ) {id other : TaskId}
    (task : τ) (others : List TaskId) (ne : other ≠ id) (time : Instant) :
    (time, other) ∈ (s.give kind id task others).resting ↔ (time, other) ∈ s.resting := by
  rw [resting_give]
  split
  · split
    · rfl
    · simp [ne]
  · rfl

/-- A task that is to rest does so until its time, unless that has come. -/
theorem rests_until (kind : TaskKind τ σ) (s : Scheduler τ σ) {id : TaskId} {task task' : τ}
    (others : List TaskId) (awake : ∀ t, (t, id) ∉ s.resting) {time : Instant}
    (turn : (kind.turn s.now task s.shared).1 = .rest time task') :
    (∀ t, (t, id) ∈ (s.give kind id task others).resting → time ≤ t) ∧
      ((∀ t, (t, id) ∉ (s.give kind id task others).resting) → time ≤ s.now) := by
  rw [resting_give, turn]
  dsimp only
  by_cases due : time ≤ s.now
  · rw [if_pos due]
    exact ⟨fun t rests => absurd rests (awake t), fun _ => due⟩
  · rw [if_neg due]
    constructor
    · intro t rests
      rcases List.mem_append.1 rests with rests | rests
      · exact absurd rests (awake t)
      · rw [(Prod.mk.inj (List.mem_singleton.1 rests)).1]
    · intro none
      exact absurd (List.mem_append_right _ (List.mem_singleton.2 rfl)) (none time)

/-- **Where no task can go on and none rests, none is left**, and every lock is free: who waits for
a lock waits for a task that can go on or rests. -/
theorem Orderly.atRest {stage : τ → Stage} {s : Scheduler τ σ} (h : Orderly stage s)
    (ready : s.ready = []) (resting : s.resting = []) : s.AtRest := by
  have idle (id : TaskId) : id ∉ s.active := by
    rw [active, ready, resting]
    exact List.not_mem_nil
  have unheld (key : Int64) : s.locks.holder? key = none := by
    cases held : s.locks.holder? key with
    | none => rfl
    | some id => exact absurd (h.held key id held).1 (idle id)
  have unwaited (key : Int64) : s.locks.queue key = [] := h.served key (unheld key)
  refine ⟨?_, ready, resting, ?_⟩
  · cases tasks : s.tasks with
    | nil => rfl
    | cons first rest =>
      obtain ⟨id, task⟩ := first
      have there : taskIn s.tasks id = some task := by
        rw [taskIn, tasks, List.lookup_cons_self]
      rcases h.placed id task there with works | ⟨key, waits⟩
      · exact absurd works (idle id)
      · rw [unwaited key] at waits
        cases waits
  · rintro key ⟨holder, waiting⟩ found
    have holds := unheld key
    have waits := unwaited key
    rw [KeyedLock.holder?, found] at holds
    rw [KeyedLock.queue, found] at waits
    cases holds
    cases waits
    rfl

end Scheduler

namespace Deletions

open Deletion (Settings Phase turnLimit)
open Scheduler (taskIn Orderly)
open Traffic (Counted)

variable {σ : Type}

/-- What happens to deletions in the background. -/
inductive Event where
  /-- One more is started. -/
  | started
  /-- One that can go on, as it was before, takes a turn at a time. -/
  | turned (task : TaskId) (now : Instant) (deletion : Deletion)
  /-- A rest that is over ends. -/
  | woken (task : TaskId)
  /-- Time passes. -/
  | waited
  /-- The provider changes of itself. -/
  | changed

/-- Who takes a turn. -/
def Event.turned? : Event → Option TaskId
  | turned task _ _ => some task
  | _ => none

/-- Whose rest ends. -/
def Event.woken? : Event → Option TaskId
  | woken task => some task
  | _ => none

/-- Whether a deletion is started. -/
def Event.isStart : Event → Bool
  | started => true
  | _ => false

/-- Those who took turns, each as often as they did. -/
def turns (events : List Event) : List TaskId := events.filterMap Event.turned?

/-- Those whose rests ended, each as often as they did. -/
def wakes (events : List Event) : List TaskId := events.filterMap Event.woken?

/-- How many deletions were started. -/
def starts (events : List Event) : Nat := events.countP Event.isStart

/-- **One step**: a deletion is started, or takes a turn, or has rested, time passes, or the
provider changes. -/
inductive Step (s : Settings σ) (b : Deletions σ) : Event → Deletions σ → Prop where
  | start (name : String) (id : ApplianceId) : Step s b .started (b.start name id).2
  | turn {task : TaskId} {d : Deletion} (ready : task ∈ b.ready)
    (running : taskIn b.tasks task = some d) :
    Step s b (.turned task b.now d) (b.give (Deletion.kind s) task d (b.ready.erase task))
  | wake {time : Instant} {task : TaskId} (resting : (time, task) ∈ b.resting)
    (elapsed : time ≤ b.now) :
    Step s b (.woken task)
      { b with resting := b.resting.erase (time, task), ready := b.ready ++ [task] }
  | wait {now : Instant} (later : b.now ≤ now) : Step s b .waited { b with now }
  | change (provider : σ) :
    Step s b .changed { b with shared := { b.shared with provider } }

/-- Step after step, with everything that happened. -/
inductive Run (s : Settings σ) (b : Deletions σ) : List Event → Deletions σ → Prop where
  | start : Run s b [] b
  | step {events : List Event} {e : Event} {b₁ b₂ : Deletions σ} (run : Run s b events b₁)
    (step : Step s b₁ e b₂) : Run s b (events ++ [e]) b₂

/-- No deletion yet. -/
def fresh (provider : σ) : Deletions σ := { shared := { provider } }

/-- How far a deletion has come, its next turn being at a time or later: the turns that it took and
those that it may still take are within the limit. -/
structure Within (s : Settings σ) (events : List Event) (b : Deletions σ) (task : TaskId)
    (d : Deletion) (next : Instant) : Prop where
  rests : ∀ time, (time, task) ∈ b.resting → next ≤ time
  goes : (∀ time, (time, task) ∉ b.resting) → next ≤ b.now
  paced : d.phase.Paced s next
  limited : (turns events).count task + d.phase.turnsFrom s next ≤ turnLimit s

/-- **The turns are limited**: the locks are where the deletions are, those that have not ended are
counted, and each of them is within the limit. -/
structure Limited (s : Settings σ) (events : List Event) (b : Deletions σ) : Prop where
  orderly : Orderly Deletion.stage b
  counted : Counted b
  numbered : starts events = b.added
  known : ∀ task ∈ turns events, task < b.added
  limited : ∀ task, (turns events).count task ≤ turnLimit s
  within : ∀ task d, taskIn b.tasks task = some d → ∃ next, Within s events b task d next
  rested : (wakes events).length + b.resting.length ≤ (turns events).length
  ample : ∀ task now d, .turned task now d ∈ events → ∀ wait ∈ d.phase.wait?, wait.Ample now

section

variable {s : Settings σ} {events : List Event} {b b' : Deletions σ}

/-- Before the first deletion no turn was taken. -/
theorem limited_fresh (s : Settings σ) (provider : σ) : Limited s [] (fresh provider) where
  orderly := Scheduler.orderly_start _
  counted := ⟨List.nodup_nil, rfl⟩
  numbered := rfl
  known := by rintro _ ⟨⟩
  limited := by
    intro task
    exact Nat.zero_le _
  within := by rintro _ _ ⟨⟩
  rested := Nat.le_refl _
  ample := by rintro _ _ _ ⟨⟩

/-- Who can go on does not rest. -/
theorem not_resting (h : Orderly Deletion.stage b) {task : TaskId} (ready : task ∈ b.ready)
    (time : Instant) : (time, task) ∉ b.resting := by
  intro rests
  have nodup := h.nodup
  rw [Scheduler.active, List.nodup_append] at nodup
  exact nodup.2.2 task ready task (List.mem_map_of_mem rests) rfl

/-- What a turn of a deletion is. -/
theorem turn_cases (s : Settings σ) (now : Instant) (d : Deletion) (shared : Deletion.Shared σ) :
    (d.phase = .queued ∧
      ((Deletion.kind s).turn now d shared).1 = .acquire d.id { d with phase := .examining }) ∨
    (d.phase = .ended ∧ ((Deletion.kind s).turn now d shared).1 = .finish (some d.id)) ∨
    (d.phase ≠ .ended ∧ ∃ next, next = (Deletion.advance s d.id now shared.provider d.phase).1 ∧
      ((Deletion.kind s).turn now d shared).1 = .rest next.2 { d with phase := next.1 }) := by
  obtain ⟨name, id, phase⟩ := d
  cases phase with
  | queued => exact .inl ⟨rfl, rfl⟩
  | ended => exact .inr (.inl ⟨rfl, rfl⟩)
  | _ => exact .inr (.inr ⟨nofun, _, rfl, rfl⟩)

/-- A deletion is as far as before when it rests as before and the clock goes on. -/
theorem Within.still {events' : List Event} {task : TaskId} {d : Deletion} {next : Instant}
    (h : Within s events b task d next)
    (turned : (turns events').count task = (turns events).count task)
    (rests : ∀ time, (time, task) ∈ b'.resting ↔ (time, task) ∈ b.resting)
    (later : b.now ≤ b'.now) : Within s events' b' task d next where
  rests time resting := h.rests time ((rests time).1 resting)
  goes awake := Nat.le_trans (h.goes fun time resting => awake time ((rests time).2 resting)) later
  paced := h.paced
  limited := turned ▸ h.limited

/-- A step adds who takes a turn in it. -/
theorem turns_snoc (e : Event) : turns (events ++ [e]) = turns events ++ e.turned?.toList :=
  filterMap_snoc ..

/-- A step adds whose rest ends in it. -/
theorem wakes_snoc (e : Event) : wakes (events ++ [e]) = wakes events ++ e.woken?.toList :=
  filterMap_snoc ..

/-- A step adds the deletion that it starts. -/
theorem starts_snoc (e : Event) : starts (events ++ [e]) = starts events + e.isStart.toNat :=
  countP_snoc ..

section Turning

variable {task : TaskId} {d : Deletion}

/-- A deletion that can go on is within the limit now. -/
theorem Limited.within_now (h : Limited s events b) (ready : task ∈ b.ready)
    (running : taskIn b.tasks task = some d) :
    d.phase.Paced s b.now ∧
      (turns events).count task + d.phase.turnsFrom s b.now ≤ turnLimit s := by
  obtain ⟨next, within⟩ := h.within task d running
  have due : next ≤ b.now := within.goes (not_resting h.orderly ready)
  have fewer := d.phase.turnsFrom_le (s := s) due
  have limited := within.limited
  exact ⟨within.paced.mono due, by lia⟩

/-- After its turn a deletion is within the limit again. -/
theorem Limited.within_turned (h : Limited s events b) (positive : 0 < s.provider.pollInterval)
    (ready : task ∈ b.ready) (running : taskIn b.tasks task = some d) {d' : Deletion}
    (after : taskIn (b.give (Deletion.kind s) task d (b.ready.erase task)).tasks task = some d') :
    ∃ next, Within s (events ++ [.turned task b.now d])
      (b.give (Deletion.kind s) task d (b.ready.erase task)) task d' next := by
  obtain ⟨paced, limited⟩ := h.within_now ready running
  have awake := not_resting h.orderly ready
  have resting := Scheduler.resting_give (Deletion.kind s) b task d (b.ready.erase task)
  have now := Scheduler.now_give (Deletion.kind s) b task d (b.ready.erase task)
  have count : (turns (events ++ [.turned task b.now d])).count task =
      (turns events).count task + 1 := by
    simp [turns_snoc, Event.turned?]
  have changed := Scheduler.taskIn_give running after
  rcases turn_cases s b.now d b.shared with
    ⟨queued, turn⟩ | ⟨ended, turn⟩ | ⟨unended, step, is, turn⟩
  · rw [turn] at changed resting
    rcases changed with ⟨other, -⟩ | ⟨-, ⟨_, ⟨⟩⟩ | ⟨_, ⟨⟩⟩⟩
    · exact absurd rfl other
    · refine ⟨b.now, ?_, ?_, ?_, ?_⟩
      · intro time rests
        rw [resting] at rests
        exact absurd rests (awake time)
      · exact fun _ => Nat.le_of_eq now.symm
      · rintro wait ⟨⟩
      · rw [count]
        rw [queued] at limited
        simp only [Phase.turnsFrom, Phase.turnsLeft] at limited ⊢
        lia
  · rw [turn] at changed
    rcases changed with ⟨other, -⟩ | ⟨-, ⟨_, ⟨⟩⟩ | ⟨_, ⟨⟩⟩⟩
    exact absurd rfl other
  · obtain ⟨paced', less⟩ := is ▸
      Deletion.lessens_advance positive d.id b.shared.provider paced unended
    obtain ⟨rests, goes⟩ := Scheduler.rests_until _ b (b.ready.erase task) awake turn
    rw [turn] at changed
    rcases changed with ⟨other, -⟩ | ⟨-, ⟨_, ⟨⟩⟩ | ⟨_, ⟨⟩⟩⟩
    · exact absurd rfl other
    · refine ⟨step.2, rests, fun none => ?_, paced', ?_⟩
      · rw [now]
        exact goes none
      · rw [count]
        simp only
        lia

/-- The turn of another deletion leaves a deletion as far as it was. -/
theorem Limited.within_other (h : Limited s events b) {other : TaskId} (ne : other ≠ task)
    {d' : Deletion} (there : taskIn b.tasks other = some d') :
    ∃ next, Within s (events ++ [.turned task b.now d])
      (b.give (Deletion.kind s) task d (b.ready.erase task)) other d' next := by
  obtain ⟨next, within⟩ := h.within other d' there
  refine ⟨next, within.still ?_ ?_ ?_⟩
  · have none : (task == other) = false := beq_false_of_ne ne.symm
    rw [turns_snoc, List.count_append, Event.turned?, Option.toList_some, List.count_singleton, none]
    rfl
  · exact Scheduler.mem_resting_give_of_ne _ b d _ ne
  · exact Nat.le_of_eq (Scheduler.now_give _ b task d _).symm

/-- A turn keeps the limit. -/
theorem Limited.turn (h : Limited s events b) (positive : 0 < s.provider.pollInterval)
    (ready : task ∈ b.ready) (running : taskIn b.tasks task = some d) :
    Limited s (events ++ [.turned task b.now d])
      (b.give (Deletion.kind s) task d (b.ready.erase task)) := by
  have turns_eq : turns (events ++ [.turned task b.now d]) = turns events ++ [task] :=
    turns_snoc _
  have wakes_eq : wakes (events ++ [.turned task b.now d]) = wakes events := by
    rw [wakes_snoc]
    exact List.append_nil _
  have added := Scheduler.added_give (Deletion.kind s) b task d (b.ready.erase task)
  obtain ⟨paced, within⟩ := h.within_now ready running
  have some_left := d.phase.turnsFrom_pos (s := s) b.now
  refine ⟨h.orderly.give (Deletion.disciplined s) ready running, h.counted.give running, ?_, ?_, ?_,
    ?_, ?_, ?_⟩
  · rw [starts_snoc, h.numbered, added]
    rfl
  · intro i took
    rw [turns_eq] at took
    rw [added]
    rcases List.mem_append.1 took with took | now
    · exact h.known i took
    · rw [List.mem_singleton.1 now]
      exact h.orderly.numbered task d running
  · intro i
    rw [turns_eq, List.count_append, List.count_singleton]
    split
    · rename_i same
      rw [← eq_of_beq same]
      lia
    · exact h.limited i
  · intro i d' there
    by_cases same : i = task
    · subst same
      exact h.within_turned positive ready running there
    · rcases Scheduler.taskIn_give running there with ⟨-, before⟩ | ⟨is, -⟩
      · exact h.within_other same before
      · exact absurd is same
  · have fewer :=
      Scheduler.length_resting_give_le (Deletion.kind s) b task d (b.ready.erase task)
    have rested := h.rested
    rw [turns_eq, wakes_eq, List.length_append, List.length_singleton]
    lia
  · intro i time d' happened
    rcases List.mem_append.1 happened with happened | is
    · exact h.ample i time d' happened
    · cases List.mem_singleton.1 is
      exact fun wait waits => (paced wait waits).2

end Turning

/-- What happens otherwise keeps the limit if the deletions are as far as before. -/
theorem Limited.quiet (h : Limited s events b) {e : Event} (unturned : e.turned? = none)
    (orderly : Orderly Deletion.stage b') (counted : Counted b')
    (added : b'.added = b.added + e.isStart.toNat)
    (within : turns (events ++ [e]) = turns events → ∀ task d, taskIn b'.tasks task = some d →
      ∃ next, Within s (events ++ [e]) b' task d next)
    (rested : e.woken?.toList.length + b'.resting.length ≤ b.resting.length) :
    Limited s (events ++ [e]) b' := by
  have turns_eq : turns (events ++ [e]) = turns events := by
    rw [turns_snoc, unturned]
    exact List.append_nil _
  refine ⟨orderly, counted, ?_, ?_, ?_, within turns_eq, ?_, ?_⟩
  · rw [starts_snoc, h.numbered, added]
  · rw [turns_eq]
    intro task took
    have below := h.known task took
    lia
  · rw [turns_eq]
    exact h.limited
  · have before := h.rested
    rw [turns_eq, wakes_snoc, List.length_append]
    lia
  · intro task now d happened
    rcases List.mem_append.1 happened with happened | is
    · exact h.ample task now d happened
    · rw [← List.mem_singleton.1 is] at unturned
      cases unturned

/-- **Every step keeps the limit.** -/
theorem Limited.step (h : Limited s events b) (positive : 0 < s.provider.pollInterval)
    {e : Event} (step : Step s b e b') : Limited s (events ++ [e]) b' := by
  cases step with
  | start name id =>
    refine h.quiet rfl ?_ (h.counted.start h.orderly name id) rfl ?_ (Nat.le_of_eq (Nat.zero_add _))
    · exact Orderly.add (s := { b with shared := _ }) h.orderly rfl
    · intro turns_eq task d there
      rcases Scheduler.taskIn_add (s := { b with shared := _ }) there with old | ⟨new, rfl⟩
      · obtain ⟨next, within⟩ := h.within task d old
        refine ⟨next, within.still (by rw [turns_eq]) (fun _ => Iff.rfl) (Nat.le_refl _)⟩
      · refine ⟨0, fun _ _ => Nat.zero_le _, fun _ => Nat.zero_le _, ?_, ?_⟩
        · rintro wait ⟨⟩
        · have unknown : task ∉ turns events := by
            intro took
            have below := h.known task took
            exact absurd new (Nat.ne_of_lt below)
          rw [turns_eq, List.count_eq_zero_of_not_mem unknown, Nat.zero_add]
          exact Nat.le_refl _
  | turn ready running => exact h.turn positive ready running
  | @wake time task resting elapsed =>
    have orderly := h.orderly.move (Deletion.disciplined s) (.wake resting)
    have one : 0 < b.resting.length := List.length_pos_of_mem resting
    refine h.quiet rfl orderly ⟨h.counted.nodup, h.counted.pending⟩ rfl ?_ ?_
    · intro turns_eq i d there
      obtain ⟨next, within⟩ := h.within i d there
      by_cases same : i = task
      · subst same
        have due : next ≤ b.now := Nat.le_trans (within.rests time resting) elapsed
        refine ⟨next, fun time' rests => ?_, fun _ => due, within.paced, ?_⟩
        · exact within.rests time' (List.mem_of_mem_erase rests)
        · rw [turns_eq]
          exact within.limited
      · refine ⟨next, within.still (by rw [turns_eq]) (fun time' => ?_) (Nat.le_refl _)⟩
        exact List.mem_erase_of_ne (fun is => same (Prod.mk.inj is).2)
    · show 1 + (b.resting.erase (time, task)).length ≤ b.resting.length
      rw [List.length_erase_of_mem resting]
      lia
  | @wait now later =>
    refine h.quiet rfl h.orderly ⟨h.counted.nodup, h.counted.pending⟩ rfl ?_
      (Nat.le_of_eq (Nat.zero_add _))
    intro turns_eq task d there
    obtain ⟨next, within⟩ := h.within task d there
    exact ⟨next, within.still (by rw [turns_eq]) (fun _ => Iff.rfl) later⟩
  | change provider =>
    refine h.quiet rfl h.orderly ⟨h.counted.nodup, h.counted.pending⟩ rfl ?_
      (Nat.le_of_eq (Nat.zero_add _))
    intro turns_eq task d there
    obtain ⟨next, within⟩ := h.within task d there
    exact ⟨next, within.still (by rw [turns_eq]) (fun _ => Iff.rfl) (Nat.le_refl _)⟩

/-- In every run the turns are limited. -/
theorem Run.limited {provider : σ} (run : Run s (fresh provider) events b)
    (positive : 0 < s.provider.pollInterval) : Limited s events b := by
  induction run with
  | start => exact limited_fresh s provider
  | step _ step ih => exact ih.step positive step

/-- All turns together are as many as the deletions times the limit of each. -/
theorem Limited.length_turns_le (h : Limited s events b) :
    (turns events).length ≤ starts events * turnLimit s := by
  have numbers : (turns events).toFinset ⊆ Finset.range b.added := by
    intro task took
    exact Finset.mem_range.2 (h.known task (List.mem_toFinset.1 took))
  have fewer := Finset.card_le_card numbers
  rw [Finset.card_range] at fewer
  calc (turns events).length
      = ∑ task ∈ (turns events).toFinset, (turns events).count task :=
        (List.sum_toFinset_count_eq_length _).symm
    _ ≤ (turns events).toFinset.card • turnLimit s :=
        Finset.sum_le_card_nsmul _ _ _ fun task _ => h.limited task
    _ ≤ starts events * turnLimit s := by
        rw [h.numbered]
        exact Nat.mul_le_mul_right _ fewer

/-- Where none can go on and none rests, the deletions have ended. -/
theorem Limited.atRest (h : Limited s events b) (ready : b.ready = []) (resting : b.resting = []) :
    b.AtRest ∧ b.pending = 0 := by
  have rest := h.orderly.atRest ready resting
  refine ⟨rest, ?_⟩
  rw [h.counted.pending, rest.tasks]
  rfl

section Going

variable {provider : σ}

/-- A deletion that can go on takes a turn. -/
theorem Run.turn (run : Run s (fresh provider) events b) (positive : 0 < s.provider.pollInterval)
    (ready : b.ready ≠ []) :
    ∃ task d b', Run s (fresh provider) (events ++ [.turned task b.now d]) b' := by
  obtain ⟨task, here⟩ := List.exists_mem_of_ne_nil _ ready
  obtain ⟨d, running⟩ := (run.limited positive).orderly.running task (List.mem_append_left _ here)
  exact ⟨task, d, _, run.step (.turn here running)⟩

/-- As long as some deletion can go on or rests, another turn comes, after a rest if need be. -/
theorem Run.another_turn (run : Run s (fresh provider) events b)
    (positive : 0 < s.provider.pollInterval) (left : ¬(b.ready = [] ∧ b.resting = [])) :
    ∃ more b', Run s (fresh provider) (events ++ more) b' ∧ starts more = 0 ∧
      (turns more).length = 1 := by
  by_cases ready : b.ready = []
  · obtain ⟨⟨time, task⟩, rests⟩ :=
      List.exists_mem_of_ne_nil b.resting fun none => left ⟨ready, none⟩
    have waited := run.step (.wait (Nat.le_max_left b.now time))
    have woken := waited.step (.wake rests (Nat.le_max_right b.now time))
    obtain ⟨i, d, b', turned⟩ := woken.turn positive (by simp)
    refine ⟨[.waited, .woken task, .turned i (max b.now time) d], b', ?_, rfl, rfl⟩
    simpa using turned
  · obtain ⟨i, d, b', turned⟩ := run.turn positive ready
    exact ⟨[.turned i b.now d], b', turned, rfl, rfl⟩

/-- **Deletions that go on come to their end.** -/
theorem Run.reaches_rest (run : Run s (fresh provider) events b)
    (positive : 0 < s.provider.pollInterval) :
    ∃ more b', Run s (fresh provider) (events ++ more) b' ∧ starts more = 0 ∧
      b'.ready = [] ∧ b'.resting = [] := by
  -- every further turn leaves fewer below the limit of all
  induction left : starts events * turnLimit s - (turns events).length using Nat.strongRecOn
    generalizing events b with
  | _ n ih =>
    by_cases rest : b.ready = [] ∧ b.resting = []
    · exact ⟨[], b, by simpa using run, rfl, rest⟩
    · obtain ⟨more, b₁, run₁, none_started, one⟩ := run.another_turn positive rest
      have starts_eq : starts (events ++ more) = starts events := by
        simpa [starts] using none_started
      have turns_eq : (turns (events ++ more)).length = (turns events).length + 1 := by
        rw [turns, List.filterMap_append, List.length_append]
        exact congrArg _ one
      have within := (run₁.limited positive).length_turns_le
      rw [starts_eq, turns_eq] at within
      obtain ⟨more', b', run', none_started', rest'⟩ :=
        ih (starts events * turnLimit s - ((turns events).length + 1)) (by lia) run₁
          (by rw [starts_eq, turns_eq])
      refine ⟨more ++ more', b', by rwa [← List.append_assoc], ?_, rest'⟩
      rw [starts, List.countP_append]
      exact Nat.add_eq_zero_iff.2 ⟨none_started, none_started'⟩

/-- **Every deletion ends and frees its lock.**  Deletions of any appliances, started at any times
and going on in any order, over a provider that answers anything after any time and changes of
itself: with an interval between two looks, they take at most so many turns, each with one call to
the provider at most, and no more rests than turns.  As long as some deletion is left, one can go on
or rests.  So they come to an end, where none is left or counted and every lock is free.  The number
of looks that a wait has left plays no part: it always reaches beyond the deadline. -/
theorem all_end (positive : 0 < s.provider.pollInterval) (run : Run s (fresh provider) events b) :
    (turns events).length ≤ starts events * turnLimit s ∧
      (wakes events).length ≤ (turns events).length ∧
      (b.ready = [] → b.resting = [] → b.AtRest ∧ b.pending = 0) ∧
      (∃ more b', Run s (fresh provider) (events ++ more) b' ∧ starts more = 0 ∧
        b'.AtRest ∧ b'.pending = 0) ∧
      ∀ task now d, .turned task now d ∈ events → ∀ wait ∈ d.phase.wait?, wait.Ample now := by
  have limited := run.limited positive
  have rested := limited.rested
  obtain ⟨more, b', run', none_started, ready, resting⟩ := run.reaches_rest positive
  refine ⟨limited.length_turns_le, by lia, limited.atRest, ?_, limited.ample⟩
  exact ⟨more, b', run', none_started, (run'.limited positive).atRest ready resting⟩

/-- Deletions over a provider in memory, with a look every five seconds. -/
def everyFiveSeconds : Settings Provider.Memory where
  provider := Provider.inMemory .manual (Duration.seconds 20) (Duration.seconds 5)

/-- A provider in memory with one appliance, which is being moved. -/
def moving : Provider.Memory where
  appliances := [{
    id := 1, name := "a", engine := .mariaDb, planSize := 10
    instanceStatus := Appliance.statusDown, availability := Appliance.availabilityMigrating
    switchId := 1, ipAddress := none, maskLength := 24, defaultRoute := none, port := 0
    defaultUser := "u", userPassword := "p", tags := [] }]

/-- Two deletions of an appliance that is being moved.  The first waits until it is up, which takes
one rest, until its engine runs and until it is down, and is about to delete it; the second still
waits for the first.  From there both come to their end. -/
theorem both_end : 0 < everyFiveSeconds.provider.pollInterval ∧
    ∃ events b, Run everyFiveSeconds (fresh moving) events b ∧ b.now = Duration.seconds 5 ∧
      taskIn b.tasks 0 = some ⟨"a", 1, .deleting⟩ ∧ b.pending = 2 ∧
      b.locks.holder? 1 = some 0 ∧ b.locks.queue 1 = [1] ∧
      ∃ more b', Run everyFiveSeconds (fresh moving) (events ++ more) b' ∧ starts more = 0 ∧
        b'.AtRest ∧ b'.pending = 0 := by
  have positive : 0 < everyFiveSeconds.provider.pollInterval := by decide
  have started := ((Run.start (s := everyFiveSeconds) (b := fresh moving)).step
    (.start "a" 1)).step (.start "a" 1)
  have queued := (started.step (.turn (show 0 ∈ _ by decide) rfl)).step
    (.turn (show 1 ∈ _ by decide) rfl)
  have looked := (queued.step (.turn (show 0 ∈ _ by decide) rfl)).step
    (.turn (show 0 ∈ _ by decide) rfl)
  -- While the first rests, the appliance comes up.
  have rested := ((looked.step (.change (moving.markUp "a").2)).step
    (.wait (show _ ≤ Duration.seconds 5 by decide))).step
      (.wake (show (Duration.seconds 5, 0) ∈ _ by decide) le_rfl)
  have running := (rested.step (.turn (show 0 ∈ _ by decide) rfl)).step
    (.turn (show 0 ∈ _ by decide) rfl)
  have stopped := (running.step (.turn (show 0 ∈ _ by decide) rfl)).step
    (.turn (show 0 ∈ _ by decide) rfl)
  have down := stopped.step (.turn (show 0 ∈ _ by decide) rfl)
  exact ⟨positive, _, _, down, rfl, rfl, rfl, rfl, rfl, (all_end positive down).2.2.2.1⟩

end Going

end

end Deletions
end ServiceBroker

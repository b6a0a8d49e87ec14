/-
# The fate of an appliance that is given up

What requests to deprovision and the deletions that they start do to one appliance over a
provider in memory.  The invariant (`Traffic.Fate`): the appliance stands as it was found, or
the deletion that holds its lock has turned it off and is about to delete it, or it is gone
and every deletion that is left finds nothing.  Each step that is on time keeps it
(`Traffic.Fate.step`), by the turns of a deletion in each of the three.
-/

import ServiceBroker.Proofs.Counted
import ServiceBroker.Proofs.Shown
import ServiceBroker.Proofs.Tally

namespace ServiceBroker
namespace Traffic

open Provider (Memory inMemory)
open Scheduler (taskIn Orderly)

variable {events : List (Event Memory)} {e : Event Memory}

/-- Requests to deprovision an instance, whose appliance nothing else changes. -/
def teardown (s : BrokerSettings Memory) (name : String) (id : ApplianceId) :
    World Memory Lifecycle.Outcome where
  settings := s
  arrives u := ∃ handler : DatabaseHandler,
    u = ⟨handler.engine, (Lifecycle.perform (.deprovision name)).interpret handler.answer⟩
  changes before after := ∀ shown, before.Shows name id shown → after.Shows name id shown

/-- **What has become of an appliance**, and where its deletions are. -/
inductive Fate (name : String) (a : Appliance) (events : List (Event Memory))
    (t : Traffic Memory Lifecycle.Outcome) : Prop where
  /-- It stands as it was found, and a deletion that was started has not ended. -/
  | intact (shows : t.broker.provider.Shows name a.id (some a)) (tally : Tally events a.id 0 0)
    (phases : ∀ task d, taskIn t.deletions.tasks task = some d → d.id = a.id →
      d.phase.Deciding a.isUp)
    (begun : (∃ n, (n, a.id) ∈ started events) → t.Pending a.id)
  /-- A deletion has turned it off and not deleted it yet. -/
  | off (up : a.isUp = true) (shows : t.broker.provider.Shows name a.id (some a.turnedOff))
    (tally : Tally events a.id 1 0)
    (holder : ∃ task d, taskIn t.deletions.tasks task = some d ∧ d.id = a.id ∧ d.phase.Finishing)
  /-- A deletion has deleted it. -/
  | gone (shows : t.broker.provider.Shows name a.id none) (tally : Tally events a.id a.isUp.toNat 1)
    (phases : ∀ task d, taskIn t.deletions.tasks task = some d → d.id = a.id → d.phase.Spent)

section Steps

variable {s : BrokerSettings Memory} {mode : Provider.BootMode} {w i : Duration}
  {name : String} {a : Appliance} {t t' : Traffic Memory Lifecycle.Outcome}

/-- A step that is no turn of a deletion of the appliance leaves it as it stands. -/
theorem Fate.keep (h : Fate name a events t)
    (shows : ∀ shown, t.broker.provider.Shows name a.id shown →
      t'.broker.provider.Shows name a.id shown)
    (stop : e.call? ≠ some (.stop a.id)) (delete : e.call? ≠ some (.delete a.id))
    (old : ∀ task d, taskIn t.deletions.tasks task = some d → d.id = a.id →
      taskIn t'.deletions.tasks task = some d)
    (new : ∀ task d, taskIn t'.deletions.tasks task = some d → d.id = a.id →
      taskIn t.deletions.tasks task = some d ∨ d.phase = .queued)
    (begun : ∀ n, e.started? = some (n, a.id) → t'.Pending a.id) :
    Fate name a (events ++ [e]) t' := by
  cases h with
  | intact before tally phases going =>
    refine .intact (shows _ before) (tally.quiet stop delete) (fun task d hd hid => ?_) ?_
    · rcases new task d hd hid with hd | queued
      · exact phases task d hd hid
      · rw [queued]
        trivial
    · rintro ⟨n, hn⟩
      rw [started_snoc, List.mem_append, Option.mem_toList] at hn
      rcases hn with hn | hn
      · obtain ⟨task, d, hd, hid⟩ := going ⟨n, hn⟩
        exact ⟨task, d, old task d hd hid, hid⟩
      · exact begun n hn
  | off up before tally holder =>
    obtain ⟨task, d, hd, hid, finishing⟩ := holder
    exact .off up (shows _ before) (tally.quiet stop delete)
      ⟨task, d, old task d hd hid, hid, finishing⟩
  | gone before tally phases =>
    refine .gone (shows _ before) (tally.quiet stop delete) fun task d hd hid => ?_
    rcases new task d hd hid with hd | queued
    · exact phases task d hd hid
    · rw [queued]
      trivial

/-- What is left of a deletion after its turn. -/
theorem task?_turn {σ : Type} (s : Deletion.Settings σ) (now : Instant) (d : Deletion)
    (shared : Deletion.Shared σ) :
    (Deletion.turn s now d shared).1.task? = if d.phase = .ended then none else
      some { d with phase := (Deletion.advance s d.id now shared.provider d.phase).1.1 } := by
  obtain ⟨name, id, phase⟩ := d
  cases phase <;> rfl

/-- A turn that is not the last takes its deletion to the next phase. -/
theorem give_of_advance {σ α : Type} {w : World σ α} {t : Traffic σ α} {task : TaskId}
    {d : Deletion} {phase' : Deletion.Phase} {time : Instant} {provider : σ}
    (running : taskIn t.deletions.tasks task = some d) (going : d.phase ≠ .ended)
    (h : Deletion.advance w.settings.toSettings d.id t.broker.now t.broker.provider d.phase =
      ((phase', time), provider)) :
    taskIn (t.give w task d).deletions.tasks =
        Function.update (taskIn t.deletions.tasks) task (some { d with phase := phase' }) ∧
      (t.give w task d).broker.provider = provider := by
  constructor
  · have left := task?_turn w.settings.toSettings t.broker.now d t.deletions.shared
    have next : (Deletion.advance w.settings.toSettings d.id t.broker.now
      t.deletions.shared.provider d.phase).1.1 = phase' := congrArg (·.1.1) h
    rw [if_neg going, next] at left
    exact (Scheduler.taskIn_tasks_give _ running).trans (congrArg (Function.update _ task) left)
  · have after := Deletion.advance_state w.settings.toSettings d.id t.broker.now
      t.broker.provider d.phase
    rw [h] at after
    rw [provider_give]
    exact after.symm

/-- Of the deletions of an appliance only the one that holds its lock is past asking for it. -/
theorem asking_of_ne {σ α : Type} {t : Traffic σ α}
    (orderly : Orderly Deletion.stage t.deletions) {task other : TaskId} {d d' : Deletion}
    (running : taskIn t.deletions.tasks task = some d) (inside : d.stage = .inside d.id)
    (hother : taskIn t.deletions.tasks other = some d') (same : d'.id = d.id)
    (hne : other ≠ task) : d'.phase = .queued ∨ d'.phase = .examining := by
  have mine := orderly.holder?_inside running inside
  have not_inside : d'.stage ≠ .inside d'.id := fun its => by
    have its := orderly.holder?_inside hother its
    rw [same, mine, Option.some.injEq] at its
    exact hne its.symm
  obtain ⟨n, id, phase⟩ := d'
  cases phase with
  | queued => exact .inl rfl
  | examining => exact .inr rfl
  | _ => exact absurd rfl not_inside

/-- After a turn a deletion is what is left of the one that took it, or as it was. -/
theorem of_update {tasks tasks' : TaskId → Option Deletion} {task i : TaskId}
    {left : Option Deletion}
    {d : Deletion} (h : tasks' = Function.update tasks task left) (hi : tasks' i = some d) :
    left = some d ∨ tasks i = some d := by
  rw [h, Function.update_apply] at hi
  split_ifs at hi
  · exact .inl hi
  · exact .inr hi

variable (hs : s.provider = inMemory mode w i) {task : TaskId} {n : String}
  (orderly : Orderly Deletion.stage t.deletions)

include hs orderly

/-- An appliance that is deleted is gone, and other deletions of it have not read it yet. -/
theorem Fate.delete {shown : Appliance} (shows : t.broker.provider.Shows name a.id (some shown))
    (tally : Tally events a.id a.isUp.toNat 0)
    (running : taskIn t.deletions.tasks task = some ⟨n, a.id, .deleting⟩) :
    Fate name a
      (events ++ [t.turned (teardown s name a.id) task ⟨n, a.id, .deleting⟩])
      (t.give (teardown s name a.id) task ⟨n, a.id, .deleting⟩) := by
  obtain ⟨tasks, provider⟩ := give_of_advance running (by simp)
    (Deletion.advance_deleting (s := (teardown s name a.id).settings.toSettings) hs
      t.broker.now shows)
  have made : made? (teardown s name a.id) t ⟨n, a.id, .deleting⟩ =
      some ⟨.delete a.id, .ok ()⟩ := by
    simp only [made?, Deletion.Phase.call?, Option.map_some, teardown,
      Provider.answer_of_inMemory hs, Memory.answer_delete shows.available shows.read]
  refine .gone ?_ (tally.delete ?_) fun i d hd its => ?_
  · rw [provider]
    exact shows.remove
  · rw [turned, made]
    rfl
  · rcases of_update tasks hd with left | old
    · cases left
      trivial
    · by_cases hi : i = task
      · rw [tasks, hi, Function.update_self] at hd
        cases hd
        trivial
      · rcases asking_of_ne orderly running rfl old its hi with asking | asking
        · rw [asking]
          trivial
        · rw [asking]
          trivial

/-- A turn while the appliance stands as it was found. -/
theorem Fate.turn_intact (still : a.isMigrating = false) (known : a.isUp = true ∨ a.isFailed = true)
    {phase : Deletion.Phase} (shows : t.broker.provider.Shows name a.id (some a))
    (tally : Tally events a.id 0 0)
    (phases : ∀ task d, taskIn t.deletions.tasks task = some d → d.id = a.id →
      d.phase.Deciding a.isUp)
    (running : taskIn t.deletions.tasks task = some ⟨n, a.id, phase⟩) :
    Fate name a (events ++ [t.turned (teardown s name a.id) task ⟨n, a.id, phase⟩])
      (t.give (teardown s name a.id) task ⟨n, a.id, phase⟩) := by
  have hs' : (teardown s name a.id).settings.toSettings.provider = inMemory mode w i := hs
  have call := call?_turned (teardown s name a.id) t task ⟨n, a.id, phase⟩
  have deciding := phases task _ running rfl
  have on {phase' : Deletion.Phase} {time : Instant}
      (next : Deletion.advance (teardown s name a.id).settings.toSettings a.id t.broker.now
        t.broker.provider phase = ((phase', time), t.broker.provider))
      (going : phase ≠ .ended) (deciding : phase'.Deciding a.isUp)
      (stop : phase.call? a.id ≠ some (.stop a.id))
      (delete : phase.call? a.id ≠ some (.delete a.id)) :
      Fate name a (events ++ [t.turned (teardown s name a.id) task ⟨n, a.id, phase⟩])
        (t.give (teardown s name a.id) task ⟨n, a.id, phase⟩) := by
    obtain ⟨tasks, provider⟩ := give_of_advance (d := ⟨n, a.id, phase⟩) running going next
    refine .intact ?_ (tally.quiet (call ▸ stop) (call ▸ delete)) (fun i d hd its => ?_)
      fun _ => ⟨task, _, by rw [tasks, Function.update_self], rfl⟩
    · rw [provider]
      exact shows
    · rcases of_update tasks hd with left | old
      · cases left
        exact deciding
      · exact phases i d old its
  cases phase with
  | queued =>
    exact on rfl (by simp) trivial (by simp [Deletion.Phase.call?])
      (by simp [Deletion.Phase.call?])
  | examining =>
    have next := Deletion.advance_examining hs' t.broker.now shows
    rw [Deletion.afterExamining, if_neg (by simp [still])] at next
    exact on next (by simp) trivial (by simp [Deletion.Phase.call?])
      (by simp [Deletion.Phase.call?])
  | refreshing =>
    have next := Deletion.advance_refreshing hs' t.broker.now shows
    rw [Deletion.afterRefreshing] at next
    by_cases up : a.isUp = true
    · rw [if_pos up] at next
      exact on next (by simp) up (by simp [Deletion.Phase.call?]) (by simp [Deletion.Phase.call?])
    · rw [if_neg up, if_pos (known.resolve_left up)] at next
      exact on next (by simp) (Bool.eq_false_of_not_eq_true up) (by simp [Deletion.Phase.call?])
        (by simp [Deletion.Phase.call?])
  | stopping =>
    obtain ⟨tasks, provider⟩ := give_of_advance (d := ⟨n, a.id, .stopping⟩) running (by simp)
      (Deletion.advance_stopping hs' t.broker.now shows)
    refine .off deciding ?_ (tally.stop call)
      ⟨task, ⟨n, a.id, .awaitingDown _⟩, by rw [tasks, Function.update_self], rfl, trivial⟩
    rw [provider]
    exact shows.turnOff
  | deleting =>
    refine Fate.delete hs orderly shows ?_ running
    rw [show a.isUp = false from deciding]
    exact tally
  | _ => exact deciding.elim

/-- A turn after the appliance was turned off. -/
theorem Fate.turn_off {phase : Deletion.Phase} (ready : task ∈ t.deletions.ready)
    (onTime : ∀ deadline ∈ phase.deadline?, t.broker.now ≤ deadline) (up : a.isUp = true)
    (shows : t.broker.provider.Shows name a.id (some a.turnedOff)) (tally : Tally events a.id 1 0)
    (holder : ∃ task d, taskIn t.deletions.tasks task = some d ∧ d.id = a.id ∧ d.phase.Finishing)
    (running : taskIn t.deletions.tasks task = some ⟨n, a.id, phase⟩) :
    Fate name a (events ++ [t.turned (teardown s name a.id) task ⟨n, a.id, phase⟩])
      (t.give (teardown s name a.id) task ⟨n, a.id, phase⟩) := by
  have hs' : (teardown s name a.id).settings.toSettings.provider = inMemory mode w i := hs
  have call := call?_turned (teardown s name a.id) t task ⟨n, a.id, phase⟩
  obtain ⟨holder, d, hd, its, finishing⟩ := holder
  have inside : d.stage = .inside d.id := by
    obtain ⟨name, id, phase⟩ := d
    cases phase with
    | awaitingDown wait => rfl
    | deleting => rfl
    | _ => exact finishing.elim
  by_cases mine : task = holder
  · subst mine
    obtain rfl := Option.some.inj (running.symm.trans hd)
    cases phase with
    | awaitingDown wait =>
      obtain ⟨tasks, provider⟩ := give_of_advance (d := ⟨n, a.id, .awaitingDown wait⟩) running
        (by simp) (Deletion.advance_awaitingDown hs' t.broker.now shows rfl (onTime _ rfl))
      refine .off up ?_ (tally.quiet (call ▸ nofun) (call ▸ nofun))
        ⟨task, ⟨n, a.id, .deleting⟩, by rw [tasks, Function.update_self], rfl, trivial⟩
      rw [provider]
      exact shows
    | deleting =>
      refine Fate.delete hs orderly shows ?_ running
      rw [up]
      exact tally
    | _ => exact finishing.elim
  · -- Another deletion does not get past asking for the lock.
    rcases asking_of_ne orderly hd inside running its.symm mine with rfl | rfl
    · obtain ⟨tasks, provider⟩ := give_of_advance
        (w := teardown s name a.id) (d := ⟨n, a.id, .queued⟩) running (by simp) rfl
      refine .off up ?_ (tally.quiet (call ▸ nofun) (call ▸ nofun)) ⟨holder, d, ?_, its, finishing⟩
      · rw [provider]
        exact shows
      · rw [tasks, Function.update_of_ne (Ne.symm mine)]
        exact hd
    · have held := orderly.holder?_inside hd inside
      have holds := orderly.holding task (List.mem_append_left _ ready) _ running a.id rfl
      rw [its, holds, Option.some.injEq] at held
      exact absurd held mine

omit orderly in
/-- A turn after the appliance was deleted. -/
theorem Fate.turn_gone {phase : Deletion.Phase}
    (shows : t.broker.provider.Shows name a.id none) (tally : Tally events a.id a.isUp.toNat 1)
    (phases : ∀ task d, taskIn t.deletions.tasks task = some d → d.id = a.id → d.phase.Spent)
    (running : taskIn t.deletions.tasks task = some ⟨n, a.id, phase⟩) :
    Fate name a (events ++ [t.turned (teardown s name a.id) task ⟨n, a.id, phase⟩])
      (t.give (teardown s name a.id) task ⟨n, a.id, phase⟩) := by
  have hs' : (teardown s name a.id).settings.toSettings.provider = inMemory mode w i := hs
  have call := call?_turned (teardown s name a.id) t task ⟨n, a.id, phase⟩
  have spent := phases task _ running rfl
  have on {left : Option Deletion}
      (tasks : taskIn (t.give (teardown s name a.id) task ⟨n, a.id, phase⟩).deletions.tasks =
        Function.update (taskIn t.deletions.tasks) task left)
      (provider : (t.give (teardown s name a.id) task ⟨n, a.id, phase⟩).broker.provider =
        t.broker.provider) (spent : ∀ d ∈ left, d.phase.Spent)
      (stop : phase.call? a.id ≠ some (.stop a.id))
      (delete : phase.call? a.id ≠ some (.delete a.id)) :
      Fate name a (events ++ [t.turned (teardown s name a.id) task ⟨n, a.id, phase⟩])
        (t.give (teardown s name a.id) task ⟨n, a.id, phase⟩) := by
    refine .gone ?_ (tally.quiet (call ▸ stop) (call ▸ delete)) fun i d hd its => ?_
    · rw [provider]
      exact shows
    · exact (of_update tasks hd).elim (spent d) fun old => phases i d old its
  cases phase with
  | queued =>
    obtain ⟨tasks, provider⟩ := give_of_advance
      (w := teardown s name a.id) (d := ⟨n, a.id, .queued⟩) running (by simp) rfl
    exact on tasks provider (by rintro d ⟨⟩; trivial) nofun nofun
  | examining =>
    obtain ⟨tasks, provider⟩ := give_of_advance (d := ⟨n, a.id, .examining⟩) running (by simp)
      (Deletion.advance_examining hs' t.broker.now shows)
    exact on tasks provider (by rintro d ⟨⟩; trivial) nofun nofun
  | ended =>
    have tasks : taskIn (t.give (teardown s name a.id) task ⟨n, a.id, .ended⟩).deletions.tasks =
        Function.update (taskIn t.deletions.tasks) task none :=
      Scheduler.taskIn_tasks_give _ running
    exact on tasks (provider_give _ _ _ _) nofun nofun nofun
  | _ => exact spent.elim

omit orderly in
/-- A turn of a deletion of another appliance leaves this one as it stands. -/
theorem Fate.turn_other (h : Fate name a events t) {d : Deletion}
    (running : taskIn t.deletions.tasks task = some d) (other : d.id ≠ a.id) :
    Fate name a (events ++ [t.turned (teardown s name a.id) task d])
      (t.give (teardown s name a.id) task d) := by
  have apart {call : Provider.Call} (target : call.target? = some a.id) :
      (t.turned (teardown s name a.id) task d).call? ≠ some call := fun its => by
    rw [call?_turned] at its
    exact other (Option.some.inj ((Deletion.target?_of_call? its).symm.trans target))
  refine h.keep (fun shown shows => ?_) (apart rfl) (apart rfl) (fun i d' hi its => ?_)
    (fun i d' hi its => ?_) nofun
  · rw [provider_give]
    split
    · exact shows
    · rename_i call made
      have answered := Provider.answer_of_inMemory hs t.broker.now call t.broker.provider
      show ((s.provider.answer t.broker.now call t.broker.provider).2).Shows name a.id shown
      rw [answered]
      exact shows.answer (Deletion.target?_of_call? made) other
  · rw [← hi]
    refine (congrFun (Scheduler.taskIn_tasks_give _ running) i).trans (Function.update_of_ne ?_ _ _)
    rintro rfl
    rw [running, Option.some.injEq] at hi
    exact other (hi ▸ its)
  · rcases taskIn_give running hi with ⟨-, old⟩ | ⟨-, rfl⟩
    · exact .inl old
    · exact absurd its other

omit orderly in
/-- **Every step leaves the appliance in one of these states.** -/
theorem Fate.step {b : Broker Memory} (h : Fate name a events t) (still : a.isMigrating = false)
    (known : a.isUp = true ∨ a.isFailed = true) (orderly : Orderly Deletion.stage t.deletions)
    (run : Run (teardown s name a.id) ⟨b, []⟩ events t)
    (step : Step (teardown s name a.id) t e t') (onTime : t.OnTime e) :
    Fate name a (events ++ [e]) t' := by
  cases step with
  | @ask r engine call next asks =>
    obtain ⟨p, ⟨handler, is⟩, leads⟩ := (run.leads r).2 _ asks
    obtain ⟨-, rfl⟩ := Underway.mk.inj is
    rcases handler.asks_of_deprovision leads with rfl | ⟨id, rfl⟩
    · refine h.keep (fun shown shows => ?_) nofun nofun (fun i d hi _ => ?_)
        (fun i d hi _ => .inl ?_) nofun
      · rw [reply_find (w := teardown s name a.id) hs t shows.available]
        exact ⟨shows.available, shows.read, shows.found⟩
      · exact hi
      · exact hi
    · have tasks : taskIn (Scheduler.add t.deletions { name, id }).2.tasks = _ :=
        orderly.taskIn_add
      refine h.keep (fun _ shows => shows) nofun nofun (fun i d hi _ => ?_)
        (fun i d hi _ => ?_) fun n hn => ?_
      · refine (congrFun tasks i).trans ((Function.update_of_ne ?_ _ _).trans hi)
        exact Nat.ne_of_lt (orderly.numbered i d hi)
      · exact (Scheduler.taskIn_add (s := t.deletions) hi).imp_right fun new => by rw [new.2]
      · cases hn
        exact ⟨t.deletions.added, { name, id := a.id }, (congrFun tasks _).trans
          (Function.update_self _ _ _), rfl⟩
  | @turn task d ready running =>
    by_cases its : d.id = a.id
    · obtain ⟨n, id, phase⟩ := d
      subst its
      cases h with
      | intact shows tally phases =>
        exact Fate.turn_intact hs orderly still known shows tally phases running
      | off up shows tally holder =>
        exact Fate.turn_off hs orderly ready onTime up shows tally holder running
      | gone shows tally phases => exact Fate.turn_gone hs shows tally phases running
    · exact h.turn_other hs running its
  | change may => exact h.keep may nofun nofun (fun _ _ h _ => h) (fun _ _ h _ => .inl h) nofun
  | _ => exact h.keep (fun _ => id) nofun nofun (fun _ _ h _ => h) (fun _ _ h _ => .inl h) nofun

end Steps

end Traffic
end ServiceBroker

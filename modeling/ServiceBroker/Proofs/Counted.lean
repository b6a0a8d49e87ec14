/-
# As many deletions as are counted

The broker counts the deletions that are pending.  That number is the number of those that
have not ended (`Traffic.Counted`): a deletion is counted when it is started, and when it
ends it is counted no more.  A step keeps it so (`Traffic.Step.counted`), and so does a run.
-/

import ServiceBroker.Proofs.Collision

namespace ServiceBroker

/-- What a turn leaves of its task. -/
def Turn.task? {τ : Type} : Turn τ → Option τ
  | .rest _ task | .acquire _ task => some task
  | .finish _ => none

namespace Scheduler

variable {τ σ : Type} {kind : TaskKind τ σ} {s : Scheduler τ σ} {id : TaskId} {task : τ}

/-- A turn changes its own task and no other. -/
theorem taskIn_tasks_give (others : List TaskId) (ht : taskIn s.tasks id = some task) :
    taskIn (s.give kind id task others).tasks =
      Function.update (taskIn s.tasks) id (kind.turn s.now task s.shared).1.task? := by
  rw [tasks_give]
  cases (kind.turn s.now task s.shared).1 with
  | rest time task' => exact taskIn_setTask _ _ _ ht
  | acquire key task' => exact taskIn_setTask _ _ _ ht
  | finish held => exact taskIn_remove _ _

end Scheduler

namespace Traffic

open Scheduler (taskIn Orderly)

section Counted

variable {σ α : Type}

/-- The deletions that are counted as pending are those that have not ended. -/
structure Counted (deletions : Deletions σ) : Prop where
  nodup : (deletions.tasks.map Prod.fst).Nodup
  pending : deletions.pending = deletions.tasks.length

variable {w : World σ α} {t t' : Traffic σ α} {e : Event σ}

/-- The tasks keep their numbers when one goes on. -/
theorem map_fst_setTask {τ : Type} (id : TaskId) (task : τ) (tasks : List (TaskId × τ)) :
    (Scheduler.setTask id task tasks).map Prod.fst = tasks.map Prod.fst := by
  rw [Scheduler.setTask, List.map_map]
  refine List.map_congr_left fun p _ => ?_
  dsimp only [Function.comp]
  split_ifs <;> rfl

/-- A task is found exactly where its number is listed. -/
theorem isSome_taskIn {τ : Type} {tasks : List (TaskId × τ)} {id : TaskId} :
    (taskIn tasks id).isSome ↔ id ∈ tasks.map Prod.fst := by
  rw [taskIn, List.lookup_isSome_iff, List.mem_map]
  refine exists_congr fun p => and_congr_right fun _ => ?_
  rw [beq_iff_eq, eq_comm]

/-- One task fewer is left when one of them is taken away. -/
theorem length_filter_ne {τ : Type} {tasks : List (TaskId × τ)} {id : TaskId}
    (nodup : (tasks.map Prod.fst).Nodup) (h : id ∈ tasks.map Prod.fst) :
    (tasks.filter (·.1 ≠ id)).length = tasks.length - 1 := by
  have keys : (tasks.filter (·.1 ≠ id)).map Prod.fst = (tasks.map Prod.fst).erase id := by
    rw [nodup.erase_eq_filter, List.filter_map]
    refine congrArg _ (List.filter_congr fun p _ => ?_)
    rw [Function.comp, Bool.eq_iff_iff, decide_eq_true_iff, bne_iff_ne]
  rw [← List.length_map (f := Prod.fst), keys, List.length_erase_of_mem h, List.length_map]

/-- A deletion that is started is counted. -/
theorem Counted.start {deletions : Deletions σ} (h : Counted deletions)
    (orderly : Orderly Deletion.stage deletions) (name : String) (id : ApplianceId) :
    Counted (deletions.start name id).2 where
  nodup := by
    have fresh : deletions.added ∉ deletions.tasks.map Prod.fst := fun known => by
      obtain ⟨task, ht⟩ := Option.isSome_iff_exists.1 (isSome_taskIn.2 known)
      exact absurd (orderly.numbered _ task ht) (Nat.lt_irrefl _)
    show ((deletions.tasks ++ [(deletions.added, _)]).map Prod.fst).Nodup
    rw [List.map_append, List.map_singleton]
    exact List.nodup_append.2 ⟨h.nodup, List.nodup_singleton _, fun i hi j hj => by
      rw [List.mem_singleton.1 hj]
      rintro rfl
      exact fresh hi⟩
  pending := by
    show deletions.pending + 1 = (deletions.tasks ++ [_]).length
    rw [h.pending, List.length_append, List.length_singleton]

/-- A deletion that ends is counted no more. -/
theorem Counted.give {deletions : Deletions σ} {s : Deletion.Settings σ} (h : Counted deletions)
    {id : TaskId} {d : Deletion} (running : taskIn deletions.tasks id = some d) :
    Counted (deletions.give (Deletion.kind s) id d (deletions.ready.erase id)) := by
  have known : id ∈ deletions.tasks.map Prod.fst :=
    isSome_taskIn.1 (by rw [running, Option.isSome_some])
  have tasks := Scheduler.tasks_give (Deletion.kind s) deletions id d (deletions.ready.erase id)
  have pending := congrArg Deletion.Shared.pending (Scheduler.shared_give
    (Deletion.kind s) deletions id d (deletions.ready.erase id))
  have on {after : Deletions σ} {d' : Deletion}
      (tasks : after.tasks = Scheduler.setTask id d' deletions.tasks)
      (pending : after.shared.pending = deletions.pending) : Counted after := by
    refine ⟨?_, ?_⟩
    · rw [tasks, map_fst_setTask]
      exact h.nodup
    · rw [Deletions.pending, pending, h.pending, tasks, Scheduler.setTask, List.length_map]
  have off {after : Deletions σ}
      (tasks : after.tasks = deletions.tasks.filter (·.1 ≠ id))
      (pending : after.shared.pending = deletions.pending - 1) : Counted after := by
    refine ⟨?_, ?_⟩
    · rw [tasks]
      exact h.nodup.sublist (List.filter_sublist.map _)
    · rw [Deletions.pending, pending, h.pending, tasks, length_filter_ne h.nodup known]
  obtain ⟨name, key, phase⟩ := d
  cases phase with
  | ended => exact off tasks pending
  | _ => exact on tasks pending

/-- **Every step counts the deletions that it starts and that end.** -/
theorem Step.counted (step : Step w t e t') (orderly : Orderly Deletion.stage t.deletions)
    (h : Counted t.deletions) : Counted t'.deletions := by
  cases step with
  | @ask i engine call next asks =>
    show Counted (t.reply w engine call).2.deletions
    rcases t.deletions_reply w engine call with ⟨name, id, -, hd⟩ | ⟨provider, hd⟩
    · rw [hd]
      exact h.start orderly name id
    · rw [hd]
      exact ⟨h.nodup, h.pending⟩
  | @turn id d ready running => exact h.give running
  | _ => exact ⟨h.nodup, h.pending⟩

/-- In a run the deletions stay counted. -/
theorem Run.counted {events : List (Event σ)}
    (orderly : Orderly Deletion.stage t.deletions) (h : Counted t.deletions)
    (run : Run w t events t') : Counted t'.deletions := by
  induction run with
  | start => exact h
  | step run step ih => exact step.counted (run.orderly orderly) ih

end Counted

end Traffic
end ServiceBroker

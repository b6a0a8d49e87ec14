/-
# The moves of a scheduler

Tasks take turns in any order at all (`Scheduler.Move`), each through the stages of its key.
Every move keeps that at most one task holds a key (`Scheduler.Orderly.move`, from the cases
of `Scheduler.Exclusive`), and the scheduler itself makes no other moves
(`Scheduler.Orderly.moves_settle`, `Scheduler.Orderly.moves_advance`).
-/

import ServiceBroker.Proofs.Exclusion
import Mathlib.Logic.Relation

namespace ServiceBroker
namespace Scheduler

variable {τ σ : Type}

/-- The tasks that can go on, now or after their rest. -/
def active (s : Scheduler τ σ) : List TaskId := s.ready ++ s.resting.map (·.2)

/-- A kind of task whose turns go through the stages in order. -/
structure Disciplined (kind : TaskKind τ σ) (stage : τ → Stage) : Prop where
  rest : ∀ now task shared time task' shared',
    kind.turn now task shared = (.rest time task', shared') → stage task' = (stage task).further
  acquire : ∀ now task shared key task' shared',
    kind.turn now task shared = (.acquire key task', shared') →
      stage task = .outside ∧ stage task' = .entering key
  finish : ∀ now task shared key shared',
    kind.turn now task shared = (.finish key, shared') → key = (stage task).key?

/-- The task with a number. -/
def taskIn (tasks : List (TaskId × τ)) (id : TaskId) : Option τ := tasks.lookup id

/-- The locks are where the tasks are. -/
def Orderly (stage : τ → Stage) (s : Scheduler τ σ) : Prop :=
  Exclusive stage s.added (taskIn s.tasks) s.active s.locks

section Tasks

variable (id : TaskId) (task : τ) (tasks : List (TaskId × τ))

/-- A task that goes on keeps its place, and the others stay. -/
theorem lookup_setTask (i : TaskId) : (setTask id task tasks).lookup i =
    (tasks.lookup i).map fun t => if i = id then task else t := by
  induction tasks with
  | nil => rfl
  | cons first rest ih =>
    obtain ⟨k, t⟩ := first
    simp only [setTask] at ih ⊢
    by_cases hk : k = id <;> by_cases hi : i = k <;> simp [List.lookup_cons, hk, hi, ih] <;> grind

/-- A task that goes on is found as it is now, and the others as before. -/
theorem taskIn_setTask {old : τ} (h : taskIn tasks id = some old) :
    taskIn (setTask id task tasks) = Function.update (taskIn tasks) id (some task) := by
  funext i
  rw [taskIn, lookup_setTask, Function.update_apply]
  by_cases hi : i = id
  · rw [taskIn] at h
    simp [hi, h]
  · simp [hi, taskIn]

/-- A task that was removed is not found, and the others as before. -/
theorem taskIn_remove :
    taskIn (tasks.filter (·.1 ≠ id)) = Function.update (taskIn tasks) id none := by
  funext i
  rw [taskIn, Table.lookup_filter_ne, Function.update_apply]
  rfl

/-- A task that is added is found, and the others as before. -/
theorem taskIn_append (h : taskIn tasks id = none) :
    taskIn (tasks ++ [(id, task)]) = Function.update (taskIn tasks) id (some task) := by
  funext i
  rw [taskIn, List.lookup_append, Function.update_apply]
  by_cases hi : i = id
  · subst hi
    rw [taskIn] at h
    simp [h]
  · simp [hi, taskIn, List.lookup_cons, beq_eq_false_iff_ne.2 hi]

end Tasks

variable {kind : TaskKind τ σ} {stage : τ → Stage} {s : Scheduler τ σ} {id : TaskId} {task : τ}

/-- A scheduler without tasks is orderly. -/
theorem orderly_start (shared : σ) : Orderly stage ({ shared } : Scheduler τ σ) :=
  Exclusive.empty stage

/-- The number of the next task is new. -/
theorem Orderly.taskIn_added (h : Orderly stage s) : taskIn s.tasks s.added = none := by
  cases there : taskIn s.tasks s.added with
  | none => rfl
  | some t => exact absurd (h.numbered _ t there) (Nat.lt_irrefl _)

/-- A new task stands beside those that there are. -/
theorem Orderly.taskIn_add (h : Orderly stage s) :
    taskIn (s.add task).2.tasks = Function.update (taskIn s.tasks) s.added (some task) :=
  taskIn_append _ _ _ h.taskIn_added

/-- A scheduler stays orderly when a task is added outside. -/
theorem Orderly.add (h : Orderly stage s) (ht : stage task = .outside) :
    Orderly stage (s.add task).2 := by
  have added := Exclusive.add h ht
  rw [← h.taskIn_add] at added
  refine added.perm ?_
  simp only [active, Scheduler.add, List.append_assoc]
  exact List.perm_append_comm.append_left _

/-- A task past the grant of its key holds it. -/
theorem Orderly.holder?_inside (h : Orderly stage s) (ht : taskIn s.tasks id = some task)
    {key : Int64} (hs : stage task = .inside key) : s.locks.holder? key = some id := by
  rcases h.placed id task ht with active | ⟨k, waits⟩
  · exact h.holding id active task ht key (by rw [hs]; rfl)
  · obtain ⟨-, t, hit, hkt⟩ := h.waiting k id waits
    obtain rfl : task = t := Option.some.inj (ht.symm.trans hit)
    cases hs.symm.trans hkt

/-- A task that is found after one is added is that one or was found before. -/
theorem taskIn_add {i : TaskId} {t : τ} (h : taskIn (s.add task).2.tasks i = some t) :
    taskIn s.tasks i = some t ∨ i = s.added ∧ t = task := by
  have either : (s.tasks.lookup i).or ([(s.added, task)].lookup i) = some t := by
    rw [← List.lookup_append]
    exact h
  rcases Option.or_eq_some_iff.1 either with old | ⟨-, new⟩
  · exact .inl old
  · rw [List.lookup_cons] at new
    split at new
    · rename_i same
      exact .inr ⟨eq_of_beq same, (Option.some.inj new).symm⟩
    · cases new

/-- **A turn keeps the locks where the tasks are.** -/
theorem Orderly.give (hk : Disciplined kind stage) (h : Orderly stage s) (hr : id ∈ s.ready)
    (ht : taskIn s.tasks id = some task) :
    Orderly stage (s.give kind id task (s.ready.erase id)) := by
  let others := s.ready.erase id ++ s.resting.map (·.2)
  have split : (id :: others).Perm s.active :=
    ((List.perm_cons_erase hr).append_right _).symm
  have mine : id ∈ id :: others := List.mem_cons_self
  have h : Exclusive stage s.added (taskIn s.tasks) (id :: others) s.locks := Exclusive.perm h split
  unfold Scheduler.give
  rcases hturn : kind.turn s.now task s.shared with ⟨turn, shared⟩
  cases turn with
  | rest time task' =>
    have on := h.further mine ht
      (show (stage task').key? = _ by rw [hk.rest _ _ _ _ _ _ hturn, Stage.key?_further])
    rw [← taskIn_setTask _ _ _ ht] at on
    dsimp only
    split_ifs
    · exact on
    · refine on.perm ?_
      simp only [active, List.map_append, others]
      rw [← List.append_assoc]
      exact List.perm_append_comm
  | acquire key task' =>
    obtain ⟨outside, entering⟩ := hk.acquire _ _ _ _ _ _ hturn
    have keyless : (stage task).key? = none := by rw [outside, Stage.key?]
    have granted := KeyedLock.fst_request s.locks key id
    dsimp only
    cases hholder : s.locks.holder? key with
    | none =>
      rw [hholder, Option.isNone_none] at granted
      rw [granted, if_pos rfl]
      have got := h.granted mine ht keyless entering hholder
      rwa [← taskIn_setTask _ _ _ ht] at got
    | some holder =>
      rw [hholder, Option.isNone_some] at granted
      rw [granted, if_neg Bool.false_ne_true]
      have waits := h.blocked ht keyless entering hholder
      rwa [← taskIn_setTask _ _ _ ht] at waits
  | finish held =>
    obtain rfl := hk.finish _ _ _ _ _ hturn
    dsimp only
    cases hkey : (stage task).key? with
    | none =>
      have left := h.ended ht hkey
      rwa [← taskIn_remove] at left
    | some key =>
      have left := h.released ht hkey
      rw [← taskIn_remove, ← KeyedLock.fst_release] at left
      refine left.perm ?_
      simp only [active, others, List.append_assoc]
      exact List.perm_append_comm.append_left _

/-- A turn leaves behind what the task makes of the shared state. -/
theorem shared_give (kind : TaskKind τ σ) (s : Scheduler τ σ) (id : TaskId) (task : τ)
    (others : List TaskId) :
    (s.give kind id task others).shared = (kind.turn s.now task s.shared).2 := by
  unfold Scheduler.give
  rcases kind.turn s.now task s.shared with ⟨_ | _ | _ | _, shared⟩ <;>
    dsimp only <;> split_ifs <;> rfl

/-- A turn adds no task. -/
theorem added_give (kind : TaskKind τ σ) (s : Scheduler τ σ) (id : TaskId) (task : τ)
    (others : List TaskId) : (s.give kind id task others).added = s.added := by
  unfold Scheduler.give
  rcases kind.turn s.now task s.shared with ⟨_ | _ | _ | _, shared⟩ <;>
    dsimp only <;> split_ifs <;> rfl

/-- The tasks after a turn: the one that took it goes on, or is removed. -/
theorem tasks_give (kind : TaskKind τ σ) (s : Scheduler τ σ) (id : TaskId) (task : τ)
    (others : List TaskId) :
    (s.give kind id task others).tasks =
      match (kind.turn s.now task s.shared).1 with
      | .rest _ task' | .acquire _ task' => setTask id task' s.tasks
      | .finish _ => s.tasks.filter (·.1 ≠ id) := by
  unfold Scheduler.give
  rcases kind.turn s.now task s.shared with ⟨_ | _ | _ | _, shared⟩ <;>
    dsimp only <;> split_ifs <;> rfl

/-- After a turn the other tasks are as they were. -/
theorem taskIn_give {i : TaskId} {t : τ} {others : List TaskId} (ht : taskIn s.tasks id = some task)
    (hi : taskIn (s.give kind id task others).tasks i = some t) :
    i ≠ id ∧ taskIn s.tasks i = some t ∨
      i = id ∧ ((∃ time, (kind.turn s.now task s.shared).1 = .rest time t) ∨
        ∃ key, (kind.turn s.now task s.shared).1 = .acquire key t) := by
  have changed {task' : τ} (hi : taskIn (setTask id task' s.tasks) i = some t) :
      i ≠ id ∧ taskIn s.tasks i = some t ∨ i = id ∧ task' = t := by
    rw [taskIn_setTask _ _ _ ht] at hi
    by_cases hid : i = id
    · subst hid
      rw [Function.update_self, Option.some.injEq] at hi
      exact .inr ⟨rfl, hi⟩
    · rw [Function.update_of_ne hid] at hi
      exact .inl ⟨hid, hi⟩
  rw [tasks_give] at hi
  cases hturn : (kind.turn s.now task s.shared).1 with
  | rest time task' =>
    rw [hturn] at hi
    rcases changed hi with other | ⟨rfl, rfl⟩
    · exact .inl other
    · exact .inr ⟨rfl, .inl ⟨time, rfl⟩⟩
  | acquire key task' =>
    rw [hturn] at hi
    rcases changed hi with other | ⟨rfl, rfl⟩
    · exact .inl other
    · exact .inr ⟨rfl, .inr ⟨key, rfl⟩⟩
  | finish held =>
    rw [hturn] at hi
    have hi : taskIn (s.tasks.filter (·.1 ≠ id)) i = some t := hi
    rw [taskIn_remove] at hi
    have hne := Exclusive.ne_of_update_none hi
    rw [Function.update_of_ne hne] at hi
    exact .inl ⟨hne, hi⟩

/-- A task keeps the key that it holds until it ends. -/
theorem Orderly.holder?_give (hk : Disciplined kind stage) (h : Orderly stage s)
    (hr : id ∈ s.ready) (ht : taskIn s.tasks id = some task) {key : Int64} {holder : TaskId}
    (hheld : s.locks.holder? key = some holder) :
    (s.give kind id task (s.ready.erase id)).locks.holder? key = some holder ∨
      id = holder ∧ ∃ shared, kind.turn s.now task s.shared = (.finish (some key), shared) := by
  unfold Scheduler.give
  rcases hturn : kind.turn s.now task s.shared with ⟨turn, shared⟩
  cases turn with
  | rest time task' =>
    dsimp only
    split_ifs <;> exact .inl hheld
  | acquire key' task' =>
    have held : (s.locks.request key' id).2.holder? key = some holder := by
      rw [KeyedLock.holder?_request]
      split
      · rename_i hkey
        rw [← hkey, hheld]
        rfl
      · exact hheld
    dsimp only
    split_ifs <;> exact .inl held
  | finish held =>
    obtain rfl := hk.finish _ _ _ _ _ hturn
    cases hkey : (stage task).key? with
    | none => exact .inl hheld
    | some key' =>
      by_cases hsame : key = key'
      · subst hsame
        have mine := h.holding id (List.mem_append_left _ hr) task ht key hkey
        rw [mine, Option.some.injEq] at hheld
        exact .inr ⟨hheld, shared, rfl⟩
      · refine .inl ?_
        show (s.locks.release key').2.holder? key = some holder
        rw [KeyedLock.holder?_release, if_neg hsame, hheld]

/-- Tasks that go on in any order, and rests that end at any time. -/
inductive Move (kind : TaskKind τ σ) (s : Scheduler τ σ) : Scheduler τ σ → Prop where
  | turn {id : TaskId} {task : τ} (ready : id ∈ s.ready) (running : taskIn s.tasks id = some task) :
    Move kind s (s.give kind id task (s.ready.erase id))
  | wake {time : Instant} {id : TaskId} (resting : (time, id) ∈ s.resting) :
    Move kind s
      { s with resting := s.resting.erase (time, id), ready := s.ready ++ [id] }
  | tick (now : Instant) : Move kind s { s with now }

/-- **Every move keeps the locks where the tasks are.** -/
theorem Orderly.move (hk : Disciplined kind stage) (h : Orderly stage s) {s' : Scheduler τ σ}
    (hm : Move kind s s') : Orderly stage s' := by
  cases hm with
  | turn ready running => exact h.give hk ready running
  | wake resting =>
    refine Exclusive.perm h ?_
    have split := (List.perm_cons_erase resting).map (·.2)
    simp only [active, List.append_assoc]
    exact (split.append_left _).symm
  | tick now => exact h

/-- Any number of moves. -/
abbrev Moves (kind : TaskKind τ σ) : Scheduler τ σ → Scheduler τ σ → Prop :=
  Relation.ReflTransGen (Move kind)

/-- Any number of moves leave a scheduler orderly. -/
theorem Orderly.moves (hk : Disciplined kind stage) (h : Orderly stage s) {s' : Scheduler τ σ}
    (hm : Moves kind s s') : Orderly stage s' := by
  induction hm with
  | refl => exact h
  | tail _ move ih => exact ih.move hk move

section Executed

variable (hk : Disciplined kind stage)

include hk

/-- Turns in the order of the scheduler are moves. -/
theorem Orderly.moves_turns (h : Orderly stage s) (n : Nat) : Moves kind s (s.turns kind n) := by
  induction n generalizing s with
  | zero => exact .refl
  | succ n ih =>
    rw [turns, turn?]
    rcases hr : s.ready with _ | ⟨id, others⟩
    · exact .refl
    · have first : id ∈ s.ready := by rw [hr]; exact List.mem_cons_self
      obtain ⟨task, ht⟩ := h.running id (List.mem_append_left _ first)
      have move : Move kind s (s.give kind id task (s.ready.erase id)) := .turn first ht
      rw [hr, List.erase_cons_head] at move
      rw [taskIn] at ht
      simp only [ht]
      exact .head move (ih (h.move hk move))

/-- Settling is a number of moves. -/
theorem Orderly.moves_settle (h : Orderly stage s) : Moves kind s (s.settle kind) :=
  h.moves_turns hk _

omit hk in
/-- Rests that end together are moves. -/
theorem moves_wake (time : Instant) : Moves kind s (s.wake time) := by
  have all (l front : List (Instant × TaskId)) (ready : List TaskId)
      (hf : ∀ p ∈ front, ¬p.1 ≤ time) :
      Moves kind { s with now := time, resting := front ++ l, ready }
        { s with
          now := time
          resting := front ++ l.filter fun p => !decide (p.1 ≤ time)
          ready := ready ++ (l.filter fun p => decide (p.1 ≤ time)).map (·.2) } := by
    induction l generalizing front ready with
    | nil =>
      simp only [List.filter_nil, List.map_nil, List.append_nil]
      exact .refl
    | cons p rest ih =>
      by_cases hp : p.1 ≤ time
      · have here : p ∉ front := fun hm => hf p hm hp
        have move : Move kind { s with now := time, resting := front ++ p :: rest, ready } _ :=
          .wake (List.mem_append_right _ List.mem_cons_self)
        simp only [List.erase_append_right _ here, List.erase_cons_head] at move
        have further := ih front (ready ++ [p.2]) hf
        simp only [List.filter_cons, hp, decide_true, if_true, Bool.not_true, List.map_cons]
        rw [List.append_assoc] at further
        exact .head move further
      · have later : ∀ q ∈ front ++ [p], ¬q.1 ≤ time := by
          intro q hq
          rcases List.mem_append.1 hq with hq | hq
          · exact hf q hq
          · rwa [List.mem_singleton.1 hq]
        have further := ih (front ++ [p]) ready later
        simp only [List.filter_cons, hp, decide_false, Bool.not_false, if_true]
        simpa using further
  have start := all s.resting [] s.ready (fun _ h => absurd h List.not_mem_nil)
  rw [wake, List.partition_eq_filter_filter]
  exact .head (.tick time) start

/-- Letting rests end is a number of moves. -/
theorem Orderly.moves_wakes (h : Orderly stage s) (until' : Instant) (n : Nat) :
    Moves kind s (s.wakes kind until' n) := by
  induction n generalizing s with
  | zero => exact .refl
  | succ n ih =>
    rw [wakes]
    split
    · exact .refl
    · rename_i time _
      split_ifs
      · have woken : Moves kind s (s.wake time) := moves_wake time
        have settled := (h.moves hk woken).moves_settle hk
        exact (woken.trans settled).trans (ih ((h.moves hk woken).moves hk settled))
      · exact .refl

/-- **What the scheduler does while time passes are moves.** -/
theorem Orderly.moves_advance (h : Orderly stage s) (time : Duration) :
    Moves kind s (s.advance kind time) := by
  rw [advance, advanceTo]
  have settled := h.moves_settle hk
  have woken := (h.moves hk settled).moves_wakes hk (s.now + time)
    ((s.settle kind).turnsLeft kind)
  exact (settled.trans woken).tail (.tick _)

end Executed

end Scheduler
end ServiceBroker

/-
# At most one task holds a key

Tasks go through the stages outside, entering and inside of one key at a time.  The
invariant (`Scheduler.Exclusive`): a task at work that has a key is the holder of its lock,
the holder is at work, and those that wait for a key are still entering.  It is kept where a
task goes on, is granted its key, has to wait for it, or gives it back and ends.
-/

import ServiceBroker.Concurrency.Scheduler
import Mathlib.Data.List.Nodup
import Mathlib.Data.List.Perm.Basic
import Mathlib.Logic.Function.Basic

namespace ServiceBroker

section Lists

variable {α β : Type} (xs : List α) (x : α)

/-- What is picked of a list that grows by one. -/
theorem filterMap_snoc (f : α → Option β) :
    (xs ++ [x]).filterMap f = xs.filterMap f ++ (f x).toList := by
  rw [List.filterMap_append, List.filterMap_cons]
  cases f x <;> rfl

/-- How many there are of a kind in a list that grows by one. -/
theorem countP_snoc (p : α → Bool) : (xs ++ [x]).countP p = xs.countP p + (p x).toNat := by
  rw [List.countP_append, List.countP_singleton]
  cases p x <;> rfl

variable {xs}

/-- A list stays without repetition when it grows by something new. -/
theorem nodup_append_toList {next : Option α} (distinct : xs.Nodup) (new : ∀ x ∈ next, x ∉ xs) :
    (xs ++ next.toList).Nodup := by
  refine List.nodup_append.2 ⟨distinct, next.toList_nodup, ?_⟩
  rintro x old _ mem rfl
  exact new x (Option.mem_toList.1 mem) old

end Lists

namespace KeyedLock

variable {ρ : Type} (locks : KeyedLock ρ) (key k : Int64) (who : ρ)

/-- A key is given at once when nobody holds it. -/
theorem fst_request : (locks.request key who).1 = (locks.holder? key).isNone := by
  rw [request, holder?]
  rcases locks.get? key with _ | ⟨_ | holder, waiting⟩ <;> rfl

/-- Who requests a key holds it or waits at the end, and the other locks stay. -/
theorem get?_request : (locks.request key who).2.get? k =
    if k = key then
      some (match locks.get? key with
        | none => ⟨some who, []⟩
        | some ⟨none, waiting⟩ => ⟨some who, waiting⟩
        | some ⟨some holder, waiting⟩ => ⟨some holder, waiting ++ [who]⟩)
    else locks.get? k := by
  rw [request]
  rcases he : locks.get? key with _ | ⟨_ | holder, waiting⟩ <;> exact Table.get?_put _ _ _ _

/-- A key that is given back goes to who waits first, and the other locks stay. -/
theorem get?_release : (locks.release key).2.get? k =
    if k = key then
      (locks.get? key).map fun entry => ⟨entry.waiting.head?, entry.waiting.tail⟩
    else locks.get? k := by
  rw [release]
  rcases he : locks.get? key with _ | ⟨holder, _ | ⟨next, waiting⟩⟩
  · by_cases hk : k = key
    · simp [hk, he]
    · simp [hk]
  · exact Table.get?_put _ _ _ _
  · exact Table.get?_put _ _ _ _

/-- Who asks for a free key holds it. -/
theorem holder?_request : (locks.request key who).2.holder? k =
    if k = key then some ((locks.holder? key).getD who) else locks.holder? k := by
  rw [holder?, get?_request]
  by_cases hk : k = key
  · rw [if_pos hk, if_pos hk, holder?]
    rcases locks.get? key with _ | ⟨_ | holder, waiting⟩ <;> rfl
  · rw [if_neg hk, if_neg hk, holder?]

/-- Who asks for a held key comes last. -/
theorem queue_request : (locks.request key who).2.queue k =
    if k = key ∧ (locks.holder? key).isSome then locks.queue key ++ [who]
    else locks.queue k := by
  rw [queue, get?_request]
  by_cases hk : k = key
  · subst hk
    rw [if_pos rfl, holder?, queue]
    rcases locks.get? k with _ | ⟨_ | holder, waiting⟩ <;> simp
  · rw [if_neg hk, if_neg (fun h => hk h.1), queue]

/-- A key that is given up goes to the first who waits. -/
theorem fst_release : (locks.release key).1 = (locks.queue key).head? := by
  rw [release, queue]
  rcases locks.get? key with _ | ⟨holder, _ | ⟨next, waiting⟩⟩ <;> rfl

/-- Who waits first holds the key after it is given back. -/
theorem holder?_release : (locks.release key).2.holder? k =
    if k = key then (locks.queue key).head? else locks.holder? k := by
  rw [holder?, get?_release]
  by_cases hk : k = key
  · rw [if_pos hk, if_pos hk, queue]
    rcases locks.get? key with _ | ⟨holder, waiting⟩ <;> rfl
  · rw [if_neg hk, if_neg hk, holder?]

/-- Who waited first waits no more after the key is given back. -/
theorem queue_release : (locks.release key).2.queue k =
    if k = key then (locks.queue key).tail else locks.queue k := by
  rw [queue, get?_release]
  by_cases hk : k = key
  · rw [if_pos hk, if_pos hk, queue]
    rcases locks.get? key with _ | ⟨holder, waiting⟩ <;> rfl
  · rw [if_neg hk, if_neg hk, queue]

variable {locks key k who}

/-- Who waits goes on to wait after a key is given back, unless first in the queue for it. -/
theorem mem_queue_release (key : Int64) (waits : who ∈ locks.queue k) :
    who ∈ (locks.release key).2.queue k ∨ (locks.queue key).head? = some who := by
  rw [queue_release]
  by_cases hk : k = key
  · subst hk
    rw [if_pos rfl]
    cases queue : locks.queue k with
    | nil =>
      rw [queue] at waits
      cases waits
    | cons next others =>
      rw [queue, List.mem_cons] at waits
      exact waits.symm.imp_right fun first => congrArg some first.symm
  · rw [if_neg hk]
    exact .inl waits

/-- Who waits after a key is given back has waited before. -/
theorem mem_queue_of_release (waits : who ∈ (locks.release key).2.queue k) :
    who ∈ locks.queue k := by
  rw [queue_release] at waits
  split at waits
  · rename_i hk
    exact hk ▸ List.mem_of_mem_tail waits
  · exact waits

/-- Who is first in a queue, and comes in it once, waits no more after the key is given back. -/
theorem not_mem_queue_release (once : (locks.queue key).Nodup)
    (first : (locks.queue key).head? = some who) : who ∉ (locks.release key).2.queue key := by
  rw [queue_release, if_pos rfl]
  cases queue : locks.queue key with
  | nil =>
    rw [queue] at first
    cases first
  | cons next others =>
    rw [queue] at once first
    obtain rfl := Option.some.inj first
    exact (List.nodup_cons.1 once).1

end KeyedLock

namespace Scheduler

/-- Where a task stands to the one key that it ever asks for. -/
inductive Stage where
  | outside
  /-- It has asked for the key, and goes on when it holds it. -/
  | entering (key : Int64)
  | inside (key : Int64)

namespace Stage

/-- The key that a task waits for or holds. -/
def key? : Stage → Option Int64
  | outside => none
  | entering key | inside key => some key

/-- The stage after a turn that takes or gives no key. -/
def further : Stage → Stage
  | outside => outside
  | entering key | inside key => inside key

/-- Going further changes no key. -/
@[simp] theorem key?_further (stage : Stage) : stage.further.key? = stage.key? := by
  cases stage <;> rfl

end Stage

variable {τ σ : Type}

/-- **Who is at work has the keys.**  Of the tasks with their numbers, those at work and the locks:
every task is at work or waits; a task at work that has a key is the holder, the holder is at
work, and who waits for a key is not. -/
structure Exclusive (stage : τ → Stage) (added : Nat) (task? : TaskId → Option τ)
    (active : List TaskId) (locks : KeyedLock TaskId) : Prop where
  numbered : ∀ id task, task? id = some task → id < added
  nodup : active.Nodup
  running : ∀ id ∈ active, ∃ task, task? id = some task
  placed : ∀ id task, task? id = some task → id ∈ active ∨ ∃ key, id ∈ locks.queue key
  holding : ∀ id ∈ active, ∀ task, task? id = some task →
    ∀ key, (stage task).key? = some key → locks.holder? key = some id
  held : ∀ key id, locks.holder? key = some id →
    id ∈ active ∧ ∃ task, task? id = some task ∧ (stage task).key? = some key
  waiting : ∀ key, ∀ id ∈ locks.queue key,
    id ∉ active ∧ ∃ task, task? id = some task ∧ stage task = .entering key
  queues : ∀ key, (locks.queue key).Nodup
  served : ∀ key, locks.holder? key = none → locks.queue key = []

namespace Exclusive

variable {stage : τ → Stage} {added : Nat} {task? : TaskId → Option τ}
  {active : List TaskId} {locks : KeyedLock TaskId} {id : TaskId} {task : τ}

/-- Without tasks no key is held. -/
theorem empty (stage : τ → Stage) : Exclusive stage 0 (fun _ => none) [] {} where
  numbered := by rintro _ _ ⟨⟩
  nodup := List.nodup_nil
  running := by rintro _ ⟨⟩
  placed := by rintro _ _ ⟨⟩
  holding := by rintro _ ⟨⟩
  held := by rintro _ _ ⟨⟩
  waiting := by rintro _ _ ⟨⟩
  queues := fun _ => List.nodup_nil
  served := fun _ _ => rfl

/-- The order of those at work does not matter. -/
theorem perm (h : Exclusive stage added task? active locks) {active' : List TaskId}
    (hp : active'.Perm active) : Exclusive stage added task? active' locks where
  numbered := h.numbered
  nodup := hp.nodup_iff.2 h.nodup
  running id hid := h.running id (hp.mem_iff.1 hid)
  placed id task ht := (h.placed id task ht).imp_left hp.mem_iff.2
  holding id hid := h.holding id (hp.mem_iff.1 hid)
  held key id hk := (h.held key id hk).imp_left hp.mem_iff.2
  waiting key id hq := (h.waiting key id hq).imp_left fun hn ha => hn (hp.mem_iff.1 ha)
  queues := h.queues
  served := h.served

/-- A new task is at work and has no key yet. -/
theorem add (h : Exclusive stage added task? active locks) (hs : stage task = .outside) :
    Exclusive stage (added + 1) (Function.update task? added (some task)) (active ++ [added])
      locks := by
  have fresh : added ∉ active := fun ha => by
    obtain ⟨task, ht⟩ := h.running added ha
    exact absurd (h.numbered added task ht) (Nat.lt_irrefl _)
  have old {id : TaskId} {t : τ} (ht : task? id = some t) : id ≠ added :=
    Nat.ne_of_lt (h.numbered id t ht)
  have still {id : TaskId} {t : τ} (ht : task? id = some t) :
      Function.update task? added (some task) id = some t := by
    rw [Function.update_of_ne (old ht), ht]
  refine ⟨fun id t ht => ?_, ?_, fun id ha => ?_, fun id t ht => ?_,
    fun id ha t ht key hk => ?_, fun key id hk => ?_, fun key id hq => ?_, h.queues, h.served⟩
  · by_cases hid : id = added
    · rw [hid]
      exact Nat.lt_succ_self _
    · rw [Function.update_of_ne hid] at ht
      exact Nat.lt_succ_of_lt (h.numbered id t ht)
  · rw [List.nodup_append]
    refine ⟨h.nodup, List.nodup_singleton _, fun a ha b hb => ?_⟩
    rw [List.mem_singleton] at hb
    rintro rfl
    exact fresh (hb ▸ ha)
  · rcases List.mem_append.1 ha with ha | ha
    · obtain ⟨t, ht⟩ := h.running id ha
      exact ⟨t, still ht⟩
    · rw [List.mem_singleton.1 ha]
      exact ⟨task, Function.update_self _ _ _⟩
  · by_cases hid : id = added
    · exact .inl (List.mem_append_right _ (List.mem_singleton.2 hid))
    · rw [Function.update_of_ne hid] at ht
      exact (h.placed id t ht).imp_left (List.mem_append_left _)
  · by_cases hid : id = added
    · subst hid
      rw [Function.update_self, Option.some.injEq] at ht
      rw [← ht, hs] at hk
      cases hk
    · rw [Function.update_of_ne hid] at ht
      refine h.holding id ?_ t ht key hk
      rcases List.mem_append.1 ha with ha | ha
      · exact ha
      · exact absurd (List.mem_singleton.1 ha) hid
  · obtain ⟨ha, t, ht, hkey⟩ := h.held key id hk
    exact ⟨List.mem_append_left _ ha, t, still ht, hkey⟩
  · obtain ⟨ha, t, ht, hkey⟩ := h.waiting key id hq
    refine ⟨fun hm => ?_, t, still ht, hkey⟩
    rcases List.mem_append.1 hm with hm | hm
    · exact ha hm
    · exact old ht (List.mem_singleton.1 hm)

/-- Another task is as it was. -/
theorem still {i : TaskId} {t : τ} (hit : task? i = some t) (hi : i ≠ id) (new : Option τ) :
    Function.update task? id new i = some t := by
  rw [Function.update_of_ne hi, hit]

/-- The task that goes on has a number that was given. -/
theorem numbered_update (h : Exclusive stage added task? active locks) (ht : task? id = some task)
    (new : Option τ) {i : TaskId} {t : τ} (hi : Function.update task? id new i = some t) :
    i < added := by
  by_cases hid : i = id
  · exact hid ▸ h.numbered id task ht
  · rw [Function.update_of_ne hid] at hi
    exact h.numbered i t hi

/-- A task that is left is not the one that ended. -/
theorem ne_of_update_none {i : TaskId} {t : τ} (hit : Function.update task? id none i = some t) :
    i ≠ id := by
  rintro rfl
  rw [Function.update_self] at hit
  cases hit

/-- Who has another key is another task. -/
theorem ne_of_key? (ht : task? id = some task) {key : Int64} (hs : (stage task).key? ≠ some key)
    {i : TaskId} {t : τ} (hit : task? i = some t) (hkey : (stage t).key? = some key) : i ≠ id := by
  rintro rfl
  rw [ht, Option.some.injEq] at hit
  exact hs (hit ▸ hkey)

/-- Who waits is at work on nothing, and stays as it is when another takes its turn. -/
theorem waiting_still (h : Exclusive stage added task? active locks) (ha : id ∈ active)
    {key : Int64} {i : TaskId} (hq : i ∈ locks.queue key) (new : Option τ) :
    i ∉ active ∧ ∃ t, Function.update task? id new i = some t ∧ stage t = .entering key := by
  obtain ⟨hi, t, hit, hkey⟩ := h.waiting key i hq
  exact ⟨hi, t, still hit (fun hid => hi (by rwa [hid])) _, hkey⟩

/-- Who waits, waits for one key. -/
theorem waiting_inj (h : Exclusive stage added task? active locks) {k key : Int64} {i : TaskId}
    (hq : i ∈ locks.queue k) (hq' : i ∈ locks.queue key) : k = key := by
  obtain ⟨-, t, hit, hkt⟩ := h.waiting k i hq
  obtain ⟨-, t', hit', hkt'⟩ := h.waiting key i hq'
  obtain rfl : t = t' := Option.some.inj (hit.symm.trans hit')
  exact Stage.entering.inj (hkt.symm.trans hkt')

/-- Who holds a key that a task does not have stays as it is when that one takes its turn. -/
theorem held_still (h : Exclusive stage added task? active locks) (ht : task? id = some task)
    {key : Int64} (hs : (stage task).key? ≠ some key) {i : TaskId}
    (hk : locks.holder? key = some i) (new : Option τ) :
    i ∈ active ∧ i ≠ id ∧
      ∃ t, Function.update task? id new i = some t ∧ (stage t).key? = some key := by
  obtain ⟨hi, t, hit, hkey⟩ := h.held key i hk
  have hne := ne_of_key? ht hs hit hkey
  exact ⟨hi, hne, t, still hit hne _, hkey⟩

/-- Who is at work still runs when one of them goes on. -/
theorem running_update (h : Exclusive stage added task? active locks) (task' : τ) {i : TaskId}
    (hi : i ∈ active) : ∃ t, Function.update task? id (some task') i = some t := by
  by_cases hid : i = id
  · exact ⟨task', hid ▸ Function.update_self _ _ _⟩
  · rw [Function.update_of_ne hid]
    exact h.running i hi

/-- Who goes on at work is at work, and the others are at work or wait as before. -/
theorem placed_update (h : Exclusive stage added task? active locks) (ha : id ∈ active)
    (new : Option τ) {i : TaskId} {t : τ} (hit : Function.update task? id new i = some t) :
    i ∈ active ∨ ∃ key, i ∈ locks.queue key := by
  by_cases hid : i = id
  · exact .inl (hid ▸ ha)
  · rw [Function.update_of_ne hid] at hit
    exact h.placed i t hit

/-- A task that goes on keeps its key. -/
theorem further (h : Exclusive stage added task? active locks) (ha : id ∈ active)
    (ht : task? id = some task) {task' : τ} (hs : (stage task').key? = (stage task).key?) :
    Exclusive stage added (Function.update task? id (some task')) active locks where
  numbered _ _ := h.numbered_update ht _
  nodup := h.nodup
  running _ := h.running_update task'
  placed _ _ := h.placed_update ha _
  holding i hi t hit key hk := by
    by_cases hid : i = id
    · subst hid
      rw [Function.update_self, Option.some.injEq] at hit
      rw [← hit, hs] at hk
      exact h.holding i hi task ht key hk
    · rw [Function.update_of_ne hid] at hit
      exact h.holding i hi t hit key hk
  held key i hk := by
    obtain ⟨hi, t, hit, hkey⟩ := h.held key i hk
    refine ⟨hi, ?_⟩
    by_cases hid : i = id
    · subst hid
      rw [ht, Option.some.injEq] at hit
      exact ⟨task', Function.update_self _ _ _, by rw [hs, hit, hkey]⟩
    · exact ⟨t, still hit hid _, hkey⟩
  waiting _ _ hq := h.waiting_still ha hq _
  queues := h.queues
  served := h.served

/-- A task that asks for a free key holds it. -/
theorem granted (h : Exclusive stage added task? active locks) (ha : id ∈ active)
    (ht : task? id = some task) (hs : (stage task).key? = none) {task' : τ} {key : Int64}
    (hs' : stage task' = .entering key) (free : locks.holder? key = none) :
    Exclusive stage added (Function.update task? id (some task')) active
      (locks.request key id).2 := by
  have holder (k : Int64) : (locks.request key id).2.holder? k =
      if k = key then some id else locks.holder? k := by
    rw [KeyedLock.holder?_request, free]
    rfl
  have queue (k : Int64) : (locks.request key id).2.queue k = locks.queue k := by
    rw [KeyedLock.queue_request, free, if_neg (by simp)]
  exact {
    numbered := fun _ _ => h.numbered_update ht _
    nodup := h.nodup
    running := fun _ => h.running_update task'
    placed := fun _ _ hit => by
      simp only [queue]
      exact h.placed_update ha _ hit
    holding := fun i hi t hit k hk => by
      rw [holder]
      by_cases hid : i = id
      · subst hid
        rw [Function.update_self, Option.some.injEq] at hit
        rw [← hit, hs', Stage.key?, Option.some.injEq] at hk
        rw [if_pos hk.symm]
      · rw [Function.update_of_ne hid] at hit
        have held := h.holding i hi t hit k hk
        rw [if_neg, held]
        rintro rfl
        rw [free] at held
        cases held
    held := fun k i hk => by
      rw [holder] at hk
      by_cases hkey : k = key
      · rw [if_pos hkey] at hk
        obtain rfl : id = i := Option.some.inj hk
        exact ⟨ha, task', Function.update_self _ _ _, by rw [hs', hkey, Stage.key?]⟩
      · rw [if_neg hkey] at hk
        obtain ⟨hi, -, same⟩ := h.held_still ht (by simp [hs]) hk (some task')
        exact ⟨hi, same⟩
    waiting := fun k i hq => h.waiting_still ha (queue k ▸ hq) _
    queues := fun k => by
      rw [queue]
      exact h.queues k
    served := fun k hk => by
      rw [holder] at hk
      split at hk
      · cases hk
      · rw [queue]
        exact h.served k hk }

/-- A task that asks for a key that another one holds waits for it. -/
theorem blocked (h : Exclusive stage added task? (id :: active) locks)
    (ht : task? id = some task) (hs : (stage task).key? = none) {task' : τ} {key : Int64}
    (hs' : stage task' = .entering key) {holder : TaskId}
    (hheld : locks.holder? key = some holder) :
    Exclusive stage added (Function.update task? id (some task')) active
      (locks.request key id).2 := by
  obtain ⟨hid, nodup⟩ := List.nodup_cons.1 h.nodup
  have other {i : TaskId} (hi : i ∈ active) : i ≠ id := fun h => hid (h ▸ hi)
  have same (k : Int64) : (locks.request key id).2.holder? k = locks.holder? k := by
    rw [KeyedLock.holder?_request]
    split
    · rename_i hk
      rw [hk, hheld]
      rfl
    · rfl
  have queue (k : Int64) : (locks.request key id).2.queue k =
      if k = key then locks.queue key ++ [id] else locks.queue k := by
    rw [KeyedLock.queue_request, hheld]
    simp
  exact {
    numbered := fun _ _ => h.numbered_update ht _
    nodup := nodup
    running := fun _ hi => h.running_update task' (List.mem_cons_of_mem _ hi)
    placed := fun i t hit => by
      by_cases hid : i = id
      · refine .inr ⟨key, ?_⟩
        rw [queue, if_pos rfl, hid]
        exact List.mem_append_right _ List.mem_cons_self
      · rw [Function.update_of_ne hid] at hit
        rcases h.placed i t hit with ha | ⟨k, hq⟩
        · exact .inl ((List.mem_cons.1 ha).resolve_left hid)
        · refine .inr ⟨k, ?_⟩
          rw [queue]
          split
          · rename_i hk
            exact List.mem_append_left _ (hk ▸ hq)
          · exact hq
    holding := fun i hi t hit k hk => by
      rw [Function.update_of_ne (other hi)] at hit
      rw [same]
      exact h.holding i (List.mem_cons_of_mem _ hi) t hit k hk
    held := fun k i hk => by
      rw [same] at hk
      obtain ⟨hi, hne, kept⟩ := h.held_still ht (by simp [hs]) hk (some task')
      exact ⟨(List.mem_cons.1 hi).resolve_left hne, kept⟩
    waiting := fun k i hq => by
      have old (hq : i ∈ locks.queue k) : i ∉ active ∧ ∃ t,
          Function.update task? id (some task') i = some t ∧ stage t = .entering k := by
        obtain ⟨hi, kept⟩ := h.waiting_still List.mem_cons_self hq (some task')
        exact ⟨fun ha => hi (List.mem_cons_of_mem _ ha), kept⟩
      rw [queue] at hq
      split at hq
      · rename_i hk
        rcases List.mem_append.1 hq with hq | hq
        · exact old (hk ▸ hq)
        · rw [List.mem_singleton.1 hq]
          exact ⟨hid, task', Function.update_self _ _ _, hk ▸ hs'⟩
      · exact old hq
    queues := fun k => by
      rw [queue]
      split
      · refine List.nodup_append.2 ⟨h.queues key, List.nodup_singleton _, fun i hi j hj => ?_⟩
        rw [List.mem_singleton.1 hj]
        rintro rfl
        exact (h.waiting key i hi).1 List.mem_cons_self
      · exact h.queues k
    served := fun k hk => by
      rw [same] at hk
      rw [queue, if_neg, h.served k hk]
      rintro rfl
      rw [hheld] at hk
      cases hk }

/-- When a task ends, its key goes to the first that waits for it. -/
theorem released (h : Exclusive stage added task? (id :: active) locks)
    (ht : task? id = some task) {key : Int64} (hs : (stage task).key? = some key) :
    Exclusive stage added (Function.update task? id none)
      (active ++ (locks.queue key).head?.toList) (locks.release key).2 := by
  obtain ⟨hid, nodup⟩ := List.nodup_cons.1 h.nodup
  have other {i : TaskId} (hi : i ∈ active) : i ≠ id := fun h => hid (h ▸ hi)
  have mine := h.holding id List.mem_cons_self task ht key hs
  have waits {k : Int64} {i : TaskId} (hq : i ∈ locks.queue k) :=
    h.waiting_still List.mem_cons_self hq none
  exact {
    numbered := fun _ _ => h.numbered_update ht _
    nodup := nodup_append_toList nodup fun i first ha =>
      (waits (List.mem_of_mem_head? first)).1 (List.mem_cons_of_mem _ ha)
    running := fun i hi => by
      rcases List.mem_append.1 hi with hi | first
      · rw [Function.update_of_ne (other hi)]
        exact h.running i (List.mem_cons_of_mem _ hi)
      · obtain ⟨-, t, hit, -⟩ := waits (List.mem_of_mem_head? (Option.mem_toList.1 first))
        exact ⟨t, hit⟩
    placed := fun i t hit => by
      have hne := ne_of_update_none hit
      rw [Function.update_of_ne hne] at hit
      rcases h.placed i t hit with ha | ⟨k, hq⟩
      · exact .inl (List.mem_append_left _ ((List.mem_cons.1 ha).resolve_left hne))
      · rcases KeyedLock.mem_queue_release key hq with hq | first
        · exact .inr ⟨k, hq⟩
        · exact .inl (List.mem_append_right _ (Option.mem_toList.2 first))
    holding := fun i hi t hit k hk => by
      rw [KeyedLock.holder?_release]
      rcases List.mem_append.1 hi with ha | first
      · rw [Function.update_of_ne (other ha)] at hit
        have held := h.holding i (List.mem_cons_of_mem _ ha) t hit k hk
        rw [if_neg, held]
        rintro rfl
        rw [mine, Option.some.injEq] at held
        exact other ha held.symm
      · have first := Option.mem_toList.1 first
        obtain ⟨-, t', hit', hkt'⟩ := waits (List.mem_of_mem_head? first)
        obtain rfl : t = t' := Option.some.inj (hit.symm.trans hit')
        rw [hkt', Stage.key?, Option.some.injEq] at hk
        rw [if_pos hk.symm]
        exact first
    held := fun k i hk => by
      rw [KeyedLock.holder?_release] at hk
      split at hk
      · rename_i hkey
        obtain ⟨-, t, hit, hkt⟩ := waits (List.mem_of_mem_head? hk)
        refine ⟨List.mem_append_right _ (Option.mem_toList.2 hk), t, hit, ?_⟩
        rw [hkt, hkey, Stage.key?]
      · rename_i hkey
        obtain ⟨hi, hne, kept⟩ := h.held_still ht (by rw [hs]; simpa using Ne.symm hkey) hk none
        exact ⟨List.mem_append_left _ ((List.mem_cons.1 hi).resolve_left hne), kept⟩
    waiting := fun k i hq => by
      have old := KeyedLock.mem_queue_of_release hq
      obtain ⟨hi, kept⟩ := waits old
      refine ⟨fun ha => ?_, kept⟩
      rcases List.mem_append.1 ha with ha | first
      · exact hi (List.mem_cons_of_mem _ ha)
      · have first := Option.mem_toList.1 first
        obtain rfl := h.waiting_inj old (List.mem_of_mem_head? first)
        exact KeyedLock.not_mem_queue_release (h.queues k) first hq
    queues := fun k => by
      rw [KeyedLock.queue_release]
      split
      · exact (h.queues key).tail
      · exact h.queues k
    served := fun k hk => by
      rw [KeyedLock.holder?_release] at hk
      rw [KeyedLock.queue_release]
      split at hk
      · rename_i hkey
        rw [if_pos hkey, List.head?_eq_none_iff.1 hk, List.tail_nil]
      · rename_i hkey
        rw [if_neg hkey, h.served k hk] }

/-- A task that ends without a key leaves the locks as they are. -/
theorem ended (h : Exclusive stage added task? (id :: active) locks)
    (ht : task? id = some task) (hs : (stage task).key? = none) :
    Exclusive stage added (Function.update task? id none) active locks := by
  obtain ⟨hid, nodup⟩ := List.nodup_cons.1 h.nodup
  have other {i : TaskId} (hi : i ∈ active) : i ≠ id := fun h => hid (h ▸ hi)
  exact {
    numbered := fun _ _ => h.numbered_update ht _
    nodup := nodup
    running := fun i hi => by
      rw [Function.update_of_ne (other hi)]
      exact h.running i (List.mem_cons_of_mem _ hi)
    placed := fun i t hit => by
      have hne := ne_of_update_none hit
      rw [Function.update_of_ne hne] at hit
      exact (h.placed i t hit).imp_left fun ha => (List.mem_cons.1 ha).resolve_left hne
    holding := fun i hi t hit k hk => by
      rw [Function.update_of_ne (other hi)] at hit
      exact h.holding i (List.mem_cons_of_mem _ hi) t hit k hk
    held := fun k i hk => by
      obtain ⟨hi, hne, kept⟩ := h.held_still ht (by simp [hs]) hk none
      exact ⟨(List.mem_cons.1 hi).resolve_left hne, kept⟩
    waiting := fun k i hq => by
      obtain ⟨hi, kept⟩ := h.waiting_still List.mem_cons_self hq none
      exact ⟨fun ha => hi (List.mem_cons_of_mem _ ha), kept⟩
    queues := h.queues
    served := h.served }

end Exclusive

end Scheduler
end ServiceBroker

/-
# Deletions in memory never collide

Any number of requests to delete by name over a provider in memory, whose appliances come
and change of themselves: `Traffic.deletions_never_collide` states that deletions of one
appliance take turns, that every stop and delete finds its appliance, and that nothing is
turned off or removed but what a request found under its name.  The invariant
(`Traffic.Sound`): an appliance that is about to be turned off or removed is there, since
only the deletion that holds its lock could have removed it.
-/

import ServiceBroker.Proofs.Appliances
import ServiceBroker.Proofs.Sequence
import ServiceBroker.Proofs.Traffic

namespace ServiceBroker
namespace Deletion

/-- The phases from the decision to turn the appliance off, or to delete it, to its end. -/
def Phase.Committed : Phase → Prop
  | .stopping | .awaitingDown _ | .deleting => True
  | _ => False

open Provider (Memory inMemory)

/-- Who is committed to an appliance holds its lock. -/
theorem stage_of_committed {d : Deletion} (h : d.phase.Committed) : d.stage = .inside d.id := by
  obtain ⟨name, id, phase⟩ := d
  cases phase with
  | stopping => rfl
  | awaitingDown wait => rfl
  | deleting => rfl
  | _ => exact h.elim

/-- A deletion commits itself when it has read the appliance for its decision, and not before. -/
theorem committed_of_advance {σ : Type} (s : Settings σ) (id : ApplianceId) (now : Instant)
    (state : σ) {phase : Phase} (h : ((advance s id now state phase).1.1).Committed) :
    (phase.Committed ∧ phase ≠ .deleting) ∨
      phase = .refreshing ∧
        ∃ a, (s.provider.answer now (.read id) state).1.value = .ok (some a) := by
  have look (again : Polling → Phase) (ended : Instant → Except ProviderError Unit → Phase)
      (ha : ∀ wait, ¬(again wait).Committed)
      (he : ∀ time result, ¬(ended time result).Committed) (verdict : Polling.Verdict) :
      ¬((afterLook again ended verdict).1).Committed := by
    cases verdict with
    | ended result time => exact he time result
    | again wait time => exact ha wait
  cases phase with
  | queued => exact h.elim
  | examining =>
    simp only [advance] at h
    rcases hread : (s.provider.answer now (.read id) state).1.value with e | (_ | a)
    · rw [hread] at h
      exact h.elim
    · rw [hread] at h
      exact h.elim
    · rw [hread, afterExamining] at h
      split at h <;> exact h.elim
  | awaitingUp wait =>
    refine absurd h (look .awaitingUp (afterUp s) (fun _ => not_false) (fun _ result => ?_) _)
    cases result <;> exact not_false
  | awaitingRunning wait =>
    exact absurd h (look .awaitingRunning (fun _ _ => .refreshing) (fun _ => not_false)
      (fun _ _ => not_false) _)
  | refreshing =>
    simp only [advance] at h
    rcases hread : (s.provider.answer now (.read id) state).1.value with e | (_ | a)
    · rw [hread] at h
      exact h.elim
    · rw [hread] at h
      exact h.elim
    · exact .inr ⟨rfl, a, rfl⟩
  | stopping => exact .inl ⟨trivial, by simp⟩
  | awaitingDown wait => exact .inl ⟨trivial, by simp⟩
  | deleting => exact h.elim
  | ended => exact h.elim

/-- The appliance that a deletion is committed to is there after its turn as well, unless it
deletes it. -/
theorem isSome_get?_advance {s : Settings Memory} {mode : Provider.BootMode} {w i : Duration}
    (hs : s.provider = inMemory mode w i) (id : ApplianceId) (now : Instant) (m : Memory)
    {phase : Phase} (h : phase.Committed → (m.get? id).isSome)
    (hn : ((advance s id now m phase).1.1).Committed) :
    ((advance s id now m phase).2.get? id).isSome := by
  have answer (call : Provider.Call) := Provider.answer_of_inMemory hs now call m
  have keeps {call : Provider.Call} (ht : call.target? = some id) (hc : call ≠ .delete id)
      (there : (m.get? id).isSome) : ((Memory.answer mode call m).2.get? id).isSome := by
    rwa [Memory.isSome_get?_answer mode m id id ht hc]
  rw [advance_state]
  rcases committed_of_advance s id now m hn with ⟨committed, hd⟩ | ⟨rfl, a, hread⟩
  · cases phase with
    | stopping => simpa only [Phase.call?, answer] using keeps rfl (by simp) (h committed)
    | awaitingDown wait => simpa only [Phase.call?, answer] using keeps rfl (by simp) (h committed)
    | deleting => exact absurd rfl hd
    | _ => exact committed.elim
  · have there : (m.get? id).isSome := by
      rw [answer, Memory.answer] at hread
      split at hread
      · cases hread
      · rw [Memory.perform, Except.ok.injEq] at hread
        rw [hread]
        rfl
    simpa only [Phase.call?, answer] using keeps rfl (by simp) there

end Deletion

namespace Traffic

open Provider (Memory inMemory)
open Scheduler (taskIn Orderly)

/-- Requests to delete by name, over a provider in memory that changes of itself as well. -/
def orchestrator (s : BrokerSettings Memory) : World Memory (Except ServiceError Unit) where
  settings := s
  arrives u := ∃ name, u.program = (DatabaseHandler.deleteInstance name).run
  changes := Memory.Changes

/-- A request found an appliance with the number, and only that one, under the name. -/
def Found (events : List (Event Memory)) (request : Nat) (name : String) (id : ApplianceId) :
    Prop :=
  ∃ a, a.id = id ∧ Backend.found name a ∈ askedBy request events

/-- A deletion is of an appliance that the request that started it found under the name. -/
def Resolved (events : List (Event Memory)) (task : TaskId) (name : String) (id : ApplianceId) :
    Prop :=
  ∃ request before answer after,
    events = before ++ .asked request (.startDeletion name id) answer :: after ∧
      (started before).length = task ∧ Found before request name id

/-- The appliance that a call turns off or deletes, and whether it did. -/
def Made.harm? : Made → Option (ApplianceId × Except ProviderError Unit)
  | ⟨.stop id, answer⟩ | ⟨.delete id, answer⟩ => some (id, answer)
  | _ => none

/-- The number of the appliance that a step creates. -/
def Event.created? : Event Memory → Option ApplianceId
  | .changed before after => if after.lastId = before.lastId then none else some after.lastId
  | _ => none

/-- The number of the appliance that a step removes. -/
def Event.removed? : Event Memory → Option ApplianceId
  | .turned _ _ (some ⟨.delete id, .ok ()⟩) => some id
  | _ => none

/-- The appliances created, in this order. -/
def created (events : List (Event Memory)) : List ApplianceId := events.filterMap Event.created?

/-- The appliances removed, in this order. -/
def removed (events : List (Event Memory)) : List ApplianceId := events.filterMap Event.removed?

/-- A step adds the appliance that it creates. -/
theorem created_snoc (events : List (Event Memory)) (e : Event Memory) :
    created (events ++ [e]) = created events ++ e.created?.toList :=
  filterMap_snoc ..

/-- A step adds the appliance that it removes. -/
theorem removed_snoc (events : List (Event Memory)) (e : Event Memory) :
    removed (events ++ [e]) = removed events ++ e.removed?.toList :=
  filterMap_snoc ..

/-- A deletion stays resolved in later steps. -/
theorem Resolved.later {events : List (Event Memory)} {task : TaskId} {name : String}
    {id : ApplianceId} (h : Resolved events task name id) (e : Event Memory) :
    Resolved (events ++ [e]) task name id := by
  obtain ⟨request, before, answer, after, rfl, number, found⟩ := h
  exact ⟨request, before, answer, after ++ [e], by simp, number, found⟩

/-- **What holds of deletions in memory at any time.**  They are of what was found under a name, an
appliance that one is committed to is there, and no more appliances were removed under a number
than were created. -/
structure Sound (events : List (Event Memory))
    (t : Traffic Memory (Except ServiceError Unit)) : Prop where
  orderly : Orderly Deletion.stage t.deletions
  added : (started events).length = t.deletions.added
  resolved : ∀ i d, taskIn t.deletions.tasks i = some d → Resolved events i d.name d.id
  present : ∀ i d, taskIn t.deletions.tasks i = some d → d.phase.Committed →
    (t.broker.provider.get? d.id).isSome
  numbers : created events = (List.range (created events).length).map fun k => applianceId (k + 1)
  lastId : t.broker.provider.lastId = applianceId (created events).length
  balance : ∀ id, (removed events).count id + (t.broker.provider.get? id).isSome.toNat ≤
    (created events).count id

/-- All is sound before the first step. -/
theorem sound_start : Sound [] ⟨Broker.start {}, []⟩ where
  orderly := Scheduler.orderly_start _
  added := rfl
  resolved _ _ h := by cases h
  present _ _ h := by cases h
  numbers := rfl
  lastId := rfl
  balance _ := Nat.le_refl _

/-- No appliance is removed more often than it was created. -/
theorem Sound.removed_le_created {events : List (Event Memory)}
    {t : Traffic Memory (Except ServiceError Unit)} (h : Sound events t) (id : ApplianceId) :
    (removed events).count id ≤ (created events).count id :=
  le_trans (Nat.le_add_right _ _) (h.balance id)

/-- Until the numbers come round, each appliance is removed at most once. -/
theorem Sound.removed_nodup {events : List (Event Memory)}
    {t : Traffic Memory (Except ServiceError Unit)} (h : Sound events t)
    (few : (created events).length < 2 ^ 64) : (removed events).Nodup := by
  have distinct : (created events).Nodup := by
    rw [h.numbers]
    refine List.nodup_range.map_on fun j hj k hk same => ?_
    rw [List.mem_range] at hj hk
    have := applianceId_injective (by omega) (by omega) same
    omega
  rw [List.nodup_iff_count_le_one] at distinct ⊢
  exact fun id => (h.removed_le_created id).trans (distinct id)

section Steps

variable {s : BrokerSettings Memory} {mode : Provider.BootMode} {w i : Duration}
  (hs : s.provider = inMemory mode w i) {events : List (Event Memory)} {e : Event Memory}
  {t t' : Traffic Memory (Except ServiceError Unit)}

/-- How a step changes which appliances there are: not at all, by removing one, or by creating
one. -/
inductive Turnover (e : Event Memory) (m m' : Memory) : Prop where
  | none (created : e.created? = none) (removed : e.removed? = none) (lastId : m'.lastId = m.lastId)
    (kept : ∀ id, (m'.get? id).isSome = (m.get? id).isSome)
  | removed {task : TaskId} {d : Deletion} (is : e = .turned task d (some ⟨.delete d.id, .ok ()⟩))
    (committed : d.phase = .deleting) (lastId : m'.lastId = m.lastId)
    (there : (m.get? d.id).isSome) (gone : m'.get? d.id = Option.none)
    (kept : ∀ id ≠ d.id, (m'.get? id).isSome = (m.get? id).isSome)
  | created (created : e.created? = some m'.lastId) (removed : e.removed? = Option.none)
    (lastId : m'.lastId = m.lastId + 1)
    (kept : ∀ id, (m'.get? id).isSome ↔ (m.get? id).isSome ∨ id = m'.lastId)

/-- From outside nothing is removed. -/
theorem turnover_changed {m m' : Memory} (h : Memory.Changes m m') :
    Turnover (.changed m m') m m' := by
  by_cases same : m'.lastId = m.lastId
  · refine .none (if_pos same) rfl same fun id => ?_
    rcases h.isSome_get? id with ⟨-, kept⟩ | ⟨next, -⟩
    · rw [Bool.eq_iff_iff, kept]
    · exact absurd (same.symm.trans next) (ApplianceId.ne_add_one _)
  · have next (id : ApplianceId) := (h.isSome_get? id).resolve_left fun h => same h.1
    exact .created (if_neg same) rfl (next m.lastId).1 fun id => (next id).2

/-- A request finds an appliance first and then starts its deletion. -/
theorem Run.asks (run : Run (orchestrator s) ⟨Broker.start {}, []⟩ events t) {r : Nat}
    {engine : Engine} {call : Backend.Call}
    {next : call.Answer → Program Backend.interface (Except ServiceError Unit)}
    (asks : t.requests[r]? = some ⟨engine, .ask (I := Backend.interface) call next⟩) :
    ∃ name, call = .provider (.find name) ∨
      ∃ id, call = .startDeletion name id ∧ Found events r name id := by
  obtain ⟨p, ⟨name, rfl⟩, leads⟩ := (run.leads r).2 _ asks
  refine ⟨name, (Backend.asks_of_leads leads).imp_right ?_⟩
  rintro ⟨a, is, found⟩
  exact ⟨a.id, is, a, rfl, found⟩

/-- After a step there have been as many starts as there are deletions. -/
theorem Sound.step_added (h : Sound events t) (step : Step (orchestrator s) t e t') :
    (started (events ++ [e])).length = t'.deletions.added := by
  rw [started_snoc, List.length_append, step.added, h.added]

/-- After a step every deletion is of an appliance that a start had found. -/
theorem Sound.step_resolved (h : Sound events t)
    (run : Run (orchestrator s) ⟨Broker.start {}, []⟩ events t)
    (step : Step (orchestrator s) t e t') {i : TaskId} {d' : Deletion}
    (hi : taskIn t'.deletions.tasks i = some d') :
    Resolved (events ++ [e]) i d'.name d'.id := by
  rcases step.task hi with ⟨old, -⟩ | ⟨r, answer, rfl, rfl, -⟩ | ⟨d, rfl, old, rfl⟩
  · exact (h.resolved i d' old).later _
  · obtain ⟨engine, next, asks, -⟩ := step.asked
    refine ⟨r, events, answer, [], rfl, h.added, ?_⟩
    obtain ⟨name, is | ⟨id, is, found⟩⟩ := run.asks asks
    · cases is
    · cases is
      exact found
  · exact (h.resolved i d old).later _

include hs

/-- A turn removes an appliance only when it deletes it. -/
theorem turnover_give (h : Sound events t) {task : TaskId} {d : Deletion}
    (running : taskIn t.deletions.tasks task = some d) :
    Turnover (.turned task d (made? (orchestrator s) t d)) t.broker.provider
      (t.give (orchestrator s) task d).broker.provider := by
  have answer (call : Provider.Call) :=
    Provider.answer_of_inMemory hs t.broker.now call t.broker.provider
  have keeps {call : Provider.Call} (ht : call.target? = some d.id) (hd : call ≠ .delete d.id)
      (id : ApplianceId) : ((Memory.answer mode call t.broker.provider).2.get? id).isSome =
        (t.broker.provider.get? id).isSome := by
    refine Memory.isSome_get?_answer mode _ id d.id ht ?_
    rintro rfl
    exact hd (congrArg _ (Option.some.inj ht))
  rw [provider_give, made?]
  obtain ⟨name, id, phase⟩ := d
  cases phase with
  | queued => exact .none rfl rfl rfl fun _ => rfl
  | ended => exact .none rfl rfl rfl fun _ => rfl
  | deleting =>
    have there := h.present task _ running trivial
    simp only [Deletion.Phase.call?, Option.map_some, orchestrator, answer]
    cases hm : t.broker.provider.unavailable with
    | true =>
      have failed : Memory.answer mode (.delete id) t.broker.provider =
          (.error Memory.unavailableError, t.broker.provider) := if_pos hm
      rw [failed]
      exact .none rfl rfl rfl fun _ => rfl
    | false =>
      obtain ⟨a, ha⟩ := Option.isSome_iff_exists.1 there
      rw [Memory.answer_delete hm ha]
      refine .removed rfl rfl rfl there ?_ fun j hj => ?_
      · rw [Memory.get?_remove, if_pos rfl]
      · rw [Memory.get?_remove, if_neg hj]
  | _ =>
    simp only [Deletion.Phase.call?, Option.map_some, orchestrator, answer]
    exact .none rfl rfl (Memory.lastId_answer mode _ id rfl) (keeps rfl (by simp))

/-- A request to delete leaves the appliances as they are. -/
theorem Run.provider_asked (run : Run (orchestrator s) ⟨Broker.start {}, []⟩ events t) {r : Nat}
    {engine : Engine} {call : Backend.Call}
    {next : call.Answer → Program Backend.interface (Except ServiceError Unit)}
    (asks : t.requests[r]? = some ⟨engine, .ask (I := Backend.interface) call next⟩) :
    ∃ counts, (t.reply (orchestrator s) engine call).2.provider =
      { t.broker.provider with counts } := by
  obtain ⟨name, rfl | ⟨id, rfl, -⟩⟩ := run.asks asks
  · have found : (t.reply (orchestrator s) engine (.provider (.find name))).2.provider =
        (Memory.answer mode (.find name) t.broker.provider).2 :=
      congrArg Prod.snd (Provider.answer_of_inMemory hs _ _ _)
    rw [found, Memory.answer]
    split
    · exact ⟨_, rfl⟩
    · exact ⟨_, rfl⟩
  · exact ⟨_, rfl⟩

/-- Which appliances a step creates and removes. -/
theorem Sound.turnover (h : Sound events t)
    (run : Run (orchestrator s) ⟨Broker.start {}, []⟩ events t)
    (step : Step (orchestrator s) t e t') :
    Turnover e t.broker.provider t'.broker.provider := by
  cases step with
  | arrive may => exact .none rfl rfl rfl fun _ => rfl
  | @ask j engine call next asks =>
    obtain ⟨counts, hask⟩ := run.provider_asked hs asks
    rw [hask]
    exact .none rfl rfl rfl fun _ => rfl
  | @turn id d ready running => exact turnover_give hs h running
  | wake resting => exact .none rfl rfl rfl fun _ => rfl
  | tick now => exact .none rfl rfl rfl fun _ => rfl
  | change may => exact turnover_changed may

/-- What a deletion is committed to only that deletion could remove. -/
theorem Sound.step_present (h : Sound events t)
    (run : Run (orchestrator s) ⟨Broker.start {}, []⟩ events t)
    (step : Step (orchestrator s) t e t') {i : TaskId} {d' : Deletion}
    (hi : taskIn t'.deletions.tasks i = some d')
    (committed : d'.phase.Committed) : (t'.broker.provider.get? d'.id).isSome := by
  rcases step.task hi with ⟨old, other⟩ | ⟨r, answer, rfl, -, queued⟩ | ⟨d, rfl, old, rfl⟩
  · have there := h.present i d' old committed
    cases h.turnover hs run step with
    | none _ _ _ kept => rwa [kept]
    | @removed task d is deletes _ _ _ kept =>
      rw [kept d'.id ?_]
      · exact there
      -- Both would hold the lock.
      intro same
      subst is
      obtain ⟨-, running, -⟩ := step.turned
      have mine := h.orderly.holder?_inside old (Deletion.stage_of_committed committed)
      have its := h.orderly.holder?_inside running
        (Deletion.stage_of_committed (by rw [deletes]; trivial))
      rw [← same, mine] at its
      exact other d _ (by rw [Option.some.inj its])
    | created _ _ _ kept => exact (kept d'.id).2 (.inl there)
  · rw [queued] at committed
    exact committed.elim
  · obtain ⟨-, running, -, rfl⟩ := step.turned
    have there := Deletion.isSome_get?_advance hs d.id t.broker.now t.broker.provider
      (h.present i d running) committed
    rw [Deletion.advance_state] at there
    rw [provider_give]
    exact there

/-- Numbers are given once, and a removal takes what a creation gave. -/
theorem Sound.step_numbers (h : Sound events t)
    (run : Run (orchestrator s) ⟨Broker.start {}, []⟩ events t)
    (step : Step (orchestrator s) t e t') :
    created (events ++ [e]) =
        (List.range (created (events ++ [e])).length).map (fun k => applianceId (k + 1)) ∧
      t'.broker.provider.lastId = applianceId (created (events ++ [e])).length ∧
      ∀ id, (removed (events ++ [e])).count id + (t'.broker.provider.get? id).isSome.toNat ≤
        (created (events ++ [e])).count id := by
  rw [created_snoc, removed_snoc]
  cases h.turnover hs run step with
  | none unmade unremoved lastId kept =>
    simp only [unmade, unremoved, Option.toList_none, List.append_nil, lastId, kept]
    exact ⟨h.numbers, h.lastId, h.balance⟩
  | @removed task d is deletes lastId there gone kept =>
    subst is
    simp only [Event.created?, Event.removed?, Option.toList_none, List.append_nil,
      Option.toList_some, lastId]
    refine ⟨h.numbers, h.lastId, fun id => ?_⟩
    have balance := h.balance id
    rw [List.count_append, List.count_singleton]
    by_cases hid : id = d.id
    · subst hid
      rw [there] at balance
      rw [gone]
      simpa using balance
    · rw [kept id hid]
      simpa [Ne.symm hid] using balance
  | created made unremoved lastId kept =>
    have next : t'.broker.provider.lastId = applianceId ((created events).length + 1) := by
      rw [lastId, h.lastId, applianceId_succ]
    simp only [made, unremoved, Option.toList_some, Option.toList_none, List.append_nil,
      List.length_append, List.length_singleton]
    refine ⟨?_, next, fun id => ?_⟩
    · rw [List.range_succ, List.map_append, ← h.numbers, List.map_singleton, next]
    · have balance := h.balance id
      rw [List.count_append, List.count_singleton]
      by_cases hid : id = t'.broker.provider.lastId
      · have one := Bool.toNat_le (t'.broker.provider.get? id).isSome
        simp only [← hid, beq_self_eq_true, if_true]
        omega
      · have same : (t'.broker.provider.get? id).isSome = (t.broker.provider.get? id).isSome := by
          rw [Bool.eq_iff_iff, kept id]
          exact or_iff_left hid
        rw [same]
        omega

/-- **Every step keeps deletions sound.** -/
theorem Sound.step (h : Sound events t)
    (run : Run (orchestrator s) ⟨Broker.start {}, []⟩ events t)
    (step : Step (orchestrator s) t e t') :
    Sound (events ++ [e]) t' where
  orderly := step.orderly h.orderly
  added := h.step_added step
  resolved _ _ hi := h.step_resolved run step hi
  present _ _ hi := h.step_present hs run step hi
  numbers := (h.step_numbers hs run step).1
  lastId := (h.step_numbers hs run step).2.1
  balance := (h.step_numbers hs run step).2.2

/-- **Deletions are sound at any time.** -/
theorem Run.sound (run : Run (orchestrator s) ⟨Broker.start {}, []⟩ events t) :
    Sound events t := by
  induction run with
  | start => exact sound_start
  | step run step ih => exact ih.step hs run step

/-- A call that turns off or deletes is of a deletion that is committed to the appliance, and finds
it. -/
theorem Sound.harms (h : Sound events t) {task : TaskId} {d : Deletion} {made : Made}
    (step : Step (orchestrator s) t (.turned task d (some made)) t') {id : ApplianceId}
    {answer : Except ProviderError Unit} (harm : made.harm? = some (id, answer)) :
    d.id = id ∧ (t.broker.provider.get? id).isSome ∧ (answer = .ok () ∨
      t.broker.provider.unavailable = true ∧ answer = .error Memory.unavailableError) := by
  obtain ⟨-, running, hmade, -⟩ := step.turned
  have answered (call : Provider.Call) :=
    Provider.answer_of_inMemory hs t.broker.now call t.broker.provider
  obtain ⟨name, j, phase⟩ := d
  cases phase with
  | stopping =>
    cases hmade
    cases harm
    have there := h.present task _ running trivial
    refine ⟨rfl, there, ?_⟩
    rw [orchestrator, answered]
    exact (Memory.answer_of_isSome mode _ _ there).imp And.left
      fun failed => ⟨failed.1, failed.2.1⟩
  | deleting =>
    cases hmade
    cases harm
    have there := h.present task _ running trivial
    refine ⟨rfl, there, ?_⟩
    rw [orchestrator, answered]
    exact (Memory.answer_of_isSome mode _ _ there).imp And.right
      fun failed => ⟨failed.1, failed.2.2⟩
  | queued => cases hmade
  | ended => cases hmade
  | _ =>
    cases hmade
    cases harm

/-- An appliance changes from outside, or by a deletion of what was found under its name. -/
theorem Sound.changed (h : Sound events t)
    (run : Run (orchestrator s) ⟨Broker.start {}, []⟩ events t)
    (step : Step (orchestrator s) t e t') (id : ApplianceId) :
    t'.broker.provider.get? id = t.broker.provider.get? id ∨
      (∃ before after, e = .changed before after ∧
        ((before.get? id).isSome → (after.get? id).isSome)) ∨
      ∃ task d made, e = .turned task d (some made) ∧ made.harm? = some (id, .ok ()) ∧
        d.id = id ∧ Resolved events task d.name id := by
  cases step with
  | arrive may => exact .inl rfl
  | @ask j engine call next asks =>
    obtain ⟨counts, hask⟩ := run.provider_asked hs asks
    refine .inl ?_
    show (t.reply (orchestrator s) engine call).2.provider.get? id = _
    rw [hask]
    rfl
  | @turn task d ready running =>
    rw [provider_give, made?]
    cases hcall : d.phase.call? d.id with
    | none => exact .inl rfl
    | some call =>
      have target := Deletion.target?_of_call? hcall
      have answered := Provider.answer_of_inMemory hs t.broker.now call t.broker.provider
      simp only [orchestrator, Option.map_some, answered]
      rcases Memory.get?_answer mode t.broker.provider id d.id target with
        same | ⟨rfl, stopped⟩ | ⟨rfl, deleted⟩
      · exact .inl same
      · obtain rfl : id = d.id := Option.some.inj target
        exact .inr (.inr ⟨task, d, _, rfl, by rw [stopped]; rfl, rfl, h.resolved task d running⟩)
      · obtain rfl : id = d.id := Option.some.inj target
        exact .inr (.inr ⟨task, d, _, rfl, by rw [deleted]; rfl, rfl, h.resolved task d running⟩)
  | wake resting => exact .inl rfl
  | tick now => exact .inl rfl
  | change may =>
    refine .inr (.inl ⟨_, _, rfl, fun there => ?_⟩)
    rcases may.isSome_get? id with ⟨-, kept⟩ | ⟨-, kept⟩
    · exact kept.2 there
    · exact kept.2 (.inl there)

end Steps

/-- **While one deletion holds the lock of an appliance, no other calls the provider about it.** -/
theorem Run.held {σ α : Type} {w : World σ α} {t t' : Traffic σ α} {later : List (Event σ)}
    (h : Orderly Deletion.stage t.deletions) {id : ApplianceId} {task : TaskId}
    (held : t.deletions.locks.holder? id = some task) (run : Run w t later t')
    (going : ∀ d, d.phase = .ended → Event.turned task d none ∉ later) :
    t'.deletions.locks.holder? id = some task ∧
      ∀ other d made, Event.turned other d (some made) ∈ later →
        made.call.target? = some id → other = task := by
  induction run with
  | start => exact ⟨held, fun _ _ _ hin => absurd hin List.not_mem_nil⟩
  | @step before e t₁ t₂ run step ih =>
    obtain ⟨still, alone⟩ := ih fun d hd hin => going d hd (List.mem_append_left _ hin)
    refine ⟨?_, fun other d made hin target => ?_⟩
    · rcases step.holder (run.orderly h) still with held | ⟨d, rfl, -, hd⟩
      · exact held
      · exact absurd (List.mem_append_right _ List.mem_cons_self) (going d hd)
    · rcases List.mem_append.1 hin with old | new
      · exact alone other d made old target
      · obtain rfl := List.mem_singleton.1 new
        obtain ⟨its, holds⟩ := step.caller (run.orderly h)
        obtain rfl : d.id = id := Option.some.inj (its.symm.trans target)
        exact Option.some.inj (holds.symm.trans still)

/-- **Deletions in memory never collide.**  From an empty broker, after any requests, turns and
changes: a deletion calls the provider about its own appliance and holds its lock, and while it
holds it no other calls about that appliance; what turns an appliance off or deletes it was
started for it by the request that found it, and finds it unless the provider is unavailable; no
more appliances are removed under a number than were created, so each at most once while numbers
last; and an appliance changes only from outside, where none is lost, or by such a deletion. -/
theorem deletions_never_collide {s : BrokerSettings Memory} {mode : Provider.BootMode}
    {w i : Duration} (hs : s.provider = inMemory mode w i) {events : List (Event Memory)}
    {t : Traffic Memory (Except ServiceError Unit)}
    (run : Run (orchestrator s) ⟨Broker.start {}, []⟩ events t) :
    (∀ task d made t', Step (orchestrator s) t (.turned task d (some made)) t' →
      made.call.target? = some d.id ∧ t.deletions.locks.holder? d.id = some task) ∧
    (∀ id task later t', t.deletions.locks.holder? id = some task →
      Run (orchestrator s) t later t' →
      (∀ d, d.phase = .ended → Event.turned task d none ∉ later) →
      t'.deletions.locks.holder? id = some task ∧
        ∀ other d made, Event.turned other d (some made) ∈ later →
          made.call.target? = some id → other = task) ∧
    (∀ task d made t' id answer, Step (orchestrator s) t (.turned task d (some made)) t' →
      made.harm? = some (id, answer) →
      d.id = id ∧ Resolved events task d.name id ∧ (t.broker.provider.get? id).isSome ∧
        (answer = .ok () ∨
          t.broker.provider.unavailable = true ∧ answer = .error Memory.unavailableError)) ∧
    ((∀ id, (removed events).count id ≤ (created events).count id) ∧
      ((created events).length < 2 ^ 64 → (removed events).Nodup)) ∧
    ∀ e t' id, Step (orchestrator s) t e t' →
      t'.broker.provider.get? id = t.broker.provider.get? id ∨
        (∃ before after, e = .changed before after ∧
          ((before.get? id).isSome → (after.get? id).isSome)) ∨
        ∃ task d made, e = .turned task d (some made) ∧ made.harm? = some (id, .ok ()) ∧
          d.id = id ∧ Resolved events task d.name id := by
  have sound := run.sound hs
  refine ⟨fun task d made t' step => step.caller sound.orderly,
    fun id task later t' held run going => run.held sound.orderly held going,
    fun task d made t' id answer step harm => ?_, ⟨sound.removed_le_created, sound.removed_nodup⟩,
    fun e t' id step => sound.changed hs run step id⟩
  obtain ⟨-, running, -⟩ := step.turned
  obtain ⟨rfl, there, answered⟩ := sound.harms hs step harm
  exact ⟨rfl, sound.resolved task d running, there, answered⟩

/-- Two requests find one appliance and each starts its deletion: the second waits for the first
and then finds nothing to delete. -/
theorem removed_once_of_two :
    let w := orchestrator (Broker.inMemorySettings .instant (Chance.ofSeed []))
    ∃ events t, Run w ⟨Broker.start {}, []⟩ events t ∧
      started events = [("a", applianceId 1), ("a", applianceId 1)] ∧ t.deletions.tasks = [] ∧
      removed events = [applianceId 1] ∧ (removed events).Nodup := by
  intro w
  have empty : Run w ⟨Broker.start {}, []⟩ [] ⟨Broker.start {}, []⟩ := .start
  have made := empty.step (.change (.create .instant (.plain "a")))
  have one := made.step (.arrive (u := ⟨.mariaDb, _⟩) ⟨"a", rfl⟩)
  have two := one.step (.arrive (u := ⟨.mariaDb, _⟩) ⟨"a", rfl⟩)
  have run := two.follow [.request 0, .request 1, .request 0, .request 1, .deletion 0, .deletion 1,
    .deletion 0, .deletion 0, .deletion 0, .deletion 0, .deletion 0, .deletion 0,
    .deletion 1, .deletion 1]
  have once := (deletions_never_collide rfl run).2.2.2.1.2 (by decide +kernel)
  exact ⟨_, _, run, by decide +kernel, by decide +kernel, by decide +kernel, once⟩

end Traffic
end ServiceBroker

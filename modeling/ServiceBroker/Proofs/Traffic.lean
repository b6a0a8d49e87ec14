/-
# Requests and deletions at the same time

Any number of requests on their way, each a program on the backend, and the deletions
that they start: one call, one turn or one change of the provider after another, in any
order (`Traffic.Step`, `Traffic.Run`).  Whatever the order, a request has done what its
answers led it to (`Traffic.Run.leads`), the lock of an appliance is held by one deletion
from its grant to its end (`Traffic.Step.holder`), and only that one calls the provider
about the appliance (`Traffic.Step.caller`).
-/

import ServiceBroker.Broker
import ServiceBroker.Proofs.Asking
import ServiceBroker.Proofs.Moves
import ServiceBroker.Proofs.Sequence

namespace ServiceBroker
namespace Deletion

open Scheduler (Stage Disciplined)

/-- Where a deletion stands to the lock of its appliance. -/
def stage (d : Deletion) : Stage :=
  match d.phase with
  | .queued => .outside
  | .examining => .entering d.id
  | _ => .inside d.id

/-- No call leads back to the phases before the first reading. -/
theorem stage_advance {σ : Type} (s : Settings σ) (name : String) (id : ApplianceId)
    (now : Instant) (state : σ) {phase : Phase} (hp : phase ≠ .queued) :
    stage ⟨name, id, (advance s id now state phase).1.1⟩ = .inside id := by
  have look (again : Polling → Phase) (ended : Instant → Except ProviderError Unit → Phase)
      (ha : ∀ wait, stage ⟨name, id, again wait⟩ = .inside id)
      (he : ∀ time result, stage ⟨name, id, ended time result⟩ = .inside id)
      (verdict : Polling.Verdict) :
      stage ⟨name, id, (afterLook again ended verdict).1⟩ = .inside id := by
    cases verdict with
    | ended result time => exact he time result
    | again wait time => exact ha wait
  cases phase with
  | queued => exact absurd rfl hp
  | examining =>
    simp only [advance]
    rcases (s.provider.answer now (.read id) state).1.value with e | (_ | a)
    · rfl
    · rfl
    · rw [afterExamining]
      split <;> rfl
  | awaitingUp wait =>
    exact look _ _ (fun _ => rfl) (fun _ result => by cases result <;> rfl) _
  | awaitingRunning wait => exact look _ _ (fun _ => rfl) (fun _ _ => rfl) _
  | refreshing =>
    simp only [advance]
    rcases (s.provider.answer now (.read id) state).1.value with e | (_ | a)
    · rfl
    · rfl
    · rw [afterRefreshing]
      split
      · rfl
      · split <;> rfl
  | stopping =>
    simp only [advance]
    rcases (s.provider.answer now (.stop id) state).1.value with e | _ <;> rfl
  | awaitingDown wait =>
    exact look _ _ (fun _ => rfl) (fun _ result => by cases result <;> rfl) _
  | deleting => rfl
  | ended => rfl

/-- A deletion that calls the provider is past asking for its lock. -/
theorem key?_stage_of_call? {d : Deletion} {call : Provider.Call}
    (h : d.phase.call? d.id = some call) : d.stage.key? = some d.id := by
  obtain ⟨name, id, phase⟩ := d
  cases phase <;> cases h <;> rfl

/-- A call of a deletion is about its appliance. -/
theorem target?_of_call? {id : ApplianceId} {phase : Phase} {call : Provider.Call}
    (h : phase.call? id = some call) : call.target? = some id := by
  cases phase <;> cases h <;> rfl

/-- **Deletions take their lock first and give it up last.** -/
theorem disciplined {σ : Type} (s : Settings σ) : Disciplined (kind s) stage where
  rest := by
    rintro now ⟨name, id, phase⟩ shared time task' shared' h
    by_cases hp : phase = .queued
    · subst hp
      cases h
    · have inside := stage_advance s name id now shared.provider hp
      cases phase <;> cases h <;> exact inside
  acquire := by
    rintro now ⟨name, id, phase⟩ shared key task' shared' h
    cases phase <;> cases h
    exact ⟨rfl, rfl⟩
  finish := by
    rintro now ⟨name, id, phase⟩ shared key shared' h
    cases phase <;> cases h
    rfl

end Deletion

namespace Broker

variable {σ : Type} (s : BrokerSettings σ) (engine : Engine)

/-- The answer to a question of a handler, with whatever else is going on left for later. -/
def reply (b : Broker σ) : (call : Backend.Call) → call.Answer × Broker σ
  | .provider call =>
    let (answer, provider) := s.provider.answer b.now call b.provider
    (answer.value, b.setProvider provider)
  | .startDeletion name id => (answer s engine (.startDeletion name id)).run b
  | .dialect call => (answer s engine (.dialect call)).run b
  | .drawAdmin => (answer s engine .drawAdmin).run b
  | .drawBinding => (answer s engine .drawBinding).run b

end Broker

/-- A request on its way: what the service of an engine still has to do. -/
structure Underway (α : Type) where
  engine : Engine
  program : Program Backend.interface α

/-- A broker with the requests on their way. -/
structure Traffic (σ α : Type) where
  broker : Broker σ
  requests : List (Underway α) := []

namespace Traffic

open Scheduler (taskIn Orderly Move)

/-- A call to the provider and its answer. -/
structure Made where
  call : Provider.Call
  answer : call.Answer

/-- What happens in one step. -/
inductive Event (σ : Type) where
  /-- A request arrives. -/
  | arrived
  /-- A request asks the backend something. -/
  | asked (request : Nat) (call : Backend.Call) (answer : call.Answer)
  /-- A deletion, as it was before, takes a turn. -/
  | turned (task : TaskId) (deletion : Deletion) (made : Option Made)
  /-- Time passes, or a rest ends. -/
  | waited
  /-- The provider changes of itself. -/
  | changed (before after : σ)

/-- What a request starts the deletion of, with the name that it was found under. -/
def Event.started? {σ : Type} : Event σ → Option (String × ApplianceId)
  | .asked _ (.startDeletion name id) _ => some (name, id)
  | _ => none

/-- The deletions started, in this order, which is that of their numbers. -/
def started {σ : Type} (events : List (Event σ)) : List (String × ApplianceId) :=
  events.filterMap Event.started?

/-- A step adds the deletion that it starts. -/
theorem started_snoc {σ : Type} (events : List (Event σ)) (e : Event σ) :
    started (events ++ [e]) = started events ++ e.started?.toList :=
  filterMap_snoc ..

/-- What a request asks in a step, with the answer. -/
def Event.askedBy? {σ : Type} (r : Nat) : Event σ → Option (Program.Asked Backend.interface)
  | .asked i call answer => if i = r then some ⟨call, answer⟩ else none
  | _ => none

/-- A step in which a request asks something is this question with its answer. -/
theorem Event.eq_of_askedBy? {σ : Type} {r : Nat} {e : Event σ}
    {asked : Program.Asked Backend.interface} (h : e.askedBy? r = some asked) :
    e = .asked r asked.call asked.answer := by
  cases e with
  | asked i call answer =>
    rw [askedBy?] at h
    split_ifs at h with same
    cases h
    rw [same]
  | _ => cases h

/-- What a request asked, in this order. -/
def askedBy {σ : Type} (r : Nat) (events : List (Event σ)) :
    List (Program.Asked Backend.interface) :=
  events.filterMap (Event.askedBy? r)

/-- A step adds what the request asks in it. -/
theorem askedBy_snoc {σ : Type} (r : Nat) (events : List (Event σ)) (e : Event σ) :
    askedBy r (events ++ [e]) = askedBy r events ++ (e.askedBy? r).toList :=
  filterMap_snoc ..

/-- What is going on around a broker: the requests that may arrive and the changes of the
provider that nobody asked for. -/
structure World (σ α : Type) where
  settings : BrokerSettings σ
  arrives : Underway α → Prop
  changes : σ → σ → Prop

variable {σ α : Type} (w : World σ α)

/-- The deletions in the background. -/
abbrev deletions (t : Traffic σ α) : Deletions σ := t.broker.deletions

/-- The traffic with other deletions in the background. -/
def withDeletions (t : Traffic σ α) (deletions : Deletions σ) : Traffic σ α :=
  { t with broker := { t.broker with deletions } }

/-- The call that a deletion makes in its next turn. -/
def made? (t : Traffic σ α) (d : Deletion) : Option Made :=
  (d.phase.call? d.id).map fun call =>
    ⟨call, (w.settings.provider.answer t.broker.now call t.broker.provider).1.value⟩

/-- A deletion takes a turn. -/
def give (t : Traffic σ α) (id : TaskId) (d : Deletion) : Traffic σ α :=
  t.withDeletions (t.deletions.give (Deletion.kind w.settings.toSettings) id d
    (t.deletions.ready.erase id))

/-- The answer to a request that asks something. -/
def reply (t : Traffic σ α) (engine : Engine) (call : Backend.Call) :
    call.Answer × Broker σ :=
  t.broker.reply w.settings engine call

/-- **One step**: a request arrives or asks, a deletion that can go on takes a turn, a rest ends,
the clock is set, or the provider changes. -/
inductive Step (t : Traffic σ α) : Event σ → Traffic σ α → Prop where
  | arrive {u : Underway α} (may : w.arrives u) :
    Step t .arrived { t with requests := t.requests ++ [u] }
  | ask {i : Nat} {engine : Engine} {call : Backend.Call}
    {next : call.Answer → Program Backend.interface α}
    (asks : t.requests[i]? = some ⟨engine, .ask (I := Backend.interface) call next⟩) :
    Step t (.asked i call (t.reply w engine call).1)
      ⟨(t.reply w engine call).2,
        t.requests.set i ⟨engine, next (t.reply w engine call).1⟩⟩
  | turn {id : TaskId} {d : Deletion} (ready : id ∈ t.deletions.ready)
    (running : taskIn t.deletions.tasks id = some d) :
    Step t (.turned id d (made? w t d)) (t.give w id d)
  | wake {time : Instant} {id : TaskId} (resting : (time, id) ∈ t.deletions.resting) :
    Step t .waited (t.withDeletions { t.deletions with
      resting := t.deletions.resting.erase (time, id)
      ready := t.deletions.ready ++ [id] })
  | tick (now : Instant) : Step t .waited (t.withDeletions { t.deletions with now })
  | change {provider : σ} (may : w.changes t.broker.provider provider) :
    Step t (.changed t.broker.provider provider)
      { t with broker := t.broker.setProvider provider }

/-- Step after step, with everything that happened. -/
inductive Run (t : Traffic σ α) : List (Event σ) → Traffic σ α → Prop where
  | start : Run t [] t
  | step {events : List (Event σ)} {e : Event σ} {t₁ t₂ : Traffic σ α} (run : Run t events t₁)
    (step : Step w t₁ e t₂) : Run t (events ++ [e]) t₂

/-- Who goes on. -/
inductive Choice where
  | request (i : Nat)
  | deletion (id : TaskId)

/-- The step of the one that is chosen, when it can go on. -/
def next? (t : Traffic σ α) : Choice → Option (Event σ × Traffic σ α)
  | .request i =>
    match t.requests[i]? with
    | some ⟨engine, .ask call next⟩ =>
      let (answer, broker) := t.reply w engine call
      some (.asked i call answer, ⟨broker, t.requests.set i ⟨engine, next answer⟩⟩)
    | _ => none
  | .deletion id =>
    if id ∈ t.deletions.ready then
      (taskIn t.deletions.tasks id).map fun d => (.turned id d (made? w t d), t.give w id d)
    else none

/-- The steps of those that are chosen, one after another, up to one that cannot go on. -/
def follow : List Choice → Traffic σ α → List (Event σ) × Traffic σ α
  | [], t => ([], t)
  | choice :: rest, t =>
    match t.next? w choice with
    | none => ([], t)
    | some (e, t) =>
      let (events, t) := follow rest t
      (e :: events, t)

variable {w} {t t' : Traffic σ α} {e : Event σ}

/-- What is chosen and can go on is a step. -/
theorem step_of_next? {choice : Choice} (h : t.next? w choice = some (e, t')) : Step w t e t' := by
  cases choice with
  | request i =>
    rw [next?] at h
    split at h
    · rename_i engine call next asks
      cases h
      exact .ask asks
    · cases h
  | deletion id =>
    rw [next?] at h
    split_ifs at h with ready
    obtain ⟨d, running, h⟩ := Option.map_eq_some_iff.1 h
    cases h
    exact .turn ready running

/-- The step of one that can go on. -/
theorem Step.next (choice : Choice) (h : (t.next? w choice).isSome) :
    Step w t ((t.next? w choice).get h).1 ((t.next? w choice).get h).2 :=
  step_of_next? (Option.some_get h).symm

/-- What is chosen is a run. -/
theorem Run.follow {t₀ : Traffic σ α} {events : List (Event σ)} (choices : List Choice)
    (run : Run w t₀ events t) :
    Run w t₀ (events ++ (Traffic.follow w choices t).1) (Traffic.follow w choices t).2 := by
  induction choices generalizing t events with
  | nil => simpa [Traffic.follow] using run
  | cons choice rest ih =>
    rw [Traffic.follow]
    cases h : t.next? w choice with
    | none => simpa using run
    | some step =>
      obtain ⟨e, t'⟩ := step
      simpa using ih (run.step (step_of_next? h))

/-- A reply changes the deletions in the state of the provider only, unless it starts one. -/
theorem deletions_reply (t : Traffic σ α) (w : World σ α) (engine : Engine) (call : Backend.Call) :
    (∃ name id, call = .startDeletion name id ∧
      (t.reply w engine call).2.deletions = (t.deletions.start name id).2) ∨
    ∃ provider, (t.reply w engine call).2.deletions =
      { t.deletions with shared := { t.deletions.shared with provider } } := by
  cases call with
  | provider call => exact .inr ⟨_, rfl⟩
  | startDeletion name id => exact .inl ⟨name, id, rfl, rfl⟩
  | dialect call => exact .inr ⟨_, by cases engine <;> rfl⟩
  | drawAdmin => exact .inr ⟨_, rfl⟩
  | drawBinding => exact .inr ⟨_, rfl⟩

/-- **Every step keeps the locks where the deletions are.** -/
theorem Step.orderly (h : Orderly Deletion.stage t.deletions) (step : Step w t e t') :
    Orderly Deletion.stage t'.deletions := by
  cases step with
  | arrive may => exact h
  | @ask i engine call next asks =>
    rcases t.deletions_reply w engine call with ⟨name, id, -, hd⟩ | ⟨provider, hd⟩
    · show Orderly Deletion.stage (t.reply w engine call).2.deletions
      rw [hd]
      exact Orderly.add (s := { t.deletions with shared := _ }) h rfl
    · show Orderly Deletion.stage (t.reply w engine call).2.deletions
      rw [hd]
      exact h
  | turn ready running => exact h.give (Deletion.disciplined _) ready running
  | wake resting => exact h.move (Deletion.disciplined w.settings.toSettings) (.wake resting)
  | tick now => exact h.move (Deletion.disciplined w.settings.toSettings) (.tick now)
  | change may => exact h

/-- In every run the locks are where the deletions are. -/
theorem Run.orderly (h : Orderly Deletion.stage t.deletions) {events : List (Event σ)}
    (run : Run w t events t') : Orderly Deletion.stage t'.deletions := by
  induction run with
  | start => exact h
  | step _ step ih => exact step.orderly ih

/-- What a step is in which a deletion takes a turn. -/
theorem Step.turned {task : TaskId} {d : Deletion} {made : Option Made}
    (step : Step w t (.turned task d made) t') :
    task ∈ t.deletions.ready ∧ taskIn t.deletions.tasks task = some d ∧
      made = made? w t d ∧ t' = t.give w task d := by
  generalize he : Event.turned task d made = e at step
  cases step with
  | turn ready running =>
    cases he
    exact ⟨ready, running, rfl, rfl⟩
  | _ => cases he

/-- What a step is in which a request asks. -/
theorem Step.asked {r : Nat} {call : Backend.Call} {answer : call.Answer}
    (step : Step w t (.asked r call answer) t') :
    ∃ engine next, t.requests[r]? = some ⟨engine, .ask (I := Backend.interface) call next⟩ ∧
      t'.broker = (t.reply w engine call).2 := by
  generalize he : Event.asked r call answer = e at step
  cases step with
  | ask asks =>
    cases he
    exact ⟨_, _, asks, rfl⟩
  | _ => cases he

/-- A turn changes the provider by the call of its phase. -/
theorem provider_give (t : Traffic σ α) (w : World σ α) (id : TaskId) (d : Deletion) :
    (t.give w id d).broker.provider =
      match d.phase.call? d.id with
      | none => t.broker.provider
      | some call => (w.settings.provider.answer t.broker.now call t.broker.provider).2 := by
  have shared : (t.give w id d).broker.provider =
      (Deletion.turn w.settings.toSettings t.broker.now d t.deletions.shared).2.provider :=
    congrArg Deletion.Shared.provider (Scheduler.shared_give _ _ _ _ _)
  rw [shared]
  obtain ⟨name, key, phase⟩ := d
  cases phase <;> rfl

/-- After a turn the deletion is in its next phase, and the others are as they were. -/
theorem taskIn_give {t : Traffic σ α} {id i : TaskId} {d d' : Deletion}
    (running : taskIn t.deletions.tasks id = some d)
    (hi : taskIn (t.give w id d).deletions.tasks i = some d') :
    i ≠ id ∧ taskIn t.deletions.tasks i = some d' ∨
      i = id ∧ d' = { d with phase := (Deletion.advance w.settings.toSettings d.id t.broker.now
        t.broker.provider d.phase).1.1 } := by
  rcases Scheduler.taskIn_give running hi with other | ⟨rfl, ⟨time, hturn⟩ | ⟨key, hturn⟩⟩
  · exact .inl other
  · obtain ⟨name, key, phase⟩ := d
    cases phase <;> cases hturn <;> exact .inr ⟨rfl, rfl⟩
  · obtain ⟨name, key, phase⟩ := d
    cases phase <;> cases hturn
    exact .inr ⟨rfl, rfl⟩

/-- After a step a deletion is as it was, was started, or has taken its turn. -/
theorem Step.task (step : Step w t e t') {i : TaskId} {d' : Deletion}
    (hi : taskIn t'.deletions.tasks i = some d') :
    (taskIn t.deletions.tasks i = some d' ∧ ∀ d made, e ≠ .turned i d made) ∨
      (∃ request answer, e = .asked request (.startDeletion d'.name d'.id) answer ∧
        i = t.deletions.added ∧ d'.phase = .queued) ∨
      ∃ d, e = .turned i d (made? w t d) ∧ taskIn t.deletions.tasks i = some d ∧
        d' = { d with phase := (Deletion.advance w.settings.toSettings d.id t.broker.now
          t.broker.provider d.phase).1.1 } := by
  cases step with
  | @ask r engine call next asks =>
    change taskIn (t.reply w engine call).2.deletions.tasks i = some d' at hi
    rcases t.deletions_reply w engine call with ⟨name, id, rfl, hd⟩ | ⟨provider, hd⟩
    · rw [hd] at hi
      rcases Scheduler.taskIn_add hi with old | ⟨new, rfl⟩
      · exact .inl ⟨old, fun _ _ => nofun⟩
      · exact .inr (.inl ⟨r, _, rfl, new, rfl⟩)
    · rw [hd] at hi
      exact .inl ⟨hi, fun _ _ => nofun⟩
  | @turn id d ready running =>
    rcases taskIn_give running hi with ⟨hne, old⟩ | ⟨rfl, new⟩
    · refine .inl ⟨old, fun d made h => ?_⟩
      cases h
      exact hne rfl
    · exact .inr (.inr ⟨d, rfl, running, new⟩)
  | _ => exact .inl ⟨hi, fun _ _ => nofun⟩

/-- Deletions are numbered as they are started. -/
theorem Step.added (step : Step w t e t') :
    t'.deletions.added = t.deletions.added + e.started?.toList.length := by
  cases step with
  | @ask r engine call next asks =>
    cases call with
    | dialect call => cases engine <;> rfl
    | _ => rfl
  | turn ready running => exact Scheduler.added_give _ _ _ _ _
  | _ => rfl

/-- A step changes no other request than the one that asks. -/
theorem Step.request (step : Step w t e t') {r : Nat} (hr : r < t.requests.length)
    (he : e.askedBy? r = none) : t'.requests[r]? = t.requests[r]? := by
  cases step with
  | arrive may => exact List.getElem?_append_left hr
  | @ask i engine call next asks =>
    refine List.getElem?_set_ne ?_
    rintro rfl
    cases (if_pos rfl).symm.trans he
  | _ => rfl

/-- Every request has done what its answers led it to, and has asked nothing before it arrived. -/
def Led (w : World σ α) (events : List (Event σ)) (t : Traffic σ α) : Prop :=
  ∀ r, (t.requests.length ≤ r → askedBy r events = []) ∧ ∀ u, t.requests[r]? = some u →
    ∃ p, w.arrives ⟨u.engine, p⟩ ∧ p.Leads (askedBy r events) u.program

/-- A step leads the request that asks on by its answer, and no other. -/
theorem Step.led {events : List (Event σ)} (led : Led w events t) (step : Step w t e t') :
    Led w (events ++ [e]) t' := by
  intro r
  obtain ⟨silent, leads⟩ := led r
  rw [askedBy_snoc]
  cases step with
  | @arrive u may =>
    rw [List.length_append, List.length_singleton]
    refine ⟨fun hr => by rw [silent (by omega)]; rfl, fun v hv => ?_⟩
    rw [List.getElem?_append] at hv
    split at hv
    · simpa [Event.askedBy?] using leads v hv
    · rw [List.getElem?_singleton] at hv
      split at hv
      · cases hv
        rw [silent (by omega)]
        exact ⟨_, may, .start _⟩
      · cases hv
  | @ask i engine call next asks =>
    have inside : i < t.requests.length := (List.getElem?_eq_some_iff.1 asks).1
    rw [List.length_set]
    by_cases same : i = r
    · subst same
      refine ⟨fun hr => absurd inside (by omega), fun v hv => ?_⟩
      rw [List.getElem?_set_self inside, Option.some.injEq] at hv
      obtain ⟨p, may, before⟩ := leads _ asks
      subst hv
      have after := before.snoc (t.reply w engine call).1
      exact ⟨p, may, by simpa [Event.askedBy?] using after⟩
    · have nothing : (Event.asked i call (t.reply w engine call).1 : Event σ).askedBy? r =
        none := if_neg same
      rw [nothing, Option.toList_none, List.append_nil]
      refine ⟨silent, fun v hv => leads v ?_⟩
      rwa [List.getElem?_set_ne same] at hv
  | _ =>
    refine ⟨fun hr => ?_, fun v hv => ?_⟩
    · simpa [Event.askedBy?] using silent hr
    · simpa [Event.askedBy?] using leads v hv

/-- Before the first step no request has arrived. -/
theorem led_start (w : World σ α) (b : Broker σ) : Led w [] ⟨b, []⟩ :=
  fun _ => ⟨fun _ => rfl, fun _ hu => by cases hu⟩

/-- **A request on its way has done what its answers led it to.** -/
theorem Run.leads {b : Broker σ} {events : List (Event σ)} (run : Run w ⟨b, []⟩ events t)
    (r : Nat) :
    (t.requests.length ≤ r → askedBy r events = []) ∧ ∀ u, t.requests[r]? = some u →
      ∃ p, w.arrives ⟨u.engine, p⟩ ∧ p.Leads (askedBy r events) u.program := by
  have led : Led w events t := by
    induction run with
    | start => exact led_start w b
    | step _ step ih => exact step.led ih
  exact led r

/-- **A deletion holds the lock of its appliance until it ends.** -/
theorem Step.holder (h : Orderly Deletion.stage t.deletions) (step : Step w t e t')
    {id : ApplianceId} {task : TaskId} (held : t.deletions.locks.holder? id = some task) :
    t'.deletions.locks.holder? id = some task ∨
      ∃ d, e = .turned task d none ∧ d.id = id ∧ d.phase = .ended := by
  cases step with
  | arrive may => exact .inl held
  | @ask i engine call next asks =>
    refine .inl ?_
    show (t.reply w engine call).2.deletions.locks.holder? id = some task
    rcases t.deletions_reply w engine call with ⟨name, id, -, hd⟩ | ⟨provider, hd⟩
    · rw [hd]
      exact held
    · rw [hd]
      exact held
  | @turn _ d ready running =>
    rcases h.holder?_give (Deletion.disciplined w.settings.toSettings) ready running held with
      held | ⟨rfl, shared, ends⟩
    · exact .inl held
    · obtain ⟨name, key, phase⟩ := d
      cases phase <;> cases ends
      exact .inr ⟨⟨name, key, .ended⟩, rfl, rfl, rfl⟩
  | wake resting => exact .inl held
  | tick now => exact .inl held
  | change may => exact .inl held

/-- **Only the deletion that holds the lock of an appliance calls the provider about it.** -/
theorem Step.caller (h : Orderly Deletion.stage t.deletions) {task : TaskId} {d : Deletion}
    {made : Made} (step : Step w t (.turned task d (some made)) t') :
    made.call.target? = some d.id ∧ t.deletions.locks.holder? d.id = some task := by
  obtain ⟨ready, running, hmade, -⟩ := step.turned
  obtain ⟨call, hcall, rfl⟩ := Option.map_eq_some_iff.1 hmade.symm
  refine ⟨Deletion.target?_of_call? hcall, ?_⟩
  exact h.holding task (List.mem_append_left _ ready) d running d.id
    (Deletion.key?_stage_of_call? hcall)

end Traffic
end ServiceBroker

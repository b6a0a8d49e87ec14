/-
# Deprovisioned any number of times, deleted once

Any number of requests to deprovision one instance over a provider in memory, at the same
time and in any order of their steps and of the turns of the deletions that they start.
`Traffic.deprovisioned_deletes_once` states what each of them answers, and that the
appliance was deleted by one call when no deletion of it is left.  The steps keep
`Traffic.Fate` (`Traffic.Timely.fate`), and the searches of a request are put in the order of
the run by it.
-/

import ServiceBroker.Proofs.Fate

namespace ServiceBroker
namespace Traffic

open Provider (Memory inMemory)
open Scheduler (taskIn Orderly)

variable {events : List (Event Memory)}

/-- A broker whose provider has an appliance, alone under its name, that can be deprovisioned and of
which no deletion is pending. -/
structure Deletable (b : Broker Memory) (name : String) (a : Appliance) : Prop where
  shows : b.provider.Shows name a.id (some a)
  still : a.isMigrating = false
  known : a.isUp = true ∨ a.isFailed = true
  orderly : Orderly Deletion.stage b.deletions
  counted : Counted b.deletions
  others : ∀ task d, taskIn b.deletions.tasks task = some d → d.id ≠ a.id

/-- What a request to deprovision answers, and when: that the instance is gone when it searched for
it after it was deleted, and that it failed when it was deleted between its two searches. -/
inductive Answered (events : List (Event Memory)) (name : String) (id : ApplianceId) (r : Nat) :
    Lifecycle.Outcome → Prop where
  | accepted : Answered events name id r (.deprovision .accepted)
  | gone {before after : List (Event Memory)}
    (searched : events = before ++ .asked r (.provider (.find name)) (.ok []) :: after)
    (deleted : id ∈ removed before) : Answered events name id r (.deprovision .gone)
  | internalError {before between after : List (Event Memory)} {seen : Appliance}
    (searched : events = before ++ .asked r (.provider (.find name)) (.ok [seen]) ::
      (between ++ .asked r (.provider (.find name)) (.ok []) :: after))
    (there : id ∉ removed before) (deleted : id ∈ removed between) :
    Answered events name id r (.deprovision .internalError)

section Runs

variable {s : BrokerSettings Memory} {mode : Provider.BootMode} {w i : Duration}
  (hs : s.provider = inMemory mode w i) {b : Broker Memory} {name : String} {a : Appliance}
  {t : Traffic Memory Lifecycle.Outcome} {r : Nat} {outcome : Lifecycle.Outcome}
include hs

/-- **The appliance is in one of these states at any time.** -/
theorem Timely.fate (start : Deletable b name a)
    (run : Timely (teardown s name a.id) ⟨b, []⟩ events t) : Fate name a events t := by
  induction run with
  | start =>
    exact .intact start.shows ⟨rfl, rfl, rfl⟩
      (fun task d hd its => absurd its (start.others task d hd))
      (by rintro ⟨n, ⟨⟩⟩)
  | step run step onTime ih =>
    exact ih.step hs start.still start.known (run.run.orderly start.orderly) run.run step onTime

/-- What a search found: the appliance until it was deleted, and as it stood at first until it was
turned off. -/
theorem Timely.searched (start : Deletable b name a) {before after : List (Event Memory)}
    {answer : Except ProviderError (List Appliance)}
    (run : Timely (teardown s name a.id) ⟨b, []⟩
      (before ++ .asked r (.provider (.find name)) answer :: after) t) :
    ∃ shown : Option Appliance, answer = .ok shown.toList ∧ (∀ x ∈ shown, x.isMigrating = false) ∧
      (shown = none ↔ a.id ∈ removed before) ∧
      (∀ later, Tally (before ++ later) a.id 0 0 → shown = some a) := by
  obtain ⟨t₁, t₂, run, step⟩ := run.split
  obtain ⟨engine, -, -, is⟩ := step.answered
  have found {shown : Option Appliance} (shows : t₁.broker.provider.Shows name a.id shown) :
      answer = .ok shown.toList := by
    rw [is, reply_find (w := teardown s name a.id) hs t₁ shows.available, ← shows.found]
  cases Timely.fate hs start run with
  | intact shows tally =>
    exact ⟨some a, found shows, by rintro x ⟨⟩; exact start.still,
      iff_of_false nofun tally.not_mem_removed, fun _ _ => rfl⟩
  | off up shows tally =>
    refine ⟨some a.turnedOff, found shows, by rintro x ⟨⟩; exact start.still,
      iff_of_false nofun tally.not_mem_removed, fun later none_yet => ?_⟩
    exact absurd (tally.le_append none_yet).1 (by decide)
  | gone shows tally =>
    refine ⟨none, found shows, nofun, iff_of_true rfl tally.mem_removed, fun later none_yet => ?_⟩
    exact absurd (tally.le_append none_yet).2 (by decide)

/-- What every request answers. -/
theorem Timely.answered (start : Deletable b name a)
    (run : Timely (teardown s name a.id) ⟨b, []⟩ events t) (done : t.outcome? r = some outcome) :
    Answered events name a.id r outcome := by
  obtain ⟨engine, p, ⟨handler, is⟩, leads⟩ := run.run.leads_of_outcome done
  obtain ⟨-, rfl⟩ := Underway.mk.inj is
  have single (answer : Except ProviderError (List Appliance))
      (asked : ⟨.provider (.find name), answer⟩ ∈ askedBy r events) :
      ∃ shown : Option Appliance, answer = .ok shown.toList ∧
        ∀ x ∈ shown, x.isMigrating = false := by
    obtain ⟨before, after, rfl⟩ := split_of_mem_askedBy asked
    obtain ⟨shown, found, still, -⟩ := run.searched hs start
    exact ⟨shown, found, still⟩
  rcases handler.asked_of_deprovision leads single with rfl | ⟨rfl, whole⟩ | ⟨rfl, seen, whole⟩
  · exact .accepted
  · obtain ⟨before, after, rfl, -⟩ := split_of_askedBy whole
    obtain ⟨shown, found, -, gone, -⟩ := run.searched hs start
    refine .gone rfl (gone.1 ?_)
    cases shown with
    | none => rfl
    | some x => cases found
  · obtain ⟨before, rest, rfl, later⟩ := split_of_askedBy whole
    obtain ⟨between, after, rfl, -⟩ := split_of_askedBy later
    obtain ⟨_ | x, found, -, there, -⟩ := run.searched hs start
    · cases found
    -- The second search is that of a run that begins with what came before it.
    rw [← List.cons_append, ← List.append_assoc] at run
    obtain ⟨_ | x, found, -, gone, -⟩ := run.searched hs start
    · refine .internalError rfl (fun gone => nomatch there.2 gone) ?_
      have deleted := gone.1 rfl
      rw [removed, List.filterMap_append, List.filterMap_cons, List.mem_append] at deleted
      exact deleted.resolve_left fun gone => nomatch there.2 gone
    · cases found

/-- **A request that was answered, with no deletion pending, has had the appliance deleted.** -/
theorem Timely.deleted (start : Deletable b name a)
    (run : Timely (teardown s name a.id) ⟨b, []⟩ events t) (done : t.outcome? r = some outcome)
    (ended : ¬t.Pending a.id) :
    t.broker.provider.Shows name a.id none ∧ Tally events a.id a.isUp.toNat 1 := by
  cases run.fate hs start with
  | gone shows tally => exact ⟨shows, tally⟩
  | off up shows tally holder =>
    obtain ⟨task, d, hd, its, -⟩ := holder
    exact absurd ⟨task, d, hd, its⟩ ended
  | intact shows tally phases begun =>
    exfalso
    have found (answer : Except ProviderError (List Appliance))
        (asked : ⟨.provider (.find name), answer⟩ ∈ askedBy r events) : answer = .ok [a] := by
      obtain ⟨before, after, rfl⟩ := split_of_mem_askedBy asked
      obtain ⟨shown, found, -, -, first⟩ := run.searched hs start
      exact found.trans (by rw [first _ tally]; rfl)
    cases run.answered hs start done with
    | gone searched deleted =>
      refine tally.not_mem_removed ?_
      rw [searched, removed, List.filterMap_append]
      exact List.mem_append_left _ deleted
    | internalError searched there deleted =>
      refine tally.not_mem_removed ?_
      rw [searched, removed, List.filterMap_append, List.filterMap_cons, List.filterMap_append]
      exact List.mem_append_right _ (List.mem_append_left _ deleted)
    | accepted =>
      obtain ⟨engine, p, ⟨handler, is⟩, leads⟩ := run.run.leads_of_outcome done
      obtain ⟨-, rfl⟩ := Underway.mk.inj is
      obtain ⟨n, seen, is, -, asked⟩ := handler.asked_of_outcome leads
      obtain rfl := Lifecycle.Request.deprovision.inj is
      rcases asked with ⟨-, x, whole⟩ | ⟨neither, whole⟩
      · have same := found (.ok [x])
          (by rw [whole]; exact List.mem_cons_of_mem _ List.mem_cons_self)
        obtain rfl : x = a := List.singleton_inj.1 (Except.ok.inj same)
        have starts : Backend.startedDeletion name x.id ∈ askedBy r events := by
          rw [whole]
          simp
        obtain ⟨before, after, rfl⟩ := split_of_mem_askedBy starts
        refine ended (begun ⟨name, ?_⟩)
        rw [started, List.filterMap_append]
        exact List.mem_append_right _ List.mem_cons_self
      · have same := found (.ok [seen]) (by rw [whole]; exact List.mem_cons_self)
        obtain rfl : seen = a := List.singleton_inj.1 (Except.ok.inj same)
        exact neither start.known

/-- **Deprovisioned any number of times, an instance is deleted once.**  Of requests to deprovision
an appliance that is up or has failed, alone under its name in a provider in memory that is
available, in any order of their steps and of the turns of the deletions: each request is accepted,
or told that the instance is gone when it searched for it after it was deleted, or fails when it
was deleted between its two searches.  Once one was answered and no deletion of the appliance is
pending, the appliance is gone, by one call, before which it was turned off by one call if it was
up and by none if it was not; and when the deletions that have not ended are those from before, as
many are counted as pending as then. -/
theorem deprovisioned_deletes_once {events : List (Event Memory)} (start : Deletable b name a)
    (run : Timely (teardown s name a.id) ⟨b, []⟩ events t) :
    (∀ r outcome, t.outcome? r = some outcome → Answered events name a.id r outcome) ∧
      ((∃ r, (t.outcome? r).isSome) → ¬t.Pending a.id →
        t.broker.provider.get? a.id = none ∧ (calls events).count (.delete a.id) = 1 ∧
          (calls events).count (.stop a.id) = a.isUp.toNat) ∧
      (t.deletions.tasks.map Prod.fst = b.deletions.tasks.map Prod.fst →
        t.broker.pending = b.pending) := by
  refine ⟨fun r outcome done => run.answered hs start done, ?_, fun same => ?_⟩
  · rintro ⟨r, done⟩ ended
    obtain ⟨outcome, done⟩ := Option.isSome_iff_exists.1 done
    obtain ⟨shows, tally⟩ := run.deleted hs start done ended
    exact ⟨shows.read, tally.deleted, tally.stopped⟩
  · have counted := run.run.counted start.orderly start.counted
    have as_many : t.deletions.tasks.length = b.deletions.tasks.length := by
      rw [← List.length_map Prod.fst, same, List.length_map]
    exact counted.pending.trans (as_many.trans start.counted.pending.symm)

end Runs

/-- Two requests find an appliance that is up.  The deletion that the first one starts ends before
the second one searches again, and a third one comes after. -/
theorem deprovisioned_three_times :
    let provider := (Memory.create .instant (.plain "a") {}).2
    let w := teardown (Broker.inMemorySettings .instant (Chance.ofSeed [])) "a" (applianceId 1)
    ∃ events t, Timely w ⟨Broker.start provider, []⟩ events t ∧
      [0, 1, 2].map t.outcome? = [some (.deprovision .accepted),
        some (.deprovision .internalError), some (.deprovision .gone)] ∧
      t.broker.provider.get? (applianceId 1) = none ∧
      (calls events).count (.delete (applianceId 1)) = 1 ∧
      (calls events).count (.stop (applianceId 1)) = 1 ∧ t.broker.pending = 0 := by
  intro provider w
  let a := Memory.boot .instant (applianceId 1) (.plain "a")
  have start : Deletable (Broker.start provider) "a" a :=
    ⟨⟨rfl, by decide +kernel, by decide +kernel⟩, by decide, .inl (by decide),
      Scheduler.orderly_start _, ⟨List.nodup_nil, rfl⟩, nofun⟩
  have empty : Timely w ⟨Broker.start provider, []⟩ [] _ := .start
  have one := empty.step (.arrive ⟨⟨.mariaDb, 10⟩, rfl⟩) trivial
  have two := one.step (.arrive ⟨⟨.mariaDb, 10⟩, rfl⟩) trivial
  have three := two.step (.arrive ⟨⟨.mariaDb, 10⟩, rfl⟩) trivial
  have run := Timely.follow [.request 0, .request 1, .request 0, .request 0, .deletion 0,
    .deletion 0, .deletion 0, .deletion 0, .deletion 0, .deletion 0, .deletion 0, .request 1,
    .request 2] three (by decide +kernel)
  have ended (t : Traffic Memory Lifecycle.Outcome) (none_left : t.deletions.tasks = []) :
      ¬t.Pending a.id := by
    rintro ⟨task, d, hd, -⟩
    rw [none_left] at hd
    cases hd
  obtain ⟨-, deleted, counted⟩ := deprovisioned_deletes_once (a := a) rfl start run
  obtain ⟨gone, once, off⟩ := deleted ⟨0, by decide +kernel⟩ (ended _ (by decide +kernel))
  exact ⟨_, _, run, by decide +kernel, gone, once, off, counted (by decide +kernel)⟩

end Traffic
end ServiceBroker

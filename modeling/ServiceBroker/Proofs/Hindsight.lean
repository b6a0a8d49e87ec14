/-
# Looking back at a run

What happened in a run of requests and deletions, found again in the list of its steps: the
state before any of them (`Traffic.Run.split`), where a request asked its questions
(`Traffic.split_of_askedBy`), and what led a request to its outcome
(`Traffic.Run.leads_of_outcome`).
-/

import ServiceBroker.Proofs.Deprovision

namespace ServiceBroker
namespace Traffic

open Provider (Memory inMemory)

section Along

variable {σ α : Type}

/-- Step after step, each of them such as is allowed where it is taken. -/
inductive Along (w : World σ α) (allowed : Traffic σ α → Event σ → Prop) (t : Traffic σ α) :
    List (Event σ) → Traffic σ α → Prop where
  | start : Along w allowed t [] t
  | step {events : List (Event σ)} {e : Event σ} {t₁ t₂ : Traffic σ α}
    (run : Along w allowed t events t₁) (step : Step w t₁ e t₂) (may : allowed t₁ e) :
    Along w allowed t (events ++ [e]) t₂

variable {w : World σ α} {allowed : Traffic σ α → Event σ → Prop} {t t' : Traffic σ α}
  {events before after : List (Event σ)} {e : Event σ}

/-- Steps that are allowed are steps. -/
theorem Along.run (run : Along w allowed t events t') : Run w t events t' := by
  induction run with
  | start => exact .start
  | step _ step _ ih => exact ih.step step

/-- Every step of a run is allowed where all steps are. -/
theorem Run.along (run : Run w t events t') : Along w (fun _ _ => True) t events t' := by
  induction run with
  | start => exact .start
  | step _ step ih => exact ih.step step trivial

/-- A step on the way. -/
theorem Along.split (run : Along w allowed t (before ++ e :: after) t') :
    ∃ t₁ t₂, Along w allowed t before t₁ ∧ Step w t₁ e t₂ := by
  generalize hall : before ++ e :: after = events at run
  induction run generalizing after with
  | start => simp at hall
  | @step events last t₁ t₂ run step may ih =>
    rcases List.eq_nil_or_concat after with rfl | ⟨after, x, rfl⟩
    · obtain ⟨rfl, same⟩ := List.append_inj' hall rfl
      obtain rfl := List.singleton_inj.1 same
      exact ⟨t₁, t₂, run, step⟩
    · rw [List.concat_eq_append, ← List.cons_append, ← List.append_assoc] at hall
      exact ih (List.append_inj' hall rfl).1

/-- A step in the middle of a run follows the run before it. -/
theorem Run.split (run : Run w t (before ++ e :: after) t') :
    ∃ t₁ t₂, Run w t before t₁ ∧ Step w t₁ e t₂ := by
  obtain ⟨t₁, t₂, run, step⟩ := run.along.split
  exact ⟨t₁, t₂, run.run, step⟩

end Along

section Questions

variable {σ : Type} {r : Nat} {events : List (Event σ)} {first : Program.Asked Backend.interface}
  {rest : List (Program.Asked Backend.interface)}

/-- Where a request asked its first question. -/
theorem split_of_askedBy (h : askedBy r events = first :: rest) :
    ∃ before after, events = before ++ .asked r first.call first.answer :: after ∧
      askedBy r after = rest := by
  obtain ⟨before, e, after, rfl, -, asks, later⟩ := List.filterMap_eq_cons_iff.1 h
  exact ⟨before, after, by rw [Event.eq_of_askedBy? asks], later⟩

/-- Where a request asked a question. -/
theorem split_of_mem_askedBy (h : first ∈ askedBy r events) :
    ∃ before after, events = before ++ .asked r first.call first.answer :: after := by
  obtain ⟨e, he, asks⟩ := List.mem_filterMap.1 h
  obtain ⟨before, after, rfl⟩ := List.append_of_mem he
  exact ⟨before, after, by rw [Event.eq_of_askedBy? asks]⟩

/-- The answer to a question is the reply. -/
theorem Step.answered {α : Type} {w : World σ α} {t t' : Traffic σ α} {call : Backend.Call}
    {answer : call.Answer} (step : Step w t (.asked r call answer) t') :
    ∃ engine next, t.requests[r]? = some ⟨engine, .ask (I := Backend.interface) call next⟩ ∧
      answer = (t.reply w engine call).1 := by
  generalize he : Event.asked r call answer = e at step
  cases step with
  | ask asks =>
    cases he
    exact ⟨_, _, asks, rfl⟩
  | _ => cases he

/-- A request that is done was led to its outcome by what it was answered. -/
theorem Run.leads_of_outcome {α : Type} {w : World σ α} {b : Broker σ} {t : Traffic σ α}
    (run : Run w ⟨b, []⟩ events t) {outcome : α} (done : t.outcome? r = some outcome) :
    ∃ engine p, w.arrives ⟨engine, p⟩ ∧ p.Leads (askedBy r events) (.done outcome) := by
  obtain ⟨u, hu, hv⟩ := Option.bind_eq_some_iff.1 done
  obtain ⟨p, may, leads⟩ := (run.leads r).2 u hu
  rw [Program.eq_done_of_value? hv] at leads
  exact ⟨u.engine, p, may, leads⟩

end Questions

section Overtaking

variable {σ α β : Type} {vacant : Nat → Event σ} {made? : Event σ → Option β}
  {events : List (Event σ)}

/-- A request made something after another one had made something between its own look, which found
nothing, and its own making. -/
def Overtaken (vacant : Nat → Event σ) (made? : Event σ → Option β) (events : List (Event σ)) :
    Prop :=
  ∃ (r : Nat) (call : Backend.Call) (answer : call.Answer) (before between after : List (Event σ)),
    events = before ++ vacant r :: (between ++ .asked r call answer :: after) ∧
      (made? (.asked r call answer)).isSome ∧ between.filterMap made? ≠ []

/-- Who was overtaken stays overtaken. -/
theorem Overtaken.snoc (h : Overtaken vacant made? events) (e : Event σ) :
    Overtaken vacant made? (events ++ [e]) := by
  obtain ⟨r, call, answer, before, between, after, rfl, makes, other⟩ := h
  exact ⟨r, call, answer, before, between, after ++ [e], by simp, makes, other⟩

/-- Who was overtaken made the second thing at least. -/
theorem Overtaken.two_le (h : Overtaken vacant made? events) :
    2 ≤ (events.filterMap made?).length := by
  obtain ⟨r, call, answer, before, between, after, rfl, makes, other⟩ := h
  obtain ⟨x, made⟩ := Option.isSome_iff_exists.1 makes
  have two : (between ++ [Event.asked r call answer]).Sublist
      (before ++ vacant r :: (between ++ Event.asked r call answer :: after)) := by
    have ends : [Event.asked r call answer].Sublist (Event.asked r call answer :: after) :=
      (List.nil_sublist after).cons_cons _
    exact ((ends.append_left between).cons _).trans (List.sublist_append_right _ _)
  have counted := (two.filterMap made?).length_le
  rw [List.filterMap_append, List.filterMap_cons, made] at counted
  have some_between := List.length_pos_iff.2 other
  simp only [List.length_append, List.length_cons] at counted
  omega

/-- **Of requests that look before they make something** only one makes anything, unless one is
overtaken. -/
theorem Run.few_or_overtaken {w : World σ α} {t₀ t : Traffic σ α}
    (unmade : ∀ r, made? (vacant r) = none)
    (asked : ∀ e, (made? e).isSome → ∃ r call answer, e = .asked r call answer)
    (looked : ∀ {events t t' r call answer}, Run w t₀ events t →
      Step w t (.asked r call answer) t' → (made? (.asked r call answer)).isSome →
      vacant r ∈ events)
    (first : ∀ {before after t r}, Run w t₀ (before ++ vacant r :: after) t →
      before.filterMap made? = [])
    (run : Run w t₀ events t) :
    (events.filterMap made?).length ≤ 1 ∨ Overtaken vacant made? events := by
  induction run with
  | start => exact .inl (Nat.zero_le _)
  | @step events e t₁ t₂ run step ih =>
    rcases ih with few | overtaken
    · cases makes : made? e with
      | none =>
        refine .inl ?_
        have nothing : [e].filterMap made? = [] := by
          rw [List.filterMap_cons, makes, List.filterMap_nil]
        rwa [List.filterMap_append, nothing, List.append_nil]
      | some x =>
        have made := Option.isSome_of_eq_some makes
        obtain ⟨r, call, answer, rfl⟩ := asked e made
        by_cases earlier : events.filterMap made? = []
        · refine .inl ?_
          rw [List.filterMap_append, earlier]
          exact List.length_filterMap_le _ _
        · obtain ⟨before, between, rfl⟩ := List.append_of_mem (looked run step made)
          refine .inr ⟨r, call, answer, before, between, [], by simp, made, fun none_between => ?_⟩
          rw [List.filterMap_append, first run, List.filterMap_cons, unmade] at earlier
          exact earlier none_between
    · exact .inr (overtaken.snoc e)

end Overtaking

/-- A search finds what the provider shows, and is counted. -/
theorem reply_find {α : Type} {w : World Memory α} {mode : Provider.BootMode}
    {wait interval : Duration}
    (hw : w.settings.provider = inMemory mode wait interval) (t : Traffic Memory α)
    (available : t.broker.provider.unavailable = false) (engine : Engine) (name : String) :
    t.reply w engine (.provider (.find name)) =
      (.ok (t.broker.provider.named name), t.broker.searched) := by
  have answered := Provider.answer_of_inMemory hw t.broker.now (.find name) t.broker.provider
  have found : Memory.answer mode (.find name) t.broker.provider =
      Memory.perform mode (.find name) t.broker.provider := if_neg (by simp [available])
  rw [found] at answered
  show ((w.settings.provider.answer t.broker.now (.find name) t.broker.provider).1.value,
    t.broker.setProvider
      (w.settings.provider.answer t.broker.now (.find name) t.broker.provider).2) = _
  rw [answered]
  rfl

end Traffic
end ServiceBroker

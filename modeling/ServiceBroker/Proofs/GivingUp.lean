/-
# Operations that give up

An operation whose handler fails gives up (`Lifecycle.GivesUp`): nothing more is asked, and
what comes of it is the same whatever the failure was.  So two handlers that fail on the same
calls cannot be told apart by how they fail (`Lifecycle.run_eq_of_agree`).
-/

import ServiceBroker.Proofs.Discipline

namespace ServiceBroker
namespace Handler

open Program (Asked)

variable {σ τ : Type}

/-- Two handlers that succeed on the same calls, with the same results, and fail on the same calls,
each with any failure.  What they are after a failure need not be alike. -/
def Agree (related : σ → τ → Prop) (first : (call : Call) → StateM σ call.Answer)
    (second : (call : Call) → StateM τ call.Answer) : Prop :=
  ∀ call s t, related s t →
    (∃ result s' t', (first call).run s = (.ok result, s') ∧
      (second call).run t = (.ok result, t') ∧ related s' t') ∨
    ∃ e e' s' t', (first call).run s = (.error e, s') ∧ (second call).run t = (.error e', t')

/-- A call that failed. -/
def Failed (x : Asked interface) : Prop := ∃ e : ServiceError, x.answer = .error e

instance : DecidablePred Failed
  | ⟨_, .error e⟩ => .isTrue ⟨e, rfl⟩
  | ⟨_, .ok _⟩ => .isFalse (by rintro ⟨e, failure⟩; cases failure)

end Handler

namespace Lifecycle

open Handler (Agree Failed)
open Program (Asked Leads)

variable {α σ τ : Type} {failed : α}

/-- A program that is done as soon as a call fails, with the same value whatever the failure is. -/
def GivesUp (failed : α) : Action α → Prop
  | .done _ => True
  | .ask _ next =>
    (∀ e, next (.error e) = .done failed) ∧ ∀ result, GivesUp failed (next (.ok result))

/-- A program that gives up still does when its value is told in other words. -/
theorem GivesUp.map {β : Type} (f : α → β) {p : Action α} (h : GivesUp failed p) :
    GivesUp (f failed) (p.bind fun value => .done (f value)) := by
  induction p with
  | done value => trivial
  | ask call next ih =>
    constructor
    · intro e
      show (next (.error e)).bind _ = _
      rw [h.1 e]
      rfl
    · intro result
      exact ih (.ok result) (h.2 result)

/-- A request to provision is over as soon as a call fails. -/
theorem givesUp_provision (name : String) (raw : Option Json) :
    GivesUp .internalError (provision name raw) := by
  unfold provision
  cases Parameters.parse raw with
  | error e => trivial
  | ok p =>
    refine ⟨fun _ => rfl, fun found => ?_⟩
    cases found with
    | none => exact ⟨fun _ => rfl, fun _ => trivial⟩
    | some state =>
      dsimp only [Program.bind]
      split_ifs <;> trivial

/-- A request to deprovision is over as soon as a call fails. -/
theorem givesUp_deprovision (name : String) : GivesUp .internalError (deprovision name) := by
  refine ⟨fun _ => rfl, fun found => ?_⟩
  cases found with
  | none => trivial
  | some state =>
    dsimp only [Program.bind]
    split_ifs
    · trivial
    · exact ⟨fun _ => rfl, fun _ => trivial⟩
    · trivial

/-- A poll is over as soon as a call fails. -/
theorem givesUp_poll (operation : Operation) (name : String) :
    GivesUp .internalError (poll operation name) := by
  refine ⟨fun _ => rfl, fun found => ?_⟩
  cases found with
  | none => trivial
  | some state =>
    dsimp only [Program.bind]
    split_ifs <;> trivial

/-- A request to bind is over as soon as a call fails. -/
theorem givesUp_bind (name binding : String) : GivesUp .internalError (bind name binding) := by
  refine ⟨fun _ => rfl, fun found => ?_⟩
  cases found with
  | none => trivial
  | some _ =>
    refine ⟨fun _ => rfl, fun bound => ?_⟩
    cases bound with
    | none => exact ⟨fun _ => rfl, fun _ => trivial⟩
    | some state =>
      dsimp only [Program.bind]
      split_ifs <;> trivial

/-- A request to unbind is over as soon as a call fails. -/
theorem givesUp_unbind (name binding : String) : GivesUp .internalError (unbind name binding) := by
  refine ⟨fun _ => rfl, fun found => ?_⟩
  cases found with
  | none => trivial
  | some state =>
    dsimp only [Program.bind]
    split_ifs
    · trivial
    · exact ⟨fun _ => rfl, fun _ => trivial⟩

/-- What comes of a request when a call of it fails. -/
def Request.failure : Request → Outcome
  | .provision _ _ => .provision .internalError
  | .deprovision _ => .deprovision .internalError
  | .poll _ _ => .poll .internalError
  | .bind _ _ => .bind .internalError
  | .unbind _ _ => .unbind .internalError

/-- **Every operation gives up at the first call that fails.** -/
theorem givesUp_perform (request : Request) : GivesUp request.failure (perform request) := by
  cases request with
  | provision name raw => exact (givesUp_provision name raw).map Outcome.provision
  | deprovision name => exact (givesUp_deprovision name).map Outcome.deprovision
  | poll operation name => exact (givesUp_poll operation name).map Outcome.poll
  | bind name binding => exact (givesUp_bind name binding).map Outcome.bind
  | unbind name binding => exact (givesUp_unbind name binding).map Outcome.unbind

/-- A program that gives up comes to the same on handlers that agree. -/
theorem run_eq_of_agree {related : σ → τ → Prop}
    {first : (call : Handler.Call) → StateM σ call.Answer}
    {second : (call : Handler.Call) → StateM τ call.Answer} (agree : Agree related first second)
    {p : Action α} (h : GivesUp failed p) {s : σ} {t : τ} (alike : related s t) :
    ((p.run (I := Handler.interface) first).run s).1 =
      ((p.run (I := Handler.interface) second).run t).1 := by
  induction p generalizing s t with
  | done value => rfl
  | ask call next ih =>
    rw [Program.run_ask, Program.run_ask, StateT.run_bind, StateT.run_bind]
    obtain ⟨result, s', t', left, right, still⟩ | ⟨e, e', s', t', left, right⟩ :=
      agree call s t alike
    · rw [left, right]
      exact ih (.ok result) (h.2 result) still
    · rw [left, right]
      show ((Program.run (I := Handler.interface) first (next (.error e))).run s').1 =
        ((Program.run (I := Handler.interface) second (next (.error e'))).run t').1
      rw [h.1 e, h.1 e']
      rfl

/-- A program that gives up has the value for it once a call has failed. -/
theorem GivesUp.of_failed {p : Action α} (h : GivesUp failed p)
    {asked : List (Asked Handler.interface)} {value : α} (leads : Leads p asked (.done value))
    (fails : ∃ x ∈ asked, Failed x) : value = failed := by
  induction p generalizing asked with
  | done value =>
    obtain ⟨rfl, -⟩ := Leads.of_done leads
    obtain ⟨x, here, -⟩ := fails
    cases here
  | ask call next ih =>
    obtain ⟨answer, rest, rfl, further⟩ := Leads.of_ask leads
    cases answer with
    | error e =>
      rw [h.1 e] at further
      exact Program.done.inj (Leads.of_done further).2
    | ok result =>
      obtain ⟨x, here, e, failure⟩ := fails
      obtain rfl | later := List.mem_cons.mp here
      · cases failure
      · exact ih (.ok result) (h.2 result) further ⟨x, later, e, failure⟩

/-- Only what is wrong with its parameters is told of a request to provision. -/
theorem parse_of_invalidParameters {request : Request} {asked : List (Asked Handler.interface)}
    {text : String}
    (leads : Leads (perform request) asked (.done (.provision (.invalidParameters text)))) :
    ∃ name raw e, request = .provision name raw ∧ Parameters.parse raw = .error e ∧
      text = e.message := by
  cases request with
  | deprovision name => obtain ⟨_, is, -⟩ := Leads.of_map leads; cases is
  | poll operation name => obtain ⟨_, is, -⟩ := Leads.of_map leads; cases is
  | bind name binding => obtain ⟨_, is, -⟩ := Leads.of_map leads; cases is
  | unbind name binding => obtain ⟨_, is, -⟩ := Leads.of_map leads; cases is
  | provision name raw =>
    obtain ⟨outcome, is, leads⟩ := Leads.of_map leads
    cases is
    unfold provision at leads
    cases parsed : Parameters.parse raw with
    | error e =>
      rw [parsed] at leads
      cases leads
      exact ⟨name, raw, e, rfl, parsed, rfl⟩
    | ok p =>
      rw [parsed] at leads
      obtain ⟨answer, rest, -, leads⟩ := Leads.of_ask leads
      rcases answer with e | (_ | state)
      · cases leads
      · obtain ⟨answer, rest, -, leads⟩ := Leads.of_ask leads
        cases answer <;> cases leads
      · dsimp only [Program.bind] at leads
        split_ifs at leads <;> cases leads

end Lifecycle

end ServiceBroker

/-
# What is seen of an appliance that is given up

A provider in memory that is available shows an appliance with a name of its own as it
stands, or not at all (`Provider.Memory.Shows`).  That says what each look and each call of a
deletion finds (`Deletion.advance_examining` and its neighbours), and what a request to
deprovision asks and answers (`DatabaseHandler.asked_of_deprovision`).
-/

import ServiceBroker.Proofs.Collision
import ServiceBroker.Proofs.Hindsight

namespace ServiceBroker

/-- The appliance after it was turned off. -/
def Appliance.turnedOff (a : Appliance) : Appliance :=
  { a with instanceStatus := Appliance.statusDown }

namespace Provider.Memory

/-- What a provider that is available shows of an appliance with a name of its own: the appliance
as it stands, or nothing. -/
structure Shows (m : Memory) (name : String) (id : ApplianceId) (shown : Option Appliance) :
    Prop where
  available : m.unavailable = false
  read : m.get? id = shown
  found : m.named name = shown.toList

section

variable {mode : BootMode} {m : Memory} {name : String} {id j : ApplianceId}
  {shown : Option Appliance} {a : Appliance}

/-- An appliance that is turned off is shown as it is then. -/
theorem Shows.turnOff (h : m.Shows name id (some a)) :
    (m.turnOff id).Shows name id (some a.turnedOff) where
  available := h.available
  read := get?_turnOff_self h.read
  found := by
    rw [named_turnOff, h.found]
    simp [id_of_get? h.read, Appliance.turnedOff]

/-- An appliance that is removed is shown no more. -/
theorem Shows.remove (h : m.Shows name id (some a)) : (m.remove id).Shows name id none where
  available := h.available
  read := by rw [get?_remove, if_pos rfl]
  found := by
    rw [named_remove, h.found]
    simp [id_of_get? h.read]

/-- A call about another appliance leaves what is shown of this one. -/
theorem Shows.answer (h : m.Shows name id shown) {call : Call} (ht : call.target? = some j)
    (hj : j ≠ id) : (Memory.answer mode call m).2.Shows name id shown where
  available := by rw [unavailable_answer, h.available]
  read := by
    rw [← h.read]
    rcases get?_answer mode m id j ht with same | ⟨rfl, -⟩ | ⟨rfl, -⟩
    · exact same
    · exact absurd (Option.some.inj ht).symm hj
    · exact absurd (Option.some.inj ht).symm hj
  found := by
    have apart : ∀ b ∈ m.named name, b.id ≠ j := by
      intro b hb
      rw [h.found, Option.mem_toList] at hb
      rw [id_of_get? (h.read.trans hb)]
      exact hj.symm
    rw [← h.found]
    rcases answer_cases mode m j ht with ⟨counts, same⟩ | ⟨rfl, off⟩ | ⟨rfl, removed⟩
    · rw [same]
      rfl
    · rw [off, named_turnOff]
      refine (List.map_congr_left fun b hb => ?_).trans (List.map_id _)
      exact if_neg (apart b hb)
    · rw [removed, named_remove]
      exact List.filter_eq_self.2 fun b hb => by simpa using apart b hb

end

end Provider.Memory

namespace Deletion

open Provider (Memory inMemory)

/-- The phases of a deletion whose appliance stands as it was found. -/
def Phase.Deciding (up : Bool) : Phase → Prop
  | queued | examining | refreshing => True
  | stopping => up = true
  | deleting => up = false
  | _ => False

/-- The phases of a deletion that has turned its appliance off. -/
def Phase.Finishing : Phase → Prop
  | awaitingDown _ | deleting => True
  | _ => False

/-- The phases of a deletion whose appliance is gone. -/
def Phase.Spent : Phase → Prop
  | queued | examining | ended => True
  | _ => False

section

variable {s : Settings Memory} {mode : Provider.BootMode} {w i : Duration}
  (hs : s.provider = inMemory mode w i) {m : Memory} {name : String} {id : ApplianceId}
  {shown : Option Appliance} {a : Appliance} (now : Instant)

include hs

/-- The first reading finds what the provider shows. -/
theorem advance_examining (h : m.Shows name id shown) :
    advance s id now m .examining = ((afterExamining s now (.ok shown), now), m) := by
  simp only [advance, Provider.answer_of_inMemory hs, Memory.answer_read h.available, h.read,
    Nat.add_zero]

/-- The second reading finds what the provider shows. -/
theorem advance_refreshing (h : m.Shows name id shown) :
    advance s id now m .refreshing = ((afterRefreshing (.ok shown), now), m) := by
  simp only [advance, Provider.answer_of_inMemory hs, Memory.answer_read h.available, h.read,
    Nat.add_zero]

/-- The appliance is turned off, and a wait for it to go down begins. -/
theorem advance_stopping (h : m.Shows name id (some a)) :
    advance s id now m .stopping =
      ((.awaitingDown (s.provider.waitFor .down s.provider.waitTimeout now), now),
        m.turnOff id) := by
  simp only [advance, Provider.answer_of_inMemory hs, Memory.answer_stop h.available h.read,
    Nat.add_zero, afterStopping]

/-- A look by the deadline at an appliance that is off ends the wait. -/
theorem advance_awaitingDown (h : m.Shows name id (some a)) (down : a.isDown = true)
    {wait : Polling} (onTime : now ≤ wait.deadline) :
    advance s id now m (.awaitingDown wait) = ((.deleting, now), m) := by
  have seen : s.provider.look .down id now m = ((0, .ok true), m) := by
    simp only [Provider.look, Provider.answer_of_inMemory hs, Memory.answer_read h.available,
      h.read, Provider.Condition.seen, Provider.Condition.ofReading, down]
  have judged : wait.judge now 0 (.ok true) = .ended (.ok ()) now := if_neg (Nat.not_lt.2 onTime)
  simp only [advance, lookAgain, seen, judged, afterLook, afterDown]

/-- The appliance is deleted, and the deletion has ended. -/
theorem advance_deleting (h : m.Shows name id (some a)) :
    advance s id now m .deleting = ((.ended, now), m.remove id) := by
  simp only [advance, Provider.answer_of_inMemory hs, Memory.answer_delete h.available h.read,
    Nat.add_zero]

end

end Deletion

namespace DatabaseHandler

open Backend (found)
open Program (Asked Leads)

variable (h : DatabaseHandler) {name : String} {asked : List (Asked Backend.interface)}

/-- A request to deprovision asks what the operation asks. -/
theorem interpret_perform_deprovision :
    (Lifecycle.perform (.deprovision name)).interpret h.answer =
      ((Lifecycle.deprovision name).interpret h.answer).bind
        fun outcome => .done (.deprovision outcome) :=
  Program.interpret_bind _ _ _

/-- A request to deprovision asks for its appliance, and for nothing else but a deletion. -/
theorem asks_of_deprovision {call : Backend.Call}
    {next : call.Answer → Program Backend.interface Lifecycle.Outcome}
    (leads : Leads ((Lifecycle.perform (.deprovision name)).interpret h.answer) asked
      (.ask (I := Backend.interface) call next)) :
    call = .provider (.find name) ∨ ∃ id, call = .startDeletion name id := by
  rw [interpret_perform_deprovision, interpret_deprovision] at leads
  cases leads with
  | start => exact .inl rfl
  | ask answer rest =>
    rcases answer with e | (_ | ⟨seen, _ | ⟨b, more⟩⟩)
    · cases rest
    · cases rest
    · dsimp only at rest
      split_ifs at rest
      · cases rest
      · rw [deleteInstance_eq] at rest
        cases rest with
        | start => exact .inl rfl
        | ask answer rest =>
          rcases answer with e | (_ | ⟨a, _ | ⟨b, more⟩⟩)
          · cases rest
          · cases rest
          · cases rest with
            | start => exact .inr ⟨a.id, rfl⟩
            | ask answer rest => cases rest
          · cases rest
      · cases rest
    · cases rest

/-- What a request to deprovision asked, where every search finds at most one appliance and none
that is being moved. -/
theorem asked_of_deprovision {outcome : Lifecycle.Outcome}
    (leads : Leads ((Lifecycle.perform (.deprovision name)).interpret h.answer) asked
      (.done outcome))
    (single : ∀ answer, ⟨.provider (.find name), answer⟩ ∈ asked →
      ∃ shown : Option Appliance, answer = .ok shown.toList ∧
        ∀ a ∈ shown, a.isMigrating = false) :
    outcome = .deprovision .accepted ∨
      outcome = .deprovision .gone ∧ asked = [⟨.provider (.find name), .ok []⟩] ∨
      outcome = .deprovision .internalError ∧
        ∃ seen, asked = [found name seen, ⟨.provider (.find name), .ok []⟩] := by
  rw [interpret_perform_deprovision] at leads
  obtain ⟨outcome, rfl, leads⟩ := leads.of_map
  rw [interpret_deprovision] at leads
  obtain ⟨answer, rest, rfl, further⟩ := leads.of_ask
  obtain ⟨_ | seen, rfl, still⟩ := single answer List.mem_cons_self
  · obtain ⟨rfl, is⟩ := further.of_done
    cases is
    exact .inr (.inl ⟨rfl, rfl⟩)
  · dsimp only [Option.toList] at further
    rw [if_neg (by simp [still])] at further
    split_ifs at further
    · rw [deleteInstance_eq, Program.bind] at further
      obtain ⟨answer, rest, rfl, deletes⟩ := further.of_ask
      obtain ⟨_ | a, rfl, -⟩ := single answer (List.mem_cons_of_mem _ List.mem_cons_self)
      · obtain ⟨rfl, is⟩ := deletes.of_done
        cases is
        exact .inr (.inr ⟨rfl, seen, rfl⟩)
      · obtain ⟨⟨⟩, rest, rfl, ends⟩ := deletes.of_ask
        cases ends.of_done.2
        exact .inl rfl
    · cases further.of_done.2
      exact .inl rfl

end DatabaseHandler

end ServiceBroker

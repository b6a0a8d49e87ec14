/-
# What a handler asks for

A call to a handler needs little of what a backend offers (`Handler.Call.Needs`): any may search
for its instance, only one that creates an instance orders an appliance, only one that deletes an
instance starts a deletion, and only those about bindings speak to a server.
`DatabaseHandler.only_answer` states that a handler asks for nothing else, whatever it is answered.
-/

import ServiceBroker.Proofs.Discipline
import ServiceBroker.Proofs.Performing

namespace ServiceBroker
namespace Program

variable {I : Interface} {ε α β : Type} {may may' : I.Call → Prop}

/-- A program that asks nothing but what is allowed, whatever the answers are. -/
def Only (may : I.Call → Prop) : Program I α → Prop
  | .done _ => True
  | .ask call next => may call ∧ ∀ answer, Only may (next answer)

/-- More may be allowed. -/
theorem Only.mono {p : Program I α} (only : Only may p) (weaker : ∀ call, may call → may' call) :
    Only may' p := by
  induction p with
  | done value => trivial
  | ask call next ih => exact ⟨weaker call only.1, fun answer => ih answer (only.2 answer)⟩

/-- One action after another. -/
theorem Only.bind {p : ExceptT ε (Program I) α} {f : α → ExceptT ε (Program I) β}
    (first : Only may p.run) (second : ∀ value, Only may (f value).run) :
    Only may (p >>= f).run := by
  rw [run_bind_except]
  generalize p.run = p at first
  induction p with
  | done result =>
    cases result with
    | ok value => exact second value
    | error e => trivial
  | ask call next ih => exact ⟨first.1, fun answer => ih answer (first.2 answer)⟩

/-- What no allowed question breaks holds before each question and in the end. -/
theorem Only.keeps {p : Program I α} (only : Only may p) {holds : List (Asked I) → Prop}
    (kept : ∀ asked x, holds asked → may x.call → holds (asked ++ [x])) {asked : List (Asked I)}
    (now : holds asked) :
    Keeps (fun asked _ => holds asked) (fun asked _ => holds asked) asked p := by
  induction p generalizing asked with
  | done value => exact now
  | ask call next ih =>
    exact ⟨now, fun answer => ih answer (only.2 answer) (kept asked ⟨_, _⟩ now only.1)⟩

end Program

open Program (Only)

namespace Backend

variable {may : Call → Prop}

/-- A search for one appliance asks for a search only. -/
theorem only_findOne {name : String} (find : may (.provider (.find name))) :
    Only (I := interface) may (findOne name).run := by
  rw [findOne_eq]
  refine ⟨find, fun answer => ?_⟩
  cases answer <;> trivial

/-- A call of the dialect asks for this call only. -/
theorem only_dialect {call : Dialect.Call} (speak : may (.dialect call)) :
    Only (I := interface) may (dialect call).run :=
  ⟨speak, fun _ => trivial⟩

/-- A named step asks for its call only. -/
theorem only_dialectStep {step : String} {call : Dialect.Call} (speak : may (.dialect call)) :
    Only (I := interface) may (dialectStep step call).run :=
  ⟨speak, fun _ => trivial⟩

end Backend

namespace Handler

/-- The instance that a call is about. -/
def Call.instanceName : Call → String
  | instanceState name _ | bindingState name _ | createInstance name _ | deleteInstance name
  | createBinding name _ | deleteBinding name _ => name

/-- A call about a binding, for which the server of its instance is spoken to. -/
def Call.isBinding : Call → Bool
  | bindingState _ _ | createBinding _ _ | deleteBinding _ _ => true
  | instanceState _ _ | createInstance _ _ | deleteInstance _ => false

/-- **What a handler may ask for**, by the call that it answers. -/
inductive Call.Needs : Call → Backend.Call → Prop where
  | find (call : Call) : Needs call (.provider (.find call.instanceName))
  | drawAdmin (name : String) (p : Parameters) : Needs (.createInstance name p) .drawAdmin
  | create (name : String) (p : Parameters) (order : ApplianceOrder) :
    Needs (.createInstance name p) (.provider (.create order))
  | startDeletion (name : String) (id : ApplianceId) :
    Needs (.deleteInstance name) (.startDeletion name id)
  | dialect (call : Call) (speaks : call.isBinding = true) (statement : Dialect.Call) :
    Needs call (.dialect statement)
  | drawBinding (name binding : String) : Needs (.createBinding name binding) .drawBinding

end Handler

namespace DatabaseHandler

open Backend (only_findOne only_dialect only_dialectStep)
open Handler.Call (Needs)

variable (h : DatabaseHandler)

/-- A connection asks for a search only. -/
theorem only_connection {may : Backend.Call → Prop} {name : String}
    (find : may (.provider (.find name))) :
    Only (I := Backend.interface) may (h.connection name).run := by
  refine (only_findOne find).bind fun found => ?_
  cases found <;> trivial

/-- **A handler asks for nothing but what its call needs**, whatever it is answered. -/
theorem only_answer (call : Handler.Call) :
    Only (I := Backend.interface) call.Needs (h.answer call) := by
  cases call with
  | instanceState name requested =>
    exact (only_findOne (.find (.instanceState name requested))).bind fun _ => trivial
  | bindingState name binding =>
    have speak := Needs.dialect (.bindingState name binding) rfl
    refine (h.only_connection (.find (.bindingState name binding))).bind fun admin => ?_
    refine (only_dialect (speak _)).bind fun _ => (only_dialectStep (speak _)).bind fun there => ?_
    cases there with
    | false => trivial
    | true => exact (only_dialectStep (speak _)).bind fun _ => trivial
  | createInstance name p =>
    exact ⟨.drawAdmin name p, fun draw => ⟨.create name p _, fun made => by cases made <;> trivial⟩⟩
  | deleteInstance name =>
    refine (only_findOne (.find (.deleteInstance name))).bind fun found => ?_
    cases found with
    | none => trivial
    | some a => exact ⟨.startDeletion name a.id, fun _ => trivial⟩
  | createBinding name binding =>
    have speak := Needs.dialect (.createBinding name binding) rfl
    refine (h.only_connection (.find (.createBinding name binding))).bind fun admin => ?_
    refine (only_dialect (speak _)).bind fun _ => (only_dialectStep (speak _)).bind fun _ => ?_
    refine (only_dialectStep (speak _)).bind fun record => ?_
    cases record with
    | some record => trivial
    | none =>
      exact ⟨.drawBinding name binding, fun draw =>
        (only_dialectStep (speak _)).bind fun _ => trivial⟩
  | deleteBinding name binding =>
    have speak := Needs.dialect (.deleteBinding name binding) rfl
    refine (h.only_connection (.find (.deleteBinding name binding))).bind fun admin => ?_
    refine (only_dialect (speak _)).bind fun _ => (only_dialectStep (speak _)).bind fun there => ?_
    cases there with
    | false => trivial
    | true =>
      refine (only_dialectStep (speak _)).bind fun username => ?_
      cases username with
      | none => trivial
      | some username => exact only_dialectStep (speak _)

end DatabaseHandler
end ServiceBroker

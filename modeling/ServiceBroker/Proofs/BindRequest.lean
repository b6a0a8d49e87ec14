/-
# One request to bind

A request to bind looks for its appliance and for the binding, and looks for both again
before it makes one.  `DatabaseHandler.Stands` says where it stands between its questions, for
an appliance that every search finds, and `DatabaseHandler.stands_bind` that a request always
stands so: it is looking, or about to make the binding, or it has made or seen one.
-/

import ServiceBroker.Proofs.Hindsight

namespace ServiceBroker

namespace DatabaseHandler

open Program (Asked Leads)
open Backend (Action found)

/-- What is answered where the one appliance is found and its server does what it is told. -/
def Plain (a : Appliance) : Asked Backend.interface → Prop
  | ⟨.provider (.find _), answer⟩ => answer = .ok [a]
  | ⟨.dialect _, answer⟩ => ∃ value, answer = .ok value
  | _ => True

/-- What a request to bind asks before it makes the binding. -/
inductive Looks (name : String) (admin : Connection) (binding : String) : Backend.Call → Prop where
  | find : Looks name admin binding (.provider (.find name))
  | connect : Looks name admin binding (.dialect (.connect admin))
  | hasTable : Looks name admin binding (.dialect (.hasTable admin))
  | prepare : Looks name admin binding (.dialect (.prepare admin))
  | read : Looks name admin binding (.dialect (.read admin binding))
  | draw : Looks name admin binding .drawBinding

section Asking

variable {α : Type} {h : DatabaseHandler} {name binding : String} {a : Appliance}
  {admin : Connection} {asked : List (Asked Backend.interface)}
  {left : Program Backend.interface (Except ServiceError α)}

/-- The state of an instance, as the one call that it takes. -/
theorem instanceState_eq (requested : Option Parameters) : (instanceState name requested).run =
    .ask (I := Backend.interface) (.provider (.find name)) fun
      | .ok [] => .done (.ok none)
      | .ok [a] => .done (.ok (some ⟨a, requested⟩))
      | .ok _ => .done (.error (.provider (.ambiguous name)))
      | .error e => .done (.error (.provider e)) := by
  show Program.ask (I := Backend.interface) _ _ = _
  congr 1
  funext answer
  rcases answer with e | (_ | ⟨a, _ | ⟨b, rest⟩⟩) <;> rfl

/-- The state of an appliance that is found takes one search. -/
theorem leads_instanceState
    {left : Program Backend.interface (Except ServiceError (Option InstanceState))}
    {requested : Option Parameters}
    (leads : Leads (instanceState name requested).run asked left) (plain : ∀ x ∈ asked, Plain a x) :
    (asked = [] ∧ ∃ next, left = .ask (I := Backend.interface) (.provider (.find name)) next) ∨
      asked = [found name a] ∧ left = .done (.ok (some ⟨a, requested⟩)) := by
  rw [instanceState_eq] at leads
  cases leads with
  | start => exact .inl ⟨rfl, _, rfl⟩
  | ask answer rest =>
    obtain rfl : answer = .ok [a] := plain _ List.mem_cons_self
    obtain ⟨rfl, rfl⟩ := Leads.of_done rest
    exact .inr ⟨rfl, rfl⟩

/-- An action on the connection to an appliance that is found asks for it first. -/
theorem leads_connection (hadmin : h.administrator a = .ok admin) {f : Connection → Action α}
    (leads : Leads (h.connection name >>= f).run asked left) (plain : ∀ x ∈ asked, Plain a x) :
    (asked = [] ∧ ∃ next, left = .ask (I := Backend.interface) (.provider (.find name)) next) ∨
      ∃ rest, asked = found name a :: rest ∧ (∀ x ∈ rest, Plain a x) ∧
        Leads (f admin).run rest left := by
  rw [Program.run_bind_except, connection_eq, Program.bind] at leads
  cases leads with
  | start => exact .inl ⟨rfl, _, rfl⟩
  | ask answer rest =>
    obtain ⟨first, further⟩ := List.forall_mem_cons.1 plain
    obtain rfl : answer = .ok [a] := first
    have is : h.connected name (.ok [a]) = .ok admin := hadmin
    simp only [is] at rest
    exact .inr ⟨_, rfl, further, rest⟩

/-- An action after a call to the dialect asks for the call first. -/
theorem leads_call {call : Dialect.Call} {p : Action call.Result}
    {told : call.Answer → call.Answer} (htold : ∀ value, told (.ok value) = .ok value)
    (hp : p.run = .ask (I := Backend.interface) (.dialect call) fun answer => .done (told answer))
    {f : call.Result → Action α} (leads : Leads (p >>= f).run asked left)
    (plain : ∀ x ∈ asked, Plain a x) :
    (asked = [] ∧ ∃ next, left = .ask (I := Backend.interface) (.dialect call) next) ∨
      ∃ value rest, asked = ⟨.dialect call, .ok value⟩ :: rest ∧ (∀ x ∈ rest, Plain a x) ∧
        Leads (f value).run rest left := by
  rw [Program.run_bind_except, hp, Program.bind] at leads
  cases leads with
  | start => exact .inl ⟨rfl, _, rfl⟩
  | ask answer rest =>
    obtain ⟨first, further⟩ := List.forall_mem_cons.1 plain
    obtain ⟨value, rfl⟩ : ∃ value, answer = .ok value := first
    dsimp only [Program.bind] at rest
    rw [htold] at rest
    exact .inr ⟨value, _, rfl, further, rest⟩

/-- An action on the answer to a call of the dialect makes this call first, and it goes as it
should. -/
theorem leads_dialect {call : Dialect.Call} {f : call.Result → Action α}
    (leads : Leads (Backend.dialect call >>= f).run asked left)
    (plain : ∀ x ∈ asked, Plain a x) :
    (asked = [] ∧ ∃ next, left = .ask (I := Backend.interface) (.dialect call) next) ∨
      ∃ value rest, asked = ⟨.dialect call, .ok value⟩ :: rest ∧ (∀ x ∈ rest, Plain a x) ∧
        Leads (f value).run rest left :=
  leads_call (fun _ => rfl) rfl leads plain

/-- A named step makes its call first, as any call of the dialect. -/
theorem leads_dialectStep {step : String} {call : Dialect.Call} {f : call.Result → Action α}
    (leads : Leads (Backend.dialectStep step call >>= f).run asked left)
    (plain : ∀ x ∈ asked, Plain a x) :
    (asked = [] ∧ ∃ next, left = .ask (I := Backend.interface) (.dialect call) next) ∨
      ∃ value rest, asked = ⟨.dialect call, .ok value⟩ :: rest ∧ (∀ x ∈ rest, Plain a x) ∧
        Leads (f value).run rest left :=
  leads_call (fun _ => rfl) rfl leads plain

/-- An action on a user and a password draws them first. -/
theorem leads_drawBinding {f : Dialect.Draw → Action α}
    (leads : Leads (Backend.drawBinding >>= f).run asked left) :
    (asked = [] ∧ ∃ next, left = .ask (I := Backend.interface) .drawBinding next) ∨
      ∃ draw rest, asked = ⟨.drawBinding, draw⟩ :: rest ∧ Leads (f draw).run rest left := by
  have asks : Backend.drawBinding.run =
    .ask (I := Backend.interface) .drawBinding fun draw => .done (.ok draw) := rfl
  rw [Program.run_bind_except, asks, Program.bind] at leads
  cases leads with
  | start => exact .inl ⟨rfl, _, rfl⟩
  | ask draw rest => exact .inr ⟨draw, _, rfl, rest⟩

end Asking

section Binding

variable {h : DatabaseHandler} {name binding : String} {a : Appliance} {admin : Connection}
  {asked : List (Asked Backend.interface)}

/-- Where a request to bind stands between its questions: what `made` says of a binding that it
made is its outcome, or what `seen` says of one that it found. -/
inductive Stands (name : String) (admin : Connection) (binding : String) {α : Type}
    (made : BindingRecord → α) (seen : BindingRecord → α → Prop) :
    List (Asked Backend.interface) → Program Backend.interface α → Prop where
  | looking {asked : List (Asked Backend.interface)} {call : Backend.Call}
    {next : call.Answer → Program Backend.interface α}
    (looked : ∀ x ∈ asked, Looks name admin binding x.call)
    (looks : Looks name admin binding call) :
    Stands name admin binding made seen asked (.ask (I := Backend.interface) call next)
  | making {asked : List (Asked Backend.interface)} {draw : Dialect.Draw}
    {next : Except ServiceError BindingRecord → Program Backend.interface α}
    (looked : ∀ x ∈ asked, Looks name admin binding x.call)
    (prepared : ⟨.dialect (.prepare admin), .ok ()⟩ ∈ asked)
    (vacant : ⟨.dialect (.read admin binding), .ok none⟩ ∈ asked) :
    Stands name admin binding made seen asked
      (.ask (I := Backend.interface) (.dialect (.create admin binding draw)) next)
  | made {asked : List (Asked Backend.interface)} {draw : Dialect.Draw} {record : BindingRecord}
    (looked : ∀ x ∈ asked, Looks name admin binding x.call) :
    Stands name admin binding made seen
      (asked ++ [⟨.dialect (.create admin binding draw), .ok record⟩]) (.done (made record))
  | seen {asked : List (Asked Backend.interface)} {record : BindingRecord} {outcome : α}
    (looked : ∀ x ∈ asked, Looks name admin binding x.call)
    (there : ⟨.dialect (.read admin binding), .ok (some record)⟩ ∈ asked)
    (saw : seen record outcome) :
    Stands name admin binding made seen asked (.done outcome)

/-- Another look before all that was asked leaves a request where it stands. -/
theorem Stands.cons {α : Type} {made : BindingRecord → α} {seen : BindingRecord → α → Prop}
    {x : Asked Backend.interface} {left : Program Backend.interface α}
    (looks : Looks name admin binding x.call)
    (stands : Stands name admin binding made seen asked left) :
    Stands name admin binding made seen (x :: asked) left := by
  cases stands with
  | looking looked on => exact .looking (List.forall_mem_cons.2 ⟨looks, looked⟩) on
  | making looked prepared vacant =>
    exact .making (List.forall_mem_cons.2 ⟨looks, looked⟩) (List.mem_cons_of_mem _ prepared)
      (List.mem_cons_of_mem _ vacant)
  | made looked => exact .made (List.forall_mem_cons.2 ⟨looks, looked⟩)
  | seen looked there saw =>
    exact .seen (List.forall_mem_cons.2 ⟨looks, looked⟩) (List.mem_cons_of_mem _ there) saw

/-- Looks before all that was asked leave a request where it stands. -/
theorem Stands.append {α : Type} {made : BindingRecord → α} {seen : BindingRecord → α → Prop}
    {first : List (Asked Backend.interface)} {left : Program Backend.interface α}
    (looked : ∀ x ∈ first, Looks name admin binding x.call)
    (stands : Stands name admin binding made seen asked left) :
    Stands name admin binding made seen (first ++ asked) left := by
  induction first with
  | nil => exact stands
  | cons x first ih =>
    obtain ⟨looks, looked⟩ := List.forall_mem_cons.1 looked
    exact (ih looked).cons looks

/-- A request that still asks has only looked. -/
theorem Stands.of_ask {α : Type} {made : BindingRecord → α} {seen : BindingRecord → α → Prop}
    {call : Backend.Call} {next : call.Answer → Program Backend.interface α}
    (stands : Stands name admin binding made seen asked
      (.ask (I := Backend.interface) call next)) :
    (∀ x ∈ asked, Looks name admin binding x.call) ∧ (Looks name admin binding call ∨
      ∃ draw, call = .dialect (.create admin binding draw) ∧
        ⟨.dialect (.prepare admin), .ok ()⟩ ∈ asked ∧
        ⟨.dialect (.read admin binding), .ok none⟩ ∈ asked) := by
  cases stands with
  | looking looked looks => exact ⟨looked, .inl looks⟩
  | making looked prepared vacant => exact ⟨looked, .inr ⟨_, rfl, prepared, vacant⟩⟩

/-- A request that is done has made a binding last, or found one. -/
theorem Stands.of_done {α : Type} {made : BindingRecord → α} {seen : BindingRecord → α → Prop}
    {outcome : α} (stands : Stands name admin binding made seen asked (.done outcome)) :
    (∃ draw record, ⟨.dialect (.create admin binding draw), .ok record⟩ ∈ asked ∧
      outcome = made record) ∨
    ∃ record, ⟨.dialect (.read admin binding), .ok (some record)⟩ ∈ asked ∧
      seen record outcome := by
  cases stands with
  | made looked => exact .inl ⟨_, _, List.mem_append_right _ List.mem_cons_self, rfl⟩
  | seen looked there saw => exact .inr ⟨_, there, saw⟩

/-- Who has made a binding is done. -/
theorem Stands.of_made {α : Type} {made : BindingRecord → α} {seen : BindingRecord → α → Prop}
    {left : Program Backend.interface α} {admin' : Connection} {binding' : String}
    {draw : Dialect.Draw} {record : BindingRecord}
    (stands : Stands name admin binding made seen asked left)
    (makes : ⟨.dialect (.create admin' binding' draw), .ok record⟩ ∈ asked) :
    left = .done (made record) := by
  cases stands with
  | looking looked looks => cases looked _ makes
  | making looked prepared vacant => cases looked _ makes
  | made looked =>
    rcases List.mem_append.1 makes with before | last
    · cases looked _ before
    · cases List.mem_singleton.1 last
      rfl
  | seen looked there saw => cases looked _ makes

/-- The outcome made into another. -/
theorem Stands.map {α β : Type} {made : BindingRecord → α} {seen : BindingRecord → α → Prop}
    {made' : BindingRecord → β} {seen' : BindingRecord → β → Prop}
    {left : Program Backend.interface α} (f : α → β)
    (hmade : ∀ record, f (made record) = made' record)
    (hseen : ∀ record outcome, seen record outcome → seen' record (f outcome))
    (stands : Stands name admin binding made seen asked left) :
    Stands name admin binding made' seen' asked (left.bind fun value => .done (f value)) := by
  cases stands with
  | looking looked on => exact .looking looked on
  | making looked prepared vacant => exact .making looked prepared vacant
  | made looked =>
    rw [Program.bind, hmade]
    exact .made looked
  | seen looked there saw => exact .seen looked there (hseen _ _ saw)

variable (hadmin : h.administrator a = .ok admin)

include hadmin

/-- A request that looks for a binding looks on, or has found none, or one on record. -/
theorem stands_bindingState
    {left : Program Backend.interface (Except ServiceError (Option BindingState))}
    (leads : Leads (h.bindingState name binding).run asked left) (plain : ∀ x ∈ asked, Plain a x) :
    (∀ x ∈ asked, Looks name admin binding x.call) ∧
      ((∃ call next, Looks name admin binding call ∧
          left = .ask (I := Backend.interface) call next) ∨
        left = .done (.ok none) ∨
        ∃ record, ⟨.dialect (.read admin binding), .ok (some record)⟩ ∈ asked ∧
          left = .done (.ok (some ⟨credentials admin record⟩))) := by
  rcases leads_connection hadmin leads plain with
    ⟨rfl, next, rfl⟩ | ⟨asked, rfl, plain, leads⟩
  · exact ⟨List.forall_mem_nil _, .inl ⟨_, next, .find, rfl⟩⟩
  rcases leads_dialect leads plain with ⟨rfl, next, rfl⟩ | ⟨_, asked, rfl, plain, leads⟩
  · exact ⟨by simp [found, Looks.find], .inl ⟨_, next, .connect, rfl⟩⟩
  rcases leads_dialectStep leads plain with ⟨rfl, next, rfl⟩ | ⟨there, asked, rfl, later, leads⟩
  · exact ⟨by simp [found, Looks.find, Looks.connect], .inl ⟨_, next, .hasTable, rfl⟩⟩
  cases there with
  | false =>
    obtain ⟨rfl, rfl⟩ := Leads.of_done leads
    exact ⟨by simp [Looks.find, Looks.connect, Looks.hasTable, found], .inr (.inl rfl)⟩
  | true =>
    rw [if_pos rfl] at leads
    rcases leads_dialectStep leads later with ⟨rfl, next, rfl⟩ | ⟨record, asked, rfl, -, leads⟩
    · exact ⟨by simp [Looks.find, Looks.connect, Looks.hasTable, found],
        .inl ⟨_, next, .read, rfl⟩⟩
    obtain ⟨rfl, rfl⟩ := Leads.of_done leads
    refine ⟨by simp [Looks.find, Looks.connect, Looks.hasTable, Looks.read, found], .inr ?_⟩
    cases record with
    | none => exact .inl rfl
    | some record => exact .inr ⟨record, by simp, rfl⟩

/-- Where a request to make a binding stands. -/
theorem stands_createBinding {left : Program Backend.interface (Except ServiceError Credentials)}
    (leads : Leads (h.createBinding name binding).run asked left) (plain : ∀ x ∈ asked, Plain a x) :
    Stands name admin binding (fun record => .ok (credentials admin record))
      (fun _ outcome => outcome = .error (.bindingAlreadyExists binding)) asked left := by
  rcases leads_connection hadmin leads plain with
    ⟨rfl, next, rfl⟩ | ⟨asked, rfl, plain, leads⟩
  · exact .looking (List.forall_mem_nil _) .find
  refine .cons .find ?_
  rcases leads_dialect leads plain with ⟨rfl, next, rfl⟩ | ⟨_, asked, rfl, plain, leads⟩
  · exact .looking (List.forall_mem_nil _) .connect
  refine .cons .connect ?_
  rcases leads_dialectStep leads plain with ⟨rfl, next, rfl⟩ | ⟨_, asked, rfl, plain, leads⟩
  · exact .looking (List.forall_mem_nil _) .prepare
  rcases leads_dialectStep leads plain with ⟨rfl, next, rfl⟩ | ⟨record, asked, rfl, later, leads⟩
  · exact .cons .prepare (.looking (List.forall_mem_nil _) .read)
  cases record with
  | some record =>
    change Leads (.done (.error (.bindingAlreadyExists binding))) asked left at leads
    obtain ⟨rfl, rfl⟩ := Leads.of_done leads
    exact .cons .prepare (.seen (List.forall_mem_singleton.2 .read) List.mem_cons_self rfl)
  | none =>
    rcases leads_drawBinding leads with ⟨rfl, next, rfl⟩ | ⟨draw, asked, rfl, drawn⟩
    · exact .cons .prepare (.cons .read (.looking (List.forall_mem_nil _) .draw))
    rcases leads_dialectStep drawn (List.forall_mem_cons.1 later).2 with
      ⟨rfl, next, rfl⟩ | ⟨record, asked, rfl, -, leads⟩
    · refine .making ?_ List.mem_cons_self (List.mem_cons_of_mem _ List.mem_cons_self)
      simp [Looks.prepare, Looks.read, Looks.draw]
    · obtain ⟨rfl, rfl⟩ := Leads.of_done leads
      exact .cons .prepare (.cons .read (.cons .draw (.made (List.forall_mem_nil _))))

/-- **Where a request to bind stands.** -/
theorem stands_bind {left : Program Backend.interface Lifecycle.Outcome}
    (leads : Leads ((Lifecycle.perform (.bind name binding)).interpret h.answer) asked left)
    (plain : ∀ x ∈ asked, Plain a x) :
    Stands name admin binding (fun record => .bind (.created (credentials admin record)))
      (fun record outcome => outcome = .bind (.alreadyBound (credentials admin record)) ∨
        outcome = .bind .internalError) asked left := by
  have whole : (Lifecycle.perform (.bind name binding)).interpret h.answer =
      (instanceState name none).run.bind fun
        | .error _ => .done (.bind .internalError)
        | .ok none => .done (.bind .instanceNotFound)
        | .ok (some _) => (h.bindingState name binding).run.bind fun
          | .error _ => .done (.bind .internalError)
          | .ok none => (h.createBinding name binding).run.bind fun answer =>
            .done (match answer with
              | .ok credentials => .bind (.created credentials)
              | .error _ => .bind .internalError)
          | .ok (some state) => .done (.bind (.alreadyBound state.credentials)) := by
    show Program.bind _ _ = _
    congr 1
    funext answer
    rcases answer with e | (_ | state)
    · rfl
    · rfl
    · show Program.bind _ _ = _
      congr 1
      funext answer
      rcases answer with e | (_ | state)
      · rfl
      · show Program.bind _ _ = _
        congr 1
        funext answer
        rcases answer with e | credentials <;> rfl
      · rfl
  rw [whole] at leads
  rcases Leads.of_bind leads with
    ⟨call, next, asking, rfl⟩ | ⟨answer, first, rest, rfl, searching, leads⟩
  · rcases leads_instanceState asking plain with ⟨rfl, _, ⟨⟩⟩ | ⟨-, ⟨⟩⟩
    exact .looking (List.forall_mem_nil _) .find
  obtain ⟨plain, later⟩ := List.forall_mem_append.1 plain
  rcases leads_instanceState searching plain with ⟨-, _, ⟨⟩⟩ | ⟨rfl, ⟨⟩⟩
  rw [List.singleton_append]
  refine .cons .find ?_
  rcases Leads.of_bind leads with
    ⟨call, next, asking, rfl⟩ | ⟨answer, first, rest, rfl, looking, leads⟩
  · obtain ⟨looked, ⟨_, _, looks, ⟨⟩⟩ | ⟨⟨⟩⟩ | ⟨_, _, ⟨⟩⟩⟩ :=
      stands_bindingState hadmin asking later
    exact .looking looked looks
  obtain ⟨plain, later⟩ := List.forall_mem_append.1 later
  obtain ⟨looked, ⟨_, _, -, ⟨⟩⟩ | ⟨⟨⟩⟩ | ⟨record, there, ⟨⟩⟩⟩ :=
    stands_bindingState hadmin looking plain
  · obtain ⟨left, making, rfl⟩ := Leads.exists_of_map leads
    refine .append looked ((stands_createBinding hadmin making later).map _ (fun _ => rfl) ?_)
    rintro record outcome rfl
    exact .inr rfl
  · obtain ⟨rfl, rfl⟩ := Leads.of_done leads
    rw [List.append_nil]
    exact .seen looked there (.inl rfl)

end Binding
end DatabaseHandler
end ServiceBroker

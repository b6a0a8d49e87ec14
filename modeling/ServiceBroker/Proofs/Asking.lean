/-
# What a program has asked

A program that is stopped between its questions has asked some of them, been answered, and
still has to do what is left (`Program.Leads`).  What its last answer leads to is settled by
the list of all of them, whatever else went on in between.
-/

import ServiceBroker.Proofs.Performing

namespace ServiceBroker
namespace Program

/-- A question and its answer. -/
structure Asked (I : Interface) where
  call : I.Call
  answer : I.Answer call

/-- With these answers, a program still has to do what the other does. -/
inductive Leads {I : Interface} {α : Type} : Program I α → List (Asked I) → Program I α → Prop
  where
  | start (p : Program I α) : Leads p [] p
  | ask {call : I.Call} {next : I.Answer call → Program I α} (answer : I.Answer call)
    {asked : List (Asked I)} {left : Program I α} (rest : Leads (next answer) asked left) :
    Leads (.ask call next) (⟨call, answer⟩ :: asked) left

variable {I J : Interface} {α β : Type}

/-- One more answer leads on. -/
theorem Leads.snoc {p : Program I α} {asked : List (Asked I)} {call : I.Call}
    {next : I.Answer call → Program I α} (h : Leads p asked (.ask call next))
    (answer : I.Answer call) : Leads p (asked ++ [⟨call, answer⟩]) (next answer) := by
  generalize hq : Program.ask call next = q at h
  induction h with
  | start p =>
    subst hq
    exact .ask answer (.start _)
  | ask first rest ih => exact .ask first (ih hq)

/-- A program that is done asks nothing. -/
theorem Leads.of_done {value : α} {asked : List (Asked I)} {left : Program I α}
    (h : Leads (done value) asked left) : asked = [] ∧ left = done value := by
  cases h
  exact ⟨rfl, rfl⟩

/-- A question that leads to a value was answered, and the answer led on to it. -/
theorem Leads.of_ask {call : I.Call} {next : I.Answer call → Program I α}
    {asked : List (Asked I)} {value : α} (h : Leads (.ask call next) asked (.done value)) :
    ∃ answer rest, asked = ⟨call, answer⟩ :: rest ∧ Leads (next answer) rest (.done value) := by
  cases h with
  | ask answer rest => exact ⟨answer, _, rfl, rest⟩

/-- A program whose value is made into another asks what it asked without. -/
theorem Leads.exists_of_map {p : Program I α} {f : α → β} {asked : List (Asked I)}
    {left : Program I β} (h : Leads (p.bind fun value => .done (f value)) asked left) :
    ∃ further, Leads p asked further ∧ left = further.bind fun value => .done (f value) := by
  induction p generalizing asked with
  | done value =>
    obtain ⟨rfl, rfl⟩ := Leads.of_done h
    exact ⟨_, .start _, rfl⟩
  | ask call next ih =>
    cases h with
    | start => exact ⟨_, .start _, rfl⟩
    | ask answer rest =>
      obtain ⟨further, leads, is⟩ := ih answer rest
      exact ⟨further, .ask answer leads, is⟩

/-- What is led to by a change of the value is the change of a value that was led to. -/
theorem Leads.of_map {p : Program I α} {f : α → β} {asked : List (Asked I)} {result : β}
    (h : Leads (p.bind fun value => .done (f value)) asked (.done result)) :
    ∃ value, result = f value ∧ Leads p asked (.done value) := by
  obtain ⟨further, leads, is⟩ := h.exists_of_map
  cases further with
  | done value =>
    cases is
    exact ⟨value, rfl, leads⟩
  | ask call next => cases is

/-- Of one program after another, the first still asks, or it is done and the second goes on. -/
theorem Leads.of_bind {p : Program I α} {f : α → Program I β} {asked : List (Asked I)}
    {left : Program I β} (h : Leads (p.bind f) asked left) :
    (∃ call next, Leads p asked (.ask call next) ∧
      left = .ask call fun answer => (next answer).bind f) ∨
      ∃ value first rest, asked = first ++ rest ∧ Leads p first (.done value) ∧
        Leads (f value) rest left := by
  induction p generalizing asked with
  | done value => exact .inr ⟨value, [], asked, rfl, .start _, h⟩
  | ask call next ih =>
    cases h with
    | start => exact .inl ⟨call, next, .start _, rfl⟩
    | ask answer further =>
      rcases ih answer further with ⟨c, k, leads, is⟩ | ⟨value, first, rest, rfl, leads, second⟩
      · exact .inl ⟨c, k, .ask answer leads, is⟩
      · exact .inr ⟨value, _, rest, rfl, .ask answer leads, second⟩

/-- The value of a program that is done. -/
def value? : Program I α → Option α
  | done value => some value
  | ask _ _ => none

/-- A program that has a value is done with it. -/
theorem eq_done_of_value? {p : Program I α} {value : α}
    (h : p.value? = some value) : p = .done value := by
  cases p with
  | done v => exact congrArg done (Option.some.inj h)
  | ask call next => cases h

/-- Two programs one after another are interpreted one after the other. -/
theorem interpret_bind (h : (call : I.Call) → Program J (I.Answer call)) (p : Program I α)
    (f : α → Program I β) :
    (p.bind f).interpret h = (p.interpret h).bind fun value => (f value).interpret h := by
  induction p with
  | done value => rfl
  | ask call next ih => simp only [Program.bind, interpret, ih, bind_bind]

/-- Answering questions by programs and then these is answering by what the programs do. -/
theorem run_interpret {m : Type → Type} [Monad m] [LawfulMonad m]
    (h : (call : I.Call) → Program J (I.Answer call)) (answer : (call : J.Call) → m (J.Answer call))
    (p : Program I α) :
    (p.interpret h).run answer = p.run fun call => (h call).run answer := by
  induction p with
  | done value => rfl
  | ask call next ih => simp only [interpret, run_bind, run_ask, ih]

end Program

namespace Backend

open Program (Asked Leads)

/-- A search that finds one appliance. -/
def found (name : String) (a : Appliance) : Asked Backend.interface :=
  ⟨.provider (.find name), .ok [a]⟩

/-- The start of a deletion. -/
def startedDeletion (name : String) (id : ApplianceId) : Asked Backend.interface :=
  ⟨.startDeletion name id, ()⟩

/-- A request to delete asks for its appliance, and then for the deletion of what it found. -/
theorem asks_of_leads {name : String} {asked : List (Asked interface)} {call : Call}
    {next : call.Answer → Program interface (Except ServiceError Unit)}
    (h : Leads (DatabaseHandler.deleteInstance name).run asked (.ask (I := interface) call next)) :
    call = .provider (.find name) ∨
      ∃ a, call = .startDeletion name a.id ∧ found name a ∈ asked := by
  rw [DatabaseHandler.deleteInstance_eq] at h
  cases h with
  | start p => exact .inl rfl
  | ask answer rest =>
    rcases answer with e | (_ | ⟨a, _ | ⟨b, more⟩⟩)
    · cases rest
    · cases rest
    · cases rest with
      | start p => exact .inr ⟨a, rfl, List.mem_cons_self⟩
      | ask answer rest => cases rest
    · cases rest

end Backend

/-- A request is one program on the backend. -/
theorem Broker.perform_eq_run {σ : Type} (s : BrokerSettings σ) (handler : DatabaseHandler)
    (request : Lifecycle.Request) :
    perform s handler request =
      ((Lifecycle.perform request).interpret handler.answer).run (I := Backend.interface)
        (answer s handler.engine) :=
  (Program.run_interpret _ _ _).symm

end ServiceBroker

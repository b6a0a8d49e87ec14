/-
# Appliances of another engine

The handlers of both engines look for their instances in one provider, by name, and no handler
looks at the engine of what it finds.  `DatabaseHandler.served_iff` states what an appliance has to
be like to be served, as every operation answers; its engine is no part of it.  So the handler
of one engine serves what the other has ordered (`Broker.served_across_engines`).
-/

import ServiceBroker.Proofs.BindRequest
import ServiceBroker.Proofs.Errand
import ServiceBroker.Proofs.Quoting
import ServiceBroker.Registry

namespace ServiceBroker

namespace DatabaseHandler

open Program (Asked Leads)
open Backend (Action found startedDeletion)

/-- A search finds one appliance and no other. -/
def Sees (a : Appliance) : Asked Backend.interface → Prop
  | ⟨.provider (.find _), answer⟩ => answer = .ok [a]
  | _ => True

/-- A call to the dialect that succeeds, or any other. -/
def Succeeds : Asked Backend.interface → Prop
  | ⟨.dialect _, answer⟩ => ∃ value, answer = .ok value
  | _ => True

/-- A table of bindings is made sure of. -/
def Prepares : Asked Backend.interface → Prop
  | ⟨.dialect (.prepare _), _⟩ => True
  | _ => False

/-- A binding is found on record. -/
def FindsRecord : Asked Backend.interface → Prop
  | ⟨.dialect (.read _ _), answer⟩ => ∃ record, answer = .ok (some record)
  | _ => False

/-- The server of an appliance has an address and does what it is told. -/
structure Obeyed (a : Appliance) (asked : List (Asked Backend.interface)) : Prop where
  addressed : a.ipAddress.isSome
  succeeds : ∀ x ∈ asked, Succeeds x

/-- A binding is on record that was not when it was first looked for. -/
structure Raced (asked : List (Asked Backend.interface)) : Prop where
  prepares : ∃ x ∈ asked, Prepares x
  finds : ∃ x ∈ asked, FindsRecord x

section Lists

variable {a : Appliance} {x : Asked Backend.interface} {first rest : List (Asked Backend.interface)}

/-- Without calls it takes an address only. -/
@[simp] theorem obeyed_nil : Obeyed a [] ↔ a.ipAddress.isSome :=
  ⟨Obeyed.addressed, fun addressed => ⟨addressed, List.forall_mem_nil _⟩⟩

/-- What was asked was obeyed if the first part was and the rest was. -/
@[simp] theorem obeyed_append : Obeyed a (first ++ rest) ↔ Obeyed a first ∧ Obeyed a rest := by
  constructor
  · rintro ⟨addressed, succeeds⟩
    rw [List.forall_mem_append] at succeeds
    exact ⟨⟨addressed, succeeds.1⟩, ⟨addressed, succeeds.2⟩⟩
  · rintro ⟨⟨addressed, left⟩, -, right⟩
    exact ⟨addressed, List.forall_mem_append.2 ⟨left, right⟩⟩

/-- What was asked was obeyed if the first call succeeded and the rest was obeyed. -/
@[simp] theorem obeyed_cons : Obeyed a (x :: rest) ↔ Succeeds x ∧ Obeyed a rest := by
  constructor
  · rintro ⟨addressed, succeeds⟩
    rw [List.forall_mem_cons] at succeeds
    exact ⟨succeeds.1, addressed, succeeds.2⟩
  · rintro ⟨here, addressed, succeeds⟩
    exact ⟨addressed, List.forall_mem_cons.2 ⟨here, succeeds⟩⟩

/-- Who has seen a race has seen it whatever else was asked. -/
theorem Raced.mono (raced : Raced first) (sub : ∀ x ∈ first, x ∈ rest) : Raced rest := by
  obtain ⟨⟨x, hx, prepares⟩, ⟨y, hy, finds⟩⟩ := raced
  exact ⟨⟨x, sub x hx, prepares⟩, ⟨y, sub y hy, finds⟩⟩

end Lists

section Parts

variable {α : Type} {h : DatabaseHandler} {name binding : String} {a : Appliance}
  {asked : List (Asked Backend.interface)}

/-- What is done on the connection to an appliance that is seen. -/
theorem of_connection {f : Connection → Action α} {result : Except ServiceError α}
    (leads : Leads (h.connection name >>= f).run asked (.done result))
    (sees : ∀ x ∈ asked, Sees a x) :
    ∃ rest, asked = found name a :: rest ∧
      ((∃ admin, a.ipAddress.isSome ∧ Leads (f admin).run rest (.done result)) ∨
        ∃ e, a.ipAddress = none ∧ rest = [] ∧ result = .error e) := by
  rw [Program.run_bind_except, connection_eq, Program.bind] at leads
  obtain ⟨answer, rest, rfl, further⟩ := leads.of_ask
  obtain rfl : answer = .ok [a] := sees _ List.mem_cons_self
  refine ⟨rest, rfl, ?_⟩
  change Leads (Program.bind (.done (h.administrator a)) _) rest _ at further
  cases reached : h.administrator a with
  | ok admin =>
    rw [reached] at further
    obtain ⟨address, addressed, -⟩ := administrator_eq_ok_iff.1 reached
    exact .inl ⟨admin, Option.isSome_of_eq_some addressed, further⟩
  | error e =>
    rw [reached] at further
    obtain ⟨rfl, is⟩ := further.of_done
    cases is
    refine .inr ⟨e, ?_, rfl, rfl⟩
    cases addressed : a.ipAddress with
    | none => rfl
    | some address =>
      obtain ⟨admin, reached'⟩ := administrator_of_address (h := h) addressed
      cases reached.symm.trans reached'

/-- What is done after a call to the dialect. -/
theorem of_call {call : Dialect.Call} {p : Action call.Result} {told : call.Answer → call.Answer}
    (hok : ∀ value, told (.ok value) = .ok value)
    (herror : ∀ e, ∃ e', told (.error e) = .error e')
    (hp : p.run = .ask (I := Backend.interface) (.dialect call) fun answer => .done (told answer))
    {f : call.Result → Action α} {result : Except ServiceError α}
    (leads : Leads (p >>= f).run asked (.done result)) :
    (∃ value rest, asked = ⟨.dialect call, .ok value⟩ :: rest ∧
        Leads (f value).run rest (.done result)) ∨
      ∃ e e', asked = [⟨.dialect call, .error e⟩] ∧ result = .error e' := by
  rw [Program.run_bind_except, hp, Program.bind] at leads
  obtain ⟨answer, rest, rfl, further⟩ := leads.of_ask
  dsimp only [Program.bind] at further
  cases answer with
  | ok value =>
    rw [hok] at further
    exact .inl ⟨value, rest, rfl, further⟩
  | error e =>
    obtain ⟨e', is⟩ := herror e
    rw [is] at further
    obtain ⟨rfl, done⟩ := further.of_done
    cases done
    exact .inr ⟨e, e', rfl, rfl⟩

/-- An action on the answer to a call of the dialect goes on with a value, or ends with the
failure. -/
theorem of_dialect {call : Dialect.Call} {f : call.Result → Action α}
    {result : Except ServiceError α}
    (leads : Leads (Backend.dialect call >>= f).run asked (.done result)) :
    (∃ value rest, asked = ⟨.dialect call, .ok value⟩ :: rest ∧
        Leads (f value).run rest (.done result)) ∨
      ∃ e e', asked = [⟨.dialect call, .error e⟩] ∧ result = .error e' :=
  of_call (fun _ => rfl) (fun e => ⟨e, rfl⟩) rfl leads

/-- A named step goes on with a value, or ends with the failure. -/
theorem of_dialectStep {step : String} {call : Dialect.Call} {f : call.Result → Action α}
    {result : Except ServiceError α}
    (leads : Leads (Backend.dialectStep step call >>= f).run asked (.done result)) :
    (∃ value rest, asked = ⟨.dialect call, .ok value⟩ :: rest ∧
        Leads (f value).run rest (.done result)) ∨
      ∃ e e', asked = [⟨.dialect call, .error e⟩] ∧ result = .error e' :=
  of_call (fun _ => rfl) (fun e => ⟨.step step e, rfl⟩) rfl leads

end Parts

section Calls

variable {h : DatabaseHandler} {name binding : String} {a : Appliance}
  {asked : List (Asked Backend.interface)}

/-- What comes of looking a binding up. -/
theorem of_bindingState {result : Except ServiceError (Option BindingState)}
    (leads : Leads (h.bindingState name binding).run asked (.done result))
    (sees : ∀ x ∈ asked, Sees a x) : (∀ x ∈ asked, ¬Prepares x) ∧
      ((∃ e, result = .error e ∧ ¬Obeyed a asked) ∨
        Obeyed a asked ∧ ((result = .ok none ∧ ∀ x ∈ asked, ¬FindsRecord x) ∨
          ∃ state, result = .ok (some state))) := by
  obtain ⟨asked, rfl, ⟨admin, addressed, connects⟩ | ⟨e, homeless, rfl, rfl⟩⟩ :=
    of_connection leads sees
  · rcases of_dialect connects with ⟨-, asked, rfl, looks⟩ | ⟨e, e', rfl, rfl⟩
    · rcases of_dialectStep looks with ⟨there, asked, rfl, reads⟩ | ⟨e, e', rfl, rfl⟩
      · cases there with
        | false =>
          obtain ⟨rfl, is⟩ := Leads.of_done reads
          cases is
          simp [Succeeds, Prepares, FindsRecord, found, addressed]
        | true =>
          rw [if_pos rfl] at reads
          rcases of_dialectStep reads with ⟨record, asked, rfl, ends⟩ | ⟨e, e', rfl, rfl⟩
          · obtain ⟨rfl, is⟩ := Leads.of_done ends
            cases is
            cases record <;>
            simp [Succeeds, Prepares, FindsRecord, found, addressed]
          · simp [Succeeds, Prepares, found]
      · simp [Succeeds, Prepares, found]
    · simp [Succeeds, Prepares, found]
  · simp [Prepares, found, homeless]

/-- What comes of making a binding: it is made unless one is on record. -/
theorem of_createBinding {result : Except ServiceError Credentials}
    (leads : Leads (h.createBinding name binding).run asked (.done result))
    (sees : ∀ x ∈ asked, Sees a x) :
    ((∃ credentials, result = .ok credentials) ∧ Obeyed a asked ∧ ∀ x ∈ asked, ¬FindsRecord x) ∨
      (∃ e, result = .error e) ∧ (Obeyed a asked → Raced asked) := by
  obtain ⟨asked, rfl, ⟨admin, addressed, connects⟩ | ⟨e, homeless, rfl, rfl⟩⟩ :=
    of_connection leads sees
  · rcases of_dialect connects with ⟨-, asked, rfl, prepares⟩ | ⟨e, e', rfl, rfl⟩
    · rcases of_dialectStep prepares with ⟨-, asked, rfl, reads⟩ | ⟨e, e', rfl, rfl⟩
      · rcases of_dialectStep reads with ⟨record, asked, rfl, draws⟩ | ⟨e, e', rfl, rfl⟩
        · cases record with
          | some record =>
            change Leads (.done (Except.error (ServiceError.bindingAlreadyExists binding))) asked _
              at draws
            obtain ⟨rfl, is⟩ := Leads.of_done draws
            cases is
            exact .inr ⟨⟨_, rfl⟩, fun _ => ⟨by simp [Prepares], by simp [FindsRecord]⟩⟩
          | none =>
            rcases leads_drawBinding draws with ⟨rfl, next, is⟩ | ⟨draw, asked, rfl, makes⟩
            · cases is
            · rcases of_dialectStep makes with ⟨record, asked, rfl, ends⟩ | ⟨e, e', rfl, rfl⟩
              · obtain ⟨rfl, is⟩ := Leads.of_done ends
                cases is
                simp [Succeeds, FindsRecord, found, addressed]
              · simp [Succeeds, found]
        · simp [Succeeds, found]
      · simp [Succeeds, found]
    · simp [Succeeds, found]
  · simp [found, homeless]

/-- What comes of removing a binding. -/
theorem of_deleteBinding {result : Except ServiceError Unit}
    (leads : Leads (h.deleteBinding name binding).run asked (.done result))
    (sees : ∀ x ∈ asked, Sees a x) : result = .ok () ↔ Obeyed a asked := by
  obtain ⟨asked, rfl, ⟨admin, addressed, connects⟩ | ⟨e, homeless, rfl, rfl⟩⟩ :=
    of_connection leads sees
  · rcases of_dialect connects with ⟨-, asked, rfl, looks⟩ | ⟨e, e', rfl, rfl⟩
    · rcases of_dialectStep looks with ⟨there, asked, rfl, reads⟩ | ⟨e, e', rfl, rfl⟩
      · cases there with
        | false =>
          obtain ⟨rfl, is⟩ := Leads.of_done reads
          cases is
          simp [Succeeds, found, addressed]
        | true =>
          rw [if_pos rfl] at reads
          rcases of_dialectStep reads with ⟨user, asked, rfl, removes⟩ | ⟨e, e', rfl, rfl⟩
          · cases user with
            | none =>
              obtain ⟨rfl, is⟩ := Leads.of_done removes
              cases is
              simp [Succeeds, found, addressed]
            | some user =>
              obtain ⟨answer, asked, rfl, ends⟩ := Leads.of_ask removes
              obtain ⟨rfl, is⟩ := Leads.of_done ends
              cases is
              rw [ServiceError.inStep_eq_ok_iff]
              cases answer <;> simp [Succeeds, found, addressed]
          · simp [Succeeds, found]
      · simp [Succeeds, found]
    · simp [Succeeds, found]
  · simp [found, homeless]

end Calls

section Requests

variable {h : DatabaseHandler} {name : String} {a : Appliance}
  {asked : List (Asked Backend.interface)} {outcome : Lifecycle.Outcome}

/-- An operation on an instance that is seen. -/
theorem of_instanceState {α : Type} {requested : Option Parameters}
    {f : Except ServiceError (Option InstanceState) → Lifecycle.Action α} {value : α}
    (leads : Leads (Program.interpret (I := Handler.interface) h.answer
      (Lifecycle.ask (.instanceState name requested) >>= f)) asked (.done value))
    (sees : ∀ x ∈ asked, Sees a x) :
    ∃ rest, asked = found name a :: rest ∧
      Leads (Program.interpret (I := Handler.interface) h.answer
        (f (.ok (some ⟨a, requested⟩)))) rest (.done value) := by
  change Leads (Program.bind (instanceState name requested).run fun answer =>
    (f answer).interpret h.answer) asked _ at leads
  rw [instanceState_eq] at leads
  obtain ⟨answer, rest, rfl, further⟩ := Leads.of_ask leads
  obtain rfl : answer = .ok [a] := sees _ List.mem_cons_self
  exact ⟨rest, rfl, further⟩

/-- A request whose operation came to a value. -/
theorem of_perform {α : Type} {p : Lifecycle.Action α} {f : α → Lifecycle.Outcome}
    (leads : Leads (Program.interpret (I := Handler.interface) h.answer
      (p.bind fun outcome => .done (f outcome))) asked (.done outcome)) :
    ∃ value, outcome = f value ∧
      Leads (Program.interpret (I := Handler.interface) h.answer p) asked (.done value) := by
  rw [Program.interpret_bind] at leads
  exact Leads.of_map leads

/-- A request to provision finds the instance there just if the appliance is what is asked for. -/
theorem of_provision {parameters : Option Json} {told : Lifecycle.ProvisionOutcome}
    (leads : Leads ((Lifecycle.provision name parameters).interpret h.answer) asked (.done told))
    (sees : ∀ x ∈ asked, Sees a x) :
    told = .alreadyProvisioned ↔ ∃ p, Parameters.parse parameters = .ok p ∧
      InstanceState.differs p a = false ∧ a.isFailed = false ∧ a.isUp = true := by
  unfold Lifecycle.provision at leads
  cases parsed : Parameters.parse parameters with
  | error e =>
    rw [parsed] at leads
    cases leads.of_done.2
    simp
  | ok p =>
    rw [parsed] at leads
    obtain ⟨rest, rfl, further⟩ := of_instanceState leads sees
    dsimp only at further
    split_ifs at further with differs failed up
    · change InstanceState.differs p a = true at differs
      cases further.of_done.2
      simp [differs]
    · change a.isFailed = true at failed
      cases further.of_done.2
      simp [failed]
    · change ¬InstanceState.differs p a = true at differs
      change ¬a.isFailed = true at failed
      change a.isUp = true at up
      cases further.of_done.2
      simp [differs, failed, up]
    · change ¬a.isUp = true at up
      cases further.of_done.2
      simp [up]

/-- A request to deprovision starts a deletion just if the appliance is not migrating and up or
failed. -/
theorem of_deprovision {told : Lifecycle.DeprovisionOutcome}
    (leads : Leads ((Lifecycle.deprovision name).interpret h.answer) asked (.done told))
    (sees : ∀ x ∈ asked, Sees a x) : startedDeletion name a.id ∈ asked ↔
      a.isMigrating = false ∧ (a.isUp = true ∨ a.isFailed = true) := by
  rw [interpret_deprovision] at leads
  obtain ⟨answer, rest, rfl, further⟩ := Leads.of_ask leads
  obtain ⟨here, later⟩ := List.forall_mem_cons.1 sees
  obtain rfl : answer = .ok [a] := here
  dsimp only at further
  split_ifs at further with migrating up
  · cases further.of_done.1
    simp [startedDeletion, migrating]
  · rw [deleteInstance_eq] at further
    obtain ⟨answer, rest, rfl, deletes⟩ := Leads.of_ask further
    obtain rfl : answer = .ok [a] := later _ List.mem_cons_self
    obtain ⟨⟨⟩, rest, rfl, ends⟩ := Leads.of_ask deletes
    simpa [startedDeletion, migrating] using up
  · cases further.of_done.1
    simpa [startedDeletion, migrating] using up

/-- A request to unbind succeeds just if the appliance is up and its server obeys. -/
theorem of_unbind {binding : String} {told : Lifecycle.UnbindOutcome}
    (leads : Leads ((Lifecycle.unbind name binding).interpret h.answer) asked (.done told))
    (sees : ∀ x ∈ asked, Sees a x) :
    told = .unbound ↔ (a.isUp = true ∧ a.isFailed = false) ∧ Obeyed a asked := by
  obtain ⟨rest, rfl, further⟩ := of_instanceState leads sees
  dsimp only at further
  split_ifs at further with away
  · have away : ¬(a.isUp = true ∧ a.isFailed = false) := by
      simpa [InstanceState.isUp, InstanceState.isFailed, imp_iff_not_or] using away
    cases further.of_done.2
    simp [away]
  · have serves : a.isUp = true ∧ a.isFailed = false := by
      simpa [InstanceState.isUp, InstanceState.isFailed] using away
    change Leads (Program.bind (h.deleteBinding name binding).run fun answer => _) _ _ at further
    obtain ⟨call, next, -, is⟩ | ⟨answer, first, rest, rfl, removes, ends⟩ := Leads.of_bind further
    · cases is
    · have sees : ∀ x ∈ first, Sees a x := fun x there =>
        sees x (List.mem_cons_of_mem _ (List.mem_append_left _ there))
      have removed := of_deleteBinding removes sees
      cases answer with
      | ok value =>
        obtain ⟨rfl, is⟩ := Leads.of_done ends
        cases is
        simp [serves, Succeeds, found, ← removed]
      | error e =>
        obtain ⟨rfl, is⟩ := Leads.of_done ends
        cases is
        simp [serves, Succeeds, found, ← removed]

/-- A binding is told where the server of the appliance does what it is told, unless the binding was
made between two looks. -/
theorem of_bind {binding : String} {told : Lifecycle.BindOutcome}
    (leads : Leads ((Lifecycle.bind name binding).interpret h.answer) asked (.done told))
    (sees : ∀ x ∈ asked, Sees a x) :
    (∃ credentials, told = .created credentials ∨ told = .alreadyBound credentials) ↔
      Obeyed a asked ∧ ¬Raced asked := by
  obtain ⟨rest, rfl, further⟩ := of_instanceState leads sees
  change Leads (Program.bind (h.bindingState name binding).run fun answer => _) _ _ at further
  obtain ⟨call, next, -, is⟩ | ⟨looked, first, rest, rfl, looks, goes⟩ := Leads.of_bind further
  · cases is
  have sees : ∀ x ∈ first ++ rest, Sees a x := fun x there => sees x (List.mem_cons_of_mem _ there)
  rw [List.forall_mem_append] at sees
  obtain ⟨unprepared, ⟨e, rfl, disobeyed⟩ | ⟨obeyed, ⟨rfl, vacant⟩ | ⟨state, rfl⟩⟩⟩ :=
    of_bindingState looks sees.1
  · obtain ⟨rfl, is⟩ := Leads.of_done goes
    cases is
    simp [Succeeds, found, disobeyed]
  · change Leads (Program.bind (h.createBinding name binding).run fun answer => _) _ _ at goes
    obtain ⟨call, next, -, is⟩ | ⟨made, second, rest, rfl, makes, ends⟩ := Leads.of_bind goes
    · cases is
    rw [List.forall_mem_append] at sees
    obtain ⟨⟨credentials, rfl⟩, obeyed', vacant'⟩ | ⟨⟨e, rfl⟩, raced⟩ :=
      of_createBinding makes sees.2.1
    · obtain ⟨rfl, is⟩ := Leads.of_done ends
      cases is
      refine iff_of_true ⟨credentials, .inl rfl⟩ ⟨?_, fun raced => ?_⟩
      · simp [Succeeds, found, obeyed, obeyed']
      · obtain ⟨x, there, finds⟩ := raced.finds
        rw [List.append_nil, List.mem_cons, List.mem_append] at there
        rcases there with rfl | there | there
        · exact finds
        · exact vacant x there finds
        · exact vacant' x there finds
    · obtain ⟨rfl, is⟩ := Leads.of_done ends
      cases is
      refine iff_of_false (by simp) ?_
      rintro ⟨all, unraced⟩
      refine unraced ?_
      rw [obeyed_cons, obeyed_append, List.append_nil] at all
      exact (raced all.2.2).mono fun x there => by simp [there]
  · obtain ⟨rfl, is⟩ := Leads.of_done goes
    cases is
    refine iff_of_true ⟨_, .inr rfl⟩ ⟨?_, fun raced => ?_⟩
    · simp [Succeeds, found, obeyed]
    · obtain ⟨x, there, prepares⟩ := raced.prepares
      rw [List.append_nil, List.mem_cons] at there
      rcases there with rfl | there
      · exact prepares
      · exact unprepared x there prepares

/-- What it takes for an appliance to be served. -/
def Serves (a : Appliance) (asked : List (Asked Backend.interface)) (outcome : Lifecycle.Outcome) :
    Lifecycle.Request → Prop
  | .provision _ parameters => outcome = .provision .alreadyProvisioned ↔
    ∃ p, Parameters.parse parameters = .ok p ∧ InstanceState.differs p a = false ∧
      a.isFailed = false ∧ a.isUp = true
  | .deprovision name => startedDeletion name a.id ∈ asked ↔
    a.isMigrating = false ∧ (a.isUp = true ∨ a.isFailed = true)
  | .bind _ _ => (∃ credentials, outcome = .bind (.created credentials) ∨
      outcome = .bind (.alreadyBound credentials)) ↔ Obeyed a asked ∧ ¬Raced asked
  | .unbind _ _ => outcome = .unbind .unbound ↔
    (a.isUp = true ∧ a.isFailed = false) ∧ Obeyed a asked
  | .poll _ _ => True

end Requests

/-- **The engine of an appliance is no part of what is asked of it.**  A handler of any engine, for
an instance whose only appliance has any engine: whatever the servers answer and whatever else goes
on, the instance is provisioned already if the appliance has the attributes that were asked for and
is up; a binding is told if its server does what it is told; the binding is gone after that if the
appliance is up as well; and a deletion is started if the appliance is up or failed. -/
theorem served_iff (h : DatabaseHandler) (a : Appliance) (request : Lifecycle.Request)
    (asked : List (Asked Backend.interface)) (outcome : Lifecycle.Outcome)
    (leads : Leads ((Lifecycle.perform request).interpret h.answer) asked (.done outcome))
    (sees : ∀ x ∈ asked, Sees a x) : Serves a asked outcome request := by
  cases request with
  | provision name parameters =>
    obtain ⟨told, rfl, comes⟩ := of_perform (f := .provision) leads
    simpa [Serves] using of_provision comes sees
  | deprovision name =>
    obtain ⟨told, rfl, comes⟩ := of_perform (f := .deprovision) leads
    exact of_deprovision comes sees
  | poll operation name => trivial
  | bind name binding =>
    obtain ⟨told, rfl, comes⟩ := of_perform (f := .bind) leads
    simpa [Serves] using of_bind comes sees
  | unbind name binding =>
    obtain ⟨told, rfl, comes⟩ := of_perform (f := .unbind) leads
    simpa [Serves] using of_unbind comes sees

/-- An appliance for MariaDB whose binding the handler of PostgreSQL tells. -/
theorem served_of_other_engine :
    let h : DatabaseHandler := ⟨.postgreSql, 10⟩
    let a := Provider.Memory.boot .instant (applianceId 1) (.plain "a")
    let c : Connection := ⟨.postgreSql, "10.0.0.2", 3306, "root", "root", "secret", a.id.text⟩
    let record : BindingRecord := ⟨"b", "user", "password"⟩
    let asked : List (Asked Backend.interface) := [found "a" a, found "a" a,
      ⟨.dialect (.connect c), .ok ()⟩, ⟨.dialect (.hasTable c), .ok true⟩,
      ⟨.dialect (.read c "b"), .ok (some record)⟩]
    let outcome : Lifecycle.Outcome := .bind (.alreadyBound (credentials c record))
    a.engine = .mariaDb ∧
    Leads ((Lifecycle.perform (.bind "a" "b")).interpret h.answer) asked (.done outcome) ∧
    Obeyed a asked ∧ ¬Raced asked := by
  intro h a c record asked outcome
  have leads : Leads ((Lifecycle.perform (.bind "a" "b")).interpret h.answer) asked
      (.done outcome) :=
    .ask _ (.ask _ (.ask _ (.ask _ (.ask _ (.start _)))))
  have sees : ∀ x ∈ asked, Sees a x := by simp [asked, Sees, found]
  exact ⟨rfl, leads, (served_iff h a _ asked outcome leads sees).1 ⟨_, .inr rfl⟩⟩

end DatabaseHandler

namespace Broker

open Provider (Memory)

/-- **An instance of one service is served by the other.**  Ordered through the handler of MariaDB,
it is provisioned already for the handler of PostgreSQL, which binds, unbinds and deletes it. -/
theorem served_across_engines :
    let s := inMemorySettings .instant .counting
    let maria : DatabaseHandler := ⟨.mariaDb, 10⟩
    let postgres : DatabaseHandler := ⟨.postgreSql, 10⟩
    let provision : Lifecycle.Request := .provision "a" (some (Parameters.named "root"))
    let b := (perform s maria provision (start {})).2
    let c : Connection := ⟨.postgreSql, "10.0.0.2", 3306, "root", "root", (Letters.nth 20 0).text,
      (applianceId 1).text⟩
    let record := (s.chance.binding 1).record "b"
    Registry.databases.handler? Engine.mariaDb.serviceId
      "7320351e-4664-4df5-938c-c0bfe8551609" = some maria ∧
    Registry.databases.handler? Engine.postgreSql.serviceId
      "590eb4a9-6efb-4f14-ac03-b66fe49adb2e" = some postgres ∧
    (b.provider.named "a").map (·.engine) = [.mariaDb] ∧
    (perform s postgres provision b).1 = .provision .alreadyProvisioned ∧
    (perform s postgres (.bind "a" "b") b).1 =
      .bind (.created (DatabaseHandler.credentials c record)) ∧
    (perform s postgres (.unbind "a" "b") b).1 = .unbind .unbound ∧
    b.pending = 0 ∧ (perform s postgres (.deprovision "a") b).2.pending = 1 := by
  decide +kernel

end Broker
end ServiceBroker

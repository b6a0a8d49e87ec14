/-
# A request goes to the server that it found last

A request that reaches a database server goes to that of the appliance which it found last,
and binds there with a user and a password that it has drawn for it
(`DatabaseHandler.keeps_answer` for a call of a handler, `DatabaseHandler.keeps_perform` for
a request).  The credentials that it hands out are those that this server told it.
-/

import ServiceBroker.Proofs.Discipline
import ServiceBroker.Proofs.Errand

namespace ServiceBroker

open Program (Asked Keeps)

/-- Credentials that are handed out for a binding of an instance, of the service of an engine. -/
structure Handout where
  engine : Engine
  name : String
  binding : String
  credentials : Credentials
deriving DecidableEq, Repr

/-- Host and port are those of the appliance, zero for the port of the engine; user and password are
those that were drawn. -/
structure Handout.Matches (handout : Handout) (a : Appliance) (draw : Dialect.Draw) : Prop where
  host : a.ipAddress.map (·.text) = some handout.credentials.host
  port : handout.credentials.port =
    toString (if a.port > 0 then a.port else handout.engine.defaultPort).toNat
  username : handout.credentials.username = draw.username.text
  password : handout.credentials.password = draw.password.text

/-- The credentials that a call to a handler hands out. -/
def Handler.Call.handout? (engine : Engine) : (call : Handler.Call) → call.Answer → Option Handout
  | .bindingState name binding, .ok (some state) => some ⟨engine, name, binding, state.credentials⟩
  | .createBinding name binding, .ok credentials => some ⟨engine, name, binding, credentials⟩
  | _, _ => none

/-- The credentials that a platform is handed. -/
def Lifecycle.Request.handout? (engine : Engine) : Request → Outcome → Option Handout
  | .bind name binding, .bind (.created credentials) => some ⟨engine, name, binding, credentials⟩
  | .bind name binding, .bind (.alreadyBound credentials) =>
    some ⟨engine, name, binding, credentials⟩
  | _, _ => none

/-- The connection that a call is made on. -/
def Dialect.Call.connection : Dialect.Call → Connection
  | .connect c | .prepare c | .hasTable c | .read c _ | .readUser c _ | .create c _ _
  | .delete c _ _ => c

namespace Backend

/-- The appliance that a search found, if it found one. -/
def found? : Asked Backend.interface → Option (String × Appliance)
  | ⟨.provider (.find name), .ok [a]⟩ => some (name, a)
  | _ => none

/-- The appliance found last, with the name that was searched for. -/
def lastFound? (asked : List (Asked Backend.interface)) : Option (String × Appliance) :=
  (asked.filterMap found?).getLast?

variable {asked : List (Asked Backend.interface)}

/-- What is found now was found last. -/
theorem lastFound?_found (name : String) (a : Appliance) :
    lastFound? (asked ++ [found name a]) = some (name, a) := by
  rw [lastFound?, List.filterMap_append]
  exact List.getLast?_concat

/-- Another question than a search that finds leaves what was found last. -/
theorem lastFound?_of_other {x : Asked Backend.interface} (other : found? x = none) :
    lastFound? (asked ++ [x]) = lastFound? asked := by
  have nothing : [x].filterMap found? = [] := List.filterMap_eq_nil_iff.2 (by simpa using other)
  rw [lastFound?, List.filterMap_append, nothing, List.append_nil, lastFound?]

/-- What was found last was found. -/
theorem mem_of_lastFound? {name : String} {a : Appliance}
    (last : lastFound? asked = some (name, a)) : found name a ∈ asked := by
  obtain ⟨x, there, is⟩ := List.mem_filterMap.1 (List.mem_of_getLast? last)
  unfold found? at is
  split at is <;> cases is
  exact there

end Backend

namespace DatabaseHandler

open Backend (Action found found? lastFound?)

/-- The appliance found last has this name, and the connection leads to its server. -/
structure Located (h : DatabaseHandler) (name : String) (asked : List (Asked Backend.interface))
    (a : Appliance) (admin : Connection) : Prop where
  found : lastFound? asked = some (name, a)
  reached : h.administrator a = .ok admin

/-- A call to a server is for that of the appliance found last, and makes a binding only with what
was drawn for it. -/
structure Directed (h : DatabaseHandler) (asked : List (Asked Backend.interface))
    (call : Dialect.Call) : Prop where
  located : ∃ name a, h.Located name asked a call.connection
  drawn : ∀ c binding draw, call = .create c binding draw → ⟨.drawBinding, draw⟩ ∈ asked

/-- What a handler may ask after its questions so far. -/
def May (h : DatabaseHandler) (asked : List (Asked Backend.interface)) (call : Backend.Call) :
    Prop :=
  ∀ c, call = .dialect c → h.Directed asked c

/-- Credentials are those of a record that was read or made on the server of the appliance found
last. -/
def Accounts (h : DatabaseHandler) (asked : List (Asked Backend.interface)) (handout : Handout) :
    Prop :=
  ∃ a admin record, h.engine = handout.engine ∧ h.Located handout.name asked a admin ∧
    handout.credentials = credentials admin record ∧
    (⟨.dialect (.read admin handout.binding), .ok (some record)⟩ ∈ asked ∨
      ∃ draw, ⟨.dialect (.create admin handout.binding draw), .ok record⟩ ∈ asked)

/-- An action that asks only what it may; of its value, if it has one, `after` holds. -/
def Minds {α : Type} (h : DatabaseHandler) (asked : List (Asked Backend.interface)) (p : Action α)
    (after : List (Asked Backend.interface) → α → Prop) : Prop :=
  Keeps h.May (fun asked result => ∀ value, result = .ok value → after asked value) asked p.run

variable {h : DatabaseHandler} {name binding : String} {asked : List (Asked Backend.interface)}
  {a : Appliance} {admin : Connection}

/-- Any call that is not to the dialect may be made. -/
theorem may_of_ne {call : Backend.Call} (other : ∀ c, call ≠ .dialect c) : h.May asked call :=
  fun c is => absurd is (other c)

/-- The appliance found last is the same after another question than a search. -/
theorem Located.other (located : h.Located name asked a admin) {x : Asked Backend.interface}
    (other : found? x = none) : h.Located name (asked ++ [x]) a admin where
  found := by rw [Backend.lastFound?_of_other other, located.found]
  reached := located.reached

/-- The server is that of the number that the appliance has. -/
theorem Located.salt (located : h.Located name asked a admin) : admin.salt = a.id.text :=
  salt_of_administrator located.reached

/-- A connection is one to the engine of the handler. -/
theorem engine_of_administrator (reached : h.administrator a = .ok admin) :
    admin.engine = h.engine := by
  obtain ⟨address, -, rfl⟩ := administrator_eq_ok_iff.1 reached
  rfl

/-- Credentials on the connection to an appliance have its address. -/
theorem matches_of_administrator {handout : Handout} {draw : Dialect.Draw}
    (reached : h.administrator a = .ok admin) (engine : h.engine = handout.engine)
    (is : handout.credentials = credentials admin (draw.record handout.binding)) :
    handout.Matches a draw := by
  obtain ⟨address, addressed, rfl⟩ := administrator_eq_ok_iff.1 reached
  refine ⟨?_, ?_, ?_, ?_⟩
  · rw [is, addressed]
    rfl
  · rw [is, ← engine]
    rfl
  · rw [is]
    rfl
  · rw [is]
    rfl

section Rules

variable {α β : Type} {after : List (Asked Backend.interface) → α → Prop}

/-- One action after another. -/
theorem Minds.bind {p : Action α} {f : α → Action β}
    {last : List (Asked Backend.interface) → β → Prop} (first : h.Minds asked p after)
    (second : ∀ asked value, after asked value → h.Minds asked (f value) last) :
    h.Minds asked (p >>= f) last := by
  unfold Minds
  rw [Program.run_bind_except]
  refine Keeps.bind first fun asked result holds => ?_
  cases result with
  | error e => exact nofun
  | ok value => exact second asked value (holds value rfl)

/-- What holds of the value of an action holds of its result. -/
theorem Minds.keeps {p : Action α}
    {ends : List (Asked Backend.interface) → Except ServiceError α → Prop}
    (minds : h.Minds asked p after) (failed : ∀ asked e, ends asked (.error e))
    (told : ∀ asked value, after asked value → ends asked (.ok value)) :
    Keeps h.May ends asked p.run := by
  refine Keeps.imp minds fun asked result holds => ?_
  cases result with
  | error e => exact failed asked e
  | ok value => exact told asked value (holds value rfl)

/-- A value that may be told is told. -/
theorem minds_pure {value : α} (holds : after asked value) : h.Minds asked (pure value) after := by
  rintro _ ⟨⟩
  exact holds

/-- An action that fails tells nothing. -/
theorem minds_throw (e : ServiceError) : h.Minds asked (throw e) after := nofun

/-- A connection is one to the appliance that was found last. -/
theorem minds_connection (name : String) :
    h.Minds asked (h.connection name) fun asked admin => ∃ a, h.Located name asked a admin := by
  unfold Minds
  rw [connection_eq]
  refine ⟨may_of_ne nofun, fun answer admin connected => ?_⟩
  obtain ⟨a, rfl, reached⟩ := connected_eq_ok_iff.1 connected
  exact ⟨a, Backend.lastFound?_found name a, reached⟩

/-- A call on the connection to the appliance found last, and then another action. -/
theorem Located.call {call : Dialect.Call} {p : Action call.Result}
    {told : call.Answer → call.Answer} (told_ok : ∀ answer value, told answer = .ok value →
      answer = .ok value)
    (asks : p.run = .ask (I := Backend.interface) (.dialect call) fun answer => .done (told answer))
    (located : h.Located name asked a admin) (on : call.connection = admin)
    (drawn : ∀ c binding draw, call = .create c binding draw → ⟨.drawBinding, draw⟩ ∈ asked)
    {f : call.Result → Action α}
    (rest : ∀ value, h.Located name (asked ++ [⟨.dialect call, .ok value⟩]) a admin →
      h.Minds (asked ++ [⟨.dialect call, .ok value⟩]) (f value) after) :
    h.Minds asked (p >>= f) after := by
  have first : h.Minds asked p fun asked' value =>
      asked' = asked ++ [⟨.dialect call, .ok value⟩] := by
    unfold Minds
    rw [asks]
    refine ⟨fun c is => ?_, fun answer value is => ?_⟩
    · cases is
      exact ⟨⟨name, a, by rw [on]; exact located⟩, drawn⟩
    · rw [told_ok answer value is]
  refine first.bind ?_
  rintro _ value rfl
  exact rest value (located.other rfl)

/-- A call on the connection to the appliance found last may be made. -/
theorem Located.dialect {call : Dialect.Call} (located : h.Located name asked a admin)
    {f : call.Result → Action α}
    (rest : ∀ value, h.Located name (asked ++ [⟨.dialect call, .ok value⟩]) a admin →
      h.Minds (asked ++ [⟨.dialect call, .ok value⟩]) (f value) after)
    (on : call.connection = admin := by rfl)
    (drawn : ∀ c binding draw, call = .create c binding draw → ⟨.drawBinding, draw⟩ ∈ asked := by
      nofun) :
    h.Minds asked (Backend.dialect call >>= f) after :=
  located.call (fun _ _ is => is) rfl on drawn rest

/-- A named step on the connection to the appliance found last may be made. -/
theorem Located.dialectStep {step : String} {call : Dialect.Call}
    (located : h.Located name asked a admin) {f : call.Result → Action α}
    (rest : ∀ value, h.Located name (asked ++ [⟨.dialect call, .ok value⟩]) a admin →
      h.Minds (asked ++ [⟨.dialect call, .ok value⟩]) (f value) after)
    (on : call.connection = admin := by rfl)
    (drawn : ∀ c binding draw, call = .create c binding draw → ⟨.drawBinding, draw⟩ ∈ asked := by
      nofun) :
    h.Minds asked (Backend.dialectStep step call >>= f) after := by
  have told_ok (answer : call.Answer) (value : call.Result)
      (is : ServiceError.inStep step answer = .ok value) : answer = .ok value := by
    cases answer with
    | error e => cases is
    | ok result =>
      cases is
      rfl
  exact located.call told_ok rfl on drawn rest

/-- What is drawn for a binding is at hand afterwards. -/
theorem Located.drawBinding (located : h.Located name asked a admin) {f : Dialect.Draw → Action α}
    (rest : ∀ draw, h.Located name (asked ++ [⟨.drawBinding, draw⟩]) a admin →
      h.Minds (asked ++ [⟨.drawBinding, draw⟩]) (f draw) after) :
    h.Minds asked (Backend.drawBinding >>= f) after := by
  have first : h.Minds asked Backend.drawBinding fun asked' draw =>
      asked' = asked ++ [⟨.drawBinding, draw⟩] := by
    refine ⟨may_of_ne nofun, fun draw value is => ?_⟩
    cases is
    rfl
  refine first.bind ?_
  rintro _ draw rfl
  exact rest draw (located.other rfl)

/-- A question that is not for a server. -/
theorem minds_aside {p : Action α} {call : Backend.Call}
    {told : call.Answer → Except ServiceError α}
    (asks : p.run = .ask (I := Backend.interface) call fun answer => .done (told answer))
    (other : ∀ c, call ≠ .dialect c) : h.Minds asked p fun _ _ => True := by
  unfold Minds
  rw [asks]
  exact ⟨may_of_ne other, fun _ _ _ => trivial⟩

/-- Nothing that is asked of the provider goes to a server. -/
theorem minds_onProvider (p : ExceptT ProviderError (Program Provider.interface) α) :
    h.Minds asked (Backend.onProvider p) fun _ _ => True := by
  have asks : Keeps h.May (fun _ _ => True) asked (p.run.interpret fun call =>
      .ask (I := Backend.interface) (.provider call) .done) := by
    generalize p.run = p
    induction p generalizing asked with
    | done value => trivial
    | ask call next ih => exact ⟨may_of_ne nofun, fun answer => ih answer⟩
  exact asks.bind fun _ _ _ _ _ => trivial

end Rules

section Programs

/-- The state of a binding tells credentials that are accounted for. -/
theorem minds_bindingState : h.Minds asked (h.bindingState name binding) fun asked state =>
    ∀ s, state = some s → h.Accounts asked ⟨h.engine, name, binding, s.credentials⟩ := by
  refine (minds_connection name).bind fun asked admin ⟨a, located⟩ => ?_
  refine located.dialect fun _ located => ?_
  refine located.dialectStep fun there located => ?_
  cases there with
  | false => exact minds_pure nofun
  | true =>
    refine located.dialectStep fun record located => minds_pure fun s is => ?_
    obtain ⟨record, rfl, rfl⟩ := Option.map_eq_some_iff.1 is
    exact ⟨a, admin, record, rfl, located, rfl, .inl (by simp)⟩

/-- Creating a binding tells credentials that are accounted for. -/
theorem minds_createBinding : h.Minds asked (h.createBinding name binding) fun asked credentials =>
    h.Accounts asked ⟨h.engine, name, binding, credentials⟩ := by
  refine (minds_connection name).bind fun asked admin ⟨a, located⟩ => ?_
  refine located.dialect fun _ located => ?_
  refine located.dialectStep fun _ located => ?_
  refine located.dialectStep fun record located => ?_
  cases record with
  | some record => exact minds_throw _
  | none =>
    refine located.drawBinding fun draw located => ?_
    refine located.dialectStep (fun record located => minds_pure ?_) rfl ?_
    · exact ⟨a, admin, record, rfl, located, rfl, .inr ⟨draw, by simp⟩⟩
    · rintro _ _ _ ⟨⟩
      simp

/-- Deleting a binding goes to the server of the appliance found last. -/
theorem minds_deleteBinding : h.Minds asked (h.deleteBinding name binding) fun _ _ => True := by
  refine (minds_connection name).bind fun asked admin ⟨a, located⟩ => ?_
  refine located.dialect fun _ located => ?_
  refine located.dialectStep fun there located => ?_
  cases there with
  | false => exact minds_pure trivial
  | true =>
    refine located.dialectStep fun username located => ?_
    cases username with
    | none => exact minds_pure trivial
    | some username =>
      have deletes := bind_pure
        (Backend.dialectStep "deleting binding" (.delete admin binding username))
      dsimp only
      rw [← deletes]
      exact located.dialectStep fun _ _ => minds_pure trivial

/-- The state of an instance needs no server. -/
theorem minds_instanceState (requested : Option Parameters) :
    h.Minds asked (instanceState name requested) fun _ _ => True :=
  (minds_onProvider _).bind fun _ _ _ => minds_pure trivial

/-- Creating an instance needs no server. -/
theorem minds_createInstance (p : Parameters) :
    h.Minds asked (h.createInstance name p) fun _ _ => True := by
  refine (minds_aside (p := Backend.drawAdmin) rfl nofun).bind fun _ draw _ => ?_
  exact (minds_onProvider _).bind fun _ _ _ => minds_pure trivial

/-- Deleting an instance needs no server. -/
theorem minds_deleteInstance : h.Minds asked (deleteInstance name) fun _ _ => True := by
  refine (minds_onProvider (Provider.findOne name)).bind fun _ state _ => ?_
  cases state with
  | none => exact minds_throw _
  | some a => exact minds_aside rfl nofun

/-- **Whatever a handler is asked, it goes only to the server of the appliance that it found last**,
and what it hands out is from there. -/
theorem keeps_answer (call : Handler.Call) :
    Keeps h.May (fun asked answer => ∀ handout, call.handout? h.engine answer = some handout →
      h.Accounts asked handout) asked (h.answer call) := by
  cases call with
  | bindingState name binding =>
    refine minds_bindingState.keeps (fun _ _ => nofun) fun asked state accounts => ?_
    cases state with
    | none => exact nofun
    | some state =>
      rintro _ ⟨⟩
      exact accounts state rfl
  | createBinding name binding =>
    refine minds_createBinding.keeps (fun _ _ => nofun) fun asked credentials accounts => ?_
    rintro _ ⟨⟩
    exact accounts
  | instanceState name requested =>
    exact (minds_instanceState requested).keeps (fun _ _ => nofun) fun _ _ _ => nofun
  | createInstance name p =>
    exact (minds_createInstance p).keeps (fun _ _ => nofun) fun _ _ _ => nofun
  | deleteInstance name => exact minds_deleteInstance.keeps (fun _ _ => nofun) fun _ _ _ => nofun
  | deleteBinding name binding =>
    exact minds_deleteBinding.keeps (fun _ _ => nofun) fun _ _ _ => nofun

section Requests

/-- An operation goes only where its handler goes. -/
theorem keeps_interpret {α : Type} (p : Lifecycle.Action α) :
    Keeps h.May (fun _ _ => True) asked (p.interpret h.answer) := by
  induction p generalizing asked with
  | done value => trivial
  | ask call next ih => exact (keeps_answer call).bind fun _ answer _ => ih answer

/-- A platform that binds is handed what the handler handed out last. -/
theorem keeps_bind : Keeps h.May (fun asked outcome => ∀ credentials,
      outcome = .created credentials ∨ outcome = .alreadyBound credentials →
        h.Accounts asked ⟨h.engine, name, binding, credentials⟩)
    asked ((Lifecycle.bind name binding).interpret h.answer) := by
  refine (keeps_answer (.instanceState name none)).bind fun asked state _ => ?_
  rcases state with e | (_ | state)
  · rintro _ (⟨⟨⟩⟩ | ⟨⟨⟩⟩)
  · rintro _ (⟨⟨⟩⟩ | ⟨⟨⟩⟩)
  refine (keeps_answer (.bindingState name binding)).bind fun asked seen accounts => ?_
  rcases seen with e | (_ | seen)
  · rintro _ (⟨⟨⟩⟩ | ⟨⟨⟩⟩)
  · refine (keeps_answer (.createBinding name binding)).bind fun asked made accounts => ?_
    cases made with
    | error e => rintro _ (⟨⟨⟩⟩ | ⟨⟨⟩⟩)
    | ok credentials =>
      rintro _ (⟨⟨⟩⟩ | ⟨⟨⟩⟩)
      exact accounts _ rfl
  · rintro _ (⟨⟨⟩⟩ | ⟨⟨⟩⟩)
    exact accounts _ rfl

/-- **Whatever a platform asks for, its request goes only to the server of the appliance that it
found last**, and what the platform is handed is from there. -/
theorem keeps_perform (request : Lifecycle.Request) :
    Keeps h.May (fun asked outcome => ∀ handout, request.handout? h.engine outcome = some handout →
      h.Accounts asked handout) asked ((Lifecycle.perform request).interpret h.answer) := by
  cases request with
  | bind name binding =>
    have whole : (Lifecycle.perform (.bind name binding)).interpret h.answer =
        ((Lifecycle.bind name binding).interpret h.answer).bind
          fun outcome => .done (.bind outcome) := Program.interpret_bind _ _ _
    rw [whole]
    refine keeps_bind.bind fun asked outcome accounts handout is => ?_
    cases outcome with
    | created credentials =>
      cases is
      exact accounts credentials (.inl rfl)
    | alreadyBound credentials =>
      cases is
      exact accounts credentials (.inr rfl)
    | _ => cases is
  | _ => exact (keeps_interpret _).imp fun _ _ _ => nofun

end Requests

end Programs

end DatabaseHandler

end ServiceBroker

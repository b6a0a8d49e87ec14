/-
# What bindings tell of the administrator

A handler reaches the server of an appliance as its administrator, and it strings the
credentials of a binding together on the same connection.  Nothing of the administrator goes
with them: everything after the server is reached comes to the same for another account on the
same server (`Connection.forUser`), so two brokers that differ in the administrators of
their appliances cannot be told apart by their bindings (`Broker.bindings_hide_administrator`).
What is handed out is made of the record of the binding and of the address of the appliance
(`Credentials.ofRecord`).
-/

import ServiceBroker.Proofs.Appliances
import ServiceBroker.Proofs.Errand

namespace ServiceBroker

open Dialect (Servers)

/-- The appliance without what its administrator is known by. -/
def Appliance.concealed (a : Appliance) : Appliance :=
  { a with defaultUser := "", userPassword := "" }

/-- What a search finds, without what the administrators are known by. -/
def Provider.concealed (found : Except ProviderError (List Appliance)) :
    Except ProviderError (List Appliance) :=
  found.map (·.map Appliance.concealed)

/-- What a platform is handed for the record of a binding on the server at an address; port zero is
that of the engine. -/
def Credentials.ofRecord (engine : Engine) (address : Ipv4) (port : UInt16)
    (record : BindingRecord) : Credentials :=
  let port := toString (if port > 0 then port else engine.defaultPort).toNat
  { host := address.text
    port
    database := record.username
    username := record.username
    password := record.password
    sslRequired := "false"
    uri := Connection.scheme engine ++ "://" ++ record.username ++ ":" ++ record.password ++ "@" ++
      address.text ++ ":" ++ port ++ "/" ++ record.username ++ Connection.options engine }

namespace DatabaseHandler

variable {h : DatabaseHandler} {a a' : Appliance} {admin : Connection}

/-- Administrators of appliances that differ in nothing else reach the same server. -/
theorem administrator_of_concealed (same : a'.concealed = a.concealed) :
    h.administrator a' = (h.administrator a).map fun admin =>
      admin.forUser a'.defaultUser a'.defaultUser a'.userPassword := by
  have id : a'.id = a.id := congrArg (·.id) same
  have address : a'.ipAddress = a.ipAddress := congrArg (·.ipAddress) same
  have port : a'.port = a.port := congrArg (·.port) same
  unfold administrator
  rw [id, address, port]
  cases a.ipAddress <;> rfl

/-- **Whatever is found, the same server is reached or the same failure comes of it.** -/
theorem connected_of_concealed (h : DatabaseHandler) (name : String)
    {found found' : Except ProviderError (List Appliance)}
    (same : Provider.concealed found = Provider.concealed found') :
    (∃ e, h.connected name found = .error e ∧ h.connected name found' = .error e) ∨
      ∃ admin database username password, h.connected name found = .ok admin ∧
        h.connected name found' = .ok (admin.forUser database username password) := by
  cases found with
  | error e =>
    cases found' with
    | error e' =>
      cases same
      exact .inl ⟨_, rfl, rfl⟩
    | ok list => cases same
  | ok list =>
    cases found' with
    | error e' => cases same
    | ok list' =>
      have alike : list.map Appliance.concealed = list'.map Appliance.concealed :=
        Except.ok.inj same
      have lengths : list.length = list'.length := by simpa using congrArg List.length alike
      match list, list', lengths with
      | [], [], _ => exact .inl ⟨_, rfl, rfl⟩
      | [a], [a'], _ =>
        have reached := administrator_of_concealed (h := h) (List.cons.inj alike).1.symm
        show (∃ e, h.administrator a = .error e ∧ h.administrator a' = .error e) ∨ ∃ admin _ _ _,
          h.administrator a = .ok admin ∧ h.administrator a' = .ok (admin.forUser _ _ _)
        rw [reached]
        cases h.administrator a with
        | error e => exact .inl ⟨e, rfl, rfl⟩
        | ok admin => exact .inr ⟨admin, _, _, _, rfl, rfl⟩
      | _ :: _ :: _, _ :: _ :: _, _ => exact .inl ⟨_, rfl, rfl⟩

/-- Credentials are made of the record of a binding and of the address of its server. -/
theorem credentials_of_administrator {address : Ipv4} (addressed : a.ipAddress = some address)
    (reached : h.administrator a = .ok admin) (record : BindingRecord) :
    credentials admin record = .ofRecord h.engine address a.port record := by
  obtain ⟨_, is, rfl⟩ := administrator_eq_ok_iff.1 reached
  cases addressed.symm.trans is
  rfl

end DatabaseHandler

namespace Broker

variable {σ α β : Type} {s : BrokerSettings σ} {engine : Engine} {b b' : Broker σ}

/-- Two brokers with the same servers of an engine that draw the same next. -/
structure Level (engine : Engine) (b b' : Broker σ) : Prop where
  servers : b.servers engine = b'.servers engine
  drawn : b.drawn = b'.drawn

/-- What comes of an action and what it leaves on the servers depends on the servers and on chance
alone. -/
def Local (engine : Engine) (act : Broker σ → Except ServiceError α × Broker σ) : Prop :=
  ∀ b b', Level engine b b' → (act b).1 = (act b').1 ∧ Level engine (act b).2 (act b').2

/-- Two brokers stay level with the same servers. -/
theorem Level.setServers (level : Level engine b b') (servers : Servers) :
    Level engine (b.setServers servers engine) (b'.setServers servers engine) where
  servers := by rw [servers_setServers, servers_setServers, if_pos rfl, if_pos rfl]
  drawn := by rw [drawn_setServers, drawn_setServers, level.drawn]

section Rules

/-- Programs whose steps do the same do the same. -/
theorem exec_bind_congr {p q : Backend.Action α} {f g : α → Backend.Action β}
    (first : exec s engine p b = exec s engine q b)
    (rest : ∀ value b, exec s engine (f value) b = exec s engine (g value) b) :
    exec s engine (p >>= f) b = exec s engine (q >>= g) b := by
  rw [exec_bind, exec_bind, first]
  rcases exec s engine q b with ⟨e | value, after⟩
  · rfl
  · exact rest value after

/-- Two local actions one after another are local. -/
theorem Local.bind {p : Backend.Action α} {f : α → Backend.Action β}
    (first : Local engine (exec s engine p))
    (rest : ∀ value, Local engine (exec s engine (f value))) :
    Local engine (exec s engine (p >>= f)) := by
  intro b b' level
  rw [exec_bind, exec_bind]
  obtain ⟨same, level⟩ := first b b' level
  generalize exec s engine p b = x at same level ⊢
  generalize exec s engine p b' = x' at same level ⊢
  obtain ⟨result, after⟩ := x
  obtain ⟨result', after'⟩ := x'
  obtain rfl : result = result' := same
  cases result with
  | ok value => exact rest value after after' level
  | error e => exact ⟨rfl, level⟩

/-- A value is local. -/
theorem local_pure (value : α) : Local engine (exec s engine (pure value)) :=
  fun _ _ level => ⟨rfl, level⟩

/-- A failure is local. -/
theorem local_throw (e : ServiceError) :
    Local engine (exec s engine (throw e : Backend.Action α)) :=
  fun _ _ level => ⟨rfl, level⟩

/-- A named step is local. -/
theorem local_dialectStep (step : String) (call : Dialect.Call) :
    Local engine (exec s engine (Backend.dialectStep step call)) := by
  intro b b' level
  rw [exec_dialectStep_eq, exec_dialectStep_eq, level.servers]
  exact ⟨rfl, level.setServers _⟩

/-- A draw is local. -/
theorem local_drawBinding : Local engine (exec s engine Backend.drawBinding) := by
  intro b b' level
  refine ⟨congrArg (fun n => Except.ok (s.chance.binding n)) level.drawn, ?_, ?_⟩
  · have same := level.servers
    cases engine <;> exact same
  · exact congrArg (· + 1) level.drawn

end Rules

end Broker

namespace DatabaseHandler

open Backend (dialectStep drawBinding)

/-- What is done to make a binding once its server is reached. -/
def make (binding : String) (admin : Connection) : Backend.Action Credentials := do
  dialectStep "creating metadata table" (.prepare admin)
  match ← dialectStep "reading metadata table" (.read admin binding) with
  | some _ => throw (.bindingAlreadyExists binding)
  | none =>
    let draw ← drawBinding
    let record ← dialectStep "creating user database" (.create admin binding draw)
    return credentials admin record

/-- Making a binding is reaching its server and what is done there. -/
theorem createBinding_eq (h : DatabaseHandler) (name binding : String) :
    h.createBinding name binding = (do
      let admin ← h.connection name
      Backend.dialect (.connect admin)
      make binding admin) := rfl

variable {σ : Type} {s : BrokerSettings σ} {engine : Engine}

/-- A binding is made the same for any administrator. -/
theorem exec_make_forUser (binding : String) (admin : Connection)
    (database username password : String) (b : Broker σ) :
    Broker.exec s engine (make binding (admin.forUser database username password)) b =
      Broker.exec s engine (make binding admin) b := by
  refine Broker.exec_bind_congr rfl fun _ b => Broker.exec_bind_congr rfl fun record b => ?_
  cases record with
  | some record => rfl
  | none =>
    refine Broker.exec_bind_congr rfl fun draw b => Broker.exec_bind_congr rfl fun record b => ?_
    rfl

/-- Making a binding is local. -/
theorem local_make (binding : String) (admin : Connection) :
    Broker.Local engine (Broker.exec s engine (make binding admin)) := by
  refine (Broker.local_dialectStep _ _).bind fun _ => ?_
  refine (Broker.local_dialectStep _ _).bind fun record => ?_
  cases record with
  | some record => exact Broker.local_throw _
  | none =>
    refine Broker.local_drawBinding.bind fun draw => ?_
    exact (Broker.local_dialectStep _ _).bind fun record => Broker.local_pure _

end DatabaseHandler

namespace Broker

variable {σ α : Type} {s : BrokerSettings σ} {h : DatabaseHandler} {name binding : String}
  {b b' : Broker σ}

/-- **What is done on the server of an instance comes to the same** for administrators with other
names and passwords, if it needs nothing but the server and chance, and does the same for every
account. -/
theorem onServer_of_concealed (s : BrokerSettings σ) (h : DatabaseHandler) (name : String)
    {act : Connection → Broker σ → Except ServiceError α × Broker σ}
    (alone : ∀ admin, Local h.engine (act admin))
    (blind : ∀ admin database username password b,
      act (admin.forUser database username password) b = act admin b)
    (found : Provider.concealed (search s h.engine name b).1 =
      Provider.concealed (search s h.engine name b').1) (level : Level h.engine b b') :
    (onServer s h name b act).1 = (onServer s h name b' act).1 ∧
      Level h.engine (onServer s h name b act).2 (onServer s h name b' act).2 := by
  have searched : Level h.engine (search s h.engine name b).2 (search s h.engine name b').2 := by
    constructor
    · rw [servers_search, servers_search, level.servers]
    · exact level.drawn
  unfold onServer
  obtain ⟨e, left, right⟩ | ⟨admin, database, username, password, left, right⟩ :=
    DatabaseHandler.connected_of_concealed h name found
  · rw [left, right]
    exact ⟨rfl, searched⟩
  · rw [left, right]
    dsimp only
    rw [level.servers]
    split
    · exact ⟨rfl, searched⟩
    · rw [blind]
      apply alone
      show Level h.engine (visited h admin _) (visited h admin _)
      rw [visited, visited, searched.servers]
      exact searched.setServers _

/-- What a table says of a binding is known from the servers. -/
theorem local_recorded (h : DatabaseHandler) (binding : String) (admin : Connection) :
    Local h.engine fun b : Broker σ =>
      ((ServiceError.inStep "reading metadata table"
        (Servers.recorded h.engine (b.servers h.engine) admin binding)).map fun record =>
          record.map fun record =>
            (⟨DatabaseHandler.credentials admin record⟩ : BindingState), b) := by
  intro b b' level
  dsimp only
  rw [level.servers]
  exact ⟨rfl, level⟩

/-- What succeeds on the server of an instance succeeds as its administrator. -/
theorem of_onServer_ok {act : Connection → Broker σ → Except ServiceError α × Broker σ} {value : α}
    (told : (onServer s h name b act).1 = .ok value) :
    ∃ a admin b₁, (search s h.engine name b).1 = .ok [a] ∧ h.administrator a = .ok admin ∧
      b₁.store = b.store ∧ b₁.drawn = b.drawn ∧ (act admin b₁).1 = .ok value := by
  unfold onServer at told
  split at told
  · cases told
  · rename_i admin connected
    obtain ⟨a, found, reached⟩ := DatabaseHandler.connected_eq_ok_iff.1 connected
    split at told
    · cases told
    · refine ⟨a, admin, _, found, reached, ?_, ?_, told⟩
      · rw [store_visited, store_search]
      · exact drawn_setServers _ _ _

/-- Credentials that are looked up are those of a row whose password opens. -/
theorem exists_row_of_bindingState {state : BindingState}
    (told : (exec s h.engine (h.bindingState name binding) b).1 = .ok (some state)) :
    ∃ a address row password, (search s h.engine name b).1 = .ok [a] ∧
      a.ipAddress = some address ∧ (b.servers h.engine).row? a.id.text binding = some row ∧
      Dialect.loadedPassword h.engine a.id.text row.stored = .ok password ∧
      state.credentials = .ofRecord h.engine address a.port ⟨binding, row.username, password⟩ := by
  rw [exec_bindingState] at told
  obtain ⟨a, admin, b₁, found, reached, store, -, told⟩ := of_onServer_ok told
  obtain ⟨address, addressed, -⟩ := DatabaseHandler.administrator_eq_ok_iff.1 reached
  have salt := DatabaseHandler.salt_of_administrator reached
  have row : (b₁.servers h.engine).row? admin.salt binding =
      (b.servers h.engine).row? a.id.text binding := by
    rw [salt]
    exact congrArg (fun store => (store h.engine a.id.text).row? binding) store
  cases there : (b.servers h.engine).row? a.id.text binding with
  | none =>
    rw [Servers.recorded_of_none h.engine _ admin (row.trans there)] at told
    cases told
  | some r =>
    rw [Servers.recorded_of_some h.engine _ admin (row.trans there), salt] at told
    cases opens : Dialect.loadedPassword h.engine a.id.text r.stored with
    | error e =>
      rw [opens] at told
      cases told
    | ok password =>
      rw [opens] at told
      cases told
      exact ⟨a, address, r, password, found, addressed, there, opens,
        DatabaseHandler.credentials_of_administrator addressed reached _⟩

/-- A binding that is made on a server is that of the user who was drawn for it. -/
theorem record_of_make {admin : Connection} {credentials : Credentials}
    (told : (exec s h.engine (DatabaseHandler.make binding admin) b).1 = .ok credentials) :
    credentials =
      DatabaseHandler.credentials admin ((s.chance.binding b.drawn).record binding) := by
  have drawn : (prepared h admin b).drawn = b.drawn := drawn_setServers _ _ _
  change (exec s h.engine (_ >>= _) b).1 = _ at told
  rw [exec_bind, exec_dialectStep_eq] at told
  change (exec s h.engine
    (Backend.dialectStep _ (.read admin binding) >>= _) (prepared h admin b)).1 = _ at told
  rw [exec_bind, exec_read] at told
  cases recorded :
    Servers.recorded h.engine ((prepared h admin b).servers h.engine) admin binding with
  | error e =>
    rw [recorded] at told
    cases told
  | ok record =>
    rw [recorded] at told
    cases record with
    | some record => cases told
    | none =>
      change (exec s h.engine (Backend.drawBinding >>= _) (prepared h admin b)).1 = _ at told
      rw [exec_bind, exec_draw, drawn] at told
      let b₁ : Broker σ := { prepared h admin b with drawn := b.drawn + 1 }
      have table : (b₁.store h.engine admin.salt).bindings.isSome := by
        rw [(store_draw (b := prepared h admin b) (b.drawn + 1)).trans store_prepared,
          setStore_same]
        rfl
      obtain ⟨b₂, created, -, -⟩ := exec_create (s := s) binding "creating user database"
        (s.chance.binding b.drawn) table
      change (exec s h.engine (_ >>= _) b₁).1 = _ at told
      rw [exec_bind_ok s h.engine created] at told
      cases told
      rfl

/-- Credentials of a binding that is made are those of the user who was drawn for it. -/
theorem exists_address_of_createBinding {credentials : Credentials}
    (told : (exec s h.engine (h.createBinding name binding) b).1 = .ok credentials) :
    ∃ a address, (search s h.engine name b).1 = .ok [a] ∧ a.ipAddress = some address ∧
      credentials = .ofRecord h.engine address a.port
        ((s.chance.binding b.drawn).record binding) := by
  rw [DatabaseHandler.createBinding_eq, exec_onServer] at told
  obtain ⟨a, admin, b₁, found, reached, -, drawn, told⟩ := of_onServer_ok told
  obtain ⟨address, addressed, -⟩ := DatabaseHandler.administrator_eq_ok_iff.1 reached
  refine ⟨a, address, found, addressed, ?_⟩
  rw [record_of_make told, drawn, DatabaseHandler.credentials_of_administrator addressed reached]

/-- **Bindings hide the administrator.**  Two brokers whose search for an instance finds appliances
that differ in the names and passwords of their administrators alone, with the same database
servers and the same chance ahead, tell the same of a binding, make it or fail to make it with the
same answer, and are left with the same servers.  Credentials are made of a record, looked up or
just drawn, and of the engine, the address and the port. -/
theorem bindings_hide_administrator (s : BrokerSettings σ) (h : DatabaseHandler)
    (name binding : String) {b b' : Broker σ}
    (found : Provider.concealed (search s h.engine name b).1 =
      Provider.concealed (search s h.engine name b').1) (level : Level h.engine b b') :
    ((handle s h (.bindingState name binding) b).1 =
        (handle s h (.bindingState name binding) b').1 ∧
      (handle s h (.bindingState name binding) b).2.servers h.engine =
        (handle s h (.bindingState name binding) b').2.servers h.engine) ∧
    ((handle s h (.createBinding name binding) b).1 =
        (handle s h (.createBinding name binding) b').1 ∧
      (handle s h (.createBinding name binding) b).2.servers h.engine =
        (handle s h (.createBinding name binding) b').2.servers h.engine) ∧
    (∀ state, (handle s h (.bindingState name binding) b).1 = .ok (some state) →
      ∃ a address row password, (search s h.engine name b).1 = .ok [a] ∧
        a.ipAddress = some address ∧ (b.servers h.engine).row? a.id.text binding = some row ∧
        Dialect.loadedPassword h.engine a.id.text row.stored = .ok password ∧
        state.credentials = .ofRecord h.engine address a.port ⟨binding, row.username, password⟩) ∧
    ∀ credentials, (handle s h (.createBinding name binding) b).1 = .ok credentials →
      ∃ a address, (search s h.engine name b).1 = .ok [a] ∧ a.ipAddress = some address ∧
        credentials = .ofRecord h.engine address a.port
          ((s.chance.binding b.drawn).record binding) := by
  have state := onServer_of_concealed s h name (local_recorded h binding) (fun _ _ _ _ _ => rfl)
    found level
  have create := onServer_of_concealed s h name (DatabaseHandler.local_make (s := s) binding)
    (DatabaseHandler.exec_make_forUser binding) found level
  rw [← exec_bindingState, ← exec_bindingState] at state
  rw [← exec_onServer, ← exec_onServer, ← DatabaseHandler.createBinding_eq] at create
  exact ⟨⟨state.1, state.2.servers⟩, ⟨create.1, create.2.servers⟩,
    fun _ told => exists_row_of_bindingState told,
    fun _ told => exists_address_of_createBinding told⟩

open Provider (Memory)

/-- Two administrators of one server, and a binding that is the same for both. -/
theorem hidden_of_two_administrators :
    let s := inMemorySettings .instant .counting
    let h : DatabaseHandler := ⟨.postgreSql, 1⟩
    let order := ApplianceOrder.plain "a"
    let b := start (Memory.create .instant order {}).2
    let b' := start (Memory.create .instant
      { order with defaultUser := "admin", userPassword := "changed" } {}).2
    let made := (s.chance.binding 0).record "b"
    (search s .postgreSql "a" b).1 ≠ (search s .postgreSql "a" b').1 ∧
    (handle s h (.createBinding "a" "b") b).1 =
      .ok (.ofRecord .postgreSql ⟨10, 0, 0, 2⟩ 3306 made) ∧
    (handle s h (.createBinding "a" "b") b).1 = (handle s h (.createBinding "a" "b") b').1 ∧
    ((handle s h (.createBinding "a" "b") b).2.servers .postgreSql).databases
      (applianceId 1).text = [made.username] ∧
    (handle s h (.createBinding "a" "b") b).2.servers .postgreSql =
      (handle s h (.createBinding "a" "b") b').2.servers .postgreSql := by
  intro s h order b b' made
  have found : Provider.concealed (search s .postgreSql "a" b).1 =
      Provider.concealed (search s .postgreSql "a" b').1 := by decide +kernel
  obtain ⟨-, ⟨answer, servers⟩, -, -⟩ := bindings_hide_administrator s h "a" "b" found ⟨rfl, rfl⟩
  exact ⟨by decide +kernel, by decide +kernel, answer, by decide +kernel, servers⟩

end Broker
end ServiceBroker

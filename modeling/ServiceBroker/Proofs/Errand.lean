/-
# What a call about a binding does

On the database servers a call about a binding does one thing or nothing (`Broker.Errand`): it
adds a row with its database, or it takes both away.  So a call that fails has changed nothing,
no call changes more than one binding on one server, and removing a binding works wherever its
server can be reached.
-/

import ServiceBroker.Proofs.Contents
import ServiceBroker.Proofs.Performing

namespace ServiceBroker

open Dialect (Server Servers)

/-- A question about one binding of an instance, or an order to make or to remove it. -/
inductive Handler.Call.About (name binding : String) : Handler.Call → Prop
  | bindingState : About name binding (.bindingState name binding)
  | createBinding : About name binding (.createBinding name binding)
  | deleteBinding : About name binding (.deleteBinding name binding)

namespace DatabaseHandler

variable {h : DatabaseHandler} {name : String} {a : Appliance} {admin : Connection}
  {found : Except ProviderError (List Appliance)}

/-- A server is reached exactly where one appliance is found and it has an address. -/
theorem connected_eq_ok_iff : h.connected name found = .ok admin ↔
    ∃ a, found = .ok [a] ∧ h.administrator a = .ok admin := by
  constructor
  · intro reached
    rcases found with e | (_ | ⟨a, _ | ⟨a', rest⟩⟩)
    · cases reached
    · cases reached
    · exact ⟨a, rfl, reached⟩
    · cases reached
  · rintro ⟨a, rfl, reached⟩
    exact reached

/-- A connection carries the number of its appliance. -/
theorem salt_of_administrator (reached : h.administrator a = .ok admin) :
    admin.salt = a.id.text := by
  obtain ⟨address, -, rfl⟩ := administrator_eq_ok_iff.1 reached
  rfl

/-- An appliance that has an address has a connection. -/
theorem administrator_of_address {address : Ipv4} (addressed : a.ipAddress = some address) :
    ∃ admin, h.administrator a = .ok admin :=
  ⟨_, administrator_eq_ok_iff.2 ⟨address, addressed, rfl⟩⟩

end DatabaseHandler

namespace Broker

variable {σ α : Type} (s : BrokerSettings σ)

/-- What a broker has stored on a database server. -/
def store (b : Broker σ) (engine : Engine) (salt : String) : Server :=
  (b.servers engine).server salt

/-- What a broker has stored once one server has changed. -/
def setStore (store : Engine → String → Server) (engine : Engine) (salt : String) (m : Server) :
    Engine → String → Server :=
  fun engine' salt' => if engine' = engine ∧ salt' = salt then m else store engine' salt'

section SetStore

variable (store : Engine → String → Server) (engine : Engine) (salt : String) (m m' : Server)

/-- A server that was stored is found. -/
theorem setStore_same : setStore store engine salt m engine salt = m := by
  rw [setStore, if_pos ⟨rfl, rfl⟩]

/-- Storing a server as it is changes nothing. -/
theorem setStore_self : setStore store engine salt (store engine salt) = store := by
  funext engine' salt'
  unfold setStore
  split
  · rename_i same
    rw [same.1, same.2]
  · rfl

/-- Of two changes of a server the second one counts. -/
theorem setStore_setStore :
    setStore (setStore store engine salt m) engine salt m' = setStore store engine salt m' := by
  funext engine' salt'
  unfold setStore
  split <;> rfl

/-- Where one server changed at a binding only, every server did. -/
theorem differsAt_setStore {store : Engine → String → Server} {engine : Engine} {salt : String}
    {m : Server} {binding : String} (there : (store engine salt).DiffersAt binding m)
    (engine' : Engine) (salt' : String) :
    (store engine' salt').DiffersAt binding (setStore store engine salt m engine' salt') := by
  unfold setStore
  split
  · rename_i same
    rw [same.1, same.2]
    exact there
  · exact .refl

end SetStore

section Steps

variable (engine : Engine) (b : Broker σ) (servers : Servers)

/-- What a broker has stored once the servers of an engine have changed. -/
theorem store_setServers :
    (b.setServers servers engine).store =
      fun engine' => if engine' = engine then servers.server else b.store engine' := by
  funext engine'
  cases engine <;> cases engine' <;> rfl

/-- The store after one server of an engine has changed. -/
theorem store_setServers_of_server {salt : String} {m : Server}
    (changed : ∀ salt', servers.server salt' =
      if salt' = salt then m else (b.servers engine).server salt') :
    (b.setServers servers engine).store = setStore b.store engine salt m := by
  funext engine' salt'
  simp only [store_setServers, setStore]
  by_cases same : engine' = engine
  · subst same
    rw [if_pos rfl, changed]
    simp only [true_and]
    rfl
  · simp only [same, false_and, if_false]

/-- A search changes nothing that is stored. -/
theorem store_search (name : String) : (search s engine name b).2.store = b.store := by
  funext engine' salt
  cases engine' <;> rfl

/-- A search changes no server. -/
theorem servers_search (name : String) (engine' : Engine) :
    (search s engine name b).2.servers engine' = b.servers engine' := by
  cases engine' <;> rfl

variable (step : String) (c : Connection) (binding : String)

/-- Whether there is a table is told, and nothing changes. -/
theorem exec_hasTable :
    exec s engine (Backend.dialectStep step (.hasTable c)) b =
      (.ok (b.store engine c.salt).bindings.isSome, b) := by
  rw [exec_dialectStep_eq, Servers.answer_hasTable, setServers_servers]
  rfl

/-- A binding is told as it is on record, and nothing changes. -/
theorem exec_read :
    exec s engine (Backend.dialectStep step (.read c binding)) b =
      (ServiceError.inStep step (Servers.recorded engine (b.servers engine) c binding), b) := by
  rw [exec_dialectStep_eq, Servers.answer_read, setServers_servers]

/-- The user of a binding is told, and nothing changes. -/
theorem exec_readUser :
    exec s engine (Backend.dialectStep step (.readUser c binding)) b =
      (.ok (((b.store engine c.salt).row? binding).map (·.username)), b) := by
  rw [exec_dialectStep_eq, Servers.answer_readUser, setServers_servers]
  rfl

/-- No program of a handler makes a server unreachable or reachable. -/
theorem unreachable_exec (p : Backend.Action α) (engine' : Engine) :
    ((exec s engine p b).2.servers engine').unreachable = (b.servers engine').unreachable := by
  unfold exec
  generalize p.run = p
  induction p generalizing b with
  | done value => rfl
  | ask call next ih =>
    rw [Program.run_ask, StateT.run_bind]
    refine (ih _ _).trans ?_
    cases call with
    | dialect call =>
      show ((b.setServers _ engine).servers engine').unreachable = _
      rw [servers_setServers]
      split
      · rename_i same
        rw [same]
        exact Servers.unreachable_answer engine (b.servers engine) call
      · rfl
    | provider call => cases engine' <;> rfl
    | startDeletion name id => cases engine' <;> rfl
    | drawAdmin => cases engine' <;> rfl
    | drawBinding => cases engine' <;> rfl

end Steps

section Reaching

variable (h : DatabaseHandler) (name : String) (b : Broker σ)

/-- The broker after a server was reached. -/
def visited (c : Connection) (b : Broker σ) : Broker σ :=
  b.setServers (Servers.answer h.engine (.connect c) (b.servers h.engine)).2 h.engine

/-- Reaching a server changes nothing that is stored. -/
theorem store_visited (c : Connection) : (visited h c b).store = b.store := by
  funext engine
  rw [visited, store_setServers, Servers.server_connect]
  dsimp only
  split
  · rename_i same
    rw [same]
    rfl
  · rfl

/-- What comes of something that is done on the server of an instance: first the instance is
searched for and its server reached. -/
def onServer (act : Connection → Broker σ → Except ServiceError α × Broker σ) :
    Except ServiceError α × Broker σ :=
  match h.connected name (search s h.engine name b).1 with
  | .error e => (.error e, (search s h.engine name b).2)
  | .ok admin =>
    if (b.servers h.engine).unreachable then
      (.error (Servers.refused admin), (search s h.engine name b).2)
    else act admin (visited h admin (search s h.engine name b).2)

/-- What is done on the connection of an instance is done on its server. -/
theorem exec_onServer (next : Connection → Backend.Action α) :
    exec s h.engine (do
        let admin ← h.connection name
        Backend.dialect (.connect admin)
        next admin) b =
      onServer s h name b fun admin b => exec s h.engine (next admin) b := by
  rw [exec_bind, exec_connection_eq, onServer]
  cases h.connected name (search s h.engine name b).1 with
  | error e => rfl
  | ok admin =>
    show exec s h.engine (Backend.dialect (.connect admin) >>= fun _ => next admin) _ = ite _ _ _
    rw [exec_bind, exec_dialect_eq]
    by_cases away : (b.servers h.engine).unreachable = true
    · rw [if_pos away]
      simp only [Servers.answer, servers_search, away, if_true]
      rw [← servers_search s h.engine b name, setServers_servers]
    · rw [if_neg away]
      have reached : (Servers.answer h.engine (.connect admin)
          ((search s h.engine name b).2.servers h.engine)).1 = .ok () := by
        simp only [Servers.answer, servers_search, away, if_false, Bool.false_eq_true]
      rw [reached]
      rfl

end Reaching

/-- What comes of a call about a binding, and the broker after it. -/
inductive Errand (h : DatabaseHandler) (name binding : String) (b : Broker σ) :
    Except ServiceError α × Broker σ → Prop where
  /-- It leaves everything as it was. -/
  | nothing (result : Except ServiceError α) {b' : Broker σ} (store : b'.store = b.store)
    (drawn : b'.drawn = b.drawn) : Errand h name binding b (result, b')
  /-- It makes the binding, with a user drawn for it. -/
  | made (value : α) {b' : Broker σ} {a : Appliance} {stored : String}
    (found : (search s h.engine name b).1 = .ok [a])
    (vacant : (b.store h.engine a.id.text).row? binding = none)
    (store : b'.store = setStore b.store h.engine a.id.text
      ((b.store h.engine a.id.text).add binding
        ⟨(s.chance.binding b.drawn).username.text, stored⟩))
    (drawn : b'.drawn = b.drawn + 1) : Errand h name binding b (.ok value, b')
  /-- It removes the binding. -/
  | removed (value : α) {b' : Broker σ} {a : Appliance} {row : Dialect.Row}
    (found : (search s h.engine name b).1 = .ok [a])
    (there : (b.store h.engine a.id.text).row? binding = some row)
    (store : b'.store = setStore b.store h.engine a.id.text
      ((b.store h.engine a.id.text).remove binding row.username))
    (drawn : b'.drawn = b.drawn) : Errand h name binding b (.ok value, b')

section Errands

variable {s} {h : DatabaseHandler} {name binding : String} {b b' : Broker σ} {a : Appliance}
  {admin : Connection}

/-- What is an errand on the server of the instance is one on the way there too. -/
theorem errand_onServer {act : Connection → Broker σ → Except ServiceError α × Broker σ}
    (there : ∀ {a admin b'}, (search s h.engine name b).1 = .ok [a] →
      admin.salt = a.id.text → b'.store = b.store → b'.drawn = b.drawn →
      Errand s h name binding b (act admin b')) :
    Errand s h name binding b (onServer s h name b act) := by
  have searched : (search s h.engine name b).2.store = b.store := store_search s h.engine b name
  unfold onServer
  split
  · exact .nothing _ searched rfl
  · rename_i admin connected
    obtain ⟨a, found, reached⟩ := DatabaseHandler.connected_eq_ok_iff.1 connected
    split
    · exact .nothing _ searched rfl
    · apply there found (DatabaseHandler.salt_of_administrator reached)
      · rw [store_visited, searched]
      · exact drawn_setServers _ _ _

/-- **Looking a binding up** reads its record. -/
theorem exec_bindingState :
    exec s h.engine (h.bindingState name binding) b = onServer s h name b fun admin b =>
      ((ServiceError.inStep "reading metadata table"
        (Servers.recorded h.engine (b.servers h.engine) admin binding)).map fun record =>
          record.map fun record => ⟨DatabaseHandler.credentials admin record⟩, b) := by
  unfold DatabaseHandler.bindingState
  rw [exec_onServer]
  congr
  funext admin b
  rw [exec_bind, exec_hasTable]
  cases table : (b.store h.engine admin.salt).bindings.isSome with
  | true =>
    show exec s h.engine (Backend.dialectStep _ (.read admin binding) >>= _) b = _
    rw [exec_bind, exec_read]
    cases Servers.recorded h.engine (b.servers h.engine) admin binding <;> rfl
  | false =>
    rw [Servers.recorded_of_none _ _ _ (Servers.row?_eq_none_of_hasTable _ table binding)]
    rfl

/-- Asking for the state of a binding is an errand. -/
theorem errand_bindingState :
    Errand s h name binding b (exec s h.engine (h.bindingState name binding) b) := by
  rw [exec_bindingState]
  apply errand_onServer
  intro a admin b' found salt store drawn
  exact .nothing _ store drawn

/-- The broker without a binding and its database. -/
def withoutBinding (h : DatabaseHandler) (c : Connection) (binding : String) (b : Broker σ) :
    Broker σ :=
  match (b.store h.engine c.salt).row? binding with
  | none => b
  | some row => b.setServers
      (Servers.answer h.engine (.delete c binding row.username) (b.servers h.engine)).2 h.engine

/-- Where there is no binding none can be taken away. -/
theorem withoutBinding_of_none (absent : (b.store h.engine admin.salt).row? binding = none) :
    withoutBinding h admin binding b = b := by
  rw [withoutBinding, absent]

/-- Without a binding the server is as after its removal. -/
theorem store_withoutBinding {row : Dialect.Row}
    (there : (b.store h.engine admin.salt).row? binding = some row) :
    (withoutBinding h admin binding b).store = setStore b.store h.engine admin.salt
      ((b.store h.engine admin.salt).remove binding row.username) := by
  rw [withoutBinding, there]
  exact store_setServers_of_server _ _ _
    (Servers.server_delete h.engine (b.servers h.engine) admin binding row.username)

/-- Taking a binding away draws nothing. -/
theorem drawn_withoutBinding : (withoutBinding h admin binding b).drawn = b.drawn := by
  unfold withoutBinding
  split
  · rfl
  · exact drawn_setServers _ _ _

/-- **Removing a binding** takes its row and its database away.  What is stored as its password is
not read. -/
theorem exec_deleteBinding :
    exec s h.engine (h.deleteBinding name binding) b = onServer s h name b fun admin b =>
      (.ok (), withoutBinding h admin binding b) := by
  unfold DatabaseHandler.deleteBinding
  rw [exec_onServer]
  congr
  funext admin b
  rw [exec_bind, exec_hasTable]
  cases table : (b.store h.engine admin.salt).bindings.isSome with
  | false =>
    rw [withoutBinding_of_none (Servers.row?_eq_none_of_hasTable _ table binding)]
    rfl
  | true =>
    show exec s h.engine (Backend.dialectStep _ (.readUser admin binding) >>= _) b = _
    rw [exec_bind, exec_readUser, withoutBinding]
    cases (b.store h.engine admin.salt).row? binding with
    | none => rfl
    | some row => exact exec_dialectStep_eq s h.engine _ _ b

/-- Deleting a binding is an errand. -/
theorem errand_deleteBinding :
    Errand s h name binding b (exec s h.engine (h.deleteBinding name binding) b) := by
  rw [exec_deleteBinding]
  apply errand_onServer
  intro a admin b' found salt store drawn
  cases there : (b'.store h.engine admin.salt).row? binding with
  | none =>
    rw [withoutBinding_of_none there]
    exact .nothing _ store drawn
  | some row =>
    have store' := store_withoutBinding there
    rw [salt, store] at there store'
    exact .removed () found there store' (drawn_withoutBinding.trans drawn)

/-- The broker once there is a table for bindings. -/
def prepared (h : DatabaseHandler) (c : Connection) (b : Broker σ) : Broker σ :=
  b.setServers (Servers.answer h.engine (.prepare c) (b.servers h.engine)).2 h.engine

/-- Once prepared the server has a table, with the rows that it had. -/
theorem store_prepared : (prepared h admin b).store =
    setStore b.store h.engine admin.salt { b.store h.engine admin.salt with
      bindings := some ((b.store h.engine admin.salt).bindings.getD .empty) } :=
  store_setServers_of_server _ _ _ (Servers.server_prepare h.engine _ admin)

/-- Making sure of the table changes nothing where there is a row. -/
theorem store_prepared_of_row {row : Dialect.Row}
    (there : (b.store h.engine admin.salt).row? binding = some row) :
    (prepared h admin b).store = b.store := by
  obtain ⟨bindings, table, -⟩ := Option.bind_eq_some_iff.1 there
  rw [store_prepared, table, Option.getD_some, ← table]
  exact setStore_self _ _ _

/-- Preparing a server keeps every row. -/
theorem row?_prepared : ((prepared h admin b).servers h.engine).row? admin.salt binding =
    (b.store h.engine admin.salt).row? binding := by
  rw [prepared, servers_setServers, if_pos rfl]
  exact Servers.row?_prepare h.engine _ admin _ _

/-- A server with a table takes a binding with its database. -/
theorem exec_create (binding step : String) (draw : Dialect.Draw)
    (table : (b.store h.engine admin.salt).bindings.isSome) :
    ∃ b', exec s h.engine (Backend.dialectStep step (.create admin binding draw)) b =
        (.ok (draw.record binding), b') ∧ b'.drawn = b.drawn ∧
      b'.store = setStore b.store h.engine admin.salt ((b.store h.engine admin.salt).add binding
        ⟨draw.username.text,
          Dialect.storedPassword h.engine admin.salt draw.nonce draw.password.text⟩) := by
  have answered := Servers.answer_create h.engine (b.servers h.engine) admin binding draw table
  rw [exec_dialectStep_eq, answered]
  refine ⟨_, rfl, drawn_setServers _ _ _, ?_⟩
  exact store_setServers_of_server _ _ _ (Servers.server_create h.engine _ admin draw table)

/-- A draw is the next one. -/
theorem exec_draw : exec s h.engine Backend.drawBinding b =
    (.ok (s.chance.binding b.drawn), { b with drawn := b.drawn + 1 }) := rfl

/-- A draw changes nothing that is stored. -/
theorem store_draw (n : Nat) : ({ b with drawn := n } : Broker σ).store = b.store := by
  funext engine
  cases engine <;> rfl

/-- The rest of making a binding, where there is a table and no row. -/
theorem errand_of_vacant (found : (search s h.engine name b).1 = .ok [a])
    (salt : admin.salt = a.id.text) (store : b'.store = b.store) (drawn : b'.drawn = b.drawn)
    (vacant : (b'.store h.engine admin.salt).row? binding = none) :
    Errand s h name binding b (exec s h.engine (do
      let draw ← Backend.drawBinding
      let record ← Backend.dialectStep "creating user database" (.create admin binding draw)
      return DatabaseHandler.credentials admin record) (prepared h admin b')) := by
  have drawn₁ : (prepared h admin b').drawn = b.drawn := (drawn_setServers _ _ _).trans drawn
  rw [exec_bind, exec_draw, drawn₁]
  let b₂ : Broker σ := { prepared h admin b' with drawn := b.drawn + 1 }
  have store₂ := (store_draw (b := prepared h admin b') (b.drawn + 1)).trans store_prepared
  have table : (b₂.store h.engine admin.salt).bindings.isSome := by
    rw [store₂, setStore_same]
    rfl
  obtain ⟨b₃, created, drawn₃, store₃⟩ :=
    exec_create (s := s) binding "creating user database" (s.chance.binding b.drawn) table
  show Errand s h name binding b (exec s h.engine (_ >>= _) b₂)
  rw [exec_bind_ok s h.engine created]
  rw [store₂, setStore_same, setStore_setStore, salt, store] at store₃
  rw [salt, store] at vacant
  exact .made _ found vacant store₃ drawn₃

/-- Creating a binding is an errand. -/
theorem errand_createBinding :
    Errand s h name binding b (exec s h.engine (h.createBinding name binding) b) := by
  unfold DatabaseHandler.createBinding
  rw [exec_onServer]
  apply errand_onServer
  intro a admin b' found salt store drawn
  have drawn' : (prepared h admin b').drawn = b.drawn := (drawn_setServers _ _ _).trans drawn
  rw [exec_bind, exec_dialectStep_eq]
  show Errand s h name binding b
    (exec s h.engine (Backend.dialectStep _ (.read admin binding) >>= _) (prepared h admin b'))
  rw [exec_bind, exec_read]
  cases row : (b'.store h.engine admin.salt).row? binding with
  | some there =>
    -- The table was there: a call that fails on the row has made none.
    have stays : (prepared h admin b').store = b.store := (store_prepared_of_row row).trans store
    rw [Servers.recorded_of_some h.engine _ admin (row?_prepared.trans row)]
    cases Dialect.loadedPassword h.engine admin.salt there.stored with
    | error e => exact .nothing _ stays drawn'
    | ok password => exact .nothing _ stays drawn'
  | none =>
    rw [Servers.recorded_of_none h.engine _ admin (row?_prepared.trans row)]
    exact errand_of_vacant found salt store drawn row

/-- **A call about a binding does one thing or nothing.** -/
theorem errand_handle {call : Handler.Call} (about : call.About name binding) :
    Errand s h name binding b ((handle s h call).run b) := by
  cases about with
  | bindingState => exact errand_bindingState
  | createBinding => exact errand_createBinding
  | deleteBinding => exact errand_deleteBinding

end Errands

section Errand

variable {s} {h : DatabaseHandler} {name binding : String} {b b' : Broker σ}
  {result : Except ServiceError α}

/-- **A call that fails has changed nothing.** -/
theorem Errand.store_of_error {e : ServiceError} (errand : Errand s h name binding b (result, b'))
    (failed : result = .error e) : b'.store = b.store := by
  cases errand with
  | nothing _ store drawn => exact store
  | made value => cases failed
  | removed value => cases failed

/-- Servers of other instances stay as they are. -/
theorem Errand.store_elsewhere (errand : Errand s h name binding b (result, b'))
    {engine : Engine} {salt : String}
    (elsewhere : ∀ a, (search s h.engine name b).1 = .ok [a] →
      ¬(engine = h.engine ∧ salt = a.id.text)) :
    b'.store engine salt = b.store engine salt := by
  cases errand with
  | nothing _ store drawn => rw [store]
  | made value found vacant store drawn => rw [store, setStore, if_neg (elsewhere _ found)]
  | removed value found there store drawn => rw [store, setStore, if_neg (elsewhere _ found)]

/-- On every server the other bindings stay. -/
theorem Errand.differsAt (errand : Errand s h name binding b (result, b')) (engine : Engine)
    (salt : String) : (b.store engine salt).DiffersAt binding (b'.store engine salt) := by
  cases errand with
  | nothing _ store drawn =>
    rw [store]
    exact .refl
  | made value found vacant store drawn =>
    rw [store]
    exact differsAt_setStore Server.differsAt_add engine salt
  | removed value found there store drawn =>
    rw [store]
    exact differsAt_setStore (Server.differsAt_remove there) engine salt

/-- No user is drawn back. -/
theorem Errand.drawn_le (errand : Errand s h name binding b (result, b')) :
    b.drawn ≤ b'.drawn := by
  cases errand with
  | nothing _ store drawn => exact Nat.le_of_eq drawn.symm
  | made value found vacant store drawn => exact drawn ▸ Nat.le_succ _
  | removed value found there store drawn => exact Nat.le_of_eq drawn.symm

end Errand

section Reading

variable {s} {h : DatabaseHandler} {name binding : String} {b b' : Broker σ}

/-- **What a binding reads as** depends on the way to its server and on its row. -/
theorem bindingState_congr
    (found : (search s h.engine name b').1 = (search s h.engine name b).1)
    (unreachable : (b'.servers h.engine).unreachable = (b.servers h.engine).unreachable)
    (row : ∀ a, (search s h.engine name b).1 = .ok [a] →
      (b'.store h.engine a.id.text).row? binding = (b.store h.engine a.id.text).row? binding) :
    (exec s h.engine (h.bindingState name binding) b').1 =
      (exec s h.engine (h.bindingState name binding) b).1 := by
  rw [exec_bindingState, exec_bindingState, onServer, onServer, found, unreachable]
  cases connected : h.connected name (search s h.engine name b).1 with
  | error e => rfl
  | ok admin =>
    obtain ⟨a, only, reached⟩ := DatabaseHandler.connected_eq_ok_iff.1 connected
    have salt := DatabaseHandler.salt_of_administrator reached
    dsimp only
    split
    · rfl
    · rw [Servers.recorded_congr h.engine admin]
      show (Broker.store _ h.engine admin.salt).row? binding =
        (Broker.store _ h.engine admin.salt).row? binding
      rw [store_visited, store_visited, store_search, store_search, salt]
      exact row a only

/-- **Every other binding reads back as before.** -/
theorem Errand.bindingState_eq {result : Except ServiceError α} {h' : DatabaseHandler}
    {name' binding' : String} (errand : Errand s h name binding b (result, b'))
    (found : (search s h'.engine name' b').1 = (search s h'.engine name' b).1)
    (unreachable : (b'.servers h'.engine).unreachable = (b.servers h'.engine).unreachable)
    (other : ∀ a a', (search s h.engine name b).1 = .ok [a] →
      (search s h'.engine name' b).1 = .ok [a'] →
      ¬(h'.engine = h.engine ∧ a'.id.text = a.id.text ∧ binding' = binding)) :
    (exec s h'.engine (h'.bindingState name' binding') b').1 =
      (exec s h'.engine (h'.bindingState name' binding') b).1 := by
  apply bindingState_congr found unreachable
  intro a' found'
  by_cases same : binding' = binding
  · rw [errand.store_elsewhere]
    rintro a found ⟨engine, salt⟩
    exact other a a' found found' ⟨engine, salt, same⟩
  · exact (errand.differsAt h'.engine a'.id.text).rows binding' same

/-- **Removing a binding succeeds** wherever there is a way to its server: no row is left of it, and
no database. -/
theorem deleteBinding_of_reachable {a : Appliance} {address : Ipv4}
    (found : (search s h.engine name b).1 = .ok [a]) (addressed : a.ipAddress = some address)
    (reachable : (b.servers h.engine).unreachable = false) :
    ∃ b', exec s h.engine (h.deleteBinding name binding) b = (.ok (), b') ∧
      (b'.store h.engine a.id.text).row? binding = none ∧
      ∀ row, (b.store h.engine a.id.text).row? binding = some row →
        row.username ∉ (b'.store h.engine a.id.text).databases := by
  obtain ⟨admin, reached⟩ := DatabaseHandler.administrator_of_address (h := h) addressed
  have connected : h.connected name (search s h.engine name b).1 = .ok admin :=
    DatabaseHandler.connected_eq_ok_iff.2 ⟨a, found, reached⟩
  rw [exec_deleteBinding, onServer, connected]
  dsimp only
  rw [reachable, if_neg Bool.false_ne_true]
  have salt := DatabaseHandler.salt_of_administrator reached
  have store : (visited h admin (search s h.engine name b).2).store = b.store := by
    rw [store_visited, store_search]
  generalize visited h admin (search s h.engine name b).2 = b₁ at store
  refine ⟨_, rfl, ?_⟩
  rw [← salt, ← store]
  cases there : (b₁.store h.engine admin.salt).row? binding with
  | none =>
    rw [withoutBinding_of_none there]
    exact ⟨there, nofun⟩
  | some row =>
    rw [store_withoutBinding there, setStore_same]
    constructor
    · rw [Server.row?_remove, if_pos rfl]
    · rintro row' ⟨⟩
      simp [Server.remove]

end Reading

end Broker
end ServiceBroker

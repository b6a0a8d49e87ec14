/-
# Brokers that are kin

What holds of a broker in memory and one with its bindings on a SQL server, call after call
(`Scene.Kin`): they hold the same bindings of an instance, and the users that will be drawn are
nobody yet.  Each call of the dialect that a handler makes is answered alike on both
(`Scene.alike_read` and its neighbours).
-/

import ServiceBroker.Proofs.Twins

namespace ServiceBroker

open Dialect (Servers)
open Provider (Memory inMemory)
open Sql (Host)

/-- How the server of an appliance is reached by its administrator. -/
def Appliance.admin (a : Appliance) (engine : Engine) : Connection where
  engine
  host := (a.ipAddress.map (·.text)).getD ""
  rawPort := a.port
  database := a.defaultUser
  username := a.defaultUser
  password := a.userPassword
  salt := a.id.text

/-- What is asked about the bindings of: an instance and its appliance, whose administrator has a
name that can be quoted, the databases that were on its server before, and the draws of chance that
there may be, each for another user. -/
structure Scene where
  settings : BrokerSettings Memory
  mode : Provider.BootMode
  wait : Duration
  interval : Duration
  provider : settings.provider = inMemory mode wait interval
  handler : DatabaseHandler
  name : String
  appliance : Appliance
  word : Sql.isWord appliance.defaultUser = true
  base : List String
  /-- The draws are those from the first on, up to the limit. -/
  first : Nat
  limit : Nat
  distinct : ∀ j k, first ≤ j → j < limit → first ≤ k → k < limit →
    (settings.chance.binding j).username.text = (settings.chance.binding k).username.text → j = k

namespace Scene

variable (scene : Scene)

/-- The engine of its server. -/
abbrev engine : Engine := scene.handler.engine

/-- How the server of the instance is reached. -/
def admin : Connection := scene.appliance.admin scene.engine

/-- The user that some draw of chance is for. -/
def user (k : Nat) : String := (scene.settings.chance.binding k).username.text

/-- A broker in memory and one with its bindings on a SQL server, after as many draws at most: they
hold the same bindings of the instance, and the users to come are nobody yet. -/
structure Kin (n : Nat) (b : Broker Memory) (x : Broker Memory × Host) : Prop where
  deletions : x.1.deletions = b.deletions
  drawn : x.1.drawn = b.drawn
  begun : scene.first ≤ b.drawn
  count : b.drawn ≤ n
  named : b.provider.named scene.name = [scene.appliance]
  reachable : (b.servers scene.engine).unreachable = false
  mirrors : Dialect.Mirrors scene.engine scene.base scene.admin
    ((b.servers scene.engine).server scene.admin.salt) x.2
  free : ∀ k, b.drawn ≤ k → k < scene.limit →
    scene.user k ∉ x.2.accounts.keys ∧ scene.user k ∉ x.2.databases.keys

/-- As well, the administrator is connected. -/
def Linked (n : Nat) (b : Broker Memory) (x : Broker Memory × Host) : Prop :=
  scene.Kin n b x ∧ Dialect.Reached scene.admin x.2

variable {scene} {n m : Nat} {b : Broker Memory} {x : Broker Memory × Host}

/-- What is kin after so many draws is kin after more. -/
theorem Kin.mono (kin : scene.Kin n b x) (le : n ≤ m) : scene.Kin m b x :=
  { kin with count := kin.count.trans le }

/-- After a call to the dialect the servers are others, and mirrors of each other. -/
theorem Kin.setServers (kin : scene.Kin n b x) {call : Dialect.Call} {result : call.Answer}
    {servers : Servers} {host : Host}
    (memory : Servers.answer scene.engine call (b.servers scene.engine) =
      (result, servers))
    (mirrors : Dialect.Mirrors scene.engine scene.base scene.admin
      (servers.server scene.admin.salt) host)
    (free : ∀ k, b.drawn ≤ k → k < scene.limit →
      scene.user k ∉ host.accounts.keys ∧ scene.user k ∉ host.databases.keys) :
    scene.Kin n (b.setServers servers scene.engine) (x.1, host) := by
  have there : (b.setServers servers scene.engine).servers scene.engine = servers := by
    rw [Broker.servers_setServers, if_pos rfl]
  refine ⟨?_, ?_, ?_, ?_, ?_, ?_, ?_, ?_⟩
  · rw [Broker.deletions_setServers]
    exact kin.deletions
  · rw [Broker.drawn_setServers]
    exact kin.drawn
  · rw [Broker.drawn_setServers]
    exact kin.begun
  · rw [Broker.drawn_setServers]
    exact kin.count
  · rw [Broker.provider_setServers]
    exact kin.named
  · have kept := Servers.unreachable_answer scene.engine (b.servers scene.engine) call
    rw [memory] at kept
    rw [there]
    exact kept.trans kin.reachable
  · rw [there]
    exact mirrors
  · rw [Broker.drawn_setServers]
    exact free

/-- The table of bindings in memory is there. -/
def Tabled (scene : Scene) (b : Broker Memory) : Prop :=
  ((b.servers scene.engine).server scene.admin.salt).bindings.isSome = true

/-- The row of a binding in memory. -/
def row? (scene : Scene) (b : Broker Memory) (binding : String) : Option Dialect.Row :=
  (b.servers scene.engine).row? scene.admin.salt binding

/-- Another provider, with the same appliance. -/
theorem Kin.setProvider (kin : scene.Kin n b x) {provider : Memory}
    (named : provider.named scene.name = b.provider.named scene.name) :
    scene.Kin n (b.setProvider provider) (x.1.setProvider provider, x.2) := by
  have same : (b.setProvider provider).servers scene.engine = b.servers scene.engine := by
    cases scene.engine <;> rfl
  refine ⟨?_, kin.drawn, kin.begun, kin.count, named.trans kin.named, ?_, ?_, kin.free⟩
  · show ({ x.1.deletions with shared := { x.1.deletions.shared with provider } } :
      Deletions Memory) = _
    rw [kin.deletions]
    rfl
  · rw [same]
    exact kin.reachable
  · rw [same]
    exact kin.mirrors

section Calls

/-- Reaching the server is answered alike. -/
theorem alike_connect :
    Alike scene.engine (scene.Kin m) (scene.Kin n) (.connect scene.admin)
      fun _ => scene.Linked n := by
  intro b x kin
  obtain ⟨servers, host, memory, sql, reached, mirrors, accounts, databases⟩ :=
    kin.mirrors.connect kin.reachable rfl scene.word
  refine ⟨_, servers, host, memory, sql, kin.setServers memory mirrors ?_, reached⟩
  rw [accounts, databases]
  exact kin.free

/-- Whether there is a table is answered alike. -/
theorem alike_hasTable : Alike scene.engine (scene.Kin m) (scene.Linked n) (.hasTable scene.admin)
    fun there b x => scene.Linked n b x ∧ (there = true ↔ scene.Tabled b) := by
  rintro b x ⟨kin, reached⟩
  refine ⟨_, _, _, rfl, kin.mirrors.hasTable reached, ?_⟩
  rw [Broker.setServers_servers]
  exact ⟨⟨kin, reached⟩, Iff.rfl⟩

/-- Preparing the server is answered alike. -/
theorem alike_prepare : Alike scene.engine (scene.Kin m) (scene.Linked n) (.prepare scene.admin)
    fun _ b x => scene.Linked n b x ∧ scene.Tabled b := by
  rintro b x ⟨kin, reached⟩
  obtain ⟨servers, host, memory, sql, reached, mirrors, accounts, databases⟩ :=
    kin.mirrors.prepare reached
  have table := Servers.isSome_bindings_prepare scene.engine (b.servers scene.engine) scene.admin
  rw [memory] at table
  refine ⟨_, servers, host, memory, sql, ⟨kin.setServers memory mirrors ?_, reached⟩, ?_⟩
  · rw [accounts, databases]
    exact kin.free
  · rw [Tabled, Broker.servers_setServers, if_pos rfl]
    exact table

/-- A binding is read alike. -/
theorem alike_read (le : n ≤ m) (binding : String) : Alike scene.engine (scene.Kin m)
    (fun b x => scene.Linked n b x ∧ scene.Tabled b) (.read scene.admin binding)
    fun record b x => scene.Linked n b x ∧ scene.Tabled b ∧
      (record = none → scene.row? b binding = none) := by
  rintro b x ⟨⟨kin, reached⟩, table⟩
  refine ⟨_, _, _, Servers.answer_read scene.engine _ scene.admin binding,
    kin.mirrors.read reached table binding, ?_⟩
  rw [Broker.setServers_servers]
  cases recorded : (b.servers scene.engine).recorded scene.engine scene.admin binding with
  | error e => exact kin.mono le
  | ok record =>
    refine ⟨⟨kin, reached⟩, table, ?_⟩
    rintro rfl
    cases row : scene.row? b binding with
    | none => rfl
    | some r =>
      rw [Servers.recorded_of_some scene.engine _ scene.admin row] at recorded
      cases opened : Dialect.loadedPassword scene.engine scene.admin.salt r.stored with
      | error e => rw [opened] at recorded; cases recorded
      | ok password => rw [opened] at recorded; cases recorded

/-- The user of a binding is read alike. -/
theorem alike_readUser (binding : String) : Alike scene.engine (scene.Kin m)
    (fun b x => scene.Linked n b x ∧ scene.Tabled b) (.readUser scene.admin binding)
    fun username b x => scene.Linked n b x ∧
      username = (scene.row? b binding).map (·.username) := by
  rintro b x ⟨⟨kin, reached⟩, table⟩
  refine ⟨_, _, _, rfl, kin.mirrors.readUser reached table binding, ?_⟩
  rw [Broker.setServers_servers]
  exact ⟨⟨kin, reached⟩, rfl⟩

/-- A binding with a new user is made alike. -/
theorem alike_create (binding : String) (draw : Dialect.Draw) : Alike scene.engine (scene.Kin m)
    (fun b x => scene.Linked n b x ∧ scene.Tabled b ∧ scene.row? b binding = none ∧
      draw.username.text ∉ x.2.accounts.keys ∧ draw.username.text ∉ x.2.databases.keys ∧
      ∀ k, b.drawn ≤ k → k < scene.limit → scene.user k ≠ draw.username.text)
    (.create scene.admin binding draw) fun _ => scene.Kin n := by
  rintro b x ⟨⟨kin, reached⟩, table, unbound, unknown, unmade, others⟩
  obtain ⟨servers, host, memory, sql, mirrors, accounts, databases⟩ :=
    kin.mirrors.create reached table unbound
      (Table.get?_eq_none_iff.2 unmade) (Table.get?_eq_none_iff.2 unknown)
  refine ⟨_, servers, host, memory, sql, kin.setServers memory mirrors fun k first last => ?_⟩
  obtain ⟨account, database⟩ := kin.free k first last
  have other := others k first last
  rw [accounts, databases, List.mem_append, List.mem_append, List.mem_singleton]
  exact ⟨not_or.2 ⟨account, other⟩, not_or.2 ⟨database, other⟩⟩

/-- A binding is removed alike, by the user of its row. -/
theorem alike_delete (binding username : String) : Alike scene.engine (scene.Kin m)
    (fun b x => scene.Linked n b x ∧ some username = (scene.row? b binding).map (·.username))
    (.delete scene.admin binding username) fun _ => scene.Kin n := by
  rintro b x ⟨⟨kin, reached⟩, user⟩
  obtain ⟨row, there, rfl⟩ := Option.map_eq_some_iff.1 user.symm
  obtain ⟨servers, host, memory, sql, mirrors, accounts, databases⟩ :=
    kin.mirrors.delete reached there
  refine ⟨_, servers, host, memory, sql, kin.setServers memory mirrors fun k first last => ?_⟩
  obtain ⟨account, database⟩ := kin.free k first last
  rw [accounts]
  exact ⟨account, databases _ database⟩

end Calls

end Scene

end ServiceBroker

/-
# What a handler does to the ledger

The ledger of a broker (`Broker.ledger`) is read off its provider and its servers.  Of a
steady broker every question of an operation is answered from the ledger, and every
order does to it what the ledger itself would do: enter an instance, strike it, set or
remove a binding.
-/

import ServiceBroker.Proofs.Standing

namespace ServiceBroker

/-- The credentials that a row stands for on the server of an appliance. -/
def Dialect.Row.credentials? (engine : Engine) (a : Appliance) (binding : String)
    (row : Dialect.Row) : Option Credentials :=
  match DatabaseHandler.administrator ⟨engine, 0⟩ a,
    Dialect.loadedPassword engine a.id.text row.stored with
  | .ok admin, .ok password =>
    some (DatabaseHandler.credentials admin ⟨binding, row.username, password⟩)
  | _, _ => none

/-- The row of a new binding stands for the credentials that its user is told. -/
theorem Dialect.Row.credentials?_new {engine : Engine} {a : Appliance} {admin : Connection}
    (hadmin : DatabaseHandler.administrator ⟨engine, 0⟩ a = .ok admin) (binding : String)
    (draw : Dialect.Draw) :
    (⟨draw.username.text, storedPassword engine a.id.text draw.nonce draw.password.text⟩ :
        Dialect.Row).credentials? engine a binding =
      some (DatabaseHandler.credentials admin (draw.record binding)) := by
  simp only [credentials?, hadmin, loadedPassword_storedPassword]
  rfl

namespace Broker

open Provider (Memory inMemory)

/-- The credentials on record for a binding of an appliance. -/
def credentials? (b : Broker Memory) (engine : Engine) (a : Appliance) (binding : String) :
    Option Credentials :=
  ((b.servers engine).row? a.id.text binding).bind (·.credentials? engine a binding)

/-- The instances and bindings that a broker knows of. -/
def ledger (b : Broker Memory) : Ledger where
  instances name := (b.provider.first? name).bind (·.network?)
  bindings engine name binding :=
    (b.provider.first? name).bind fun a => b.credentials? engine a binding

/-- An instance of the ledger is an appliance. -/
theorem exists_appliance {b : Broker Memory} {name : String} {network : Network}
    (h : b.ledger.instances name = some network) :
    ∃ a, b.provider.first? name = some a ∧ a.network? = some network :=
  Option.bind_eq_some_iff.1 h

/-- The ledger has the bindings that the server of an appliance tells on record. -/
theorem ledger_bindings {b : Broker Memory} {name : String} {a : Appliance}
    (ha : b.provider.first? name = some a) (engine : Engine) (binding : String) :
    b.ledger.bindings engine name binding =
      ((b.servers engine).row? a.id.text binding).bind (·.credentials? engine a binding) := by
  simp only [ledger, ha, Option.bind_some, credentials?]

/-- Of the rows only those on the servers of appliances that are there count. -/
theorem ledger_setServers (b : Broker Memory) (engine : Engine) (servers : Dialect.Servers)
    (hr : ∀ a ∈ b.provider.appliances, ∀ binding,
      servers.row? a.id.text binding = (b.servers engine).row? a.id.text binding) :
    (b.setServers servers engine).ledger = b.ledger := by
  ext1
  · simp only [ledger, provider_setServers]
  · funext engine' name binding
    simp only [ledger, provider_setServers, credentials?, servers_setServers]
    cases ha : b.provider.first? name with
    | none => rfl
    | some a =>
      rw [Option.bind_some, Option.bind_some]
      split
      · subst engine'
        rw [hr a (Memory.mem_of_first? ha)]
      · rfl

namespace Steady

variable {n : Nat} {b : Broker Memory}

/-- A search leaves a broker as steady as it was. -/
theorem searched (h : Steady n b) : Steady n b.searched where
  atRest := { tasks := h.atRest.tasks, ready := h.atRest.ready, resting := h.atRest.resting,
              locks := h.atRest.locks }
  provider := h.provider.withCounts _
  servers engine := by
    have := h.servers engine
    cases engine <;> exact this

/-- A broker stays steady with servers that are kept. -/
theorem setServers (h : Steady n b) {engine : Engine} {servers : Dialect.Servers}
    (hs : servers.Kept engine n) : Steady n (b.setServers servers engine) where
  atRest := by rw [deletions_setServers]; exact h.atRest
  provider := by rw [provider_setServers]; exact h.provider
  servers engine' := by
    rw [servers_setServers]
    split
    · subst engine'
      exact hs
    · exact h.servers engine'

/-- Without an instance in the ledger there is no appliance. -/
theorem first?_eq_none (h : Steady n b) {name : String}
    (hn : b.ledger.instances name = none) : b.provider.first? name = none := by
  cases ha : b.provider.first? name with
  | none => rfl
  | some a =>
    have := h.provider.addressed a (Memory.mem_of_first? ha)
    have hn : (b.provider.first? name).bind (·.network?) = none := hn
    rw [ha, Option.bind_some] at hn
    rw [hn] at this
    cases this

/-- A row set or removed on the server of an appliance is a binding of its instance set or
removed. -/
theorem ledger_setRow (h : Steady n b) {engine : Engine} {servers : Dialect.Servers}
    {name binding : String} {a : Appliance} (ha : b.provider.first? name = some a)
    {row : Option Dialect.Row}
    (hr : ∀ salt binding', servers.row? salt binding' =
      if salt = a.id.text ∧ binding' = binding then row
      else (b.servers engine).row? salt binding') :
    (b.setServers servers engine).ledger =
      b.ledger.setBinding engine name binding (row.bind (·.credentials? engine a binding)) := by
  ext1
  · simp only [ledger, provider_setServers, Ledger.setBinding]
  · funext engine' name' binding'
    simp only [ledger, provider_setServers, credentials?, servers_setServers, Ledger.setBinding]
    by_cases he : engine' = engine
    · subst he
      by_cases hname : name' = name
      · subst hname
        by_cases hb : binding' = binding
        · simp [ha, hr, hb]
        · simp [ha, hr, hb]
      · cases ha' : b.provider.first? name' with
        | none => simp [hname]
        | some a' =>
          have other : a'.id.text ≠ a.id.text := fun ht => hname <| by
            have := h.provider.eq_of_id (Memory.mem_of_first? ha') (Memory.mem_of_first? ha)
              (ApplianceId.text_injective ht)
            rw [← Memory.name_of_first? ha, ← Memory.name_of_first? ha', this]
          simp [hr, other, hname]
    · simp [he]

end Steady
end Broker

/-- An appliance that has its addresses has an administrator. -/
theorem DatabaseHandler.administrator_of_network? {a : Appliance} {network : Network}
    (h : a.network? = some network) (handler : DatabaseHandler) :
    ∃ admin, handler.administrator a = .ok admin ∧ admin.salt = a.id.text := by
  unfold Appliance.network? at h
  split at h
  · rename_i ipAddress _ hip _
    exact ⟨_, administrator_eq_ok_iff.2 ⟨ipAddress, hip, rfl⟩, rfl⟩
  · cases h

/-- What is read of a binding are the credentials on record. -/
theorem Dialect.Servers.Kept.answer_read {engine : Engine} {n : Nat} {s : Servers}
    (h : s.Kept engine n) {a : Appliance} {admin : Connection} (planSize : UInt32)
    (hadmin : DatabaseHandler.administrator ⟨engine, planSize⟩ a = .ok admin)
    (hsalt : admin.salt = a.id.text) (binding : String) :
    ∃ record, Servers.answer engine (.read admin binding) s = (.ok record, s) ∧
      record.map (DatabaseHandler.credentials admin) =
        (s.row? a.id.text binding).bind (·.credentials? engine a binding) := by
  simp only [Servers.answer, hsalt]
  cases hrow : s.row? a.id.text binding with
  | none => exact ⟨none, rfl, rfl⟩
  | some row =>
    obtain ⟨password, hp⟩ := h.loads _ _ _ hrow
    have hadmin : DatabaseHandler.administrator ⟨engine, 0⟩ a = .ok admin := hadmin
    refine ⟨some ⟨binding, row.username, password⟩, by simp only [hp]; rfl, ?_⟩
    simp only [Option.map_some, Option.bind_some, Row.credentials?, hadmin, hp]

namespace Broker

open Provider (Memory inMemory)

variable {s : BrokerSettings Memory} {w i : Duration}
  (hs : s.provider = inMemory .instant w i) {n : Nat} {b : Broker Memory}
  (handler : DatabaseHandler) {name binding : String} {network : Network}

include hs

/-- A search finds the appliance with the name, if there is one. -/
theorem Steady.exec_findOne (h : Steady n b) (engine : Engine) (name : String) :
    exec s engine (Backend.findOne name) b = (.ok (b.provider.first? name), b.searched) := by
  rw [Broker.exec_findOne hs engine name h.provider.available, h.provider.only_named]
  rfl

/-- A question about an instance is answered with the appliance. -/
theorem Steady.handle_instanceState (h : Steady n b) (name : String)
    (requested : Option Parameters) :
    handle s handler (.instanceState name requested) b =
      (.ok ((b.provider.first? name).map fun a => ⟨a, requested⟩), b.searched) := by
  show exec s handler.engine (DatabaseHandler.instanceState name requested) b = _
  rw [DatabaseHandler.instanceState, exec_bind_ok _ _ (h.exec_findOne hs _ _)]
  rfl

/-- The server of an instance is reached through its appliance. -/
theorem Steady.exec_connection (h : Steady n b) {a : Appliance} {admin : Connection}
    (ha : b.provider.first? name = some a) (hadmin : handler.administrator a = .ok admin) :
    exec s handler.engine (handler.connection name) b = (.ok admin, b.searched) := by
  rw [DatabaseHandler.connection, exec_bind_ok _ _ (h.exec_findOne hs _ _), ha]
  simp only [hadmin]
  rfl

/-- The order for an instance enters it in the ledger. -/
theorem Steady.handle_createInstance (h : Steady n b) (hn : n + 1 < 2 ^ 64)
    (hname : b.ledger.instances name = none) (p : Parameters) :
    ∃ b', handle s handler (.createInstance name p) b = (.ok (), b') ∧ Steady (n + 1) b' ∧
      b'.ledger = b.ledger.enter name p.network ∧ b'.drawn = b.drawn + 1 := by
  have free := h.first?_eq_none hname
  let order := handler.order name p (s.chance.admin b.drawn)
  let drawn : Broker Memory := { b with drawn := b.drawn + 1 }
  let after := drawn.setProvider (b.provider.create .instant order).2
  have found (name' : String) : after.provider.first? name' =
      if name' = name then some (b.provider.create .instant order).1
      else b.provider.first? name' := Memory.first?_create .instant order free name'
  refine ⟨after, ?_, ⟨h.atRest.withShared _, h.provider.create hn free, ?_⟩, ?_, rfl⟩
  · have available : drawn.provider.unavailable = false := h.provider.available
    show exec s handler.engine (handler.createInstance name p) b = _
    rw [DatabaseHandler.createInstance, exec_bind_ok _ _ (exec_drawAdmin s _ b),
      exec_bind_ok _ _ (exec_createAppliance hs _ _ available)]
    rfl
  · intro engine
    have := (h.servers engine).mono (Nat.le_succ n)
    cases engine <;> exact this
  · have kept (engine : Engine) : after.servers engine = b.servers engine := by
      cases engine <;> rfl
    ext1
    · funext name'
      simp only [ledger, found, Ledger.enter]
      split <;> rfl
    · funext engine name' binding
      simp only [ledger, found, Ledger.enter, credentials?, kept]
      split
      · rename_i hname'
        subst hname'
        -- The new appliance has a number that no server has rows for.
        have number : (b.provider.create .instant order).1.id = applianceId (n + 1) := by
          rw [applianceId_succ, ← h.provider.lastId]
          rfl
        rw [Option.bind_some, number,
          (h.servers engine).unissued _ (Nat.lt_succ_self n) hn, free]
        rfl
      · rfl

/-- The order to delete an instance strikes it from the ledger, once the background settles. -/
theorem Steady.handle_deleteInstance (h : Steady n b)
    (hname : b.ledger.instances name = some network) :
    ∃ b', handle s handler (.deleteInstance name) b = (.ok (), b') ∧ Steady n (b'.settle s) ∧
      (b'.settle s).ledger = b.ledger.strike name ∧ b'.drawn = b.drawn := by
  obtain ⟨a, ha, -⟩ := exists_appliance hname
  have present := Memory.mem_of_first? ha
  obtain ⟨up, -, staying⟩ := h.provider.up a present
  have found : b.searched.provider.get? a.id = some a := h.provider.get?_id present
  obtain ⟨atRest, removed⟩ := Deletions.settle_start hs h.searched.atRest
    h.searched.provider.available found up staying
  let started := { b.searched with deletions := (b.searched.deletions.start name a.id).2 }
  have kept (engine : Engine) : (started.settle s).servers engine = b.servers engine := by
    cases engine <;> rfl
  have left (name' : String) : (started.settle s).provider.first? name' =
      if name' = name then none else b.provider.first? name' := by
    show ((started.settle s).deletions.shared.provider).first? name' = _
    rw [show (started.settle s).deletions.shared.provider = _ from removed]
    exact Memory.first?_remove h.searched.provider ha name'
  refine ⟨started, ?_, ⟨atRest, ?_, fun engine => ?_⟩, ?_, rfl⟩
  · show exec s handler.engine (DatabaseHandler.deleteInstance name) b = _
    rw [DatabaseHandler.deleteInstance, exec_bind_ok _ _ (h.exec_findOne hs _ _), ha]
    rfl
  · show (started.settle s).deletions.shared.provider.Standing n
    rw [show (started.settle s).deletions.shared.provider = _ from removed]
    exact h.searched.provider.remove a.id
  · rw [kept]
    exact h.servers engine
  · ext1
    · funext name'
      simp only [ledger, left, Ledger.strike]
      split <;> rfl
    · funext engine name' binding
      simp only [ledger, left, Ledger.strike, credentials?, kept]
      split <;> rfl

/-- What the programs about bindings begin with: the server of the instance is reached as its
administrator, and its rows are as they were. -/
theorem Steady.exec_reach (h : Steady n b) (hname : b.ledger.instances name = some network) :
    ∃ a admin servers, b.provider.first? name = some a ∧
      handler.administrator a = .ok admin ∧ admin.salt = a.id.text ∧
      servers.Kept handler.engine n ∧
      (∀ salt binding, servers.row? salt binding = (b.servers handler.engine).row? salt binding) ∧
      ∀ {α : Type} (next : Connection → Backend.Action α),
        exec s handler.engine (do
          let admin ← handler.connection name
          Backend.dialect (.connect admin)
          next admin) b =
        exec s handler.engine (next admin) (b.searched.setServers servers handler.engine) := by
  obtain ⟨a, ha, hnetwork⟩ := exists_appliance hname
  obtain ⟨admin, hadmin, hsalt⟩ := DatabaseHandler.administrator_of_network? hnetwork handler
  have kept := h.searched.servers handler.engine
  have answered := Dialect.Servers.answer_connect handler.engine
    (b.searched.servers handler.engine) admin kept.reachable
  have rows := Dialect.Servers.row?_connect handler.engine
    (b.searched.servers handler.engine) admin
  have kept := kept.connect (c := admin)
  rw [answered] at rows kept
  refine ⟨a, admin, _, ha, hadmin, hsalt, kept, rows, fun next => ?_⟩
  have reached := exec_dialect s handler.engine answered b.searched
  rw [setServers_servers] at reached
  rw [exec_bind_ok _ _ (h.exec_connection hs handler ha hadmin), exec_bind_ok _ _ reached]

/-- A question about a binding of an instance is answered from the ledger. -/
theorem Steady.handle_bindingState (h : Steady n b)
    (hname : b.ledger.instances name = some network) (binding : String) :
    ∃ b', handle s handler (.bindingState name binding) b =
        (.ok ((b.ledger.bindings handler.engine name binding).map BindingState.mk), b') ∧
      Steady n b' ∧ b'.ledger = b.ledger ∧ b'.drawn = b.drawn := by
  obtain ⟨a, admin, servers, ha, hadmin, hsalt, kept, rows, reach⟩ := h.exec_reach hs handler hname
  refine ⟨b.searched.setServers servers handler.engine, ?_, h.searched.setServers kept, ?_, ?_⟩
  · show exec s handler.engine (handler.bindingState name binding) b = _
    rw [DatabaseHandler.bindingState, reach, ledger_bindings ha, ← rows,
      exec_bind_ok _ _ (exec_dialectStep s _ (Dialect.Servers.answer_hasTable _ _ admin)
        b.searched)]
    by_cases ht : (servers.server admin.salt).bindings.isSome
    · obtain ⟨record, read, same⟩ := kept.answer_read handler.planSize hadmin hsalt binding
      rw [if_pos ht, exec_bind_ok _ _ (exec_dialectStep s _ read b.searched), ← same]
      cases record <;> rfl
    · have none_there := Dialect.Servers.row?_eq_none_of_hasTable _ (by simpa using ht) binding
      rw [hsalt] at none_there
      rw [if_neg ht, none_there]
      rfl
  · rw [ledger_setServers]
    · rfl
    · exact fun a _ binding => rows _ _
  · rw [drawn_setServers]
    rfl

/-- The order for a binding sets it in the ledger, to credentials that are drawn for it. -/
theorem Steady.handle_createBinding (h : Steady n b)
    (hname : b.ledger.instances name = some network)
    (hbinding : b.ledger.bindings handler.engine name binding = none) :
    ∃ b' credentials, handle s handler (.createBinding name binding) b = (.ok credentials, b') ∧
      Steady n b' ∧
      b'.ledger = b.ledger.setBinding handler.engine name binding (some credentials) ∧
      credentials.username = (s.chance.binding b.drawn).username.text ∧
      credentials.password = (s.chance.binding b.drawn).password.text ∧
      b'.drawn = b.drawn + 1 := by
  obtain ⟨a, admin, servers, ha, hadmin, hsalt, kept, rows, reach⟩ := h.exec_reach hs handler hname
  let draw := s.chance.binding b.drawn
  let record := draw.record binding
  let prepared := (Dialect.Servers.answer handler.engine (.prepare admin) servers).2
  have preparing : Dialect.Servers.answer handler.engine (.prepare admin) servers =
    (.ok (), prepared) := rfl
  have table := Dialect.Servers.isSome_bindings_prepare handler.engine servers admin
  have rows (salt binding : String) :
      prepared.row? salt binding = (b.servers handler.engine).row? salt binding :=
    (Dialect.Servers.row?_prepare _ _ _ _ _).trans (rows _ _)
  have kept : prepared.Kept handler.engine n := kept.prepare
  -- No row is read, because one would stand for credentials on record.
  obtain ⟨found, read, same⟩ := kept.answer_read handler.planSize hadmin hsalt binding
  rw [ledger_bindings ha, ← rows, ← same, Option.map_eq_none_iff] at hbinding
  rw [hbinding] at read
  let after := (Dialect.Servers.answer handler.engine (.create admin binding draw) prepared).2
  have creating : Dialect.Servers.answer handler.engine (.create admin binding draw) prepared =
    (.ok record, after) :=
    Prod.ext (Dialect.Servers.answer_create handler.engine prepared admin binding draw table) rfl
  obtain ⟨k, hk, hid⟩ := h.provider.issued a (Memory.mem_of_first? ha)
  have kept : after.Kept handler.engine n := kept.create hk (by rw [hsalt, hid]) table draw
  let drawn : Broker Memory := { b.searched with drawn := b.drawn + 1 }
  have same_servers (engine : Engine) : drawn.servers engine = b.servers engine := by
    cases engine <;> rfl
  have drawing : exec s handler.engine Backend.drawBinding
      (b.searched.setServers prepared handler.engine) =
        (.ok draw, drawn.setServers prepared handler.engine) := exec_drawBinding s _ _ _
  have hdrawn : Steady n drawn := h.searched.withDrawn _
  refine ⟨drawn.setServers after handler.engine, DatabaseHandler.credentials admin record, ?_,
    hdrawn.setServers kept, ?_, rfl, rfl, drawn_setServers _ _ _⟩
  · show exec s handler.engine (handler.createBinding name binding) b = _
    rw [DatabaseHandler.createBinding, reach, exec_bind_ok _ _ (exec_dialectStep s _ preparing _),
      exec_bind_ok _ _ (exec_dialectStep s _ read _),
      exec_bind_ok _ _ drawing,
      exec_bind_ok _ _ (exec_dialectStep s _ creating _)]
    rfl
  · let row : Dialect.Row := ⟨draw.username.text,
      Dialect.storedPassword handler.engine a.id.text draw.nonce draw.password.text⟩
    have left (salt binding' : String) : after.row? salt binding' =
        if salt = a.id.text ∧ binding' = binding then some row
        else (drawn.servers handler.engine).row? salt binding' := by
      rw [Dialect.Servers.row?_create handler.engine prepared admin binding draw table,
        hsalt, rows, same_servers]
    rw [hdrawn.ledger_setRow ha left, Option.bind_some,
      Dialect.Row.credentials?_new hadmin binding draw]
    rfl

/-- The order to remove a binding removes it from the ledger. -/
theorem Steady.handle_deleteBinding (h : Steady n b)
    (hname : b.ledger.instances name = some network) (binding : String) :
    ∃ b', handle s handler (.deleteBinding name binding) b = (.ok (), b') ∧ Steady n b' ∧
      b'.ledger = b.ledger.setBinding handler.engine name binding none ∧ b'.drawn = b.drawn := by
  obtain ⟨a, admin, servers, ha, hadmin, hsalt, kept, rows, reach⟩ := h.exec_reach hs handler hname
  -- Whatever was there, afterwards there is no row and the other rows are as they were.
  suffices ∃ after : Dialect.Servers, after.Kept handler.engine n ∧
      (∀ salt binding', after.row? salt binding' =
        if salt = a.id.text ∧ binding' = binding then none
        else (b.servers handler.engine).row? salt binding') ∧
      exec s handler.engine (handler.deleteBinding name binding) b =
        (.ok (), b.searched.setServers after handler.engine) by
    obtain ⟨after, hafter, left, done⟩ := this
    exact ⟨_, done, h.searched.setServers hafter, h.searched.ledger_setRow ha left,
      drawn_setServers _ _ _⟩
  rw [DatabaseHandler.deleteBinding, reach,
    exec_bind_ok _ _ (exec_dialectStep s _ (Dialect.Servers.answer_hasTable _ _ admin) b.searched)]
  have absent (hr : servers.row? a.id.text binding = none) (salt binding' : String) :
      servers.row? salt binding' = if salt = a.id.text ∧ binding' = binding then none
        else (b.servers handler.engine).row? salt binding' := by
    split
    · rename_i hsame
      rw [hsame.1, hsame.2, hr]
    · exact rows _ _
  by_cases ht : (servers.server admin.salt).bindings.isSome
  · rw [if_pos ht, exec_bind_ok _ _
      (exec_dialectStep s _ (Dialect.Servers.answer_readUser _ _ admin binding) b.searched), hsalt]
    cases hrow : servers.row? a.id.text binding with
    | none => exact ⟨servers, kept, absent hrow, rfl⟩
    | some row =>
      refine ⟨_, kept.delete row.username, fun salt binding' => ?_,
        exec_dialectStep s _ rfl b.searched⟩
      rw [Dialect.Servers.row?_delete, hsalt, rows]
  · have none_there := Dialect.Servers.row?_eq_none_of_hasTable _ (by simpa using ht) binding
    rw [hsalt] at none_there
    rw [if_neg ht]
    exact ⟨servers, kept, absent none_there, rfl⟩

end Broker
end ServiceBroker

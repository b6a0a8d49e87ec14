/-
# A handler on a SQL server

`Broker.sql_mirrors_memory`: whatever is asked about the bindings of an instance, in any order,
is answered alike by a broker in memory and by one whose bindings live on a SQL server, and both
hold the same bindings afterwards.  The programs of a handler are twins on brokers that are kin
(`Scene.twins_bindingState` and its neighbours), and leave them kin.
-/

import ServiceBroker.Proofs.Kinship

namespace ServiceBroker

open Dialect (Servers)
open Provider (Memory inMemory)
open Sql (Host)

namespace Scene

variable {scene : Scene} {n m : Nat} {b : Broker Memory} {x : Broker Memory × Host}

section Programs

/-- The appliance of the instance is found on both sides, or the search fails on both. -/
theorem twins_connection (le : n ≤ m) :
    Twins scene.settings scene.engine (scene.Kin m) (scene.Kin n)
      (DatabaseHandler.connection scene.handler scene.name)
      fun admin b x => admin = scene.admin ∧ scene.Kin n b x := by
  intro b x kin
  have same : x.1.provider = b.provider := congrArg (·.shared.provider) kin.deletions
  let found := Memory.answer scene.mode (.find scene.name) b.provider
  have memory := Broker.exec_connection scene.provider scene.handler scene.name b
  have sql := Broker.execOn_connection scene.provider scene.handler scene.name x
  rw [same] at sql
  refine ⟨scene.handler.connected scene.name found.1, b.setProvider found.2,
    (x.1.setProvider found.2, x.2), memory, sql, ?_⟩
  -- The provider is unavailable, or it shows the one appliance and counts the search.
  by_cases unavailable : b.provider.unavailable = true
  · have failed : found = (.error Memory.unavailableError, b.provider) := if_pos unavailable
    rw [failed]
    exact (kin.setProvider rfl).mono le
  · have shown : found = (.ok (b.provider.named scene.name), b.searched.provider) :=
      if_neg unavailable
    have kept : scene.Kin n (b.setProvider b.searched.provider)
      (x.1.setProvider b.searched.provider, x.2) := kin.setProvider rfl
    rw [shown, kin.named]
    show ends _ _ (scene.handler.administrator scene.appliance) _ _
    unfold DatabaseHandler.administrator
    cases address : scene.appliance.ipAddress with
    | none => exact kept.mono le
    | some ip =>
      refine ⟨?_, kept⟩
      simp only [admin, Appliance.admin, address]
      rfl

/-- A draw of chance is for a user who is nobody yet. -/
theorem twins_draw (last : n < scene.limit) (binding : String) :
    Twins scene.settings scene.engine (scene.Kin m)
      (fun b x => scene.Linked n b x ∧ scene.Tabled b ∧ scene.row? b binding = none)
      Backend.drawBinding
      fun draw b x => scene.Linked (n + 1) b x ∧ scene.Tabled b ∧ scene.row? b binding = none ∧
        draw.username.text ∉ x.2.accounts.keys ∧ draw.username.text ∉ x.2.databases.keys ∧
        ∀ k, b.drawn ≤ k → k < scene.limit → scene.user k ≠ draw.username.text := by
  rintro b x ⟨⟨kin, reached⟩, table, unbound⟩
  let drawn : Broker Memory := { b with drawn := b.drawn + 1 }
  have same : drawn.servers scene.engine = b.servers scene.engine := by
    cases scene.engine <;> rfl
  have now : b.drawn < scene.limit := Nat.lt_of_le_of_lt kin.count last
  obtain ⟨unknown, unmade⟩ := kin.free b.drawn (Nat.le_refl _) now
  refine ⟨.ok (scene.settings.chance.binding b.drawn), drawn,
    ({ x.1 with drawn := x.1.drawn + 1 }, x.2), rfl, ?_,
    ⟨⟨?_, reached⟩, ?_, ?_, unknown, unmade, ?_⟩⟩
  · rw [← kin.drawn]
    rfl
  · exact {
      deletions := kin.deletions
      drawn := congrArg (· + 1) kin.drawn
      begun := Nat.le_succ_of_le kin.begun
      count := Nat.succ_le_succ kin.count
      named := kin.named
      reachable := by rw [same]; exact kin.reachable
      mirrors := by rw [same]; exact kin.mirrors
      free := fun k first => kin.free k (Nat.le_of_succ_le first) }
  · rw [Tabled, same]
    exact table
  · rw [row?, same]
    exact unbound
  · intro k first last taken
    have is := scene.distinct k b.drawn (Nat.le_trans kin.begun (Nat.le_of_succ_le first)) last
      kin.begun now taken
    have first : b.drawn + 1 ≤ k := first
    omega

/-- What the programs about bindings begin with. -/
theorem twins_reach (le : n ≤ m) {α : Type} {next : Connection → Backend.Action α}
    {after : α → Between Memory} (rest : Twins scene.settings scene.engine (scene.Kin m)
      (scene.Linked n) (next scene.admin) after) :
    Twins scene.settings scene.engine (scene.Kin m) (scene.Kin n) (do
      let admin ← DatabaseHandler.connection scene.handler scene.name
      Backend.dialect (.connect admin)
      next admin) after := by
  refine (twins_connection le).bind fun admin => ?_
  rintro b x ⟨rfl, kin⟩
  exact ((Twins.dialect alike_connect).bind fun _ => rest) b x kin

/-- **A binding is looked up alike.** -/
theorem twins_bindingState (binding : String) :
    Twins scene.settings scene.engine (scene.Kin n) (scene.Kin n)
      (DatabaseHandler.bindingState scene.handler scene.name binding)
      fun _ => scene.Kin n := by
  refine twins_reach (Nat.le_refl n) ?_
  refine (Twins.dialectStep alike_hasTable).bind fun there => ?_
  cases there with
  | false => exact .pure fun b x h => h.1.1
  | true =>
    refine ((Twins.dialectStep (alike_read (Nat.le_refl n) binding)).given
      fun b x h => ⟨h.1, h.2.1 rfl⟩).bind fun record => ?_
    exact .pure fun b x h => h.1.1

/-- **A binding is made alike**, or is there on both sides. -/
theorem twins_createBinding (last : n < scene.limit) (binding : String) :
    Twins scene.settings scene.engine (scene.Kin (n + 1)) (scene.Kin n)
      (DatabaseHandler.createBinding scene.handler scene.name binding)
      fun _ => scene.Kin (n + 1) := by
  have le : n ≤ n + 1 := Nat.le_succ n
  refine twins_reach le ?_
  refine (Twins.dialectStep alike_prepare).bind fun _ => ?_
  refine (Twins.dialectStep (alike_read le binding)).bind fun record => ?_
  cases record with
  | some record =>
    exact .throw fun b x h => h.1.1.mono le
  | none =>
    refine ((twins_draw last binding).given fun b x h => ⟨h.1, h.2.1, h.2.2 rfl⟩).bind
      fun draw => ?_
    exact (Twins.dialectStep (alike_create binding draw)).bind fun _ => .pure fun _ _ => id

/-- **A binding is removed alike.** -/
theorem twins_deleteBinding (binding : String) :
    Twins scene.settings scene.engine (scene.Kin n) (scene.Kin n)
      (DatabaseHandler.deleteBinding scene.handler scene.name binding)
      fun _ => scene.Kin n := by
  refine twins_reach (Nat.le_refl n) ?_
  refine (Twins.dialectStep alike_hasTable).bind fun there => ?_
  cases there with
  | false => exact .pure fun b x h => h.1.1
  | true =>
    refine ((Twins.dialectStep (alike_readUser (n := n) binding)).given
      fun b x h => ⟨h.1, h.2.1 rfl⟩).bind fun username => ?_
    cases username with
    | none => exact .pure fun b x h => h.1.1
    | some username => exact .dialectStep (alike_delete binding username)

end Programs

section Runs

/-- What holds after a program holds after a call that it answers. -/
theorem kin_of_twins {before : Between Memory} {call : Handler.Call}
    {p : Backend.Action call.Result}
    (program : DatabaseHandler.answer scene.handler call = p)
    (twins : Twins scene.settings scene.engine (scene.Kin m) before p fun _ => scene.Kin m)
    (holds : before b x) :
    ∃ result b' x', (Broker.handle scene.settings scene.handler call).run b = (result, b') ∧
      (Broker.handleOn scene.settings scene.handler call).run x = (result, x') ∧
      scene.Kin m b' x' := by
  obtain ⟨result, b', x', memory, sql, kin⟩ := twins b x holds
  subst program
  refine ⟨result, b', x', memory, sql, ?_⟩
  cases result <;> exact kin

/-- **A question about a binding is answered alike**, and takes one draw of chance at most. -/
theorem kin_handle {call : Handler.Call} (about : call.OfBinding scene.name)
    (last : n < scene.limit) (kin : scene.Kin n b x) :
    ∃ result b' x', (Broker.handle scene.settings scene.handler call).run b = (result, b') ∧
      (Broker.handleOn scene.settings scene.handler call).run x = (result, x') ∧
      scene.Kin (n + 1) b' x' := by
  have le : n ≤ n + 1 := Nat.le_succ n
  cases about with
  | bindingState binding =>
    exact kin_of_twins rfl (twins_bindingState binding) (kin.mono le)
  | createBinding binding =>
    exact kin_of_twins rfl (twins_createBinding last binding) kin
  | deleteBinding binding =>
    exact kin_of_twins rfl (twins_deleteBinding binding) (kin.mono le)

variable (scene)

/-- **So are all of them, one after another.** -/
theorem kin_handleAll {calls : List Handler.Call}
    (about : ∀ call ∈ calls, call.OfBinding scene.name)
    (last : n + calls.length ≤ scene.limit) (kin : scene.Kin n b x) :
    ∃ results b' x',
      (Handler.answerAll (Broker.handle scene.settings scene.handler) calls).run b =
        (results, b') ∧
      (Handler.answerAll (Broker.handleOn scene.settings scene.handler) calls).run x =
        (results, x') ∧
      scene.Kin (n + calls.length) b' x' := by
  induction calls generalizing n b x with
  | nil => exact ⟨[], b, x, rfl, rfl, kin⟩
  | cons call rest ih =>
    obtain ⟨this, others⟩ := List.forall_mem_cons.1 about
    have next : n + 1 + rest.length ≤ scene.limit := by
      rw [Nat.add_assoc, Nat.add_comm 1]
      exact last
    obtain ⟨result, b₁, x₁, memory, sql, kin⟩ := kin_handle this (by omega) kin
    obtain ⟨results, b₂, x₂, memory', sql', kin⟩ := ih others next kin
    refine ⟨⟨call, result⟩ :: results, b₂, x₂, ?_, ?_, ?_⟩
    · exact Handler.answerAll_cons memory memory'
    · exact Handler.answerAll_cons sql sql'
    · rw [List.length_cons, Nat.add_comm rest.length, ← Nat.add_assoc]
      exact kin

end Runs

end Scene

/-- **A handler on a SQL server does what it does in memory.**  For an appliance whose administrator
has a name of letters, digits and underscores, a server in memory and a SQL server of either engine
that know of no binding yet, and draws of chance that give every user a new name: whatever is asked
about the bindings of the instance, call after call, the answers are the same, and after any number
of calls both have the same bindings. -/
theorem Broker.sql_mirrors_memory {s : BrokerSettings Memory} {mode : Provider.BootMode}
    {w i : Duration} (hs : s.provider = inMemory mode w i) (handler : DatabaseHandler)
    {name : String} {b : Broker Memory} {a : Appliance} (named : b.provider.named name = [a])
    (word : Sql.isWord a.defaultUser = true)
    (reachable : (b.servers handler.engine).unreachable = false)
    (unbound : (b.servers handler.engine).server a.id.text = {}) {host : Host}
    (account : host.accounts.get? a.defaultUser = some a.userPassword) {owner : String}
    (home : host.databases.get? a.defaultUser = some { owner }) {calls : List Handler.Call}
    (about : ∀ call ∈ calls, call.OfBinding name)
    (fresh : ∀ k, b.drawn ≤ k → k < b.drawn + calls.length →
      (s.chance.binding k).username.text ∉ host.accounts.keys ∧
        (s.chance.binding k).username.text ∉ host.databases.keys)
    (distinct : ∀ j k, b.drawn ≤ j → j < b.drawn + calls.length → b.drawn ≤ k →
      k < b.drawn + calls.length →
      (s.chance.binding j).username.text = (s.chance.binding k).username.text → j = k) :
    ∃ results b' x', (Handler.answerAll (handle s handler) calls).run b = (results, b') ∧
      (Handler.answerAll (handleOn s handler) calls).run (b, host) = (results, x') ∧
      Dialect.SameBindings handler.engine host.databases.keys (a.admin handler.engine)
        ((b'.servers handler.engine).server a.id.text) x'.2 := by
  let scene : Scene := {
    settings := s
    mode
    wait := w
    interval := i
    provider := hs
    handler
    name
    appliance := a
    word
    base := host.databases.keys
    first := b.drawn
    limit := b.drawn + calls.length
    distinct }
  have kin : scene.Kin b.drawn b (b, host) := {
    deletions := rfl
    drawn := rfl
    begun := Nat.le_refl _
    count := Nat.le_refl _
    named
    reachable
    mirrors := by
      show Dialect.Mirrors handler.engine _ _ ((b.servers handler.engine).server a.id.text) host
      rw [unbound]
      exact .empty account home
    free := fresh }
  obtain ⟨results, b', x', memory, sql, kin⟩ := scene.kin_handleAll about (Nat.le_refl _) kin
  exact ⟨results, b', x', memory, sql, kin.mirrors.sameBindings⟩

/-- A binding is made, found to be there already, looked up and removed, and another one is made. -/
theorem Broker.sql_mirrors_memory_of_two_bindings :
    let s := inMemorySettings .instant .counting
    let handler : DatabaseHandler := ⟨.postgreSql, 1⟩
    let a := Memory.boot .instant (applianceId 1) (.plain "a")
    let b := Broker.start (Memory.create .instant (.plain "a") {}).2
    let host : Host := {
      databases := Table.empty.put "root" { owner := "root" }
      accounts := Table.empty.put "root" "secret" }
    let calls : List Handler.Call := [.createBinding "a" "b", .createBinding "a" "b",
      .bindingState "a" "b", .deleteBinding "a" "b", .createBinding "a" "c"]
    ∃ results b' x', (Handler.answerAll (handle s handler) calls).run b = (results, b') ∧
      (Handler.answerAll (handleOn s handler) calls).run (b, host) = (results, x') ∧
      Dialect.SameBindings handler.engine host.databases.keys (a.admin handler.engine)
        ((b'.servers handler.engine).server a.id.text) x'.2 ∧
      x'.2.databases.keys = ["root", (s.chance.binding 1).username.text] ∧
      x'.2.accounts.keys.length = 3 := by
  intro s handler a b host calls
  have about : ∀ call ∈ calls, call.OfBinding "a" := by
    simp only [calls, List.forall_mem_cons]
    exact ⟨.createBinding _, .createBinding _, .bindingState _, .deleteBinding _, .createBinding _,
      List.forall_mem_nil _⟩
  have settings : s.provider =
      inMemory .instant Provider.memoryWaitTimeout Provider.memoryPollInterval := rfl
  have word : Sql.isWord a.defaultUser = true := by decide +kernel
  have named : b.provider.named "a" = [a] := rfl
  have reachable : (b.servers handler.engine).unreachable = false := rfl
  have unbound : (b.servers handler.engine).server a.id.text = {} := rfl
  have account : host.accounts.get? a.defaultUser = some a.userPassword := rfl
  have home : host.databases.get? a.defaultUser = some { owner := "root" } := rfl
  have fresh : ∀ k < 5, (s.chance.binding k).username.text ∉ host.accounts.keys ∧
      (s.chance.binding k).username.text ∉ host.databases.keys := by decide +kernel
  have distinct : ∀ j < 5, ∀ k < 5,
      (s.chance.binding j).username.text = (s.chance.binding k).username.text → j = k := by
    decide +kernel
  have few {k : Nat} (less : k < b.drawn + calls.length) : k < 5 := less
  obtain ⟨results, b', x', memory, sql, same⟩ := sql_mirrors_memory settings handler named word
    reachable unbound account home about (fun k _ less => fresh k (few less))
    (fun j k _ hj _ hk => distinct j (few hj) k (few hk))
  let after := ((Handler.answerAll (handleOn s handler) calls).run (b, host)).2.2
  have databases : after.databases.keys = ["root", (s.chance.binding 1).username.text] := by
    decide +kernel
  have accounts : after.accounts.keys.length = 3 := by decide +kernel
  have last : after = x'.2 := congrArg (·.2.2) sql
  rw [last] at databases accounts
  exact ⟨results, b', x', memory, sql, same, databases, accounts⟩

end ServiceBroker

/-
# The lives of an instance

A name is provisioned, given up and provisioned again, each time as another appliance.  The
database server of an appliance that was deleted is never removed, and it is told from the
others only by the number of the appliance.

A request goes to no other server than that of the appliance which it found last
(`DatabaseHandler.keeps_answer`), every row on a server goes back to a request that made it
there (`Traffic.Course.traced`), and no number is given twice before the numbers come round.
So credentials are never those of another life of an instance
(`Traffic.credentials_of_one_life`).
-/

import ServiceBroker.Proofs.Courses

namespace ServiceBroker

open Program (Asked Keeps)

namespace Traffic

open Backend (found lastFound?)
open DatabaseHandler (credentials)
open Dialect (Servers storedPassword)
open Provider (Memory inMemory)

section Lives

variable {s : BrokerSettings Memory} {events before after : List (Event Memory)} {e : Event Memory}
  {t t' : Traffic Memory Told} {b : Broker Memory} {engine : Engine} {id : ApplianceId}
  {binding : String} {draw : Dialect.Draw} {r : Nat}

/-- A request that had found the appliance with this number last made the binding on its server,
with a user and a password that it had drawn for it. -/
def Generated (events : List (Event Memory)) (engine : Engine) (id : ApplianceId)
    (binding : String) (draw : Dialect.Draw) : Prop :=
  ∃ before after r name, ∃ h : DatabaseHandler, ∃ a admin,
    events = before ++
      .asked r (.dialect (.create admin binding draw)) (.ok (draw.record binding)) :: after ∧
    h.engine = engine ∧ a.id = id ∧ h.Located name (askedBy r before) a admin ∧
    ⟨.drawBinding, draw⟩ ∈ askedBy r before

/-- A binding that was generated stays generated. -/
theorem Generated.append (made : Generated before engine id binding draw)
    (after : List (Event Memory)) : Generated (before ++ after) engine id binding draw := by
  obtain ⟨first, last, r, name, h, a, admin, rfl, rest⟩ := made
  exact ⟨first, last ++ after, r, name, h, a, admin, by simp, rest⟩

/-- What a request hands out is accounted for by what it asked. -/
def Accounted (h : DatabaseHandler) (asked : List (Asked Backend.interface)) (told : Told) : Prop :=
  ∀ handout, told.handout? = some handout → h.Accounts asked handout

/-- A request on its way keeps to the rules of its handler. -/
theorem Course.keeps (course : Course (everyone s) ⟨b, []⟩ events t) {u : Underway Told}
    (hu : t.requests[r]? = some u) : ∃ h : DatabaseHandler, u.engine = h.engine ∧
      Keeps h.May (Accounted h) (askedBy r events) u.program := by
  obtain ⟨p, ⟨h, arrived⟩, leads⟩ := (course.led r).2 u hu
  have keeps : Keeps h.May (Accounted h) [] p := by
    rcases arrived with ⟨request, is⟩ | ⟨call, is⟩
    · obtain ⟨-, rfl⟩ := Underway.mk.inj is
      exact (h.keeps_perform request).bind fun _ _ accounts => accounts
    · obtain ⟨-, rfl⟩ := Underway.mk.inj is
      exact (DatabaseHandler.keeps_answer call).bind fun _ _ accounts => accounts
  have engine : u.engine = h.engine := by
    rcases arrived with ⟨request, is⟩ | ⟨call, is⟩
    · exact (Underway.mk.inj is).1
    · exact (Underway.mk.inj is).1
  exact ⟨h, engine, keeps.of_leads leads⟩

/-- A request that asks a server something has found its appliance last. -/
theorem Course.directed (course : Course (everyone s) ⟨b, []⟩ events t) {call : Dialect.Call}
    {next : call.Answer → Program Backend.interface Told}
    (asks : t.requests[r]? =
      some ⟨engine, .ask (I := Backend.interface) (.dialect call) next⟩) :
    ∃ h : DatabaseHandler, engine = h.engine ∧ h.Directed (askedBy r events) call := by
  obtain ⟨h, is, keeps⟩ := course.keeps asks
  exact ⟨h, is, keeps.1 call rfl⟩

/-- **A step leaves a row as it was, or it makes the binding** for the appliance that its request
found last. -/
theorem Course.row_step (course : Course (everyone s) ⟨b, []⟩ events t)
    (step : Step (everyone s) t e t') {salt : String} {row : Dialect.Row}
    (there : (t'.broker.servers engine).row? salt binding = some row) :
    (t.broker.servers engine).row? salt binding = some row ∨ ∃ id draw, salt = id.text ∧
      Generated (events ++ [e]) engine id binding draw ∧
      row = ⟨draw.username.text, storedPassword engine salt draw.nonce draw.password.text⟩ := by
  cases step with
  | @ask r engine' call next asks =>
    cases call with
    | dialect call =>
      change ((t.broker.setServers (Servers.answer engine' call (t.broker.servers engine')).2
        engine').servers engine).row? salt binding = some row at there
      rw [Broker.servers_setServers] at there
      split_ifs at there with same
      · subst same
        rcases Servers.row?_answer there with before | ⟨c, draw, rfl, rfl, answered, rfl⟩
        · exact .inl before
        · obtain ⟨h, is, directed⟩ := course.directed asks
          obtain ⟨name, a, located⟩ := directed.located
          refine .inr ⟨a.id, draw, located.salt, ?_, rfl⟩
          have made : (t.reply (everyone s) engine (.dialect (.create c binding draw))).1 =
              .ok (draw.record binding) := answered
          rw [made]
          exact ⟨events, [], r, name, h, a, c, rfl, is.symm, rfl, located,
            directed.drawn c binding draw rfl⟩
      · exact .inl there
    | _ => exact .inl (by cases engine <;> exact there)
  | _ => exact .inl (by cases engine <;> exact there)

/-- **What holds after every step.**  Each row goes back to a request that made it, no appliance
is shown or was found that was not created, and the numbers count up. -/
structure Traced (events : List (Event Memory)) (t : Traffic Memory Told) : Prop where
  rows : ∀ engine salt binding row, (t.broker.servers engine).row? salt binding = some row →
    ∃ id draw, salt = id.text ∧ Generated events engine id binding draw ∧
      row = ⟨draw.username.text, storedPassword engine salt draw.nonce draw.password.text⟩
  numbers : born events = (List.range (born events).length).map fun k => applianceId (k + 1)
  lastId : t.broker.provider.lastId = applianceId (born events).length
  shown : ∀ id, (t.broker.provider.get? id).isSome → id ∈ born events
  found : ∀ r name a, found name a ∈ askedBy r events → a.id ∈ born events

/-- Before the first step there is no row to be traced. -/
theorem traced_start : Traced [] ⟨Broker.start {}, []⟩ where
  rows engine salt binding row there := by cases engine <;> cases there
  numbers := rfl
  lastId := rfl
  shown id there := by cases there
  found r name a searched := by cases searched

variable {mode : Provider.BootMode} {w i : Duration}

/-- A search finds what the provider shows. -/
theorem Step.shows (hs : s.provider = inMemory mode w i) {name : String} {a : Appliance}
    (step : Step (everyone s) t (.asked r (.provider (.find name)) (.ok [a])) t') :
    (t.broker.provider.get? a.id).isSome := by
  obtain ⟨engine, next, -, answered⟩ := step.answered
  rw [reply_provider hs, Memory.answer] at answered
  split_ifs at answered
  have named : t.broker.provider.named name = [a] := (Except.ok.inj answered).symm
  have there : a ∈ t.broker.provider.named name := by
    rw [named]
    exact List.mem_cons_self
  exact (Memory.isSome_get?_iff _ _).2 (List.mem_map_of_mem (List.mem_of_mem_filter there))

/-- **Every step keeps the traces.** -/
theorem Traced.step (hs : s.provider = inMemory mode w i) (traced : Traced events t)
    (course : Course (everyone s) ⟨b, []⟩ events t) (step : Step (everyone s) t e t') :
    Traced (events ++ [e]) t' where
  rows engine salt binding row there := by
    rcases course.row_step step there with before | made
    · obtain ⟨id, draw, is, generated, rfl⟩ := traced.rows engine salt binding row before
      exact ⟨id, draw, is, generated.append [e], rfl⟩
    · exact made
  numbers := by
    rw [born_snoc]
    cases step.growth hs with
    | none unborn lastId known => simpa [unborn] using traced.numbers
    | one born lastId known =>
      have next : t'.broker.provider.lastId = applianceId ((Traffic.born events).length + 1) := by
        rw [lastId, traced.lastId, applianceId_succ]
      rw [born, Option.toList_some, List.length_append, List.length_singleton, List.range_succ,
        List.map_append, ← traced.numbers, List.map_singleton, next]
  lastId := by
    rw [born_snoc]
    cases step.growth hs with
    | none unborn lastId known => simpa [unborn] using lastId.trans traced.lastId
    | one born lastId known =>
      rw [born, Option.toList_some, List.length_append, List.length_singleton, lastId,
        traced.lastId, applianceId_succ]
  shown id there := by
    rw [born_snoc, List.mem_append]
    cases step.growth hs with
    | none unborn lastId known => exact .inl (traced.shown id (known id there))
    | one born lastId known =>
      rcases known id there with before | rfl
      · exact .inl (traced.shown id before)
      · exact .inr (by simp [born])
  found r name a searched := by
    rw [born_append, List.mem_append]
    rw [askedBy_snoc, List.mem_append] at searched
    rcases searched with before | now
    · exact .inl (traced.found r name a before)
    · have asks : e.askedBy? r = some (Backend.found name a) := by simpa using now
      obtain rfl := Event.eq_of_askedBy? asks
      exact .inl (traced.shown a.id (step.shows hs))

/-- **Every row and every number is traced, at any time.** -/
theorem Course.traced (hs : s.provider = inMemory mode w i)
    (course : Course (everyone s) ⟨Broker.start {}, []⟩ events t) : Traced events t := by
  induction course with
  | start => exact traced_start
  | step course step ih => exact ih.step hs course step
  | @switch events t₁ course engine unreachable ih =>
    -- No row is another when a server can be reached or not.
    have rows (engine' : Engine) (salt binding : String) :
        ((t₁.switch engine unreachable).broker.servers engine').row? salt binding =
          (t₁.broker.servers engine').row? salt binding := by
      rw [Traffic.switch, Broker.servers_setServers]
      split_ifs with same
      · rw [same]
        rfl
      · rfl
    have provider : (t₁.switch engine unreachable).broker.provider = t₁.broker.provider :=
      Broker.provider_setServers _ _ _
    refine ⟨fun engine' salt binding row there => ?_, ih.numbers, ?_, fun id there => ?_, ih.found⟩
    · rw [rows] at there
      exact ih.rows engine' salt binding row there
    · rw [provider]
      exact ih.lastId
    · rw [provider] at there
      exact ih.shown id there

/-- What a request was told by a server is from that of the appliance which it had found last, as the
server stood then. -/
theorem Course.told_by_server (course : Course (everyone s) ⟨b, []⟩ events t) {call : Dialect.Call}
    {answer : call.Answer} (told : ⟨.dialect call, answer⟩ ∈ askedBy r events) :
    ∃ before after t₁, ∃ h : DatabaseHandler,
      events = before ++ .asked r (.dialect call) answer :: after ∧
      Course (everyone s) ⟨b, []⟩ before t₁ ∧ h.Directed (askedBy r before) call ∧
      answer = (Servers.answer h.engine call (t₁.broker.servers h.engine)).1 := by
  obtain ⟨before, after, rfl⟩ := split_of_mem_askedBy told
  obtain ⟨t₁, t₂, earlier, step⟩ := course.split
  obtain ⟨engine, next, asks, answered⟩ := step.answered
  obtain ⟨h, rfl, directed⟩ := earlier.directed asks
  exact ⟨before, after, t₁, h, rfl, earlier, directed, answered⟩

/-- A record that a request read or made was generated for the appliance that it had found. -/
theorem Course.generated (hs : s.provider = inMemory mode w i)
    (course : Course (everyone s) ⟨Broker.start {}, []⟩ events t) {admin : Connection}
    {record : BindingRecord}
    (told : ⟨.dialect (.read admin binding), .ok (some record)⟩ ∈ askedBy r events ∨
      ∃ draw, ⟨.dialect (.create admin binding draw), .ok record⟩ ∈ askedBy r events) :
    ∃ id draw, admin.salt = id.text ∧ Generated events admin.engine id binding draw ∧
      record = draw.record binding := by
  rcases told with seen | ⟨draw, made⟩
  · obtain ⟨before, after, t₁, h, rfl, earlier, directed, answered⟩ := course.told_by_server seen
    obtain ⟨name, a, located⟩ := directed.located
    have engine : admin.engine = h.engine :=
      DatabaseHandler.engine_of_administrator located.reached
    obtain ⟨row, there, password, opened, rfl⟩ := Servers.exists_row_of_recorded answered.symm
    obtain ⟨id, draw, salt, generated, rfl⟩ := (earlier.traced hs).rows _ _ _ row there
    refine ⟨id, draw, salt, ?_, ?_⟩
    · rw [engine]
      exact generated.append _
    · rw [Dialect.loadedPassword_storedPassword] at opened
      rw [← Except.ok.inj opened]
      rfl
  · obtain ⟨before, after, t₁, h, rfl, -, directed, answered⟩ := course.told_by_server made
    obtain ⟨name, a, located⟩ := directed.located
    have engine : admin.engine = h.engine :=
      DatabaseHandler.engine_of_administrator located.reached
    obtain rfl := Servers.record_of_create answered.symm
    have drawn := directed.drawn admin binding draw rfl
    exact ⟨a.id, draw, located.salt,
      ⟨before, after, r, name, h, a, admin, rfl, engine.symm, rfl, located, drawn⟩, rfl⟩

/-- A row of a server says that its appliance was created. -/
theorem Course.born_of_generated (hs : s.provider = inMemory mode w i)
    (course : Course (everyone s) ⟨Broker.start {}, []⟩ events t)
    (generated : Generated events engine id binding draw) : id ∈ born events := by
  obtain ⟨before, after, r, name, h, a, admin, rfl, -, rfl, located, -⟩ := generated
  obtain ⟨t₁, t₂, earlier, -⟩ := course.split
  rw [born_append, List.mem_append]
  exact .inl ((earlier.traced hs).found r name a (Backend.mem_of_lastFound? located.found))

/-- Until the numbers come round, no appliance has the number of another one. -/
theorem Traced.fresh (traced : Traced (events ++ [e]) t') (born : e.born? = some id)
    (few : (Traffic.born (events ++ [e])).length < 2 ^ 64) : id ∉ Traffic.born events := by
  have distinct : (Traffic.born (events ++ [e])).Nodup := by
    rw [traced.numbers]
    refine List.nodup_range.map_on fun j hj k hk same => ?_
    rw [List.mem_range] at hj hk
    have := applianceId_injective (by omega) (by omega) same
    omega
  rw [born_snoc, born, Option.toList_some] at distinct
  intro before
  exact (List.nodup_append.1 distinct).2.2 id before id List.mem_cons_self rfl

/-- A server is as before when an appliance is created. -/
theorem Step.servers_of_born (step : Step (everyone s) t e t') (born : e.born? = some id) :
    t'.broker.servers engine = t.broker.servers engine := by
  cases step with
  | @ask r engine' call next asks =>
    cases call with
    | dialect call => cases born
    | _ => cases engine <;> rfl
  | _ => cases engine <;> rfl

/-- **Credentials are never those of another life of an instance.**  Over a provider in memory, and
in any order of the steps of requests, calls to handlers and deletions, while the provider changes
of itself and database servers become unreachable and reachable again: credentials that are handed
out for a binding of an instance have the address of the appliance that was found last under its
name, and user and password were drawn by a request that made this binding on a server of the
same engine when it had found the appliance with the same number.  And when an appliance is
created, no server has a row for its number, until the numbers come round. -/
theorem credentials_of_one_life (hs : s.provider = inMemory mode w i)
    (course : Course (everyone s) ⟨Broker.start {}, []⟩ events t) :
    (∀ r told handout, t.outcome? r = some told → told.handout? = some handout →
      ∃ a draw, lastFound? (askedBy r events) = some (handout.name, a) ∧
        Generated events handout.engine a.id handout.binding draw ∧ handout.Matches a draw) ∧
    ∀ e t' id, Step (everyone s) t e t' → e.born? = some id →
      (born (events ++ [e])).length < 2 ^ 64 →
        id ∉ born events ∧
          ∀ engine binding, (t'.broker.servers engine).row? id.text binding = none := by
  constructor
  · intro r told handout done handed
    obtain ⟨u, hu, is⟩ := Option.bind_eq_some_iff.1 done
    obtain ⟨h, -, keeps⟩ := course.keeps hu
    rw [Program.eq_done_of_value? is] at keeps
    obtain ⟨a, admin, record, engine, located, credentials, told⟩ := keeps handout handed
    obtain ⟨id, draw, salt, generated, rfl⟩ := course.generated hs told
    have same : id = a.id := ApplianceId.text_injective (salt.symm.trans located.salt)
    subst same
    rw [DatabaseHandler.engine_of_administrator located.reached, engine] at generated
    refine ⟨a, draw, located.found, generated, ?_⟩
    exact DatabaseHandler.matches_of_administrator located.reached engine credentials
  · intro e t' id step created few
    have later := course.step step
    have fresh := (later.traced hs).fresh created few
    refine ⟨fresh, fun engine binding => ?_⟩
    rw [step.servers_of_born created]
    cases there : (t.broker.servers engine).row? id.text binding with
    | none => rfl
    | some row =>
      obtain ⟨id', draw, same, generated, -⟩ := (course.traced hs).rows _ _ _ row there
      obtain rfl := ApplianceId.text_injective same
      exact absurd (course.born_of_generated hs generated) fresh

end Lives

/-- Parameters with an address. -/
def parametersAt (ipAddress : Ipv4) : Parameters where
  switchId := 1
  ipAddress
  maskLength := 24
  defaultRoute := ⟨10, 0, 0, 1⟩

/-- An instance is bound, given up, created again at another address and bound again.  When it is
created again no binding is on its server.  The row of the first binding is still there in the end,
and is not handed out. -/
theorem bound_in_two_lives :
    let w := everyone (Broker.inMemorySettings .instant Chance.counting)
    let handout host k : Handout := ⟨.postgreSql, "a", "b",
      credentials ⟨.postgreSql, host, 5432, "", "", "", ""⟩
        ((Chance.counting.binding k).record "b")⟩
    (∃ events t, Course w ⟨Broker.start {}, []⟩ events t ∧
      born events = [applianceId 1, applianceId 2] ∧
      ∀ engine binding, (t.broker.servers engine).row? (applianceId 2).text binding = none) ∧
    ∃ events t, Course w ⟨Broker.start {}, []⟩ events t ∧
      [1, 4, 5].map (fun r => (t.outcome? r).bind Told.handout?) =
        [some (handout "10.0.0.2" 1), some (handout "10.0.0.3" 3),
          some (handout "10.0.0.3" 3)] ∧
      ((t.broker.servers .postgreSql).row? (applianceId 1).text "b").isSome ∧
      ∃ draw, Generated events .postgreSql (applianceId 2) "b" draw ∧
        (handout "10.0.0.3" 3).credentials.username = draw.username.text := by
  intro w handout
  let h : DatabaseHandler := ⟨.postgreSql, 10⟩
  have empty : Run w ⟨Broker.start {}, []⟩ [] _ := .start
  have create := empty.step
    (.arrive ⟨h, .inr ⟨.createInstance "a" (parametersAt ⟨10, 0, 0, 2⟩), rfl⟩⟩)
  have created := create.follow [.request 0, .request 0]
  have bind := created.step (.arrive ⟨h, .inl ⟨.bind "a" "b", rfl⟩⟩)
  have bound := bind.follow (List.replicate 10 (.request 1))
  have delete := bound.step (.arrive ⟨h, .inl ⟨.deprovision "a", rfl⟩⟩)
  have deleted := delete.follow
    (List.replicate 3 (.request 2) ++ List.replicate 7 (.deletion 0))
  have create := deleted.step
    (.arrive ⟨h, .inr ⟨.createInstance "a" (parametersAt ⟨10, 0, 0, 3⟩), rfl⟩⟩)
  have drawn := create.follow [.request 3]
  have created := create.follow [.request 3, .request 3]
  have bind := created.step (.arrive ⟨h, .inl ⟨.bind "a" "b", rfl⟩⟩)
  have bound := bind.follow (List.replicate 10 (.request 4))
  have look := bound.step (.arrive ⟨h, .inr ⟨.bindingState "a" "b", rfl⟩⟩)
  have run := look.follow (List.replicate 4 (.request 5))
  -- The second appliance has no binding when it is created.
  have unbound {events : List (Event Memory)} {e : Event Memory} {t t' : Traffic Memory Told}
      (course : Course w ⟨Broker.start {}, []⟩ events t) (step : Step w t e t')
      (is : e.born? = some (applianceId 2))
      (all : born (events ++ [e]) = [applianceId 1, applianceId 2]) :
      ∃ events t, Course w ⟨Broker.start {}, []⟩ events t ∧
        born events = [applianceId 1, applianceId 2] ∧
        ∀ engine binding, (t.broker.servers engine).row? (applianceId 2).text binding = none := by
    have few : (born (events ++ [e])).length < 2 ^ 64 := by
      rw [all]
      decide
    obtain ⟨-, none⟩ := (credentials_of_one_life rfl course).2 e t' (applianceId 2) step is few
    exact ⟨_, t', course.step step, all, none⟩
  constructor
  · exact unbound drawn.course (Step.next (.request 3) (by decide +kernel)) (by decide +kernel)
      (by decide +kernel)
  · refine ⟨_, _, run.course, by decide +kernel, by decide +kernel, ?_⟩
    obtain ⟨a, draw, found, generated, hands⟩ :=
      (credentials_of_one_life rfl run.course).1 5 _ (handout "10.0.0.3" 3)
        (Option.some_get (by decide +kernel)).symm (by decide +kernel)
    have id : some (applianceId 2) = some a.id :=
      Eq.trans (by decide +kernel) (congrArg (Option.map fun x => x.2.id) found)
    rw [← Option.some.inj id] at generated
    exact ⟨draw, generated, hands.username⟩

end Traffic
end ServiceBroker

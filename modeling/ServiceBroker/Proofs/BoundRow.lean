/-
# The one row of a binding

The table keeps one row for a binding, that of the binding made last, and every binding made
has left its database.  `Traffic.Kept` says so of a run of requests to bind one instance;
every step keeps it (`Traffic.Kept.step`), by what a request asks where it stands.
-/

import ServiceBroker.Proofs.BindRequest
import ServiceBroker.Proofs.Bookkeeping

namespace ServiceBroker

namespace Traffic

open Program (Asked Leads)
open Provider (Memory inMemory)
open DatabaseHandler (Plain Looks Stands)
open Dialect (Servers)

/-- Requests to bind, of one instance and one binding; the provider changes, but goes on to show the
appliances of the instance. -/
def binding (s : BrokerSettings Memory) (engine : Engine) (name binding : String) :
    World Memory Lifecycle.Outcome where
  settings := s
  arrives u := ∃ planSize : UInt32, u = ⟨engine, (Lifecycle.perform (.bind name binding)).interpret
    (DatabaseHandler.answer ⟨engine, planSize⟩)⟩
  changes before after :=
    after.named name = before.named name ∧ after.unavailable = before.unavailable

/-- The request that makes a binding in a step, and what it records. -/
def Event.bound? : Event Memory → Option (Nat × BindingRecord)
  | .asked r (.dialect (.create _ _ _)) (.ok record) => some (r, record)
  | _ => none

/-- The bindings made, in this order. -/
def bound (events : List (Event Memory)) : List (Nat × BindingRecord) :=
  events.filterMap Event.bound?

/-- The binding made last. -/
def lastBound? (events : List (Event Memory)) : Option BindingRecord :=
  (bound events).getLast?.map Prod.snd

/-- A request looks for a binding and finds none. -/
def foundUnbound (admin : Connection) (binding : String) (r : Nat) : Event Memory :=
  .asked r (.dialect (.read admin binding)) (.ok none)

/-- The bindings made in two runs are those of the one and then of the other. -/
theorem bound_append (before after : List (Event Memory)) :
    bound (before ++ after) = bound before ++ bound after :=
  List.filterMap_append

/-- A step that makes a binding is a call to create one that went well. -/
theorem Event.eq_of_bound? {e : Event Memory} {r : Nat} {record : BindingRecord}
    (h : e.bound? = some (r, record)) :
    ∃ admin binding draw, e = .asked r (.dialect (.create admin binding draw)) (.ok record) := by
  cases e with
  | asked i call answer =>
    cases call with
    | dialect call =>
      cases call with
      | create admin binding draw =>
        cases answer with
        | error e => cases h
        | ok made =>
          cases h
          exact ⟨_, _, _, rfl⟩
      | _ => cases h
    | _ => cases h
  | _ => cases h

/-- No binding is made by looking for one. -/
theorem bound?_of_looks {name binding : String} {admin : Connection} {call : Backend.Call}
    (looks : Looks name admin binding call) (r : Nat) (answer : call.Answer) :
    (Event.asked r call answer : Event Memory).bound? = none := by
  cases looks <;> rfl

/-- A broker whose provider shows one appliance under a name, and whose server can be reached. -/
structure Serves (engine : Engine) (name : String) (a : Appliance) (b : Broker Memory) : Prop where
  idle : b.deletions.tasks = []
  named : b.provider.named name = [a]
  available : b.provider.unavailable = false
  reachable : (b.servers engine).unreachable = false

/-- What holds after every step of requests to bind, of databases that were there before. -/
structure Kept (engine : Engine) (name binding : String) (a : Appliance) (admin : Connection)
    (databases : List String) (events : List (Event Memory))
    (t : Traffic Memory Lifecycle.Outcome) :
    Prop where
  serves : Serves engine name a t.broker
  /-- Whatever was asked went as it should. -/
  plain : ∀ r, ∀ x ∈ askedBy r events, Plain a x
  /-- Who has prepared the server finds it prepared. -/
  prepared : ∀ r, ⟨.dialect (.prepare admin), .ok ()⟩ ∈ askedBy r events →
    ((t.broker.servers engine).server admin.salt).bindings.isSome
  /-- On record is the binding made last. -/
  recorded : (t.broker.servers engine).recorded engine admin binding = .ok (lastBound? events)
  /-- Every binding made has left its database. -/
  databases : (t.broker.servers engine).databases admin.salt =
    (bound events).foldl (fun names x => Servers.addName x.2.username names) databases

section

variable {s : BrokerSettings Memory} {mode : Provider.BootMode} {w i : Duration}
  (hs : s.provider = inMemory mode w i) {engine : Engine} {name bindingId : String} {a : Appliance}
  {admin : Connection} (hadmin : DatabaseHandler.administrator ⟨engine, 0⟩ a = .ok admin)
  {databases : List String} {b : Broker Memory} {events : List (Event Memory)} {e : Event Memory}
  {t t' : Traffic Memory Lifecycle.Outcome}

/-- What is asked after a step was asked before, or is what the step asks. -/
theorem mem_askedBy_asked {r r' : Nat} {call : Backend.Call} {answer : call.Answer}
    {x : Asked Backend.interface}
    (h : x ∈ askedBy r' (events ++ [.asked r call answer])) :
    x ∈ askedBy r' events ∨ x = ⟨call, answer⟩ := by
  rw [askedBy_snoc, List.mem_append] at h
  rcases h with before | now
  · exact .inl before
  · rw [Event.askedBy?] at now
    split at now
    · exact .inr (List.mem_singleton.1 now)
    · cases now

/-- A step in which no request asks. -/
theorem Kept.unasked (kept : Kept engine name bindingId a admin databases events t)
    (silent : ∀ r, e.askedBy? r = none) (unbound : e.bound? = none)
    (serves : Serves engine name a t'.broker)
    (same : t'.broker.servers engine = t.broker.servers engine) :
    Kept engine name bindingId a admin databases (events ++ [e]) t' := by
  have asked (r : Nat) : askedBy r (events ++ [e]) = askedBy r events := by
    rw [askedBy_snoc, silent, Option.toList_none, List.append_nil]
  have nothing : bound (events ++ [e]) = bound events := by
    rw [bound_append, bound, bound, List.filterMap_cons, unbound]
    exact List.append_nil _
  refine ⟨serves, fun r => ?_, fun r => ?_, ?_, ?_⟩
  · rw [asked]
    exact kept.plain r
  · rw [asked, same]
    exact kept.prepared r
  · rw [same, kept.recorded, lastBound?, lastBound?, nothing]
  · rw [same, kept.databases, nothing]

/-- A question that is answered as it should, and changes neither row nor databases. -/
theorem Kept.asked (kept : Kept engine name bindingId a admin databases events t) {r : Nat}
    {call : Backend.Call} {answer : call.Answer}
    (unbound : (Event.asked r call answer : Event Memory).bound? = none)
    (plain : Plain a ⟨call, answer⟩) (serves : Serves engine name a t'.broker)
    (table : ((t.broker.servers engine).server admin.salt).bindings.isSome ∨
        call = .dialect (.prepare admin) →
      ((t'.broker.servers engine).server admin.salt).bindings.isSome)
    (row : (t'.broker.servers engine).row? admin.salt bindingId =
      (t.broker.servers engine).row? admin.salt bindingId)
    (same : (t'.broker.servers engine).databases admin.salt =
      (t.broker.servers engine).databases admin.salt) :
    Kept engine name bindingId a admin databases (events ++ [.asked r call answer]) t' := by
  have nothing : bound (events ++ [.asked r call answer]) = bound events := by
    rw [bound_append, bound, bound, List.filterMap_cons, unbound]
    exact List.append_nil _
  refine ⟨serves, fun r' x hx => ?_, fun r' hr => ?_, ?_, ?_⟩
  · rcases mem_askedBy_asked hx with before | rfl
    · exact kept.plain r' x before
    · exact plain
  · rcases mem_askedBy_asked hr with before | now
    · exact table (.inl (kept.prepared r' before))
    · exact table (.inr (congrArg Asked.call now).symm)
  · rw [Servers.recorded_congr engine admin row, kept.recorded, lastBound?, lastBound?, nothing]
  · rw [same, kept.databases, nothing]

/-- A question that is answered as it should, and has nothing to do with the servers. -/
theorem Kept.aside (kept : Kept engine name bindingId a admin databases events t) {r : Nat}
    {call : Backend.Call} {answer : call.Answer}
    (unbound : (Event.asked r call answer : Event Memory).bound? = none)
    (plain : Plain a ⟨call, answer⟩) (serves : Serves engine name a t'.broker)
    (other : call ≠ .dialect (.prepare admin))
    (same : t'.broker.servers engine = t.broker.servers engine) :
    Kept engine name bindingId a admin databases (events ++ [.asked r call answer]) t' := by
  refine kept.asked unbound plain serves ?_ ?_ ?_
  · rw [same]
    exact fun h => h.resolve_right other
  · rw [same]
  · rw [same]

/-- A call to the dialect changes the servers only. -/
theorem Serves.setServers (serves : Serves engine name a b) {servers : Servers}
    (reachable : servers.unreachable = false) :
    Serves engine name a (b.setServers servers engine) where
  idle := by rw [Broker.deletions_setServers]; exact serves.idle
  named := by rw [Broker.provider_setServers]; exact serves.named
  available := by rw [Broker.provider_setServers]; exact serves.available
  reachable := by rw [Broker.servers_setServers, if_pos rfl]; exact reachable

/-- A call to the dialect that is answered as it should, and changes neither row nor databases. -/
theorem Kept.dialect (kept : Kept engine name bindingId a admin databases events t) (r : Nat)
    {call : Dialect.Call} {value : call.Result} {servers : Servers}
    (answered : Servers.answer engine call (t.broker.servers engine) = (.ok value, servers))
    (unbound : (Event.asked r (.dialect call) (.ok value) : Event Memory).bound? = none)
    (table : ((t.broker.servers engine).server admin.salt).bindings.isSome ∨
      call = .prepare admin → (servers.server admin.salt).bindings.isSome)
    (row : servers.row? admin.salt bindingId =
      (t.broker.servers engine).row? admin.salt bindingId)
    (same : servers.databases admin.salt = (t.broker.servers engine).databases admin.salt)
    (requests : List (Underway Lifecycle.Outcome)) :
    Kept engine name bindingId a admin databases
      (events ++ [.asked r (.dialect call)
        (t.reply (binding s engine name bindingId) engine (.dialect call)).1])
      ⟨(t.reply (binding s engine name bindingId) engine (.dialect call)).2, requests⟩ := by
  have reply : t.reply (binding s engine name bindingId) engine (.dialect call) =
      (.ok value, t.broker.setServers servers engine) := by
    show ((Servers.answer engine call (t.broker.servers engine)).1, t.broker.setServers
      (Servers.answer engine call (t.broker.servers engine)).2 engine) = _
    rw [answered]
  have unreached := Servers.unreachable_answer engine (t.broker.servers engine) call
  rw [answered] at unreached
  have there : (t.broker.setServers servers engine).servers engine = servers := by
    rw [Broker.servers_setServers, if_pos rfl]
  rw [reply]
  refine kept.asked unbound ⟨value, rfl⟩
    (kept.serves.setServers (unreached.trans kept.serves.reachable)) ?_ ?_ ?_
  · rw [there]
    exact fun h => table (h.imp_right Backend.Call.dialect.inj)
  · rw [there, row]
  · rw [there, same]

include hs in
/-- **Looking for a binding changes nothing.** -/
theorem Kept.look (kept : Kept engine name bindingId a admin databases events t) (r : Nat)
    {call : Backend.Call} (looks : Looks name admin bindingId call)
    (requests : List (Underway Lifecycle.Outcome)) :
    Kept engine name bindingId a admin databases
      (events ++ [.asked r call (t.reply (binding s engine name bindingId) engine call).1])
      ⟨(t.reply (binding s engine name bindingId) engine call).2, requests⟩ := by
  cases looks with
  | find =>
    rw [reply_find (w := binding s engine name bindingId) hs t kept.serves.available engine name]
    have same : t.broker.searched.servers engine = t.broker.servers engine := by
      cases engine <;> rfl
    refine kept.aside rfl (congrArg Except.ok kept.serves.named) ?_ nofun same
    refine ⟨kept.serves.idle, kept.serves.named, kept.serves.available, ?_⟩
    exact (congrArg Servers.unreachable same).trans kept.serves.reachable
  | draw =>
    let drawn : Broker Memory := { t.broker with drawn := t.broker.drawn + 1 }
    have same : drawn.servers engine = t.broker.servers engine := by
      cases engine <;> rfl
    refine kept.aside rfl trivial ?_ nofun same
    refine ⟨kept.serves.idle, kept.serves.named, kept.serves.available, ?_⟩
    exact (congrArg Servers.unreachable same).trans kept.serves.reachable
  | connect =>
    refine kept.dialect r (Servers.answer_connect engine _ admin kept.serves.reachable) rfl ?_ ?_ ?_
      requests
    · rintro (there | ⟨⟨⟩⟩)
      rw [Servers.server_setServer, if_pos rfl]
      exact there
    · rw [Servers.row?_setServer, if_pos rfl]
      rfl
    · rw [Servers.databases_setServer, if_pos rfl]
      rfl
  | hasTable =>
    exact kept.dialect r (Servers.answer_hasTable engine _ admin) rfl (by simp) rfl rfl requests
  | prepare =>
    refine kept.dialect r (Prod.ext rfl rfl) rfl (fun _ => ?_) ?_ ?_ requests
    · exact Servers.isSome_bindings_prepare engine _ admin
    · exact Servers.row?_prepare engine _ admin _ _
    · exact (Servers.databases_setServer _ _ _ _).trans (if_pos rfl)
  | read =>
    have answered := Servers.answer_read engine (t.broker.servers engine) admin bindingId
    rw [kept.recorded] at answered
    exact kept.dialect r answered rfl (by simp) rfl rfl requests

/-- **A binding that is made** is on record from then on, whatever was before. -/
theorem Kept.make (kept : Kept engine name bindingId a admin databases events t) (r : Nat)
    (draw : Dialect.Draw)
    (prepared : ((t.broker.servers engine).server admin.salt).bindings.isSome)
    (requests : List (Underway Lifecycle.Outcome)) :
    Kept engine name bindingId a admin databases
      (events ++ [.asked r (.dialect (.create admin bindingId draw))
        (t.reply (binding s engine name bindingId) engine
          (.dialect (.create admin bindingId draw))).1])
      ⟨(t.reply (binding s engine name bindingId) engine
        (.dialect (.create admin bindingId draw))).2, requests⟩ := by
  let servers := t.broker.servers engine
  let after := (Servers.answer engine (.create admin bindingId draw) servers).2
  have reply : t.reply (binding s engine name bindingId) engine
      (.dialect (.create admin bindingId draw)) =
        (.ok (draw.record bindingId), t.broker.setServers after engine) := by
    rw [← Servers.answer_create engine servers admin bindingId draw prepared]
    rfl
  have there : (t.broker.setServers after engine).servers engine = after := by
    rw [Broker.servers_setServers, if_pos rfl]
  have unreached := Servers.unreachable_answer engine servers (.create admin bindingId draw)
  rw [reply]
  have one_more : bound (events ++ [.asked r (.dialect (.create admin bindingId draw))
      (.ok (draw.record bindingId))]) = bound events ++ [(r, draw.record bindingId)] :=
    bound_append _ _
  refine ⟨kept.serves.setServers (unreached.trans kept.serves.reachable), fun r' x hx => ?_,
    fun r' hr => ?_, ?_, ?_⟩
  · rcases mem_askedBy_asked hx with before | rfl
    · exact kept.plain r' x before
    · exact ⟨_, rfl⟩
  · rw [there]
    exact Servers.isSome_bindings_create engine servers admin bindingId draw prepared
  · rw [there, Servers.recorded_create engine servers admin bindingId draw prepared, lastBound?,
      one_more, List.getLast?_concat]
    rfl
  · rw [there, Servers.databases_create engine servers admin bindingId draw prepared, one_more,
      List.foldl_concat, ← kept.databases]
    rfl

include hadmin in
/-- Where a request to bind stands in a run. -/
theorem Run.stands (run : Run (binding s engine name bindingId) ⟨b, []⟩ events t)
    (plain : ∀ r, ∀ x ∈ askedBy r events, Plain a x) {r : Nat} {u : Underway Lifecycle.Outcome}
    (hu : t.requests[r]? = some u) :
    u.engine = engine ∧ Stands name admin bindingId
      (fun record => .bind (.created (DatabaseHandler.credentials admin record)))
      (fun record outcome =>
        outcome = .bind (.alreadyBound (DatabaseHandler.credentials admin record)) ∨
          outcome = .bind .internalError) (askedBy r events) u.program := by
  obtain ⟨p, ⟨planSize, is⟩, leads⟩ := (run.leads r).2 u hu
  obtain ⟨same, rfl⟩ := Underway.mk.inj is
  exact ⟨same, DatabaseHandler.stands_bind (h := ⟨engine, planSize⟩) hadmin leads (plain r)⟩

include hs hadmin in
/-- Every step keeps what holds after the steps before. -/
theorem Kept.step (kept : Kept engine name bindingId a admin databases events t)
    (run : Run (binding s engine name bindingId) ⟨b, []⟩ events t)
    (step : Step (binding s engine name bindingId) t e t') :
    Kept engine name bindingId a admin databases (events ++ [e]) t' := by
  cases step with
  | arrive may => exact kept.unasked (fun _ => rfl) rfl kept.serves rfl
  | @ask r engine' call next asks =>
    obtain ⟨rfl, stands⟩ := run.stands hadmin kept.plain asks
    rcases stands.of_ask with ⟨-, looks | ⟨draw, rfl, prepared, -⟩⟩
    · exact kept.look hs r looks _
    · exact kept.make r draw (kept.prepared r prepared) _
  | turn ready running =>
    rw [kept.serves.idle] at running
    cases running
  | change may =>
    refine kept.unasked (fun _ => rfl) rfl ?_ (by cases engine <;> rfl)
    refine ⟨kept.serves.idle, may.1.trans kept.serves.named, may.2.trans kept.serves.available, ?_⟩
    cases engine <;> exact kept.serves.reachable
  | _ =>
    refine kept.unasked (fun _ => rfl) rfl ?_ (by cases engine <;> rfl)
    refine ⟨kept.serves.idle, kept.serves.named, kept.serves.available, ?_⟩
    cases engine <;> exact kept.serves.reachable

include hs hadmin in
/-- **After any steps of requests to bind** the binding made last is on record. -/
theorem Run.kept (serves : Serves engine name a b)
    (absent : (b.servers engine).row? admin.salt bindingId = none)
    (run : Run (binding s engine name bindingId) ⟨b, []⟩ events t) :
    Kept engine name bindingId a admin ((b.servers engine).databases admin.salt) events t := by
  induction run with
  | start =>
    refine ⟨serves, fun _ => List.forall_mem_nil _,
      fun _ asked => absurd asked List.not_mem_nil, ?_,
      rfl⟩
    exact Servers.recorded_of_none engine _ admin absent
  | step run step ih => exact ih.step hs hadmin run step

end

end Traffic
end ServiceBroker

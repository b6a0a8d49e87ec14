/-
# Requests that make one binding at the same time

A request to bind looks for the binding twice and then makes it.  Nothing is held between
the second look and the making, and the table keeps one row, that of the binding made last.
`Traffic.bound_once_iff` states what each request answers in every order of their calls, and
that they agree exactly where no binding is made between the second look of another request
and its own making.  `Traffic.bound_twice` is a run in which one is: two platforms hold
credentials, and those of the first are on no record.
-/

import ServiceBroker.Proofs.BoundRow

namespace ServiceBroker

namespace Traffic

open Program (Asked Leads)
open Provider (Memory inMemory)
open DatabaseHandler (Plain Looks Stands)
open Dialect (Servers)

section

variable {s : BrokerSettings Memory} {mode : Provider.BootMode} {w i : Duration}
  (hs : s.provider = inMemory mode w i) {engine : Engine} {name bindingId : String} {a : Appliance}
  {admin : Connection} (hadmin : DatabaseHandler.administrator ⟨engine, 0⟩ a = .ok admin)
  {databases : List String} {b : Broker Memory} {events : List (Event Memory)} {e : Event Memory}
  {t t' : Traffic Memory Lifecycle.Outcome}

/-- A binding that was made was asked for. -/
theorem asked_of_bound {r : Nat} {record : BindingRecord} (h : (r, record) ∈ bound events) :
    ∃ admin binding draw,
      ⟨.dialect (.create admin binding draw), .ok record⟩ ∈ askedBy r events := by
  obtain ⟨e, he, made⟩ := List.mem_filterMap.1 h
  obtain ⟨admin, binding, draw, rfl⟩ := Event.eq_of_bound? made
  exact ⟨admin, binding, draw, List.mem_filterMap.2 ⟨_, he, if_pos rfl⟩⟩

include hadmin in
/-- **A request has created a binding if and only if it made it.** -/
theorem Kept.created_iff (kept : Kept engine name bindingId a admin databases events t)
    (run : Run (binding s engine name bindingId) ⟨b, []⟩ events t) {r : Nat}
    {credentials : Credentials} :
    t.outcome? r = some (.bind (.created credentials)) ↔
      ∃ record, (r, record) ∈ bound events ∧
        credentials = DatabaseHandler.credentials admin record := by
  constructor
  · intro done
    obtain ⟨u, hu, is⟩ := Option.bind_eq_some_iff.1 done
    obtain ⟨-, stands⟩ := run.stands hadmin kept.plain hu
    rw [Program.eq_done_of_value? is] at stands
    rcases stands.of_done with ⟨draw, record, makes, same⟩ | ⟨record, -, saw⟩
    · obtain ⟨before, after, rfl⟩ := split_of_mem_askedBy makes
      cases same
      exact ⟨record, List.mem_filterMap.2 ⟨_, List.mem_append_right _ List.mem_cons_self, rfl⟩, rfl⟩
    · rcases saw with ⟨⟨⟩⟩ | ⟨⟨⟩⟩
  · rintro ⟨record, made, rfl⟩
    obtain ⟨admin', binding', draw, makes⟩ := asked_of_bound made
    obtain ⟨silent, -⟩ := run.leads r
    have here : r < t.requests.length := by
      by_contra outside
      rw [silent (by omega)] at makes
      cases makes
    obtain ⟨-, stands⟩ := run.stands hadmin kept.plain (List.getElem?_eq_getElem here)
    rw [outcome?, List.getElem?_eq_getElem here, Option.bind_some, stands.of_made makes]
    rfl

include hs hadmin in
/-- A request finds the binding made last, whoever made it. -/
theorem Run.lastBound?_of_read (serves : Serves engine name a b)
    (absent : (b.servers engine).row? admin.salt bindingId = none)
    {before after : List (Event Memory)} {r : Nat} {shown : Option BindingRecord}
    (run : Run (binding s engine name bindingId) ⟨b, []⟩
      (before ++ .asked r (.dialect (.read admin bindingId)) (.ok shown) :: after) t) :
    lastBound? before = shown := by
  obtain ⟨t₁, t₂, run, step⟩ := run.split
  have kept := run.kept hs hadmin serves absent
  obtain ⟨engine', next, asks, is⟩ := step.answered
  obtain ⟨rfl, -⟩ := run.stands hadmin kept.plain asks
  have told : (.ok shown : Except ServiceError (Option BindingRecord)) =
      (t₁.broker.servers engine').recorded engine' admin bindingId := is
  rw [kept.recorded] at told
  exact (Except.ok.inj told).symm

include hs hadmin in
/-- A request that makes the second binding, or a later one, was overtaken. -/
theorem Run.overtaken_binding (serves : Serves engine name a b)
    (absent : (b.servers engine).row? admin.salt bindingId = none)
    (run : Run (binding s engine name bindingId) ⟨b, []⟩ events t) :
    (bound events).length ≤ 1 ∨ Overtaken (foundUnbound admin bindingId) Event.bound? events := by
  refine run.few_or_overtaken (fun _ => rfl) (fun e made => ?_) (fun run step made => ?_)
    fun run => ?_
  · obtain ⟨⟨r, record⟩, made⟩ := Option.isSome_iff_exists.1 made
    obtain ⟨admin, binding, draw, rfl⟩ := Event.eq_of_bound? made
    exact ⟨r, _, _, rfl⟩
  · obtain ⟨engine', next, asks, -⟩ := step.asked
    obtain ⟨-, stands⟩ := run.stands hadmin (run.kept hs hadmin serves absent).plain asks
    rcases stands.of_ask with ⟨-, looks | ⟨draw, -, -, vacant⟩⟩
    · rw [bound?_of_looks looks] at made
      cases made
    · obtain ⟨before, between, rfl⟩ := split_of_mem_askedBy vacant
      exact List.mem_append_right _ List.mem_cons_self
  · have last := run.lastBound?_of_read hs hadmin serves absent
    exact List.getLast?_eq_none_iff.1 (Option.map_eq_none_iff.1 last)

/-- **Requests to bind agree**: one of them at most has created the binding, and once any is done a
binding is on record, with the only database that was added, and nobody was told other
credentials. -/
structure Agreed (engine : Engine) (admin : Connection) (binding : String)
    (databases : List String) (t : Traffic Memory Lifecycle.Outcome) : Prop where
  created_once : ∀ r r' credentials credentials',
    t.outcome? r = some (.bind (.created credentials)) →
      t.outcome? r' = some (.bind (.created credentials')) → r = r'
  on_record : (∃ r, (t.outcome? r).isSome) → ∃ record,
    (t.broker.servers engine).recorded engine admin binding = .ok (some record) ∧
      (t.broker.servers engine).databases admin.salt =
        Servers.addName record.username databases ∧
      ∀ r credentials, t.outcome? r = some (.bind (.created credentials)) ∨
          t.outcome? r = some (.bind (.alreadyBound credentials)) →
        credentials = DatabaseHandler.credentials admin record

include hs hadmin in
/-- A request to bind has created a binding, or tells one that it saw, or failed after its look. -/
theorem Run.outcome_bind (serves : Serves engine name a b)
    (absent : (b.servers engine).row? admin.salt bindingId = none)
    (run : Run (binding s engine name bindingId) ⟨b, []⟩ events t) {r : Nat}
    {outcome : Lifecycle.Outcome} (done : t.outcome? r = some outcome) :
    (∃ record, (r, record) ∈ bound events ∧
      outcome = .bind (.created (DatabaseHandler.credentials admin record))) ∨
    ∃ before after record, events = before ++
        .asked r (.dialect (.read admin bindingId)) (.ok (some record)) :: after ∧
      lastBound? before = some record ∧
      (outcome = .bind (.alreadyBound (DatabaseHandler.credentials admin record)) ∨
        outcome = .bind .internalError) := by
  have kept := run.kept hs hadmin serves absent
  obtain ⟨u, hu, is⟩ := Option.bind_eq_some_iff.1 done
  obtain ⟨-, stands⟩ := run.stands hadmin kept.plain hu
  rw [Program.eq_done_of_value? is] at stands
  rcases stands.of_done with ⟨draw, record, makes, rfl⟩ | ⟨record, there, saw⟩
  · obtain ⟨made, hmade, same⟩ := (kept.created_iff hadmin run).1 done
    exact .inl ⟨made, hmade, by rw [same]⟩
  · obtain ⟨before, after, rfl⟩ := split_of_mem_askedBy there
    exact .inr ⟨before, after, record, rfl, run.lastBound?_of_read hs hadmin serves absent, saw⟩

include hs hadmin in
/-- Who was overtaken made the binding after another request did. -/
theorem Run.two_created (serves : Serves engine name a b)
    (absent : (b.servers engine).row? admin.salt bindingId = none)
    (run : Run (binding s engine name bindingId) ⟨b, []⟩ events t)
    (overtaken : Overtaken (foundUnbound admin bindingId) Event.bound? events) :
    ∃ r r' record record', r ≠ r' ∧ (r, record) ∈ bound events ∧ (r', record') ∈ bound events := by
  obtain ⟨r, call, answer, before, between, after, rfl, makes, other⟩ := overtaken
  obtain ⟨⟨r₁, record⟩, makes⟩ := Option.isSome_iff_exists.1 makes
  obtain ⟨⟨r', record'⟩, inside⟩ := List.exists_mem_of_ne_nil _ other
  obtain ⟨at', binding', draw, is⟩ := Event.eq_of_bound? makes
  cases is
  have earlier : (r', record') ∈ bound (before ++ foundUnbound admin bindingId r :: between) := by
    rw [bound_append]
    exact List.mem_append_right _ inside
  rw [← List.cons_append, ← List.append_assoc] at run
  have now : (r, record) ∈ bound (before ++ foundUnbound admin bindingId r :: between ++
      .asked r (.dialect (.create at' binding' draw)) (.ok record) :: after) := by
    rw [bound_append]
    exact List.mem_append_right _ List.mem_cons_self
  rw [← List.cons_append, ← List.append_assoc]
  refine ⟨r, r', record, record', ?_, now, ?_⟩
  · -- Whoever makes the binding asks nothing any more.
    rintro rfl
    obtain ⟨t₁, t₂, run, step⟩ := run.split
    obtain ⟨engine', next, asks, -⟩ := step.asked
    have kept := run.kept hs hadmin serves absent
    have done := (kept.created_iff hadmin run).2 ⟨record', earlier, rfl⟩
    rw [outcome?, asks] at done
    cases done
  · rw [bound_append]
    exact List.mem_append_left _ earlier

/-- Where one binding was made at most, what was made last at any time is that one. -/
theorem eq_of_lastBound? {before : List (Event Memory)} {record : BindingRecord}
    (few : (bound events).length ≤ 1) (part : before <+: events)
    (last : lastBound? before = some record) : ∃ r, bound events = [(r, record)] := by
  obtain ⟨after, rfl⟩ := part
  obtain ⟨⟨r, made⟩, hlast, rfl⟩ := Option.map_eq_some_iff.1 last
  obtain ⟨first, is⟩ := List.getLast?_eq_some_iff.1 hlast
  rw [bound_append, is] at few ⊢
  simp only [List.length_append, List.length_cons, List.length_nil] at few
  have alone : first = [] := List.length_eq_zero_iff.1 (by omega)
  have nothing : bound after = [] := List.length_eq_zero_iff.1 (by omega)
  rw [alone, nothing]
  exact ⟨r, rfl⟩

include hs hadmin in
/-- Where one binding is made at most, the requests agree. -/
theorem Run.agreed (serves : Serves engine name a b)
    (absent : (b.servers engine).row? admin.salt bindingId = none)
    (run : Run (binding s engine name bindingId) ⟨b, []⟩ events t)
    (few : (bound events).length ≤ 1) :
    Agreed engine admin bindingId ((b.servers engine).databases admin.salt) t := by
  have kept := run.kept hs hadmin serves absent
  -- The only binding there is, of whom it is told.
  have only {r : Nat} {outcome : Lifecycle.Outcome} (done : t.outcome? r = some outcome) :
      ∃ r' record, bound events = [(r', record)] ∧
        ∀ credentials, outcome = .bind (.created credentials) ∨
            outcome = .bind (.alreadyBound credentials) →
          credentials = DatabaseHandler.credentials admin record := by
    rcases run.outcome_bind hs hadmin serves absent done with
      ⟨record, made, rfl⟩ | ⟨before, after, record, is, last, saw⟩
    · refine ⟨r, record, ?_, ?_⟩
      · obtain ⟨x, hx⟩ := List.length_eq_one_iff.1
          (Nat.le_antisymm few (List.length_pos_of_mem made))
        rw [hx] at made ⊢
        rw [List.mem_singleton.1 made]
      · rintro credentials (⟨⟨⟩⟩ | ⟨⟨⟩⟩)
        rfl
    · obtain ⟨r', alone⟩ := eq_of_lastBound? few ⟨_, is.symm⟩ last
      refine ⟨r', record, alone, ?_⟩
      rcases saw with rfl | rfl
      · rintro credentials (⟨⟨⟩⟩ | ⟨⟨⟩⟩)
        rfl
      · rintro credentials (⟨⟨⟩⟩ | ⟨⟨⟩⟩)
  refine ⟨fun r r' credentials credentials' done done' => ?_, ?_⟩
  · obtain ⟨record, made, -⟩ := (kept.created_iff hadmin run).1 done
    obtain ⟨record', made', -⟩ := (kept.created_iff hadmin run).1 done'
    obtain ⟨r₀, record₀, alone, -⟩ := only done
    rw [alone] at made made'
    exact congrArg Prod.fst ((List.mem_singleton.1 made).trans (List.mem_singleton.1 made').symm)
  · rintro ⟨r, done⟩
    obtain ⟨outcome, done⟩ := Option.isSome_iff_exists.1 done
    obtain ⟨r₀, record, alone, -⟩ := only done
    refine ⟨record, ?_, ?_, fun r' credentials told => ?_⟩
    · rw [kept.recorded, lastBound?, alone]
      rfl
    · rw [kept.databases, alone]
      rfl
    · obtain ⟨outcome, done', told⟩ : ∃ outcome, t.outcome? r' = some outcome ∧
          (outcome = .bind (.created credentials) ∨
            outcome = .bind (.alreadyBound credentials)) := by
        rcases told with done' | done'
        · exact ⟨_, done', .inl rfl⟩
        · exact ⟨_, done', .inr rfl⟩
      obtain ⟨r₁, record₁, alone₁, tells⟩ := only done'
      rw [alone] at alone₁
      cases alone₁
      exact tells credentials told

include hs hadmin

/-- **Requests to bind agree, unless one is overtaken.**  Of requests that make one binding at the
same time, over a server in memory that has none, and in any order of their steps: a request that
is done has created the binding it made, or has found the one that was made last until its look;
on record is the binding made last of all, and every one made has left its database.  They agree if
and only if no request made the binding after another had, since its own look. -/
theorem bound_once_iff (serves : Serves engine name a b)
    (absent : (b.servers engine).row? admin.salt bindingId = none)
    (run : Run (binding s engine name bindingId) ⟨b, []⟩ events t) :
    (∀ r outcome, t.outcome? r = some outcome →
      (∃ record, (r, record) ∈ bound events ∧
        outcome = .bind (.created (DatabaseHandler.credentials admin record))) ∨
      ∃ before after record, events = before ++
          .asked r (.dialect (.read admin bindingId)) (.ok (some record)) :: after ∧
        lastBound? before = some record ∧
        (outcome = .bind (.alreadyBound (DatabaseHandler.credentials admin record)) ∨
          outcome = .bind .internalError)) ∧
      (t.broker.servers engine).recorded engine admin bindingId = .ok (lastBound? events) ∧
      (t.broker.servers engine).databases admin.salt =
        (bound events).foldl (fun names x => Servers.addName x.2.username names)
          ((b.servers engine).databases admin.salt) ∧
      (Agreed engine admin bindingId ((b.servers engine).databases admin.salt) t ↔
        ¬Overtaken (foundUnbound admin bindingId) Event.bound? events) := by
  have kept := run.kept hs hadmin serves absent
  refine ⟨fun r outcome done => run.outcome_bind hs hadmin serves absent done, kept.recorded,
    kept.databases, fun agreed overtaken => ?_, fun free => ?_⟩
  · obtain ⟨r, r', record, record', differ, made, made'⟩ :=
      run.two_created hs hadmin serves absent overtaken
    exact differ (agreed.created_once r r' _ _ ((kept.created_iff hadmin run).2 ⟨record, made, rfl⟩)
      ((kept.created_iff hadmin run).2 ⟨record', made', rfl⟩))
  · have few := (run.overtaken_binding hs hadmin serves absent).resolve_right free
    exact run.agreed hs hadmin serves absent few

end

section Runs

/-- How the server of the only appliance is reached. -/
def onlyAdmin : Connection where
  engine := .postgreSql
  host := Ipv4.text ⟨10, 0, 0, 2⟩
  rawPort := 3306
  database := "root"
  username := "root"
  password := "secret"
  salt := (applianceId 1).text

/-- Of two requests the second looks after the first has made the binding. -/
theorem bound_once :
    let provider := (Memory.create .instant (.plain "a") {}).2
    let w := binding (Broker.inMemorySettings .instant Chance.counting) .postgreSql "a" "b"
    ∃ events t credentials, Run w ⟨Broker.start provider, []⟩ events t ∧
      [0, 1].map t.outcome? =
        [some (.bind (.created credentials)), some (.bind (.alreadyBound credentials))] ∧
      (bound events).length = 1 ∧ Agreed .postgreSql onlyAdmin "b" [] t := by
  intro provider w
  let a := Memory.boot .instant (applianceId 1) (.plain "a")
  have serves : Serves .postgreSql "a" a (Broker.start provider) :=
    ⟨rfl, by decide +kernel, rfl, rfl⟩
  have empty : Run w ⟨Broker.start provider, []⟩ [] _ := .start
  have one := empty.step (.arrive ⟨10, rfl⟩)
  have two := one.step (.arrive ⟨10, rfl⟩)
  have run := two.follow
    (List.replicate 10 (Choice.request 0) ++ List.replicate 5 (Choice.request 1))
  have hadmin : DatabaseHandler.administrator ⟨.postgreSql, 0⟩ a = .ok onlyAdmin := rfl
  obtain ⟨-, -, -, agree⟩ := bound_once_iff rfl hadmin serves rfl run
  have agreed := agree.2 fun overtaken => absurd overtaken.two_le (by decide +kernel)
  exact ⟨_, _, DatabaseHandler.credentials onlyAdmin ((Chance.counting.binding 0).record "b"), run,
    by decide +kernel, by decide +kernel, agreed⟩

/-- **Two requests both look before either makes the binding**, and both make it: each platform
holds credentials of its own, and those of the first one are on no record. -/
theorem bound_twice :
    let provider := (Memory.create .instant (.plain "a") {}).2
    let w := binding (Broker.inMemorySettings .instant Chance.counting) .postgreSql "a" "b"
    let told k := DatabaseHandler.credentials onlyAdmin ((Chance.counting.binding k).record "b")
    ∃ events t, Run w ⟨Broker.start provider, []⟩ events t ∧
      [0, 1].map t.outcome? =
        [some (.bind (.created (told 0))), some (.bind (.created (told 1)))] ∧ told 0 ≠ told 1 ∧
      (t.broker.servers .postgreSql).recorded .postgreSql onlyAdmin "b" =
        .ok (some ((Chance.counting.binding 1).record "b")) ∧
      ((t.broker.servers .postgreSql).databases onlyAdmin.salt).length = 2 := by
  intro provider w told
  have empty : Run w ⟨Broker.start provider, []⟩ [] _ := .start
  have one := empty.step (.arrive ⟨10, rfl⟩)
  have two := one.step (.arrive ⟨10, rfl⟩)
  have run := two.follow
    (List.replicate 8 (Choice.request 0) ++ List.replicate 9 (Choice.request 1) ++
      [Choice.request 0, Choice.request 0, Choice.request 1, Choice.request 1])
  exact ⟨_, _, run, by decide +kernel, by decide +kernel, by decide +kernel, by decide +kernel⟩

end Runs

end Traffic
end ServiceBroker

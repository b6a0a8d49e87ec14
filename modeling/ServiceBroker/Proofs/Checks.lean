/-
# The checks in front of the handlers

`Front.respond_of_checks` says that the list of what a request has to show is right and
complete: the first entry that fails answers the request and no handler is asked, and a
request for which none fails goes to the handler that is registered for its service and plan.
Each operation is its checks and then the order (`Front.provision_eq` and its neighbours), and
so is the whole front (`Front.decide_eq`).
-/

import ServiceBroker.Proofs.Checklist

namespace ServiceBroker
namespace Http

/-! ### Each operation -/

namespace Front

variable {front : Front} {serviceId planId : String} {query : Query}

variable {request : Request} {spelled bound : Bytes} {name binding : String}

/-- An operation is handed to the registered handler. -/
def handing (front : Front) (serviceId planId : String) (operation : Lifecycle.Request) :
    Step Order := do
  return (← front.handler serviceId planId, operation)

/-- A request to provision is its checks and then the order. -/
theorem provision_eq (builtin : front.catalog = .builtin)
    (named : Route.instanceName spelled = .ok name)
    (read : Query.parse request.target.query = .ok query)
    (short : request.body.length ≤ maxBody) :
    front.provision request spelled =
      (do
        passing (Check.async query :: Check.offerInBody request.body)
        front.handing (Check.asked request.body).serviceId (Check.asked request.body).planId
          (.provision name (Check.asked request.body).parameters)) := by
  have whole : body request = .ok request.body := if_pos short
  have queried : Front.query request = .ok query := by rw [Front.query, read]
  have rest := offerInBody_eq builtin request.body fun asked =>
    front.handing asked.serviceId asked.planId (.provision name asked.parameters)
  simp only [provision, named, parameter, queried, whole, ok_bind, passing_cons, bind_assoc]
  rw [← rest]
  rfl

/-- A request to deprovision is its checks and then the order. -/
theorem deprovision_eq (builtin : front.catalog = .builtin)
    (named : Route.instanceName spelled = .ok name)
    (read : Query.parse request.target.query = .ok query) :
    front.deprovision request spelled =
      (do
        passing (Check.async query :: Check.offerInQuery query)
        front.handing (query.serviceId.getD "") (query.planId.getD "") (.deprovision name)) := by
  have queried : Front.query request = .ok query := by rw [Front.query, read]
  simp only [deprovision, named, parameter, queried, ok_bind, passing_cons, bind_assoc,
    checkIds_eq builtin]
  rfl

/-- Without a service or a plan nothing is handed on. -/
theorem handing_eq_refuse (missing : serviceId = "" ∨ planId = "") (operation : Lifecycle.Request) :
    front.handing serviceId planId operation = refuse .malformedRequestBody := by
  have unregistered : front.registry.handler? serviceId planId = none := if_pos missing
  rw [handing, handler, unregistered]
  rfl

/-- A poll is its checks and then the order. -/
theorem lastOperation_eq (builtin : front.catalog = .builtin)
    (named : Route.instanceName spelled = .ok name)
    (read : Query.parse request.target.query = .ok query) :
    front.lastOperation request spelled =
      (do
        passing (Check.poll query)
        front.handing (query.serviceId.getD "") (query.planId.getD "")
          (.poll (Check.polled query) name)) := by
  have queried : Front.query request = .ok query := by rw [Front.query, read]
  simp only [lastOperation, named, parameter, queried, ok_bind, polledOperation_eq, Check.poll,
    passing_cons, passing_nil, bind_assoc]
  by_cases empty : query.operation.getD "" = ""
  · simp [empty]
  by_cases listed : query.operation.getD "" ∈ ["provisioning", "updating", "deprovisioning"]
  · obtain ⟨pollable, spelt⟩ := polled_of_listed listed
    have rest := polledPlan_eq builtin pollable query
      (fun planId => front.handing (query.serviceId.getD "") planId
        (.poll (Check.polled query) name))
      fun planId missing => handing_eq_refuse missing _
    rw [spelt] at rest
    simp only [passing_cons, passing_nil, bind_assoc] at rest
    simp only [ne_eq, empty, listed, not_false_eq_true, decide_true, require_true, ok_bind]
    exact rest
  · simp [empty, listed]

/-- A request to bind is its checks and then the order. -/
theorem bind_eq (builtin : front.catalog = .builtin)
    (named : Route.instanceName spelled = .ok name) (tied : Route.bindingName bound = .ok binding)
    (short : request.body.length ≤ maxBody) :
    front.bind request spelled bound =
      (do
        passing (Check.offerInBody request.body)
        front.handing (Check.asked request.body).serviceId (Check.asked request.body).planId
          (.bind name binding)) := by
  have whole : body request = .ok request.body := if_pos short
  have rest := offerInBody_eq builtin request.body fun asked =>
    front.handing asked.serviceId asked.planId (.bind name binding)
  simp only [Front.bind, named, tied, parameter, whole, ok_bind]
  rw [← rest]
  rfl

/-- A request to unbind is its checks and then the order. -/
theorem unbind_eq (builtin : front.catalog = .builtin)
    (named : Route.instanceName spelled = .ok name) (tied : Route.bindingName bound = .ok binding)
    (read : Query.parse request.target.query = .ok query) :
    front.unbind request spelled bound =
      (do
        passing (Check.offerInQuery query)
        front.handing (query.serviceId.getD "") (query.planId.getD "") (.unbind name binding)) := by
  have queried : Front.query request = .ok query := by rw [Front.query, read]
  simp only [unbind, named, tied, parameter, queried, ok_bind, checkIds_eq builtin]
  rfl

/-- A step that checks and then hands an operation on, as a decision. -/
theorem onRoute_of_order {route : Route} {checks : List Check} {operation : Lifecycle.Request}
    (ordered : front.order? request route =
      some (do passing checks; front.handing serviceId planId operation)) :
    front.onRoute request route =
      match Check.first? checks with
      | some r => .reply r.response
      | none => front.assign serviceId planId operation := by
  rw [onRoute, ordered, passing]
  cases Check.first? checks with
  | some r => rfl
  | none =>
    simp only [ok_bind, handing, handler, assign]
    cases front.registry.handler? serviceId planId <;> rfl

/-- What becomes of a request that shows what it has to of its query and its body, and of one that
does not. -/
def judged (front : Front) (query : Query) (body : Bytes) (endpoint : Endpoint) : Decision :=
  match Check.first? (endpoint.checks query body) with
  | some r => .reply r.response
  | none => front.admitted query body endpoint

/-- A request to an endpoint is the checks of the endpoint and then its order. -/
theorem onRoute_eq (builtin : front.catalog = .builtin) {route : Route} {endpoint : Endpoint}
    (takes : request.method ∈ route.methods)
    (addressed : Endpoint.onRoute? request.method route = some endpoint)
    (read : Query.parse request.target.query = .ok query)
    (short : endpoint.takesBody → request.body.length ≤ maxBody) :
    front.onRoute request route = front.judged query request.body endpoint := by
  cases route with
  | health => cases addressed
  | catalog => cases addressed; rfl
  | inst spelled =>
    cases named : Route.instanceName spelled with
    | error e => simp [Endpoint.onRoute?, named, Except.toOption] at addressed
    | ok name =>
      simp only [Route.methods, List.mem_cons, List.not_mem_nil, or_false] at takes
      obtain method | method | method := takes
      · obtain rfl : Endpoint.provision name = endpoint := by
          simpa [Endpoint.onRoute?, named, Except.toOption, method] using addressed
        refine onRoute_of_order ?_
        rw [order?, method]
        exact congrArg some (provision_eq builtin named read (short rfl))
      · obtain rfl : Endpoint.update name = endpoint := by
          simpa [Endpoint.onRoute?, named, Except.toOption, method] using addressed
        simp only [onRoute, order?, method, update, named]
        rfl
      · obtain rfl : Endpoint.deprovision name = endpoint := by
          simpa [Endpoint.onRoute?, named, Except.toOption, method] using addressed
        refine onRoute_of_order ?_
        rw [order?, method]
        exact congrArg some (deprovision_eq builtin named read)
  | lastOperation spelled =>
    cases named : Route.instanceName spelled with
    | error e => simp [Endpoint.onRoute?, named, Except.toOption] at addressed
    | ok name =>
      obtain rfl : Endpoint.lastOperation name = endpoint := by
        simpa [Endpoint.onRoute?, named, Except.toOption] using addressed
      exact onRoute_of_order (congrArg some (lastOperation_eq builtin named read))
  | binding spelled bound =>
    cases named : Route.instanceName spelled with
    | error e => simp [Endpoint.onRoute?, named, Except.toOption] at addressed
    | ok name =>
      cases tied : Route.bindingName bound with
      | error e => simp [Endpoint.onRoute?, named, tied, Except.toOption] at addressed
      | ok binding =>
        simp only [Route.methods, List.mem_cons, List.not_mem_nil, or_false] at takes
        obtain method | method := takes
        · obtain rfl : Endpoint.bind name binding = endpoint := by
            simpa [Endpoint.onRoute?, named, tied, Except.toOption, method] using addressed
          refine onRoute_of_order ?_
          rw [order?, method]
          exact congrArg some (bind_eq builtin named tied (short rfl))
        · obtain rfl : Endpoint.unbind name binding = endpoint := by
            simpa [Endpoint.onRoute?, named, tied, Except.toOption, method] using addressed
          refine onRoute_of_order ?_
          rw [order?, method]
          exact congrArg some (unbind_eq builtin named tied read)

end Front

/-! ### The whole front -/

/-- Only a path that does not take the method of the request tells of the methods it takes. -/
theorem Endpoint.allow_of_onRoute? {method : Method} {route : Route} {endpoint : Endpoint}
    (addressed : onRoute? method route = some endpoint) : endpoint.allow = none := by
  cases route with
  | health => cases addressed
  | catalog => cases addressed; rfl
  | inst spelled =>
    obtain ⟨name, -, given⟩ := Option.bind_eq_some_iff.mp addressed
    obtain rfl := Option.some.inj given
    cases method <;> rfl
  | lastOperation spelled =>
    obtain ⟨name, -, given⟩ := Option.bind_eq_some_iff.mp addressed
    obtain rfl := Option.some.inj given
    rfl
  | binding spelled bound =>
    obtain ⟨name, -, rest⟩ := Option.bind_eq_some_iff.mp addressed
    obtain ⟨binding, -, given⟩ := Option.bind_eq_some_iff.mp rest
    obtain rfl := Option.some.inj given
    cases method <;> rfl

namespace Check

/-- The first check that fails is in the first list, or else in the second. -/
theorem first?_append (first second : List Check) :
    first? (first ++ second) = (first? first).or (first? second) := by
  rw [first?, List.find?_append, first?, first?]
  cases first.find? (!·.holds) <;> rfl

/-- The gate refuses by the first of its checks that fails. -/
theorem check_eq_first? (auth : BasicAuth) (headers : Headers) :
    Gate.check auth headers = first? (gate auth headers) := by
  rw [Gate.check, gate, Gate.version, Gate.isAuthorized]
  cases hauth :
    (!auth.isEnabled || Gate.credentials? headers = some (auth.username, auth.password)) with
  | false => rfl
  | true =>
    cases headers.text? versionHeader with
    | none => rfl
    | some version =>
      by_cases empty : version = ""
      · subst empty; rfl
      · cases supported : Gate.isSupported version <;>
          simp_all [first?, Gate.isSupported]

end Check

namespace Front

variable {front : Front} {query : Query} {request : Request} {endpoint : Endpoint}

/-- A request that passes the gate goes to its route. -/
theorem decide_of_passed {route : Route} (routed : Route.ofPath? request.target.path = some route)
    (passed : front.refused? request (some route) = none)
    (takes : allowed? request (some route) = none) :
    front.decide request = front.onRoute request route := by
  simp only [decide, routed, passed, takes]

/-- What the front decides is the refusal of the first check that fails, or the order. -/
theorem decide_eq (builtin : front.catalog = .builtin)
    (addressed : Endpoint.of? request = some endpoint)
    (read : Query.parse request.target.query = .ok query)
    (short : endpoint.takesBody → request.body.length ≤ maxBody) :
    front.decide request =
      match Check.first? (front.checks request query endpoint) with
      | some r => .reply { r.response with allow := endpoint.allow }
      | none => front.admitted query request.body endpoint := by
  obtain ⟨route, routed, rest⟩ := Option.bind_eq_some_iff.mp addressed
  cases guarded : route.isPublic with
  | true => simp [guarded] at rest
  | false =>
    have refused : front.refused? request (some route) =
        Check.first? (Check.gate front.auth request.headers) := by
      rw [refused?, Option.any_some, guarded, ← Check.check_eq_first?]
      rfl
    simp only [guarded, Bool.false_eq_true, if_false] at rest
    simp only [decide, routed, refused, checks, Check.first?_append]
    by_cases takes : request.method ∈ route.methods
    · rw [if_pos takes] at rest
      have judge := onRoute_eq builtin takes rest read short
      have quiet : endpoint.allow = none := Endpoint.allow_of_onRoute? rest
      simp only [allowed?, if_pos takes, quiet, judge, judged]
      cases Check.first? (Check.gate front.auth request.headers) <;>
        cases Check.first? (endpoint.checks query request.body) <;> rfl
    · rw [if_neg takes] at rest
      obtain rfl := Option.some.inj rest
      simp only [allowed?, if_neg takes]
      cases Check.first? (Check.gate front.auth request.headers) <;> rfl

/-- **The first check that fails answers, and no handler is asked.**  Handlers answer in any monad:
that a response is `pure` says that none of them has been called.  A request for which no check
fails goes to the handler registered for its service and plan. -/
theorem respond_of_checks {m : Type → Type} [Monad m] [LawfulMonad m] (front : Front)
    (builtin : front.catalog = .builtin)
    (answer : DatabaseHandler → (call : Handler.Call) → m call.Answer) {request : Request}
    {endpoint : Endpoint} {query : Query} (addressed : Endpoint.of? request = some endpoint)
    (read : Query.parse request.target.query = .ok query)
    (short : endpoint.takesBody → request.body.length ≤ maxBody) :
    (∀ r, Check.first? (front.checks request query endpoint) = some r →
      front.respond answer request =
        pure (sent request.method { r.response with allow := endpoint.allow })) ∧
    (Check.first? (front.checks request query endpoint) = none →
      front.respond answer request =
        sent request.method <$> (front.admitted query request.body endpoint).respond answer) := by
  have decision := decide_eq builtin addressed read short
  constructor
  · intro r failed
    rw [failed] at decision
    rw [respond, decision, Decision.respond, map_pure]
  · intro passed
    rw [passed] at decision
    rw [respond, decision]

end Front

/-- A request to bind without a body. -/
def bodiless : Request where
  method := .put
  target := { path := Bytes.ofText "/v2/service_instances/a/service_bindings/b" }
  headers := [(versionHeader, Bytes.ofText "2.13")]

/-- A request to bind without a body is refused, and handlers that count their calls are not
called. -/
theorem bodiless_refused :
    Endpoint.of? bodiless = some (.bind "a" "b") ∧
    Check.first? (Front.checks {} bodiless {} (.bind "a" "b")) = some .malformedRequestBody ∧
    Front.respond (m := StateM Nat) {} (fun _ _ calls => (.error .database, calls + 1)) bodiless =
      pure Rejection.malformedRequestBody.response := by
  have addressed : Endpoint.of? bodiless = some (.bind "a" "b") := by decide +kernel
  have failed : Check.first? (Front.checks {} bodiless {} (.bind "a" "b")) =
      some .malformedRequestBody := by decide +kernel
  exact ⟨addressed, failed,
    (Front.respond_of_checks {} rfl _ addressed rfl fun _ => by decide).1 _ failed⟩

/-- A request to provision that does not say that the platform waits, with a body of one byte more
than is read. -/
def oversized : Request where
  method := .put
  target := { path := Bytes.ofText "/v2/service_instances/a" }
  headers := [(versionHeader, Bytes.ofText "2.13")]
  body := List.replicate (Front.maxBody + 1) 0x78

/-- A body over the limit is refused before anything is checked. -/
theorem decide_oversized :
    Front.decide {} oversized =
      .reply (.ofText 413 "Failed to buffer the request body: length limit exceeded") := by
  have long : Front.body oversized =
      .error (.ofText 413 "Failed to buffer the request body: length limit exceeded") :=
    if_neg (by rw [oversized, List.length_replicate]; decide)
  have routed : Route.ofPath? oversized.target.path = some (.inst (Bytes.ofText "a")) := by
    decide +kernel
  have passed : Front.refused? {} oversized (some (.inst (Bytes.ofText "a"))) = none := by
    decide +kernel
  have decoded : Percent.decode (Bytes.ofText "a") = Bytes.ofText "a" := by decide +kernel
  have named : Route.instanceName (Bytes.ofText "a") = .ok "a" := by
    rw [Route.instanceName, Route.parameter, decoded, Bytes.text?_ofText]
  have queried : Front.query oversized = .ok {} := by rfl
  have refusal : Front.provision {} oversized (Bytes.ofText "a") =
      .error (.ofText 413 "Failed to buffer the request body: length limit exceeded") := by
    rw [Front.provision, named, queried, long]
    rfl
  have ordered : Front.order? {} oversized (.inst (Bytes.ofText "a")) =
      some (Front.provision {} oversized (Bytes.ofText "a")) := rfl
  have takes : Front.allowed? oversized (some (.inst (Bytes.ofText "a"))) = none := rfl
  rw [Front.decide_of_passed routed passed takes, Front.onRoute, ordered, refusal]

/-- **A body that is too long to be read is answered before anything is checked behind the gate**,
also where the first check that fails is another one. -/
theorem oversized_answered_unchecked :
    Endpoint.of? oversized = some (.provision "a") ∧
    Query.parse oversized.target.query = .ok {} ∧
    Check.first? (Front.checks {} oversized {} (.provision "a")) = some .asyncRequired ∧
    ∀ answer : DatabaseHandler → (call : Handler.Call) → Id call.Answer,
      Front.respond {} answer oversized ≠
        pure (Front.sent oversized.method Rejection.asyncRequired.response) := by
  refine ⟨by decide +kernel, rfl, by decide +kernel, fun answer same => ?_⟩
  have statuses := congrArg (fun response : Id Response => response.run.status) same
  rw [Front.respond, decide_oversized] at statuses
  have equal : 413 = 422 := statuses
  omega

end Http
end ServiceBroker

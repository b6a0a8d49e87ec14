/-
# What is said about failures

A failure of a handler carries what it was and where it arose.  None of this is told to a
platform: an operation whose handler fails gives up (`Lifecycle.GivesUp`), and all that is left
of the failure is the status.  What is said in other responses to requests that come to nothing
is one of a few texts (`Http.fixedErrors`).  `Http.failures_stay_inside` puts the two together for
the whole front.
-/

import ServiceBroker.Proofs.FixedErrors
import ServiceBroker.Proofs.GivingUp

namespace ServiceBroker
namespace Http

open Handler (Agree Failed)
open Lifecycle (GivesUp)
open Program (Asked noting)

/-- A failure is told as no more than its status. -/
theorem ofOutcome_failure (request : Lifecycle.Request) :
    Response.ofOutcome request.failure = .blank 500 := by
  cases request <;> rfl

/-- A response that tells of nothing but which of a few things went wrong, or that nothing did. -/
def Plain (request : Request) (response : Response) : Prop :=
  response.status < 400 ∨ ∃ r ∈ fixedErrors,
    response = { r with allow := Front.allowed? request (Route.ofPath? request.target.path) }

/-- None of the fixed responses tells of methods by itself. -/
theorem allow_of_fixed {r : Response} (listed : r ∈ fixedErrors) : r.allow = none := by
  simp only [fixedErrors, List.mem_append, List.mem_cons, List.mem_map, List.not_mem_nil,
    or_false] at listed
  obtain ((rfl | rfl | rfl | rfl | rfl | rfl | rfl | rfl | rfl | rfl | rfl) | ⟨key, -, rfl⟩) |
    ⟨rejection, -, rfl⟩ := listed <;> rfl

/-- What the gate refuses gets a fixed response. -/
theorem refused?_fixed {front : Front} {request : Request} {route : Option Route} {r : Rejection}
    (refused : front.refused? request route = some r) : r.response ∈ fixedErrors := by
  simp only [Front.refused?, Gate.check] at refused
  split_ifs at refused <;> cases refused <;> simp [fixedErrors]

/-- What becomes of a request for a route that takes its method. -/
theorem onRoute_cases (front : Front) (request : Request) (route : Route) :
    (∃ response, front.onRoute request route = .reply response ∧
        (response.status < 400 ∨ response ∈ fixedErrors)) ∨
      ∃ handler operation, front.onRoute request route = .perform handler operation ∧
        Verbatim request (handler, operation) := by
  unfold Front.onRoute
  cases ordered : front.order? request route with
  | none =>
    refine .inl ⟨_, rfl, .inl ?_⟩
    cases route <;> exact (show 200 < 400 by omega)
  | some order =>
    have ensured := ensures_order? front request ordered
    cases order with
    | ok order => exact .inr ⟨order.1, order.2, rfl, ensured⟩
    | error response => exact .inl ⟨response, rfl, .inr ensured⟩

/-- What becomes of a request, with what is told to the platform. -/
theorem decide_cases (front : Front) (request : Request) :
    (∃ response, front.decide request = .reply response ∧ Plain request response) ∨
      ∃ handler operation, front.decide request = .perform handler operation ∧
        Front.allowed? request (Route.ofPath? request.target.path) = none ∧
        Verbatim request (handler, operation) := by
  simp only [Front.decide]
  cases refused : front.refused? request (Route.ofPath? request.target.path) with
  | some r => exact .inl ⟨_, rfl, .inr ⟨r.response, refused?_fixed refused, rfl⟩⟩
  | none =>
    cases routed : Route.ofPath? request.target.path with
    | none =>
      refine .inl ⟨_, rfl, .inr ⟨.bare 404, by simp [fixedErrors], ?_⟩⟩
      rw [routed]
      rfl
    | some route =>
      cases allowed : Front.allowed? request (some route) with
      | some methods =>
        refine .inl ⟨_, rfl, .inr ⟨.bare 405, by simp [fixedErrors], ?_⟩⟩
        rw [routed, allowed]
      | none =>
        obtain ⟨response, reply, told⟩ | ⟨handler, operation, performs, verbatim⟩ :=
          onRoute_cases front request route
        · refine .inl ⟨response, reply, told.imp_right fun listed => ⟨response, listed, ?_⟩⟩
          rw [routed, allowed, ← allow_of_fixed listed]
        · exact .inr ⟨handler, operation, performs, rfl, verbatim⟩

/-- A response is sent with its status. -/
theorem status_sent (method : Method) (response : Response) :
    (Front.sent method response).status = response.status := by
  unfold Front.sent
  split_ifs <;> rfl

/-- What is told of an operation, on any handler. -/
theorem respond_perform {σ : Type} {front : Front} {request : Request} {handler : DatabaseHandler}
    {operation : Lifecycle.Request} (performs : front.decide request = .perform handler operation)
    (answer : DatabaseHandler → (call : Handler.Call) → StateM σ call.Answer) (s : σ) :
    ((front.respond answer request).run s).1 = Front.sent request.method (Response.ofOutcome
      (((Lifecycle.perform operation).run (I := Handler.interface) (answer handler)).run s).1) := by
  rw [Front.respond, performs]
  rfl

variable {σ τ : Type} (front : Front) (request : Request)

/-- Handlers that agree are answered for in the same words. -/
theorem response_eq_of_agree {related : σ → τ → Prop}
    {first : DatabaseHandler → (call : Handler.Call) → StateM σ call.Answer}
    {second : DatabaseHandler → (call : Handler.Call) → StateM τ call.Answer}
    (agree : ∀ handler, Agree related (first handler) (second handler)) {s : σ} {t : τ}
    (alike : related s t) :
    ((front.respond first request).run s).1 = ((front.respond second request).run t).1 := by
  obtain ⟨response, reply, -⟩ | ⟨handler, operation, performs, -, -⟩ := decide_cases front request
  · rw [Front.respond, Front.respond, reply]
    rfl
  · rw [respond_perform performs, respond_perform performs, Lifecycle.run_eq_of_agree
      (agree handler) (Lifecycle.givesUp_perform operation) alike]

/-- If a call fails, the response is that of the failure, and no more is called. -/
theorem response_of_failed
    (answer : DatabaseHandler → (call : Handler.Call) → StateM σ call.Answer) (s : σ) :
    ∃ asked, (front.respond (fun handler => noting (I := Handler.interface) (answer handler))
        request).run (s, []) = (((front.respond answer request).run s).1,
          ((front.respond answer request).run s).2, asked) ∧
      ((∃ x ∈ asked, Failed x) → ((front.respond answer request).run s).1 =
        Front.sent request.method (.blank 500)) := by
  obtain ⟨response, reply, -⟩ | ⟨handler, operation, performs, -, -⟩ := decide_cases front request
  · simp only [Front.respond, reply]
    refine ⟨[], rfl, ?_⟩
    rintro ⟨x, here, -⟩
    cases here
  · obtain ⟨asked, leads, noted⟩ := Program.run_noting (I := Handler.interface) (answer handler)
      (Lifecycle.perform operation) s []
    refine ⟨asked, ?_, fun fails => ?_⟩
    · simp only [Front.respond, performs, Decision.respond, StateT.run_map, noted]
      rfl
    · have failure := (Lifecycle.givesUp_perform operation).of_failed leads fails
      have told := respond_perform performs answer s
      rwa [failure, ofOutcome_failure] at told

/-- A response of an error is a fixed one, or tells what is wrong with the parameters. -/
theorem text_of_error
    (answer : DatabaseHandler → (call : Handler.Call) → StateM σ call.Answer) (s : σ)
    (fails : 400 ≤ ((front.respond answer request).run s).1.status) :
    (∃ r ∈ fixedErrors, ((front.respond answer request).run s).1 = Front.sent request.method
      { r with allow := Front.allowed? request (Route.ofPath? request.target.path) }) ∨
    ∃ asked e, ServiceRequest.parse? request.body = some asked ∧
      Parameters.parse asked.parameters = .error e ∧
      ((front.respond answer request).run s).1 =
        Front.sent request.method (Rejection.malformedParameter e.message).response := by
  obtain ⟨response, reply, told⟩ | ⟨handler, operation, performs, allowed, verbatim⟩ :=
    decide_cases front request
  · have is : ((front.respond answer request).run s).1 = Front.sent request.method response := by
      rw [Front.respond, reply]
      rfl
    rw [is, status_sent] at fails
    obtain fine | ⟨r, listed, rfl⟩ := told
    · omega
    · exact .inl ⟨r, listed, is⟩
  · have is := respond_perform performs answer s
    obtain ⟨asked, leads, -⟩ := Program.run_noting (I := Handler.interface) (answer handler)
      (Lifecycle.perform operation) s []
    generalize (((Lifecycle.perform operation).run (I := Handler.interface)
      (answer handler)).run s).1 = outcome at is leads
    rw [is, status_sent] at fails
    by_cases valid : ∀ text, outcome ≠ .provision (.invalidParameters text)
    · obtain fine | listed := ofOutcome_fixed valid
      · omega
      · refine .inl ⟨_, listed, ?_⟩
        rw [is, allowed, ← allow_of_fixed listed]
    · push Not at valid
      obtain ⟨text, rfl⟩ := valid
      obtain ⟨name, raw, e, rfl, wrong, rfl⟩ := Lifecycle.parse_of_invalidParameters leads
      obtain ⟨given, parsed, rfl⟩ := verbatim name raw rfl
      exact .inr ⟨given, e, parsed, wrong, is⟩

/-- **Failures stay inside.**  Handlers that fail on the same calls, in whatever ways, get the same
responses.  Once a call has failed the response is a 500 with an empty object, which is left out
where only the headers are asked for.  And every response that is an error is one of `fixedErrors`,
or says what is wrong with the parameters in the body of the request. -/
theorem failures_stay_inside :
    (∀ {σ τ : Type} (related : σ → τ → Prop)
      (first : DatabaseHandler → (call : Handler.Call) → StateM σ call.Answer)
      (second : DatabaseHandler → (call : Handler.Call) → StateM τ call.Answer),
      (∀ handler, Agree related (first handler) (second handler)) →
      ∀ s t, related s t → ((front.respond first request).run s).1 =
        ((front.respond second request).run t).1) ∧
    (∀ {σ : Type} (answer : DatabaseHandler → (call : Handler.Call) → StateM σ call.Answer) (s : σ),
      ∃ asked, (front.respond (fun handler => noting (I := Handler.interface) (answer handler))
          request).run (s, []) = (((front.respond answer request).run s).1,
            ((front.respond answer request).run s).2, asked) ∧
        ((∃ x ∈ asked, Failed x) → ((front.respond answer request).run s).1 =
          Front.sent request.method (.blank 500))) ∧
    (∀ {σ : Type} (answer : DatabaseHandler → (call : Handler.Call) → StateM σ call.Answer) (s : σ),
      let response := ((front.respond answer request).run s).1
      400 ≤ response.status →
      (∃ r ∈ fixedErrors, response = Front.sent request.method
        { r with allow := Front.allowed? request (Route.ofPath? request.target.path) }) ∨
      ∃ asked e, ServiceRequest.parse? request.body = some asked ∧
        Parameters.parse asked.parameters = .error e ∧
        response =
          Front.sent request.method (Rejection.malformedParameter e.message).response) := by
  refine ⟨?_, ?_, ?_⟩
  · intro σ τ related first second agree s t alike
    exact response_eq_of_agree front request agree alike
  · intro σ answer s
    exact response_of_failed front request answer s
  · intro σ answer s response fails
    exact text_of_error front request answer s fails

/-- A request to provision. -/
def provisioning : Request where
  method := .put
  target := {
    path := Bytes.ofText "/v2/service_instances/a"
    query := some (Bytes.ofText "accepts_incomplete=true") }
  headers := [(versionHeader, Bytes.ofText "2.13")]
  body := Bytes.ofText (
    "\x7b\"service_id\":\"c4f353f3-8a59-437d-b4af-6a6f856248db\"," ++
    "\"plan_id\":\"7320351e-4664-4df5-938c-c0bfe8551609\"," ++
    "\"parameters\":\x7b\"switchID\":1,\"ipaddress\":\"10.0.0.2\",\"maskLen\":24," ++
    "\"defaultRoute\":\"10.0.0.1\"\x7d\x7d")

/-- A handler that finds nothing and fails at everything else. -/
def unable (e : ServiceError) (_ : DatabaseHandler) :
    (call : Handler.Call) → StateM Unit call.Answer
  | .instanceState _ _ | .bindingState _ _ => pure (.ok none)
  | .createInstance _ _ | .deleteInstance _ | .createBinding _ _ | .deleteBinding _ _ =>
    pure (.error e)

/-- Two handlers that are unable agree, whatever their failures are. -/
theorem agree_unable (e e' : ServiceError) (handler : DatabaseHandler) :
    Agree (fun _ _ => True) (unable e handler) (unable e' handler) := by
  intro call s t _
  cases call with
  | instanceState name requested => exact .inl ⟨none, s, t, rfl, rfl, trivial⟩
  | bindingState name binding => exact .inl ⟨none, s, t, rfl, rfl, trivial⟩
  | createInstance name parameters => exact .inr ⟨e, e', s, t, rfl, rfl⟩
  | deleteInstance name => exact .inr ⟨e, e', s, t, rfl, rfl⟩
  | createBinding name binding => exact .inr ⟨e, e', s, t, rfl, rfl⟩
  | deleteBinding name binding => exact .inr ⟨e, e', s, t, rfl, rfl⟩

/-- An appliance that cannot be created is a bare 500, whether the database could not be reached or
a step failed for a reason that has a text. -/
theorem unable_stays_inside :
    let untold := Front.respond {} (unable .database) provisioning
    let told := Front.respond {} (unable (.step "creating" (.internal "secret"))) provisioning
    (untold.run ()).1 = (told.run ()).1 ∧
    (untold.run ()).1 = Front.sent provisioning.method (.blank 500) ∧
    ∃ r ∈ fixedErrors, (untold.run ()).1 = Front.sent provisioning.method
      { r with allow := Front.allowed? provisioning (Route.ofPath? provisioning.target.path) } := by
  obtain ⟨same, bare, texts⟩ := failures_stay_inside {} provisioning
  refine ⟨?_, ?_, ?_⟩
  · have agree := agree_unable .database (.step "creating" (.internal "secret"))
    exact same (fun _ _ => True) _ _ agree () () trivial
  · obtain ⟨asked, noted, response⟩ := bare (unable .database) ()
    have is : asked = ((Front.respond {} (fun handler => noting (I := Handler.interface)
        (unable .database handler)) provisioning).run ((), [])).2.2 := by rw [noted]
    exact response (by rw [is]; decide +kernel)
  · have status : ((Front.respond {} (unable .database) provisioning).run ()).1.status = 500 := by
      decide +kernel
    obtain listed | ⟨asked, e, -, -, is⟩ := texts (unable .database) () (by rw [status]; omega)
    · exact listed
    · rw [is, status_sent] at status
      exact absurd status (show (400 : Nat) ≠ 500 by omega)

/-- A poll that asks for the headers only. -/
def glance : Request where
  method := .head
  target := {
    path := Bytes.ofText "/v2/service_instances/a/last_operation"
    query := some (Bytes.ofText ("operation=provisioning" ++
      "&service_id=c4f353f3-8a59-437d-b4af-6a6f856248db" ++
      "&plan_id=7320351e-4664-4df5-938c-c0bfe8551609")) }
  headers := [(versionHeader, Bytes.ofText "2.13")]

/-- A handler that fails at everything. -/
def failing (e : ServiceError) (_ : DatabaseHandler) (call : Handler.Call) :
    StateM Unit call.Answer :=
  pure (.error e)

/-- **A failure that only the headers are asked about is told without a body**, so not every
response to a request with a call that failed is a 500 with an empty object. -/
theorem failed_glance_without_body :
    (∃ x ∈ ((Front.respond {} (fun handler => noting (I := Handler.interface)
      (failing .database handler)) glance).run ((), [])).2.2, Failed x) ∧
    ((Front.respond {} (failing .database) glance).run ()).1 =
      { Response.blank 500 with body := .empty } ∧
    ((Front.respond {} (failing .database) glance).run ()).1.body ≠ (Response.blank 500).body := by
  have failed : ∃ x ∈ ((Front.respond {} (fun handler => noting (I := Handler.interface)
      (failing .database handler)) glance).run ((), [])).2.2, Failed x := by decide +kernel
  obtain ⟨asked, noted, response⟩ := response_of_failed {} glance (failing .database) ()
  have is : ((Front.respond {} (failing .database) glance).run ()).1 =
      { Response.blank 500 with body := .empty } := response (by rw [noted] at failed; exact failed)
  refine ⟨failed, is, ?_⟩
  rw [is]
  intro same
  cases same

end Http
end ServiceBroker

/-
# One change at most, and last

An operation looks before it acts.  Whatever a handler answers, an operation orders at most
one change: one of its own kind, as the last of its calls, and on the strength of what it has
been told until then (`Lifecycle.Warrants`).  A platform that is told that nothing came of
its request can rely on it (`Lifecycle.Disciplined`).

What a program may ask after the answers that it has had is a rule about a single call
(`Program.Keeps`).  A run keeps it because each of its steps does (`Program.Keeps.of_leads`),
and what any handler answers is a run (`Program.run_noting`).
-/

import ServiceBroker.Lifecycle
import ServiceBroker.Proofs.Asking

namespace ServiceBroker
namespace Program

variable {I : Interface} {α σ : Type}

/-- A program that asks nothing but what `may` allows after the questions before, and has no value
but what `ends` allows after all of them, whatever the answers are. -/
def Keeps (may : List (Asked I) → I.Call → Prop) (ends : List (Asked I) → α → Prop) :
    List (Asked I) → Program I α → Prop
  | asked, .done value => ends asked value
  | asked, .ask call next =>
    may asked call ∧ ∀ answer, Keeps may ends (asked ++ [⟨call, answer⟩]) (next answer)

variable {may : List (Asked I) → I.Call → Prop} {ends : List (Asked I) → α → Prop}
  {earlier asked before after : List (Asked I)} {x : Asked I} {p left : Program I α}

/-- What is left of a program keeps the rules that the program keeps. -/
theorem Keeps.of_leads (keeps : Keeps may ends earlier p) (leads : Leads p asked left) :
    Keeps may ends (earlier ++ asked) left := by
  induction leads generalizing earlier with
  | start p => rwa [List.append_nil]
  | ask answer rest ih =>
    -- What was asked first now comes before the rest.
    rw [List.append_cons]
    exact ih (keeps.2 answer)

/-- Every question of a run was allowed after the questions before it. -/
theorem Keeps.may_of_leads (keeps : Keeps may ends earlier p) (leads : Leads p asked left)
    (split : asked = before ++ x :: after) : may (earlier ++ before) x.call := by
  induction leads generalizing earlier before with
  | start p => cases before <;> cases split
  | ask answer rest ih =>
    cases before with
    | nil =>
      cases split
      rw [List.append_nil]
      exact keeps.1
    | cons first before =>
      cases split
      rw [List.append_cons]
      exact ih (keeps.2 answer) rfl

/-- More values may be allowed. -/
theorem Keeps.imp {ends' : List (Asked I) → α → Prop} (keeps : Keeps may ends earlier p)
    (weaker : ∀ asked value, ends asked value → ends' asked value) :
    Keeps may ends' earlier p := by
  induction p generalizing earlier with
  | done value => exact weaker earlier value keeps
  | ask call next ih => exact ⟨keeps.1, fun answer => ih answer (keeps.2 answer)⟩

/-- **One program after another** keeps the rules where each keeps them after what was before. -/
theorem Keeps.bind {β : Type} {f : α → Program I β} {between : List (Asked I) → α → Prop}
    {ends : List (Asked I) → β → Prop} (first : Keeps may between earlier p)
    (second : ∀ asked value, between asked value → Keeps may ends asked (f value)) :
    Keeps may ends earlier (p.bind f) := by
  induction p generalizing earlier with
  | done value => exact second earlier value first
  | ask call next ih => exact ⟨first.1, fun answer => ih answer (first.2 answer)⟩

/-- Answers as before, with a note of every question and its answer. -/
def noting (answer : (call : I.Call) → StateM σ (I.Answer call)) (call : I.Call) :
    StateM (σ × List (Asked I)) (I.Answer call) := fun (s, asked) =>
  let (a, s) := (answer call).run s
  (a, s, asked ++ [⟨call, a⟩])

/-- **What comes of a program is where the questions that it asked lead to.** -/
theorem run_noting (answer : (call : I.Call) → StateM σ (I.Answer call)) (p : Program I α) (s : σ)
    (before : List (Asked I)) :
    ∃ asked, Leads p asked (.done ((p.run answer).run s).1) ∧
      (p.run (noting answer)).run (s, before) =
        (((p.run answer).run s).1, ((p.run answer).run s).2, before ++ asked) := by
  induction p generalizing s before with
  | done value => exact ⟨[], .start _, by rw [List.append_nil]; rfl⟩
  | ask call next ih =>
    obtain ⟨asked, leads, noted⟩ := ih ((answer call).run s).1 ((answer call).run s).2
      (before ++ [⟨call, ((answer call).run s).1⟩])
    rw [← List.append_cons] at noted
    exact ⟨_, .ask _ leads, noted⟩

end Program

namespace Lifecycle

open Program (Asked Keeps Leads noting)

/-- What has to be known before an order to change something: the questions of a request until then
with their answers, and the order. -/
inductive Warrants : Request → List (Asked Handler.interface) → Handler.Call → Prop where
  | create {name : String} {raw : Option Json} {p : Parameters}
    (parsed : Parameters.parse raw = .ok p) :
    Warrants (.provision name raw) [⟨.instanceState name (some p), .ok none⟩]
      (.createInstance name p)
  | delete {name : String} {state : InstanceState} (staying : state.isMigrating = false)
    (deletable : state.isUp = true ∨ state.isFailed = true) :
    Warrants (.deprovision name) [⟨.instanceState name none, .ok (some state)⟩]
      (.deleteInstance name)
  | bind {name binding : String} {state : InstanceState} :
    Warrants (.bind name binding)
      [⟨.instanceState name none, .ok (some state)⟩, ⟨.bindingState name binding, .ok none⟩]
      (.createBinding name binding)
  | unbind {name binding : String} {state : InstanceState} (up : state.isUp = true)
    (sound : state.isFailed = false) :
    Warrants (.unbind name binding) [⟨.instanceState name none, .ok (some state)⟩]
      (.deleteBinding name binding)

/-- None of these questions changed anything. -/
def Quiet (asked : List (Asked Handler.interface)) : Prop := ∀ x ∈ asked, x.call.hasEffect = false

/-- A poll changes nothing, whatever comes of it. -/
def Request.isPoll : Request → Bool
  | .poll _ _ => true
  | .provision _ _ | .deprovision _ | .bind _ _ | .unbind _ _ => false

/-- A platform that is told so takes it that nothing was changed for its request. -/
def Outcome.isRefusal : Outcome → Bool
  | .provision .conflict | .provision .alreadyProvisioned => true
  | .provision (.invalidParameters _) => true
  | .provision .accepted | .provision .internalError => false
  | .deprovision .gone | .deprovision .unprocessable => true
  | .deprovision .accepted | .deprovision .internalError => false
  | .poll .gone => true
  | .poll _ => false
  | .bind .conflict | .bind (.alreadyBound _) | .bind .instanceNotFound => true
  | .bind (.created _) | .bind .internalError => false
  | .unbind .instanceNotFound => true
  | .unbind .unbound | .unbind .internalError => false

/-- The questions of a request and its outcome are those of an operation that changes something at
most once, last and with a warrant. -/
structure Disciplined (request : Request) (asked : List (Asked Handler.interface))
    (outcome : Outcome) : Prop where
  once : asked.countP (·.call.hasEffect) ≤ 1
  last : ∀ before x after, asked = before ++ x :: after → x.call.hasEffect = true → after = []
  warranted : ∀ before x after, asked = before ++ x :: after → x.call.hasEffect = true →
    Warrants request before x.call
  untouched : request.isPoll = true ∨ outcome.isRefusal = true → Quiet asked

variable {request : Request} {asked : List (Asked Handler.interface)} {outcome : Outcome}

/-- A request asks as long as it has changed nothing, and changes something with a warrant. -/
def May (request : Request) (asked : List (Asked Handler.interface)) (call : Handler.Call) : Prop :=
  Quiet asked ∧ (call.hasEffect = true → Warrants request asked call)

/-- A request that is polled or refused ends without a change. -/
def Ends (request : Request) (asked : List (Asked Handler.interface)) (outcome : Outcome) : Prop :=
  request.isPoll = true ∨ outcome.isRefusal = true → Quiet asked

/-- Nothing has been asked yet. -/
theorem quiet_nil : Quiet [] := List.forall_mem_nil _

/-- Another look is quiet too. -/
theorem Quiet.concat {x : Asked Handler.interface} (quiet : Quiet asked)
    (look : x.call.hasEffect = false) : Quiet (asked ++ [x]) :=
  List.forall_mem_append.2 ⟨quiet, List.forall_mem_singleton.2 look⟩

section Steps

variable {α : Type} {told : α → Outcome} {call : Handler.Call} {next : call.Answer → Action α}

/-- A program for a request keeps to the rules from here on. -/
abbrev Obeys (request : Request) (told : α → Outcome) (asked : List (Asked Handler.interface))
    (p : Action α) : Prop :=
  Keeps (May request) (fun asked value => Ends request asked (told value)) asked p

/-- A request that has only looked may look again. -/
theorem obeys_look (quiet : Quiet asked) (look : call.hasEffect = false)
    (rest : ∀ answer, Quiet (asked ++ [⟨call, answer⟩]) →
      Obeys request told (asked ++ [⟨call, answer⟩]) (next answer)) :
    Obeys request told asked (.ask call next) := by
  refine ⟨⟨quiet, fun acts => ?_⟩, fun answer => rest answer (quiet.concat look)⟩
  rw [look] at acts
  cases acts

/-- A request that has only looked may end. -/
theorem obeys_done (quiet : Quiet asked) (value : α) : Obeys request told asked (.done value) :=
  fun _ => quiet

/-- A request that has only looked may change what it has a warrant for, and then is done. -/
theorem obeys_act (quiet : Quiet asked) (warrants : Warrants request asked call)
    (ends : ∀ answer, ∃ value, next answer = .done value ∧ (told value).isRefusal = false) :
    Obeys request told asked (.ask call next) := by
  refine ⟨⟨quiet, fun _ => warrants⟩, fun answer => ?_⟩
  obtain ⟨value, done, accepted⟩ := ends answer
  rw [done]
  intro idle
  have polled : request.isPoll = false := by cases warrants <;> rfl
  rw [polled, accepted] at idle
  simp at idle

/-- What is told of the value changes nothing of what is asked. -/
theorem obeys_map {p : Action α} (obeys : Obeys request told asked p) :
    Obeys request id asked (p.bind fun value => .done (told value)) :=
  obeys.bind fun _ _ ends => ends

end Steps

/-- A request to provision obeys. -/
theorem obeys_provision (name : String) (raw : Option Json) :
    Obeys (.provision name raw) .provision [] (provision name raw) := by
  unfold provision
  cases parsed : Parameters.parse raw with
  | error e => exact obeys_done quiet_nil _
  | ok p =>
    refine obeys_look quiet_nil rfl fun answer quiet => ?_
    rcases answer with e | (_ | state)
    · exact obeys_done quiet _
    · refine obeys_act quiet (.create parsed) fun answer => ?_
      cases answer with
      | ok _ => exact ⟨_, rfl, rfl⟩
      | error e => exact ⟨_, rfl, rfl⟩
    · dsimp only [Program.bind]
      split_ifs <;> exact obeys_done quiet _

/-- A request to deprovision obeys. -/
theorem obeys_deprovision (name : String) :
    Obeys (.deprovision name) .deprovision [] (deprovision name) := by
  refine obeys_look quiet_nil rfl fun answer quiet => ?_
  rcases answer with e | (_ | state)
  · exact obeys_done quiet _
  · exact obeys_done quiet _
  · dsimp only [Program.bind]
    split_ifs with migrating deletable
    · exact obeys_done quiet _
    · refine obeys_act quiet (.delete (by simpa using migrating) (by simpa using deletable)) ?_
      rintro (e | _)
      · exact ⟨_, rfl, rfl⟩
      · exact ⟨_, rfl, rfl⟩
    · exact obeys_done quiet _

/-- A poll obeys. -/
theorem obeys_poll (operation : Operation) (name : String) :
    Obeys (.poll operation name) .poll [] (poll operation name) := by
  refine obeys_look quiet_nil rfl fun answer quiet => ?_
  rcases answer with e | (_ | state)
  · exact obeys_done quiet _
  · exact obeys_done quiet _
  · dsimp only [Program.bind]
    split_ifs <;> exact obeys_done quiet _

/-- A request to bind obeys. -/
theorem obeys_bind (name binding : String) :
    Obeys (.bind name binding) .bind [] (bind name binding) := by
  refine obeys_look quiet_nil rfl fun answer quiet => ?_
  rcases answer with e | (_ | state)
  · exact obeys_done quiet _
  · exact obeys_done quiet _
  · refine obeys_look quiet rfl fun answer quiet => ?_
    rcases answer with e | (_ | state)
    · exact obeys_done quiet _
    · refine obeys_act quiet .bind ?_
      rintro (e | credentials)
      · exact ⟨_, rfl, rfl⟩
      · exact ⟨_, rfl, rfl⟩
    · dsimp only [Program.bind]
      split_ifs <;> exact obeys_done quiet _

/-- A request to unbind obeys. -/
theorem obeys_unbind (name binding : String) :
    Obeys (.unbind name binding) .unbind [] (unbind name binding) := by
  refine obeys_look quiet_nil rfl fun answer quiet => ?_
  rcases answer with e | (_ | state)
  · exact obeys_done quiet _
  · exact obeys_done quiet _
  · dsimp only [Program.bind]
    split_ifs with stopped
    · exact obeys_done quiet _
    · simp only [Bool.or_eq_true, Bool.not_eq_true', not_or, Bool.not_eq_false,
        Bool.not_eq_true] at stopped
      refine obeys_act quiet (.unbind stopped.1 stopped.2) ?_
      rintro (e | _)
      · exact ⟨_, rfl, rfl⟩
      · exact ⟨_, rfl, rfl⟩

/-- **Every operation keeps to the rules**, whatever it is answered. -/
theorem obeys_perform (request : Request) : Obeys request id [] (perform request) := by
  cases request with
  | provision name raw => exact obeys_map (obeys_provision name raw)
  | deprovision name => exact obeys_map (obeys_deprovision name)
  | poll operation name => exact obeys_map (obeys_poll operation name)
  | bind name binding => exact obeys_map (obeys_bind name binding)
  | unbind name binding => exact obeys_map (obeys_unbind name binding)

/-- A run that leads to an outcome is disciplined: each of its questions was allowed after those
before it. -/
theorem disciplined_of_leads (leads : Leads (perform request) asked (.done outcome)) :
    Disciplined request asked outcome := by
  have may : ∀ before x after, asked = before ++ x :: after → May request before x.call :=
    fun before x after split => (obeys_perform request).may_of_leads leads split
  have last : ∀ before x after, asked = before ++ x :: after → x.call.hasEffect = true →
      after = [] := by
    intro before x after split acts
    rcases after with _ | ⟨y, after⟩
    · rfl
    · have quiet := (may (before ++ [x]) y after (by rw [split, List.append_cons])).1
      rw [quiet x (List.mem_append_right _ List.mem_cons_self)] at acts
      cases acts
  constructor
  case once =>
    by_cases quiet : ∃ x ∈ asked, x.call.hasEffect = true
    · obtain ⟨x, here, acts⟩ := quiet
      obtain ⟨before, after, split⟩ := List.append_of_mem here
      have none_before : before.countP (·.call.hasEffect) = 0 := by
        rw [List.countP_eq_zero]
        intro y earlier
        rw [(may before x after split).1 y earlier]
        exact Bool.false_ne_true
      rw [split, last before x after split acts, List.countP_append, none_before, Nat.zero_add]
      exact List.countP_le_length
    · have none_at_all : asked.countP (·.call.hasEffect) = 0 :=
        List.countP_eq_zero.2 fun x here acts => quiet ⟨x, here, acts⟩
      omega
  case last => exact last
  case warranted =>
    intro before x after split
    exact (may before x after split).2
  case untouched => exact (obeys_perform request).of_leads leads

/-- **One change at most, and last.**  Whatever a handler answers, in whatever state it is, the
calls that a request makes to it change something at most once: with the last of them, of the kind
that the request is for, and after the looks that warrant it.  A request that is refused, and a
poll, has changed nothing. -/
theorem one_change_at_most_and_last {σ : Type}
    (handler : (call : Handler.Call) → StateM σ call.Answer) (s : σ) (request : Request) :
    let (outcome, s') := ((perform request).run (I := Handler.interface) handler).run s
    ∃ asked, ((perform request).run (I := Handler.interface) (noting handler)).run (s, []) =
        (outcome, s', asked) ∧
      Disciplined request asked outcome := by
  obtain ⟨asked, leads, noted⟩ :=
    Program.run_noting (I := Handler.interface) handler (perform request) s []
  exact ⟨asked, noted, disciplined_of_leads leads⟩

end Lifecycle
end ServiceBroker

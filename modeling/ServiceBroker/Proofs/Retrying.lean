/-
# How often a request is sent

What an outcome of a transport is taken for is a relation of its own (`TakenFor`), which
`Client.judge` computes (`takenFor_iff`).  From it comes the first outcome after which a request
is not sent again (`firstLasting`).  A client sends a request once for each outcome up to that
one, as far as its limit allows, and pauses in between (`Client.play_retrying`).

Requests go through a library that can put together only some of them, and which these are is
left open (`relay`).  A client does not know them either: for one that cannot be put together, no
reply comes, and it is sent again like one whose reply was lost (`Client.play_call_of_refused`).
-/

import Mathlib.Data.ENat.Lattice
import Mathlib.Data.Stream.Init
import ServiceBroker.Proofs.Discipline
import ServiceBroker.Provider.Rest.Client

namespace ServiceBroker
namespace Provider
namespace Rest

open Program (Asked noting)

section Outcomes

variable {text message : String} {reply : Reply} {outcome : Option Reply}
  {result : Except ProviderError (Option Json)} {outcomes : Stream' (Option Reply)} {n limit : Nat}

/-- What a refusal with some text says: the text under `error_msg` where it is an object with one,
or else its first 200 characters. -/
inductive Tells (text : String) : String → Prop where
  | member {members : List (String × Json)} {message : String}
    (object : Json.parse? (Bytes.ofText text) = some (.object members))
    (there : members.lookup "error_msg" = some (.string message)) : Tells text message
  | beginning (otherwise : ∀ members message,
      Json.parse? (Bytes.ofText text) = some (.object members) →
        members.lookup "error_msg" ≠ some (.string message)) :
    Tells text (String.ofList (text.toList.take 200))

/-- The text of a refusal is what it tells. -/
theorem tells_refusalText (text : String) : Tells text (Client.refusalText text) := by
  rw [Client.refusalText]
  split
  next message found =>
    obtain ⟨value, parsed, there⟩ := Option.bind_eq_some_iff.1 found
    cases value with
    | object members => exact .member parsed there
    | _ => cases there
  next other =>
    refine .beginning fun members message parsed there => other message ?_
    rw [parsed]
    exact there

/-- **A refusal says one thing.** -/
theorem tells_iff : Tells text message ↔ message = Client.refusalText text := by
  refine ⟨fun tells => ?_, fun is => is ▸ tells_refusalText text⟩
  cases tells with
  | member object there =>
    have found : (Json.parse? (Bytes.ofText text)).bind (·.member? "error_msg") =
        some (.string message) := by
      rw [object]
      exact there
    rw [Client.refusalText, found]
  | beginning otherwise =>
    rw [Client.refusalText]
    split
    next message found =>
      obtain ⟨value, parsed, there⟩ := Option.bind_eq_some_iff.1 found
      cases value with
      | object members => exact absurd there (otherwise members message parsed)
      | _ => cases there
    next => rfl

/-- A reply whose status tells of a success. -/
def Reply.Succeeds (reply : Reply) : Prop := 200 ≤ reply.status ∧ reply.status < 300

/-- A reply is no success just if its status is below 200, or 300 and more. -/
theorem Reply.not_succeeds_iff : ¬ reply.Succeeds ↔ reply.status < 200 ∨ 300 ≤ reply.status := by
  rw [Reply.Succeeds]
  omega

/-- A success is not that something is missing. -/
theorem Reply.Succeeds.ne (succeeds : reply.Succeeds) : reply.status ≠ 404 := by
  rw [Reply.Succeeds] at succeeds
  omega

/-- A body with nothing but white space in it. -/
def Reply.Blank (reply : Reply) : Prop := ∀ c ∈ reply.text.toList, Text.isBlank c = true

/-- What an outcome of the transport is taken for. -/
inductive TakenFor : Option Reply → Except ProviderError (Option Json) → Prop where
  /-- Nothing came back. -/
  | lost : TakenFor none (.error .http)
  /-- There is nothing under the path. -/
  | nothing {reply : Reply} (missing : reply.status = 404) : TakenFor (some reply) (.ok none)
  | refused {reply : Reply} {message : String} (failed : ¬ reply.Succeeds)
    (other : reply.status ≠ 404) (tells : Tells reply.text message) :
    TakenFor (some reply) (.error (.api (UInt16.ofNat reply.status) message))
  | null {reply : Reply} (succeeds : reply.Succeeds) (blank : reply.Blank) :
    TakenFor (some reply) (.ok (some .null))
  | value {reply : Reply} {value : Json} (succeeds : reply.Succeeds) (full : ¬ reply.Blank)
    (parsed : Json.parse? (Bytes.ofText reply.text) = some value) :
    TakenFor (some reply) (.ok (some value))
  | garbled {reply : Reply} (succeeds : reply.Succeeds) (full : ¬ reply.Blank)
    (unreadable : Json.parse? (Bytes.ofText reply.text) = none) :
    TakenFor (some reply) (.error (.decode none))

/-- Every outcome is taken for what it is judged to be. -/
theorem takenFor_judge (outcome : Option Reply) : TakenFor outcome (Client.judge outcome) := by
  cases outcome with
  | none => exact .lost
  | some reply =>
    rw [Client.judge]
    split_ifs with missing failed blank
    · exact .nothing missing
    · exact .refused (Reply.not_succeeds_iff.2 failed) missing (tells_refusalText _)
    · exact .null (not_not.1 (mt Reply.not_succeeds_iff.1 failed)) (List.all_eq_true.1 blank)
    · have succeeds := not_not.1 (mt Reply.not_succeeds_iff.1 failed)
      have full : ¬ reply.Blank := fun all => blank (List.all_eq_true.2 all)
      split
      next value parsed => exact .value succeeds full parsed
      next unreadable => exact .garbled succeeds full unreadable

/-- **An outcome is taken for one thing.** -/
theorem takenFor_iff : TakenFor outcome result ↔ result = Client.judge outcome := by
  refine ⟨fun taken => ?_, fun is => is ▸ takenFor_judge outcome⟩
  have good {reply : Reply} (succeeds : reply.Succeeds) :=
    mt Reply.not_succeeds_iff.2 (not_not_intro succeeds)
  cases taken with
  | lost => rfl
  | nothing missing => rw [Client.judge, if_pos missing]
  | refused failed other tells =>
    rw [Client.judge, if_neg other, if_pos (Reply.not_succeeds_iff.1 failed), tells_iff.1 tells]
  | null succeeds blank =>
    rw [Client.judge, if_neg succeeds.ne, if_neg (good succeeds),
      if_pos (List.all_eq_true.2 blank)]
  | value succeeds full parsed =>
    rw [Client.judge, if_neg succeeds.ne, if_neg (good succeeds),
      if_neg fun all => full (List.all_eq_true.1 all), parsed]
  | garbled succeeds full unreadable =>
    rw [Client.judge, if_neg succeeds.ne, if_neg (good succeeds),
      if_neg fun all => full (List.all_eq_true.1 all), unreadable]

/-- What came of a request may be something else the next time. -/
def passes : Except ProviderError (Option Json) → Bool
  | .error e => e.isTransient
  | .ok _ => false

/-- An outcome after which the same request may still come to something: nothing came back, or the
provider has a failure of its own. -/
def Passing (outcome : Option Reply) : Prop :=
  TakenFor outcome (.error .http) ∨
    ∃ status message, 500 ≤ status ∧ TakenFor outcome (.error (.api status message))

/-- An outcome is passing just if its judgement may change. -/
theorem passing_iff : Passing outcome ↔ passes (Client.judge outcome) = true := by
  simp only [Passing, takenFor_iff]
  constructor
  · rintro (none | ⟨status, message, high, refused⟩)
    · rw [← none]
      rfl
    · rw [← refused]
      exact decide_eq_true high
  · intro transient
    cases judged : Client.judge outcome with
    | ok value =>
      rw [judged] at transient
      cases transient
    | error e =>
      rw [judged] at transient
      cases e with
      | http => exact .inl rfl
      | api status message => exact .inr ⟨status, message, of_decide_eq_true transient, rfl⟩
      | _ => cases transient

/-- Of the replies, only those with a status from 500 on are of that kind. -/
theorem Passing.status_le (passing : Passing (some reply)) : 500 ≤ reply.status := by
  rcases passing with none | ⟨status, message, high, refused⟩
  · cases none
  · cases refused with
    | refused =>
      have high := UInt16.le_iff_toNat_le.1 high
      rw [UInt16.toNat_ofNat'] at high
      exact high.trans (Nat.mod_le _ _)

/-- The first outcome after which the request is not worth sending again. -/
noncomputable def firstLasting (outcomes : Stream' (Option Reply)) : ℕ∞ :=
  ⨅ (i : ℕ) (_ : ¬ Passing (outcomes.get i)), (i : ℕ∞)

/-- Who goes on while outcomes pass stops at the first that lasts, or at the limit. -/
theorem eq_min_firstLasting (passing : ∀ i < n, Passing (outcomes.get i)) (within : n ≤ limit)
    (ends : n = limit ∨ ¬ Passing (outcomes.get n)) :
    (n : ℕ∞) = min (firstLasting outcomes) limit := by
  have least : (n : ℕ∞) ≤ firstLasting outcomes := by
    refine le_iInf₂ fun i lasting => Nat.cast_le.2 (Nat.le_of_not_lt fun before => ?_)
    exact lasting (passing i before)
  refine le_antisymm (le_min least (Nat.cast_le.2 within)) ?_
  rcases ends with rfl | lasting
  · exact min_le_right _ _
  · exact (min_le_left _ _).trans (iInf₂_le n lasting)

/-- Of a constant stream nothing else is taken. -/
theorem take_const {α : Type} (a : α) (n : ℕ) :
    (Stream'.const a).take n = List.replicate n a := by
  induction n with
  | zero => rfl
  | succ n ih =>
    rw [Stream'.take_succ, Stream'.tail_const, ih]
    rfl

end Outcomes

/-- How a world answers a client, in states of some type. -/
abbrev Transport (σ : Type) := (e : exchange.Call) → StateM σ (exchange.Answer e)

/-- A transport through a library that puts together only some requests.  Those bring the replies
one after another, and the others bring nothing. -/
def relay (takes : Request → Bool) : Transport (Stream' (Option Reply))
  | .send request => fun replies =>
    if takes request then (replies.head, replies.tail) else (none, replies)
  | .pause _ => pure ()

/-- What comes of a request each time that it is sent through such a library. -/
def outcomes (takes : Request → Bool) (request : Request) (replies : Stream' (Option Reply)) :
    Stream' (Option Reply) :=
  if takes request then replies else Stream'.const none

/-- The replies that are still to come after it was sent a number of times. -/
def remaining (takes : Request → Bool) (request : Request) (times : Nat)
    (replies : Stream' (Option Reply)) : Stream' (Option Reply) :=
  if takes request then replies.drop times else replies

/-- What comes of a program of the client with such a library and these replies, the replies that
are left, and what was asked for, after what was before. -/
def play {α : Type} (takes : Request → Bool) (p : Program exchange α)
    (replies : Stream' (Option Reply)) (before : List (Asked exchange)) :
    α × Stream' (Option Reply) × List (Asked exchange) :=
  (p.run (noting (relay takes))).run (replies, before)

section Play

variable {α : Type} {takes : Request → Bool} {request : Request}
  {replies : Stream' (Option Reply)} {before : List (Asked exchange)}

/-- A program that has its value asks for nothing more. -/
theorem play_done (value : α) :
    play takes (.done value) replies before = (value, replies, before) := rfl

/-- A request brings the first of its outcomes. -/
theorem relay_send : relay takes (.send request) replies =
    ((outcomes takes request replies).head, remaining takes request 1 replies) := by
  rw [relay, outcomes, remaining]
  split_ifs <;> rfl

/-- A program that sends a request goes on with what comes of it. -/
theorem play_send (next : Option Reply → Program exchange α) :
    play takes (.ask (I := exchange) (.send request) next) replies before =
      play takes (next (outcomes takes request replies).head) (remaining takes request 1 replies)
        (before ++ [⟨Exchange.send request, (outcomes takes request replies).head⟩]) := by
  change (let (reply, rest) := relay takes (.send request) replies
    play takes (next reply) rest
      (before ++ [(⟨Exchange.send request, reply⟩ : Asked exchange)])) = _
  rw [relay_send]

/-- A pause brings no reply. -/
theorem play_pause (time : Duration) (next : Unit → Program exchange α) :
    play takes (.ask (I := exchange) (.pause time) next) replies before =
      play takes (next ()) replies (before ++ [⟨Exchange.pause time, ()⟩]) := rfl

/-- What comes of a request later on does not depend on how it was sent before. -/
theorem outcomes_remaining (times : Nat) :
    outcomes takes request (remaining takes request times replies) =
      (outcomes takes request replies).drop times := by
  rw [outcomes, outcomes, remaining]
  split_ifs
  · rfl
  · rw [Stream'.drop_const]

/-- What is left over of what was left over. -/
theorem remaining_remaining (times more : Nat) :
    remaining takes request more (remaining takes request times replies) =
      remaining takes request (times + more) replies := by
  rw [remaining, remaining, remaining]
  split_ifs
  · rw [Stream'.drop_drop]
  · rfl

end Play

/-- One request sent again and again, each time with an outcome, and a pause between two times. -/
def tries (interval : Duration) (request : Request) (outcomes : List (Option Reply)) :
    List (Asked exchange) :=
  (outcomes.map fun outcome => ⟨Exchange.send request, outcome⟩).intersperse
    ⟨Exchange.pause interval, ()⟩

namespace Client

/-- After a request comes what is left to do with its outcome. -/
theorem retrying_succ (interval : Duration) (request : Request) (n : Nat) :
    retrying interval request (n + 1) =
      .ask (I := exchange) (.send request) fun reply =>
        if passes (judge reply) then
          .ask (I := exchange) (.pause interval) fun () => retrying interval request n
        else .done (judge reply) := by
  refine congrArg (Program.ask _) (funext fun reply => ?_)
  change Program.bind (.done (judge reply)) _ = _
  rw [Program.bind]
  cases judge reply with
  | ok value => rfl
  | error e => rfl

/-- **A request** is sent up to the first outcome that will not pass, or until the limit is
reached. -/
theorem play_retrying (takes : Request → Bool) (request : Request) (interval : Duration)
    (limit : Nat) (replies : Stream' (Option Reply)) (before : List (Asked exchange)) :
    ∃ n ≤ limit, (∀ i < n, Passing ((outcomes takes request replies).get i)) ∧
      (n = limit ∨ ¬ Passing ((outcomes takes request replies).get n)) ∧
      play takes (retrying interval request limit) replies before =
        (judge ((outcomes takes request replies).get n), remaining takes request (n + 1) replies,
          before ++ tries interval request ((outcomes takes request replies).take (n + 1))) := by
  induction limit generalizing replies before with
  | zero =>
    refine ⟨0, le_rfl, fun i h => absurd h (Nat.not_lt_zero i), .inl rfl, ?_⟩
    rw [retrying, attempt, play_send, play_done]
    rfl
  | succ limit ih =>
    rw [retrying_succ, play_send]
    by_cases passing : passes (judge (outcomes takes request replies).head) = true
    -- What is left to do is the same program on the outcomes from the second on.
    · obtain ⟨n, within, earlier, ends, ran⟩ := ih (remaining takes request 1 replies)
        (before ++ [⟨Exchange.send request, (outcomes takes request replies).head⟩] ++
          [⟨Exchange.pause interval, ()⟩])
      rw [outcomes_remaining] at earlier ends ran
      refine ⟨n + 1, Nat.succ_le_succ within, fun i h => ?_, ends.imp_left (congrArg (· + 1)), ?_⟩
      · cases i with
        | zero => exact passing_iff.2 passing
        | succ i => exact earlier i (Nat.lt_of_succ_lt_succ h)
      · rw [if_pos passing, play_pause, ran, remaining_remaining, Nat.add_comm, List.append_assoc,
          List.append_assoc]
        rfl
    · refine ⟨0, Nat.zero_le _, fun i h => absurd h (Nat.not_lt_zero i),
        .inr (mt passing_iff.1 passing), ?_⟩
      rw [if_neg passing, play_done]
      rfl

section Law

variable (takes : Request → Bool) (client : Client) (verb : Verb) (path : String)
  (body : Option Json) (replies : Stream' (Option Reply))

/-- A call sends its request once for each outcome up to the first after which that is not worth
while, but no more than once and then as often as its limit allows.  It pauses between two times,
and gives what the last outcome is taken for.  Only after a failure of the transport or of the
provider itself does it send the request again. -/
def Retries : Prop :=
  let request := client.request verb path body
  let outcomes := outcomes takes request replies
  ∃ (n : ℕ) (result : Except ProviderError (Option Json)),
    (n : ℕ∞) = min (firstLasting outcomes) client.retryMax.toNat ∧
    TakenFor (outcomes.get n) result ∧
    play takes (client.call verb path body) replies [] =
      (result, remaining takes request (n + 1) replies,
        tries client.retryInterval request (outcomes.take (n + 1))) ∧
    ∀ i < n, outcomes.get i = none ∨ ∃ reply, outcomes.get i = some reply ∧ 500 ≤ reply.status

/-- **How often a call sends its request.**  Whatever requests the library can put together and
whatever replies they bring, a call keeps to its law (`Retries`). -/
theorem sends_as_often_as_it_helps : client.Retries takes verb path body replies := by
  obtain ⟨n, within, passing, ends, played⟩ := play_retrying takes (client.request verb path body)
    client.retryInterval client.retryMax.toNat replies []
  refine ⟨n, _, eq_min_firstLasting passing within ends, takenFor_judge _, played,
    fun i before => ?_⟩
  have again := passing i before
  cases outcome : (outcomes takes (client.request verb path body) replies).get i with
  | none => exact .inl rfl
  | some reply =>
    rw [outcome] at again
    exact .inr ⟨reply, rfl, again.status_le⟩

/-- Of a provider that is up again at the third request, a call asks five things: three requests
with a pause between two of them. -/
example : (play (fun _ => true) ((ofConfig { retryMax := 3 }).call .get "/auth-status")
    (Stream'.cons none (Stream'.cons (some ⟨503, "busy"⟩) (Stream'.const (some ⟨200, "{}"⟩))))
    []).2.2.length = 5 := by
  decide +kernel

/-- **A request that the library cannot put together** is handed to it as often as the limit allows.
It brings nothing, and no reply is used up. -/
theorem play_call_of_refused (refused : takes (client.request verb path body) = false) :
    play takes (client.call verb path body) replies [] =
      (.error .http, replies, tries client.retryInterval (client.request verb path body)
        (List.replicate (client.retryMax.toNat + 1) none)) := by
  have silent : outcomes takes (client.request verb path body) replies = Stream'.const none := by
    rw [outcomes, refused, if_neg Bool.false_ne_true]
  obtain ⟨n, -, -, ends, played⟩ := play_retrying takes (client.request verb path body)
    client.retryInterval client.retryMax.toNat replies []
  rw [silent, Stream'.get_const] at ends
  obtain rfl := ends.resolve_right (not_not_intro (.inl .lost))
  rw [silent, Stream'.get_const, remaining, refused, if_neg Bool.false_ne_true,
    take_const] at played
  exact played

end Law

end Client
end Rest
end Provider
end ServiceBroker

/-
# Names that only look alike

A provider answers a search with every appliance whose name has the name in it, those of others
included.  What a search finds are those with exactly the name, in the order of the reply
(`Wire.picks_exactMatches`), and from their number follows whether there is one
(`Wire.settles_only`).

That the others do not count is a statement of two worlds that need not show the same appliances
to anybody.  Where a search for a name lists the same appliances with exactly that name in both,
an order is answered alike and the rest of the backend comes to the same (`Client.Likewise`), so
does everything that a handler answers: it asks the provider nothing but to search and to create
(`DatabaseHandler.modest_answer`).
-/

import Mathlib.Data.List.Forall2
import ServiceBroker.Handler.Database
import ServiceBroker.Proofs.Performing
import ServiceBroker.Proofs.Repertoire
import ServiceBroker.Proofs.Retrying
import ServiceBroker.Proofs.SearchPath

namespace ServiceBroker

section Lists

variable {ε α β : Type} {f : α → Except ε β} {xs : List α} {ys : List β} {e : ε}

/-- A list is converted exactly where each of its elements is. -/
theorem mapM_eq_ok_iff : xs.mapM f = .ok ys ↔ List.Forall₂ (fun x y => f x = .ok y) xs ys := by
  induction xs generalizing ys with
  | nil =>
    rw [List.mapM_nil, List.forall₂_nil_left_iff]
    exact ⟨fun is => (Except.ok.inj is).symm, fun is => congrArg Except.ok is.symm⟩
  | cons x xs ih =>
    rw [List.mapM_cons, List.forall₂_cons_left_iff]
    constructor
    · intro is
      cases head : f x with
      | error e =>
        rw [head] at is
        cases is
      | ok y =>
        cases tail : xs.mapM f with
        | error e =>
          rw [head, tail] at is
          cases is
        | ok rest =>
          rw [head, tail] at is
          cases is
          exact ⟨y, rest, rfl, ih.1 tail, rfl⟩
    · rintro ⟨y, rest, head, tail, rfl⟩
      rw [head, ih.2 tail]
      rfl

/-- What goes wrong is what goes wrong first. -/
theorem mapM_eq_error_iff : xs.mapM f = .error e ↔ ∃ before x after, xs = before ++ x :: after ∧
    (∀ b ∈ before, ∃ y, f b = .ok y) ∧ f x = .error e := by
  induction xs with
  | nil =>
    refine iff_of_false (fun is => ?_) ?_
    · cases is
    · rintro ⟨before, x, after, is, -⟩
      simp at is
  | cons x xs ih =>
    rw [List.mapM_cons]
    constructor
    · intro is
      cases head : f x with
      | error e' =>
        rw [head] at is
        cases is
        exact ⟨[], x, xs, rfl, List.forall_mem_nil _, head⟩
      | ok y =>
        cases tail : xs.mapM f with
        | ok rest =>
          rw [head, tail] at is
          cases is
        | error e' =>
          rw [head, tail] at is
          cases is
          obtain ⟨before, a, after, rfl, fine, fails⟩ := ih.1 tail
          exact ⟨x :: before, a, after, rfl, List.forall_mem_cons.2 ⟨⟨y, head⟩, fine⟩, fails⟩
    · rintro ⟨before, a, after, is, fine, fails⟩
      cases before with
      | nil =>
        cases is
        rw [fails]
        rfl
      | cons b before =>
        cases is
        obtain ⟨⟨y, head⟩, fine⟩ := List.forall_mem_cons.1 fine
        rw [head, ih.2 ⟨before, a, after, rfl, fine, fails⟩]
        rfl

end Lists

open Program (Asked Keeps)

namespace Backend

/-- A question that, if it is for the provider, is a search or an order. -/
def Call.Modest : Call → Prop
  | .provider (.find _) | .provider (.create _) => True
  | .provider _ => False
  | .startDeletion _ _ | .dialect _ | .drawAdmin | .drawBinding => True

/-- A program that asks nothing else. -/
def Modest {α : Type} (p : Program interface α) : Prop :=
  ∀ asked, Keeps (fun _ (call : Call) => call.Modest) (fun _ _ => True) asked p

/-- Who asks for searches and orders only is modest. -/
theorem modest_of_only {α : Type} {p : Program interface α} (only : p.Only Call.Modest) :
    Modest p := by
  induction p with
  | done value => exact fun _ => trivial
  | ask call next ih => exact fun asked => ⟨only.1, fun answer => ih answer (only.2 answer) _⟩

/-- A search for one appliance is modest. -/
theorem modest_findOne (name : String) : Modest (findOne name).run :=
  modest_of_only (only_findOne trivial)

end Backend

/-- **A handler asks the provider nothing but to search and to create**, whatever it is asked. -/
theorem DatabaseHandler.modest_answer (h : DatabaseHandler) (call : Handler.Call) :
    Backend.Modest (h.answer call) := by
  refine Backend.modest_of_only ((h.only_answer call).mono fun question needs => ?_)
  cases needs <;> trivial

namespace Provider
namespace Rest

namespace Wire

variable {name : String} {a : Appliance} {listed : List Appliance}

/-- The appliances with exactly a name. -/
def named (name : String) (listed : List Appliance) : List Appliance :=
  listed.filter (·.name = name)

/-- The number of the appliance is one. -/
def Appliance.Numbered (a : Appliance) : Prop := ∃ id, Integer.int64? a.id = some id

/-- What is wrong with an appliance whose number is none. -/
def Appliance.misnumbered (a : Appliance) : ProviderError :=
  .decode (some ("invalid appliance ID: " ++ a.id))

/-- An appliance can be read just if its number is one. -/
theorem Appliance.exists_toAppliance_iff : (∃ b, a.toAppliance = .ok b) ↔ a.Numbered := by
  rw [Appliance.toAppliance, Appliance.Numbered]
  cases Integer.int64? a.id <;> simp

/-- An appliance that cannot be read is misnumbered, and nothing else is wrong with it. -/
theorem Appliance.toAppliance_eq_error_iff {e : ProviderError} :
    a.toAppliance = .error e ↔ ¬ a.Numbered ∧ e = a.misnumbered := by
  rw [Appliance.toAppliance, Appliance.Numbered, Appliance.misnumbered]
  cases Integer.int64? a.id <;> simp [eq_comm]

/-- What a search for a name finds in a list: the appliances with exactly the name in their order,
as long as each of them has a number, and otherwise what is wrong with the first that has none. -/
structure Picks (name : String) (listed : List Appliance)
    (found : Except ProviderError (List ServiceBroker.Appliance)) : Prop where
  ok_iff : ∀ as, found = .ok as ↔
    List.Forall₂ (fun a b => a.toAppliance = .ok b) (named name listed) as
  error_iff : ∀ e, found = .error e ↔ ∃ before a after, named name listed = before ++ a :: after ∧
    (∀ b ∈ before, b.Numbered) ∧ ¬ a.Numbered ∧ e = a.misnumbered
  exactly : ∀ as, found = .ok as → ∀ b ∈ as, b.name = name

/-- Reading an appliance keeps its name. -/
theorem Appliance.name_toAppliance {b : ServiceBroker.Appliance} (read : a.toAppliance = .ok b) :
    b.name = a.name := by
  rw [Appliance.toAppliance] at read
  cases number : Integer.int64? a.id with
  | none =>
    rw [number] at read
    cases read
  | some id =>
    rw [number] at read
    cases read
    rfl

/-- The search picks the appliances with exactly the name. -/
theorem picks_exactMatches (name : String) (listed : List Appliance) :
    Picks name listed (exactMatches name listed) where
  ok_iff as := mapM_eq_ok_iff
  error_iff e := by
    rw [exactMatches, mapM_eq_error_iff]
    simp only [Appliance.exists_toAppliance_iff, Appliance.toAppliance_eq_error_iff, named]
  exactly as found := by
    have named_eq : ∀ a ∈ named name listed, a.name = name := fun a there =>
      of_decide_eq_true (List.mem_filter.1 there).2
    have pairs := (List.forall₂_and_left _ _).2 ⟨named_eq, mapM_eq_ok_iff.1 found⟩
    have names : List.Forall₂ (fun b _ => b.name = name ∧ True) as (named name listed) :=
      List.Forall₂.flip (pairs.imp fun a b ⟨is, read⟩ =>
        ⟨(Appliance.name_toAppliance read).trans is, trivial⟩)
    exact ((List.forall₂_and_left _ _).1 names).1

/-- What is told of the appliances with exactly a name: that there is none, the only one, or that
there are several. -/
inductive Settles (name : String) :
    List Appliance → Except ProviderError (Option ServiceBroker.Appliance) → Prop where
  | none : Settles name [] (.ok none)
  | one {a : Appliance} {b : ServiceBroker.Appliance} (read : a.toAppliance = .ok b) :
    Settles name [a] (.ok (some b))
  | several {as : List Appliance} (many : 2 ≤ as.length) (numbered : ∀ a ∈ as, a.Numbered) :
    Settles name as (.error (.ambiguous name))
  | unnumbered {before after : List Appliance} {a : Appliance}
    (numbered : ∀ b ∈ before, b.Numbered) (first : ¬ a.Numbered) :
    Settles name (before ++ a :: after) (.error a.misnumbered)

/-- What a search for one appliance tells is settled by those with exactly the name. -/
theorem settles_only (name : String) (listed : List Appliance) :
    Settles name (named name listed) ((exactMatches name listed).bind (only name)) := by
  have picks := picks_exactMatches name listed
  cases found : exactMatches name listed with
  | error e =>
    obtain ⟨before, a, after, is, numbered, first, rfl⟩ := (picks.error_iff e).1 found
    rw [is]
    exact .unnumbered numbered first
  | ok as =>
    have read := (picks.ok_iff as).1 found
    have numbered : ∀ a ∈ named name listed, a.Numbered := ((List.forall₂_and_left _ _).1
      (read.imp fun a b is => ⟨Appliance.exists_toAppliance_iff.1 ⟨b, is⟩, is⟩)).1
    generalize named name listed = matching at read numbered ⊢
    cases read with
    | nil => exact .none
    | cons first rest =>
      cases rest with
      | nil => exact .one first
      | cons second rest => exact .several (Nat.le_add_left 2 _) numbered

end Wire

/-- In two worlds that are alike, runs come to values that are near one another, and leave the
worlds alike. -/
def Together {σ τ α β : Type} (alike : σ → τ → Prop) (near : α → β → Prop) (m : StateM σ α)
    (n : StateM τ β) : Prop :=
  ∀ s t, alike s t → near (m.run s).1 (n.run t).1 ∧ alike (m.run s).2 (n.run t).2

section Together

variable {σ τ α β γ δ : Type} {alike : σ → τ → Prop} {near : α → β → Prop} {nearby : γ → δ → Prop}

/-- Values that are near one another leave the worlds as they are. -/
theorem Together.pure {a : α} {b : β} (is : near a b) :
    Together alike near (pure a : StateM σ α) (pure b : StateM τ β) :=
  fun _ _ same => ⟨is, same⟩

/-- Runs that stay together and go on together have been together all along. -/
theorem Together.bind {m : StateM σ α} {n : StateM τ β} {f : α → StateM σ γ} {g : β → StateM τ δ}
    (first : Together alike near m n)
    (second : ∀ a b, near a b → Together alike nearby (f a) (g b)) :
    Together alike nearby (m >>= f) (n >>= g) := by
  intro s t same
  obtain ⟨values, still⟩ := first s t same
  exact second _ _ values _ _ still

/-- **A program comes to the same** where each question that it may ask does. -/
theorem Together.run {I : Interface} {first : (call : I.Call) → StateM σ (I.Answer call)}
    {second : (call : I.Call) → StateM τ (I.Answer call)} {may : I.Call → Prop}
    (each : ∀ call, may call → Together alike (· = ·) (first call) (second call))
    {p : Program I α} {asked : List (Asked I)}
    (keeps : Keeps (fun _ call => may call) (fun _ _ => True) asked p) :
    Together alike (· = ·) (p.run first) (p.run second) := by
  induction p generalizing asked with
  | done value => exact .pure rfl
  | ask call next ih =>
    exact (each call keeps.1).bind fun a b is => is ▸ ih a (keeps.2 a)

end Together

namespace Client

variable {client : Client} {name : String} {σ τ α : Type}

/-- The appliances that the answer to a request lists. -/
def listed? : Except ProviderError (Option Json) → Option (List Wire.Appliance)
  | .ok (some value) => Wire.listing? value
  | _ => none

/-- What is made of the answer to a request that brings a value of some form. -/
def concluded {β γ : Type} (path : String) (read : Json → Option β)
    (finish : β → Except ProviderError γ) :
    Except ProviderError (Option Json) → Except ProviderError γ
  | .error e => .error e
  | .ok none => .error (.notFound path)
  | .ok (some value) =>
    match read value with
    | some form => finish form
    | none => .error (.decode none)

/-- An action that reads what one request brings. -/
theorem run_callExisting {β γ : Type} (client : Client) (verb : Verb) (path : String)
    (body : Option Json) (read : Json → Option β) (finish : β → Except ProviderError γ) :
    (client.callExisting verb path body >>= fun value =>
      decode read value >>= fun form => ExceptT.mk (pure (finish form)) : Action γ).run =
    (client.call verb path body).run.bind fun answer =>
      .done (concluded path read finish answer) := by
  rw [callExisting, Program.run_bind_except, Program.run_bind_except, Program.bind_bind]
  congr 1
  funext answer
  match answer with
  | .error e => rfl
  | .ok none => rfl
  | .ok (some value) =>
    change Program.bind (decode read value).run _ = _
    rw [concluded, decode]
    cases read value with
    | none => rfl
    | some form => rfl

/-- What a search makes of the answer to its request. -/
def found (name : String) : Except ProviderError (Option Json) →
    Except ProviderError (List Appliance) :=
  concluded (searchPath name) Wire.listing? (Wire.exactMatches name)

/-- A search finds what it picks of the list. -/
theorem found_of_listed {answer : Except ProviderError (Option Json)} {listed : List Wire.Appliance}
    (lists : listed? answer = some listed) : found name answer = Wire.exactMatches name listed := by
  match answer with
  | .error e => cases lists
  | .ok none => cases lists
  | .ok (some value) =>
    rw [listed?] at lists
    rw [found, concluded, lists]

/-- A search is one request. -/
theorem find_eq (client : Client) (name : String) : (client.find name).run =
    (client.call .get (searchPath name)).run.bind fun answer => .done (found name answer) :=
  run_callExisting client .get (searchPath name) none Wire.listing? (Wire.exactMatches name)

/-- So is an order. -/
theorem create_eq (client : Client) (order : ApplianceOrder) : (client.create order).run =
    (client.call .post "/appliance" (some (Wire.orderBody order))).run.bind fun answer =>
      .done (concluded "/appliance" Wire.single? Wire.Appliance.toAppliance answer) :=
  run_callExisting client .post "/appliance" (some (Wire.orderBody order)) Wire.single?
    Wire.Appliance.toAppliance

/-- A search is for the only one among what is found. -/
theorem findOne_eq (client : Client) (name : String) :
    (Provider.findOne name).run.interpret client.answer =
      (client.find name).run.bind fun found => .done (found.bind (only name)) := by
  change Program.bind (client.find name) _ = _
  congr 1
  funext found
  cases found <;> rfl

/-- Two answers to a search that tell the same but for look-alikes: they are equal, or they list
appliances and agree on those with exactly the name. -/
inductive SameNamed (name : String) :
    Except ProviderError (Option Json) → Except ProviderError (Option Json) → Prop where
  | equal (answer : Except ProviderError (Option Json)) : SameNamed name answer answer
  | listed {left right : Except ProviderError (Option Json)} {first second : List Wire.Appliance}
    (lists : listed? left = some first) (lists' : listed? right = some second)
    (agree : Wire.named name first = Wire.named name second) : SameNamed name left right

section SameNamed

variable {left right : Except ProviderError (Option Json)}

/-- After an answer that lists appliances the request is not sent again. -/
theorem passes_of_listed {listed : List Wire.Appliance} (lists : listed? left = some listed) :
    passes left = false := by
  cases left with
  | error e => cases lists
  | ok value => rfl

/-- After two answers that tell the same the request is sent again in both worlds, or in neither. -/
theorem SameNamed.passes_eq (same : SameNamed name left right) : passes left = passes right := by
  cases same with
  | equal => rfl
  | listed lists lists' agree => rw [passes_of_listed lists, passes_of_listed lists']

/-- **A search finds the same.** -/
theorem SameNamed.found_eq (same : SameNamed name left right) :
    found name left = found name right := by
  cases same with
  | equal => rfl
  | listed lists lists' agree =>
    rw [found_of_listed lists, found_of_listed lists', Wire.exactMatches, Wire.exactMatches,
      ← Wire.named, ← Wire.named, agree]

end SameNamed

/-- Two worlds that a client cannot tell apart by searches and orders, but for look-alikes.  How
they answer other requests is left open. -/
structure Likewise (client : Client) (alike : σ → τ → Prop) (first : Transport σ)
    (second : Transport τ) : Prop where
  search : ∀ name, Together alike (fun left right => SameNamed name (judge left) (judge right))
    (first (.send (client.request .get (searchPath name) none)))
    (second (.send (client.request .get (searchPath name) none)))
  order : ∀ order, Together alike (fun left right => judge left = judge right)
    (first (.send (client.request .post "/appliance" (some (Wire.orderBody order)))))
    (second (.send (client.request .post "/appliance" (some (Wire.orderBody order)))))
  pause : ∀ time, Together alike (· = ·) (first (.pause time)) (second (.pause time))

section Worlds

variable {alike : σ → τ → Prop} {first : Transport σ} {second : Transport τ}
  {near : Except ProviderError (Option Json) → Except ProviderError (Option Json) → Prop}

/-- **However often a request is sent**, what comes of it is near where its answers are. -/
theorem Together.retrying {request : Request}
    (again : ∀ left right, near left right → passes left = passes right)
    (send : Together alike (fun left right => near (judge left) (judge right))
      (first (.send request)) (second (.send request)))
    (pause : ∀ time, Together alike (· = ·) (first (.pause time)) (second (.pause time)))
    (interval : Duration) (limit : Nat) :
    Together alike near ((retrying interval request limit).run first)
      ((retrying interval request limit).run second) := by
  induction limit with
  | zero =>
    rw [Client.retrying, attempt]
    exact send.bind fun left right judged => .pure judged
  | succ limit ih =>
    rw [retrying_succ]
    refine send.bind fun left right judged => ?_
    beta_reduce
    -- Near answers are retried both or not at all, so the two runs stay in step.
    rw [again _ _ judged]
    split_ifs
    · exact (pause interval).bind fun _ _ _ => ih
    · exact .pure judged

/-- **A search finds the same** in both worlds. -/
theorem Likewise.find (likewise : client.Likewise alike first second) (name : String) :
    Together alike (· = ·) ((client.find name).run.run first)
      ((client.find name).run.run second) := by
  rw [find_eq, Program.run_bind, Program.run_bind]
  exact (Together.retrying (fun _ _ => SameNamed.passes_eq) (likewise.search name)
    likewise.pause _ _).bind fun left right same => .pure same.found_eq

/-- An order comes to the same in both worlds. -/
theorem Likewise.create (likewise : client.Likewise alike first second) (order : ApplianceOrder) :
    Together alike (· = ·) ((client.create order).run.run first)
      ((client.create order).run.run second) := by
  rw [create_eq, Program.run_bind, Program.run_bind]
  exact (Together.retrying (fun _ _ => congrArg passes) (likewise.order order)
    likewise.pause _ _).bind fun left right same => .pure (congrArg _ same)

/-- A backend whose provider is behind a client; the rest of it answers in some other way. -/
def backend (client : Client) (transport : Transport σ)
    (rest : (call : Backend.Call) → StateM σ call.Answer) :
    (call : Backend.Call) → StateM σ call.Answer
  | .provider call => (client.answer call).run transport
  | call => rest call

/-- **A question to the backend** comes to the same in both worlds. -/
theorem Likewise.backend (likewise : client.Likewise alike first second)
    {rest : (call : Backend.Call) → StateM σ call.Answer}
    {rest' : (call : Backend.Call) → StateM τ call.Answer}
    (agree : ∀ call, Together alike (· = ·) (rest call) (rest' call)) (call : Backend.Call)
    (modest : call.Modest) :
    Together alike (· = ·) (client.backend first rest call) (client.backend second rest' call) := by
  match call, modest with
  | .provider (.find name), _ => exact likewise.find name
  | .provider (.create order), _ => exact likewise.create order
  | .startDeletion name id, _ => exact agree (.startDeletion name id)
  | .dialect call, _ => exact agree (.dialect call)
  | .drawAdmin, _ => exact agree .drawAdmin
  | .drawBinding, _ => exact agree .drawBinding

end Worlds

/-- **Exact names alone count.**  Where the answer to a search lists appliances, what is found are
those with exactly the name, or what is wrong with the first of them that has no number, and
whether there is one follows from how many they are.  And in two worlds whose lists differ in other
appliances, whatever the numbers of these are, the one appliance with a name and all that a handler
answers are the same, a request to delete included, and the worlds are left alike. -/
theorem exact_names_alone (client : Client) (alike : σ → τ → Prop) (first : Transport σ)
    (second : Transport τ) (rest : (call : Backend.Call) → StateM σ call.Answer)
    (rest' : (call : Backend.Call) → StateM τ call.Answer) :
    (∀ name s answer s' listed,
      ((client.call .get (searchPath name)).run.run first).run s = (answer, s') →
      listed? answer = some listed →
      ∃ found settled, ((client.find name).run.run first).run s = (found, s') ∧
        Wire.Picks name listed found ∧
        (((Provider.findOne name).run.interpret client.answer).run first).run s = (settled, s') ∧
        Wire.Settles name (Wire.named name listed) settled) ∧
    (client.Likewise alike first second →
      (∀ call, Together alike (· = ·) (rest call) (rest' call)) →
      (∀ name, Together alike (· = ·) ((Backend.findOne name).run.run (client.backend first rest))
        ((Backend.findOne name).run.run (client.backend second rest'))) ∧
      ∀ (h : DatabaseHandler) call, Together alike (· = ·)
        ((h.answer call).run (client.backend first rest))
        ((h.answer call).run (client.backend second rest'))) := by
  constructor
  · intro name s answer s' listed ran lists
    have finds : ((client.find name).run.run first).run s =
        (Wire.exactMatches name listed, s') := by
      rw [find_eq, Program.run_bind, StateT.run_bind, ran, ← found_of_listed lists]
      rfl
    refine ⟨_, (Wire.exactMatches name listed).bind (only name), finds,
      Wire.picks_exactMatches name listed, ?_, Wire.settles_only name listed⟩
    rw [findOne_eq, Program.run_bind, StateT.run_bind, finds]
    rfl
  · intro likewise agree
    exact ⟨fun name => .run (likewise.backend agree) (Backend.modest_findOne name []),
      fun h call => .run (likewise.backend agree) (h.modest_answer call [])⟩

section Shop

/-- A client with nothing configured. -/
def shopper : Client := ofConfig {}

/-- A reply that lists appliances with these numbers and names. -/
def listing (listed : List (String × String)) : Reply :=
  ⟨200, (Json.object [("Appliances", .array (listed.map fun (id, name) =>
    .object [("ID", .string id), ("Name", .string name)]))]).text⟩

open Classical in
/-- A provider that answers the search for `a` with a list, and nothing else. -/
noncomputable def shop (listed : List (String × String)) : Transport (List ApplianceId)
  | .send request => pure (if request = shopper.request .get (searchPath "a") none then
      some (listing listed) else none)
  | .pause _ => pure ()

/-- The rest of a backend, which notes the appliances that are to be deleted. -/
def notebook : (call : Backend.Call) → StateM (List ApplianceId) call.Answer
  | .startDeletion _ id => modify (· ++ [id])
  | .provider _ => pure (.error .http)
  | .dialect _ => pure (.error (.internal "no server"))
  | .drawAdmin => pure ⟨.nth 10 0, .nth 20 0⟩
  | .drawBinding => pure ⟨.nth 20 0, .nth 30 0, Vector.replicate 12 0⟩

/-- An appliance of which nothing is told but its number and its name. -/
def bare (id name : String) : Wire.Appliance := ⟨id, name, "", "", {}, {}, []⟩

/-- The search brings the list. -/
theorem shop_search (listed : List (String × String)) (s : List ApplianceId) :
    (shop listed (.send (shopper.request .get (searchPath "a") none))).run s =
      (some (listing listed), s) := by
  rw [shop, if_pos rfl]
  rfl

/-- Any other request brings nothing. -/
theorem shop_other {request : Request}
    (other : request ≠ shopper.request .get (searchPath "a") none)
    (listed : List (String × String)) (s : List ApplianceId) :
    (shop listed (.send request)).run s = (none, s) := by
  rw [shop, if_neg other]
  rfl

/-- The list with the appliance alone. -/
theorem listed_exact : listed? (judge (some (listing [("7", "a")]))) = some [bare "7" "a"] := by
  decide +kernel

/-- The list with an appliance whose name begins the same. -/
theorem listed_look_alike : listed? (judge (some (listing [("none", "aa"), ("7", "a")]))) =
    some [bare "none" "aa", bare "7" "a"] := by
  decide +kernel

/-- The two shops cannot be told apart but for the look-alike. -/
theorem likewise_shop : shopper.Likewise (· = ·) (shop [("7", "a")])
    (shop [("none", "aa"), ("7", "a")]) where
  search name := by
    rintro s _ rfl
    by_cases searched : shopper.request .get (searchPath name) none =
        shopper.request .get (searchPath "a") none
    · cases search_injective shopper searched
      rw [shop_search, shop_search]
      exact ⟨.listed listed_exact listed_look_alike (by decide), rfl⟩
    · rw [shop_other searched, shop_other searched]
      exact ⟨.equal _, rfl⟩
  order order := by
    rintro s _ rfl
    have other : shopper.request .post "/appliance" (some (Wire.orderBody order)) ≠
        shopper.request .get (searchPath "a") none := by
      intro same
      cases congrArg Request.verb same
    rw [shop_other other, shop_other other]
    exact ⟨rfl, rfl⟩
  pause time := fun _ _ same => ⟨rfl, same⟩

/-- The appliance `aa`, which has no number, is listed where `a` is searched for.  It hinders no
search for `a`, and a request to delete `a` comes to what it comes to without it. -/
theorem look_alike_is_left_alone :
    (∃ found settled,
      ((shopper.find "a").run.run (shop [("none", "aa"), ("7", "a")])).run [] = (found, []) ∧
      Wire.Picks "a" [bare "none" "aa", bare "7" "a"] found ∧
      (((Provider.findOne "a").run.interpret shopper.answer).run
        (shop [("none", "aa"), ("7", "a")])).run [] = (settled, []) ∧
      Wire.Settles "a" [bare "7" "a"] settled) ∧
    shopper.Likewise (· = ·) (shop [("7", "a")]) (shop [("none", "aa"), ("7", "a")]) ∧
    Together (· = ·) (· = ·)
      ((DatabaseHandler.answer ⟨.mariaDb, 10⟩ (.deleteInstance "a")).run
        (shopper.backend (shop [("7", "a")]) notebook))
      ((DatabaseHandler.answer ⟨.mariaDb, 10⟩ (.deleteInstance "a")).run
        (shopper.backend (shop [("none", "aa"), ("7", "a")]) notebook)) := by
  have answered : ((shopper.call .get (searchPath "a")).run.run
      (shop [("none", "aa"), ("7", "a")])).run [] =
        (judge (some (listing [("none", "aa"), ("7", "a")])), []) := by
    have once : (shopper.call .get (searchPath "a")).run =
        attempt (shopper.request .get (searchPath "a") none) := rfl
    rw [once, attempt, Program.run_ask, StateT.run_bind, shop_search]
    rfl
  have picked := (exact_names_alone shopper (· = ·) (shop [("none", "aa"), ("7", "a")])
    (shop [("7", "a")]) notebook notebook).1 "a" [] _ [] _ answered listed_look_alike
  have deleted := ((exact_names_alone shopper (· = ·) (shop [("7", "a")])
    (shop [("none", "aa"), ("7", "a")]) notebook notebook).2 likewise_shop
      (fun _ _ _ same => same ▸ ⟨rfl, rfl⟩)).2 ⟨.mariaDb, 10⟩ (.deleteInstance "a")
  exact ⟨picked, likewise_shop, deleted⟩

end Shop

end Client

end Rest
end Provider
end ServiceBroker

/-
# What is left on a SQL server

Handlers make and remove bindings on a SQL server that may go away in the middle of every call, with
whatever it has carried out by then.  A database or an account is stray if it came with a
binding and no row of the table of bindings names it any more: nothing removes it then, because
bindings are removed by their rows.  `Handler.strays_iff` states exactly which calls leave stray
databases and accounts: a binding that could not be made leaves what was made for it, and a binding
that is removed leaves its account, because no dialect drops accounts
(`Handler.leaves_accounts_and_databases`).
-/

import ServiceBroker.Proofs.Appliances
import ServiceBroker.Proofs.Errand
import ServiceBroker.Proofs.Refusals

namespace ServiceBroker

open Dialect (Makes Removes Added stopped)
open Sql (Host Holdings)

namespace Sql

/-- A server with an administrator and nothing else. -/
def Host.fresh (name password : String) : Host where
  databases := Table.empty.put name { owner := name }
  accounts := Table.empty.put name password

namespace Holdings

/-- A row of the table of bindings names it. -/
def OnRecord (now : Holdings) (name : String) : Prop := ∃ e ∈ now.rows, e.username = name

/-- A database that was not there at first and that no row names. -/
def StrayDatabase (first now : Holdings) (name : String) : Prop :=
  name ∈ now.databases ∧ name ∉ first.databases ∧ ¬ now.OnRecord name

/-- An account that was not there at first and that no row names. -/
def StrayAccount (first now : Holdings) (name : String) : Prop :=
  name ∈ now.accounts ∧ name ∉ first.accounts ∧ ¬ now.OnRecord name

instance (now : Holdings) (name : String) : Decidable (now.OnRecord name) :=
  inferInstanceAs (Decidable (∃ e ∈ now.rows, e.username = name))

instance (first now : Holdings) (name : String) : Decidable (first.StrayDatabase now name) :=
  inferInstanceAs (Decidable (_ ∧ _ ∧ _))

instance (first now : Holdings) (name : String) : Decidable (first.StrayAccount now name) :=
  inferInstanceAs (Decidable (_ ∧ _ ∧ _))

/-- What bindings alone make of what a server held at first: nothing of that is gone, and every row
is the only one of its binding and names an account that has come since. -/
structure Sound (first now : Holdings) : Prop where
  databases : first.databases ⊆ now.databases
  accounts : first.accounts ⊆ now.accounts
  known : ∀ e ∈ now.rows, e.username ∈ now.accounts
  new_database : ∀ e ∈ now.rows, e.username ∉ first.databases
  new_account : ∀ e ∈ now.rows, e.username ∉ first.accounts
  distinct : (now.rows.map (·.binding)).Nodup

end Holdings

end Sql

namespace Handler

open Sql.Holdings (Sound)

/-- A call about a binding, with what is answered to it but by the server, and after how many
questions the server goes away. -/
structure Attempt where
  name : String
  binding : String
  call : Call
  about : call.About name binding
  outside : (call : Backend.Call) → call.Answer
  patience : Nat

namespace Attempt

variable (x : Attempt)

/-- The answer to what a handler asks. -/
def answer (engine : Engine) : (call : Backend.Call) → StateM (Nat × Host) call.Answer
  | .dialect call => Dialect.answerWhile engine call
  | .provider call => pure (x.outside (.provider call))
  | .startDeletion name id => pure (x.outside (.startDeletion name id))
  | .drawAdmin => pure (x.outside .drawAdmin)
  | .drawBinding => pure (x.outside .drawBinding)

/-- What comes of the call, and the server after it. -/
def run (h : DatabaseHandler) (host : Host) : x.call.Answer × Host :=
  let (result, _, host) := ((h.answer x.call).run (I := Backend.interface) (x.answer h.engine)).run
    (x.patience, host)
  (result, host)

end Attempt

/-- What a call about a binding makes of what a server holds: nothing, or it makes a binding that
has no row, or it removes one by the user of a row. -/
inductive Change (was : Holdings) : (call : Call) → call.Answer → Holdings → Prop
  | nothing (call : Call) (result : call.Answer) : Change was call result was
  | making {name binding user : String} {result : Except ServiceError Credentials} {now : Holdings}
    (vacant : ∀ e ∈ was.rows, e.binding ≠ binding) (makes : Makes was binding user result now) :
    Change was (.createBinding name binding) result now
  | removing {name : String} (e : Sql.Entry) {result : Except ServiceError Unit} {now : Holdings}
    (there : e ∈ was.rows) (removes : Removes was e.binding e.username result now) :
    Change was (.deleteBinding name e.binding) result now

/-- A change is one to what the server holds. -/
theorem Change.on {was now : Holdings} {call : Call} {result : call.Answer} {host : Host}
    {c : Connection} (change : Change was call result now) (there : host.At c.session now) :
    Change was call result (host.holdings c.database) := by
  have holds : host.holdings c.database = now := there.holds
  rwa [holds]

section Programs

variable {x : Attempt} {h : DatabaseHandler} {name binding : String} {host : Host} {c : Connection}
  {was : Holdings} {α : Type}

/-- A call of the dialect comes to what its server does. -/
theorem comes_dialect {call : Dialect.Call} {ends : call.Answer → Host → Prop}
    (stops : Dialect.Stops h.engine call host ends) :
    Comes (x.answer h.engine) (Backend.dialect call) host ends := stops

/-- A named step comes to what its server does, its errors named. -/
theorem comes_dialectStep {step : String} {call : Dialect.Call} {ends : call.Answer → Host → Prop}
    (stops : Dialect.Stops h.engine call host ends) :
    Comes (x.answer h.engine) (Backend.dialectStep step call) host fun result host' =>
      ∃ told, result = ServiceError.inStep step told ∧ ends told host' :=
  fun left => ⟨_, rfl, stops left⟩

/-- A draw asks nothing of the server. -/
theorem comes_drawBinding {ends : Except ServiceError Dialect.Draw → Host → Prop}
    (holds : ends (.ok (x.outside .drawBinding)) host) :
    Comes (x.answer h.engine) Backend.drawBinding host ends := fun _ => holds

/-- What is done on the server of an instance: it is reached first. -/
theorem comes_onServer {next : Connection → Backend.Action α}
    {ends : Except ServiceError α → Host → Prop}
    (only : ∀ c', h.connected name (x.outside (.provider (.find name))) = .ok c' → c' = c)
    (failed : ∀ e host', host'.holdings c.database = host.holdings c.database →
      ends (.error e) host')
    (rest : ∀ host', host'.At c.session (host.holdings c.database) →
      Comes (x.answer h.engine) (next c) host' ends) :
    Comes (x.answer h.engine) (do
      let admin ← h.connection name
      Backend.dialect (.connect admin)
      next admin) host ends := by
  have found : Comes (x.answer h.engine) (h.connection name) host fun result host' =>
      host' = host ∧ ∀ c', result = .ok c' → c' = c := by
    intro left
    rw [DatabaseHandler.connection_eq]
    exact ⟨rfl, only⟩
  refine found.bind (fun e host' same => failed e host' (by rw [same.1])) fun admin host' same => ?_
  obtain ⟨rfl, is⟩ := same
  obtain rfl := is admin rfl
  refine (comes_dialect ((stopped h.engine).connect admin host')).bind ?_ ?_
  · rintro e host'' (⟨-, rfl⟩ | rfl)
    · exact failed e _ rfl
    · exact failed e _ rfl
  · rintro value host'' (⟨⟨_, is⟩, -⟩ | rfl)
    · cases is
    · exact rest _ ⟨rfl, rfl⟩

/-- A step that leaves everything as it is, and then the others. -/
theorem comes_look_bind {step : String} {call : Dialect.Call} {P : call.Answer → Prop}
    {next : call.Result → Backend.Action α} {ends : Except ServiceError α → Host → Prop}
    (stops : Dialect.Stops h.engine call host fun result host' =>
      host'.At c.session was ∧ P result)
    (failed : ∀ e host', host'.At c.session was → ends (.error e) host')
    (rest : ∀ value host', host'.At c.session was → P (.ok value) →
      Comes (x.answer h.engine) (next value) host' ends) :
    Comes (x.answer h.engine) (Backend.dialectStep step call >>= next) host ends := by
  refine (comes_dialectStep stops).bind ?_ ?_
  · rintro e host' ⟨-, -, there, -⟩
    exact failed e host' there
  · rintro value host' ⟨told, is, there, holds⟩
    rw [ServiceError.inStep_eq_ok_iff.1 is.symm] at holds
    exact rest value host' there holds

/-- Asking for the state of a binding changes nothing. -/
theorem comes_bindingState
    (only : ∀ c', h.connected name (x.outside (.provider (.find name))) = .ok c' → c' = c)
    (home : c.database = c.username) :
    Comes (x.answer h.engine) (h.bindingState name binding) host fun result host' =>
      Change (host.holdings c.database) (.bindingState name binding) result
        (host'.holdings c.database) := by
  refine comes_onServer only (fun e host' same => same ▸ .nothing _ _) fun host' here => ?_
  have asked := (stopped h.engine).hasTable here
  refine comes_look_bind (P := fun _ => True) (fun left => ⟨asked left, trivial⟩)
    (fun e _ there => Change.on (.nothing _ _) there) fun there host'' here _ => ?_
  split
  · refine comes_look_bind ((stopped h.engine).read here home binding)
      (fun e _ there => Change.on (.nothing _ _) there) fun record host₃ here _ => ?_
    exact comes_done (Change.on (.nothing _ _) here)
  · exact comes_done (Change.on (.nothing _ _) here)

/-- Creating a binding is a change that a call about it may make. -/
theorem comes_createBinding
    (only : ∀ c', h.connected name (x.outside (.provider (.find name))) = .ok c' → c' = c)
    (home : c.database = c.username) :
    Comes (x.answer h.engine) (h.createBinding name binding) host fun result host' =>
      Change (host.holdings c.database) (.createBinding name binding) result
        (host'.holdings c.database) := by
  refine comes_onServer only (fun e host' same => same ▸ .nothing _ _) fun host' here => ?_
  have prepared := (stopped h.engine).prepare here home
  refine comes_look_bind (P := fun _ => True) (fun left => ⟨prepared left, trivial⟩)
    (fun e _ there => Change.on (.nothing _ _) there) fun _ host'' here _ => ?_
  refine comes_look_bind ((stopped h.engine).read here home binding)
    (fun e _ there => Change.on (.nothing _ _) there) fun record host₃ here vacant => ?_
  cases record with
  | some record => exact comes_done (Change.on (.nothing _ _) here)
  | none =>
    have vacant := vacant rfl
    have drawn : Comes (x.answer h.engine) Backend.drawBinding host₃ fun _ host => host = host₃ :=
      comes_drawBinding rfl
    refine drawn.bind (fun e _ is => is ▸ Change.on (.nothing _ _) here) ?_
    rintro draw _ rfl
    refine (comes_dialectStep ((stopped h.engine).create here home binding draw)).bind ?_ ?_
    · rintro e host₄ ⟨told, is, now, there, makes⟩
      have makes := is ▸ makes.inStep "creating user database"
      cases makes with
      | begun _ databases accounts =>
        exact Change.on (.making vacant (.begun e databases accounts)) there
    · rintro record host₄ ⟨told, is, now, there, makes⟩
      have makes := is ▸ makes.inStep "creating user database"
      cases makes with
      | made _ stored unmade unknown =>
        exact comes_done (Change.on (.making vacant (.made _ stored unmade unknown)) there)

/-- Deleting a binding is a change that a call about it may make. -/
theorem comes_deleteBinding
    (only : ∀ c', h.connected name (x.outside (.provider (.find name))) = .ok c' → c' = c)
    (home : c.database = c.username)
    (others : ∀ e ∈ (host.holdings c.database).rows, e.username ≠ c.database) :
    Comes (x.answer h.engine) (h.deleteBinding name binding) host fun result host' =>
      Change (host.holdings c.database) (.deleteBinding name binding) result
        (host'.holdings c.database) := by
  refine comes_onServer only (fun e host' same => same ▸ .nothing _ _) fun host' here => ?_
  have asked := (stopped h.engine).hasTable here
  refine comes_look_bind (P := fun _ => True) (fun left => ⟨asked left, trivial⟩)
    (fun e _ there => Change.on (.nothing _ _) there) fun there host'' here _ => ?_
  split
  · refine comes_look_bind ((stopped h.engine).readUser here home binding)
      (fun e _ there => Change.on (.nothing _ _) there) fun user host₃ here known => ?_
    cases user with
    | none => exact comes_done (Change.on (.nothing _ _) here)
    | some user =>
      obtain ⟨e, listed, rfl, rfl⟩ := known _ rfl
      refine (comes_dialectStep
        ((stopped h.engine).delete here home e.binding (others e listed))).mono ?_
      rintro result host₄ ⟨told, rfl, now, there, removes⟩
      exact Change.on (.removing e listed (removes.inStep _)) there
  · exact comes_done (Change.on (.nothing _ _) here)

/-- What a call about a binding makes of what a server holds, however soon the server goes away. -/
theorem Attempt.change
    (only : ∀ c', h.connected x.name (x.outside (.provider (.find x.name))) = .ok c' → c' = c)
    (home : c.database = c.username)
    (others : ∀ e ∈ (host.holdings c.database).rows, e.username ≠ c.database) :
    Change (host.holdings c.database) x.call (x.run h host).1
      ((x.run h host).2.holdings c.database) := by
  obtain ⟨name, binding, call, about, outside, patience⟩ := x
  cases about with
  | bindingState => exact comes_bindingState only home patience
  | createBinding => exact comes_createBinding only home patience
  | deleteBinding => exact comes_deleteBinding only home others patience

end Programs

/-- A binding could not be made, and a database came for it that no row names. -/
def LeavesDatabase (was : Holdings) (call : Call) (result : call.Answer) (now : Holdings)
    (n : String) : Prop :=
  (∃ name binding, call = .createBinding name binding) ∧ (∃ e, result = .error e) ∧
    n ∉ was.databases ∧ n ∈ now.databases ∧ ¬ now.OnRecord n

/-- A binding could not be made, and an account came for it; or a binding was removed, and no row
names its account any more. -/
def LeavesAccount (was : Holdings) (call : Call) (result : call.Answer) (now : Holdings)
    (n : String) : Prop :=
  (∃ name binding, call = .createBinding name binding) ∧ (∃ e, result = .error e) ∧
      n ∉ was.accounts ∧ n ∈ now.accounts ∨
    (∃ name binding, call = .deleteBinding name binding) ∧ (∃ value, result = .ok value) ∧
      was.OnRecord n ∧ ¬ now.OnRecord n

section Strays

variable {first was now : Holdings} {call : Call} {result : call.Answer} {n : String}

/-- A call about a binding keeps what the server held at first, and rows to their accounts. -/
theorem Change.sound (change : Change was call result now) (sound : Sound first was) :
    Sound first now := by
  cases change with
  | nothing => exact sound
  | making vacant makes =>
    cases makes with
    | begun e databases_added accounts_added =>
      exact { sound with
        databases := List.Subset.trans sound.databases databases_added.subset
        accounts := List.Subset.trans sound.accounts accounts_added.subset
        known := fun e he => accounts_added.subset (sound.known e he) }
    | made value stored unmade unknown =>
      have new_database := fun there => unmade (sound.databases there)
      have new_account := fun there => unknown (sound.accounts there)
      -- the row that comes last names a user that is new to the server
      exact {
        databases := List.Subset.trans sound.databases (List.subset_append_left _ _)
        accounts := List.Subset.trans sound.accounts (List.subset_append_left _ _)
        known := List.forall_mem_append.2 ⟨fun e he => List.mem_append_left _ (sound.known e he),
          List.forall_mem_singleton.2 (List.mem_append_right _ (List.mem_singleton_self _))⟩
        new_database := List.forall_mem_append.2
          ⟨sound.new_database, List.forall_mem_singleton.2 new_database⟩
        new_account := List.forall_mem_append.2
          ⟨sound.new_account, List.forall_mem_singleton.2 new_account⟩
        distinct := by
          rw [List.map_append, List.map_singleton, List.nodup_append]
          refine ⟨sound.distinct, List.nodup_singleton _, ?_⟩
          simpa using vacant }
  | removing e there removes =>
    have kept : first.databases ⊆ was.databases.filter (· ≠ e.username) := by
      intro m hm
      refine List.mem_filter.2 ⟨sound.databases hm, decide_eq_true ?_⟩
      rintro rfl
      exact sound.new_database e there hm
    cases removes with
    | begun e' dropped =>
      refine { sound with databases := ?_ }
      rcases dropped with rfl | rfl
      · exact sound.databases
      · exact kept
    | removed value =>
      exact {
        databases := kept
        accounts := sound.accounts
        known := fun e he => sound.known e (List.mem_filter.1 he).1
        new_database := fun e he => sound.new_database e (List.mem_filter.1 he).1
        new_account := fun e he => sound.new_account e (List.mem_filter.1 he).1
        distinct := sound.distinct.sublist (List.filter_sublist.map _) }

/-- Where the row of a user is removed, the other users stay on record. -/
theorem onRecord_filter (sound : Sound first was) {e : Sql.Entry} (there : e ∈ was.rows)
    (other : n ≠ e.username) :
    (∃ e' ∈ was.rows.filter (·.binding ≠ e.binding), e'.username = n) ↔ was.OnRecord n := by
  constructor
  · rintro ⟨e', listed, is⟩
    exact ⟨e', (List.mem_filter.1 listed).1, is⟩
  · rintro ⟨e', listed, is⟩
    refine ⟨e', List.mem_filter.2 ⟨listed, decide_eq_true fun same => other ?_⟩, is⟩
    rw [← is, List.inj_on_of_nodup_map sound.distinct listed there same]

/-- Where a row is added, its user comes on record. -/
theorem onRecord_append (e : Sql.Entry) :
    (∃ e' ∈ was.rows ++ [e], e'.username = n) ↔ was.OnRecord n ∨ e.username = n := by
  simp [Sql.Holdings.OnRecord, or_and_right, exists_or]

/-- What comes with a row for it is not stray, and nothing else becomes stray. -/
theorem stray_append {held names : List String} {binding user stored : String}
    (fresh : user ∉ names) :
    (n ∈ names ++ [user] ∧ n ∉ held ∧
        ¬ ∃ e ∈ was.rows ++ [⟨binding, user, stored⟩], e.username = n) ↔
      n ∈ names ∧ n ∉ held ∧ ¬ was.OnRecord n := by
  rw [onRecord_append]
  constructor
  · rintro ⟨there, new, off⟩
    obtain ⟨off, other⟩ := not_or.1 off
    rcases List.mem_append.1 there with old | made
    · exact ⟨old, new, off⟩
    · exact absurd (List.mem_singleton.1 made).symm other
  · rintro ⟨old, new, off⟩
    refine ⟨List.mem_append_left _ old, new, not_or.2 ⟨off, ?_⟩⟩
    rintro rfl
    exact fresh old

/-- A stray database was stray before the call, or the call has left it. -/
theorem Change.strayDatabase_iff (change : Change was call result now)
    (sound : Sound first was) : first.StrayDatabase now n ↔
      first.StrayDatabase was n ∨ LeavesDatabase was call result now n := by
  cases change with
  | nothing => exact ⟨.inl, fun stray => stray.resolve_right fun leaves =>
      leaves.2.2.1 leaves.2.2.2.1⟩
  | making vacant makes =>
    cases makes with
    | begun e databases_added accounts_added =>
      constructor
      · rintro ⟨there, new, off⟩
        by_cases old : n ∈ was.databases
        · exact .inl ⟨old, new, off⟩
        · exact .inr ⟨⟨_, _, rfl⟩, ⟨_, rfl⟩, old, there, off⟩
      · rintro (⟨old, new, off⟩ | ⟨-, -, fresh, there, off⟩)
        · exact ⟨databases_added.subset old, new, off⟩
        · exact ⟨there, fun old => fresh (sound.databases old), off⟩
    | made value stored unmade unknown =>
      refine (stray_append unmade).trans (or_iff_left ?_).symm
      rintro ⟨-, ⟨_, is⟩, -⟩
      cases is
  | removing e there removes =>
    -- the database that is dropped is that of a row, so no stray one is
    have unlike : ¬ was.OnRecord n → n ≠ e.username := fun off is => off ⟨e, there, is.symm⟩
    have kept (old : n ∈ was.databases) (off : ¬ was.OnRecord n) :
        n ∈ was.databases.filter (· ≠ e.username) :=
      List.mem_filter.2 ⟨old, decide_eq_true (unlike off)⟩
    cases removes with
    | begun e' dropped =>
      constructor
      · rintro ⟨there, new, off⟩
        refine .inl ⟨?_, new, off⟩
        rcases dropped with rfl | rfl
        · exact there
        · exact (List.mem_filter.1 there).1
      · rintro (⟨old, new, off⟩ | ⟨⟨_, _, is⟩, -⟩)
        · refine ⟨?_, new, off⟩
          rcases dropped with rfl | rfl
          · exact old
          · exact kept old off
        · cases is
    | removed value =>
      constructor
      · rintro ⟨listed, new, off⟩
        obtain ⟨old, other⟩ := List.mem_filter.1 listed
        refine .inl ⟨old, new, fun on => off ?_⟩
        exact (onRecord_filter sound there (of_decide_eq_true other)).2 on
      · rintro (⟨old, new, off⟩ | ⟨⟨_, _, is⟩, -⟩)
        · exact ⟨kept old off, new, fun on =>
            off ((onRecord_filter sound there (unlike off)).1 on)⟩
        · cases is

/-- An account is left only where accounts or rows change. -/
theorem LeavesAccount.differs (leaves : LeavesAccount was call result now n) :
    now.accounts ≠ was.accounts ∨ now.rows ≠ was.rows := by
  rcases leaves with ⟨-, -, fresh, there⟩ | ⟨-, -, on, off⟩
  · exact .inl fun same => fresh (same ▸ there)
  · refine .inr fun same => off ?_
    rwa [Sql.Holdings.OnRecord, same]

/-- A stray account was stray before the call, or the call has left it. -/
theorem Change.strayAccount_iff (change : Change was call result now)
    (sound : Sound first was) : first.StrayAccount now n ↔
      first.StrayAccount was n ∨ LeavesAccount was call result now n := by
  cases change with
  | nothing => exact ⟨.inl, fun stray => stray.resolve_right fun leaves =>
      leaves.differs.elim (· rfl) (· rfl)⟩
  | making vacant makes =>
    cases makes with
    | begun e databases_added accounts_added =>
      constructor
      · rintro ⟨there, new, off⟩
        by_cases old : n ∈ was.accounts
        · exact .inl ⟨old, new, off⟩
        · exact .inr (.inl ⟨⟨_, _, rfl⟩, ⟨_, rfl⟩, old, there⟩)
      · rintro (⟨old, new, off⟩ | ⟨-, -, fresh, there⟩ | ⟨⟨_, _, is⟩, -⟩)
        · exact ⟨accounts_added.subset old, new, off⟩
        · refine ⟨there, fun old => fresh (sound.accounts old), ?_⟩
          rintro ⟨e, listed, rfl⟩
          exact fresh (sound.known e listed)
        · cases is
    | made value stored unmade unknown =>
      refine (stray_append unknown).trans (or_iff_left ?_).symm
      rintro (⟨-, ⟨_, is⟩, -⟩ | ⟨⟨_, _, is⟩, -⟩)
      · cases is
      · cases is
  | removing e there removes =>
    cases removes with
    | begun e' dropped => exact ⟨.inl, fun stray => stray.resolve_right fun leaves =>
        leaves.differs.elim (· rfl) (· rfl)⟩
    | removed value =>
      constructor
      · rintro ⟨old, new, off⟩
        by_cases on : was.OnRecord n
        · exact .inr (.inr ⟨⟨_, _, rfl⟩, ⟨_, rfl⟩, on, off⟩)
        · exact .inl ⟨old, new, on⟩
      · rintro (⟨old, new, off⟩ | ⟨⟨_, _, is⟩, -⟩ | ⟨-, -, ⟨e', listed, rfl⟩, off⟩)
        · refine ⟨old, new, ?_⟩
          rintro ⟨e', listed, is⟩
          exact off ⟨e', (List.mem_filter.1 listed).1, is⟩
        · cases is
        · exact ⟨sound.known e' listed, sound.new_account e' listed, off⟩

end Strays

/-- The server after some calls, one after another. -/
def after (h : DatabaseHandler) (xs : List Attempt) (host : Host) : Host :=
  xs.foldl (fun host x => (x.run h host).2) host

/-- Something holds of one of some calls and of the server that it comes to. -/
def Somewhere (h : DatabaseHandler) (xs : List Attempt) (host : Host)
    (P : Attempt → Host → Prop) : Prop :=
  ∃ before x rest, xs = before ++ x :: rest ∧ P x (after h before host)

section Runs

variable {h : DatabaseHandler} {a : Appliance} {c : Connection} {host : Host} {first : Holdings}

/-- Of no calls nothing holds. -/
theorem somewhere_nil {P : Attempt → Host → Prop} : ¬ Somewhere h [] host P := by
  rintro ⟨before, x, rest, is, -⟩
  cases before <;> cases is

/-- Something holds of the first call, or of one of the others on the server that it leaves. -/
theorem somewhere_cons {x : Attempt} {xs : List Attempt} {P : Attempt → Host → Prop} :
    Somewhere h (x :: xs) host P ↔ P x host ∨ Somewhere h xs (x.run h host).2 P := by
  constructor
  · rintro ⟨before, y, rest, is, holds⟩
    cases before with
    | nil =>
      cases is
      exact .inl holds
    | cons z before =>
      cases is
      exact .inr ⟨before, y, rest, rfl, holds⟩
  · rintro (holds | ⟨before, y, rest, rfl, holds⟩)
    · exact ⟨[], x, xs, rfl, holds⟩
    · exact ⟨x :: before, y, rest, rfl, holds⟩

/-- **What comes of a run.**  Where each call adds to something that it may leave, it is there after
a run iff it was there before, or a call of the run has left it. -/
theorem after_iff {stray : Holdings → Prop}
    {leaves : Holdings → (call : Call) → call.Answer → Holdings → Prop}
    (step : ∀ was call result now, Change was call result now → Sound first was →
      (stray now ↔ stray was ∨ leaves was call result now))
    (reached : h.administrator a = .ok c) (here : c.database ∈ first.databases)
    (xs : List Attempt) (sound : Sound first (host.holdings c.database))
    (only : ∀ x ∈ xs, ∀ a', x.outside (.provider (.find x.name)) = .ok [a'] → a' = a) :
    stray ((after h xs host).holdings c.database) ↔ stray (host.holdings c.database) ∨
      Somewhere h xs host fun x host => leaves (host.holdings c.database) x.call (x.run h host).1
        ((x.run h host).2.holdings c.database) := by
  obtain ⟨address, -, is⟩ := DatabaseHandler.administrator_eq_ok_iff.1 reached
  have home : c.database = c.username := by rw [is]
  induction xs generalizing host with
  | nil => exact ⟨.inl, fun holds => holds.resolve_right somewhere_nil⟩
  | cons x xs ih =>
    have change : Change (host.holdings c.database) x.call (x.run h host).1
        ((x.run h host).2.holdings c.database) := by
      refine Attempt.change (fun c' connected => ?_) home fun e he same => ?_
      · obtain ⟨a', found, reached'⟩ := DatabaseHandler.connected_eq_ok_iff.1 connected
        obtain rfl := only x List.mem_cons_self a' found
        exact Except.ok.inj (reached'.symm.trans reached)
      · exact sound.new_database e he (same ▸ here)
    refine (ih (change.sound sound) fun y hy => only y (List.mem_cons_of_mem x hy)).trans ?_
    rw [step _ _ _ _ change sound, somewhere_cons, or_assoc]

end Runs

/-- **What is left on a server.**  Whatever handler calls about bindings are made on the server of
an appliance, in whatever order, and whenever it goes away in each of them: a database is stray in
the end iff some call could not make a binding and left it, and an account iff some call could not
make a binding and left it, or removed the binding that it was made for. -/
theorem strays_iff {h : DatabaseHandler} {a : Appliance} {c : Connection} {host : Host}
    {owner : String} {xs : List Attempt} (reached : h.administrator a = .ok c)
    (home : host.databases.get? c.database = some { owner })
    (only : ∀ x ∈ xs, ∀ a', x.outside (.provider (.find x.name)) = .ok [a'] → a' = a)
    (n : String) :
    ((host.holdings c.database).StrayDatabase ((after h xs host).holdings c.database) n ↔
      Somewhere h xs host fun x host => LeavesDatabase (host.holdings c.database) x.call
        (x.run h host).1 ((x.run h host).2.holdings c.database) n) ∧
    ((host.holdings c.database).StrayAccount ((after h xs host).holdings c.database) n ↔
      Somewhere h xs host fun x host => LeavesAccount (host.holdings c.database) x.call
        (x.run h host).1 ((x.run h host).2.holdings c.database) n) := by
  have rows : (host.holdings c.database).rows = [] := by
    rw [Host.holdings, Host.table?, home]
    rfl
  have sound : Sound (host.holdings c.database) (host.holdings c.database) := {
    databases := fun _ => id
    accounts := fun _ => id
    known := by simp [rows]
    new_database := by simp [rows]
    new_account := by simp [rows]
    distinct := by simp [rows] }
  have here : c.database ∈ (host.holdings c.database).databases := Table.mem_keys_of_get? home
  constructor
  · refine (after_iff (fun _ _ _ _ change sound => change.strayDatabase_iff sound) reached here xs
      sound only).trans (or_iff_right ?_)
    exact fun stray => stray.2.1 stray.1
  · refine (after_iff (fun _ _ _ _ change sound => change.strayAccount_iff sound) reached here xs
      sound only).trans (or_iff_right ?_)
    exact fun stray => stray.2.1 stray.1

/-- A call about a binding of the one appliance there is, with a user to draw. -/
def Attempt.on (a : Appliance) (name binding : String) {call : Call}
    (about : call.About name binding) (drawn patience : Nat) : Attempt where
  name
  binding
  call
  about
  outside
    | .provider (.find _) => .ok [a]
    | .provider _ => .error .http
    | .startDeletion _ _ => ()
    | .dialect _ => .error .database
    | .drawAdmin => ⟨.nth 10 drawn, .nth 20 drawn⟩
    | .drawBinding => ⟨.nth 20 drawn, .nth 30 drawn, .replicate 12 0⟩
  patience

/-- A binding whose account is refused, and one that is made and removed. -/
theorem left_of_two_bindings :
    let h : DatabaseHandler := ⟨.mariaDb, 10⟩
    let a := Provider.Memory.boot .instant (applianceId 1) (.plain "a")
    let c : Connection := ⟨.mariaDb, "10.0.0.2", 3306, "root", "root", "secret", a.id.text⟩
    let host := Host.fresh "root" "secret"
    let xs : List Attempt := [.on a "a" "b" .createBinding 0 5, .on a "a" "b" .createBinding 1 9,
      .on a "a" "b" .deleteBinding 0 9]
    h.administrator a = .ok c ∧ host.databases.get? c.database = some { owner := "root" } ∧
    (∀ x ∈ xs, ∀ a', x.outside (.provider (.find x.name)) = .ok [a'] → a' = a) ∧
    (Somewhere h xs host fun x host => LeavesDatabase (host.holdings c.database) x.call
      (x.run h host).1 ((x.run h host).2.holdings c.database) (Letters.nth 20 0).text) ∧
    (Somewhere h xs host fun x host => LeavesAccount (host.holdings c.database) x.call
      (x.run h host).1 ((x.run h host).2.holdings c.database) (Letters.nth 20 1).text) := by
  intro h a c host xs
  have stray : (host.holdings c.database).StrayDatabase
        ((after h xs host).holdings c.database) (Letters.nth 20 0).text ∧
      (host.holdings c.database).StrayAccount
        ((after h xs host).holdings c.database) (Letters.nth 20 1).text := by
    decide +kernel +revert
  have only : ∀ x ∈ xs, ∀ a', x.outside (.provider (.find x.name)) = .ok [a'] → a' = a := by
    simp [xs, Attempt.on, eq_comm]
  exact ⟨rfl, rfl, only, (strays_iff rfl rfl only _).1.1 stray.1,
    (strays_iff rfl rfl only _).2.1 stray.2⟩

/-- **Bindings leave accounts and databases.**  Where nothing is refused, a binding that is made and
removed leaves its account, for either engine; where MariaDB refuses the account of a new binding,
the database stays that was made for it. -/
theorem leaves_accounts_and_databases :
    let a := Provider.Memory.boot .instant (applianceId 1) (.plain "a")
    let host := Host.fresh "root" "secret"
    let user := (Letters.nth 20 0).text
    let making (patience : Nat) : Attempt := .on a "a" "b" .createBinding 0 patience
    let removing : Attempt := .on a "a" "b" .deleteBinding 0 9
    let maria : DatabaseHandler := ⟨.mariaDb, 10⟩
    let postgres : DatabaseHandler := ⟨.postgreSql, 10⟩
    (removing.run maria (after maria [making 9] host)).1.isOk = true ∧
    (host.holdings "root").StrayAccount ((after maria [making 9, removing] host).holdings "root")
      user ∧
    (removing.run postgres (after postgres [making 9] host)).1.isOk = true ∧
    (host.holdings "root").StrayAccount
      ((after postgres [making 9, removing] host).holdings "root") user ∧
    (host.holdings "root").StrayDatabase ((after maria [making 5] host).holdings "root") user := by
  decide +kernel

end Handler
end ServiceBroker

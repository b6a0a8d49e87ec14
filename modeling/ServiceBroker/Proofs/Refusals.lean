/-
# Servers that go away

What the calls of a dialect have done on a server that goes away in the middle of them.  Both
dialects come to the same (`Dialect.stopped`): making a binding adds database and account, in one
order or the other, and the row last; removing one drops the database and then the row, and no
account is ever dropped.
-/

import ServiceBroker.Proofs.Interruptions

namespace ServiceBroker

open Sql (Host)

namespace Dialect

open Sql (Holdings Session Entry Word replyWhile)

/-- A name is there as before, or has come last. -/
def Added (name : String) (names now : List String) : Prop :=
  now = names ∨ name ∉ names ∧ now = names ++ [name]

/-- What comes of making a binding: it is made, or database and account may be there, each for
itself, and no row. -/
inductive Makes (was : Holdings) (binding user : String) {α : Type} :
    Except ServiceError α → Holdings → Prop
  | begun (e : ServiceError) {databases accounts : List String}
    (databases_added : Added user was.databases databases)
    (accounts_added : Added user was.accounts accounts) :
    Makes was binding user (.error e) ⟨databases, accounts, was.rows⟩
  | made (value : α) (stored : String) (unmade : user ∉ was.databases)
    (unknown : user ∉ was.accounts) :
    Makes was binding user (.ok value) ⟨was.databases ++ [user], was.accounts ++ [user],
      was.rows ++ [⟨binding, user, stored⟩]⟩

/-- What comes of removing a binding: its row is gone and its database, or the database may be. -/
inductive Removes (was : Holdings) (binding user : String) {α : Type} :
    Except ServiceError α → Holdings → Prop
  | begun (e : ServiceError) {databases : List String}
    (dropped : databases = was.databases ∨ databases = was.databases.filter (· ≠ user)) :
    Removes was binding user (.error e) { was with databases }
  | removed (value : α) : Removes was binding user (.ok value)
    ⟨was.databases.filter (· ≠ user), was.accounts, was.rows.filter (·.binding ≠ binding)⟩

section Ends

variable {was now : Holdings} {binding user : String} {α : Type} {told : Except ServiceError α}

/-- A binding that is made in a named step is made. -/
theorem Makes.inStep (makes : Makes was binding user told now) (step : String) :
    Makes was binding user (ServiceError.inStep step told) now := by
  cases makes with
  | begun e databases accounts => exact .begun _ databases accounts
  | made value stored unmade unknown => exact .made value stored unmade unknown

/-- A binding that is removed in a named step is removed. -/
theorem Removes.inStep (removes : Removes was binding user told now) (step : String) :
    Removes was binding user (ServiceError.inStep step told) now := by
  cases removes with
  | begun e dropped => exact .begun _ dropped
  | removed value => exact .removed value

/-- Where something may have come nothing is gone. -/
theorem Added.subset {name : String} {names now : List String} (added : Added name names now) :
    names ⊆ now := by
  rcases added with rfl | ⟨-, rfl⟩
  · exact fun _ => id
  · exact List.subset_append_left _ _

end Ends

/-- The answer of a server of an engine that answers so many questions and refuses all others. -/
def answerWhile : Engine → (call : Call) → StateM (Nat × Host) call.Answer
  | .mariaDb, call => (MariaDb.answer call).run (I := Sql.interface MariaDb.Statement)
    (replyWhile MariaDb.execute)
  | .postgreSql, call => (PostgreSql.answer call).run (I := Sql.interface PostgreSql.Statement)
    (replyWhile PostgreSql.execute)

/-- However soon the server goes away, a call comes to an end that `ends` holds of. -/
def Stops (engine : Engine) (call : Call) (host : Host) (ends : call.Answer → Host → Prop) : Prop :=
  ∀ left, ends ((answerWhile engine call).run (left, host)).1
    ((answerWhile engine call).run (left, host)).2.2

/-- What the calls of a dialect have done when they end, however soon the server goes away. -/
structure Stopped (engine : Engine) : Prop where
  connect (c : Connection) (host : Host) : Stops engine (.connect c) host fun result host' =>
    (∃ e, result = .error e) ∧ host' = host ∨
      host' = { host with session := some c.session }
  hasTable {c : Connection} {host : Host} {was : Holdings}
    (here : host.At c.session was) :
    Stops engine (.hasTable c) host fun _ host' => host'.At c.session was
  prepare {c : Connection} {host : Host} {was : Holdings}
    (here : host.At c.session was) (home : c.database = c.username) :
    Stops engine (.prepare c) host fun _ host' => host'.At c.session was
  read {c : Connection} {host : Host} {was : Holdings}
    (here : host.At c.session was) (home : c.database = c.username)
    (binding : String) :
    Stops engine (.read c binding) host fun result host' =>
      host'.At c.session was ∧
        (result = .ok none → ∀ e ∈ was.rows, e.binding ≠ binding)
  readUser {c : Connection} {host : Host} {was : Holdings}
    (here : host.At c.session was) (home : c.database = c.username)
    (binding : String) :
    Stops engine (.readUser c binding) host fun result host' =>
      host'.At c.session was ∧
        ∀ user, result = .ok (some user) → ∃ e ∈ was.rows, e.binding = binding ∧ e.username = user
  create {c : Connection} {host : Host} {was : Holdings}
    (here : host.At c.session was) (home : c.database = c.username)
    (binding : String) (draw : Draw) :
    Stops engine (.create c binding draw) host fun result host' =>
      ∃ now, host'.At c.session now ∧
        Makes was binding draw.username.text result now
  delete {c : Connection} {host : Host} {was : Holdings}
    (here : host.At c.session was) (home : c.database = c.username)
    (binding : String) {user : String} (other : user ≠ c.database) :
    Stops engine (.delete c binding user) host fun result host' =>
      ∃ now, host'.At c.session now ∧ Removes was binding user result now

section

open Sql

variable {c : Connection} {host : Host} {was : Holdings}

/-- A server is reached, or it is left as it is. -/
theorem comes_reach {S : Type} {execute : S → Session → Host → Option (List Sql.Row × Host)}
    (c : Connection) (host : Host) :
    Comes (replyWhile execute) (Sql.connect (S := S) c) host fun result host' =>
      (∃ e, result = .error e) ∧ host' = host ∨ host' = { host with session := some c.session } :=
  comes_connect (.inl ⟨⟨_, rfl⟩, rfl⟩) (.inr rfl)

/-- Dropping a database, if there is one, drops it or leaves everything as it is. -/
theorem comes_dropDatabase {S : Type} {execute : S → Session → Host → Option (List Sql.Row × Host)}
    {find : S} {drop : Word → S} {user : String} (here : host.At c.session was)
    (asked : execute find c.session host =
      some (Host.found (host.databases.get? user).isSome, host))
    (drops : ∀ w : Word, w.text = user → ∃ change, execute (drop w) c.session host =
      change.map ([], ·) ∧ ∀ host', change = some host' →
        host.dropDatabase c.username user = some host') (other : user ≠ c.database) :
    Comes (replyWhile execute)
      (do if ← selectsAny find then perform (drop (← check (Word.ofText user)))) host
      fun result host' => (∃ e, result = .error e) ∧ host'.At c.session was ∨
        host'.At c.session { was with databases := was.databases.filter (· ≠ user) } := by
  refine comes_selectsAny_bind here.connected asked (fun e => .inl ⟨⟨e, rfl⟩, here⟩) ?_
  cases there : host.databases.get? user with
  | none =>
    have absent : user ∉ was.databases := by
      rw [← here.holds]
      exact Table.get?_eq_none_iff.1 there
    have same : was.databases.filter (· ≠ user) = was.databases :=
      List.filter_eq_self.2 fun n hn => decide_eq_true fun is => absent (is ▸ hn)
    refine comes_done (.inr ?_)
    rw [same]
    exact here
  | some d =>
    refine comes_word_bind (fun e => .inl ⟨⟨e, rfl⟩, here⟩) fun w is => ?_
    obtain ⟨change, carried, dropped⟩ := drops w is
    refine comes_perform here.connected carried (.inl ⟨⟨_, rfl⟩, here⟩) fun host' changed => ?_
    exact .inr (here.dropDatabase other (dropped host' changed))

/-- Dropping the database of a binding, and then what is done about its row. -/
theorem comes_drop_bind {S : Type} {execute : S → Session → Host → Option (List Sql.Row × Host)}
    {find : S} {drop : Word → S} {binding user name : String} {next : Unit → Script S Unit}
    (here : host.At c.session was)
    (asked : execute find c.session host =
      some (Host.found (host.databases.get? user).isSome, host))
    (drops : ∀ w : Word, w.text = user → ∃ change, execute (drop w) c.session host =
      change.map ([], ·) ∧ ∀ host', change = some host' →
        host.dropDatabase c.username user = some host') (other : user ≠ c.database)
    (rest : ∀ host', host'.At c.session { was with
        databases := was.databases.filter (· ≠ user) } →
      Comes (replyWhile execute) (next ()) host' fun result host' =>
        ∃ now, host'.At c.session now ∧ Removes was binding user result now) :
    Comes (replyWhile execute)
      (inStep name (do
        if ← selectsAny find then perform (drop (← check (Word.ofText user)))) >>= next) host
      fun result host' => ∃ now, host'.At c.session now ∧ Removes was binding user result now := by
  let between (result : Except ServiceError Unit) (host' : Host) : Prop :=
    (∃ e, result = .error e) ∧ host'.At c.session was ∨
      host'.At c.session { was with databases := was.databases.filter (· ≠ user) }
  have first : Comes (replyWhile execute) (inStep name (do
      if ← selectsAny find then perform (drop (← check (Word.ofText user))))) host between := by
    refine comes_inStep ((comes_dropDatabase here asked drops other).mono fun result host' => ?_)
    rintro (⟨⟨e, rfl⟩, now⟩ | now)
    · exact .inl ⟨⟨_, rfl⟩, now⟩
    · exact .inr now
  refine first.bind (fun e host' holds => ?_) fun value host' holds => ?_
  · rcases holds with ⟨-, now⟩ | now
    · exact ⟨_, now, .begun e (.inl rfl)⟩
    · exact ⟨_, now, .begun e (.inr rfl)⟩
  · rcases holds with ⟨⟨_, is⟩, -⟩ | now
    · cases is
    · exact rest host' now

/-- What is read off the answer to a look for the row of a binding. -/
theorem comes_record {S : Type} {execute : S → Session → Host → Option (List Sql.Row × Host)}
    (engine : Engine) (salt binding : String) (here : host.At c.session was) {rows : List Sql.Row}
    (is : rows = (was.rows.find? (·.binding = binding)).toList.map fun e =>
      [some e.username, some e.stored]) :
    Comes (replyWhile execute) (match rows with
      | [] => return none
      | row :: _ => do
        let username ← check (cell row 0)
        let stored ← check (cell row 1)
        let password ← check (loadedPassword engine salt stored)
        return some (⟨binding, username, password⟩ : BindingRecord)) host fun result host' =>
      host'.At c.session was ∧ (result = .ok none → ∀ e ∈ was.rows, e.binding ≠ binding) := by
  subst is
  cases found : was.rows.find? (·.binding = binding) with
  | none =>
    refine comes_done ⟨here, fun _ e he same => ?_⟩
    exact List.find?_eq_none.1 found e he (decide_eq_true same)
  | some e =>
    show Comes (replyWhile execute) (check (loadedPassword engine salt e.stored) >>= fun password =>
      pure (some (⟨binding, e.username, password⟩ : BindingRecord))) host _
    cases loadedPassword engine salt e.stored with
    | error e => exact comes_done ⟨here, nofun⟩
    | ok password => exact comes_done ⟨here, nofun⟩

/-- The user of the first row is told. -/
theorem comes_user {S : Type} {execute : S → Session → Host → Option (List Sql.Row × Host)}
    (binding : String) (here : host.At c.session was) {rows : List Sql.Row}
    (is : rows = (was.rows.find? (·.binding = binding)).toList.map fun e => [some e.username]) :
    Comes (replyWhile execute) (match rows with
      | [] => return none
      | row :: _ => do return some (← check (cell row 0))) host fun result host' =>
      host'.At c.session was ∧ ∀ user, result = .ok (some user) →
        ∃ e ∈ was.rows, e.binding = binding ∧ e.username = user := by
  subst is
  cases found : was.rows.find? (·.binding = binding) with
  | none => exact comes_done ⟨here, nofun⟩
  | some e =>
    refine comes_done ⟨here, fun user is => ⟨e, List.mem_of_find?_eq_some found, ?_, ?_⟩⟩
    · simpa using List.find?_some found
    · cases is
      rfl

namespace MariaDb

/-- On MariaDB asking for the table leaves what the server holds. -/
theorem comes_hasTable (here : host.At c.session was) :
    Comes (replyWhile execute) (hasTable c) host fun _ host' => host'.At c.session was :=
  comes_selectsAny here.connected rfl here here

/-- On MariaDB preparing the table leaves what the server holds. -/
theorem comes_prepare (here : host.At c.session was) (home : c.database = c.username) :
    Comes (replyWhile execute) (prepare c) host fun _ host' => host'.At c.session was := by
  refine comes_selectsAny_bind here.connected rfl (fun _ => here) ?_
  split
  · exact comes_done here
  · refine comes_word_bind (fun _ => here) fun w is => ?_
    refine comes_perform here.connected rfl here fun host' changed => ?_
    rw [is, ← home] at changed
    exact here.createTable changed

/-- On MariaDB a binding is read as it is in the table. -/
theorem comes_read (here : host.At c.session was) (home : c.database = c.username)
    (binding : String) : Comes (replyWhile execute) (read c binding) host fun result host' =>
      host'.At c.session was ∧ (result = .ok none → ∀ e ∈ was.rows, e.binding ≠ binding) := by
  refine comes_word_bind (fun _ => ⟨here, nofun⟩) fun w is => ?_
  refine comes_execute_bind here.connected (fun _ => ⟨here, nofun⟩) fun rows host' carried => ?_
  obtain ⟨rows, selected, is'⟩ := Option.map_eq_some_iff.1 carried
  cases is'
  rw [is, ← home] at selected
  exact comes_record _ _ _ here (here.select selected)

/-- On MariaDB the user of a binding is read as it is in the table. -/
theorem comes_readUser (here : host.At c.session was) (home : c.database = c.username)
    (binding : String) : Comes (replyWhile execute) (readUser c binding) host fun result host' =>
      host'.At c.session was ∧ ∀ user, result = .ok (some user) →
        ∃ e ∈ was.rows, e.binding = binding ∧ e.username = user := by
  refine comes_word_bind (fun _ => ⟨here, nofun⟩) fun w is => ?_
  refine comes_execute_bind here.connected (fun _ => ⟨here, nofun⟩) fun rows host' carried => ?_
  obtain ⟨rows, selected, is'⟩ := Option.map_eq_some_iff.1 carried
  cases is'
  rw [is, ← home] at selected
  exact comes_user _ here (here.select selected)

/-- On MariaDB a binding is removed, or part of it, or nothing. -/
theorem comes_delete (here : host.At c.session was) (home : c.database = c.username)
    (binding : String) {user : String} (other : user ≠ c.database) :
    Comes (replyWhile execute) (delete c binding user) host fun result host' =>
      ∃ now, host'.At c.session now ∧ Removes was binding user result now := by
  refine comes_drop_bind here rfl (fun w is => ⟨_, rfl, fun host' dropped => ?_⟩) other
    fun host' now => ?_
  · rwa [is] at dropped
  · refine comes_word_bind (fun e => ⟨_, now, .begun e (.inr rfl)⟩) fun w is => ?_
    refine comes_inStep (comes_perform now.connected rfl ⟨_, now, .begun _ (.inr rfl)⟩
      fun host'' removed => ?_)
    rw [is, ← home] at removed
    exact ⟨_, now.remove removed, .removed ()⟩

/-- On MariaDB a binding is made, or database and account may be left of it. -/
theorem comes_create (here : host.At c.session was) (home : c.database = c.username)
    (binding : String) (draw : Draw) :
    Comes (replyWhile execute) (create c binding draw) host fun result host' =>
      ∃ now, host'.At c.session now ∧ Makes was binding draw.username.text result now := by
  refine comes_step_bind here.connected rfl
    (fun e => ⟨was, here, .begun e (.inl rfl) (.inl rfl)⟩) fun host' changed => ?_
  obtain ⟨unmade, now⟩ := here.createDatabase changed
  refine comes_step_bind now.connected rfl
    (fun e => ⟨_, now, .begun e (.inr ⟨unmade, rfl⟩) (.inl rfl)⟩) fun host' changed => ?_
  obtain ⟨unknown, now⟩ := now.createAccount changed
  refine comes_step_bind now.connected rfl
    (fun e => ⟨_, now, .begun e (.inr ⟨unmade, rfl⟩) (.inr ⟨unknown, rfl⟩)⟩) fun host' changed => ?_
  have now := now.grant changed
  refine comes_word_bind
    (fun e => ⟨_, now, .begun e (.inr ⟨unmade, rfl⟩) (.inr ⟨unknown, rfl⟩)⟩) fun w is => ?_
  refine comes_step_bind now.connected rfl
    (fun e => ⟨_, now, .begun e (.inr ⟨unmade, rfl⟩) (.inr ⟨unknown, rfl⟩)⟩) fun host' changed => ?_
  rw [is, ← home] at changed
  exact comes_done ⟨_, now.insert changed, .made _ _ unmade unknown⟩

end MariaDb

namespace PostgreSql

/-- On PostgreSQL asking for the table leaves what the server holds. -/
theorem comes_hasTable (here : host.At c.session was) :
    Comes (replyWhile execute) (hasTable c) host fun _ host' => host'.At c.session was :=
  comes_selectsAny here.connected rfl here here

/-- On PostgreSQL preparing the table leaves what the server holds. -/
theorem comes_prepare (here : host.At c.session was) :
    Comes (replyWhile execute) (prepare c) host fun _ host' => host'.At c.session was := by
  refine comes_selectsAny_bind here.connected rfl (fun _ => here) ?_
  split
  · exact comes_done here
  · exact comes_perform here.connected rfl here fun host' changed => here.createTable changed

/-- On PostgreSQL a binding is read as it is in the table. -/
theorem comes_read (here : host.At c.session was) (binding : String) :
    Comes (replyWhile execute) (read c binding) host fun result host' =>
      host'.At c.session was ∧ (result = .ok none → ∀ e ∈ was.rows, e.binding ≠ binding) := by
  refine comes_execute_bind here.connected (fun _ => ⟨here, nofun⟩) fun rows host' carried => ?_
  obtain ⟨rows, selected, is⟩ := Option.map_eq_some_iff.1 carried
  cases is
  exact comes_record _ _ _ here (here.select selected)

/-- On PostgreSQL the user of a binding is read as it is in the table. -/
theorem comes_readUser (here : host.At c.session was) (binding : String) :
    Comes (replyWhile execute) (readUser binding) host fun result host' =>
      host'.At c.session was ∧ ∀ user, result = .ok (some user) →
        ∃ e ∈ was.rows, e.binding = binding ∧ e.username = user := by
  refine comes_execute_bind here.connected (fun _ => ⟨here, nofun⟩) fun rows host' carried => ?_
  obtain ⟨rows, selected, is⟩ := Option.map_eq_some_iff.1 carried
  cases is
  exact comes_user _ here (here.select selected)

/-- A statement that is carried out on a condition changes the server on that condition. -/
theorem map_ite {p : Prop} [Decidable p] (change : Option Host) :
    (if p then change.map (([] : List Sql.Row), ·) else none) =
      (if p then change else none).map ([], ·) := by
  split <;> rfl

/-- A change that is made under a condition is made. -/
theorem of_ite {p : Prop} [Decidable p] {change : Option Host} {host' : Host}
    (changed : (if p then change else none) = some host') : change = some host' := by
  split at changed
  · exact changed
  · cases changed

/-- On PostgreSQL a binding is made, or database and account may be left of it. -/
theorem comes_create (here : host.At c.session was) (binding : String) (draw : Draw) :
    Comes (replyWhile execute) (create c binding draw) host fun result host' =>
      ∃ now, host'.At c.session now ∧ Makes was binding draw.username.text result now := by
  refine comes_word_bind (fun e => ⟨was, here, .begun e (.inl rfl) (.inl rfl)⟩) fun admin _ => ?_
  refine comes_step_bind here.connected rfl
    (fun e => ⟨was, here, .begun e (.inl rfl) (.inl rfl)⟩) fun host' changed => ?_
  obtain ⟨unknown, now⟩ := here.createAccount changed
  refine comes_step_bind now.connected (map_ite _)
    (fun e => ⟨_, now, .begun e (.inl rfl) (.inr ⟨unknown, rfl⟩)⟩) fun host' changed => ?_
  have now := now.grant (of_ite changed)
  refine comes_step_bind now.connected (map_ite _)
    (fun e => ⟨_, now, .begun e (.inl rfl) (.inr ⟨unknown, rfl⟩)⟩) fun host' changed => ?_
  obtain ⟨unmade, now⟩ := now.createDatabase (of_ite changed)
  refine comes_step_bind now.connected rfl
    (fun e => ⟨_, now, .begun e (.inr ⟨unmade, rfl⟩) (.inr ⟨unknown, rfl⟩)⟩) fun host' changed => ?_
  exact comes_done ⟨_, now.insert changed, .made _ _ unmade unknown⟩

/-- On PostgreSQL a binding is removed, or part of it, or nothing. -/
theorem comes_delete (here : host.At c.session was) (binding : String) {user : String}
    (other : user ≠ c.database) :
    Comes (replyWhile execute) (delete binding user) host fun result host' =>
      ∃ now, host'.At c.session now ∧ Removes was binding user result now := by
  refine comes_drop_bind here rfl (fun w is => ⟨_, if_neg ?_, fun host' dropped => ?_⟩) other
    fun host' now => ?_
  · rwa [is]
  · rwa [is] at dropped
  · exact comes_inStep (comes_perform now.connected rfl ⟨_, now, .begun _ (.inr rfl)⟩
      fun host'' removed => ⟨_, now.remove removed, .removed ()⟩)

end PostgreSql

end

/-- **However soon a server goes away, both dialects have done the same.** -/
theorem stopped (engine : Engine) : Stopped engine := by
  cases engine with
  | mariaDb => exact ⟨comes_reach, MariaDb.comes_hasTable, MariaDb.comes_prepare,
      MariaDb.comes_read, MariaDb.comes_readUser, MariaDb.comes_create, MariaDb.comes_delete⟩
  | postgreSql => exact ⟨comes_reach, PostgreSql.comes_hasTable,
      fun here _ => PostgreSql.comes_prepare here, fun here _ => PostgreSql.comes_read here,
      fun here _ => PostgreSql.comes_readUser here, fun here _ => PostgreSql.comes_create here,
      fun here _ => PostgreSql.comes_delete here⟩

end Dialect

end ServiceBroker

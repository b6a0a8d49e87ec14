/-
# Calls that a server interrupts

A SQL server that goes away in the middle of a call has carried out some of its statements and
refuses the others.  What a call has done by then is read off its statements one by one
(`Comes`, with a rule for each kind of statement), as a change of what the server holds:
databases, accounts, and the rows of the table of bindings (`Sql.Holdings`).
-/

import ServiceBroker.Proofs.SqlServer

namespace ServiceBroker

open Sql (Host)

/-- The session of who has connected. -/
def Connection.session (c : Connection) : Sql.Session := ⟨c.username, c.database⟩

section Comes

variable {I : Interface} {α β : Type}
  {answer : (call : I.Call) → StateM (Nat × Host) (I.Answer call)} {host : Host}
  {ends : Except ServiceError α → Host → Prop}

/-- However soon the server goes away, the program comes to an end that `ends` holds of, as of the
server then. -/
def Comes (answer : (call : I.Call) → StateM (Nat × Host) (I.Answer call))
    (p : ExceptT ServiceError (Program I) α) (host : Host)
    (ends : Except ServiceError α → Host → Prop) : Prop :=
  ∀ left, ends ((Program.run answer p.run).run (left, host)).1
    ((Program.run answer p.run).run (left, host)).2.2

/-- A program that is done comes to its result. -/
theorem comes_done {result : Except ServiceError α} (holds : ends result host) :
    Comes answer (ExceptT.mk (.done result)) host ends := fun _ => holds

/-- What a program comes to may be said with less. -/
theorem Comes.mono {p : ExceptT ServiceError (Program I) α}
    {after : Except ServiceError α → Host → Prop} (comes : Comes answer p host ends)
    (weaker : ∀ result host, ends result host → after result host) : Comes answer p host after :=
  fun left => weaker _ _ (comes left)

/-- **One program after another.** -/
theorem Comes.bind {p : ExceptT ServiceError (Program I) α}
    {f : α → ExceptT ServiceError (Program I) β} {after : Except ServiceError β → Host → Prop}
    (first : Comes answer p host ends)
    (failed : ∀ e host, ends (.error e) host → after (.error e) host)
    (rest : ∀ value host, ends (.ok value) host → Comes answer (f value) host after) :
    Comes answer (p >>= f) host after := by
  intro left
  have holds := first left
  rw [Program.run_bind_state]
  generalize (Program.run answer p.run).run (left, host) = x at holds ⊢
  obtain ⟨e | value, left, host⟩ := x
  · exact failed e host holds
  · exact rest value host holds left

/-- A program fails and leaves the server as it is, or `done` holds of what comes of it. -/
inductive Settled (host : Host) (done : α → Host → Prop) : Except ServiceError α → Host → Prop
  | failed (e : ServiceError) : Settled host done (.error e) host
  | done {value : α} {host' : Host} (holds : done value host') : Settled host done (.ok value) host'

/-- A program that leaves the server as it is if it fails, and then another. -/
theorem Comes.settled_bind {p : ExceptT ServiceError (Program I) α}
    {f : α → ExceptT ServiceError (Program I) β} {done : α → Host → Prop}
    {after : Except ServiceError β → Host → Prop} (first : Comes answer p host (Settled host done))
    (failed : ∀ e, after (.error e) host)
    (rest : ∀ value host', done value host' → Comes answer (f value) host' after) :
    Comes answer (p >>= f) host after := by
  refine first.bind ?_ ?_
  · rintro e _ ⟨⟩
    exact failed e
  · rintro value host' ⟨⟩
    exact rest value host' ‹_›

end Comes

namespace Sql

/-- The answer of a server that answers so many questions and refuses all others. -/
def replyWhile {S : Type} (execute : S → Session → Host → Option (List Row × Host))
    (call : Call S) : StateM (Nat × Host) (Except Failure call.Result) := fun (left, host) =>
  match left with
  | 0 => (.error .refused, (0, host))
  | left + 1 =>
    let (answer, host) := (reply execute call).run host
    (answer, (left, host))

section Rules

variable {S α : Type} {execute : S → Session → Host → Option (List Row × Host)} {host : Host}
  {st : S} {session : Session}

/-- A connection is refused, or there is a session. -/
theorem comes_connect {c : Connection} {ends : Except ServiceError Unit → Host → Prop}
    (refused : ends (.error .database) host)
    (done : ends (.ok ()) { host with session := some c.session }) :
    Comes (replyWhile execute) (Sql.connect (S := S) c) host ends := by
  intro left
  cases left with
  | zero => exact refused
  | succ left =>
    show ends (Except.mapError Failure.toServiceError ((reply execute (.connect c)).run host).1)
      ((reply execute (.connect c)).run host).2
    have answered : (reply execute (.connect c)).run host = ite _ _ _ := rfl
    rw [answered]
    split
    · exact done
    · exact refused

/-- A statement is refused, or it is carried out. -/
theorem comes_execute {ends : Except ServiceError (List Row) → Host → Prop}
    (here : host.session = some session) (refused : ends (.error .database) host)
    (done : ∀ rows host', execute st session host = some (rows, host') → ends (.ok rows) host') :
    Comes (replyWhile execute) (Sql.execute st) host ends := by
  intro left
  cases left with
  | zero => exact refused
  | succ left =>
    show ends (Except.mapError Failure.toServiceError ((reply execute (.execute st)).run host).1)
      ((reply execute (.execute st)).run host).2
    rcases carried : execute st session host with _ | ⟨rows, host'⟩
    · have answered : (reply execute (.execute st)).run host = (.error .refused, host) := by
        simp [reply, StateT.run, here, carried]
      rw [answered]
      exact refused
    · have answered : (reply execute (.execute st)).run host = (.ok rows, host') := by
        simp [reply, StateT.run, here, carried]
      rw [answered]
      exact done rows host' carried

/-- A statement is refused, or makes its change. -/
theorem comes_perform {change : Option Host} {ends : Except ServiceError Unit → Host → Prop}
    (here : host.session = some session)
    (is : execute st session host = change.map ([], ·)) (refused : ends (.error .database) host)
    (done : ∀ host', change = some host' → ends (.ok ()) host') :
    Comes (replyWhile execute) (Sql.perform st) host ends := by
  have first : Comes (replyWhile execute) (Sql.execute st) host fun result =>
      ends (result.map fun _ => ()) := by
    refine comes_execute here refused fun rows host' carried => ?_
    rw [is, Option.map_eq_some_iff] at carried
    obtain ⟨_, changed, is⟩ := carried
    cases is
    exact done _ changed
  exact first.bind (fun _ _ failed => failed) fun _ _ holds => comes_done holds

/-- A question whether there are rows is refused, or answered. -/
theorem comes_selectsAny {rows : List Row} {ends : Except ServiceError Bool → Host → Prop}
    (here : host.session = some session) (is : execute st session host = some (rows, host))
    (refused : ends (.error .database) host) (done : ends (.ok !rows.isEmpty) host) :
    Comes (replyWhile execute) (Sql.selectsAny st) host ends := by
  have first : Comes (replyWhile execute) (Sql.execute st) host fun result =>
      ends (result.map fun rows => !rows.isEmpty) := by
    refine comes_execute here refused fun rows host' carried => ?_
    cases is.symm.trans carried
    exact done
  exact first.bind (fun _ _ failed => failed) fun _ _ holds => comes_done holds

/-- A named step comes to what the script does, its errors named. -/
theorem comes_inStep {name : String} {script : Script S α}
    {ends : Except ServiceError α → Host → Prop}
    (comes : Comes (replyWhile execute) script host fun result host =>
      ends (ServiceError.inStep name result) host) :
    Comes (replyWhile execute) (inStep name script) host ends := by
  intro left
  have run : (Program.run (I := interface S) (replyWhile execute) (inStep name script).run).run
      (left, host) =
        (ServiceError.inStep name
          ((Program.run (I := interface S) (replyWhile execute) script.run).run (left, host)).1,
        ((Program.run (I := interface S) (replyWhile execute) script.run).run (left, host)).2) := by
    show (Program.run (I := interface S) (replyWhile execute)
      (script.run.bind fun result => .done (ServiceError.inStep name result))).run _ = _
    rw [Program.run_bind, StateT.run_bind]
    rfl
  rw [run]
  exact comes left

end Rules

section Sequences

variable {S α : Type} {execute : S → Session → Host → Option (List Row × Host)} {host : Host}
  {st : S} {session : Session} {ends : Except ServiceError α → Host → Prop}

/-- A name that has to be quoted is a word, or the script ends. -/
theorem comes_word_bind {name : String} {next : Word → Script S α}
    (failed : ∀ e, ends (.error e) host)
    (rest : ∀ w : Word, w.text = name → Comes (replyWhile execute) (next w) host ends) :
    Comes (replyWhile execute) (check (Word.ofText name) >>= next) host ends := by
  by_cases word : isWord name = true
  · have is : Word.ofText name = .ok ⟨name, word⟩ := by rw [Word.ofText, Word.ofText?, dif_pos word]
    rw [is]
    exact rest ⟨name, word⟩ rfl
  · have is : Word.ofText name = .error (.invalidIdentifier name) := by
      rw [Word.ofText, Word.ofText?, dif_neg word]
    rw [is]
    exact fun _ => failed _

/-- A statement that is executed is refused, or the script goes on with its rows. -/
theorem comes_execute_bind {next : List Row → Script S α} (here : host.session = some session)
    (failed : ∀ e, ends (.error e) host)
    (rest : ∀ rows host', execute st session host = some (rows, host') →
      Comes (replyWhile execute) (next rows) host' ends) :
    Comes (replyWhile execute) (Sql.execute st >>= next) host ends := by
  have first : Comes (replyWhile execute) (Sql.execute st) host
      (Settled host fun rows host' => execute st session host = some (rows, host')) :=
    comes_execute here (.failed _) fun _ _ carried => .done carried
  exact first.settled_bind failed rest

/-- A question whether there are rows is refused, or the script goes on with the answer. -/
theorem comes_selectsAny_bind {rows : List Row} {next : Bool → Script S α}
    (here : host.session = some session) (is : execute st session host = some (rows, host))
    (failed : ∀ e, ends (.error e) host)
    (rest : Comes (replyWhile execute) (next !rows.isEmpty) host ends) :
    Comes (replyWhile execute) (selectsAny st >>= next) host ends := by
  have first : Comes (replyWhile execute) (selectsAny st) host
      (Settled host fun there host' => there = !rows.isEmpty ∧ host' = host) :=
    comes_selectsAny here is (.failed _) (.done ⟨rfl, rfl⟩)
  refine first.settled_bind failed fun there host' told => ?_
  obtain ⟨rfl, rfl⟩ := told
  exact rest

/-- A step that changes the server, and then the others. -/
theorem comes_step_bind {change : Option Host} {name : String} {next : Unit → Script S α}
    (here : host.session = some session)
    (is : execute st session host = change.map ([], ·)) (failed : ∀ e, ends (.error e) host)
    (rest : ∀ host', change = some host' → Comes (replyWhile execute) (next ()) host' ends) :
    Comes (replyWhile execute) (inStep name (perform st) >>= next) host ends := by
  have first : Comes (replyWhile execute) (inStep name (perform st)) host
      (Settled host fun _ host' => change = some host') :=
    comes_inStep (comes_perform here is (.failed _) fun _ changed => .done changed)
  exact first.settled_bind failed fun _ => rest

end Sequences

/-- What a server holds: its databases, its accounts, and the rows of the table of bindings. -/
structure Holdings where
  databases : List String
  accounts : List String
  rows : List Entry
deriving DecidableEq

/-- What a server holds, with the table of bindings in a database. -/
def Host.holdings (host : Host) (database : String) : Holdings where
  databases := host.databases.keys
  accounts := host.accounts.keys
  rows := (host.table? database).getD []

/-- Who is connected to the server, and what it holds. -/
structure Host.At (host : Host) (session : Session) (now : Holdings) : Prop where
  connected : host.session = some session
  holds : host.holdings session.database = now

namespace Host.At

variable {host host' : Host} {session : Session} {was : Holdings} {name : String}

/-- A table of bindings made into another. -/
theorem changeTable (here : host.At session was)
    {change : Option (List Entry) → Option (List Entry)}
    (done : host.changeTable session.database change = some host') :
    ∃ before after, change before = some after ∧ before.getD [] = was.rows ∧
      host'.At session { was with rows := after } := by
  obtain ⟨d, there, changed⟩ := Option.bind_eq_some_iff.1 done
  obtain ⟨after, becomes, rfl⟩ := Option.map_eq_some_iff.1 changed
  refine ⟨d.bindings, after, becomes, ?_, here.connected, ?_⟩
  · rw [← here.holds]
    show _ = (host.table? session.database).getD []
    rw [Host.table?, there, Option.bind_some]
  · have keys : (host.databases.put session.database { d with bindings := some after }).keys =
        host.databases.keys := Table.keys_put_of_mem _ (Table.mem_keys_of_get? there)
    rw [← here.holds]
    simp [Host.holdings, Host.withTable, Host.table?, keys]

/-- Creating the table leaves what the server holds. -/
theorem createTable (here : host.At session was)
    (done : host.createTable session.database = some host') : host'.At session was := by
  obtain ⟨before, after, becomes, rows, now⟩ := here.changeTable done
  cases before with
  | none =>
    cases becomes
    have same : { was with rows := [] } = was := congrArg (Holdings.mk _ _) rows
    rwa [same] at now
  | some entries => cases becomes

/-- Inserting adds a row. -/
theorem insert (here : host.At session was) {entry : Entry}
    (done : host.insert session.database entry = some host') :
    host'.At session { was with rows := was.rows ++ [entry] } := by
  obtain ⟨before, after, becomes, rows, now⟩ := here.changeTable done
  obtain ⟨entries, rfl, rfl⟩ := Option.map_eq_some_iff.1 becomes
  rwa [← rows]

/-- Deleting a binding takes its rows away. -/
theorem remove (here : host.At session was) {binding : String}
    (done : host.remove session.database binding = some host') :
    host'.At session { was with rows := was.rows.filter (·.binding ≠ binding) } := by
  obtain ⟨before, after, becomes, rows, now⟩ := here.changeTable done
  obtain ⟨entries, rfl, rfl⟩ := Option.map_eq_some_iff.1 becomes
  rwa [← rows]

/-- Creating a database adds it, where there was none of its name. -/
theorem createDatabase (here : host.At session was) {owner : String}
    (done : host.createDatabase owner name = some host') : name ∉ was.databases ∧
      host'.At session { was with databases := was.databases ++ [name] } := by
  unfold Host.createDatabase at done
  split at done
  · cases done
  · rename_i absent
    cases done
    have unmade : host.databases.get? name = none := by simpa using absent
    rw [← here.holds]
    refine ⟨Table.get?_eq_none_iff.1 unmade, here.connected, ?_⟩
    have table : ({ host with databases := host.databases.put name { owner } } : Host).table?
        session.database = host.table? session.database := by
      show ((host.databases.put name { owner }).get? session.database).bind _ = _
      rw [Table.get?_put]
      split
      · rename_i same
        rw [Host.table?, same, unmade]
        rfl
      · rfl
    simp only [Host.holdings, table, Table.keys_put _ unmade]

/-- Creating an account adds it, where there was none of its name. -/
theorem createAccount (here : host.At session was) {password : String}
    (done : host.createAccount name password = some host') : name ∉ was.accounts ∧
      host'.At session { was with accounts := was.accounts ++ [name] } := by
  unfold Host.createAccount at done
  split at done
  · cases done
  · rename_i absent
    cases done
    have unknown : host.accounts.get? name = none := by simpa using absent
    rw [← here.holds]
    refine ⟨Table.get?_eq_none_iff.1 unknown, here.connected, ?_⟩
    simp only [Host.holdings, Table.keys_put _ unknown]
    rfl

/-- Granting leaves what the server holds. -/
theorem grant (here : host.At session was) {what : String}
    (done : host.grant what name = some host') : host'.At session was := by
  unfold Host.grant at done
  split at done
  · cases done
    exact ⟨here.connected, here.holds⟩
  · cases done

/-- Selecting tells of the first row of the binding. -/
theorem select (here : host.At session was) {binding : String} {columns : Entry → Row}
    {rows : List Row} (done : host.select session.database binding columns = some rows) :
    rows = (was.rows.find? (·.binding = binding)).toList.map columns := by
  obtain ⟨entries, table, rfl⟩ := Option.map_eq_some_iff.1 done
  rw [← here.holds, Host.holdings, table, Option.getD_some]

/-- Dropping a database takes it away. -/
theorem dropDatabase (here : host.At session was) {user : String}
    (other : name ≠ session.database) (done : host.dropDatabase user name = some host') :
    host'.At session { was with databases := was.databases.filter (· ≠ name) } := by
  obtain ⟨d, -, dropped⟩ := Option.bind_eq_some_iff.1 done
  split at dropped
  · cases dropped
    refine ⟨here.connected, ?_⟩
    have table : ({ host with databases := host.databases.erase name } : Host).table?
        session.database = host.table? session.database := by
      show ((host.databases.erase name).get? session.database).bind _ = _
      rw [Table.get?_erase_of_ne _ other.symm]
      rfl
    rw [← here.holds]
    simp only [Host.holdings, table, Table.keys_erase]
  · cases dropped

end Host.At

end Sql

end ServiceBroker

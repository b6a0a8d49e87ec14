/-
# A SQL server that does what it is told

A statement does what it says wherever that can be done, and is refused elsewhere
(`MariaDb.execute`, `PostgreSql.execute`).  On such a server the calls of both dialects come to
the same: what each does where its administrator is connected is stated once
(`Dialect.Carried`), and `Dialect.carried` is that the statements of either engine do it.
-/

import ServiceBroker.Dialect.MariaDb
import ServiceBroker.Dialect.PostgreSql
import ServiceBroker.Proofs.Performing
import ServiceBroker.Sql.Host

namespace ServiceBroker
namespace Sql

section Scripts

variable {S α β : Type} (execute : S → Session → Host → Option (List Row × Host))

/-- What comes of a script, and the server after it. -/
def exec (script : Script S α) (host : Host) : Except ServiceError α × Host :=
  (Program.run (I := interface S) (reply execute) script.run).run host

variable {execute} {host host' : Host}

/-- A step that succeeds is gone from the script. -/
theorem exec_bind_ok {script : Script S α} {value : α}
    (h : exec execute script host = (.ok value, host')) (f : α → Script S β) :
    exec execute (script >>= f) host = exec execute (f value) host' := by
  unfold exec at h ⊢
  rw [Program.run_bind_state, h]

/-- An account with its password and a database gets a session. -/
theorem exec_connect {c : Connection} (account : host.accounts.get? c.username = some c.password)
    (there : (host.databases.get? c.database).isSome) :
    exec execute (Sql.connect (S := S) c) host =
      (.ok (), { host with session := some ⟨c.username, c.database⟩ }) := by
  rw [Sql.connect, exec, ExceptT.run_mk, Program.run, StateT.run_bind,
    reply_connect account there]
  rfl

variable {statement : S} {session : Session} {rows : List Row}

/-- A statement that can be carried out selects its rows. -/
theorem exec_execute (here : host.session = some session)
    (h : execute statement session host = some (rows, host')) :
    exec execute (Sql.execute statement) host = (.ok rows, host') := by
  rw [Sql.execute, exec, ExceptT.run_mk, Program.run, StateT.run_bind, reply_execute here h]
  rfl

/-- A statement that changes the server leaves the server that it has changed. -/
theorem exec_perform {change : Option Host} (here : host.session = some session)
    (is : execute statement session host = change.map ([], ·)) (h : change = some host') :
    exec execute (Sql.perform statement) host = (.ok (), host') := by
  have done : execute statement session host = some ([], host') := by
    rw [is, h, Option.map_some]
  rw [Sql.perform, exec_bind_ok (exec_execute here done)]
  rfl

/-- A question whether there are rows is answered by the rows. -/
theorem exec_selectsAny (here : host.session = some session)
    (h : execute statement session host = some (rows, host')) :
    exec execute (Sql.selectsAny statement) host = (.ok !rows.isEmpty, host') := by
  rw [Sql.selectsAny, exec_bind_ok (exec_execute here h)]
  rfl

/-- A check asks nothing of the server. -/
theorem exec_check (value : Except ServiceError α) :
    exec execute (Sql.check value) host = (value, host) := rfl

/-- A name that is a word can be quoted. -/
theorem exec_word {name : String} (h : isWord name = true) :
    exec execute (Sql.check (Word.ofText name)) host = (.ok ⟨name, h⟩, host) := by
  rw [exec_check, Word.ofText, Word.ofText?, dif_pos h]

/-- Whether or not there is a database with a name, there is none after it was dropped. -/
theorem exec_dropDatabase {find : S} {drop : Word → S} {username : String}
    (here : host.session = some session) (word : isWord username = true)
    (asked : execute find session host =
      some (Host.found (host.databases.get? username).isSome, host))
    (drops : execute (drop ⟨username, word⟩) session host =
      (host.dropDatabase session.user username).map ([], ·))
    (may : ∀ d, host.databases.get? username = some d → host.HasRole session.user d.owner) :
    exec execute (do
      if ← Sql.selectsAny find then
        Sql.perform (drop (← Sql.check (Word.ofText username)))) host =
      (.ok (), { host with databases := host.databases.erase username }) := by
  rw [exec_bind_ok (exec_selectsAny here asked)]
  cases there : host.databases.get? username with
  | none =>
    rw [Table.erase_of_get?_eq_none there]
    rfl
  | some d =>
    show exec execute (Sql.check (Word.ofText username) >>= fun w => Sql.perform (drop w)) host = _
    rw [exec_bind_ok (exec_word word)]
    exact exec_perform here drops (Host.dropDatabase_eq there (may d there))

/-- A named step that goes well does what the script does. -/
theorem exec_inStep {step : String} {script : Script S α} {value : α}
    (h : exec execute script host = (.ok value, host')) :
    exec execute (Sql.inStep step script) host = (.ok value, host') := by
  unfold exec at h ⊢
  show (Program.run (I := interface S) (reply execute)
    (script.run.bind fun result => .done (ServiceError.inStep step result))).run host = _
  rw [Program.run_bind, StateT.run_bind, h]
  rfl

end Scripts

end Sql

namespace Dialect

open Sql (Word Host Session Entry Script)

/-- What a statement of MariaDB selects, and the server after it.  Its databases are schemas, and
whose they are is whose account made them. -/
def MariaDb.execute (statement : MariaDb.Statement) (session : Session) (host : Host) :
    Option (List Sql.Row × Host) :=
  match statement with
  | .findDatabase name => some (Host.found (host.databases.get? name).isSome, host)
  | .findTable schema => some (Host.found (host.table? schema).isSome, host)
  | .createTable schema => (host.createTable schema.text).map ([], ·)
  | .readBinding schema binding =>
    (host.select schema.text binding fun e => [some e.username, some e.stored]).map (·, host)
  | .readUser schema binding =>
    (host.select schema.text binding fun e => [some e.username]).map (·, host)
  | .createDatabase w => (host.createDatabase session.user w.text).map ([], ·)
  | .createUser w password => (host.createAccount w.text password.text).map ([], ·)
  | .grant w => (host.grant w.text w.text).map ([], ·)
  | .insertBinding schema binding name stored =>
    (host.insert schema.text ⟨binding, name, stored⟩).map ([], ·)
  | .dropDatabase w => (host.dropDatabase session.user w.text).map ([], ·)
  | .deleteBinding schema binding => (host.remove schema.text binding).map ([], ·)

/-- What a statement of PostgreSQL selects, and the server after it.  Tables are those of the
database of the connection, which cannot be dropped, and a database is made for a role that its
maker belongs to. -/
def PostgreSql.execute (statement : PostgreSql.Statement) (session : Session) (host : Host) :
    Option (List Sql.Row × Host) :=
  match statement with
  | .findDatabase name => some (Host.found (host.databases.get? name).isSome, host)
  | .findTable database =>
    some (Host.found (database = session.database ∧ (host.table? database).isSome), host)
  | .createTable => (host.createTable session.database).map ([], ·)
  | .readBinding binding =>
    (host.select session.database binding fun e => [some e.username, some e.stored]).map (·, host)
  | .readUser binding =>
    (host.select session.database binding fun e => [some e.username]).map (·, host)
  | .createRole w password => (host.createAccount w.text password.text).map ([], ·)
  | .grantRole w admin =>
    if (host.accounts.get? w.text).isSome then (host.grant w.text admin.text).map ([], ·) else none
  | .createDatabase w =>
    if (host.accounts.get? w.text).isSome ∧ host.HasRole session.user w.text then
      (host.createDatabase w.text w.text).map ([], ·)
    else none
  | .insertBinding binding name stored =>
    (host.insert session.database ⟨binding, name, stored⟩).map ([], ·)
  | .dropDatabase w =>
    if w.text = session.database then none
    else (host.dropDatabase session.user w.text).map ([], ·)
  | .deleteBinding binding => (host.remove session.database binding).map ([], ·)

/-- The answer to a call of a dialect on a server of its engine. -/
def answerOn : Engine → (call : Call) → StateM Host call.Answer
  | .mariaDb, call => (MariaDb.answer call).run (I := Sql.interface MariaDb.Statement)
    (Sql.reply MariaDb.execute)
  | .postgreSql, call => (PostgreSql.answer call).run (I := Sql.interface PostgreSql.Statement)
    (Sql.reply PostgreSql.execute)

/-- An administrator is connected, to the database that has its name. -/
structure Reached (c : Connection) (host : Host) : Prop where
  session : host.session = some ⟨c.username, c.database⟩
  home : c.database = c.username
  word : Sql.isWord c.username = true

/-- The record of a binding, as the table has it. -/
def recordIn (engine : Engine) (salt binding : String) (entries : List Entry) :
    Except ServiceError (Option BindingRecord) :=
  match entries.find? (·.binding = binding) with
  | none => .ok none
  | some entry => (loadedPassword engine salt entry.stored).map fun password =>
    some ⟨binding, entry.username, password⟩

/-- What the calls of a dialect do on a server to which their administrator is connected. -/
structure Carried (engine : Engine) : Prop where
  connect {c : Connection} {host : Host}
    (account : host.accounts.get? c.username = some c.password)
    (there : (host.databases.get? c.database).isSome) :
    (answerOn engine (.connect c)).run host =
      (.ok (), { host with session := some ⟨c.username, c.database⟩ })
  hasTable {c : Connection} {host : Host} (reached : Reached c host) :
    (answerOn engine (.hasTable c)).run host = (.ok (host.table? c.database).isSome, host)
  prepare {c : Connection} {host : Host} {d : Sql.Database} (reached : Reached c host)
    (home : host.databases.get? c.database = some d) :
    (answerOn engine (.prepare c)).run host = (.ok (), match d.bindings with
      | some _ => host
      | none => host.withTable c.database d [])
  read {c : Connection} {host : Host} {entries : List Entry} (reached : Reached c host)
    (table : host.table? c.database = some entries) (binding : String) :
    (answerOn engine (.read c binding)).run host = (recordIn engine c.salt binding entries, host)
  readUser {c : Connection} {host : Host} {entries : List Entry} (reached : Reached c host)
    (table : host.table? c.database = some entries) (binding : String) :
    (answerOn engine (.readUser c binding)).run host =
      (.ok ((entries.find? (·.binding = binding)).map (·.username)), host)
  /-- A binding that is made has a database, which the administrator may drop, and an account. -/
  create {c : Connection} {host : Host} {d : Sql.Database} {entries : List Entry}
    (reached : Reached c host) (home : host.databases.get? c.database = some d)
    (table : d.bindings = some entries) (known : (host.accounts.get? c.username).isSome)
    (binding : String) {draw : Draw} (unmade : host.databases.get? draw.username.text = none)
    (unknown : host.accounts.get? draw.username.text = none) :
    ∃ owner granted, (answerOn engine (.create c binding draw)).run host =
      (.ok (draw.record binding), Host.withTable { host with
        databases := host.databases.put draw.username.text { owner }
        accounts := host.accounts.put draw.username.text draw.password.text
        grants := granted :: host.grants } c.database d (entries ++ [⟨binding, draw.username.text,
          storedPassword engine c.salt draw.nonce draw.password.text⟩])) ∧
      (c.username = owner ∨ granted = (owner, c.username))
  delete {c : Connection} {host : Host} {d : Sql.Database} {entries : List Entry}
    (reached : Reached c host) (home : host.databases.get? c.database = some d)
    (table : d.bindings = some entries) (binding : String) {username : String}
    (word : Sql.isWord username = true) (other : username ≠ c.database)
    (may : ∀ d, host.databases.get? username = some d → host.HasRole c.username d.owner) :
    (answerOn engine (.delete c binding username)).run host =
      (.ok (), Host.withTable { host with databases := host.databases.erase username } c.database d
        (entries.filter (·.binding ≠ binding)))

section

variable {c : Connection} {host : Host} {d : Sql.Database} {entries : List Entry}

/-- The table of a database is the one that it has. -/
theorem table?_eq (home : host.databases.get? c.database = some d) :
    host.table? c.database = d.bindings := by
  rw [Host.table?, home, Option.bind_some]

/-- What is read off a row. -/
theorem exec_row {S : Type} {execute : S → Session → Host → Option (List Sql.Row × Host)}
    (engine : Engine) (salt binding : String) (entry : Entry) :
    Sql.exec execute (do
      let username ← Sql.check (Sql.cell [some entry.username, some entry.stored] 0)
      let stored ← Sql.check (Sql.cell [some entry.username, some entry.stored] 1)
      let password ← Sql.check (loadedPassword engine salt stored)
      return some (⟨binding, username, password⟩ : BindingRecord)) host =
    ((loadedPassword engine salt entry.stored).map fun password =>
      some ⟨binding, entry.username, password⟩, host) := by
  show Sql.exec execute (Sql.check (loadedPassword engine salt entry.stored) >>= fun password =>
    pure (some (⟨binding, entry.username, password⟩ : BindingRecord))) host = _
  cases loadedPassword engine salt entry.stored <;> rfl

namespace MariaDb

/-- On MariaDB whether there is a table is told, and nothing changes. -/
theorem exec_hasTable (reached : Reached c host) :
    Sql.exec execute (hasTable c) host = (.ok (host.table? c.database).isSome, host) := by
  rw [hasTable, Sql.exec_selectsAny reached.session rfl, reached.home]
  cases (host.table? c.username).isSome <;> rfl

/-- On MariaDB preparing makes a table where there is none. -/
theorem exec_prepare (reached : Reached c host)
    (home : host.databases.get? c.database = some d) :
    Sql.exec execute (prepare c) host = (.ok (), match d.bindings with
      | some _ => host
      | none => host.withTable c.database d []) := by
  rw [prepare, Sql.exec_bind_ok (exec_hasTable reached), table?_eq home]
  cases hd : d.bindings with
  | some entries => rfl
  | none =>
    show Sql.exec execute (Sql.check (Sql.Word.ofText c.username) >>= fun w =>
      Sql.perform (.createTable w)) host = _
    rw [Sql.exec_bind_ok (Sql.exec_word reached.word)]
    refine Sql.exec_perform reached.session rfl ?_
    show host.createTable c.username = _
    rw [← reached.home]
    exact Host.createTable_eq home hd

/-- On MariaDB the record of a binding is told as the table has it. -/
theorem exec_read (reached : Reached c host) (table : host.table? c.database = some entries)
    (binding : String) :
    Sql.exec execute (read c binding) host = (recordIn .mariaDb c.salt binding entries, host) := by
  have selected : execute (.readBinding ⟨c.username, reached.word⟩ binding) ⟨c.username, c.database⟩
      host = some ((entries.find? (·.binding = binding)).toList.map fun e =>
        [some e.username, some e.stored], host) := by
    show (host.select c.username binding _).map (·, host) = _
    rw [← reached.home, Host.select_eq table, Option.map_some]
  rw [read, Sql.exec_bind_ok (Sql.exec_word reached.word),
    Sql.exec_bind_ok (Sql.exec_execute reached.session selected), recordIn]
  cases entries.find? (·.binding = binding) with
  | none => rfl
  | some entry => exact exec_row .mariaDb c.salt binding entry

/-- On MariaDB the user of a binding is told as the table has it. -/
theorem exec_readUser (reached : Reached c host) (table : host.table? c.database = some entries)
    (binding : String) :
    Sql.exec execute (readUser c binding) host =
      (.ok ((entries.find? (·.binding = binding)).map (·.username)), host) := by
  have selected : execute (.readUser ⟨c.username, reached.word⟩ binding) ⟨c.username, c.database⟩
      host = some ((entries.find? (·.binding = binding)).toList.map fun e =>
        [some e.username], host) := by
    show (host.select c.username binding _).map (·, host) = _
    rw [← reached.home, Host.select_eq table, Option.map_some]
  rw [readUser, Sql.exec_bind_ok (Sql.exec_word reached.word),
    Sql.exec_bind_ok (Sql.exec_execute reached.session selected)]
  cases entries.find? (·.binding = binding) <;> rfl

/-- On MariaDB a binding that can be made is made, with its account, its database and its row. -/
theorem exec_create (reached : Reached c host) (home : host.databases.get? c.database = some d)
    (table : d.bindings = some entries) (binding : String) {draw : Draw}
    (unmade : host.databases.get? draw.username.text = none)
    (unknown : host.accounts.get? draw.username.text = none) :
    Sql.exec execute (create c binding draw) host =
      (.ok (draw.record binding), Host.withTable { host with
        databases := host.databases.put draw.username.text { owner := c.username }
        accounts := host.accounts.put draw.username.text draw.password.text
        grants := (draw.username.text, draw.username.text) :: host.grants } c.database d
        (entries ++ [⟨binding, draw.username.text,
          storedPassword .mariaDb c.salt draw.nonce draw.password.text⟩])) := by
  let user := Word.ofLetters draw.username
  let password := Word.ofLetters draw.password
  let stored := storedPassword .mariaDb c.salt draw.nonce draw.password.text
  let withDatabase : Host :=
    { host with databases := host.databases.put draw.username.text { owner := c.username } }
  let withUser : Host :=
    { withDatabase with accounts := host.accounts.put draw.username.text draw.password.text }
  let withGrant : Host :=
    { withUser with grants := (draw.username.text, draw.username.text) :: host.grants }
  have made : Sql.exec execute (Sql.perform (.createDatabase user)) host =
      (.ok (), withDatabase) :=
    Sql.exec_perform reached.session rfl (Host.createDatabase_eq unmade c.username)
  have joined : Sql.exec execute (Sql.perform (.createUser user password)) withDatabase =
      (.ok (), withUser) := by
    have unknown : withDatabase.accounts.get? draw.username.text = none := unknown
    exact Sql.exec_perform reached.session rfl (Host.createAccount_eq unknown draw.password.text)
  have granted : Sql.exec execute (Sql.perform (.grant user)) withUser = (.ok (), withGrant) := by
    have known : (withUser.accounts.get? draw.username.text).isSome = true := by simp [withUser]
    exact Sql.exec_perform reached.session rfl
      (Host.grant_eq known draw.username.text)
  have inserted : Sql.exec execute
      (Sql.perform (.insertBinding ⟨c.username, reached.word⟩ binding user.text stored)) withGrant =
        (.ok (), withGrant.withTable c.database d
          (entries ++ [⟨binding, draw.username.text, stored⟩])) := by
    have there : withGrant.databases.get? c.database = some d :=
      Table.get?_put_of_some home unmade _
    refine Sql.exec_perform reached.session rfl ?_
    show withGrant.insert c.username _ = _
    rw [← reached.home]
    exact Host.insert_eq there table _
  rw [create, Sql.exec_bind_ok (Sql.exec_inStep made), Sql.exec_bind_ok (Sql.exec_inStep joined),
    Sql.exec_bind_ok (Sql.exec_inStep granted), Sql.exec_bind_ok (Sql.exec_word reached.word),
    Sql.exec_bind_ok (Sql.exec_inStep inserted)]
  rfl

/-- On MariaDB a binding is removed with its database, where that may be dropped. -/
theorem exec_delete (reached : Reached c host) (home : host.databases.get? c.database = some d)
    (table : d.bindings = some entries) (binding : String) {username : String}
    (word : Sql.isWord username = true) (other : username ≠ c.database)
    (may : ∀ d, host.databases.get? username = some d → host.HasRole c.username d.owner) :
    Sql.exec execute (delete c binding username) host =
      (.ok (), Host.withTable { host with databases := host.databases.erase username } c.database d
        (entries.filter (·.binding ≠ binding))) := by
  let dropped : Host := { host with databases := host.databases.erase username }
  have drops : Sql.exec execute (dropDatabase username) host = (.ok (), dropped) :=
    Sql.exec_dropDatabase reached.session word rfl rfl may
  have removed : Sql.exec execute
      (Sql.perform (.deleteBinding ⟨c.username, reached.word⟩ binding)) dropped =
        (.ok (), dropped.withTable c.database d (entries.filter (·.binding ≠ binding))) := by
    have there : dropped.databases.get? c.database = some d :=
      (Table.get?_erase_of_ne _ (Ne.symm other)).trans home
    refine Sql.exec_perform reached.session rfl ?_
    show dropped.remove c.username binding = _
    rw [← reached.home]
    exact Host.remove_eq there table binding
  rw [delete, Sql.exec_bind_ok (Sql.exec_inStep drops),
    Sql.exec_bind_ok (Sql.exec_word reached.word)]
  exact Sql.exec_inStep removed

end MariaDb

namespace PostgreSql

/-- On PostgreSQL whether there is a table is told, and nothing changes. -/
theorem exec_hasTable (reached : Reached c host) :
    Sql.exec execute (hasTable c) host = (.ok (host.table? c.database).isSome, host) := by
  rw [hasTable, Sql.exec_selectsAny reached.session rfl]
  cases h : (host.table? c.database).isSome <;> simp [Host.found]

/-- On PostgreSQL preparing makes a table where there is none. -/
theorem exec_prepare (reached : Reached c host)
    (home : host.databases.get? c.database = some d) :
    Sql.exec execute (prepare c) host = (.ok (), match d.bindings with
      | some _ => host
      | none => host.withTable c.database d []) := by
  rw [prepare, Sql.exec_bind_ok (exec_hasTable reached), table?_eq home]
  cases hd : d.bindings with
  | some entries => rfl
  | none => exact Sql.exec_perform reached.session rfl (Host.createTable_eq home hd)

/-- On PostgreSQL the record of a binding is told as the table has it. -/
theorem exec_read (reached : Reached c host) (table : host.table? c.database = some entries)
    (binding : String) :
    Sql.exec execute (read c binding) host =
      (recordIn .postgreSql c.salt binding entries, host) := by
  have selected : execute (.readBinding binding) ⟨c.username, c.database⟩ host =
      some ((entries.find? (·.binding = binding)).toList.map fun e =>
        [some e.username, some e.stored], host) := by
    rw [execute, Host.select_eq table, Option.map_some]
  rw [read, Sql.exec_bind_ok (Sql.exec_execute reached.session selected), recordIn]
  cases entries.find? (·.binding = binding) with
  | none => rfl
  | some entry => exact exec_row .postgreSql c.salt binding entry

/-- On PostgreSQL the user of a binding is told as the table has it. -/
theorem exec_readUser (reached : Reached c host) (table : host.table? c.database = some entries)
    (binding : String) :
    Sql.exec execute (readUser binding) host =
      (.ok ((entries.find? (·.binding = binding)).map (·.username)), host) := by
  have selected : execute (.readUser binding) ⟨c.username, c.database⟩ host =
      some ((entries.find? (·.binding = binding)).toList.map fun e => [some e.username], host) := by
    rw [execute, Host.select_eq table, Option.map_some]
  rw [readUser, Sql.exec_bind_ok (Sql.exec_execute reached.session selected)]
  cases entries.find? (·.binding = binding) <;> rfl

/-- On PostgreSQL a binding that can be made is made, with its role, its database and its row. -/
theorem exec_create (reached : Reached c host) (home : host.databases.get? c.database = some d)
    (table : d.bindings = some entries) (known : (host.accounts.get? c.username).isSome)
    (binding : String) {draw : Draw} (unmade : host.databases.get? draw.username.text = none)
    (unknown : host.accounts.get? draw.username.text = none) :
    Sql.exec execute (create c binding draw) host =
      (.ok (draw.record binding), Host.withTable { host with
        databases := host.databases.put draw.username.text { owner := draw.username.text }
        accounts := host.accounts.put draw.username.text draw.password.text
        grants := (draw.username.text, c.username) :: host.grants } c.database d
        (entries ++ [⟨binding, draw.username.text,
          storedPassword .postgreSql c.salt draw.nonce draw.password.text⟩])) := by
  let role := Word.ofLetters draw.username
  let password := Word.ofLetters draw.password
  let stored := storedPassword .postgreSql c.salt draw.nonce draw.password.text
  let withRole : Host :=
    { host with accounts := host.accounts.put draw.username.text draw.password.text }
  let withGrant : Host :=
    { withRole with grants := (draw.username.text, c.username) :: host.grants }
  let withDatabase : Host :=
    { withGrant with
      databases := host.databases.put draw.username.text { owner := draw.username.text } }
  have there : (withRole.accounts.get? draw.username.text).isSome = true := by simp [withRole]
  have joined : Sql.exec execute (Sql.perform (.createRole role password)) host =
      (.ok (), withRole) :=
    Sql.exec_perform reached.session rfl (Host.createAccount_eq unknown draw.password.text)
  have granted : Sql.exec execute
      (Sql.perform (.grantRole role ⟨c.username, reached.word⟩)) withRole =
        (.ok (), withGrant) := by
    have known : (withRole.accounts.get? c.username).isSome = true := by
      obtain ⟨password, known⟩ := Option.isSome_iff_exists.1 known
      exact Option.isSome_of_eq_some (Table.get?_put_of_some known unknown _)
    exact Sql.exec_perform reached.session (if_pos there)
      (Host.grant_eq known draw.username.text)
  have made : Sql.exec execute (Sql.perform (.createDatabase role)) withGrant =
      (.ok (), withDatabase) := by
    have member : withGrant.HasRole c.username draw.username.text := .inr List.mem_cons_self
    have unmade : withGrant.databases.get? draw.username.text = none := unmade
    exact Sql.exec_perform reached.session (if_pos ⟨there, member⟩)
      (Host.createDatabase_eq unmade draw.username.text)
  have inserted : Sql.exec execute
      (Sql.perform (.insertBinding binding role.text stored)) withDatabase =
        (.ok (), withDatabase.withTable c.database d
          (entries ++ [⟨binding, draw.username.text, stored⟩])) := by
    have there : withDatabase.databases.get? c.database = some d :=
      Table.get?_put_of_some home unmade _
    exact Sql.exec_perform reached.session rfl
      (Host.insert_eq there table _)
  rw [create, Sql.exec_bind_ok (Sql.exec_word reached.word),
    Sql.exec_bind_ok (Sql.exec_inStep joined), Sql.exec_bind_ok (Sql.exec_inStep granted),
    Sql.exec_bind_ok (Sql.exec_inStep made), Sql.exec_bind_ok (Sql.exec_inStep inserted)]
  rfl

/-- On PostgreSQL a binding is removed with its database, where that may be dropped. -/
theorem exec_delete (reached : Reached c host) (home : host.databases.get? c.database = some d)
    (table : d.bindings = some entries) (binding : String) {username : String}
    (word : Sql.isWord username = true) (other : username ≠ c.database)
    (may : ∀ d, host.databases.get? username = some d → host.HasRole c.username d.owner) :
    Sql.exec execute (delete binding username) host =
      (.ok (), Host.withTable { host with databases := host.databases.erase username } c.database d
        (entries.filter (·.binding ≠ binding))) := by
  let dropped : Host := { host with databases := host.databases.erase username }
  have drops : Sql.exec execute (dropDatabase username) host = (.ok (), dropped) :=
    Sql.exec_dropDatabase reached.session word rfl (if_neg other) may
  have removed : Sql.exec execute (Sql.perform (.deleteBinding binding)) dropped =
      (.ok (), dropped.withTable c.database d (entries.filter (·.binding ≠ binding))) := by
    have there : dropped.databases.get? c.database = some d :=
      (Table.get?_erase_of_ne _ (Ne.symm other)).trans home
    exact Sql.exec_perform reached.session rfl
      (Host.remove_eq there table binding)
  rw [delete, Sql.exec_bind_ok (Sql.exec_inStep drops)]
  exact Sql.exec_inStep removed

end PostgreSql

end

/-- **The statements of both engines do what the calls of a dialect say.** -/
theorem carried (engine : Engine) : Carried engine := by
  cases engine with
  | mariaDb =>
    refine ⟨Sql.exec_connect, MariaDb.exec_hasTable, MariaDb.exec_prepare, MariaDb.exec_read,
      MariaDb.exec_readUser, ?_, MariaDb.exec_delete⟩
    intro c host d entries reached home table _ binding draw unmade unknown
    exact ⟨_, _, MariaDb.exec_create reached home table binding unmade unknown, .inl rfl⟩
  | postgreSql =>
    refine ⟨Sql.exec_connect, PostgreSql.exec_hasTable, PostgreSql.exec_prepare,
      PostgreSql.exec_read, PostgreSql.exec_readUser, ?_, PostgreSql.exec_delete⟩
    intro c host d entries reached home table known binding draw unmade unknown
    exact ⟨_, _, PostgreSql.exec_create reached home table known binding unmade unknown, .inr rfl⟩

end Dialect
end ServiceBroker

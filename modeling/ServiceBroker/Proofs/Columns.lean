/-
# What the table of bindings takes

The table of bindings is declared with a number of characters for each column, and a row has three
values of different origin: the name of a binding, which is that of a path; a generated user; and
a password as it is stored, sealed or plain.  The latter two are always of the same length and fit.
A binding may have any name, and a row fits its table just if the name has no more than 36
characters (`Dialect.takes_row_iff`).  Nothing looks at the length before database and user are
made, so that a longer name is inserted into a table that has no room for it
(`Dialect.long_name_inserted`).
-/

import ServiceBroker.Dialect.BindingTable
import ServiceBroker.Proofs.Asking
import ServiceBroker.Proofs.Checks
import ServiceBroker.Proofs.Encoding
import ServiceBroker.Proofs.Quoting
import ServiceBroker.Proofs.Splicing

namespace ServiceBroker

/-! ### The length of what is stored -/

namespace Bytes

/-- Characters of ASCII are one byte each. -/
theorem length_ofChars {chars : List Char} (ascii : ∀ c ∈ chars, c.toNat < 0x80) :
    (ofChars chars).length = chars.length := by
  induction chars with
  | nil => rfl
  | cons c rest ih =>
    rw [List.forall_mem_cons] at ascii
    rw [ofChars_cons, utf8EncodeChar_ascii ascii.1, List.singleton_append, List.length_cons,
      List.length_cons, ih ascii.2]

end Bytes

namespace Letters

/-- A letter is a character of ASCII. -/
theorem toNat_lt_of_isAlpha {c : Char} (letter : c.isAlpha = true) : c.toNat < 0x80 := by
  have number : c.toNat = c.val.toNat := rfl
  obtain upper | lower := (Bool.or_eq_true _ _).mp letter
  · have below := UInt32.le_iff_toNat_le.mp (of_decide_eq_true upper).2
    have last : 'Z'.val.toNat = 90 := rfl
    omega
  · have below := UInt32.le_iff_toNat_le.mp
      (of_decide_eq_true ((Bool.and_eq_true _ _).mp lower).2)
    have last : 'z'.val.toNat = 122 := rfl
    omega

variable {n : Nat} (letters : Letters n)

/-- The text of as many letters has this length. -/
theorem length_text : letters.text.length = n := by
  rw [← String.length_toList, letters.length_eq]

/-- A letter is one byte. -/
theorem length_ofText : (Bytes.ofText letters.text).length = n := by
  have ascii : ∀ c ∈ letters.text.toList, c.toNat < 0x80 := fun c there =>
    toNat_lt_of_isAlpha (List.all_eq_true.mp letters.all_letters c there)
  rw [Bytes.ofText_eq, Bytes.length_ofChars ascii, letters.length_eq]

end Letters

namespace GcmSiv

/-- A key stream changes no length. -/
theorem length_addKeyStream (keys : List Block) (counter : Block) (text : Bytes) :
    (addKeyStream keys counter text).length = text.length := by
  fun_induction addKeyStream keys counter text with
  | case1 => rfl
  | case2 counter b rest ih =>
    rw [List.length_append, ih, List.length_zipWith, List.length_take, List.length_drop,
      Vector.length_toList]
    omega

/-- What is encrypted grows by its tag. -/
theorem length_encrypt (key : Key) (nonce : Nonce) (text : Bytes) :
    (encrypt key nonce text).length = text.length + 16 := by
  rw [encrypt, List.length_append, crypt, length_addKeyStream, Vector.length_toList]

end GcmSiv

namespace Sealing

/-- A sealed text is the base64 of a nonce, as many bytes as the text has, and a tag. -/
theorem length_sealText (salt : String) (nonce : GcmSiv.Nonce) (text : String) :
    (sealText salt nonce text).length = ((Bytes.ofText text).length + 30) / 3 * 4 := by
  rw [sealText, Base64.encode, String.length_ofList, Base64.length_encodeChars, sealBytes,
    List.length_append, GcmSiv.length_encrypt, Vector.length_toList]
  omega

end Sealing

/-! ### Tables as they are declared -/

namespace Sql

/-- A word is spelled as the name that it was made of. -/
theorem Word.text_of_ofText {name : String} {w : Word} (named : Word.ofText name = .ok w) :
    w.text = name := by
  cases word : isWord name with
  | true =>
    rw [Word.ofText_of_isWord word] at named
    cases named
    rfl
  | false =>
    rw [Word.ofText_of_not_isWord word] at named
    cases named

/-- A name that is quoted keeps its text. -/
theorem matched_word {S : Type} {near : S → S → Prop} (name : String) :
    Matched near (fun w w' => w = w' ∧ w.text = name) (check (Word.ofText name))
      (check (Word.ofText name)) := by
  refine .done ?_
  cases named : Word.ofText name with
  | error e => trivial
  | ok w => exact ⟨rfl, Word.text_of_ofText named⟩

/-- A text begins with a word. -/
def begins (word text : String) : Bool := word.toList.isPrefixOf text.toList

/-- What a program executes, whatever the server answers, if beside itself it executes only what
`near` holds of. -/
theorem Alongside.of_mem {S α : Type} {near : S → S → Prop} {ends : α → α → Prop}
    {p : Program (interface S) α} (sends : Alongside near ends p p)
    (answers : List (Except Failure (List Row))) : ∀ st ∈ Sql.statements p answers, near st st := by
  have alike : List.Forall₂ Likewise answers answers :=
    List.forall₂_same.2 fun answer _ => likewise_self answer
  exact List.forall₂_same.1 (sends.statements alike)

end Sql

namespace Dialect

open Sql (Alongside Declared Failure isWord begins)

section Texts

variable {c : Connection} {schema : Sql.Word}

/-- The table that MariaDB knows by the name of its schema. -/
theorem name_bindingTable (named : schema.text = c.username) :
    (bindingTable .mariaDb c).name = MariaDb.table schema := by
  rw [MariaDb.table, MariaDb.name, Sql.Word.quoted, named, bindingTable]

/-- The statement that creates the table is the one that the declaration gives. -/
theorem MariaDb.text_createTable (named : schema.text = c.username) :
    (Statement.createTable schema).text = (bindingTable .mariaDb c).createText := by
  show "CREATE TABLE " ++ table schema ++ _ = _
  rw [Declared.createText, name_bindingTable named]
  congr 1

/-- The statement that creates the table is the one that the declaration gives. -/
theorem PostgreSql.text_createTable :
    Statement.createTable.text = (bindingTable .postgreSql c).createText := by
  show "CREATE TABLE " ++ tableName ++ _ = _
  rw [Declared.createText]
  congr 1

/-- The statement that inserts a row is the one that the declaration gives. -/
theorem MariaDb.text_insertBinding (named : schema.text = c.username)
    (binding username stored : String) :
    (Statement.insertBinding schema binding username stored).text =
      (bindingTable .mariaDb c).insertText (places .mariaDb) := by
  show "INSERT INTO " ++ table schema ++ _ = _
  rw [Declared.insertText, name_bindingTable named]
  congr 1

/-- The statement that inserts a row is the one that the declaration gives. -/
theorem PostgreSql.text_insertBinding (binding username stored : String) :
    (Statement.insertBinding binding username stored).text =
      (bindingTable .postgreSql c).insertText (places .postgreSql) := by
  show "INSERT INTO " ++ tableName ++ _ = _
  rw [Declared.insertText]
  congr 1

end Texts

/-- If this creates something, it is the table of bindings. -/
def Declares (engine : Engine) (c : Connection) (sent : String × List String) : Prop :=
  begins "CREATE" sent.1 → sent = ((bindingTable engine c).createText, [])

/-- If this inserts something, it is the row for a binding into the table of bindings. -/
def Inserts (engine : Engine) (c : Connection) (binding : String) (draw : Draw)
    (sent : String × List String) : Prop :=
  begins "INSERT" sent.1 →
    sent = ((bindingTable engine c).insertText (places engine), row engine c binding draw)

/-- A statement of MariaDB that is sent as something that `allowed` holds of. -/
def MariaDb.Only (allowed : String × List String → Prop) (st _ : Statement) : Prop :=
  allowed (st.text, st.parameters)

/-- A statement of PostgreSQL that is sent as something that `allowed` holds of. -/
def PostgreSql.Only (allowed : String × List String → Prop) (st _ : Statement) : Prop :=
  allowed (st.text, st.parameters)

section Sending

open Sql (matched_selectsAny matched_perform matched_word)

variable {c : Connection} {binding : String} {draw : Draw} {engine : Engine}

/-- What begins with another word than `CREATE` declares no table. -/
theorem declares_of_not_begins {sent : String × List String}
    (other : begins "CREATE" sent.1 = false) : Declares engine c sent := by
  intro begun
  rw [other] at begun
  cases begun

/-- What begins with another word than `INSERT` inserts nothing. -/
theorem inserts_of_not_begins {sent : String × List String}
    (other : begins "INSERT" sent.1 = false) : Inserts engine c binding draw sent := by
  intro begun
  rw [other] at begun
  cases begun

/-- If something that prepares a MariaDB server creates anything, it creates the table of
bindings. -/
theorem MariaDb.declares (c : Connection) :
    Alongside (MariaDb.Only (Declares .mariaDb c)) (fun _ _ => True)
      (MariaDb.answer (.prepare c)) (MariaDb.answer (.prepare c)) := by
  have asks : MariaDb.Only (Declares .mariaDb c) (.findTable c.username)
      (.findTable c.username) := by
    apply declares_of_not_begins
    show begins _ ("SELECT 1 FROM information_schema.tables WHERE table_schema = ? AND " ++
      "table_name = ? LIMIT 1") = _
    decide +kernel
  refine (matched_selectsAny asks).andThen ?_
  rintro there _ rfl
  split_ifs
  · exact .done trivial
  · refine (matched_word c.username).andThen ?_
    rintro schema _ ⟨rfl, named⟩
    have declares : MariaDb.Only (Declares .mariaDb c) (.createTable schema)
        (.createTable schema) := fun _ => congrArg (·, []) (text_createTable named)
    exact (matched_perform declares).loosely

/-- If something that makes a binding on a MariaDB server inserts anything, it inserts the row of
the binding. -/
theorem MariaDb.inserts (c : Connection) (binding : String) (draw : Draw) :
    Alongside (MariaDb.Only (Inserts .mariaDb c binding draw)) (fun _ _ => True)
      (MariaDb.answer (.create c binding draw)) (MariaDb.answer (.create c binding draw)) := by
  have creates (w : Sql.Word) : MariaDb.Only (Inserts .mariaDb c binding draw) (.createDatabase w)
      (.createDatabase w) := by
    apply inserts_of_not_begins
    show begins _ ("CREATE DATABASE " ++ _) = _
    simp [begins, List.isPrefixOf]
  have identifies (w password : Sql.Word) : MariaDb.Only (Inserts .mariaDb c binding draw)
      (.createUser w password) (.createUser w password) := by
    apply inserts_of_not_begins
    show begins _ ("CREATE USER " ++ _ ++ _ ++ _) = _
    simp [begins, List.isPrefixOf]
  have grants (w : Sql.Word) : MariaDb.Only (Inserts .mariaDb c binding draw) (.grant w)
      (.grant w) := by
    apply inserts_of_not_begins
    show begins _ ("GRANT " ++ _ ++ _ ++ _ ++ _ ++ _) = _
    simp [begins, List.isPrefixOf]
  refine (matched_perform (creates _)).inStep.andThen fun _ _ _ => ?_
  refine (matched_perform (identifies _ _)).inStep.andThen fun _ _ _ => ?_
  refine (matched_perform (grants _)).inStep.andThen fun _ _ _ => ?_
  refine (matched_word c.username).andThen ?_
  rintro schema _ ⟨rfl, named⟩
  have inserts : MariaDb.Only (Inserts .mariaDb c binding draw)
      (.insertBinding schema binding draw.username.text
        (storedPassword .mariaDb c.salt draw.nonce draw.password.text))
      (.insertBinding schema binding draw.username.text
        (storedPassword .mariaDb c.salt draw.nonce draw.password.text)) :=
    fun _ => congrArg (·, row .mariaDb c binding draw) (text_insertBinding named _ _ _)
  exact (matched_perform inserts).inStep.andThen fun _ _ _ => .done trivial

/-- If something that prepares a PostgreSQL server creates anything, it creates the table of
bindings. -/
theorem PostgreSql.declares (c : Connection) :
    Alongside (PostgreSql.Only (Declares .postgreSql c)) (fun _ _ => True)
      (PostgreSql.answer (.prepare c)) (PostgreSql.answer (.prepare c)) := by
  have asks : PostgreSql.Only (Declares .postgreSql c) (.findTable c.database)
      (.findTable c.database) := by
    apply declares_of_not_begins
    show begins _ ("SELECT 1 FROM information_schema.tables WHERE table_catalog = $1 AND " ++
      "table_name = $2 LIMIT 1") = _
    decide +kernel
  refine (matched_selectsAny asks).andThen ?_
  rintro there _ rfl
  split_ifs
  · exact .done trivial
  · have declares : PostgreSql.Only (Declares .postgreSql c) .createTable .createTable :=
      fun _ => congrArg (·, []) text_createTable
    exact (matched_perform declares).loosely

/-- If something that makes a binding on a PostgreSQL server inserts anything, it inserts the row of
the binding. -/
theorem PostgreSql.inserts (c : Connection) (binding : String) (draw : Draw) :
    Alongside (PostgreSql.Only (Inserts .postgreSql c binding draw)) (fun _ _ => True)
      (PostgreSql.answer (.create c binding draw))
      (PostgreSql.answer (.create c binding draw)) := by
  have identifies (w password : Sql.Word) : PostgreSql.Only (Inserts .postgreSql c binding draw)
      (.createRole w password) (.createRole w password) := by
    apply inserts_of_not_begins
    show begins _ ("CREATE ROLE " ++ _ ++ _ ++ _ ++ _) = _
    simp [begins, List.isPrefixOf]
  have grants (w admin : Sql.Word) : PostgreSql.Only (Inserts .postgreSql c binding draw)
      (.grantRole w admin) (.grantRole w admin) := by
    apply inserts_of_not_begins
    show begins _ ("GRANT " ++ _ ++ _ ++ _) = _
    simp [begins, List.isPrefixOf]
  have creates (w : Sql.Word) : PostgreSql.Only (Inserts .postgreSql c binding draw)
      (.createDatabase w) (.createDatabase w) := by
    apply inserts_of_not_begins
    show begins _ ("CREATE DATABASE " ++ _ ++ _ ++ _) = _
    simp [begins, List.isPrefixOf]
  refine (matched_word c.username).andThen ?_
  rintro admin _ ⟨rfl, -⟩
  refine (matched_perform (identifies _ _)).inStep.andThen fun _ _ _ => ?_
  refine (matched_perform (grants _ _)).inStep.andThen fun _ _ _ => ?_
  refine (matched_perform (creates _)).inStep.andThen fun _ _ _ => ?_
  have inserts : PostgreSql.Only (Inserts .postgreSql c binding draw)
      (.insertBinding binding draw.username.text
        (storedPassword .postgreSql c.salt draw.nonce draw.password.text))
      (.insertBinding binding draw.username.text
        (storedPassword .postgreSql c.salt draw.nonce draw.password.text)) :=
    fun _ => congrArg (·, row .postgreSql c binding draw) (text_insertBinding _ _ _)
  exact (matched_perform inserts).inStep.andThen fun _ _ _ => .done trivial

/-- What is sent to prepare a server creates the table of bindings, if it creates anything. -/
theorem declares_of_sent {answers : List (Except Failure (List Sql.Row))}
    {sent : String × List String} (there : sent ∈ Dialect.sent engine (.prepare c) answers) :
    Declares engine c sent := by
  cases engine with
  | mariaDb =>
    obtain ⟨st, executed, rfl⟩ := List.mem_map.1 there
    exact (MariaDb.declares c).of_mem answers st executed
  | postgreSql =>
    obtain ⟨st, executed, rfl⟩ := List.mem_map.1 there
    exact (PostgreSql.declares c).of_mem answers st executed

/-- What is sent to make a binding inserts the row of the binding, if it inserts anything. -/
theorem inserts_of_sent {answers : List (Except Failure (List Sql.Row))}
    {sent : String × List String}
    (there : sent ∈ Dialect.sent engine (.create c binding draw) answers) :
    Inserts engine c binding draw sent := by
  cases engine with
  | mariaDb =>
    obtain ⟨st, executed, rfl⟩ := List.mem_map.1 there
    exact (MariaDb.inserts c binding draw).of_mem answers st executed
  | postgreSql =>
    obtain ⟨st, executed, rfl⟩ := List.mem_map.1 there
    exact (PostgreSql.inserts c binding draw).of_mem answers st executed

/-- A server without a table that does what it is told has one declared. -/
theorem declared_of_isWord (engine : Engine) (word : isWord c.username = true) :
    ((bindingTable engine c).createText, []) ∈
      Dialect.sent engine (.prepare c) [.ok [], .ok []] := by
  cases engine with
  | mariaDb =>
    have executed : MariaDb.Statement.createTable ⟨c.username, word⟩ ∈
        Sql.statements (MariaDb.answer (.prepare c)) [.ok [], .ok []] := by
      rw [MariaDb.answer, MariaDb.prepare, Sql.Word.ofText_of_isWord word]
      exact List.mem_cons_of_mem _ List.mem_cons_self
    refine List.mem_map.2 ⟨_, executed, ?_⟩
    exact congrArg (·, []) (MariaDb.text_createTable rfl)
  | postgreSql =>
    have executed : PostgreSql.Statement.createTable ∈
        Sql.statements (PostgreSql.answer (.prepare c)) [.ok [], .ok []] :=
      List.mem_cons_of_mem _ List.mem_cons_self
    refine List.mem_map.2 ⟨_, executed, ?_⟩
    exact congrArg (·, []) PostgreSql.text_createTable

/-- A server that does what it is told has a row inserted. -/
theorem inserted_of_isWord (engine : Engine) (word : isWord c.username = true) (binding : String)
    (draw : Draw) :
    ((bindingTable engine c).insertText (places engine), row engine c binding draw) ∈
      Dialect.sent engine (.create c binding draw) (List.replicate 4 (.ok [])) := by
  cases engine with
  | mariaDb =>
    have executed : MariaDb.Statement.insertBinding ⟨c.username, word⟩ binding draw.username.text
        (storedPassword .mariaDb c.salt draw.nonce draw.password.text) ∈
        Sql.statements (MariaDb.answer (.create c binding draw)) (List.replicate 4 (.ok [])) := by
      rw [MariaDb.answer, MariaDb.create, Sql.Word.ofText_of_isWord word]
      exact List.mem_of_getElem? (i := 3) rfl
    refine List.mem_map.2 ⟨_, executed, ?_⟩
    exact congrArg (·, row .mariaDb c binding draw) (MariaDb.text_insertBinding rfl _ _ _)
  | postgreSql =>
    have executed : PostgreSql.Statement.insertBinding binding draw.username.text
        (storedPassword .postgreSql c.salt draw.nonce draw.password.text) ∈
        Sql.statements (PostgreSql.answer (.create c binding draw))
          (List.replicate 4 (.ok [])) := by
      rw [PostgreSql.answer, PostgreSql.create, Sql.Word.ofText_of_isWord word]
      exact List.mem_of_getElem? (i := 3) rfl
    refine List.mem_map.2 ⟨_, executed, ?_⟩
    exact congrArg (·, row .postgreSql c binding draw) (PostgreSql.text_insertBinding _ _ _)

end Sending

/-- A password takes 80 characters where it is sealed, and 30 where it is not. -/
theorem length_storedPassword (engine : Engine) (salt : String) (draw : Draw) :
    (storedPassword engine salt draw.nonce draw.password.text).length =
      if engine.sealsPasswords then 80 else 30 := by
  cases engine with
  | mariaDb =>
    show (Sealing.sealText _ _ _).length = 80
    rw [Sealing.length_sealText, Letters.length_ofText]
  | postgreSql => exact draw.password.length_text

/-- A row fits if the name of its binding does. -/
theorem takes_row (engine : Engine) (c : Connection) (binding : String) (draw : Draw) :
    (bindingTable engine c).Takes (row engine c binding draw) ↔ binding.length ≤ 36 := by
  have stored : (storedPassword engine c.salt draw.nonce draw.password.text).length ≤ 128 := by
    rw [length_storedPassword]
    split_ifs <;> omega
  have named : draw.username.text.length ≤ 20 := draw.username.length_text.le
  simp [Declared.Takes, bindingTable, row, stored, named]

/-- **A row fits the table that was declared for it just if the name of its binding does.**  On
either engine, whatever the server answers, the only thing that is created when the table is made
sure of is the table with its three columns, and the only thing that is inserted for a binding is
its row into that table; both are where the administrator can be spoken of and the server does what
it is told.  User and password always fit, under any salt and with any chance.  A name fits if it
has at most 36 characters. -/
theorem takes_row_iff (engine : Engine) (c : Connection) (binding : String) (draw : Draw) :
    let table := bindingTable engine c
    let values := row engine c binding draw
    (∀ answers, ∀ x ∈ sent engine (.prepare c) answers, begins "CREATE" x.1 →
      x = (table.createText, [])) ∧
    (∀ answers, ∀ x ∈ sent engine (.create c binding draw) answers, begins "INSERT" x.1 →
      x = (table.insertText (places engine), values)) ∧
    (isWord c.username = true →
      (table.createText, []) ∈ sent engine (.prepare c) [.ok [], .ok []] ∧
      (table.insertText (places engine), values) ∈
        sent engine (.create c binding draw) (List.replicate 4 (.ok []))) ∧
    draw.username.text.length = 20 ∧
    (storedPassword engine c.salt draw.nonce draw.password.text).length =
      (if engine.sealsPasswords then 80 else 30) ∧
    (table.Takes values ↔ binding.length ≤ 36) :=
  ⟨fun _ _ there => declares_of_sent there, fun _ _ there => inserts_of_sent there,
    fun word => ⟨declared_of_isWord engine word, inserted_of_isWord engine word binding draw⟩,
    draw.username.length_text, length_storedPassword engine c.salt draw,
    takes_row engine c binding draw⟩

/-- The row for a binding with a name of 36 characters is inserted and fits. -/
theorem takes_row_of_uuid :
    let c : Connection := ⟨.mariaDb, "10.0.0.2", 3306, "root", "root", "secret", "1"⟩
    let draw : Draw := ⟨.nth 20 0, .nth 30 0, .replicate 12 0⟩
    let binding := "00000000-0000-0000-0000-000000000000"
    (("INSERT INTO \x60root\x60.open_service_broker_meta (binding_id, name, password) " ++
        "VALUES (?, ?, ?)"), row .mariaDb c binding draw) ∈
      sent .mariaDb (.create c binding draw) (List.replicate 4 (.ok [])) ∧
    (bindingTable .mariaDb c).Takes (row .mariaDb c binding draw) := by
  intro c draw binding
  obtain ⟨-, -, written, -, -, fits⟩ := takes_row_iff .mariaDb c binding draw
  have text : (bindingTable .mariaDb c).insertText (places .mariaDb) =
      "INSERT INTO \x60root\x60.open_service_broker_meta (binding_id, name, password) " ++
        "VALUES (?, ?, ?)" := by decide +kernel
  refine ⟨?_, fits.2 (by decide)⟩
  rw [← text]
  exact (written (by decide)).2

end Dialect

namespace Http

/-- A request to bind under a name of 37 characters. -/
def longNamed : Request where
  method := .put
  target := {
    path := Bytes.ofText ("/v2/service_instances/a/service_bindings/" ++
      "xxxxxxxxxxxxxxxxxxxxxxxxxxxxxxxxxxxxx") }
  headers := [(versionHeader, Bytes.ofText "2.13")]
  body := Bytes.ofText ("\x7b\"service_id\":\"cc17eabf-0178-4eea-966e-2f5fb2aa62a9\"," ++
    "\"plan_id\":\"590eb4a9-6efb-4f14-ac03-b66fe49adb2e\"\x7d")

/-- The front hands on a request with a name of 37 characters. -/
theorem decide_longNamed :
    Front.decide {} longNamed =
      .perform ⟨.postgreSql, 10⟩ (.bind "a" "xxxxxxxxxxxxxxxxxxxxxxxxxxxxxxxxxxxxx") := by
  have addressed : Endpoint.of? longNamed =
      some (.bind "a" "xxxxxxxxxxxxxxxxxxxxxxxxxxxxxxxxxxxxx") := by decide +kernel
  have passed : Check.first? (Front.checks {} longNamed {}
      (.bind "a" "xxxxxxxxxxxxxxxxxxxxxxxxxxxxxxxxxxxxx")) = none := by decide +kernel
  have registered : Registry.databases.handler? (Check.asked longNamed.body).serviceId
      (Check.asked longNamed.body).planId = some ⟨.postgreSql, 10⟩ := by decide +kernel
  have queried : Query.parse longNamed.target.query = .ok {} := rfl
  have short : longNamed.body.length ≤ Front.maxBody := by decide +kernel
  rw [Front.decide_eq rfl addressed queried fun _ => short, passed]
  show Front.assign {} (Check.asked longNamed.body).serviceId (Check.asked longNamed.body).planId
    (.bind "a" "xxxxxxxxxxxxxxxxxxxxxxxxxxxxxxxxxxxxx") = _
  simp only [Front.assign, registered]

end Http

open Program (Asked Leads)

/-- **A name that is too long is inserted all the same.**  For a request to bind under a name of 37
characters the server is told to insert a row that does not fit the table that it was told to make.
It has made a role and a database for the binding by then.  Where it refuses the row, both are left
behind: nothing more is told to it, and the request ends with an internal error. -/
theorem Dialect.long_name_inserted :
    let binding := "xxxxxxxxxxxxxxxxxxxxxxxxxxxxxxxxxxxxx"
    let h : DatabaseHandler := ⟨.postgreSql, 10⟩
    let c : Connection :=
      ⟨.postgreSql, "10.0.0.2", 5432, "root", "root", "secret", ApplianceId.text 1⟩
    let draw : Draw := ⟨.nth 20 0, .nth 30 0, .replicate 12 0⟩
    let role := Sql.Word.ofLetters draw.username
    let insert : PostgreSql.Statement := .insertBinding binding role.text
      (storedPassword .postgreSql c.salt draw.nonce draw.password.text)
    let told : List (Asked (Sql.interface PostgreSql.Statement)) := [
      ⟨.execute (.createRole role (.ofLetters draw.password)), .ok []⟩,
      ⟨.execute (.grantRole role ⟨"root", by decide⟩), .ok []⟩,
      ⟨.execute (.createDatabase role), .ok []⟩, ⟨.execute insert, .error .refused⟩]
    ∃ (asked : List (Asked Backend.interface)) (failure : ServiceError),
      Http.Front.decide {} Http.longNamed = .perform h (.bind "a" binding) ∧
      Leads ((Lifecycle.perform (.bind "a" binding)).interpret h.answer) asked
        (.done (.bind .internalError)) ∧
      ⟨.dialect (.create c binding draw), .error failure⟩ ∈ asked ∧
      Leads (PostgreSql.answer (.create c binding draw)) told (.done (.error failure)) ∧
      (insert.text, insert.parameters) =
        ((bindingTable .postgreSql c).insertText (places .postgreSql),
          row .postgreSql c binding draw) ∧
      ¬(bindingTable .postgreSql c).Takes (row .postgreSql c binding draw) := by
  intro binding h c draw role insert told
  let a : Appliance := {
    id := 1, name := "a", engine := .postgreSql, planSize := 10, instanceStatus := "up"
    availability := "available", switchId := 1, ipAddress := some ⟨10, 0, 0, 2⟩
    maskLength := 24, defaultRoute := some ⟨10, 0, 0, 1⟩, port := 5432, defaultUser := "root"
    userPassword := "secret", tags := [] }
  let failure : ServiceError := .step "creating metadata record" .database
  let asked : List (Asked Backend.interface) := [
    Backend.found "a" a, Backend.found "a" a, ⟨.dialect (.connect c), .ok ()⟩,
    ⟨.dialect (.hasTable c), .ok false⟩, Backend.found "a" a, ⟨.dialect (.connect c), .ok ()⟩,
    ⟨.dialect (.prepare c), .ok ()⟩, ⟨.dialect (.read c binding), .ok none⟩,
    ⟨.drawBinding, draw⟩, ⟨.dialect (.create c binding draw), .error failure⟩]
  refine ⟨asked, failure, Http.decide_longNamed, ?_, by simp [asked], ?_, ?_, ?_⟩
  · exact .ask _ (.ask _ (.ask _ (.ask _ (.ask _ (.ask _ (.ask _ (.ask _ (.ask _ (.ask _
      (.start _))))))))))
  · rw [PostgreSql.answer, PostgreSql.create, Sql.Word.ofText_of_isWord (by decide)]
    exact .ask _ (.ask _ (.ask _ (.ask _ (.start _))))
  · exact congrArg (·, row .postgreSql c binding draw) (PostgreSql.text_insertBinding _ _ _)
  · rw [takes_row]
    decide

end ServiceBroker

/-
# What goes into the text of a statement

The texts that a dialect sends are a fixed list of templates (`Dialect.templates`): fixed parts,
and holes between two quote characters of one kind, into which only words are ever put.  So
whatever a server has answered and whatever a binding is called, the parts of a statement stay
the parts that they are in the template.

Two calls about different bindings, each statement answered with rows or without them or refused
in both, are followed side by side (`Sql.Alongside`): they send the same texts, and the parameters
bound to these differ only where one binding or sealed password stands for the other
(`Dialect.sent_of_templates`).
-/

import Mathlib.Data.List.Forall2
import ServiceBroker.Dialect.MariaDb
import ServiceBroker.Dialect.PostgreSql

namespace ServiceBroker

namespace Sql

/-- A part of the text of a statement: fixed, or a hole between two quote characters. -/
inductive Piece where
  | fixed (text : String)
  | hole (quote : Char)
deriving DecidableEq, Repr

/-- The text of a statement with holes. -/
abbrev Template := List Piece

/-- The text that a template gives with one name in each hole. -/
def Template.fill : Template → List String → Option String
  | [], [] => some ""
  | .fixed text :: rest, names => (fill rest names).map (text ++ ·)
  | .hole quote :: rest, name :: names =>
    (fill rest names).map (String.singleton quote ++ name ++ String.singleton quote ++ ·)
  | [], _ :: _ | .hole _ :: _, [] => none

/-- The text is that of a template with words in its holes. -/
def Template.Gives (template : Template) (text : String) : Prop :=
  ∃ names, (∀ name ∈ names, isWord name = true) ∧ template.fill names = some text

/-- The statements of a program whose server can be connected to and answers so; where the answers
are used up it stops. -/
def statements {S α : Type} : Program (interface S) α → List (Except Failure (List Row)) → List S
  | .done _, _ => []
  | .ask (.connect _) next, answers => statements (next (.ok ())) answers
  | .ask (.execute statement) _, [] => [statement]
  | .ask (.execute statement) next, answer :: answers =>
    statement :: statements (next answer) answers

/-- Answers of one kind: refusals, or rows both times, or both times none. -/
inductive Likewise : Except Failure (List Row) → Except Failure (List Row) → Prop
  | refused (e e' : Failure) : Likewise (.error e) (.error e')
  | rows {rows rows' : List Row} (same : rows.isEmpty = rows'.isEmpty) :
    Likewise (.ok rows) (.ok rows')

/-- An answer is of its own kind. -/
theorem likewise_self (answer : Except Failure (List Row)) : Likewise answer answer := by
  cases answer with
  | error e => exact .refused e e
  | ok rows => exact .rows rfl

section Alongside

variable {S : Type} {near : S → S → Prop} {α α' β : Type}

/-- Two programs that send near statements as long as they are answered alike, and come to ends that
`ends` holds of. -/
inductive Alongside (near : S → S → Prop) (ends : α → α' → Prop) :
    Program (interface S) α → Program (interface S) α' → Prop
  | done {a : α} {a' : α'} (both : ends a a') : Alongside near ends (.done a) (.done a')
  | connect {c c' : Connection} {next : Except Failure Unit → Program (interface S) α}
    {next' : Except Failure Unit → Program (interface S) α'}
    (rest : ∀ answer, Alongside near ends (next answer) (next' answer)) :
    Alongside near ends (.ask (.connect c) next) (.ask (.connect c') next')
  | execute {st st' : S} {next : Except Failure (List Row) → Program (interface S) α}
    {next' : Except Failure (List Row) → Program (interface S) α'} (close : near st st')
    (rest : ∀ {answer answer'}, Likewise answer answer' →
      Alongside near ends (next answer) (next' answer')) :
    Alongside near ends (.ask (.execute st) next) (.ask (.execute st') next')

/-- **Programs side by side send near statements.** -/
theorem Alongside.statements {ends : α → α' → Prop} {p : Program (interface S) α}
    {p' : Program (interface S) α'} (alongside : Alongside near ends p p')
    {answers answers' : List (Except Failure (List Row))}
    (alike : List.Forall₂ Likewise answers answers') :
    List.Forall₂ near (statements p answers) (statements p' answers') := by
  induction alongside generalizing answers answers' with
  | done both => exact .nil
  | connect rest ih => exact ih _ alike
  | execute close rest ih =>
    cases alike with
    | nil => exact .cons close .nil
    | cons same others => exact .cons close (ih same others)

/-- What two programs come to may be said with less. -/
theorem Alongside.mono {ends after : α → α' → Prop} {p : Program (interface S) α}
    {p' : Program (interface S) α'} (alongside : Alongside near ends p p')
    (weaker : ∀ a a', ends a a' → after a a') : Alongside near after p p' := by
  induction alongside with
  | done both => exact .done (weaker _ _ both)
  | connect _ ih => exact .connect ih
  | execute close _ ih => exact .execute close ih

/-- Two programs side by side go on side by side. -/
theorem Alongside.bind {γ δ : Type} {ends : γ → γ → Prop} {after : δ → δ → Prop}
    {p p' : Program (interface S) γ} {f f' : γ → Program (interface S) δ}
    (first : Alongside near ends p p')
    (rest : ∀ a a', ends a a' → Alongside near after (f a) (f' a')) :
    Alongside near after (p.bind f) (p'.bind f') := by
  induction first with
  | done both => exact rest _ _ both
  | connect _ ih => exact .connect ih
  | execute close _ ih => exact .execute close ih

/-- Two results that `values` holds of, or two failures. -/
def Both (values : α → α → Prop) : Except ServiceError α → Except ServiceError α → Prop
  | .ok a, .ok a' => values a a'
  | .error _, .error _ => True
  | .ok _, .error _ | .error _, .ok _ => False

/-- Scripts side by side: both fail, or both have values that `values` holds of. -/
abbrev Matched (near : S → S → Prop) (values : α → α → Prop) (script script' : Script S α) : Prop :=
  Alongside near (Both values) script.run script'.run

section Rules

variable {values : α → α → Prop}

/-- One script after another, where what comes of the second may differ. -/
theorem Matched.before {ends : Except ServiceError β → Except ServiceError β → Prop}
    {script script' : Script S α} {next next' : α → Script S β}
    (first : Matched near values script script')
    (rest : ∀ a a', values a a' → Alongside near ends (next a).run (next' a').run)
    (failed : ∀ e e', ends (.error e) (.error e')) :
    Alongside near ends (script >>= next).run (script' >>= next').run := by
  refine Alongside.bind first fun result result' both => ?_
  match result, result', both with
  | .ok a, .ok a', both => exact rest a a' both
  | .error e, .error e', _ => exact .done (failed e e')

/-- Two scripts that match go on to match. -/
theorem Matched.bind {after : β → β → Prop} {script script' : Script S α}
    {next next' : α → Script S β} (first : Matched near values script script')
    (rest : ∀ a a', values a a' → Matched near after (next a) (next' a')) :
    Matched near after (script >>= next) (script' >>= next') :=
  first.before rest fun _ _ => trivial

/-- The same, where it does not matter what comes of the second. -/
theorem Matched.andThen {script script' : Script S α} {next next' : α → Script S β}
    (first : Matched near values script script') (rest : ∀ a a', values a a' →
      Alongside near (fun _ _ => True) (next a).run (next' a').run) :
    Alongside near (fun _ _ => True) (script >>= next).run (script' >>= next').run :=
  first.before rest fun _ _ => trivial

/-- Scripts that match run side by side, whatever they come to. -/
theorem Matched.loosely {script script' : Script S α}
    (matched : Matched near values script script') :
    Alongside near (fun _ _ => True) script.run script'.run :=
  matched.mono fun _ _ _ => trivial

/-- Values match. -/
theorem matched_pure {a a' : α} (both : values a a') :
    Matched (S := S) near values (pure a) (pure a') := .done both

/-- The same value or the same failure. -/
theorem matched_check (result : Except ServiceError α) :
    Matched (S := S) near Eq (check result) (check result) := by
  refine .done ?_
  cases result with
  | ok value => rfl
  | error e => trivial

/-- A connection matches itself. -/
theorem matched_connect (c : Connection) : Matched (S := S) near Eq (connect c) (connect c) := by
  refine .connect fun answer => .done ?_
  cases answer with
  | ok value => rfl
  | error e => trivial

/-- Two near statements that are executed match, with rows both times or both times none. -/
theorem matched_execute {st st' : S} (close : near st st') :
    Matched near (fun rows rows' => rows.isEmpty = rows'.isEmpty) (execute st) (execute st') := by
  refine .execute close fun same => .done ?_
  cases same with
  | refused e e' => trivial
  | rows same => exact same

/-- Two near statements that are performed match. -/
theorem matched_perform {st st' : S} (close : near st st') :
    Matched near Eq (perform st) (perform st') :=
  (matched_execute close).bind fun _ _ _ => matched_pure rfl

/-- Two near questions whether there are rows match. -/
theorem matched_selectsAny {st st' : S} (close : near st st') :
    Matched near Eq (selectsAny st) (selectsAny st') := by
  refine (matched_execute close).bind fun rows rows' same => matched_pure ?_
  rw [same]

/-- Scripts that match do so as named steps. -/
theorem Matched.inStep {name : String} {script script' : Script S α}
    (matched : Matched near values script script') :
    Matched near values (inStep name script) (inStep name script') := by
  refine Alongside.bind matched fun result result' both => .done ?_
  match result, result', both with
  | .ok a, .ok a', both => exact both
  | .error e, .error e', _ => trivial

end Rules

/-- A script that sends nothing. -/
def Silent (script : Script S α) : Prop := ∃ result, script.run = .done result

/-- A value sends nothing. -/
theorem silent_pure (a : α) : Silent (S := S) (pure a) := ⟨_, rfl⟩

/-- A check sends nothing. -/
theorem silent_check (result : Except ServiceError α) : Silent (S := S) (check result) := ⟨_, rfl⟩

/-- Two silent scripts one after another are silent. -/
theorem Silent.bind {script : Script S α} {next : α → Script S β} (first : Silent script)
    (rest : ∀ a, Silent (next a)) : Silent (script >>= next) := by
  obtain ⟨result, first⟩ := first
  have after : (script >>= next).run = ExceptT.bindCont next result :=
    congrArg (Program.bind · (ExceptT.bindCont next)) first
  cases result with
  | ok a =>
    obtain ⟨result, rest⟩ := rest a
    exact ⟨result, after.trans rest⟩
  | error e => exact ⟨_, after⟩

/-- Silent scripts run side by side, whatever they come to. -/
theorem Silent.alongside {script script' : Script S α} (left : Silent script)
    (right : Silent script') : Alongside near (fun _ _ => True) script.run script'.run := by
  obtain ⟨_, left⟩ := left
  obtain ⟨_, right⟩ := right
  rw [left, right]
  exact .done trivial

end Alongside

end Sql

namespace Dialect

open Sql (Template Piece Failure Alongside Matched Likewise)

/-- The templates of the MariaDB dialect. -/
def MariaDb.templates : List Template := [
  [.fixed "SELECT 1 FROM information_schema.schemata WHERE schema_name = ? LIMIT 1"],
  [.fixed
    "SELECT 1 FROM information_schema.tables WHERE table_schema = ? AND table_name = ? LIMIT 1"],
  [.fixed "CREATE TABLE ", .hole '\x60', .fixed ("." ++ tableName ++
    " (binding_id VARCHAR(36), name VARCHAR(20), password VARCHAR(128))")],
  [.fixed "SELECT name, password FROM ", .hole '\x60',
    .fixed ("." ++ tableName ++ " WHERE binding_id = ? LIMIT 1")],
  [.fixed "SELECT name FROM ", .hole '\x60',
    .fixed ("." ++ tableName ++ " WHERE binding_id = ? LIMIT 1")],
  [.fixed "CREATE DATABASE ", .hole '\x60'],
  [.fixed "CREATE USER ", .hole '\'', .fixed ("@'%'" ++ " IDENTIFIED BY "), .hole '\''],
  [.fixed ("GRANT " ++ privileges ++ " ON "), .hole '\x60', .fixed ".* TO ", .hole '\'',
    .fixed "@'%'"],
  [.fixed "INSERT INTO ", .hole '\x60',
    .fixed ("." ++ tableName ++ " (binding_id, name, password) VALUES (?, ?, ?)")],
  [.fixed "DROP DATABASE ", .hole '\x60'],
  [.fixed "DELETE FROM ", .hole '\x60', .fixed ("." ++ tableName ++ " WHERE binding_id = ?")]]

/-- The templates of the PostgreSQL dialect. -/
def PostgreSql.templates : List Template := [
  [.fixed "SELECT 1 FROM pg_database WHERE datname = $1 LIMIT 1"],
  [.fixed
    "SELECT 1 FROM information_schema.tables WHERE table_catalog = $1 AND table_name = $2 LIMIT 1"],
  [.fixed ("CREATE TABLE " ++ tableName ++
    " (binding_id VARCHAR(36), name VARCHAR(20), password VARCHAR(128))")],
  [.fixed ("SELECT name, password FROM " ++ tableName ++ " WHERE binding_id = $1 LIMIT 1")],
  [.fixed ("SELECT name FROM " ++ tableName ++ " WHERE binding_id = $1 LIMIT 1")],
  [.fixed "CREATE ROLE ", .hole '"', .fixed " WITH PASSWORD ", .hole '\'', .fixed " LOGIN"],
  [.fixed "GRANT ", .hole '"', .fixed " TO ", .hole '"'],
  [.fixed "CREATE DATABASE ", .hole '"', .fixed " OWNER ", .hole '"'],
  [.fixed ("INSERT INTO " ++ tableName ++ " (binding_id, name, password) VALUES ($1, $2, $3)")],
  [.fixed "DROP DATABASE ", .hole '"'],
  [.fixed ("DELETE FROM " ++ tableName ++ " WHERE binding_id = $1")]]

/-- The templates of the dialect of an engine. -/
def templates : Engine → List Template
  | .mariaDb => MariaDb.templates
  | .postgreSql => PostgreSql.templates

open Sql (Word)

/-- The text of one of some templates, with these words in its holes. -/
theorem gives_of_getElem? {templates : List Template} {i : Nat} {template : Template}
    {text : String} (here : templates[i]? = some template) (words : List Word)
    (filled : template.fill (words.map (·.text)) = some text) :
    ∃ template ∈ templates, template.Gives text := by
  refine ⟨template, List.mem_of_getElem? here, words.map (·.text), ?_, filled⟩
  intro name there
  obtain ⟨word, -, rfl⟩ := List.mem_map.1 there
  exact word.isWord_text

section Fillings

variable (before between after : String) (quote quote' : Char) (w w' : Word)

/-- A fixed text without holes is itself. -/
theorem fill_fixed : Template.fill [.fixed before] [] = some before := by
  simp only [Template.fill, Option.map_some, String.append_empty]

/-- A fixed text with a hole at its end. -/
theorem fill_last :
    Template.fill [.fixed before, .hole quote] [w.text] = some (before ++ w.quoted quote) := by
  simp only [Template.fill, Option.map_some, String.append_empty, Word.quoted]

/-- Two fixed texts, each with a hole behind it. -/
theorem fill_two :
    Template.fill [.fixed before, .hole quote, .fixed between, .hole quote'] [w.text, w'.text] =
      some (before ++ w.quoted quote ++ between ++ w'.quoted quote') := by
  simp only [Template.fill, Option.map_some, String.append_empty, String.append_assoc, Word.quoted]

/-- Three fixed texts with two holes between them. -/
theorem fill_two_fixed :
    Template.fill [.fixed before, .hole quote, .fixed between, .hole quote', .fixed after]
        [w.text, w'.text] =
      some (before ++ w.quoted quote ++ between ++ w'.quoted quote' ++ after) := by
  simp only [Template.fill, Option.map_some, String.append_empty, String.append_assoc, Word.quoted]

/-- What stands around the table of a schema. -/
theorem MariaDb.fill_table (schema : Word) :
    Template.fill [.fixed before, .hole '\x60', .fixed ("." ++ tableName ++ after)] [schema.text] =
      some (before ++ table schema ++ after) := by
  simp only [Template.fill, Option.map_some, String.append_empty, String.append_assoc, table, name,
    Word.quoted]

end Fillings

/-- **Every text of MariaDB is that of a template.** -/
theorem MariaDb.exists_template (st : Statement) :
    ∃ template ∈ MariaDb.templates, template.Gives st.text := by
  cases st with
  | findDatabase database =>
    refine gives_of_getElem? (i := 0) rfl [] ?_
    exact fill_fixed _
  | findTable schema =>
    refine gives_of_getElem? (i := 1) rfl [] ?_
    exact fill_fixed _
  | createTable schema =>
    refine gives_of_getElem? (i := 2) rfl [schema] ?_
    exact fill_table _ _ schema
  | readBinding schema binding =>
    refine gives_of_getElem? (i := 3) rfl [schema] ?_
    exact fill_table _ _ schema
  | readUser schema binding =>
    refine gives_of_getElem? (i := 4) rfl [schema] ?_
    exact fill_table _ _ schema
  | createDatabase w =>
    refine gives_of_getElem? (i := 5) rfl [w] ?_
    exact fill_last _ _ w
  | createUser w password =>
    refine gives_of_getElem? (i := 6) rfl [w, password] ?_
    -- The parts of an account are not those of the template: the host stands with what follows it.
    delta Statement.text
    simp only [Template.fill, List.map, Option.map_some, account, Word.literal, Word.quoted,
      String.append_assoc, String.append_empty, -String.reduceAppend]
  | grant w =>
    refine gives_of_getElem? (i := 7) rfl [w, w] ?_
    delta Statement.text
    simp only [Template.fill, List.map, Option.map_some, name, account, Word.literal, Word.quoted,
      String.append_assoc, String.append_empty, -String.reduceAppend]
  | insertBinding schema binding username stored =>
    refine gives_of_getElem? (i := 8) rfl [schema] ?_
    exact fill_table _ _ schema
  | dropDatabase w =>
    refine gives_of_getElem? (i := 9) rfl [w] ?_
    exact fill_last _ _ w
  | deleteBinding schema binding =>
    refine gives_of_getElem? (i := 10) rfl [schema] ?_
    exact fill_table _ _ schema

/-- **Every text of PostgreSQL is that of a template.** -/
theorem PostgreSql.exists_template (st : Statement) :
    ∃ template ∈ PostgreSql.templates, template.Gives st.text := by
  cases st with
  | findDatabase database =>
    refine gives_of_getElem? (i := 0) rfl [] ?_
    exact fill_fixed _
  | findTable database =>
    refine gives_of_getElem? (i := 1) rfl [] ?_
    exact fill_fixed _
  | createTable =>
    refine gives_of_getElem? (i := 2) rfl [] ?_
    exact fill_fixed _
  | readBinding binding =>
    refine gives_of_getElem? (i := 3) rfl [] ?_
    exact fill_fixed _
  | readUser binding =>
    refine gives_of_getElem? (i := 4) rfl [] ?_
    exact fill_fixed _
  | createRole w password =>
    refine gives_of_getElem? (i := 5) rfl [w, password] ?_
    exact fill_two_fixed _ _ _ _ _ w password
  | grantRole w admin =>
    refine gives_of_getElem? (i := 6) rfl [w, admin] ?_
    exact fill_two _ _ _ _ w admin
  | createDatabase w =>
    refine gives_of_getElem? (i := 7) rfl [w, w] ?_
    exact fill_two _ _ _ _ w w
  | insertBinding binding username stored =>
    refine gives_of_getElem? (i := 8) rfl [] ?_
    exact fill_fixed _
  | dropDatabase w =>
    refine gives_of_getElem? (i := 9) rfl [w] ?_
    exact fill_last _ _ w
  | deleteBinding binding =>
    refine gives_of_getElem? (i := 10) rfl [] ?_
    exact fill_fixed _

/-- What a dialect sends for a call to a server that answers so: each text with its parameters. -/
def sent (engine : Engine) (call : Call) (answers : List (Except Failure (List Sql.Row))) :
    List (String × List String) :=
  match engine with
  | .mariaDb =>
    (Sql.statements (MariaDb.answer call) answers).map fun st => (st.text, st.parameters)
  | .postgreSql =>
    (Sql.statements (PostgreSql.answer call) answers).map fun st => (st.text, st.parameters)

/-- Two calls that differ in their binding, and where one is made in the nonce that its password is
sealed with.  With them goes what stands in the place of what. -/
inductive Rebound (engine : Engine) : Call → Call → List (String × String) → Prop
  | connect (c : Connection) : Rebound engine (.connect c) (.connect c) []
  | prepare (c : Connection) : Rebound engine (.prepare c) (.prepare c) []
  | hasTable (c : Connection) : Rebound engine (.hasTable c) (.hasTable c) []
  | read (c : Connection) (binding binding' : String) :
    Rebound engine (.read c binding) (.read c binding') [(binding, binding')]
  | readUser (c : Connection) (binding binding' : String) :
    Rebound engine (.readUser c binding) (.readUser c binding') [(binding, binding')]
  | create (c : Connection) (binding binding' : String) (draw : Draw) (nonce : GcmSiv.Nonce) :
    Rebound engine (.create c binding draw) (.create c binding' { draw with nonce })
      [(binding, binding'), (storedPassword engine c.salt draw.nonce draw.password.text,
        storedPassword engine c.salt nonce draw.password.text)]
  | delete (c : Connection) (binding binding' username : String) :
    Rebound engine (.delete c binding username) (.delete c binding' username)
      [(binding, binding')]

/-- The same, or one of some values for another. -/
def Stands (values : List (String × String)) (value value' : String) : Prop :=
  value = value' ∨ (value, value') ∈ values

/-- The same text, with parameters that are the same or stand for each other. -/
def Retold (values : List (String × String)) (sent sent' : String × List String) : Prop :=
  sent.1 = sent'.1 ∧ List.Forall₂ (Stands values) sent.2 sent'.2

section Retelling

variable {engine : Engine} {call call' : Call} {values : List (String × String)}

/-- What is sent again unchanged is told again. -/
theorem retold_self (values : List (String × String)) (sent : String × List String) :
    Retold values sent sent :=
  ⟨rfl, List.forall₂_same.2 fun _ _ => .inl rfl⟩

/-- The statements of MariaDB, told again. -/
def MariaDb.Again (values : List (String × String)) (st st' : Statement) : Prop :=
  Retold values (st.text, st.parameters) (st'.text, st'.parameters)

/-- The statements of PostgreSQL, told again. -/
def PostgreSql.Again (values : List (String × String)) (st st' : Statement) : Prop :=
  Retold values (st.text, st.parameters) (st'.text, st'.parameters)

section Parts

open Sql

variable {S : Type} {near : S → S → Prop}

/-- Dropping a database, where there is one, is the same on both sides. -/
theorem matched_drop (same : ∀ st, near st st) (find : S) (drop : Word → S) (username : String) :
    Matched near Eq
      (do if ← selectsAny find then perform (drop (← check (Word.ofText username))))
      (do if ← selectsAny find then perform (drop (← check (Word.ofText username)))) := by
  refine (matched_selectsAny (same find)).bind ?_
  rintro there _ rfl
  split_ifs
  · refine (matched_check _).bind ?_
    rintro w _ rfl
    exact matched_perform (same _)
  · exact matched_pure rfl

/-- Making sense of the row of a binding sends nothing. -/
theorem silent_record (engine : Engine) (salt binding : String) (rows : List Sql.Row) :
    Silent (S := S) (match rows with
      | [] => return none
      | row :: _ => do
        let username ← check (cell row 0)
        let stored ← check (cell row 1)
        let password ← check (loadedPassword engine salt stored)
        return some (⟨binding, username, password⟩ : BindingRecord)) := by
  cases rows with
  | nil => exact silent_pure _
  | cons row others =>
    refine (silent_check _).bind fun username => (silent_check _).bind fun stored => ?_
    exact (silent_check _).bind fun password => silent_pure _

/-- Reading a user of rows sends nothing. -/
theorem silent_user (rows : List Sql.Row) :
    Silent (S := S) (match rows with
      | [] => return none
      | row :: _ => do return some (← check (cell row 0))) := by
  cases rows with
  | nil => exact silent_pure _
  | cons row others => exact (silent_check _).bind fun username => silent_pure _

end Parts

/-- **Calls of MariaDB that differ in their binding send the same texts.** -/
theorem MariaDb.alongside (rebound : Rebound .mariaDb call call' values) :
    Alongside (MariaDb.Again values) (fun _ _ => True) (MariaDb.answer call)
      (MariaDb.answer call') := by
  have same (st : Statement) : MariaDb.Again values st st := retold_self _ _
  cases rebound with
  | connect c => exact (Sql.matched_connect c).loosely
  | prepare c =>
    refine (Sql.matched_selectsAny (same _)).andThen ?_
    rintro there _ rfl
    split_ifs
    · exact .done trivial
    · refine (Sql.matched_check _).andThen ?_
      rintro schema _ rfl
      exact (Sql.matched_perform (same _)).loosely
  | hasTable c => exact (Sql.matched_selectsAny (same _)).loosely
  | read c binding binding' =>
    refine (Sql.matched_check _).andThen ?_
    rintro schema _ rfl
    refine (Sql.matched_execute ?_).andThen fun rows rows' _ => ?_
    · exact ⟨rfl, .cons (.inr List.mem_cons_self) .nil⟩
    · exact (silent_record _ _ _ rows).alongside (silent_record _ _ _ rows')
  | readUser c binding binding' =>
    refine (Sql.matched_check _).andThen ?_
    rintro schema _ rfl
    refine (Sql.matched_execute ?_).andThen fun rows rows' _ => ?_
    · exact ⟨rfl, .cons (.inr List.mem_cons_self) .nil⟩
    · exact (silent_user rows).alongside (silent_user rows')
  | create c binding binding' draw nonce =>
    refine (Sql.matched_perform (same _)).inStep.andThen fun _ _ _ => ?_
    refine (Sql.matched_perform (same _)).inStep.andThen fun _ _ _ => ?_
    refine (Sql.matched_perform (same _)).inStep.andThen fun _ _ _ => ?_
    refine (Sql.matched_check _).andThen ?_
    rintro schema _ rfl
    refine (Sql.matched_perform ?_).inStep.andThen fun _ _ _ => .done trivial
    refine ⟨rfl, .cons (.inr ?_) (.cons (.inl rfl) (.cons (.inr ?_) .nil))⟩
    · exact List.mem_cons_self
    · exact List.mem_cons_of_mem _ List.mem_cons_self
  | delete c binding binding' username =>
    refine (matched_drop same _ _ username).inStep.andThen fun _ _ _ => ?_
    refine (Sql.matched_check _).andThen ?_
    rintro schema _ rfl
    refine (Sql.matched_perform ?_).inStep.loosely
    exact ⟨rfl, .cons (.inr List.mem_cons_self) .nil⟩

/-- **Calls of PostgreSQL that differ in their binding send the same texts.** -/
theorem PostgreSql.alongside (rebound : Rebound .postgreSql call call' values) :
    Alongside (PostgreSql.Again values) (fun _ _ => True) (PostgreSql.answer call)
      (PostgreSql.answer call') := by
  have same (st : Statement) : PostgreSql.Again values st st := retold_self _ _
  cases rebound with
  | connect c => exact (Sql.matched_connect c).loosely
  | prepare c =>
    refine (Sql.matched_selectsAny (same _)).andThen ?_
    rintro there _ rfl
    split_ifs
    · exact .done trivial
    · exact (Sql.matched_perform (same _)).loosely
  | hasTable c => exact (Sql.matched_selectsAny (same _)).loosely
  | read c binding binding' =>
    refine (Sql.matched_execute ?_).andThen fun rows rows' _ => ?_
    · exact ⟨rfl, .cons (.inr List.mem_cons_self) .nil⟩
    · exact (silent_record _ _ _ rows).alongside (silent_record _ _ _ rows')
  | readUser c binding binding' =>
    refine (Sql.matched_execute ?_).andThen fun rows rows' _ => ?_
    · exact ⟨rfl, .cons (.inr List.mem_cons_self) .nil⟩
    · exact (silent_user rows).alongside (silent_user rows')
  | create c binding binding' draw nonce =>
    refine (Sql.matched_check _).andThen ?_
    rintro admin _ rfl
    refine (Sql.matched_perform (same _)).inStep.andThen fun _ _ _ => ?_
    refine (Sql.matched_perform (same _)).inStep.andThen fun _ _ _ => ?_
    refine (Sql.matched_perform (same _)).inStep.andThen fun _ _ _ => ?_
    refine (Sql.matched_perform ?_).inStep.andThen fun _ _ _ => .done trivial
    refine ⟨rfl, .cons (.inr ?_) (.cons (.inl rfl) (.cons (.inr ?_) .nil))⟩
    · exact List.mem_cons_self
    · exact List.mem_cons_of_mem _ List.mem_cons_self
  | delete c binding binding' username =>
    refine (matched_drop same _ _ username).inStep.andThen fun _ _ _ => ?_
    refine (Sql.matched_perform ?_).inStep.loosely
    exact ⟨rfl, .cons (.inr List.mem_cons_self) .nil⟩

/-- What the calls send goes together as their statements do. -/
theorem retold_of_rebound (rebound : Rebound engine call call' values)
    {answers answers' : List (Except Failure (List Sql.Row))}
    (alike : List.Forall₂ Likewise answers answers') :
    List.Forall₂ (Retold values) (sent engine call answers) (sent engine call' answers') := by
  cases engine with
  | mariaDb =>
    rw [sent, sent, List.forall₂_map_left_iff, List.forall₂_map_right_iff]
    exact (MariaDb.alongside rebound).statements alike
  | postgreSql =>
    rw [sent, sent, List.forall₂_map_left_iff, List.forall₂_map_right_iff]
    exact (PostgreSql.alongside rebound).statements alike

/-- **Every text that a dialect sends is that of a template with words in its holes.** -/
theorem gives_of_sent {answers : List (Except Failure (List Sql.Row))} {text : String}
    {parameters : List String} (there : (text, parameters) ∈ sent engine call answers) :
    ∃ template ∈ templates engine, template.Gives text := by
  cases engine with
  | mariaDb =>
    obtain ⟨st, -, is⟩ := List.mem_map.1 there
    cases is
    exact MariaDb.exists_template st
  | postgreSql =>
    obtain ⟨st, -, is⟩ := List.mem_map.1 there
    cases is
    exact PostgreSql.exists_template st

end Retelling

/-- **Statements cannot be injected into.**  Whatever a call is about and whatever the server
answers, every text that is sent is that of a template of the dialect with words in its holes.
Calls that differ only in their binding and in the nonce for its password, to servers that refuse
the same statements and have rows for the same ones, whatever these hold, send the same texts: what
differs is bound as parameters, a binding for the other and a sealed password for the other. -/
theorem sent_of_templates (engine : Engine) :
    (∀ call answers text parameters, (text, parameters) ∈ sent engine call answers →
      ∃ template ∈ templates engine, template.Gives text) ∧
    ∀ call call' values, Rebound engine call call' values →
      ∀ answers answers', List.Forall₂ Likewise answers answers' →
        List.Forall₂ (Retold values) (sent engine call answers) (sent engine call' answers') :=
  ⟨fun _ _ _ _ there => gives_of_sent there,
    fun _ _ _ rebound _ _ alike => retold_of_rebound rebound alike⟩

/-- A binding whose name would close a quote, beside one with a plain name. -/
theorem sent_of_wild_binding :
    let c : Connection := ⟨.mariaDb, "10.0.0.2", 3306, "root", "root", "secret", "1"⟩
    let draw : Draw := ⟨.nth 20 0, .nth 30 0, .replicate 12 0⟩
    let wild := "x'; DROP DATABASE root; --"
    let sealed (nonce : GcmSiv.Nonce) := storedPassword .mariaDb "1" nonce draw.password.text
    let answers : List (Except Failure (List Sql.Row)) := [.ok [], .ok [], .ok [], .ok []]
    let plainly := sent .mariaDb (.create c "b" draw) answers
    let wildly := sent .mariaDb (.create c wild { draw with nonce := .replicate 12 1 }) answers
    plainly.length = 4 ∧
    (∀ x ∈ wildly, ∃ template ∈ templates .mariaDb, template.Gives x.1) ∧
    List.Forall₂
      (Retold [("b", wild), (sealed draw.nonce, sealed (.replicate 12 1))]) plainly wildly := by
  intro c draw wild sealed answers plainly wildly
  obtain ⟨gives, retold⟩ := sent_of_templates .mariaDb
  refine ⟨by decide +kernel, fun x there => gives _ _ x.1 x.2 there, ?_⟩
  exact retold _ _ _ (.create c "b" wild draw _) answers answers
    (List.forall₂_same.2 fun answer _ => Sql.likewise_self answer)

end Dialect

end ServiceBroker

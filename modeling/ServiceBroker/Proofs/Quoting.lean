/-
# Names between quotes

A name that stands in the text of a statement has to be a word, and what is no word is
refused when the statement is written (`ServiceError.invalidIdentifier`).  The names
that a broker generates are words.  The name of an administrator is one that the platform
chose, if it chose any, and parameters with any name are accepted
(`Parameters.parse_named`): so an instance can be ordered whose administrator cannot be
spoken of, and no binding is ever made on it.  `Dialect.quotable_iff` says which ones
these are.

How a script of statements may end, whatever the server answers, is read off its parts
(`Sql.Ends`).
-/

import ServiceBroker.Dialect.MariaDb
import ServiceBroker.Dialect.PostgreSql
import ServiceBroker.Handler.Database
import ServiceBroker.Proofs.Asking
import ServiceBroker.Provider.Memory

namespace ServiceBroker

/-- A name could not be quoted, in whatever step. -/
def ServiceError.isInvalidIdentifier : ServiceError → Bool
  | invalidIdentifier _ => true
  | step _ source => source.isInvalidIdentifier
  | instanceNotFound _ | bindingAlreadyExists _ | provider _ | database | sealing _ | internal _ =>
    false

namespace Sql

open Program (Asked Leads)

section Rules

variable {S α β : Type} {value : α → Prop} {fails : ServiceError → Prop}

/-- Whatever the server answers, the script has a value that `value` holds of or fails with an error
that `fails` holds of. -/
def Ends (value : α → Prop) (fails : ServiceError → Prop) (script : Script S α) : Prop :=
  ∀ asked answer, Leads script.run asked (.done answer) →
    match answer with
    | .ok a => value a
    | .error e => fails e

/-- A script that is done ends with its value. -/
theorem ends_pure {a : α} (holds : value a) : Ends (S := S) value fails (pure a) := by
  intro asked answer leads
  cases leads
  exact holds

/-- A check ends as its result says. -/
theorem ends_check {result : Except ServiceError α}
    (holds : match result with | .ok a => value a | .error e => fails e) :
    Ends (S := S) value fails (check result) := by
  intro asked answer leads
  cases leads
  exact holds

/-- Two scripts one after another, the second with any value that the first may have. -/
theorem Ends.bind {between : α → Prop} {after : β → Prop} {script : Script S α}
    {next : α → Script S β} (first : Ends between fails script)
    (rest : ∀ a, between a → Ends after fails (next a)) : Ends after fails (script >>= next) := by
  intro asked answer leads
  obtain ⟨call, further, -, unfinished⟩ | ⟨result, before, behind, -, done, leads⟩ :=
    Leads.of_bind leads
  · cases unfinished
  · have holds := first before result done
    cases result with
    | ok a => exact rest a holds behind answer leads
    | error e =>
      cases leads
      exact holds

/-- A statement that is executed ends with rows, or because the server refuses it. -/
theorem ends_execute (refused : fails .database) (statement : S) :
    Ends (fun _ => True) fails (execute statement) := by
  intro asked answer leads
  obtain ⟨rows, rest, -, leads⟩ := Leads.of_ask leads
  cases leads
  cases rows with
  | ok rows => trivial
  | error e => cases e; exact refused

/-- A statement that is performed ends, or the server refuses it. -/
theorem ends_perform (refused : fails .database) (statement : S) :
    Ends (fun _ => True) fails (perform statement) :=
  (ends_execute refused statement).bind fun _ _ => ends_pure trivial

/-- A question whether there are rows ends with an answer, or the server refuses it. -/
theorem ends_selectsAny (refused : fails .database) (statement : S) :
    Ends (fun _ => True) fails (selectsAny statement) :=
  (ends_execute refused statement).bind fun _ _ => ends_pure trivial

/-- A named step ends as the script does, its errors named. -/
theorem Ends.inStep {name : String} {script : Script S α}
    (h : Ends value (fun e => fails (.step name e)) script) :
    Ends value fails (inStep name script) := by
  intro asked answer leads
  obtain ⟨result, is, inner⟩ := Leads.of_map leads
  subst is
  have holds := h asked result inner
  cases result with
  | ok a => exact holds
  | error e => exact holds

end Rules

/-- A name of letters, digits and underscores is taken as a word. -/
theorem Word.ofText_of_isWord {name : String} (h : isWord name = true) :
    Word.ofText name = .ok ⟨name, h⟩ := by
  rw [Word.ofText, Word.ofText?, dif_pos h]

/-- Any other name is an invalid identifier. -/
theorem Word.ofText_of_not_isWord {name : String} (h : isWord name = false) :
    Word.ofText name = .error (.invalidIdentifier name) := by
  rw [Word.ofText, Word.ofText?, dif_neg (by simp [h])]

/-- A script that has to quote what is no word fails before the server is asked anything. -/
theorem check_ofText_bind {S α : Type} {name : String} (h : isWord name = false)
    (next : Word → Script S α) :
    (check (Word.ofText name) >>= next).run = .done (.error (.invalidIdentifier name)) := by
  rw [Word.ofText_of_not_isWord h]
  rfl

section Safe

variable {S α : Type}

/-- The script never fails because of a name, whatever the server answers. -/
abbrev Safe (script : Script S α) : Prop :=
  Ends (fun _ => True) (fun e => e.isInvalidIdentifier = false) script

/-- Making a word of a name that is one is safe. -/
theorem safe_word {name : String} (h : isWord name = true) :
    Safe (check (S := S) (Word.ofText name)) :=
  ends_check (by rw [Word.ofText_of_isWord h]; trivial)

/-- Making a word of another name is not safe, whatever comes after. -/
theorem not_safe_word_bind {name : String} (h : isWord name = false) (next : Word → Script S α) :
    ¬Safe (check (Word.ofText name) >>= next) := by
  intro safe
  have leads : Leads (check (Word.ofText name) >>= next).run []
      (.done (.error (.invalidIdentifier name))) := check_ofText_bind h next ▸ .start _
  have harmless : (ServiceError.invalidIdentifier name).isInvalidIdentifier = false :=
    safe [] _ leads
  cases harmless

/-- Reading a cell is safe. -/
theorem safe_cell (row : Row) (column : Nat) : Safe (check (S := S) (cell row column)) := by
  refine ends_check ?_
  unfold cell
  split <;> rename_i is <;> split at is <;> first | trivial | (cases is; rfl)

/-- Opening a password is safe. -/
theorem safe_loadedPassword (engine : Engine) (salt stored : String) :
    Safe (check (S := S) (Dialect.loadedPassword engine salt stored)) := by
  refine ends_check ?_
  unfold Dialect.loadedPassword
  cases engine with
  | mariaDb =>
    simp only [Engine.sealsPasswords, if_true]
    cases Sealing.openText salt stored with
    | ok password => trivial
    | error cause => rfl
  | postgreSql => trivial

/-- Executing a statement is safe. -/
theorem safe_execute (statement : S) : Safe (execute statement) := by
  apply ends_execute
  rfl

/-- Performing a statement is safe. -/
theorem safe_perform (statement : S) : Safe (perform statement) := by
  apply ends_perform
  rfl

/-- Asking whether there are rows is safe. -/
theorem safe_selectsAny (statement : S) : Safe (selectsAny statement) := by
  apply ends_selectsAny
  rfl

/-- A named step is as safe as the script. -/
theorem Safe.inStep {name : String} {script : Script S α} (h : Safe script) :
    Safe (inStep name script) := Ends.inStep h

/-- A statement that is a named step is safe. -/
theorem safe_step {name : String} (statement : S) : Safe (inStep name (perform statement)) :=
  Safe.inStep (safe_perform statement)

/-- A database whose name is a word is dropped under that name. -/
theorem safe_drop {username : String} (word : isWord username = true) (find : S) (drop : Word → S) :
    Safe (do if ← selectsAny find then perform (drop (← check (Word.ofText username)))) := by
  refine (safe_selectsAny find).bind fun there _ => ?_
  split_ifs
  · exact (safe_word word).bind fun w _ => safe_perform (drop w)
  · exact ends_pure trivial

end Safe

section Barred

variable {S α : Type}

/-- The script never has a value, whatever the server answers. -/
abbrev Barred (script : Script S α) : Prop := Ends (fun _ => False) (fun _ => True) script

/-- A script is barred if what comes after its first part is. -/
theorem Barred.behind {β : Type} (script : Script S α) {next : α → Script S β}
    (rest : ∀ a, Barred (next a)) : Barred (script >>= next) := by
  have any : Ends (fun _ => True) (fun _ => True) script := by
    intro asked answer _
    cases answer <;> trivial
  exact any.bind fun a _ => rest a

/-- A script is barred if its first part is. -/
theorem Barred.before {β : Type} {script : Script S α} (h : Barred script)
    (next : α → Script S β) : Barred (script >>= next) :=
  Ends.bind h fun _ never => never.elim

/-- Making a word of a name that is none bars a script. -/
theorem barred_word {name : String} (h : isWord name = false) :
    Barred (check (S := S) (Word.ofText name)) :=
  ends_check (by rw [Word.ofText_of_not_isWord h]; trivial)

end Barred

end Sql

namespace Dialect

open Program (Leads)
open Sql (Safe isWord)

/-- A call that never fails because of a name, whatever its server answers. -/
def Spared : Engine → Call → Prop
  | .mariaDb, call => Safe (ExceptT.mk (MariaDb.answer call))
  | .postgreSql, call => Safe (ExceptT.mk (PostgreSql.answer call))

/-- Bindings can be looked up, made and removed on a connection, as far as names go.  The user of a
binding to remove has a name that can be quoted. -/
structure Quotable (engine : Engine) (c : Connection) : Prop where
  prepare : Spared engine (.prepare c)
  read (binding : String) : Spared engine (.read c binding)
  readUser (binding : String) : Spared engine (.readUser c binding)
  create (binding : String) (draw : Draw) : Spared engine (.create c binding draw)
  delete (binding username : String) (word : isWord username = true) :
    Spared engine (.delete c binding username)

open Sql

variable {c : Connection}

/-- On MariaDB a connection whose user is a word can be used for bindings. -/
theorem MariaDb.quotable (word : isWord c.username = true) : Quotable .mariaDb c where
  prepare := by
    refine (safe_selectsAny _).bind fun there _ => ?_
    split_ifs
    · exact ends_pure trivial
    · exact (safe_word word).bind fun schema _ => safe_perform _
  read binding := by
    refine (safe_word word).bind fun schema _ => (safe_execute _).bind fun rows _ => ?_
    cases rows with
    | nil => exact ends_pure trivial
    | cons row rest =>
      refine (safe_cell row 0).bind fun username _ => (safe_cell row 1).bind fun stored _ => ?_
      exact (safe_loadedPassword _ _ _).bind fun password _ => ends_pure trivial
  readUser binding := by
    refine (safe_word word).bind fun schema _ => (safe_execute _).bind fun rows _ => ?_
    cases rows with
    | nil => exact ends_pure trivial
    | cons row rest => exact (safe_cell row 0).bind fun username _ => ends_pure trivial
  create binding draw := by
    refine (safe_step _).bind fun _ _ => (safe_step _).bind fun _ _ => ?_
    refine (safe_step _).bind fun _ _ => (safe_word word).bind fun schema _ => ?_
    exact (safe_step _).bind fun _ _ => ends_pure trivial
  delete binding username named := by
    refine (Safe.inStep (safe_drop named _ _)).bind fun _ _ => ?_
    exact (safe_word word).bind fun schema _ => safe_step _

/-- On PostgreSQL a connection whose user is a word can be used for bindings. -/
theorem PostgreSql.quotable (word : isWord c.username = true) : Quotable .postgreSql c where
  prepare := by
    refine (safe_selectsAny _).bind fun there _ => ?_
    split_ifs
    · exact ends_pure trivial
    · exact safe_perform _
  read binding := by
    refine (safe_execute _).bind fun rows _ => ?_
    cases rows with
    | nil => exact ends_pure trivial
    | cons row rest =>
      refine (safe_cell row 0).bind fun username _ => (safe_cell row 1).bind fun stored _ => ?_
      exact (safe_loadedPassword _ _ _).bind fun password _ => ends_pure trivial
  readUser binding := by
    refine (safe_execute _).bind fun rows _ => ?_
    cases rows with
    | nil => exact ends_pure trivial
    | cons row rest => exact (safe_cell row 0).bind fun username _ => ends_pure trivial
  create binding draw := by
    refine (safe_word word).bind fun admin _ => (safe_step _).bind fun _ _ => ?_
    refine (safe_step _).bind fun _ _ => (safe_step _).bind fun _ _ => ?_
    exact (safe_step _).bind fun _ _ => ends_pure trivial
  delete binding username named :=
    (Safe.inStep (safe_drop named _ _)).bind fun _ _ => safe_step _

/-- A connection whose user is a word can be used for bindings. -/
theorem quotable_of_isWord (engine : Engine) (word : isWord c.username = true) :
    Quotable engine c := by
  cases engine with
  | mariaDb => exact MariaDb.quotable word
  | postgreSql => exact PostgreSql.quotable word

/-- A call that has no value, whatever its server answers. -/
def Hopeless : Engine → Call → Prop
  | .mariaDb, call => Barred (ExceptT.mk (MariaDb.answer call))
  | .postgreSql, call => Barred (ExceptT.mk (PostgreSql.answer call))

/-- Both engines speak of the administrator when they make a binding. -/
theorem hopeless_create (engine : Engine) (wild : isWord c.username = false) (binding : String)
    (draw : Draw) : Hopeless engine (.create c binding draw) := by
  cases engine with
  | mariaDb =>
    exact Barred.behind _ fun _ => Barred.behind _ fun _ => Barred.behind _ fun _ =>
      (barred_word wild).before _
  | postgreSql => exact (barred_word wild).before _

/-- A connection whose user has a name that is no word is not quotable: with MariaDB no binding can
be looked up, with PostgreSQL none can be made. -/
theorem not_quotable (engine : Engine) (wild : isWord c.username = false) :
    ¬Quotable engine c := by
  intro quotable
  cases engine with
  | mariaDb => exact not_safe_word_bind wild _ (quotable.read "")
  | postgreSql =>
    let draw : Draw := ⟨.nth 20 0, .nth 30 0, .replicate 12 0⟩
    exact not_safe_word_bind wild _ (quotable.create "" draw)

end Dialect

namespace Parameters

/-- Parameters, perhaps with a name for the administrator. -/
def simple (username : Option String) : Parameters where
  switchId := 1
  ipAddress := ⟨10, 0, 0, 2⟩
  maskLength := 24
  defaultRoute := ⟨10, 0, 0, 1⟩
  username

/-- What a platform sends for parameters with a name for the administrator. -/
def named (username : String) : Json :=
  .object [("switchID", .integer 1), ("ipaddress", .string "10.0.0.2"), ("maskLen", .integer 24),
    ("defaultRoute", .string "10.0.0.1"), ("username", .string username)]

/-- Parameters with any name are accepted. -/
theorem parse_named {username : String} (given : username ≠ "") :
    parse (some (named username)) = .ok (simple (some username)) := by
  have members : readMembers [("switchID", .integer 1), ("ipaddress", .string "10.0.0.2"),
      ("maskLen", .integer 24), ("defaultRoute", .string "10.0.0.1"),
      ("username", .string username)] =
      .ok ⟨1, "10.0.0.2", 24, "10.0.0.1", username, 0, "", []⟩ := by rfl
  have first : Ipv4.parse? "10.0.0.2" = some ⟨10, 0, 0, 2⟩ := by decide +kernel
  have second : Ipv4.parse? "10.0.0.1" = some ⟨10, 0, 0, 1⟩ := by decide +kernel
  have checked : ofRaw ⟨1, "10.0.0.2", 24, "10.0.0.1", username, 0, "", []⟩ =
      .ok (simple (some username)) := by
    simp only [ofRaw, readAddress, first, second, nonEmpty, given, if_false]
    rfl
  show (do let raw ← (readMembers _).mapError ParameterError.malformed; ofRaw raw) = _
  rw [members]
  exact checked

end Parameters

namespace Dialect

open Sql (isWord)

variable {a : Appliance} {admin : Connection}

/-- The administrator of an appliance has the name that the appliance has for it. -/
theorem username_of_administrator {h : DatabaseHandler} (reached : h.administrator a = .ok admin) :
    admin.username = a.defaultUser := by
  obtain ⟨address, -, rfl⟩ := DatabaseHandler.administrator_eq_ok_iff.1 reached
  rfl

/-- The names that a broker generates can be quoted. -/
theorem isWord_record (draw : Draw) (binding : String) :
    isWord (draw.record binding).username = true ∧ isWord (draw.record binding).password = true :=
  ⟨(Sql.Word.ofLetters draw.username).isWord_text, (Sql.Word.ofLetters draw.password).isWord_text⟩

/-- **Which instances can be bound, as far as names go**: those for whose administrator the platform
chose no name or one that is a word.  On every other instance that it ordered no binding is ever
made.  The names of bindings can always be quoted. -/
theorem quotable_iff (h : DatabaseHandler) (name : String) (p : Parameters) (draw : Backend.Draw)
    (ordered : a.defaultUser = (h.order name p draw).defaultUser)
    (reached : h.administrator a = .ok admin) :
    (Quotable h.engine admin ↔ ∀ username, p.username = some username → isWord username = true) ∧
    (¬Quotable h.engine admin → ∀ binding draw, Hopeless h.engine (.create admin binding draw)) ∧
    ∀ (draw : Draw) binding, isWord (draw.record binding).username = true ∧
      isWord (draw.record binding).password = true := by
  have is : admin.username = p.username.getD draw.username.text := by
    rw [username_of_administrator reached, ordered]
    rfl
  have words : isWord admin.username = true ↔
      ∀ username, p.username = some username → isWord username = true := by
    rw [is]
    cases chosen : p.username with
    | none => exact iff_of_true (Sql.Word.ofLetters draw.username).isWord_text (by simp)
    | some username => simp
  refine ⟨?_, ?_, isWord_record⟩
  · rw [← words]
    constructor
    · intro quotable
      by_contra wild
      exact not_quotable h.engine (by simpa using wild) quotable
    · exact quotable_of_isWord h.engine
  · intro unquotable binding draw
    have wild : isWord admin.username = false := by
      by_contra word
      exact unquotable (quotable_of_isWord h.engine (by simpa using word))
    exact hopeless_create h.engine wild binding draw

/-- The appliance that a new provider has for an order with these parameters. -/
def ordered (engine : Engine) (p : Parameters) : Appliance :=
  (Provider.Memory.create .instant (DatabaseHandler.order ⟨engine, 10⟩ "a" p
    ⟨.nth 10 0, .nth 20 0⟩) {}).1

/-- How the appliance is reached. -/
def reached (engine : Engine) (p : Parameters) : Connection where
  engine
  host := p.ipAddress.text
  rawPort := (ordered engine p).port
  database := (ordered engine p).defaultUser
  username := (ordered engine p).defaultUser
  password := (ordered engine p).userPassword
  salt := (ordered engine p).id.text

/-- An instance whose administrator has a generated name. -/
theorem quotable_of_generated : Quotable .mariaDb (reached .mariaDb (.simple none)) := by
  have ordered_by : (ordered .mariaDb (.simple none)).defaultUser =
      (DatabaseHandler.order ⟨.mariaDb, 10⟩ "a" (.simple none)
        ⟨.nth 10 0, .nth 20 0⟩).defaultUser := rfl
  have reached_by : DatabaseHandler.administrator ⟨.mariaDb, 10⟩ (ordered .mariaDb (.simple none)) =
      .ok (reached .mariaDb (.simple none)) := rfl
  refine (quotable_iff ⟨.mariaDb, 10⟩ "a" (.simple none) _ ordered_by reached_by).1.mpr ?_
  intro username chosen
  cases chosen

/-- **Parameters whose administrator cannot be spoken of are accepted**: an instance is ordered for
them, with either engine, on which nothing can be bound. -/
theorem unquotable_accepted :
    Parameters.parse (some (Parameters.named "my-user")) = .ok (.simple (some "my-user")) ∧
      ∀ engine, DatabaseHandler.administrator ⟨engine, 10⟩
          (ordered engine (.simple (some "my-user"))) =
            .ok (reached engine (.simple (some "my-user"))) ∧
        ¬Quotable engine (reached engine (.simple (some "my-user"))) ∧
        ∀ binding draw,
          Hopeless engine (.create (reached engine (.simple (some "my-user"))) binding draw) := by
  have wild : isWord "my-user" = false := by decide +kernel
  refine ⟨Parameters.parse_named (by decide), fun engine => ⟨rfl, ?_, ?_⟩⟩
  · exact not_quotable engine wild
  · exact hopeless_create engine wild

end Dialect
end ServiceBroker

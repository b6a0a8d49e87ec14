/-
# A URI is taken apart again

The URI of a binding is strung together without escaping anything (`Connection.uri`).  Read with
no knowledge of what went into it, cut at its separators one after another (`Uri.takeApart?`), it
has one reading still: no part holds a separator at which it could be cut too early or too late.
A scheme has no colon; a user, whose name is also that of the database, is all letters; and what
comes behind the password, of letters, digits and dots, has no further `@`.  The password may
consist of anything.
-/

import ServiceBroker.Handler.Database

namespace ServiceBroker
namespace Uri

/-- What stands before and behind the first place at which a separator begins. -/
def cutFirst? (separator : List Char) : List Char → Option (List Char × List Char)
  | [] => none
  | c :: rest =>
    if separator.isPrefixOf (c :: rest) then some ([], (c :: rest).drop separator.length)
    else (cutFirst? separator rest).map fun (before, behind) => (c :: before, behind)

/-- What stands before and behind the last place with a character. -/
def cutLast? (c : Char) (text : List Char) : Option (List Char × List Char) :=
  (cutFirst? [c] text.reverse).map fun (behind, before) => (before.reverse, behind.reverse)

/-- The parts of a URI. -/
structure Parts where
  scheme : String
  username : String
  password : String
  host : String
  port : String
  database : String
  /-- What is asked for behind the database, if anything. -/
  options : Option String
deriving DecidableEq, Repr

/-- A path as it stands before the first `?`, and what stands behind it, if anything does. -/
def cutOptions (path : List Char) : List Char × Option (List Char) :=
  match cutFirst? ['?'] path with
  | some (database, options) => (database, some options)
  | none => (path, none)

/-- A URI cut at the first `://`, the last `@`, the first `:` before it, the first `/` behind it,
the first `?` behind that, and the last `:` of the address. -/
def takeApart? (uri : String) : Option Parts := do
  let (scheme, rest) ← cutFirst? "://".toList uri.toList
  let (user, place) ← cutLast? '@' rest
  let (username, password) ← cutFirst? [':'] user
  let (address, path) ← cutFirst? ['/'] place
  let (database, options) := cutOptions path
  let (host, port) ← cutLast? ':' address
  return {
    scheme := .ofList scheme, username := .ofList username, password := .ofList password
    host := .ofList host, port := .ofList port, database := .ofList database
    options := options.map .ofList }

section Cuts

variable {c : Char} {before behind text : List Char}

/-- A text is cut at a separator if nothing before it has the separator's first character. -/
theorem cutFirst?_append (free : c ∉ before) (separator : List Char) :
    cutFirst? (c :: separator) (before ++ c :: (separator ++ behind)) = some (before, behind) := by
  induction before with
  | nil => simp [cutFirst?]
  | cons d before ih =>
    obtain ⟨other, free⟩ := List.ne_and_not_mem_of_not_mem_cons free
    have differs : (c == d) = false := beq_false_of_ne other
    simp only [List.cons_append, cutFirst?, List.isPrefixOf, differs, Bool.false_and,
      Bool.false_eq_true, if_false, ih free, Option.map_some]

/-- A text without a separator's first character is not cut. -/
theorem cutFirst?_eq_none (free : c ∉ text) (separator : List Char) :
    cutFirst? (c :: separator) text = none := by
  induction text with
  | nil => rfl
  | cons d rest ih =>
    obtain ⟨other, free⟩ := List.ne_and_not_mem_of_not_mem_cons free
    have differs : (c == d) = false := beq_false_of_ne other
    simp [cutFirst?, List.isPrefixOf, differs, ih free]

/-- A text is cut at a character that does not come again. -/
theorem cutLast?_append (free : c ∉ behind) :
    cutLast? c (before ++ c :: behind) = some (before, behind) := by
  have back : (before ++ c :: behind).reverse = behind.reverse ++ c :: ([] ++ before.reverse) := by
    simp
  rw [cutLast?, back, cutFirst?_append (by simpa using free)]
  simp

end Cuts

/-! ### The parts of a connection -/

/-- What the URI of an engine asks for behind the database. -/
def options? : Engine → Option String
  | .mariaDb => none
  | .postgreSql => some "sslmode=disable"

/-- The user and the password in a URI. -/
def login (c : Connection) : List Char := c.username.toList ++ ':' :: c.password.toList

/-- The host and the port in a URI. -/
def address (c : Connection) : List Char := c.host.toList ++ ':' :: c.portText.toList

/-- The database in a URI, with what is asked for behind it. -/
def path (c : Connection) : List Char :=
  c.database.toList ++ (Connection.options c.engine).toList

/-- A URI, character by character. -/
theorem toList_uri (c : Connection) :
    c.uri.toList = (Connection.scheme c.engine).toList ++ ':' :: (['/', '/'] ++
      (login c ++ '@' :: (address c ++ '/' :: path c))) := by
  simp [Connection.uri, login, address, path]

/-- A character of another kind is not among these. -/
theorem not_mem_of_all {c : Char} {text : List Char} {p : Char → Bool}
    (all : text.all p = true) (other : p c = false) : c ∉ text := by
  intro there
  rw [List.all_eq_true.mp all c there] at other
  cases other

/-- A port is written in digits. -/
theorem all_isDigit_portText (c : Connection) : c.portText.toList.all Char.isDigit = true := by
  rw [Connection.portText, Nat.toString_eq_repr, Nat.toList_repr, List.all_eq_true]
  intro d there
  exact Nat.isDigit_of_mem_toDigits (by decide) (by decide) there

/-- A character of an IPv4 address. -/
def isDotted (c : Char) : Bool := c.isDigit || c = '.'

/-- An address is written in digits and dots. -/
theorem all_isDotted_text (address : Ipv4) : address.text.toList.all isDotted = true := by
  have octet (b : UInt8) : (Ipv4.octetDigits b).all isDotted = true := by
    rw [List.all_eq_true]
    intro c there
    have digit : c.isDigit = true := Nat.isDigit_of_mem_toDigits (by decide) (by decide) there
    rw [isDotted, digit, Bool.true_or]
  have dot : isDotted '.' = true := by decide
  simp only [Ipv4.text, String.toList_ofList, List.all_append, List.all_cons, octet, dot,
    Bool.and_true]

section Connections

variable {c : Connection} (user : c.username.toList.all Char.isAlpha = true)
  (database : c.database.toList.all Char.isAlpha = true)
  (host : c.host.toList.all isDotted = true)

include host in
/-- A character that is neither of an address nor a colon is not in host and port. -/
theorem not_mem_address {d : Char} (odd : isDotted d = false) (other : d ≠ ':') :
    d ∉ address c := by
  have digits : d ∉ c.portText.toList := by
    refine not_mem_of_all (all_isDigit_portText c) ?_
    rw [isDotted, Bool.or_eq_false_iff] at odd
    exact odd.1
  rw [address, List.mem_append, List.mem_cons]
  simp only [not_mem_of_all host odd, other, digits, or_self, not_false_eq_true]

include database in
/-- A character that is neither a letter nor of the options is not in the path. -/
theorem not_mem_path {d : Char} (odd : d.isAlpha = false)
    (other : d ∉ (Connection.options c.engine).toList) : d ∉ path c := by
  rw [path, List.mem_append]
  simp only [not_mem_of_all database odd, other, or_self, not_false_eq_true]

include database in
/-- The path is cut into the database and the options. -/
theorem cutOptions_path :
    cutOptions (path c) = (c.database.toList, (options? c.engine).map String.toList) := by
  have free : '?' ∉ c.database.toList := not_mem_of_all database (by decide)
  rw [cutOptions]
  cases engine : c.engine with
  | mariaDb =>
    have bare : path c = c.database.toList := by simp [path, engine, Connection.options]
    rw [bare, cutFirst?_eq_none free]
    rfl
  | postgreSql =>
    have asking : path c = c.database.toList ++ '?' :: ([] ++ "sslmode=disable".toList) := by
      simp [path, engine, Connection.options]
    rw [asking, cutFirst?_append free]
    rfl

include user database host in
/-- **A URI has the parts that went into it** if its user and its database are letters and its host
is an address. -/
theorem takeApart?_uri :
    takeApart? c.uri = some {
      scheme := Connection.scheme c.engine, username := c.username, password := c.password
      host := c.host, port := c.portText, database := c.database
      options := options? c.engine } := by
  have schemed : cutFirst? "://".toList c.uri.toList = some ((Connection.scheme c.engine).toList,
      login c ++ '@' :: (address c ++ '/' :: path c)) := by
    rw [toList_uri]
    exact cutFirst?_append (by cases c.engine <;> decide) ['/', '/']
  have placed : cutLast? '@' (login c ++ '@' :: (address c ++ '/' :: path c)) =
      some (login c, address c ++ '/' :: path c) := by
    apply cutLast?_append
    have asked : '@' ∉ (Connection.options c.engine).toList := by cases c.engine <;> decide
    simp [not_mem_address host (d := '@') (by decide) (by decide),
      not_mem_path database (d := '@') (by decide) asked]
  have named : cutFirst? [':'] (login c) = some (c.username.toList, c.password.toList) :=
    cutFirst?_append (not_mem_of_all user (by decide)) []
  have addressed : cutFirst? ['/'] (address c ++ '/' :: path c) = some (address c, path c) :=
    cutFirst?_append (not_mem_address host (by decide) (by decide)) []
  have ported : cutLast? ':' (address c) = some (c.host.toList, c.portText.toList) :=
    cutLast?_append (not_mem_of_all (all_isDigit_portText c) (by decide))
  simp only [takeApart?, schemed, placed, named, addressed, ported, cutOptions_path database,
    Option.bind_eq_bind, Option.bind_some, Option.map_map, String.ofList_toList, Option.pure_def]
  cases c.engine <;> rfl

end Connections

end Uri

/-- **The URI of a binding can be taken apart again.**  Of every appliance with an address the
handler of either engine makes credentials for a binding whose user is a word of letters.  Cut at
its separators, their URI gives back what the other members say: the user, the password, the host,
the port and the database, under the scheme of the engine.  The port is the one that the appliance
reports, in decimal, and that of the engine where it reports none. -/
theorem DatabaseHandler.takeApart?_credentials (h : DatabaseHandler) (a : Appliance)
    (address : Ipv4) (addressed : a.ipAddress = some address) (record : BindingRecord)
    (letters : record.username.toList.all Char.isAlpha = true) :
    ∃ admin, h.administrator a = .ok admin ∧
      let given := credentials admin record
      Uri.takeApart? given.uri = some {
        scheme := match h.engine with
          | .mariaDb => "mysql"
          | .postgreSql => "postgres"
        username := given.username
        password := given.password
        host := given.host
        port := given.port
        database := given.database
        options := Uri.options? h.engine } ∧
      given.username = record.username ∧ given.password = record.password ∧
      given.database = record.username ∧ given.host = address.text ∧
      given.port =
        toString (if a.port = 0 then h.engine.defaultPort else a.port).toNat := by
  obtain ⟨admin, reached, is⟩ : ∃ admin, h.administrator a = .ok admin ∧ admin =
      ⟨h.engine, address.text, a.port, a.defaultUser, a.defaultUser, a.userPassword, a.id.text⟩ :=
    ⟨_, administrator_eq_ok_iff.2 ⟨address, addressed, rfl⟩, rfl⟩
  have port : admin.port = if a.port = 0 then h.engine.defaultPort else a.port := by
    rw [is, Connection.port]
    by_cases unset : a.port = 0
    · rw [if_neg (by simp [unset]), if_pos unset]
    · rw [if_pos (UInt16.pos_iff_ne_zero.mpr unset), if_neg unset]
  have scheme : Connection.scheme admin.engine = match h.engine with
      | .mariaDb => "mysql"
      | .postgreSql => "postgres" := by
    rw [is]
    cases h.engine <;> rfl
  have options : Uri.options? admin.engine = Uri.options? h.engine := by rw [is]
  have dotted : admin.host.toList.all Uri.isDotted = true := by
    rw [is]
    exact Uri.all_isDotted_text address
  have apart := Uri.takeApart?_uri
    (c := admin.forUser record.username record.username record.password) letters letters dotted
  refine ⟨admin, reached, ?_, rfl, rfl, rfl, ?_, ?_⟩
  · rw [← scheme, ← options]
    exact apart
  · rw [is]
    rfl
  · rw [← port]
    rfl

/-- A new binding on PostgreSQL at an appliance that reports no port. -/
theorem takenApart_with_default_port :
    let a : Appliance := {
      id := 1, name := "a", engine := .postgreSql, planSize := 10, instanceStatus := "up"
      availability := "available", switchId := 1, ipAddress := some ⟨10, 0, 0, 2⟩
      maskLength := 24, defaultRoute := some ⟨10, 0, 0, 1⟩, port := 0, defaultUser := "root"
      userPassword := "secret", tags := [] }
    let draw : Dialect.Draw := ⟨.nth 20 0, .nth 30 0, .replicate 12 0⟩
    ∃ admin, DatabaseHandler.administrator ⟨.postgreSql, 10⟩ a = .ok admin ∧
      Uri.takeApart? (DatabaseHandler.credentials admin (draw.record "b")).uri = some {
        scheme := "postgres"
        username := "aaaaaaaaaaaaaaaaaaaa"
        password := "aaaaaaaaaaaaaaaaaaaaaaaaaaaaaa"
        host := "10.0.0.2"
        port := "5432"
        database := "aaaaaaaaaaaaaaaaaaaa"
        options := some "sslmode=disable" } := by
  intro a draw
  obtain ⟨admin, reached, apart, user, password, database, host, port⟩ :=
    DatabaseHandler.takeApart?_credentials ⟨.postgreSql, 10⟩ a ⟨10, 0, 0, 2⟩ rfl
      (draw.record "b") draw.username.all_letters
  refine ⟨admin, reached, ?_⟩
  rw [apart, user, password, database, host, port]
  decide +kernel

end ServiceBroker

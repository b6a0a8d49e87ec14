/-
# Bindings in memory and on a SQL server

A server in memory keeps its rows by binding, a SQL server a table that may hold any rows.
What a handler does to either comes to the same: while one is the mirror of the other
(`Dialect.Mirrors`), every call of the dialect that the handler makes is answered alike and
leaves them so.
-/

import ServiceBroker.Proofs.Rows
import ServiceBroker.Proofs.SqlServer

namespace ServiceBroker
namespace Dialect

open Sql (Host Entry)

/-- A row in memory as one of a table. -/
def entry (row : String × Row) : Entry := ⟨row.1, row.2.username, row.2.stored⟩

/-- The entry of a binding is found where its row is. -/
theorem find?_entry (entries : List (String × Row)) (binding : String) :
    (entries.map entry).find? (·.binding = binding) =
      (entries.lookup binding).map fun row => entry (binding, row) := by
  induction entries with
  | nil => rfl
  | cons e rest ih =>
    obtain ⟨k, row⟩ := e
    by_cases h : k = binding
    · subst h
      simp [entry]
    · have differs : (binding == k) = false := beq_eq_false_iff_ne.2 (Ne.symm h)
      simp only [List.map_cons, List.lookup_cons, differs]
      rw [List.find?_cons_of_neg (by simp [entry, h]), ih]

/-- The entries without a binding are those of the rows without it. -/
theorem filter_entry (entries : List (String × Row)) (binding : String) :
    (entries.map entry).filter (·.binding ≠ binding) =
      (entries.filter fun e => e.1 ≠ binding).map entry :=
  List.filter_map

/-- In a table in memory a binding has one row at most. -/
theorem filter_key {κ α : Type} [DecidableEq κ] (t : Table κ α) (key : κ) :
    t.entries.filter (fun e => e.1 = key) = (t.get? key).toList.map fun value => (key, value) := by
  obtain ⟨entries, nodup⟩ := t
  show entries.filter _ = (entries.lookup key).toList.map _
  induction entries with
  | nil => rfl
  | cons e rest ih =>
    obtain ⟨k, v⟩ := e
    obtain ⟨once, nodup⟩ := List.nodup_cons.1 nodup
    by_cases h : k = key
    · subst h
      have gone : rest.filter (fun e => e.1 = k) = [] := by
        refine List.filter_eq_nil_iff.2 fun e he same => once ?_
        obtain rfl : e.1 = k := of_decide_eq_true same
        have here : e.1 ∈ rest.map Prod.fst := List.mem_map_of_mem he
        exact here
      rw [List.filter_cons_of_pos (by simp), gone]
      simp
    · have differs : (key == k) = false := beq_eq_false_iff_ne.2 (Ne.symm h)
      rw [List.filter_cons_of_neg (by simpa using h), List.lookup_cons, differs, ih nodup]

/-- A row for a user whose name can be quoted and is none of the databases that were there before,
with a password that opens. -/
structure Row.Usable (engine : Engine) (salt : String) (base : List String) (row : Row) : Prop where
  word : Sql.isWord row.username = true
  apart : row.username ∉ base
  opens : ∃ password, loadedPassword engine salt row.stored = .ok password

/-- A SQL server keeps what a server in memory does: its table has the same rows in the home of the
administrator, and its databases are those that were there before and those of the bindings. -/
structure Mirrors (engine : Engine) (base : List String) (c : Connection) (m : Server)
    (host : Host) : Prop where
  account : host.accounts.get? c.username = some c.password
  home : ∃ owner, host.databases.get? c.database =
    some ⟨owner, m.bindings.map fun t => t.entries.map entry⟩
  keys : host.databases.keys = base ++ m.databases
  mine : c.database ∈ base
  users : ∀ t, m.bindings = some t → ∀ e ∈ t.entries, Row.Usable engine c.salt base e.2
  /-- The administrator may drop the databases of bindings. -/
  owned : ∀ n ∈ m.databases, ∀ d, host.databases.get? n = some d → host.HasRole c.username d.owner

/-- **The same bindings in memory and on a SQL server**: there is a table on both sides or on
neither, a binding has one row in either or none, for the same user and with the same password once
opened, and the databases are those that were there before and those of the bindings. -/
structure SameBindings (engine : Engine) (base : List String) (c : Connection) (m : Server)
    (host : Host) : Prop where
  table : (host.table? c.database).isSome = m.bindings.isSome
  rows : ∀ entries, host.table? c.database = some entries → ∀ binding,
    (entries.filter (·.binding = binding)).map (fun e =>
        (e.username, loadedPassword engine c.salt e.stored)) =
      (m.bindings.bind (·.get? binding)).toList.map fun row =>
        (row.username, loadedPassword engine c.salt row.stored)
  opens : ∀ binding row, m.bindings.bind (·.get? binding) = some row →
    ∃ password, loadedPassword engine c.salt row.stored = .ok password
  databases : host.databases.keys = base ++ m.databases

namespace Mirrors

variable {engine : Engine} {base : List String} {c : Connection} {m : Server} {s : Servers}
  {host : Host}

/-- Both have a table or neither has. -/
theorem table?_eq (h : Mirrors engine base c m host) :
    host.table? c.database = m.bindings.map fun t => t.entries.map entry := by
  obtain ⟨owner, home⟩ := h.home
  exact Dialect.table?_eq home

/-- What is there under a binding is a row of the table. -/
theorem usable (h : Mirrors engine base c m host) {binding : String} {row : Row}
    (there : m.bindings.bind (·.get? binding) = some row) : Row.Usable engine c.salt base row := by
  obtain ⟨t, ht, found⟩ := Option.bind_eq_some_iff.1 there
  have first : (binding, row) ∈ t.entries.filter (fun e => e.1 = binding) := by
    rw [filter_key, found]
    exact List.mem_singleton_self _
  exact h.users t ht _ (List.mem_filter.1 first).1

/-- A server that mirrors the memory has the same bindings. -/
theorem sameBindings (h : Mirrors engine base c m host) :
    SameBindings engine base c m host where
  table := by rw [h.table?_eq, Option.isSome_map]
  rows := by
    intro entries there binding
    rw [h.table?_eq] at there
    obtain ⟨t, ht, rfl⟩ := Option.map_eq_some_iff.1 there
    have kept : (t.entries.map entry).filter (·.binding = binding) =
        (t.entries.filter fun e => e.1 = binding).map entry := List.filter_map
    rw [kept, filter_key, ht, Option.bind_some, List.map_map, List.map_map]
    rfl
  opens := fun _ _ there => (h.usable there).opens
  databases := h.keys

/-- Before there are bindings the server has the home of its administrator. -/
theorem empty {owner : String} (account : host.accounts.get? c.username = some c.password)
    (home : host.databases.get? c.database = some { owner }) :
    Mirrors engine host.databases.keys c {} host where
  account := account
  home := ⟨owner, home⟩
  keys := (List.append_nil _).symm
  mine := Table.mem_keys_of_get? home
  users := fun _ none => absurd none.symm (Option.some_ne_none _)
  owned := List.forall_mem_nil _

/-- The administrator is connected on either side. -/
theorem connect (h : Mirrors engine base c (s.server c.salt) host)
    (reachable : s.unreachable = false) (home : c.database = c.username)
    (word : Sql.isWord c.username = true) :
    ∃ servers host', Servers.answer engine (.connect c) s = (.ok (), servers) ∧
      (answerOn engine (.connect c)).run host = (.ok (), host') ∧ Reached c host' ∧
      Mirrors engine base c (servers.server c.salt) host' ∧
      host'.accounts = host.accounts ∧ host'.databases = host.databases := by
  obtain ⟨owner, there⟩ := h.home
  refine ⟨_, _, Servers.answer_connect engine s c reachable,
    (carried engine).connect h.account (Option.isSome_of_eq_some there), ⟨rfl, home, word⟩,
    ?_, rfl, rfl⟩
  rw [Servers.server_setServer, if_pos rfl]
  exact ⟨h.account, h.home, h.keys, h.mine, h.users, h.owned⟩

/-- The table is found on both sides or on neither. -/
theorem hasTable (h : Mirrors engine base c (s.server c.salt) host) (reached : Reached c host) :
    (answerOn engine (.hasTable c)).run host =
      (.ok (s.server c.salt).bindings.isSome, host) := by
  rw [(carried engine).hasTable reached, h.table?_eq, Option.isSome_map]

/-- A row is read alike. -/
theorem read (h : Mirrors engine base c (s.server c.salt) host) (reached : Reached c host)
    (table : (s.server c.salt).bindings.isSome) (binding : String) :
    (answerOn engine (.read c binding)).run host = (s.recorded engine c binding, host) := by
  obtain ⟨t, ht⟩ := Option.isSome_iff_exists.1 table
  have there : host.table? c.database = some (t.entries.map entry) := by
    rw [h.table?_eq, ht, Option.map_some]
  have row : s.row? c.salt binding = t.entries.lookup binding := by
    rw [Servers.row?, ht]
    rfl
  rw [(carried engine).read reached there, recordIn, find?_entry]
  cases found : t.entries.lookup binding with
  | none => rw [Servers.recorded_of_none engine s c (row.trans found)]; rfl
  | some r => rw [Servers.recorded_of_some engine s c (row.trans found)]; rfl

/-- The user of a binding is read alike. -/
theorem readUser (h : Mirrors engine base c (s.server c.salt) host) (reached : Reached c host)
    (table : (s.server c.salt).bindings.isSome) (binding : String) :
    (answerOn engine (.readUser c binding)).run host =
      (.ok ((s.row? c.salt binding).map (·.username)), host) := by
  obtain ⟨t, ht⟩ := Option.isSome_iff_exists.1 table
  have there : host.table? c.database = some (t.entries.map entry) := by
    rw [h.table?_eq, ht, Option.map_some]
  have row : s.row? c.salt binding = t.entries.lookup binding := by
    rw [Servers.row?, ht]
    rfl
  rw [(carried engine).readUser reached there, find?_entry, row, Option.map_map]
  rfl

/-- Another table on both sides. -/
theorem withTable (h : Mirrors engine base c m host) {d : Sql.Database}
    (home : host.databases.get? c.database = some d) {t : Table String Row}
    (users : ∀ e ∈ t.entries, Row.Usable engine c.salt base e.2) :
    Mirrors engine base c { m with bindings := some t }
      (host.withTable c.database d (t.entries.map entry)) where
  account := h.account
  home := ⟨d.owner, Table.get?_put_self _ _ _⟩
  keys := (Table.keys_put_of_mem _ (Table.mem_keys_of_get? home)).trans h.keys
  mine := h.mine
  users := by
    rintro t ⟨⟩
    exact users
  owned := by
    intro n hn d' hd'
    have other : n ≠ c.database := by
      rintro rfl
      have nodup : (base ++ m.databases).Nodup := by
        rw [← h.keys]
        exact host.databases.keys_nodup
      exact (List.nodup_append.1 nodup).2.2 _ h.mine _ hn rfl
    exact h.owned n hn d' ((Table.get?_put_of_ne _ _ other).symm.trans hd')

/-- Another database on both sides, with an account. -/
theorem addUser (h : Mirrors engine base c m host) {name : String}
    (unmade : host.databases.get? name = none) (unknown : host.accounts.get? name = none)
    (password : String) {owner : String} {granted : String × String}
    (may : c.username = owner ∨ granted = (owner, c.username)) :
    Mirrors engine base c { m with databases := m.databases ++ [name] } { host with
      databases := host.databases.put name { owner }
      accounts := host.accounts.put name password
      grants := granted :: host.grants } where
  account := Table.get?_put_of_some h.account unknown _
  home := h.home.imp fun _ home => Table.get?_put_of_some home unmade _
  keys := by
    show (host.databases.put name { owner }).keys = base ++ (m.databases ++ [name])
    rw [Table.keys_put _ unmade, h.keys, List.append_assoc]
  mine := h.mine
  users := h.users
  owned := by
    intro n hn d hd
    have hd : (host.databases.put name { owner }).get? n = some d := hd
    rw [Table.get?_put] at hd
    split at hd
    · cases hd
      rcases may with same | rfl
      · exact .inl same
      · exact .inr List.mem_cons_self
    · rename_i other
      have old : n ∈ m.databases :=
        (List.mem_append.1 hn).resolve_right fun last => other (List.mem_singleton.1 last)
      exact (h.owned n old d hd).imp_right (List.mem_cons_of_mem _)

/-- A database less on both sides. -/
theorem dropUser (h : Mirrors engine base c m host) {name : String} (apart : name ∉ base) :
    Mirrors engine base c { m with databases := m.databases.filter (· ≠ name) }
      { host with databases := host.databases.erase name } where
  account := h.account
  home := by
    obtain ⟨owner, home⟩ := h.home
    refine ⟨owner, (Table.get?_erase_of_ne _ ?_).trans home⟩
    rintro rfl
    exact apart h.mine
  keys := by
    show (host.databases.erase name).keys = base ++ m.databases.filter (· ≠ name)
    have all : base.filter (· ≠ name) = base :=
      List.filter_eq_self.2 fun n hn => decide_eq_true fun same => apart (same ▸ hn)
    rw [Table.keys_erase, h.keys, List.filter_append, all]
  mine := h.mine
  users := h.users
  owned := by
    intro n hn d hd
    obtain ⟨hn, other⟩ := List.mem_filter.1 hn
    refine h.owned n hn d ?_
    rw [← Table.get?_erase_of_ne _ (of_decide_eq_true other)]
    exact hd

/-- A table is made on both sides, if there is none. -/
theorem prepare (h : Mirrors engine base c (s.server c.salt) host) (reached : Reached c host) :
    ∃ servers host', Servers.answer engine (.prepare c) s = (.ok (), servers) ∧
      (answerOn engine (.prepare c)).run host = (.ok (), host') ∧ Reached c host' ∧
      Mirrors engine base c (servers.server c.salt) host' ∧
      host'.accounts = host.accounts ∧ host'.databases.keys = host.databases.keys := by
  obtain ⟨owner, home⟩ := h.home
  have kept : (Servers.answer engine (.prepare c) s).2.server c.salt =
      { s.server c.salt with bindings := some ((s.server c.salt).bindings.getD .empty) } :=
    (Servers.server_setServer _ _ _ _).trans (if_pos rfl)
  have prepared := (carried engine).prepare reached home
  cases hb : (s.server c.salt).bindings with
  | some t =>
    rw [hb] at prepared kept
    refine ⟨(Servers.answer engine (.prepare c) s).2, host, rfl, prepared, reached, ?_, rfl, rfl⟩
    have same : { s.server c.salt with bindings := some t } = s.server c.salt := by rw [← hb]
    rw [kept, Option.getD_some, same]
    exact h
  | none =>
    rw [hb] at prepared kept
    refine ⟨(Servers.answer engine (.prepare c) s).2, _, rfl, prepared,
      ⟨reached.session, reached.home, reached.word⟩, ?_, rfl,
      Table.keys_put_of_mem _ (Table.mem_keys_of_get? home)⟩
    rw [kept]
    exact h.withTable home (List.forall_mem_nil _)

/-- **A binding is made on both sides**, of a user who is nobody yet. -/
theorem create (h : Mirrors engine base c (s.server c.salt) host) (reached : Reached c host)
    (table : (s.server c.salt).bindings.isSome) {binding : String}
    (unbound : s.row? c.salt binding = none) {draw : Draw}
    (unmade : host.databases.get? draw.username.text = none)
    (unknown : host.accounts.get? draw.username.text = none) :
    ∃ servers host', Servers.answer engine (.create c binding draw) s =
        (.ok (draw.record binding), servers) ∧
      (answerOn engine (.create c binding draw)).run host = (.ok (draw.record binding), host') ∧
      Mirrors engine base c (servers.server c.salt) host' ∧
      host'.accounts.keys = host.accounts.keys ++ [draw.username.text] ∧
      host'.databases.keys = host.databases.keys ++ [draw.username.text] := by
  obtain ⟨t, ht⟩ := Option.isSome_iff_exists.1 table
  obtain ⟨owner, home⟩ := h.home
  rw [ht, Option.map_some] at home
  let user := draw.username.text
  let row : Row := ⟨user, storedPassword engine c.salt draw.nonce draw.password.text⟩
  -- The new row comes last on both sides, because there is none.
  have absent : t.get? binding = none := by
    rw [Servers.row?, ht] at unbound
    exact unbound
  have last : (t.put binding row).entries.map entry =
      t.entries.map entry ++ [entry (binding, row)] := by
    rw [Table.entries_put _ absent, List.map_append]
    rfl
  have apart : user ∉ base ++ (s.server c.salt).databases := by
    rw [← h.keys]
    exact Table.get?_eq_none_iff.1 unmade
  rw [List.mem_append, not_or] at apart
  have kept : (Servers.answer engine (.create c binding draw) s).2.server c.salt =
      ⟨some (t.put binding row), (s.server c.salt).databases ++ [user]⟩ := by
    simp only [Servers.answer, ht]
    refine (Servers.server_setServer _ _ _ _).trans ((if_pos rfl).trans ?_)
    exact congrArg (Server.mk _) (if_neg apart.2)
  obtain ⟨maker, granted, made, may⟩ := (carried engine).create reached home rfl
    (Option.isSome_of_eq_some h.account) binding unmade unknown
  have added := h.addUser unmade unknown draw.password.text may
  have there : (host.databases.put user { owner := maker }).get? c.database =
      some ⟨owner, some (t.entries.map entry)⟩ := Table.get?_put_of_some home unmade _
  refine ⟨_, _, Prod.ext (Servers.answer_create engine s c binding draw table) rfl, made,
    ?_, ?_, ?_⟩
  · have usable : Row.Usable engine c.salt base row :=
      ⟨(Sql.Word.ofLetters draw.username).isWord_text, apart.1, draw.password.text,
        loadedPassword_storedPassword engine c.salt draw.nonce draw.password.text⟩
    have users : ∀ e ∈ (t.put binding row).entries, Row.Usable engine c.salt base e.2 := by
      rw [Table.entries_put _ absent]
      exact List.forall_mem_append.2 ⟨h.users t ht, List.forall_mem_singleton.2 usable⟩
    have mirrors := added.withTable there users
    rw [last] at mirrors
    rw [kept]
    exact mirrors
  · exact Table.keys_put _ unknown
  · exact (Table.keys_put_of_mem _ (Table.mem_keys_of_get? there)).trans (Table.keys_put _ unmade)

/-- **A binding is removed on both sides**, with the database of its user. -/
theorem delete (h : Mirrors engine base c (s.server c.salt) host) (reached : Reached c host)
    {binding : String} {row : Row} (there : s.row? c.salt binding = some row) :
    ∃ servers host', Servers.answer engine (.delete c binding row.username) s =
        (.ok (), servers) ∧
      (answerOn engine (.delete c binding row.username)).run host = (.ok (), host') ∧
      Mirrors engine base c (servers.server c.salt) host' ∧ host'.accounts = host.accounts ∧
      ∀ n, n ∉ host.databases.keys → n ∉ host'.databases.keys := by
  obtain ⟨t, ht, -⟩ := Option.bind_eq_some_iff.1 there
  obtain ⟨owner, home⟩ := h.home
  rw [ht, Option.map_some] at home
  obtain ⟨word, apart, -⟩ := h.usable there
  have other : row.username ≠ c.database := fun same => apart (same ▸ h.mine)
  have may (d : Sql.Database) (hd : host.databases.get? row.username = some d) :
      host.HasRole c.username d.owner := by
    have here := Table.mem_keys_of_get? hd
    rw [h.keys, List.mem_append] at here
    exact h.owned _ (here.resolve_left apart) d hd
  have kept : (Servers.answer engine (.delete c binding row.username) s).2.server c.salt =
      ⟨some (t.erase binding), (s.server c.salt).databases.filter (· ≠ row.username)⟩ := by
    refine (Servers.server_setServer _ _ _ _).trans ((if_pos rfl).trans ?_)
    rw [ht]
    rfl
  have removed := (carried engine).delete reached home rfl binding word other may
  have dropped := h.dropUser apart
  have still : (host.databases.erase row.username).get? c.database =
      some ⟨owner, some (t.entries.map entry)⟩ :=
    (Table.get?_erase_of_ne _ (Ne.symm other)).trans home
  refine ⟨(Servers.answer engine (.delete c binding row.username) s).2, _, rfl, removed, ?_, rfl,
    fun n hn => ?_⟩
  · rw [kept, filter_entry]
    exact dropped.withTable still fun e he => h.users t ht e (List.mem_filter.1 he).1
  · have same : ((host.databases.erase row.username).put c.database
        ⟨owner, some ((t.entries.map entry).filter (·.binding ≠ binding))⟩).keys =
          (host.databases.erase row.username).keys :=
      Table.keys_put_of_mem _ (Table.mem_keys_of_get? still)
    show n ∉ ((host.databases.erase row.username).put c.database _).keys
    rw [same, Table.keys_erase]
    exact fun here => hn (List.mem_filter.1 here).1

end Mirrors

end Dialect
end ServiceBroker

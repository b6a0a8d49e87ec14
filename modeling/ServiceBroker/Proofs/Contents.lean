/-
# What is on a database server

The contents of a server are rows and databases.  They are in order when each database is that
of one row (`Dialect.Server.Paired`): a row that is added with the database of a new user keeps
them so, and so does a row that goes with its database.  Of the calls of a dialect only those
two change either.
-/

import ServiceBroker.Proofs.Rows
import Mathlib.Data.List.Nodup

namespace ServiceBroker
namespace Table

variable {κ α β : Type} [DecidableEq κ] {t : Table κ α} {key : κ} {value : α}

/-- What is under a key is the entry with that key. -/
theorem get?_eq_some_iff : t.get? key = some value ↔ (key, value) ∈ t.entries := by
  constructor
  · intro found
    obtain ⟨before, after, entries, -⟩ := List.lookup_eq_some_iff.1 found
    rw [entries]
    exact List.mem_append_right _ List.mem_cons_self
  · intro entry
    have known : t.get? key ≠ none := by
      intro absent
      exact get?_eq_none_iff.1 absent (List.mem_map_of_mem entry)
    obtain ⟨value', found⟩ := Option.ne_none_iff_exists'.1 known
    obtain ⟨before, after, entries, -⟩ := List.lookup_eq_some_iff.1 found
    have entry' : (key, value') ∈ t.entries := by
      rw [entries]
      exact List.mem_append_right _ List.mem_cons_self
    have same := List.inj_on_of_nodup_map t.keys_nodup entry entry' rfl
    rw [found, (Prod.mk.inj same).2]

/-- A view of the entries that a new value looks the same in is the same. -/
theorem map_entries_put (view : κ × α → β) {old : α} (found : t.get? key = some old)
    (same : view (key, value) = view (key, old)) :
    (t.put key value).entries.map view = t.entries.map view := by
  obtain ⟨entries, nodup⟩ := t
  show (putEntry key value entries).map view = entries.map view
  replace found : entries.lookup key = some old := found
  clear nodup
  induction entries with
  | nil => cases found
  | cons e rest ih =>
    obtain ⟨k, v⟩ := e
    by_cases hk : k = key
    · subst hk
      rw [List.lookup_cons_self] at found
      cases found
      rw [putEntry, if_pos rfl, List.map_cons, List.map_cons, same]
    · have rest' : rest.lookup key = some old := by
        rwa [List.lookup_cons, beq_eq_false_iff_ne.2 (Ne.symm hk)] at found
      rw [putEntry, if_neg hk, List.map_cons, List.map_cons, ih rest']

end Table

namespace Dialect
namespace Server

/-- The row of a binding. -/
def row? (m : Server) (binding : String) : Option Row := m.bindings.bind (·.get? binding)

/-- The users of the bindings, row by row. -/
def users (m : Server) : List String :=
  m.bindings.elim [] fun t => t.entries.map fun e => e.2.username

/-- The server with a row more and the database of its user. -/
def add (m : Server) (binding : String) (row : Row) : Server where
  bindings := some ((m.bindings.getD .empty).put binding row)
  databases := Servers.addName row.username m.databases

/-- The server without a row and the database of its user. -/
def remove (m : Server) (binding username : String) : Server where
  bindings := m.bindings.map (·.erase binding)
  databases := m.databases.filter (· ≠ username)

/-- **Each database is that of one row and each row has one.** -/
structure Paired (m : Server) : Prop where
  databases : m.databases.Perm m.users
  users_nodup : m.users.Nodup

/-- Between two contents of a server at most one binding differs, in its row and in the database of
its user. -/
structure DiffersAt (binding : String) (m m' : Server) : Prop where
  rows : ∀ binding' ≠ binding, m'.row? binding' = m.row? binding'
  databases : ∀ user, (∀ row, m.row? binding = some row ∨ m'.row? binding = some row →
    row.username ≠ user) → (user ∈ m'.databases ↔ user ∈ m.databases)

variable {m m' : Server} {binding : String} {row : Row}

/-- An empty server has nothing that could be unpaired. -/
theorem paired_empty : Paired {} := ⟨.refl _, List.nodup_nil⟩

/-- A row that is added is found under its binding, and the others as before. -/
theorem row?_add (binding' : String) :
    (m.add binding row).row? binding' =
      if binding' = binding then some row else m.row? binding' := by
  show ((m.bindings.getD .empty).put binding row).get? binding' = _
  rw [Table.get?_put]
  obtain ⟨bindings, databases⟩ := m
  cases bindings <;> rfl

/-- No row is found under a binding that was removed, and the others as before. -/
theorem row?_remove (binding' username : String) :
    (m.remove binding username).row? binding' =
      if binding' = binding then none else m.row? binding' := by
  obtain ⟨bindings, databases⟩ := m
  cases bindings with
  | none => simp [row?, remove]
  | some t =>
    show (t.erase binding).get? binding' = if binding' = binding then none else t.get? binding'
    by_cases same : binding' = binding
    · rw [if_pos same, same, Table.get?_erase_self]
    · rw [if_neg same, Table.get?_erase_of_ne t same]

/-- The user of a new row goes to the end. -/
theorem users_add (vacant : m.row? binding = none) :
    (m.add binding row).users = m.users ++ [row.username] := by
  obtain ⟨bindings, databases⟩ := m
  cases bindings with
  | none => rfl
  | some t =>
    show (t.put binding row).entries.map _ = t.entries.map _ ++ _
    rw [Table.entries_put row vacant, List.map_append]
    rfl

/-- Where users differ, a row goes with its user. -/
theorem users_remove (nodup : m.users.Nodup) (there : m.row? binding = some row) :
    (m.remove binding row.username).users = m.users.filter (· ≠ row.username) := by
  obtain ⟨bindings, databases⟩ := m
  cases bindings with
  | none => cases there
  | some t =>
    show (t.erase binding).entries.map _ = (t.entries.map _).filter _
    rw [List.filter_map]
    congr 1
    apply List.filter_congr
    intro e entry
    have entry' : (binding, row) ∈ t.entries := Table.get?_eq_some_iff.1 there
    have by_key : e.1 = binding ↔ e.2.username = row.username := by
      constructor
      · intro same
        rw [List.inj_on_of_nodup_map t.keys_nodup entry entry' same]
      · intro same
        rw [List.inj_on_of_nodup_map nodup entry entry' same]
    simp only [Function.comp_apply, ne_eq, by_key]

namespace Paired

/-- Users and databases say all about pairs. -/
theorem congr (h : m.Paired) (users : m'.users = m.users) (databases : m'.databases = m.databases) :
    m'.Paired := by
  constructor
  · rw [users, databases]
    exact h.databases
  · rw [users]
    exact h.users_nodup

/-- A new row with a new user leaves all paired. -/
theorem add (h : m.Paired) (vacant : m.row? binding = none) (fresh : row.username ∉ m.users) :
    (m.add binding row).Paired := by
  have absent : row.username ∉ m.databases := fun there => fresh (h.databases.mem_iff.1 there)
  constructor
  · show (Servers.addName row.username m.databases).Perm _
    rw [users_add vacant, Servers.addName, if_neg absent]
    exact h.databases.append_right _
  · rw [users_add vacant, ← List.concat_eq_append]
    exact h.users_nodup.concat fresh

/-- A row that goes with its database leaves all paired. -/
theorem remove (h : m.Paired) (there : m.row? binding = some row) :
    (m.remove binding row.username).Paired := by
  constructor
  · rw [users_remove h.users_nodup there]
    exact h.databases.filter _
  · rw [users_remove h.users_nodup there]
    exact h.users_nodup.filter _

end Paired

/-- A server differs from itself nowhere. -/
theorem DiffersAt.refl : m.DiffersAt binding m := ⟨fun _ _ => rfl, fun _ _ => .rfl⟩

/-- A row that is added makes a difference at its binding only. -/
theorem differsAt_add : m.DiffersAt binding (m.add binding row) := by
  constructor
  · intro binding' other
    rw [row?_add, if_neg other]
  · intro user others
    have other : row.username ≠ user := others row (.inr (by rw [row?_add, if_pos rfl]))
    show user ∈ Servers.addName row.username m.databases ↔ _
    unfold Servers.addName
    split
    · rfl
    · simp [Ne.symm other]

/-- A row that is removed makes a difference at its binding only. -/
theorem differsAt_remove (there : m.row? binding = some row) :
    m.DiffersAt binding (m.remove binding row.username) := by
  constructor
  · intro binding' other
    rw [row?_remove, if_neg other]
  · intro user others
    have other : row.username ≠ user := others row (.inl there)
    simp [remove, Ne.symm other]

end Server

namespace Servers

variable (engine : Engine) (s : Servers) (c : Connection) {binding : String}

/-- Reaching a server leaves all servers as they are. -/
theorem server_connect : (answer engine (.connect c) s).2.server = s.server := by
  funext salt
  simp only [answer]
  split
  · rfl
  · rw [server_setServer]
    split
    · rename_i same
      rw [same]
    · rfl

/-- Preparing gives the server of the connection a table, and changes no other. -/
theorem server_prepare (salt : String) :
    (answer engine (.prepare c) s).2.server salt =
      if salt = c.salt then
        { s.server c.salt with bindings := some ((s.server c.salt).bindings.getD .empty) }
      else s.server salt := by
  simp only [answer, server_setServer]

/-- Creating adds a row to the server of the connection, and changes no other. -/
theorem server_create (draw : Draw) (prepared : (s.server c.salt).bindings.isSome)
    (salt : String) :
    (answer engine (.create c binding draw) s).2.server salt =
      if salt = c.salt then
        (s.server c.salt).add binding
          ⟨draw.username.text, storedPassword engine c.salt draw.nonce draw.password.text⟩
      else s.server salt := by
  obtain ⟨bindings, hb⟩ := Option.isSome_iff_exists.1 prepared
  simp only [answer, hb]
  show (s.setServer c.salt _).server salt = _
  rw [server_setServer, Server.add, hb]
  rfl

/-- Deleting removes a row from the server of the connection, and changes no other. -/
theorem server_delete (binding username salt : String) :
    (answer engine (.delete c binding username) s).2.server salt =
      if salt = c.salt then (s.server c.salt).remove binding username else s.server salt := by
  simp only [answer, server_setServer]
  rfl

/-- Overwriting a password changes no user and no database. -/
theorem server_overwrite (salt stored salt' : String) :
    ((s.overwrite salt binding stored).2.server salt').users = (s.server salt').users ∧
      ((s.overwrite salt binding stored).2.server salt').databases =
        (s.server salt').databases := by
  unfold overwrite
  dsimp only
  split
  · exact ⟨rfl, rfl⟩
  · rename_i bindings hb
    split
    · exact ⟨rfl, rfl⟩
    · rename_i row found
      rw [server_setServer]
      split
      · rename_i same
        subst same
        constructor
        · simp only [Server.users, hb, Option.elim_some]
          exact Table.map_entries_put _ found rfl
        · rfl
      · exact ⟨rfl, rfl⟩

end Servers
end Dialect
end ServiceBroker

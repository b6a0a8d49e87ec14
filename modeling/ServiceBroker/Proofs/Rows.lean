/-
# The rows of database servers in memory

Of a server only the rows of its bindings matter to what a platform is told.  Each call
changes at most the row of the binding that it names: reaching and preparing a server
change none (`row?_connect`, `row?_prepare`), making a binding sets one (`row?_create`)
and removing it takes that one away (`row?_delete`).
-/

import ServiceBroker.Dialect.Memory
import ServiceBroker.Proofs.Sealing

namespace ServiceBroker
namespace Dialect

/-- **A stored password loads**, sealed or not. -/
theorem loadedPassword_storedPassword (engine : Engine) (salt : String) (nonce : GcmSiv.Nonce)
    (password : String) :
    loadedPassword engine salt (storedPassword engine salt nonce password) = .ok password := by
  cases engine with
  | mariaDb =>
    simp only [loadedPassword, storedPassword, Engine.sealsPasswords, if_true,
      Sealing.openText_sealText]
    rfl
  | postgreSql => rfl

namespace Servers

variable (engine : Engine) (s : Servers) (c : Connection)

/-- A server that was set is found under its number, and the others as before. -/
theorem server_setServer (salt salt' : String) (server : Server) :
    (s.setServer salt server).server salt' = if salt' = salt then server else s.server salt' := by
  rw [Servers.server, setServer, Table.get?_put]
  split <;> rfl

/-- The rows of a server that was set are found under its number, and the others as before. -/
theorem row?_setServer (salt salt' binding : String) (server : Server) :
    (s.setServer salt server).row? salt' binding =
      if salt' = salt then server.bindings.bind (·.get? binding) else s.row? salt' binding := by
  rw [row?, server_setServer]
  split <;> rfl

/-- A server that can be reached is there from then on. -/
theorem answer_connect (h : s.unreachable = false) :
    answer engine (.connect c) s = (.ok (), s.setServer c.salt (s.server c.salt)) := by
  simp [answer, h]

/-- Whether there is a table is told as it is. -/
theorem answer_hasTable :
    answer engine (.hasTable c) s = (.ok (s.server c.salt).bindings.isSome, s) := rfl

/-- The user of a binding is told as its row has it. -/
theorem answer_readUser (binding : String) :
    answer engine (.readUser c binding) s =
      (.ok ((s.row? c.salt binding).map (·.username)), s) := rfl

/-- Reaching a server changes no row. -/
theorem row?_connect (salt binding : String) :
    (answer engine (.connect c) s).2.row? salt binding = s.row? salt binding := by
  simp only [answer]
  split
  · rfl
  · rw [row?_setServer]
    split
    · rename_i h
      rw [h]
      rfl
    · rfl

/-- Making sure of a table changes no row. -/
theorem row?_prepare (salt binding : String) :
    (answer engine (.prepare c) s).2.row? salt binding = s.row? salt binding := by
  simp only [answer]
  rw [row?_setServer]
  split
  · rename_i h
    rw [h, row?]
    cases (s.server c.salt).bindings <;> simp
  · rfl

/-- After preparing there is a table. -/
theorem isSome_bindings_prepare :
    ((answer engine (.prepare c) s).2.server c.salt).bindings.isSome := by
  simp [answer, server_setServer]

/-- A new binding leaves the table where it is. -/
theorem isSome_bindings_create (binding : String) (draw : Draw)
    (h : (s.server c.salt).bindings.isSome) :
    ((answer engine (.create c binding draw) s).2.server c.salt).bindings.isSome := by
  obtain ⟨bindings, hb⟩ := Option.isSome_iff_exists.1 h
  simp only [answer, hb]
  show ((Servers.setServer s c.salt _).server c.salt).bindings.isSome
  rw [server_setServer, if_pos rfl]
  rfl

/-- A server without a table has no rows. -/
theorem row?_eq_none_of_hasTable {salt : String} (h : (s.server salt).bindings.isSome = false)
    (binding : String) : s.row? salt binding = none := by
  rw [Option.isSome_eq_false_iff, Option.isNone_iff_eq_none] at h
  rw [row?, h]
  rfl

/-- **A new binding has one row**, and the other rows stay. -/
theorem row?_create (binding : String) (draw : Draw)
    (h : (s.server c.salt).bindings.isSome) (salt binding' : String) :
    (answer engine (.create c binding draw) s).2.row? salt binding' =
      if salt = c.salt ∧ binding' = binding then
        some ⟨draw.username.text, storedPassword engine c.salt draw.nonce draw.password.text⟩
      else s.row? salt binding' := by
  obtain ⟨bindings, hb⟩ := Option.isSome_iff_exists.1 h
  simp only [answer, hb]
  show (Servers.setServer s c.salt _).row? salt binding' = _
  rw [row?_setServer]
  by_cases hs : salt = c.salt
  · by_cases hk : binding' = binding
    · subst hs hk
      simp [Draw.record]
    · subst hs
      simp [Table.get?_put_of_ne _ _ hk, hk, row?, hb]
  · simp [hs]

/-- The databases of a server that was set are found under its number, and the others as before. -/
theorem databases_setServer (salt salt' : String) (server : Server) :
    (s.setServer salt server).databases salt' =
      if salt' = salt then server.databases else s.databases salt' := by
  rw [databases, server_setServer]
  split <;> rfl

/-- **A new binding has one database**, that of its user. -/
theorem databases_create (binding : String) (draw : Draw)
    (h : (s.server c.salt).bindings.isSome) :
    (answer engine (.create c binding draw) s).2.databases c.salt =
      addName draw.username.text (s.databases c.salt) := by
  obtain ⟨bindings, hb⟩ := Option.isSome_iff_exists.1 h
  simp only [answer, hb]
  show (Servers.setServer s c.salt _).databases c.salt = _
  rw [databases_setServer, if_pos rfl]
  rfl

/-- Creating a binding tells the record of what was drawn. -/
theorem answer_create (binding : String) (draw : Draw)
    (h : (s.server c.salt).bindings.isSome) :
    (answer engine (.create c binding draw) s).1 = .ok (draw.record binding) := by
  obtain ⟨bindings, hb⟩ := Option.isSome_iff_exists.1 h
  simp only [answer, hb]

/-- **A removed binding has no row**, and the other rows stay. -/
theorem row?_delete (binding username salt binding' : String) :
    (answer engine (.delete c binding username) s).2.row? salt binding' =
      if salt = c.salt ∧ binding' = binding then none else s.row? salt binding' := by
  simp only [answer]
  rw [row?_setServer]
  by_cases hs : salt = c.salt
  · subst hs
    rw [row?]
    cases hb : (s.server c.salt).bindings with
    | none => simp
    | some bindings =>
      by_cases hk : binding' = binding
      · subst hk
        simp
      · simp [Table.get?_erase_of_ne _ hk, hk]
  · simp [hs]

/-- The record of a binding, with its password as it opens. -/
def recorded (engine : Engine) (s : Servers) (c : Connection) (binding : String) :
    Except ServiceError (Option BindingRecord) :=
  (answer engine (.read c binding) s).1

/-- A binding is told as it is on record, and nothing changes. -/
theorem answer_read (binding : String) :
    answer engine (.read c binding) s = (recorded engine s c binding, s) := by
  rw [recorded]
  simp only [answer]
  split <;> rfl

/-- What is on record is what the row says. -/
theorem recorded_congr {s s' : Servers} {binding : String}
    (h : s'.row? c.salt binding = s.row? c.salt binding) :
    recorded engine s' c binding = recorded engine s c binding := by
  simp only [recorded, answer, h]
  split <;> rfl

/-- Without a row nothing is on record. -/
theorem recorded_of_none {binding : String} (h : s.row? c.salt binding = none) :
    recorded engine s c binding = .ok none := by
  simp only [recorded, answer, h]

/-- A row is on record as its password opens. -/
theorem recorded_of_some {binding : String} {row : Row} (h : s.row? c.salt binding = some row) :
    recorded engine s c binding = (loadedPassword engine c.salt row.stored).map fun password =>
      some ⟨binding, row.username, password⟩ := by
  simp only [recorded, answer, h]

/-- **A binding is on record as it was made.** -/
theorem recorded_create (binding : String) (draw : Draw)
    (h : (s.server c.salt).bindings.isSome) :
    recorded engine (answer engine (.create c binding draw) s).2 c binding =
      .ok (some (draw.record binding)) := by
  have row := row?_create engine s c binding draw h c.salt binding
  rw [if_pos ⟨rfl, rfl⟩] at row
  rw [recorded_of_some engine _ c row, loadedPassword_storedPassword]
  rfl

/-- No call makes a server unreachable or reachable. -/
theorem unreachable_answer (call : Call) :
    (answer engine call s).2.unreachable = s.unreachable := by
  cases call with
  | connect c => simp only [answer]; split <;> rfl
  | prepare c => rfl
  | hasTable c => rfl
  | read c binding => simp only [answer]; split <;> rfl
  | readUser c binding => rfl
  | create c binding draw => simp only [answer]; split <;> rfl
  | delete c binding username => rfl

end Servers
end Dialect
end ServiceBroker

/-
# The store of bindings

Through every run of calls about bindings, with servers that come and go, stored passwords that
are overwritten and appliances that change, the databases on each server stay those of its rows
(`Broker.kept_after`), because every user is drawn anew.
-/

import ServiceBroker.Proofs.Appliances
import ServiceBroker.Proofs.Errand
import Mathlib.Data.List.Range

namespace ServiceBroker

open Dialect (Server Servers)

/-- Something that happens to a broker and its surroundings. -/
inductive Happening (σ : Type) where
  /-- A handler is asked about a binding, or told to make or to remove it. -/
  | call (h : DatabaseHandler) {name binding : String} (call : Handler.Call)
    (about : call.About name binding)
  /-- The servers of an engine become unreachable or reachable. -/
  | switch (engine : Engine) (unreachable : Bool)
  /-- Some text is stored as the password of a binding. -/
  | overwrite (engine : Engine) (salt binding stored : String)
  /-- Appliances come, go and change. -/
  | elsewhere (deletions : Deletions σ)

namespace Broker

variable {σ : Type} (s : BrokerSettings σ)

/-- The broker after something happened. -/
def undergo (b : Broker σ) : Happening σ → Broker σ
  | .call h call _ => ((handle s h call).run b).2
  | .switch engine unreachable => b.setServers { b.servers engine with unreachable } engine
  | .overwrite engine salt binding stored =>
    b.setServers ((b.servers engine).overwrite salt binding stored).2 engine
  | .elsewhere deletions => { b with deletions }

/-- The broker after one thing happened after another. -/
def after (happenings : List (Happening σ)) (b : Broker σ) : Broker σ :=
  happenings.foldl (undergo s) b

/-- The users that were drawn for bindings. -/
def drawnUsers (b : Broker σ) : List String :=
  (List.range b.drawn).map fun n => (s.chance.binding n).username.text

/-- On every server each database is that of one row, and its user was drawn. -/
structure Kept (b : Broker σ) : Prop where
  paired : ∀ engine salt, (b.store engine salt).Paired
  drawn : ∀ engine salt, (b.store engine salt).users ⊆ b.drawnUsers s

section Keeping

variable {s} {b b' : Broker σ}

/-- A broker at its start is kept: nothing is on its servers yet. -/
theorem kept_start (provider : σ) : (start provider).Kept s := by
  constructor
  · intro engine salt
    cases engine <;> exact Server.paired_empty
  · intro engine salt
    cases engine <;> exact List.nil_subset _

/-- Users that were drawn stay drawn. -/
theorem drawnUsers_sublist (le : b.drawn ≤ b'.drawn) :
    (b.drawnUsers s).Sublist (b'.drawnUsers s) :=
  (List.range_sublist.2 le).map _

/-- One draw more is one user more. -/
theorem drawnUsers_succ (drawn : b'.drawn = b.drawn + 1) :
    b'.drawnUsers s = b.drawnUsers s ++ [(s.chance.binding b.drawn).username.text] := by
  rw [drawnUsers, drawn, List.range_succ, List.map_append]
  rfl

namespace Kept

/-- Nothing changes where users and databases stay. -/
theorem congr (kept : b.Kept s)
    (same : ∀ engine salt, (b'.store engine salt).users = (b.store engine salt).users ∧
      (b'.store engine salt).databases = (b.store engine salt).databases)
    (drawn : b'.drawn = b.drawn) : b'.Kept s := by
  constructor
  · intro engine salt
    exact (kept.paired engine salt).congr (same engine salt).1 (same engine salt).2
  · intro engine salt
    rw [(same engine salt).1, drawnUsers, drawn]
    exact kept.drawn engine salt

/-- A server may change to one with databases for its rows and users that were drawn. -/
theorem setStore (kept : b.Kept s) {engine : Engine} {salt : String} {m : Server}
    (store : b'.store = Broker.setStore b.store engine salt m) (le : b.drawn ≤ b'.drawn)
    (paired : m.Paired) (drawn : m.users ⊆ b'.drawnUsers s) : b'.Kept s := by
  constructor
  · intro engine' salt'
    rw [store, Broker.setStore]
    split
    · exact paired
    · exact kept.paired engine' salt'
  · intro engine' salt'
    rw [store, Broker.setStore]
    split
    · exact drawn
    · intro user there
      exact (drawnUsers_sublist le).subset (kept.drawn engine' salt' there)

/-- **A call about a binding keeps databases and rows together**, as long as no user is drawn
twice. -/
theorem errand {α : Type} {h : DatabaseHandler} {name binding : String}
    {result : Except ServiceError α} (kept : b.Kept s)
    (errand : Errand s h name binding b (result, b')) (distinct : (b'.drawnUsers s).Nodup) :
    b'.Kept s := by
  cases errand with
  | nothing _ store drawn =>
    have same : ∀ engine salt, (b'.store engine salt).users = (b.store engine salt).users ∧
        (b'.store engine salt).databases = (b.store engine salt).databases := by
      intro engine salt
      rw [store]
      exact ⟨rfl, rfl⟩
    exact kept.congr same drawn
  | made value found vacant store drawn =>
    rename_i a stored
    have users := drawnUsers_succ (s := s) drawn
    rw [users] at distinct
    have fresh : (s.chance.binding b.drawn).username.text ∉ (b.store h.engine a.id.text).users := by
      intro old
      exact (List.nodup_append.1 distinct).2.2 _ (kept.drawn _ _ old) _ List.mem_cons_self rfl
    apply kept.setStore store (drawn ▸ Nat.le_succ _)
    · exact (kept.paired _ _).add vacant fresh
    · rw [Server.users_add vacant, users]
      intro user there
      rcases List.mem_append.1 there with old | new
      · exact List.mem_append_left _ (kept.drawn _ _ old)
      · exact List.mem_append_right _ new
  | removed value found there store drawn =>
    apply kept.setStore store drawn.ge ((kept.paired _ _).remove there)
    rw [Server.users_remove (kept.paired _ _).users_nodup there, drawnUsers, drawn]
    intro user left
    exact kept.drawn _ _ (List.mem_of_mem_filter left)

end Kept

/-- Nothing that happens takes a draw back. -/
theorem drawn_le_undergo (happening : Happening σ) : b.drawn ≤ (b.undergo s happening).drawn := by
  cases happening with
  | call h call about => exact (errand_handle about).drawn_le
  | switch engine unreachable => exact (drawn_setServers _ _ _).ge
  | overwrite engine salt binding stored => exact (drawn_setServers _ _ _).ge
  | elsewhere deletions => exact Nat.le_refl _

/-- Whatever happens, no draw is taken back. -/
theorem drawn_le_after (happenings : List (Happening σ)) :
    b.drawn ≤ (b.after s happenings).drawn := by
  induction happenings generalizing b with
  | nil => exact Nat.le_refl _
  | cons happening rest ih => exact (drawn_le_undergo happening).trans ih

/-- A change to the servers of an engine that leaves their users and databases is harmless. -/
theorem Kept.setServers (kept : b.Kept s) {engine : Engine} {servers : Servers}
    (same : ∀ salt, (servers.server salt).users = (b.store engine salt).users ∧
      (servers.server salt).databases = (b.store engine salt).databases) :
    (b.setServers servers engine).Kept s := by
  apply kept.congr _ (drawn_setServers engine b servers)
  intro engine' salt
  rw [store_setServers]
  dsimp only
  split
  · rename_i this
    rw [this]
    exact same salt
  · exact ⟨rfl, rfl⟩

/-- **Whatever happens keeps databases and rows together.** -/
theorem kept_undergo {happening : Happening σ} (kept : b.Kept s)
    (distinct : ((b.undergo s happening).drawnUsers s).Nodup) : (b.undergo s happening).Kept s := by
  cases happening with
  | call h call about => exact kept.errand (errand_handle about) distinct
  | switch engine unreachable => exact kept.setServers fun salt => ⟨rfl, rfl⟩
  | overwrite engine salt binding stored =>
    exact kept.setServers fun salt' => Servers.server_overwrite _ salt stored salt'
  | elsewhere deletions =>
    have same : ∀ engine salt,
        (({ b with deletions } : Broker σ).store engine salt).users =
          (b.store engine salt).users ∧
        (({ b with deletions } : Broker σ).store engine salt).databases =
          (b.store engine salt).databases := by
      intro engine salt
      cases engine <;> exact ⟨rfl, rfl⟩
    exact kept.congr same rfl

/-- **So does everything that happens, one thing after another.** -/
theorem kept_after {happenings : List (Happening σ)} (kept : b.Kept s)
    (distinct : ((b.after s happenings).drawnUsers s).Nodup) : (b.after s happenings).Kept s := by
  induction happenings generalizing b with
  | nil => exact kept
  | cons happening rest ih =>
    have early : ((b.undergo s happening).drawnUsers s).Nodup :=
      distinct.sublist (drawnUsers_sublist (drawn_le_after rest))
    exact ih (kept_undergo kept early) distinct

end Keeping

/-- A call about a binding is confined to it. -/
structure Confined (h : DatabaseHandler) (name binding : String) {α : Type} (b : Broker σ)
    (result : Except ServiceError α) (b' : Broker σ) : Prop where
  /-- If it fails, nothing has changed. -/
  failed : ∀ e, result = .error e → b'.store = b.store
  /-- No server has changed but that of the instance. -/
  elsewhere : ∀ engine salt,
    (∀ a, (search s h.engine name b).1 = .ok [a] → ¬(engine = h.engine ∧ salt = a.id.text)) →
    b'.store engine salt = b.store engine salt
  /-- There at most the row of the binding and its database have. -/
  there : ∀ engine salt, (b.store engine salt).DiffersAt binding (b'.store engine salt)
  /-- Every other binding reads back as before, if its instance is found as before. -/
  others : ∀ (h' : DatabaseHandler) (name' binding' : String),
    (search s h'.engine name' b').1 = (search s h'.engine name' b).1 →
    (∀ a a', (search s h.engine name b).1 = .ok [a] → (search s h'.engine name' b).1 = .ok [a'] →
      ¬(h'.engine = h.engine ∧ a'.id.text = a.id.text ∧ binding' = binding)) →
    ((handle s h' (.bindingState name' binding')).run b').1 =
      ((handle s h' (.bindingState name' binding')).run b).1

/-- A call about a binding changes nothing but that binding. -/
theorem confined_handle (h : DatabaseHandler) {name binding : String} {call : Handler.Call}
    (about : call.About name binding) (b : Broker σ) :
    Confined s h name binding b ((handle s h call).run b).1 ((handle s h call).run b).2 := by
  have errand : Errand s h name binding b ((handle s h call).run b) := errand_handle about
  constructor
  · intro e failed
    exact Errand.store_of_error errand failed
  · intro engine salt elsewhere
    exact Errand.store_elsewhere errand elsewhere
  · intro engine salt
    exact Errand.differsAt errand engine salt
  · intro h' name' binding' found other
    have unreachable := unreachable_exec s h.engine b (h.answer call) h'.engine
    exact Errand.bindingState_eq errand found unreachable other

/-- **The store of bindings through everything that happens.**  Handlers are called about bindings,
servers become unreachable and reachable again, texts are stored as passwords, and appliances come,
go and change, in any order; no user is drawn twice.  Then on every server the databases are those
of the rows, one for each row.  From there on a call about a binding is confined to it, and removing
a binding succeeds, whatever is stored as its password, if its instance has an address and the
server can be reached: neither row nor database is left. -/
theorem binding_store_kept (provider : σ) (happenings : List (Happening σ))
    (distinct : (((start provider).after s happenings).drawnUsers s).Nodup) :
    let b := (start provider).after s happenings
    (∀ engine salt, (b.store engine salt).Paired) ∧
    (∀ (h : DatabaseHandler) (name binding : String) (call : Handler.Call),
      call.About name binding →
      Confined s h name binding b ((handle s h call).run b).1 ((handle s h call).run b).2) ∧
    (∀ (h : DatabaseHandler) (name binding : String) (a : Appliance),
      (search s h.engine name b).1 = .ok [a] → a.ipAddress.isSome →
      (b.servers h.engine).unreachable = false →
      ∃ b', (handle s h (.deleteBinding name binding)).run b = (.ok (), b') ∧
        (b'.store h.engine a.id.text).row? binding = none ∧
        ∀ row, (b.store h.engine a.id.text).row? binding = some row →
          row.username ∉ (b'.store h.engine a.id.text).databases) := by
  intro b
  refine ⟨(kept_after (kept_start provider) distinct).paired, ?_, ?_⟩
  · intro h name binding call about
    exact confined_handle s h about b
  · intro h name binding a found addressed reachable
    obtain ⟨address, addressed⟩ := Option.isSome_iff_exists.1 addressed
    exact deleteBinding_of_reachable found addressed reachable

open Provider (Memory)

/-- A binding is made, its password overwritten, and removed once its server can be reached. -/
theorem unreadable_binding_removed :
    let s := inMemorySettings .instant .counting
    let h : DatabaseHandler := ⟨.mariaDb, 1⟩
    let salt := (applianceId 1).text
    let happenings : List (Happening Memory) :=
      [.elsewhere { shared := { provider := (Memory.create .instant (.plain "a") {}).2 } },
        .call h (.createBinding "a" "b") .createBinding,
        .overwrite .mariaDb salt "b" "not sealed",
        .switch .mariaDb true,
        .call h (.deleteBinding "a" "b") .deleteBinding,
        .switch .mariaDb false]
    let b := (start {}).after s happenings
    (b.store .mariaDb salt).Paired ∧
    (b.store .mariaDb salt).row? "b" = some ⟨(s.chance.binding 0).username.text, "not sealed"⟩ ∧
    ∃ b', (handle s h (.deleteBinding "a" "b")).run b = (.ok (), b') ∧
      (b'.store .mariaDb salt).row? "b" = none ∧
      (s.chance.binding 0).username.text ∉ (b'.store .mariaDb salt).databases := by
  intro s h salt happenings b
  have distinct : (b.drawnUsers s).Nodup := by decide +kernel
  have found : (search s h.engine "a" b).1 =
      .ok [Memory.boot .instant (applianceId 1) (.plain "a")] := by
    have named : b.provider.named "a" = [Memory.boot .instant (applianceId 1) (.plain "a")] := by
      decide +kernel
    have available : b.provider.unavailable = false := by decide +kernel
    rw [search, answer_provider rfl, Memory.answer, available, ← named]
    rfl
  have row : (b.store .mariaDb salt).row? "b" =
      some ⟨(s.chance.binding 0).username.text, "not sealed"⟩ := by
    decide +kernel
  obtain ⟨paired, -, removed⟩ := binding_store_kept s {} happenings distinct
  obtain ⟨b', removed, gone, dropped⟩ := removed h "a" "b" _ found rfl rfl
  exact ⟨paired _ _, row, b', removed, gone, dropped _ row⟩

end Broker
end ServiceBroker

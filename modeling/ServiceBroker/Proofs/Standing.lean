/-
# A provider and its database servers in good order

The invariant of a broker that only its own requests disturb.  Appliances are up, have
their addresses and differ in name and number (`Provider.Memory.Standing`); the rows of
a server can be read, and a number that no appliance has had yet has none
(`Dialect.Servers.Kept`).  Each way of changing the provider or a server keeps it so.
-/

import ServiceBroker.Proofs.Appliances
import ServiceBroker.Proofs.Ledger
import ServiceBroker.Proofs.Performing
import ServiceBroker.Proofs.Rows
import ServiceBroker.Proofs.Settling
import Mathlib

namespace ServiceBroker

/-- Texts tell appliances apart. -/
theorem ApplianceId.text_injective {a b : ApplianceId} (h : a.text = b.text) : a = b :=
  Int64.toInt_inj.1 (Int.repr_injective h)

/-- The network attributes of an appliance that has its addresses. -/
def Appliance.network? (a : Appliance) : Option Network :=
  match a.ipAddress, a.defaultRoute with
  | some ipAddress, some defaultRoute =>
    some ⟨a.switchId, ipAddress, a.maskLength, defaultRoute⟩
  | _, _ => none

/-- What a request sees of an appliance that has its addresses. -/
theorem InstanceState.differs_eq {p : Parameters} {a : Appliance} {n : Network}
    (h : a.network? = some n) : differs p a = decide (n ≠ p.network) := by
  unfold Appliance.network? at h
  split at h
  · rename_i ipAddress defaultRoute hip hroute
    cases h
    simp only [differs, Parameters.network, hip, hroute]
    grind
  · cases h

namespace Provider.Memory

/-- The provider answers, its appliances are up, differ in name and number, and have the numbers
of the first `n`. -/
structure Standing (n : Nat) (m : Memory) : Prop where
  available : m.unavailable = false
  lastId : m.lastId = applianceId n
  up : ∀ a ∈ m.appliances, a.isUp = true ∧ a.isFailed = false ∧ a.isMigrating = false
  addressed : ∀ a ∈ m.appliances, (a.network?).isSome
  issued : ∀ a ∈ m.appliances, ∃ k ≤ n, a.id = applianceId k
  names_nodup : (m.appliances.map (·.name)).Nodup
  ids_nodup : (m.appliances.map (·.id)).Nodup

variable {n : Nat} {m : Memory} {name : String} {a : Appliance}

/-- The first appliance with a name has this name. -/
theorem name_of_first? (h : m.first? name = some a) : a.name = name := by
  simpa using List.find?_some h

/-- The first appliance with a name is one of the appliances. -/
theorem mem_of_first? (h : m.first? name = some a) : a ∈ m.appliances := List.mem_of_find?_eq_some h

/-- A provider without appliances is in good order. -/
theorem standing_empty : Standing 0 {} where
  available := rfl
  lastId := rfl
  up := fun _ h => absurd h List.not_mem_nil
  addressed := fun _ h => absurd h List.not_mem_nil
  issued := fun _ h => absurd h List.not_mem_nil
  names_nodup := List.nodup_nil
  ids_nodup := List.nodup_nil

namespace Standing

/-- Counting calls changes nothing else. -/
theorem withCounts (h : Standing n m) (counts : CallCounts) : Standing n { m with counts } :=
  { h with }

/-- A name finds at most one appliance. -/
theorem only_named (h : Standing n m) (name : String) :
    only name (m.named name) = .ok (m.first? name) := by
  have h := h.names_nodup
  unfold named first?
  revert h
  induction m.appliances with
  | nil => exact fun _ => rfl
  | cons b rest ih =>
    intro h
    rw [List.map_cons, List.nodup_cons] at h
    by_cases hb : b.name = name
    · have none_left : rest.filter (·.name = name) = [] := by
        rw [List.filter_eq_nil_iff]
        intro c hc hn
        exact h.1 (hb ▸ (by simpa using hn : c.name = name) ▸ List.mem_map_of_mem hc)
      simp [hb, none_left, only]
    · simpa [hb] using ih h.2

/-- Two appliances with one number are the same. -/
theorem eq_of_id (h : Standing n m) {a b : Appliance} (ha : a ∈ m.appliances)
    (hb : b ∈ m.appliances) (hid : a.id = b.id) : a = b :=
  List.inj_on_of_nodup_map h.ids_nodup ha hb hid

/-- A number finds the appliance that has it. -/
theorem get?_id (h : Standing n m) (ha : a ∈ m.appliances) : m.get? a.id = some a := by
  cases hg : m.get? a.id with
  | none => exact absurd (by simp) (List.find?_eq_none.1 hg a ha)
  | some b =>
    rw [h.eq_of_id (List.mem_of_find?_eq_some hg) ha (id_of_get? hg)]

end Standing

/-- A new appliance comes last. -/
theorem first?_create (mode : BootMode) (order : ApplianceOrder)
    (h : m.first? order.name = none) (name : String) :
    (m.create mode order).2.first? name =
      if name = order.name then some (m.create mode order).1 else m.first? name := by
  rw [first?, create, List.find?_append]
  by_cases hn : name = order.name
  · subst hn
    rw [first?] at h
    simp [h, boot]
  · have : order.name ≠ name := fun h => hn h.symm
    simp [hn, this, boot, first?]

/-- **A new appliance under a new name** keeps the provider in order. -/
theorem Standing.create (h : Standing n m) (hn : n + 1 < 2 ^ 64) {order : ApplianceOrder}
    (hname : m.first? order.name = none) : Standing (n + 1) (m.create .instant order).2 where
  available := h.available
  lastId := by
    rw [applianceId_succ, ← h.lastId]
    rfl
  up := by
    simp only [Memory.create, List.mem_append, List.mem_singleton]
    rintro a (ha | rfl)
    · exact h.up a ha
    · exact ⟨rfl, rfl, rfl⟩
  addressed := by
    simp only [Memory.create, List.mem_append, List.mem_singleton]
    rintro a (ha | rfl)
    · exact h.addressed a ha
    · rfl
  issued := by
    simp only [Memory.create, List.mem_append, List.mem_singleton]
    rintro a (ha | rfl)
    · obtain ⟨k, hk, hid⟩ := h.issued a ha
      exact ⟨k, Nat.le_succ_of_le hk, hid⟩
    · exact ⟨n + 1, Nat.le_refl _, by rw [applianceId_succ, ← h.lastId]; rfl⟩
  names_nodup := by
    simp only [Memory.create, List.map_append, List.map_singleton, List.nodup_append]
    refine ⟨h.names_nodup, List.nodup_singleton _, ?_⟩
    intro x hx y hy hxy
    obtain ⟨a, ha, rfl⟩ := List.mem_map.1 hx
    rw [List.mem_singleton] at hy
    exact List.find?_eq_none.1 hname a ha (by simpa [boot, hxy] using hy)
  ids_nodup := by
    simp only [Memory.create, List.map_append, List.map_singleton, List.nodup_append]
    refine ⟨h.ids_nodup, List.nodup_singleton _, ?_⟩
    intro x hx y hy hxy
    obtain ⟨a, ha, rfl⟩ := List.mem_map.1 hx
    obtain ⟨k, hk, hid⟩ := h.issued a ha
    have last : a.id = applianceId (n + 1) := by
      rw [applianceId_succ, ← h.lastId, hxy]
      simpa [boot] using hy
    have := applianceId_injective (by omega) hn (hid ▸ last)
    omega

/-- **Deleting an appliance** keeps the provider in order. -/
theorem Standing.remove (h : Standing n m) (id : ApplianceId) :
    Standing n ((m.turnOff id).remove id) := by
  have fewer : ((m.turnOff id).remove id).appliances.Sublist m.appliances := by
    rw [appliances_remove_turnOff]
    exact List.filter_sublist
  exact {
    available := h.available
    lastId := h.lastId
    up := fun a ha => h.up a (fewer.mem ha)
    addressed := fun a ha => h.addressed a (fewer.mem ha)
    issued := fun a ha => h.issued a (fewer.mem ha)
    names_nodup := h.names_nodup.sublist (fewer.map _)
    ids_nodup := h.ids_nodup.sublist (fewer.map _) }

/-- Only the name of the deleted appliance is free again. -/
theorem first?_remove (h : Standing n m) (ha : m.first? name = some a) (name' : String) :
    ((m.turnOff a.id).remove a.id).first? name' =
      if name' = name then none else m.first? name' := by
  rw [first?, appliances_remove_turnOff]
  by_cases hn : name' = name
  · subst hn
    rw [if_pos rfl, List.find?_eq_none]
    intro b hb hname
    have hb := List.mem_filter.1 hb
    have heq : b.name = a.name := by rw [name_of_first? ha]; simpa using hname
    have : b = a := List.inj_on_of_nodup_map h.names_nodup hb.1 (mem_of_first? ha) heq
    simp [this] at hb
  · rw [if_neg hn, first?, List.find?_filter]
    refine List.find?_congr fun b hb => ?_
    by_cases hb' : b.name = name'
    · have : b.id ≠ a.id := fun hid => hn <| by
        rw [← hb', h.eq_of_id hb (mem_of_first? ha) hid, name_of_first? ha]
      simp [this]
    · simp [hb']

end Provider.Memory
namespace Dialect.Servers

/-- The servers of an engine can be reached, their rows can be read, and there are no rows yet
for the numbers after the `n`-th. -/
structure Kept (engine : Engine) (n : Nat) (s : Servers) : Prop where
  reachable : s.unreachable = false
  loads : ∀ salt binding row, s.row? salt binding = some row →
    ∃ password, loadedPassword engine salt row.stored = .ok password
  unissued : ∀ k, n < k → k < 2 ^ 64 → ∀ binding, s.row? (applianceId k).text binding = none

namespace Kept

variable {engine : Engine} {n : Nat} {s s' : Servers} {c : Connection} {binding : String}

/-- Servers on which nothing is stored are in good order. -/
theorem empty (engine : Engine) : Kept engine 0 {} :=
  ⟨rfl, fun _ _ _ h => absurd h (Option.some_ne_none _).symm, fun _ _ _ _ => rfl⟩

/-- Servers in good order are so for any greater number. -/
theorem mono {n' : Nat} (h : Kept engine n s) (hn : n ≤ n') : Kept engine n' s :=
  { h with unissued := fun k hk => h.unissued k (Nat.lt_of_le_of_lt hn hk) }

/-- Only the rows matter. -/
theorem of_row? (h : Kept engine n s) (hu : s'.unreachable = s.unreachable)
    (hr : ∀ salt binding, s'.row? salt binding = s.row? salt binding) : Kept engine n s' where
  reachable := hu.trans h.reachable
  loads salt binding row hrow := h.loads salt binding row (hr salt binding ▸ hrow)
  unissued k hk hk' binding := (hr _ binding).trans (h.unissued k hk hk' binding)

/-- Reaching a server leaves the servers in good order. -/
theorem connect (h : Kept engine n s) : Kept engine n (answer engine (.connect c) s).2 :=
  h.of_row? (unreachable_answer _ _ _) (row?_connect _ _ _)

/-- Preparing a server leaves the servers in good order. -/
theorem prepare (h : Kept engine n s) : Kept engine n (answer engine (.prepare c) s).2 :=
  h.of_row? (unreachable_answer _ _ _) (row?_prepare _ _ _)

/-- A new binding of an appliance can be read. -/
theorem create (h : Kept engine n s) {k : Nat} (hk : k ≤ n)
    (hsalt : c.salt = (applianceId k).text) (ht : (s.server c.salt).bindings.isSome)
    (draw : Draw) : Kept engine n (answer engine (.create c binding draw) s).2 where
  reachable := (unreachable_answer _ _ _).trans h.reachable
  loads salt binding' row hrow := by
    rw [row?_create _ _ _ _ _ ht] at hrow
    split at hrow
    · rename_i hnew
      cases hrow
      rw [hnew.1]
      exact ⟨_, loadedPassword_storedPassword _ _ _ _⟩
    · exact h.loads salt binding' row hrow
  unissued j hj hj' binding' := by
    rw [row?_create _ _ _ _ _ ht, if_neg]
    · exact h.unissued j hj hj' binding'
    · rintro ⟨hs, -⟩
      have := applianceId_injective hj' (by omega) (ApplianceId.text_injective (hs.trans hsalt))
      omega

/-- Removing a binding removes a row. -/
theorem delete (h : Kept engine n s) (username : String) :
    Kept engine n (answer engine (.delete c binding username) s).2 where
  reachable := (unreachable_answer _ _ _).trans h.reachable
  loads salt binding' row hrow := by
    rw [row?_delete] at hrow
    split at hrow
    · cases hrow
    · exact h.loads salt binding' row hrow
  unissued j hj hj' binding' := by
    rw [row?_delete, h.unissued j hj hj' binding', ite_self]

end Kept
end Dialect.Servers

namespace Broker

open Provider (Memory)

/-- Nothing goes on in the background, and provider and servers are in good order. -/
structure Steady (n : Nat) (b : Broker Memory) : Prop where
  atRest : b.deletions.AtRest
  provider : b.provider.Standing n
  servers : ∀ engine, (b.servers engine).Kept engine n

/-- A broker at its start is steady. -/
theorem steady_start : Steady 0 (start {}) where
  atRest := ⟨rfl, rfl, rfl, KeyedLock.free_empty⟩
  provider := Memory.standing_empty
  servers engine := by cases engine <;> exact Dialect.Servers.Kept.empty _

/-- Using chance disturbs nothing. -/
theorem Steady.withDrawn {n : Nat} {b : Broker Memory} (h : Steady n b) (drawn : Nat) :
    Steady n { b with drawn } where
  atRest := h.atRest
  provider := h.provider
  servers engine := by cases engine <;> exact h.servers _

end Broker
end ServiceBroker

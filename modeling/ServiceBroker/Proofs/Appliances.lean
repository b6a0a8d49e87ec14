/-
# Appliances in memory, one by one

Appliances have different numbers until the numbers come round.  What a call to a provider in
memory, or a change of the provider from outside, does to the appliance with a number.
-/

import ServiceBroker.Provider.Memory
import Mathlib.Algebra.Group.Nat.Defs
import Mathlib.Data.List.Find
import Mathlib.Tactic.Common

namespace ServiceBroker

/-- The number that the `k`-th appliance of a provider in memory gets. -/
def applianceId (k : Nat) : ApplianceId := 100000000000 + Int64.ofNat k

/-- Numbers are given one after another. -/
theorem applianceId_succ (k : Nat) : applianceId (k + 1) = applianceId k + 1 := by
  rw [applianceId, applianceId, Int64.ofNat_add, Int64.add_assoc]
  rfl

/-- The next number is another one, also where the numbers come round. -/
theorem ApplianceId.ne_add_one (id : ApplianceId) : id ≠ id + 1 := by
  intro h
  have : id + 0 = id + 1 := by rwa [Int64.add_zero]
  exact absurd ((Int64.add_right_inj id).1 this) (by decide)

/-- Appliances have different numbers until the numbers come round. -/
theorem applianceId_injective {j k : Nat} (hj : j < 2 ^ 64) (hk : k < 2 ^ 64)
    (h : applianceId j = applianceId k) : j = k := by
  have h : Int64.ofNat j = Int64.ofNat k := by
    have := congrArg (· - (100000000000 : Int64)) h
    simpa [applianceId, Int64.add_comm, Int64.add_sub_cancel] using this
  have h : j % 2 ^ 64 = k % 2 ^ 64 := by
    simpa [Int64.toBitVec_ofNat', BitVec.toNat_ofNat] using
      congrArg (fun i : Int64 => i.toBitVec.toNat) h
  rwa [Nat.mod_eq_of_lt hj, Nat.mod_eq_of_lt hk] at h

/-- An order with nothing out of the ordinary. -/
def ApplianceOrder.plain (name : String) : ApplianceOrder where
  name
  engine := .mariaDb
  planSize := 10
  switchId := 1
  ipAddress := ⟨10, 0, 0, 2⟩
  maskLength := 24
  defaultRoute := ⟨10, 0, 0, 1⟩
  port := 3306
  defaultUser := "root"
  userPassword := "secret"
  backupTime := none
  allowNetworks := []
  tags := [markerTag]

namespace Provider.Memory

/-- The provider after an appliance was turned off. -/
def turnOff (id : ApplianceId) (m : Memory) : Memory :=
  { m with
    appliances := m.appliances.map fun a =>
      if a.id = id then { a with instanceStatus := Appliance.statusDown } else a
    counts := { m.counts with stop := m.counts.stop + 1 } }

/-- The provider after an appliance was removed. -/
def remove (id : ApplianceId) (m : Memory) : Memory :=
  { m with
    appliances := m.appliances.filter (·.id ≠ id)
    counts := { m.counts with delete := m.counts.delete + 1 } }

section

variable {mode : BootMode} {m : Memory} {id : ApplianceId} {a : Appliance}

/-- An appliance is found under its own number. -/
theorem id_of_get? (h : m.get? id = some a) : a.id = id := by
  simpa using List.find?_some h

/-- A provider that is available reads an appliance as it stands. -/
theorem answer_read (hm : m.unavailable = false) :
    answer mode (.read id) m = (.ok (m.get? id), m) := by
  simp [answer, hm, perform]

/-- A provider that is available turns off an appliance that it has. -/
theorem answer_stop (hm : m.unavailable = false) (h : m.get? id = some a) :
    answer mode (.stop id) m = (.ok (), m.turnOff id) := by
  simp [answer, hm, perform, stop, h, turnOff]

/-- A provider that is available deletes an appliance that it has. -/
theorem answer_delete (hm : m.unavailable = false) (h : m.get? id = some a) :
    answer mode (.delete id) m = (.ok (), m.remove id) := by
  simp [answer, hm, perform, delete, h, remove]

/-- Of an appliance that is removed it does not matter that it was turned off. -/
theorem appliances_remove_turnOff :
    ((m.turnOff id).remove id).appliances = m.appliances.filter (·.id ≠ id) := by
  have hp : ((fun b : Appliance => decide (b.id ≠ id)) ∘ fun b : Appliance =>
      if b.id = id then { b with instanceStatus := Appliance.statusDown } else b) =
        fun b => decide (b.id ≠ id) := by
    funext b
    by_cases hb : b.id = id <;> simp [hb]
  simp only [remove, turnOff, List.filter_map]
  rw [hp]
  refine (List.map_congr_left fun b hb => ?_).trans (List.map_id _)
  have : b.id ≠ id := by simpa using (List.mem_filter.1 hb).2
  simp [this]

end

variable (mode : BootMode) (m : Memory) (id j : ApplianceId)

/-- Turning an appliance off changes it and no other. -/
theorem get?_turnOff : (m.turnOff j).get? id = (m.get? id).map fun a =>
    if id = j then { a with instanceStatus := Appliance.statusDown } else a := by
  have same : ((fun b : Appliance => decide (b.id = id)) ∘ fun b : Appliance =>
      if b.id = j then { b with instanceStatus := Appliance.statusDown } else b) =
        fun b => decide (b.id = id) := by
    funext b
    by_cases hb : b.id = j <;> simp [hb]
  rw [get?, turnOff, List.find?_map, same, ← get?]
  refine Option.map_congr fun a ha => ?_
  rw [id_of_get? ha]

/-- An appliance that is turned off is down, and otherwise as it was. -/
theorem get?_turnOff_self {m : Memory} {id : ApplianceId} {a : Appliance}
    (h : m.get? id = some a) :
    (m.turnOff id).get? id = some { a with instanceStatus := Appliance.statusDown } := by
  rw [get?_turnOff, h, Option.map_some, if_pos rfl]

/-- Removing an appliance takes it away and no other. -/
theorem get?_remove : (m.remove j).get? id = if id = j then none else m.get? id := by
  rw [get?, remove, List.find?_filter]
  by_cases hid : id = j
  · subst hid
    rw [if_pos rfl, List.find?_eq_none]
    intro b _
    by_cases hb : b.id = id <;> simp [hb]
  · rw [if_neg hid, get?]
    refine List.find?_congr fun b _ => ?_
    by_cases hb : b.id = id
    · simp [hb, hid]
    · simp [hb]

/-- Turning an appliance off changes it among those with its name. -/
theorem named_turnOff (name : String) : (m.turnOff j).named name = (m.named name).map fun a =>
    if a.id = j then { a with instanceStatus := Appliance.statusDown } else a := by
  have same : ((fun b : Appliance => decide (b.name = name)) ∘ fun b : Appliance =>
      if b.id = j then { b with instanceStatus := Appliance.statusDown } else b) =
        fun b => decide (b.name = name) := by
    funext b
    by_cases hb : b.id = j <;> simp [hb]
  rw [named, turnOff, List.filter_map, same, ← named]

/-- Removing an appliance takes it from those with its name. -/
theorem named_remove (name : String) :
    (m.remove j).named name = (m.named name).filter (·.id ≠ j) := by
  simp only [named, remove, List.filter_filter, Bool.and_comm]

/-- A call about an appliance that is there fails only while the provider is unavailable. -/
theorem answer_of_isSome (h : (m.get? id).isSome) :
    ((answer mode (.stop id) m).1 = .ok () ∧ (answer mode (.delete id) m).1 = .ok ()) ∨
      m.unavailable = true ∧ (answer mode (.stop id) m).1 = .error unavailableError ∧
        (answer mode (.delete id) m).1 = .error unavailableError := by
  by_cases hm : m.unavailable = true
  · exact .inr ⟨hm, by simp [answer, hm], by simp [answer, hm]⟩
  · exact .inl ⟨by simp [answer, hm, perform, stop, h], by simp [answer, hm, perform, delete, h]⟩

/-- **What a call about an appliance does**: it turns it off, removes it, or is only counted. -/
theorem answer_cases {call : Call} (h : call.target? = some j) :
    (∃ counts, (answer mode call m).2 = { m with counts }) ∨
      (call = .stop j ∧ answer mode (.stop j) m = (.ok (), m.turnOff j)) ∨
      call = .delete j ∧ answer mode (.delete j) m = (.ok (), m.remove j) := by
  by_cases hm : m.unavailable = true
  · exact .inl ⟨m.counts, congrArg Prod.snd (if_pos hm)⟩
  cases call with
  | read id => exact .inl ⟨m.counts, congrArg Prod.snd (if_neg hm)⟩
  | status id => exact .inl ⟨m.counts, congrArg Prod.snd (if_neg hm)⟩
  | stop id =>
    obtain rfl : id = j := Option.some.inj h
    cases ha : m.get? id with
    | none => exact .inl ⟨_, by simp [answer, hm, perform, stop, ha]; rfl⟩
    | some a => exact .inr (.inl ⟨rfl, answer_stop (by simpa using hm) ha⟩)
  | delete id =>
    obtain rfl : id = j := Option.some.inj h
    cases ha : m.get? id with
    | none => exact .inl ⟨_, by simp [answer, hm, perform, delete, ha]; rfl⟩
    | some a => exact .inr (.inr ⟨rfl, answer_delete (by simpa using hm) ha⟩)
  | _ => cases h

/-- A call about appliances leaves an appliance as it is, unless it turns it off or deletes it. -/
theorem get?_answer {call : Call} (h : call.target? = some j) :
    (answer mode call m).2.get? id = m.get? id ∨
      (call = .stop id ∧ (answer mode (.stop id) m).1 = .ok ()) ∨
      call = .delete id ∧ (answer mode (.delete id) m).1 = .ok () := by
  rcases answer_cases mode m j h with ⟨counts, same⟩ | ⟨rfl, off⟩ | ⟨rfl, removed⟩
  · rw [same]
    exact .inl rfl
  · by_cases hj : id = j
    · subst hj
      exact .inr (.inl ⟨rfl, congrArg Prod.fst off⟩)
    · rw [off, get?_turnOff]
      simp [hj]
  · by_cases hj : id = j
    · subst hj
      exact .inr (.inr ⟨rfl, congrArg Prod.fst removed⟩)
    · rw [removed, get?_remove, if_neg hj]
      exact .inl rfl

/-- Only a call that deletes an appliance removes it. -/
theorem isSome_get?_answer {call : Call} (ht : call.target? = some j) (hc : call ≠ .delete id) :
    ((answer mode call m).2.get? id).isSome = (m.get? id).isSome := by
  rcases answer_cases mode m j ht with ⟨counts, same⟩ | ⟨rfl, off⟩ | ⟨rfl, removed⟩
  · rw [same]
    rfl
  · rw [off, get?_turnOff, Option.isSome_map]
  · rw [removed, get?_remove, if_neg]
    rintro rfl
    exact hc rfl

/-- Only a new appliance takes a number. -/
theorem lastId_answer {call : Call} (ht : call.target? = some j) :
    (answer mode call m).2.lastId = m.lastId := by
  rcases answer_cases mode m j ht with ⟨counts, same⟩ | ⟨rfl, off⟩ | ⟨rfl, removed⟩
  · rw [same]
  · rw [off]
    rfl
  · rw [removed]
    rfl

/-- No call makes the provider available or unavailable. -/
theorem unavailable_answer (call : Call) :
    (answer mode call m).2.unavailable = m.unavailable := by
  rw [answer]
  split
  · rfl
  · cases call with
    | stop id =>
      rw [perform, stop]
      split <;> rfl
    | delete id =>
      rw [perform, delete]
      split <;> rfl
    | _ => rfl

/-- What happens to a provider in memory from outside: appliances are created and marked, and the
provider becomes available or unavailable. -/
inductive Changes (m : Memory) : Memory → Prop where
  | create (mode : BootMode) (order : ApplianceOrder) : Changes m (m.create mode order).2
  | mark (name status availability : String) : Changes m (m.mark name status availability).2
  | switch (unavailable : Bool) : Changes m { m with unavailable }
  /-- Calls are counted that others make. -/
  | count (counts : CallCounts) : Changes m { m with counts }

/-- Marking changes neither numbers nor their order. -/
theorem map_id_changeFirst (name : String) (change : Appliance → Appliance)
    (hc : ∀ a, (change a).id = a.id) (appliances : List Appliance) :
    (changeFirst name change appliances).map (·.id) = appliances.map (·.id) := by
  induction appliances with
  | nil => rfl
  | cons a rest ih =>
    rw [changeFirst]
    split
    · simp [hc]
    · simp [ih]

/-- An appliance is found exactly where its number is listed. -/
theorem isSome_get?_iff : (m.get? id).isSome ↔ id ∈ m.appliances.map (·.id) := by
  simp [get?, List.find?_isSome]

/-- From outside an appliance only appears, and only under the next number. -/
theorem Changes.isSome_get? {m m' : Memory} (h : Changes m m') (id : ApplianceId) :
    m'.lastId = m.lastId ∧ ((m'.get? id).isSome ↔ (m.get? id).isSome) ∨
      m'.lastId = m.lastId + 1 ∧
        ((m'.get? id).isSome ↔ (m.get? id).isSome ∨ id = m'.lastId) := by
  simp only [isSome_get?_iff]
  cases h with
  | create mode order =>
    refine .inr ⟨rfl, ?_⟩
    simp only [Memory.create, List.map_append, List.mem_append, List.map_singleton,
      List.mem_singleton]
    rfl
  | mark name status availability =>
    refine .inl ⟨rfl, ?_⟩
    rw [Memory.mark, map_id_changeFirst]
    exact fun _ => rfl
  | switch unavailable => exact .inl ⟨rfl, Iff.rfl⟩
  | count counts => exact .inl ⟨rfl, Iff.rfl⟩

end Provider.Memory

/-- A provider in memory answers at once. -/
theorem Provider.answer_of_inMemory {p : Provider Provider.Memory} {mode : Provider.BootMode}
    {w i : Duration} (hp : p = Provider.inMemory mode w i) (now : Instant) (call : Provider.Call)
    (m : Provider.Memory) : p.answer now call m =
      (⟨0, (Provider.Memory.answer mode call m).1⟩, (Provider.Memory.answer mode call m).2) := by
  rw [hp]
  rfl

end ServiceBroker

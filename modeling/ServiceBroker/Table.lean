/-
# Tables

A finite map as the list of its entries, each key once, in the order in which the keys
came.  `get?_put_self`, `get?_put_of_ne`, `get?_erase_self` and `get?_erase_of_ne` say
what each operation does to a look-up.
-/

namespace ServiceBroker

/-- Entries by key, each key once. -/
structure Table (κ α : Type) where
  entries : List (κ × α)
  keys_nodup : (entries.map Prod.fst).Nodup

namespace Table

variable {κ α : Type} [DecidableEq κ]

/-- A table without entries. -/
def empty : Table κ α := ⟨[], List.nodup_nil⟩

instance : Inhabited (Table κ α) := ⟨empty⟩

instance : EmptyCollection (Table κ α) := ⟨empty⟩

/-- The value under a key. -/
def get? (t : Table κ α) (key : κ) : Option α := t.entries.lookup key

/-- The keys of the entries, in order. -/
def keys (t : Table κ α) : List κ := t.entries.map Prod.fst

/-- The number of keys. -/
def size (t : Table κ α) : Nat := t.entries.length

/-- The entries with the value of a key set; a new key comes last. -/
def putEntry (key : κ) (value : α) : List (κ × α) → List (κ × α)
  | [] => [(key, value)]
  | (k, v) :: rest => if k = key then (key, value) :: rest else (k, v) :: putEntry key value rest

/-- The keys after an entry is put are those before and its own. -/
theorem mem_keys_putEntry {key k : κ} {value : α} {entries : List (κ × α)} :
    k ∈ (putEntry key value entries).map Prod.fst ↔ k = key ∨ k ∈ entries.map Prod.fst := by
  induction entries with
  | nil => simp [putEntry]
  | cons e rest ih =>
    obtain ⟨k', v⟩ := e
    by_cases h : k' = key
    · simp [putEntry, h]
    · simp only [putEntry, h, if_false, List.map_cons, List.mem_cons, ih]
      grind

/-- Keys stay distinct when an entry is put. -/
theorem nodup_putEntry {key : κ} {value : α} {entries : List (κ × α)}
    (h : (entries.map Prod.fst).Nodup) : ((putEntry key value entries).map Prod.fst).Nodup := by
  induction entries with
  | nil => simp [putEntry]
  | cons e rest ih =>
    obtain ⟨k', v⟩ := e
    simp only [List.map_cons, List.nodup_cons] at h
    by_cases hk : k' = key
    · subst hk
      simp [putEntry, h.1, h.2]
    · simp only [putEntry, hk, if_false, List.map_cons, List.nodup_cons]
      refine ⟨fun hm => ?_, ih h.2⟩
      rcases mem_keys_putEntry.1 hm with hm | hm
      · exact hk hm
      · exact h.1 hm

/-- The table with the value of a key set. -/
def put (t : Table κ α) (key : κ) (value : α) : Table κ α :=
  ⟨putEntry key value t.entries, nodup_putEntry t.keys_nodup⟩

/-- The table without a key. -/
def erase (t : Table κ α) (key : κ) : Table κ α :=
  ⟨t.entries.filter fun e => e.1 ≠ key,
    t.keys_nodup.sublist (List.filter_sublist.map Prod.fst)⟩

/-- The table with every value made into another. -/
def map {β : Type} (f : α → β) (t : Table κ α) : Table κ β :=
  ⟨t.entries.map (Prod.map id f), by rw [List.map_map]; exact t.keys_nodup⟩

/-- Nothing is found in an empty table. -/
@[simp] theorem get?_empty (key : κ) : (empty : Table κ α).get? key = none := rfl

/-- An entry that was put is found under its key, and the others as before. -/
theorem lookup_putEntry (key k : κ) (value : α) (entries : List (κ × α)) :
    (putEntry key value entries).lookup k = if k = key then some value else entries.lookup k := by
  induction entries with
  | nil =>
    by_cases h : k = key
    · simp [putEntry, h]
    · simp [putEntry, List.lookup_cons, h, beq_eq_false_iff_ne.2 h]
  | cons e rest ih =>
    obtain ⟨k', v⟩ := e
    by_cases h' : k' = key <;> by_cases h : k = key <;>
      simp [putEntry, List.lookup_cons, h', h, ih] <;> grind

/-- What was put is found under its key, and the other keys as before. -/
theorem get?_put (t : Table κ α) (key k : κ) (value : α) :
    (t.put key value).get? k = if k = key then some value else t.get? k := by
  simp [get?, put, lookup_putEntry]

/-- What was put is found. -/
@[simp] theorem get?_put_self (t : Table κ α) (key : κ) (value : α) :
    (t.put key value).get? key = some value := by
  simp [get?, put, lookup_putEntry]

/-- Another key is looked up as before. -/
theorem get?_put_of_ne (t : Table κ α) {key k : κ} (value : α) (h : k ≠ key) :
    (t.put key value).get? k = t.get? k := by
  simp [get?, put, lookup_putEntry, h]

/-- What is there stays where a new key is put. -/
theorem get?_put_of_some {t : Table κ α} {key k : κ} {found : α} (there : t.get? k = some found)
    (absent : t.get? key = none) (value : α) : (t.put key value).get? k = some found := by
  refine (get?_put_of_ne t value ?_).trans there
  rintro rfl
  rw [there] at absent
  cases absent

/-- Nothing is found under a key whose entries are dropped, and the others as before. -/
theorem lookup_filter_ne (key k : κ) (entries : List (κ × α)) :
    (entries.filter fun e => e.1 ≠ key).lookup k =
      if k = key then none else entries.lookup k := by
  induction entries with
  | nil => simp
  | cons e rest ih =>
    obtain ⟨k', v⟩ := e
    by_cases h' : k' = key <;> by_cases h : k = key <;>
      simp [List.lookup_cons, h', h] at ih ⊢ <;> grind

/-- Nothing is found under a key that was erased. -/
@[simp] theorem get?_erase_self (t : Table κ α) (key : κ) : (t.erase key).get? key = none := by
  simp only [get?, erase, lookup_filter_ne, if_true]

/-- Another key than the erased one is looked up as before. -/
theorem get?_erase_of_ne (t : Table κ α) {key k : κ} (h : k ≠ key) :
    (t.erase key).get? k = t.get? k := by
  simp only [get?, erase, lookup_filter_ne, if_neg h]

/-- Nothing is found under a key exactly where it is none of the keys. -/
theorem get?_eq_none_iff {t : Table κ α} {key : κ} : t.get? key = none ↔ key ∉ t.keys := by
  simp only [get?, keys, List.lookup_eq_none_iff, List.mem_map, not_exists, not_and]
  constructor
  · rintro h ⟨k, v⟩ he rfl
    simpa using h ⟨k, v⟩ he
  · intro h e he
    simpa using fun same => h e he same.symm

/-- A key under which something is found is one of the keys. -/
theorem mem_keys_of_get? {t : Table κ α} {key : κ} {value : α} (h : t.get? key = some value) :
    key ∈ t.keys := by
  refine Decidable.byContradiction fun absent => ?_
  rw [get?_eq_none_iff.2 absent] at h
  cases h

/-- A new entry goes to the end. -/
theorem putEntry_of_notMem {key : κ} {value : α} {entries : List (κ × α)}
    (h : key ∉ entries.map Prod.fst) : putEntry key value entries = entries ++ [(key, value)] := by
  induction entries with
  | nil => rfl
  | cons e rest ih =>
    obtain ⟨k, v⟩ := e
    rw [List.map_cons, List.mem_cons, not_or] at h
    rw [putEntry, if_neg (Ne.symm h.1), ih h.2]
    rfl

/-- A key that is there keeps its place. -/
theorem map_fst_putEntry_of_mem {key : κ} {value : α} {entries : List (κ × α)}
    (h : key ∈ entries.map Prod.fst) :
    (putEntry key value entries).map Prod.fst = entries.map Prod.fst := by
  induction entries with
  | nil => cases h
  | cons e rest ih =>
    obtain ⟨k, v⟩ := e
    by_cases hk : k = key
    · rw [putEntry, if_pos hk, List.map_cons, List.map_cons, hk]
    · rw [putEntry, if_neg hk, List.map_cons, List.map_cons, ih]
      exact (List.mem_cons.1 h).resolve_left (Ne.symm hk)

/-- **A new key comes last.** -/
theorem entries_put {t : Table κ α} {key : κ} (value : α) (h : t.get? key = none) :
    (t.put key value).entries = t.entries ++ [(key, value)] :=
  putEntry_of_notMem (get?_eq_none_iff.1 h)

/-- A new key goes to the end. -/
theorem keys_put {t : Table κ α} {key : κ} (value : α) (h : t.get? key = none) :
    (t.put key value).keys = t.keys ++ [key] := by
  rw [keys, entries_put value h, List.map_append]
  rfl

/-- A key that is set again stays where it is. -/
theorem keys_put_of_mem {t : Table κ α} {key : κ} (value : α) (h : key ∈ t.keys) :
    (t.put key value).keys = t.keys :=
  map_fst_putEntry_of_mem h

/-- The keys after an erasure are the others, in their order. -/
theorem keys_erase (t : Table κ α) (key : κ) :
    (t.erase key).keys = t.keys.filter (· ≠ key) := by
  rw [keys, keys, List.filter_map]
  rfl

omit [DecidableEq κ] in
/-- The keys stay where they are. -/
theorem keys_map {β : Type} (f : α → β) (t : Table κ α) : (t.map f).keys = t.keys := List.map_map

/-- Looking up commutes with changing every value. -/
theorem get?_map {β : Type} (f : α → β) (t : Table κ α) (key : κ) :
    (t.map f).get? key = (t.get? key).map f := by
  show (t.entries.map (Prod.map id f)).lookup key = (t.entries.lookup key).map f
  induction t.entries with
  | nil => rfl
  | cons e rest ih =>
    obtain ⟨k, v⟩ := e
    rw [List.map_cons, Prod.map_apply, id, List.lookup_cons, List.lookup_cons, ih]
    cases key == k <;> rfl

/-- Nothing is erased under a key that is not there. -/
theorem erase_of_get?_eq_none {t : Table κ α} {key : κ} (h : t.get? key = none) :
    t.erase key = t := by
  have absent := get?_eq_none_iff.1 h
  obtain ⟨entries, nodup⟩ := t
  have all : entries.filter (fun e => e.1 ≠ key) = entries :=
    List.filter_eq_self.2 fun e he =>
      decide_eq_true fun same => absent (same ▸ List.mem_map_of_mem he)
  simp only [erase, all]

end Table
end ServiceBroker

/-
# A lock table that is left before waiting

Who wants a lock looks it up in a table, leaves the table, and asks for the lock that was
found when other requests may have come and gone (`LockTable`, `Locking`).  The lock of a key
never changes its place, so looking up and asking come to what a request by key does
(`LockTable.keyed_lookUp`, `LockTable.keyed_ask`, `LockTable.keyed_pass`), and the locks of
`Locking` take the steps of the locks by key (`Locking.Sound.simulates_step`).

`Locking.excludes_orders_remembers` states what follows for any number of requests for any keys
in any order of their steps.
-/

import ServiceBroker.Concurrency.Locking
import ServiceBroker.Proofs.Fairness
import Mathlib.Data.Finset.Card

namespace ServiceBroker

namespace LockTable

variable {ρ : Type} (t : LockTable ρ) (key : Int64) {k : Int64} {place : Nat}

/-- The lock of a key is the one that its place holds. -/
theorem get?_keyed : t.keyed.get? key = (t.places.get? key).map t.lock := Table.get?_map ..

/-- There are as many locks by their keys as keys with a place. -/
theorem size_keyed : t.keyed.size = t.places.keys.length := by
  rw [KeyedLock.size, keyed, Table.size, Table.keys, List.length_map]
  exact List.length_map _

/-- A new lock changes no other one. -/
theorem lock_make : (t.make key).lock = t.lock := by
  funext place
  show (t.locks ++ [.free])[place]?.getD .free = t.locks[place]?.getD .free
  rw [List.getElem?_append]
  split_ifs with inside
  · rfl
  · rw [List.getElem?_eq_none (Nat.not_lt.1 inside)]
    cases place - t.locks.length <;> rfl

/-- **To look a lock up in the table is to look it up by its key.** -/
theorem keyed_lookUp : (t.lookUp key).2.keyed = t.keyed.know key := by
  rw [lookUp, KeyedLock.know, get?_keyed]
  cases new : t.places.get? key with
  | some place => rfl
  | none =>
    have unknown : t.keyed.entries.get? key = none := by
      rw [← KeyedLock.get?, get?_keyed, new, Option.map_none]
    refine congrArg KeyedLock.mk (Table.eq_of_get? ?_ fun k => ?_)
    · rw [Table.keys_map, Table.keys_put _ unknown]
      exact (Table.keys_put _ new).trans (congrArg (· ++ [key]) (Table.keys_map ..).symm)
    · rw [Table.get?_map, Table.get?_put]
      show ((t.places.put key t.locks.length).get? k).map _ = _
      rw [Table.get?_put, lock_make]
      split_ifs with is
      · rw [Option.map_some, lock, List.getElem?_eq_none (Nat.le_refl _), Option.getD_none]
      · exact (get?_keyed t k).symm

/-- The place that a look-up gives is the one that is found from then on. -/
theorem get?_lookUp : (t.lookUp key).2.places.get? key = some (t.lookUp key).1 := by
  rw [lookUp]
  cases there : t.places.get? key with
  | some place => exact there
  | none => exact Table.get?_put_self _ _ _

/-- **The lock of a key stays where it is.** -/
theorem get?_lookUp_of_some (there : t.places.get? k = some place) :
    (t.lookUp key).2.places.get? k = some place := by
  rw [lookUp]
  cases new : t.places.get? key with
  | some place => exact there
  | none => exact Table.get?_put_of_some there new _

/-- A look-up gives no other key a place than the one that it is for. -/
theorem mem_keys_lookUp (known : k ∈ (t.lookUp key).2.places.keys) :
    k = key ∨ k ∈ t.places.keys := by
  rw [lookUp] at known
  cases new : t.places.get? key with
  | some place =>
    rw [new] at known
    exact .inr known
  | none =>
    rw [new] at known
    exact Table.mem_keys_putEntry.1 known

variable {t key}

/-- A lock changes for its key alone. -/
theorem keyed_change (there : t.places.get? key = some place) (lock : LockEntry ρ) :
    (t.change place lock).keyed = ⟨t.keyed.entries.put key lock⟩ := by
  have known : key ∈ t.keyed.entries.keys := by
    rw [keyed, Table.keys_map]
    exact Table.mem_keys_of_get? there
  refine congrArg KeyedLock.mk (Table.eq_of_get? ?_ fun k => ?_)
  · rw [Table.keys_put_of_mem _ known, keyed, Table.keys_map, Table.keys_map]
    rfl
  · rw [Table.get?_map, Table.get?_put]
    show (t.places.get? k).map (fun p => (t.locks.set place lock)[p]?.getD .free) = _
    split_ifs with is
    · rw [is, there, Option.map_some, List.getElem?_set_self (t.inside there), Option.getD_some]
    · rw [← KeyedLock.get?, get?_keyed]
      refine Option.map_congr fun p elsewhere => ?_
      have ne : place ≠ p := by
        rintro rfl
        exact is (t.apart elsewhere there)
      rw [List.getElem?_set_ne ne, LockTable.lock]

/-- **To ask for the lock that was found is to request the key.** -/
theorem keyed_ask (there : t.places.get? key = some place) (who : ρ) :
    ((t.ask place who).1, (t.ask place who).2.keyed) = t.keyed.request key who := by
  rw [KeyedLock.request_eq, get?_keyed, there, Option.map_some, Option.getD_some, ask,
    keyed_change there]

/-- **To give up the lock that was found is to release the key.** -/
theorem keyed_pass (there : t.places.get? key = some place) :
    ((t.pass place).1, (t.pass place).2.keyed) = t.keyed.release key := by
  have lock : t.keyed.get? key = some (t.lock place) := by
    rw [get?_keyed, there, Option.map_some]
  rw [KeyedLock.release_eq _ _ lock, pass, keyed_change there]

end LockTable

namespace KeyedLock

variable {ρ : Type} (locks : KeyedLock ρ) (key : Int64) {who i : ρ}

/-- Who asks for a key is one more holder if it was granted the key at once. -/
theorem exists_holder?_request : (∃ k, (locks.request key who).2.holder? k = some i) ↔
    (∃ k, locks.holder? k = some i) ∨ (locks.request key who).1 = true ∧ who = i := by
  simp only [holder?_request, fst_request]
  cases free : locks.holder? key with
  | none =>
    rw [Option.isNone_none, Option.getD_none]
    constructor
    · rintro ⟨k, held⟩
      split_ifs at held with is
      · exact .inr ⟨rfl, Option.some.inj held⟩
      · exact .inl ⟨k, held⟩
    · rintro (⟨k, held⟩ | ⟨-, rfl⟩)
      · have other : k ≠ key := by
          rintro rfl
          cases free.symm.trans held
        exact ⟨k, (if_neg other).trans held⟩
      · exact ⟨key, if_pos rfl⟩
  | some other =>
    have same (k : Int64) : (if k = key then some ((some other).getD who)
        else locks.holder? k) = locks.holder? k := by
      split_ifs with is
      · rw [is, free, Option.getD_some]
      · rfl
    simp only [same, Option.isNone_some, Bool.false_eq_true, false_and, or_false]

variable {locks key}

/-- Who gives its only key up holds none unless it is the next one. -/
theorem exists_holder?_release (holds : locks.holder? key = some who)
    (only : ∀ k, locks.holder? k = some who → k = key) :
    (∃ k, (locks.release key).2.holder? k = some i) ↔
      (∃ k, locks.holder? k = some i) ∧ i ≠ who ∨ (locks.release key).1 = some i := by
  simp only [holder?_release, fst_release]
  constructor
  · rintro ⟨k, held⟩
    split_ifs at held with is
    · exact .inr held
    · refine .inl ⟨⟨k, held⟩, ?_⟩
      rintro rfl
      exact is (only k held)
  · rintro (⟨⟨k, held⟩, ne⟩ | next)
    · have other : k ≠ key := by
        rintro rfl
        exact ne (Option.some.inj (held.symm.trans holds))
      exact ⟨k, (if_neg other).trans held⟩
    · exact ⟨key, (if_pos rfl).trans next⟩

/-- Who has asked for a key after one asks for it is that one or had asked before. -/
theorem mem_asked_snoc_asked {events : List (Event ρ)} {k : Int64} {granted : Bool} :
    i ∈ asked k (events ++ [.asked key who granted]) ↔
      i ∈ asked k events ∨ key = k ∧ who = i := by
  rw [asked_snoc, List.mem_append, Option.mem_toList, Event.asked?, Option.ite_none_right_eq_some,
    Option.some.injEq]

end KeyedLock

namespace Locking

variable {events : List (KeyedLock.Event Nat)} {e : KeyedLock.Event Nat} {t t' : Locking}

/-- **What the steps keep.**  Requests have found the place of their key; who asked for a key did
so once and has that key; who is about to ask has not asked; the guards are the holders. -/
structure Sound (events : List (KeyedLock.Event Nat)) (t : Locking) : Prop where
  simulates : KeyedLock.Run events t.locks
  found : KeyedLock.found events = t.requests.map (·.key)
  placed : ∀ r ∈ t.requests, t.table.places.get? r.key = some r.place
  known : ∀ key, key ∈ t.table.places.keys → key ∈ KeyedLock.found events
  fresh : ∀ who ∈ t.about, who < t.requests.length ∧ ∀ key, who ∉ KeyedLock.asked key events
  by_key : ∀ key, ∀ who ∈ KeyedLock.asked key events, t.key? who = some key
  once : ∀ key, (KeyedLock.asked key events).Nodup
  holds : ∀ who, who ∈ t.guards ↔ ∃ key, t.locks.holder? key = some who
  guards : t.guards.Nodup

/-- The key of a request is the one that it is for. -/
theorem key?_of_getElem? {who : Nat} {r : LockRequest} (requested : t.requests[who]? = some r) :
    t.key? who = some r.key := by
  rw [key?, requested, Option.map_some]

/-- A request stays for the key that it was for. -/
theorem key?_find (key : Int64) {k : Int64} {who : Nat} (is : t.key? who = some k) :
    (t.find key).key? who = some k := by
  obtain ⟨r, requested, rfl⟩ := Option.map_eq_some_iff.1 is
  refine key?_of_getElem? ?_
  rw [find, List.getElem?_append_left (List.getElem?_eq_some_iff.1 requested).1, requested]

/-- After one asks the guards are those before, and that one if it is granted the key at once. -/
theorem mem_guards_ask {who i : Nat} {r : LockRequest} :
    i ∈ (t.ask who r).2.guards ↔ i ∈ t.guards ∨ (t.ask who r).1 = true ∧ who = i := by
  show i ∈ t.guards ++ (if (t.ask who r).1 then some who else none).toList ↔ _
  rw [List.mem_append, Option.mem_toList, Option.ite_none_right_eq_some, Option.some.injEq]

/-- After one gives its key up the guards are the others, and who is granted the key. -/
theorem mem_guards_release {who i : Nat} {r : LockRequest} :
    i ∈ (t.release who r).2.guards ↔ i ∈ t.guards ∧ i ≠ who ∨ (t.release who r).1 = some i := by
  show i ∈ t.guards.filter (· ≠ who) ++ (t.release who r).1.toList ↔ _
  rw [List.mem_append, List.mem_filter, decide_eq_true_iff, Option.mem_toList]

namespace Sound

/-- The requests for a key are served in the order in which they asked. -/
theorem fair (h : Sound events t) (key : Int64) : KeyedLock.Fair events t.locks key :=
  h.simulates.fair key

/-- Who holds a key or waits for it is a request for this key. -/
theorem key?_of_mem (h : Sound events t) {key : Int64} {who : Nat}
    (there : t.locks.holder? key = some who ∨ who ∈ t.locks.queue key) : t.key? who = some key :=
  h.by_key key who ((h.fair key).mem_asked there)

/-- A guard of a key is its holder. -/
theorem holder?_of_mem (h : Sound events t) {key : Int64} {who : Nat} (mem : who ∈ t.guards)
    (is : t.key? who = some key) : t.locks.holder? key = some who := by
  obtain ⟨k, held⟩ := (h.holds who).1 mem
  cases is.symm.trans (h.key?_of_mem (.inl held))
  exact held

/-- Finding the place of a key is looking up the lock by its key. -/
theorem locks_find (key : Int64) : (t.find key).locks = t.locks.know key :=
  LockTable.keyed_lookUp ..

/-- Asking at the place that was found is asking for the lock by its key. -/
theorem ask_eq (h : Sound events t) {who : Nat} {r : LockRequest}
    (requested : t.requests[who]? = some r) :
    ((t.ask who r).1, (t.ask who r).2.locks) = t.locks.request r.key who :=
  LockTable.keyed_ask (h.placed r (List.mem_of_getElem? requested)) who

/-- Giving up at the place that was found is giving up the lock by its key. -/
theorem release_eq (h : Sound events t) {who : Nat} {r : LockRequest}
    (requested : t.requests[who]? = some r) :
    ((t.release who r).1, (t.release who r).2.locks) = t.locks.release r.key :=
  LockTable.keyed_pass (h.placed r (List.mem_of_getElem? requested))

/-- **The steps are those of the locks by key.** -/
theorem simulates_step (h : Sound events t) (step : Step t e t') :
    KeyedLock.Step t.locks e t'.locks := by
  cases step with
  | find key =>
    rw [locks_find]
    exact .find key
  | ask who r _ requested =>
    obtain ⟨granted, locks⟩ := Prod.ext_iff.1 (h.ask_eq requested)
    dsimp only at granted locks
    rw [granted, locks]
    exact .ask r.key who
  | release who r guards requested =>
    obtain ⟨next, locks⟩ := Prod.ext_iff.1 (h.release_eq requested)
    dsimp only at next locks
    rw [next, locks]
    exact .release (h.holder?_of_mem guards (key?_of_getElem? requested))

/-- Finding the place of a key keeps all sound. -/
theorem find (h : Sound events t) (key : Int64) :
    Sound (events ++ [.found key]) (t.find key) := by
  have asked (k : Int64) : KeyedLock.asked k (events ++ [.found key]) = KeyedLock.asked k events :=
    KeyedLock.asked_snoc_of_none rfl
  constructor
  case simulates => exact h.simulates.step (h.simulates_step (.find key))
  case found =>
    rw [KeyedLock.found_snoc, h.found, Locking.find, List.map_append]
    rfl
  case placed =>
    intro r mem
    rcases List.mem_append.1 mem with old | new
    · exact LockTable.get?_lookUp_of_some _ _ (h.placed r old)
    · rw [List.mem_singleton.1 new]
      exact LockTable.get?_lookUp ..
  case known =>
    intro k mem
    rw [KeyedLock.found_snoc, List.mem_append]
    rcases LockTable.mem_keys_lookUp _ _ mem with rfl | old
    · exact .inr (List.mem_singleton_self _)
    · exact .inl (h.known k old)
  case fresh =>
    intro who mem
    simp only [Locking.find, List.length_append, List.length_singleton, asked]
    rcases List.mem_append.1 mem with old | new
    · exact ⟨Nat.lt_succ_of_lt (h.fresh who old).1, (h.fresh who old).2⟩
    · rw [List.mem_singleton.1 new]
      refine ⟨Nat.lt_succ_self _, fun k before => ?_⟩
      have is := h.by_key k t.requests.length before
      rw [key?, List.getElem?_eq_none (Nat.le_refl _)] at is
      cases is
  case by_key =>
    intro k who mem
    rw [asked] at mem
    exact key?_find key (h.by_key k who mem)
  case once =>
    intro k
    rw [asked]
    exact h.once k
  case holds =>
    intro who
    simp only [locks_find, KeyedLock.holder?_know]
    exact h.holds who
  case guards => exact h.guards

/-- Asking for a key whose place was found keeps all sound. -/
theorem ask (h : Sound events t) {who : Nat} {r : LockRequest} (about : who ∈ t.about)
    (requested : t.requests[who]? = some r) :
    Sound (events ++ [.asked r.key who (t.ask who r).1]) (t.ask who r).2 := by
  obtain ⟨granted, locks⟩ := Prod.ext_iff.1 (h.ask_eq requested)
  dsimp only at granted locks
  have found : KeyedLock.found (events ++ [.asked r.key who (t.ask who r).1]) =
      KeyedLock.found events :=
    KeyedLock.found_snoc_of_none rfl
  -- Who asks has not asked for any key, and so is not the holder of any.
  have unasked := (h.fresh who about).2
  have unheld : who ∉ t.guards := fun mem => by
    obtain ⟨k, held⟩ := (h.holds who).1 mem
    exact unasked k ((h.fair k).mem_asked (.inl held))
  constructor
  case simulates => exact h.simulates.step (h.simulates_step (.ask who r about requested))
  case found => exact found.trans h.found
  case placed => exact h.placed
  case known =>
    rw [found]
    exact h.known
  case fresh =>
    intro i mem
    obtain ⟨old, ne⟩ := List.mem_filter.1 mem
    refine ⟨(h.fresh i old).1, fun k => ?_⟩
    rw [KeyedLock.mem_asked_snoc_asked]
    rintro (before | ⟨-, rfl⟩)
    · exact (h.fresh i old).2 k before
    · exact of_decide_eq_true ne rfl
  case by_key =>
    intro k i mem
    rcases KeyedLock.mem_asked_snoc_asked.1 mem with before | ⟨rfl, rfl⟩
    · exact h.by_key k i before
    · exact key?_of_getElem? requested
  case once =>
    intro k
    rw [KeyedLock.asked_snoc]
    refine nodup_append_toList (h.once k) fun i new => ?_
    obtain ⟨-, is⟩ := Option.ite_none_right_eq_some.1 new
    cases is
    exact unasked k
  case holds =>
    intro i
    rw [mem_guards_ask, h.holds, locks, KeyedLock.exists_holder?_request, granted]
  case guards =>
    refine nodup_append_toList h.guards fun i new => ?_
    obtain ⟨-, is⟩ := Option.ite_none_right_eq_some.1 new
    cases is
    exact unheld

/-- Giving a key up keeps all sound. -/
theorem release (h : Sound events t) {who : Nat} {r : LockRequest} (guards : who ∈ t.guards)
    (requested : t.requests[who]? = some r) :
    Sound (events ++ [.released r.key who (t.release who r).1]) (t.release who r).2 := by
  obtain ⟨next, locks⟩ := Prod.ext_iff.1 (h.release_eq requested)
  dsimp only at next locks
  have mine := key?_of_getElem? requested
  have holds := h.holder?_of_mem guards mine
  have only (k : Int64) (held : t.locks.holder? k = some who) : k = r.key :=
    Option.some.inj ((h.key?_of_mem (.inl held)).symm.trans mine)
  have found : KeyedLock.found (events ++ [.released r.key who (t.release who r).1]) =
      KeyedLock.found events :=
    KeyedLock.found_snoc_of_none rfl
  have asked (k : Int64) : KeyedLock.asked k
      (events ++ [.released r.key who (t.release who r).1]) = KeyedLock.asked k events :=
    KeyedLock.asked_snoc_of_none rfl
  constructor
  case simulates => exact h.simulates.step (h.simulates_step (.release who r guards requested))
  case found => exact found.trans h.found
  case placed => exact h.placed
  case known =>
    rw [found]
    exact h.known
  case fresh =>
    simp only [asked]
    exact h.fresh
  case by_key =>
    simp only [asked]
    exact h.by_key
  case once =>
    simp only [asked]
    exact h.once
  case holds =>
    intro i
    rw [mem_guards_release, h.holds, locks, KeyedLock.exists_holder?_release holds only, next]
  case guards =>
    refine nodup_append_toList (h.guards.filter _) fun i handed mem => ?_
    obtain ⟨old, ne⟩ := List.mem_filter.1 mem
    have waits : i ∈ t.locks.queue r.key := by
      refine List.mem_of_mem_head? ?_
      rw [← KeyedLock.fst_release, ← next]
      exact handed
    -- The next one waits for this key, and so it is no guard of another one.
    have first := h.holder?_of_mem old (h.key?_of_mem (.inr waits))
    exact of_decide_eq_true ne (Option.some.inj (first.symm.trans holds))

/-- Before the first request all is sound. -/
theorem start : Sound [] {} where
  simulates := .start
  found := rfl
  placed := by rintro _ ⟨⟩
  known := by rintro _ ⟨⟩
  fresh := by rintro _ ⟨⟩
  by_key := by rintro _ _ ⟨⟩
  once _ := List.nodup_nil
  holds _ := ⟨by rintro ⟨⟩, by rintro ⟨_, ⟨⟩⟩⟩
  guards := List.nodup_nil

/-- **Every step keeps all sound.** -/
theorem step (h : Sound events t) (step : Step t e t') : Sound (events ++ [e]) t' := by
  cases step with
  | find key => exact h.find key
  | ask who r about requested => exact h.ask about requested
  | release who r guards requested => exact h.release guards requested

end Sound

/-- After any run all is sound. -/
theorem Run.sound (run : Run events t) : Sound events t := by
  induction run with
  | start => exact .start
  | step _ step ih => exact ih.step step

/-- **What a lock table promises**, whatever the run was. -/
structure Promises (events : List (KeyedLock.Event Nat)) (t : Locking) : Prop where
  /-- Every step was one of the locks by key. -/
  simulates : KeyedLock.Run events t.locks
  /-- To find the lock of a key and to ask for it at once is to request the key. -/
  atomic : ∀ key, ∃ r, (t.find key).requests[t.requests.length]? = some r ∧ r.key = key ∧
    (((t.find key).ask t.requests.length r).1, ((t.find key).ask t.requests.length r).2.locks) =
      t.locks.request key t.requests.length
  /-- Two requests have found the same lock if and only if they are for the same key. -/
  place_eq_iff : ∀ r ∈ t.requests, ∀ r' ∈ t.requests, r.place = r'.place ↔ r.key = r'.key
  /-- Of every key there is at most one guard, and this one is the holder of the key. -/
  exclusive : (t.guards.map t.key?).Nodup
  holder?_eq_some_iff : ∀ key who,
    t.locks.holder? key = some who ↔ who ∈ t.guards ∧ t.key? who = some key
  once : ∀ key, (KeyedLock.asked key events).Nodup
  /-- A key is granted to those that asked for it in the order of asking; the others wait. -/
  ordered : ∀ key, KeyedLock.asked key events = KeyedLock.granted key events ++ t.locks.queue key
  /-- Who was granted a key has given it up, but for the last one if it is the holder. -/
  held : ∀ key, KeyedLock.granted key events =
    KeyedLock.released key events ++ (t.locks.holder? key).toList
  asks : ∀ who ∈ t.about, ∃ key granted t', Step t (.asked key who granted) t'
  /-- A key that nobody holds or waits for is granted at once, and no other key is. -/
  at_once : ∀ {key who granted t'}, Step t (.asked key who granted) t' →
    (granted = true ↔ t.locks.holder? key = none ∧ t.locks.queue key = []) ∧
      (granted = true → who ∈ t'.guards)
  releases : ∀ who ∈ t.guards, ∃ key next t', Step t (.released key who next) t'
  /-- A key that is given up goes to the first that waits for it. -/
  handed_on : ∀ {key who next t'}, Step t (.released key who next) t' →
    next = (t.locks.queue key).head? ∧ t'.locks.holder? key = next ∧
      t'.locks.queue key = (t.locks.queue key).tail ∧ ∀ i ∈ next, i ∈ t'.guards
  /-- As many keys are known as different ones were requested. -/
  counted : t.locks.size = (KeyedLock.found events).toFinset.card
  never_fewer : ∀ {e t'}, Step t e t' → t.locks.size ≤ t'.locks.size

/-- There is one lock for every key that was ever looked up. -/
theorem Sound.size_locks (h : Sound events t) :
    t.locks.size = (KeyedLock.found events).toFinset.card := by
  have keys : t.table.places.keys.toFinset = (KeyedLock.found events).toFinset := by
    ext key
    rw [List.mem_toFinset, List.mem_toFinset]
    refine ⟨h.known key, fun mem => ?_⟩
    rw [h.found] at mem
    obtain ⟨r, requested, rfl⟩ := List.mem_map.1 mem
    exact Table.mem_keys_of_get? (h.placed r requested)
  rw [locks, LockTable.size_keyed, ← keys]
  exact (List.toFinset_card_of_nodup t.table.places.keys_nodup).symm

/-- Each request knows the lock of its key and no other one. -/
theorem Sound.place_eq_iff (h : Sound events t) {r r' : LockRequest} (mem : r ∈ t.requests)
    (mem' : r' ∈ t.requests) : r.place = r'.place ↔ r.key = r'.key := by
  have there := h.placed r mem
  have there' := h.placed r' mem'
  constructor
  · intro same
    exact t.table.apart there (same ▸ there')
  · intro same
    rw [same] at there
    exact Option.some.inj (there.symm.trans there')

/-- Who holds the lock of a key is who has the guard of it. -/
theorem Sound.holder?_eq_some_iff (h : Sound events t) (key : Int64) (who : Nat) :
    t.locks.holder? key = some who ↔ who ∈ t.guards ∧ t.key? who = some key :=
  ⟨fun held => ⟨(h.holds who).2 ⟨key, held⟩, h.key?_of_mem (.inl held)⟩,
    fun ⟨mem, is⟩ => h.holder?_of_mem mem is⟩

/-- No two guards are of one key. -/
theorem Sound.exclusive (h : Sound events t) : (t.guards.map t.key?).Nodup := by
  refine h.guards.map_on fun i mem j mem' same => ?_
  obtain ⟨key, held⟩ := (h.holds i).1 mem
  have is := h.key?_of_mem (.inl held)
  have held' := h.holder?_of_mem mem' (same.symm.trans is)
  exact Option.some.inj (held.symm.trans held')

/-- A key is granted at once just if nobody has it and nobody waits for it. -/
theorem Sound.at_once (h : Sound events t) {key : Int64} {who : Nat} {granted : Bool}
    (step : Step t (.asked key who granted) t') :
    (granted = true ↔ t.locks.holder? key = none ∧ t.locks.queue key = []) ∧
      (granted = true → who ∈ t'.guards) := by
  cases step with
  | ask _ r about requested =>
    have first := congrArg Prod.fst (h.ask_eq requested)
    rw [KeyedLock.fst_request] at first
    refine ⟨?_, fun granted => mem_guards_ask.2 (.inr ⟨granted, rfl⟩)⟩
    rw [show (t.ask who r).1 = _ from first, Option.isNone_iff_eq_none]
    exact ⟨fun free => ⟨free, (h.fair r.key).served free⟩, And.left⟩

/-- A key that is given up goes to who has waited longest for it. -/
theorem Sound.handed_on (h : Sound events t) {key : Int64} {who : Nat} {next : Option Nat}
    (step : Step t (.released key who next) t') :
    next = (t.locks.queue key).head? ∧ t'.locks.holder? key = next ∧
      t'.locks.queue key = (t.locks.queue key).tail ∧ ∀ i ∈ next, i ∈ t'.guards := by
  cases step with
  | release _ r guards requested =>
    obtain ⟨first, locks⟩ := Prod.ext_iff.1 (h.release_eq requested)
    dsimp only at first locks
    rw [KeyedLock.fst_release] at first
    rw [locks, KeyedLock.holder?_release, KeyedLock.queue_release, if_pos rfl, if_pos rfl]
    exact ⟨first, first.symm, rfl, fun i handed => mem_guards_release.2 (.inr handed)⟩

/-- **The lock table excludes, orders and never forgets.**  After any number of look-ups, requests
and releases in any order, for any keys. -/
theorem excludes_orders_remembers (run : Run events t) : Promises events t := by
  have h := run.sound
  constructor
  case simulates => exact h.simulates
  case atomic =>
    intro key
    have requested : (t.find key).requests[t.requests.length]? = some ⟨key, _⟩ :=
      List.getElem?_concat_length
    have asked := (h.find key).ask_eq requested
    rw [Sound.locks_find, KeyedLock.request_know] at asked
    exact ⟨_, requested, rfl, asked⟩
  case place_eq_iff => exact fun _ mem _ mem' => h.place_eq_iff mem mem'
  case exclusive => exact h.exclusive
  case holder?_eq_some_iff => exact h.holder?_eq_some_iff
  case once => exact h.once
  case ordered => exact fun key => (h.fair key).waiting
  case held => exact fun key => (h.fair key).held
  case asks =>
    intro who about
    exact ⟨_, _, _, .ask who _ about (List.getElem?_eq_getElem (h.fresh who about).1)⟩
  case at_once => exact h.at_once
  case releases =>
    intro who guards
    obtain ⟨key, held⟩ := (h.holds who).1 guards
    obtain ⟨r, requested, -⟩ := Option.map_eq_some_iff.1 (h.key?_of_mem (.inl held))
    exact ⟨_, _, _, .release who r guards requested⟩
  case handed_on => exact h.handed_on
  case counted => exact h.size_locks
  case never_fewer =>
    intro e t' step
    rw [h.size_locks, (h.step step).size_locks, KeyedLock.found_snoc, List.toFinset_append]
    exact Finset.card_le_card Finset.subset_union_left

/-- Requests 0 and 1 find the lock of the key 1 before either of them asks for it, and 1 asks
first; 2 is granted the key 2 while 1 holds the key 1, and 0 comes after 1. -/
theorem excludes_orders_remembers_overtaken : ∃ events t, Run events t ∧ Promises events t ∧
    KeyedLock.found events = [1, 1, 2] ∧ KeyedLock.asked 1 events = [1, 0] ∧
    KeyedLock.granted 1 events = [1, 0] ∧ KeyedLock.granted 2 events = [2] ∧
    t.guards = [2, 0] ∧ t.locks.size = 2 := by
  have found : Run _ _ := ((Run.start.step (.find 1)).step (.find 1)).step (.find 2)
  have asked : Run _ _ := ((found.step (.ask 1 ⟨1, 0⟩ (by decide) (by decide))).step
    (.ask 0 ⟨1, 0⟩ (by decide) (by decide))).step (.ask 2 ⟨2, 1⟩ (by decide) (by decide))
  have run : Run _ _ := asked.step (.release 1 ⟨1, 0⟩ (by decide) (by decide))
  exact ⟨_, _, run, excludes_orders_remembers run, by decide, by decide, by decide, by decide,
    by decide, by decide⟩

end Locking
end ServiceBroker

/-
# Locks are fair

To request a key is to look its lock up and to ask for it (`KeyedLock.request_know`,
`KeyedLock.request_eq`), to release it is to give it up (`KeyedLock.release_eq`).  Look-ups,
requests and releases by the holder may come in any order (`KeyedLock.Run`).

What becomes of the requests for a key is an equation of lists (`KeyedLock.Fair`): those that
asked are those that were granted and then those that wait, and those that were granted are
those that gave the key up and then the one that holds it.  Every step keeps it
(`KeyedLock.Fair.step`).
-/

import ServiceBroker.Proofs.Moves

namespace ServiceBroker

namespace Table

variable {κ α : Type} [DecidableEq κ]

/-- Tables with the same keys in the same order and the same values are the same. -/
theorem eq_of_get? {t t' : Table κ α} (keys : t.keys = t'.keys)
    (same : ∀ key, t.get? key = t'.get? key) : t = t' := by
  obtain ⟨entries, nodup⟩ := t
  obtain ⟨entries', nodup'⟩ := t'
  congr 1
  induction entries generalizing entries' with
  | nil => exact (List.map_eq_nil_iff.1 keys.symm).symm
  | cons e rest ih =>
    obtain _ | ⟨e', rest'⟩ := entries'
    · cases keys
    obtain ⟨k, v⟩ := e
    obtain ⟨k', v'⟩ := e'
    obtain ⟨rfl, rest_keys⟩ := List.cons.inj keys
    obtain ⟨absent, rest_nodup⟩ := List.nodup_cons.1 nodup
    obtain ⟨absent', rest_nodup'⟩ := List.nodup_cons.1 nodup'
    have first := same k
    simp only [get?, List.lookup_cons_self, Option.some.injEq] at first
    have further : ∀ key, get? ⟨rest, rest_nodup⟩ key = get? ⟨rest', rest_nodup'⟩ key := by
      intro key
      by_cases is : key = k
      · rw [is, get?_eq_none_iff.2 absent, get?_eq_none_iff.2 absent']
      · have both := same key
        simpa only [get?, List.lookup_cons, beq_eq_false_iff_ne.2 is] using both
    rw [first, ih rest_nodup rest' rest_nodup' rest_keys further]

end Table

namespace KeyedLock

variable {ρ : Type} (locks : KeyedLock ρ) (key k : Int64) (who : ρ)

/-- To request a key is to ask for its lock. -/
theorem request_eq : locks.request key who =
    ((((locks.get? key).getD .free).ask who).1,
      ⟨locks.entries.put key (((locks.get? key).getD .free).ask who).2⟩) := by
  rw [request]
  rcases locks.get? key with _ | ⟨_ | holder, waiting⟩ <;> rfl

/-- To release a key is to give up its lock. -/
theorem release_eq {lock : LockEntry ρ} (there : locks.get? key = some lock) :
    locks.release key = (lock.pass.1, ⟨locks.entries.put key lock.pass.2⟩) := by
  rw [release, there]
  obtain ⟨holder, _ | ⟨next, waiting⟩⟩ := lock <;> rfl

/-- Looking a key up puts a free lock there, if there was none. -/
theorem get?_know : (locks.know key).get? k =
    if k = key then some ((locks.get? key).getD .free) else locks.get? k := by
  rw [know]
  cases there : locks.get? key with
  | none => exact Table.get?_put _ _ _ _
  | some lock =>
    dsimp only
    split_ifs with is
    · rw [is, there]
      rfl
    · rfl

/-- Looking a lock up before asking for it makes no difference. -/
theorem request_know : (locks.know key).request key who = locks.request key who := by
  rw [request_eq, request_eq, get?_know, if_pos rfl, Option.getD_some]
  congr 2
  rw [know]
  cases there : locks.get? key with
  | none =>
    refine Table.eq_of_get? ?_ fun k => ?_
    · rw [Table.keys_put_of_mem _ (Table.mem_keys_of_get? (Table.get?_put_self _ _ _)),
        Table.keys_put _ there, Table.keys_put _ there]
    · rw [Table.get?_put, Table.get?_put, Table.get?_put]
      split_ifs <;> rfl
  | some lock => rfl

/-- Looking a key up grants nothing. -/
@[simp] theorem holder?_know : (locks.know key).holder? k = locks.holder? k := by
  rw [holder?, holder?, get?_know]
  split_ifs with is
  · rw [is]
    cases locks.get? key <;> rfl
  · rfl

/-- Looking a key up leaves all that wait. -/
@[simp] theorem queue_know : (locks.know key).queue k = locks.queue k := by
  rw [queue, queue, get?_know]
  split_ifs with is
  · rw [is]
    cases locks.get? key <;> rfl
  · rfl

namespace Event

/-- The key whose lock is looked up. -/
def found? : Event ρ → Option Int64
  | found key => some key
  | _ => none

/-- Who asks for a key. -/
def asked? (key : Int64) : Event ρ → Option ρ
  | asked k who _ => if k = key then some who else none
  | _ => none

/-- Who is granted a key. -/
def granted? (key : Int64) : Event ρ → Option ρ
  | asked k who granted => if k = key ∧ granted = true then some who else none
  | released k _ next => if k = key then next else none
  | found _ => none

/-- Who gives a key up. -/
def released? (key : Int64) : Event ρ → Option ρ
  | released k who _ => if k = key then some who else none
  | _ => none

end Event

/-- The keys whose locks were looked up. -/
def found (events : List (Event ρ)) : List Int64 := events.filterMap Event.found?

/-- The requests that asked for a key, in this order. -/
def asked (events : List (Event ρ)) : List ρ := events.filterMap (Event.asked? key)

/-- The requests that were granted a key, in this order. -/
def granted (events : List (Event ρ)) : List ρ := events.filterMap (Event.granted? key)

/-- The requests that gave a key up, in this order. -/
def released (events : List (Event ρ)) : List ρ := events.filterMap (Event.released? key)

/-- **What has become of the requests for a key.** -/
structure Fair (events : List (Event ρ)) (locks : KeyedLock ρ) (key : Int64) : Prop where
  /-- Of those that were granted the key, one may hold it, and the others have given it up. -/
  held : granted key events = released key events ++ (locks.holder? key).toList
  /-- Of those that asked, the first were granted the key in the order of asking; the rest wait. -/
  waiting : asked key events = granted key events ++ locks.queue key
  served : locks.holder? key = none → locks.queue key = []

section Runs

variable {events : List (Event ρ)} {e : Event ρ} {locks locks' : KeyedLock ρ} {key : Int64}

/-- A step adds the key that it looks up. -/
theorem found_snoc : found (events ++ [e]) = found events ++ e.found?.toList :=
  filterMap_snoc ..

/-- A step adds who asks for the key in it. -/
theorem asked_snoc : asked key (events ++ [e]) = asked key events ++ (e.asked? key).toList :=
  filterMap_snoc ..

/-- A step that looks nothing up adds nothing. -/
theorem found_snoc_of_none (none_found : e.found? = none) :
    found (events ++ [e]) = found events := by
  rw [found_snoc, none_found, Option.toList_none, List.append_nil]

/-- A step in which nobody asks for the key adds nobody. -/
theorem asked_snoc_of_none (none_asks : e.asked? key = none) :
    asked key (events ++ [e]) = asked key events := by
  rw [asked_snoc, none_asks, Option.toList_none, List.append_nil]

/-- A step adds who is granted the key in it. -/
theorem granted_snoc :
    granted key (events ++ [e]) = granted key events ++ (e.granted? key).toList :=
  filterMap_snoc ..

/-- A step adds who gives the key up in it. -/
theorem released_snoc :
    released key (events ++ [e]) = released key events ++ (e.released? key).toList :=
  filterMap_snoc ..

/-- What happens to other keys does not matter. -/
theorem Fair.other (h : Fair events locks key) (asked : e.asked? key = none)
    (granted : e.granted? key = none) (released : e.released? key = none)
    (holder : locks'.holder? key = locks.holder? key)
    (queue : locks'.queue key = locks.queue key) : Fair (events ++ [e]) locks' key where
  held := by
    rw [granted_snoc, released_snoc, granted, released, holder, h.held]
    simp
  waiting := by
    rw [asked_snoc, granted_snoc, asked, granted, queue, h.waiting]
    simp
  served := by
    rw [holder, queue]
    exact h.served

/-- A request for the key is granted it, or comes last. -/
theorem Fair.ask (h : Fair events locks key) (who : ρ) :
    Fair (events ++ [.asked key who (locks.request key who).1]) (locks.request key who).2 key := by
  have holder := locks.holder?_request key key who
  have queue := locks.queue_request key key who
  have held := h.held
  rw [if_pos rfl] at holder
  rw [fst_request]
  cases free : locks.holder? key with
  | none =>
    have unwaited := h.served free
    simp only [free, Option.isSome_none, Bool.false_eq_true, and_false, if_false] at holder queue
    rw [free] at held
    refine ⟨?_, ?_, fun _ => queue.trans unwaited⟩
    · rw [granted_snoc, released_snoc, holder, held]
      simp [Event.granted?, Event.released?]
    · rw [asked_snoc, granted_snoc, queue, h.waiting, unwaited]
      simp [Event.granted?, Event.asked?]
  | some other =>
    simp only [free, Option.isSome_some, and_self, if_true, Option.getD_some] at holder queue
    rw [free] at held
    refine ⟨?_, ?_, fun unheld => ?_⟩
    · rw [granted_snoc, released_snoc, holder, held]
      simp [Event.granted?, Event.released?]
    · rw [asked_snoc, granted_snoc, queue, h.waiting]
      simp [Event.granted?, Event.asked?]
    · cases holder.symm.trans unheld

/-- The one that holds the key gives it to the first that waits. -/
theorem Fair.release (h : Fair events locks key) {who : ρ}
    (holds : locks.holder? key = some who) :
    Fair (events ++ [.released key who (locks.release key).1]) (locks.release key).2 key := by
  have holder := locks.holder?_release key key
  have queue := locks.queue_release key key
  have held := h.held
  rw [if_pos rfl] at holder queue
  rw [holds] at held
  rw [fst_release]
  refine ⟨?_, ?_, fun unheld => ?_⟩
  · rw [granted_snoc, released_snoc, holder, held]
    simp [Event.granted?, Event.released?]
  · have split : (locks.queue key).head?.toList ++ (locks.queue key).tail = locks.queue key := by
      cases locks.queue key <;> rfl
    rw [asked_snoc, granted_snoc, queue, h.waiting]
    simp [Event.granted?, Event.asked?, split]
  · rw [holder, List.head?_eq_none_iff] at unheld
    rw [queue, unheld]
    rfl

/-- **Every step is fair.** -/
theorem Fair.step (h : Fair events locks key) (step : Step locks e locks') :
    Fair (events ++ [e]) locks' key := by
  cases step with
  | find k => exact h.other rfl rfl rfl (holder?_know ..) (queue_know ..)
  | ask k who =>
    by_cases same : k = key
    · subst same
      exact h.ask who
    · refine h.other (if_neg same) (if_neg fun is => same is.1) rfl ?_ ?_
      · rw [holder?_request, if_neg (Ne.symm same)]
      · rw [queue_request, if_neg fun is => same is.1.symm]
  | @release k who holds =>
    by_cases same : k = key
    · subst same
      exact h.release holds
    · refine h.other rfl (if_neg same) (if_neg same) ?_ ?_
      · rw [holder?_release, if_neg (Ne.symm same)]
      · rw [queue_release, if_neg (Ne.symm same)]

/-- **In every run the requests for a key are served in the order in which they asked.** -/
theorem Run.fair (run : Run events locks) (key : Int64) : Fair events locks key := by
  induction run with
  | start => exact ⟨rfl, rfl, fun _ => rfl⟩
  | step _ step ih => exact ih.step step

/-- Who holds a key or waits for it has asked for it. -/
theorem Fair.mem_asked (h : Fair events locks key) {who : ρ}
    (there : locks.holder? key = some who ∨ who ∈ locks.queue key) : who ∈ asked key events := by
  rw [h.waiting, h.held]
  rcases there with holds | waits
  · rw [holds]
    simp
  · exact List.mem_append_right _ waits

end Runs

end KeyedLock
end ServiceBroker

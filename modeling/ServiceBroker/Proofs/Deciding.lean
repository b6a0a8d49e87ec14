/-
# Readers that decide

A reader decides if it gives exactly what is right and otherwise the first complaint that
applies (`Decides`).  Readers that decide do so one after another (`Decides.bind`), and a
check decides on the one thing that is wrong (`Decides.check`).
-/

import Mathlib.Data.List.Induction

namespace ServiceBroker

section Deciding

variable {ε α β : Type}

/-- An error by the first complaint that applies; a complaint is given by its errors. -/
def FirstOf (complaints : List (ε → Prop)) (e : ε) : Prop :=
  ∃ before complaint after, complaints = before ++ complaint :: after ∧
    (∀ earlier ∈ before, ∀ e', ¬earlier e') ∧ complaint e

/-- A result is the right one, where there is one, and otherwise by the first complaint. -/
structure Decides (result : Except ε α) (right : α → Prop) (complaints : List (ε → Prop)) :
    Prop where
  ok : ∀ x, result = .ok x ↔ right x
  error : ∀ e, result = .error e ↔ FirstOf complaints e

/-- Of no complaints none is the first. -/
theorem not_firstOf_nil (e : ε) : ¬FirstOf [] e := by
  rintro ⟨before, c, after, split, -⟩
  cases before <;> cases split

/-- The first complaint is at the head, or, if nothing is wrong there, behind it. -/
theorem firstOf_cons {c : ε → Prop} {cs : List (ε → Prop)} {e : ε} :
    FirstOf (c :: cs) e ↔ c e ∨ (∀ e', ¬c e') ∧ FirstOf cs e := by
  constructor
  · rintro ⟨before, d, after, split, none, applies⟩
    rcases List.cons_eq_append_iff.1 split with ⟨rfl, is⟩ | ⟨before, rfl, rfl⟩
    · cases is
      exact .inl applies
    · refine .inr ⟨none c List.mem_cons_self, before, d, after, rfl, ?_, applies⟩
      exact fun earlier there => none earlier (List.mem_cons_of_mem c there)
  · rintro (applies | ⟨not, before, d, after, rfl, none, applies⟩)
    · exact ⟨[], c, cs, rfl, nofun, applies⟩
    · refine ⟨c :: before, d, after, rfl, ?_, applies⟩
      intro earlier there
      rcases List.mem_cons.1 there with rfl | there
      · exact not
      · exact none earlier there

/-- A single complaint is the first. -/
theorem firstOf_singleton {c : ε → Prop} {e : ε} : FirstOf [c] e ↔ c e := by
  rw [firstOf_cons]
  exact or_iff_left fun later => not_firstOf_nil e later.2

/-- The first complaint of two lists is in the one, or, if nothing is wrong there, in the other. -/
theorem firstOf_append {cs ds : List (ε → Prop)} {e : ε} :
    FirstOf (cs ++ ds) e ↔ FirstOf cs e ∨ (∀ e', ¬FirstOf cs e') ∧ FirstOf ds e := by
  induction cs with
  | nil => simp [not_firstOf_nil]
  | cons c cs ih =>
    rw [List.cons_append, firstOf_cons, firstOf_cons, ih]
    by_cases applies : ∃ e', c e'
    · obtain ⟨e', applies⟩ := applies
      have first : FirstOf (c :: cs) e' := firstOf_cons.2 (.inl applies)
      grind
    · have not : ∀ e', ¬c e' := fun e' applies' => applies ⟨e', applies'⟩
      have later (e' : ε) : FirstOf (c :: cs) e' ↔ FirstOf cs e' := by
        rw [firstOf_cons]
        exact ⟨fun h => h.elim (fun h => absurd h (not e')) (·.2), fun h => .inr ⟨not, h⟩⟩
      grind

/-- Where any complaint applies, some one is the first. -/
theorem forall_not_firstOf_iff {cs : List (ε → Prop)} :
    (∀ e, ¬FirstOf cs e) ↔ ∀ c ∈ cs, ∀ e, ¬c e := by
  induction cs with
  | nil => exact iff_of_true not_firstOf_nil nofun
  | cons c cs ih =>
    rw [List.forall_mem_cons, ← ih]
    simp only [firstOf_cons]
    constructor
    · intro none
      have not : ∀ e, ¬c e := fun e applies => none e (.inl applies)
      exact ⟨not, fun e later => none e (.inr ⟨not, later⟩)⟩
    · rintro ⟨not, none⟩ e (applies | ⟨-, later⟩)
      · exact not e applies
      · exact none e later

namespace Decides

variable {result : Except ε α} {right right' : α → Prop} {cs ds : List (ε → Prop)}

/-- A value that is given in any case is the right one, and there is nothing to complain of. -/
theorem pure (x : α) : Decides (.ok x : Except ε α) (x = ·) [] where
  ok y := by rw [Except.ok.injEq]
  error e := iff_of_false nofun (not_firstOf_nil e)

/-- A result that is the right one, or is by the complaint, wherever there is either. -/
theorem of_cases {c : ε → Prop} (ok : ∀ x, right x → result = .ok x)
    (error : ∀ e, c e → result = .error e) (either : (∃ x, right x) ∨ ∃ e, c e) :
    Decides result right [c] := by
  obtain ⟨x, is⟩ | ⟨e, is⟩ := either
  · have given := ok x is
    constructor
    · exact fun y => ⟨fun other => Except.ok.inj (given.symm.trans other) ▸ is, ok y⟩
    · intro e
      rw [firstOf_singleton, given]
      exact iff_of_false nofun fun complains => nomatch given.symm.trans (error e complains)
  · have given := error e is
    constructor
    · intro y
      rw [given]
      exact iff_of_false nofun fun right => nomatch given.symm.trans (ok y right)
    · intro e'
      rw [firstOf_singleton]
      exact ⟨fun other => Except.error.inj (given.symm.trans other) ▸ is, error e'⟩

/-- What is right may be said in other words. -/
theorem congr (h : Decides result right cs) (same : ∀ x, right x ↔ right' x) :
    Decides result right' cs where
  ok x := (h.ok x).trans (same x)
  error := h.error

/-- **One reader after another**: what is right for the second may depend on what the first gave,
what is wrong may not. -/
theorem bind {next : α → Except ε β} {then_right : α → β → Prop} (h : Decides result right cs)
    (after : ∀ x, right x → Decides (next x) (then_right x) ds) :
    Decides (result >>= next) (fun y => ∃ x, right x ∧ then_right x y) (cs ++ ds) := by
  cases result with
  | error e =>
    have first : FirstOf cs e := (h.error e).1 rfl
    have wrong (x : α) : ¬right x := fun is => nomatch (h.ok x).2 is
    constructor
    · intro y
      exact iff_of_false nofun fun ⟨x, is, _⟩ => wrong x is
    · intro e'
      rw [firstOf_append, ← h.error e']
      constructor
      · exact fun is => .inl (congrArg _ (Except.error.inj is))
      · rintro (is | ⟨none, -⟩)
        · exact congrArg _ (Except.error.inj is)
        · exact absurd first (none e)
  | ok x =>
    have is : right x := (h.ok x).1 rfl
    have none (e : ε) : ¬FirstOf cs e := fun first => nomatch (h.error e).2 first
    constructor
    · intro y
      refine ((after x is).ok y).trans ⟨fun then_is => ⟨x, is, then_is⟩, ?_⟩
      rintro ⟨x', is', then_is⟩
      rwa [Except.ok.inj ((h.ok x').2 is')]
    · intro e
      rw [firstOf_append]
      refine ((after x is).error e).trans ⟨fun first => .inr ⟨none, first⟩, ?_⟩
      rintro (first | ⟨-, first⟩)
      · exact absurd first (none e)
      · exact first

/-- The first complaint applies. -/
theorem stopped {c : ε → Prop} {e : ε} (complains : ∀ e', c e' ↔ e' = e) (wrong : ∀ x, ¬right x) :
    Decides (.error e) right (c :: cs) where
  ok x := iff_of_false nofun (wrong x)
  error e' := by
    rw [firstOf_cons, complains e', Except.error.injEq]
    constructor
    · exact fun same => .inl same.symm
    · rintro (same | ⟨none, -⟩)
      · exact same.symm
      · exact absurd ((complains e).2 rfl) (none e)

/-- The first complaint does not apply. -/
theorem passed {c : ε → Prop} (none : ∀ e, ¬c e) (h : Decides result right cs) :
    Decides result right (c :: cs) where
  ok := h.ok
  error e := by
    rw [firstOf_cons, h.error e]
    exact ⟨fun first => .inr ⟨none, first⟩, fun first => first.elim (absurd · (none e)) (·.2)⟩

/-- A check in front of a reader. -/
theorem check {wrong : Prop} [Decidable wrong] {e : ε} {c : ε → Prop}
    (complains : ∀ e', c e' ↔ e' = e ∧ wrong) (h : ¬wrong → Decides result right cs) :
    Decides (if wrong then .error e else result) (fun x => ¬wrong ∧ right x) (c :: cs) := by
  by_cases is : wrong
  · rw [if_pos is]
    exact stopped (fun e' => (complains e').trans (and_iff_left is)) fun x right => right.1 is
  · rw [if_neg is]
    refine passed (fun e' applies => is ((complains e').1 applies).2) ((h is).congr fun x => ?_)
    exact (and_iff_right is).symm

/-- There is a result exactly where no complaint applies. -/
theorem exists_ok_iff (h : Decides result right cs) :
    (∃ x, result = .ok x) ↔ ∀ c ∈ cs, ∀ e, ¬c e := by
  rw [← forall_not_firstOf_iff]
  simp only [← h.error]
  cases result with
  | ok x => exact iff_of_true ⟨x, rfl⟩ nofun
  | error e => exact iff_of_false nofun fun none => none e rfl

/-- Errors that are wrapped. -/
theorem mapError {ε' : Type} (wrap : ε → ε') (h : Decides result right cs) :
    Decides (result.mapError wrap) right (cs.map fun c e => ∃ e', c e' ∧ e = wrap e') := by
  have first (e : ε') : FirstOf (cs.map fun c e => ∃ e', c e' ∧ e = wrap e') e ↔
      ∃ e', FirstOf cs e' ∧ e = wrap e' := by
    clear h
    induction cs with
    | nil => simp [not_firstOf_nil]
    | cons c cs ih =>
      rw [List.map_cons, firstOf_cons, ih]
      simp only [firstOf_cons]
      grind
  constructor
  · intro x
    rw [← h.ok x]
    cases result <;> simp [Except.mapError]
  · intro e
    rw [first e]
    simp only [← h.error]
    cases result <;> simp [Except.mapError, eq_comm]

end Decides

end Deciding

end ServiceBroker

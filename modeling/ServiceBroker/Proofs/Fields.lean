/-
# Members that come back

A reader of a record looks its members up by their names, and a writer leaves out those that are
not set.  What is read of a member is read again from what is written for it
(`Json.Fields.optional_again`, `Json.Fields.list_again`), and an object of members that can be
read from a text can be read itself (`Json.readable_present`).
-/

import ServiceBroker.Proofs.RoundTrip
import ServiceBroker.Proofs.Shapes

namespace ServiceBroker

namespace Json

section Fields

variable {α : Type} {fields : Fields} {name : String} {read : Json → Option α} {f : α → Json}

/-- A field that has a value that is read. -/
theorem Fields.required_of_eq {w : Json} {x : α} (there : fields name = some w)
    (reads : read w = some x) : fields.required name read = some x := by
  rw [required, there, Option.bind_some, reads]

/-- A member that is there is read. -/
theorem Fields.orElse_of_eq {absent : α} {w : Json} {x : α} (there : fields name = some w)
    (reads : read w = some x) : fields.orElse name absent read = some x := by
  rw [orElse, there]
  exact reads

/-- A member that is not there is as it is by default. -/
theorem Fields.orElse_of_none (absent : α) (there : fields name = none) :
    fields.orElse name absent read = some absent := by
  rw [orElse, there]

/-- A field that is left out where nothing is set, and is read where something is. -/
theorem Fields.optional_of_eq {o : Option α} (there : fields name = o.map f)
    (reads : ∀ x, o = some x → f x ≠ .null ∧ read (f x) = some x) :
    fields.optional name read = some o := by
  rw [optional, there]
  cases o with
  | none => rfl
  | some x =>
    obtain ⟨set, reads⟩ := reads x rfl
    rw [Option.map_some]
    split
    · rename_i w is
      cases is
    · rename_i is
      exact absurd (Option.some.inj is) set
    · rename_i w other is
      cases is
      rw [reads]
      rfl

/-- What is read of a field that may be left out is the value of the field. -/
theorem Fields.of_optional {x : α} (said : fields.optional name read = some (some x)) :
    ∃ w, fields name = some w ∧ w ≠ .null ∧ read w = some x := by
  rw [optional] at said
  split at said
  · cases said
  · cases said
  · rename_i w set there
    obtain ⟨y, reads, is⟩ := Option.map_eq_some_iff.1 said
    cases is
    exact ⟨w, there, set, reads⟩

/-- What was read from a field that may be left out is read again where it is written. -/
theorem Fields.optional_again {o : Option α} {written : List (String × Option Json)}
    (said : fields.optional name read = some o)
    (again : ∀ v x, read v = some x → read (f x) = some x)
    (object : ∀ x, ∃ members, f x = .object members) (distinct : (written.map (·.1)).Nodup)
    (there : (name, o.map f) ∈ written) :
    optional (fun key => (present written).member? key) name read = some o := by
  refine optional_of_eq (member?_present distinct there) ?_
  rintro x rfl
  obtain ⟨v, -, -, reads⟩ := of_optional said
  obtain ⟨members, is⟩ := object x
  exact ⟨by simp [is], again v x reads⟩

/-- A part that was read and is written again is no deeper for it. -/
theorem Fields.readable_optional {depth : Nat} {o : Option α}
    (said : fields.optional name read = some o)
    (inner : ∀ name w, fields name = some w → Readable depth w)
    (each : ∀ v x, Readable depth v → read v = some x → Readable depth (f x)) :
    ∀ x, o = some x → Readable depth (f x) := by
  rintro x rfl
  obtain ⟨v, there, -, reads⟩ := of_optional said
  exact each v x (inner name v there) reads

/-- A part is a member of what is written just if it is set. -/
theorem rel_member? {r : α → Json → Prop} {o : Option α} {written : List (String × Option Json)}
    (each : ∀ x, r x (f x)) (distinct : (written.map (·.1)).Nodup)
    (there : (name, o.map f) ∈ written) :
    Option.Rel r o ((present written).member? name) := by
  rw [member?_present distinct there]
  cases o with
  | none => exact .none
  | some x => exact .some (each x)

end Fields

/-- What is written is an object, whose members are its fields. -/
theorem fields?_present (names : List String) (written : List (String × Option Json)) :
    (present written).fields? names = some fun name => (present written).member? name := rfl

section Lists

variable {α β : Type} {read : Json → Option α} {f : α → Json} {xs : List α}

/-- A list is read exactly where each of its elements is. -/
theorem mapM_eq_some_iff {g : β → Option α} {elements : List β} :
    elements.mapM g = some xs ↔ List.Forall₂ (fun w x => g w = some x) elements xs := by
  induction elements generalizing xs with
  | nil =>
    rw [List.mapM_nil, List.forall₂_nil_left_iff]
    exact ⟨fun is => (Option.some.inj is).symm, fun is => congrArg some is.symm⟩
  | cons w rest ih =>
    rw [List.mapM_cons, List.forall₂_cons_left_iff]
    constructor
    · intro is
      obtain ⟨x, head, is⟩ := Option.bind_eq_some_iff.1 is
      obtain ⟨others, tail, is⟩ := Option.bind_eq_some_iff.1 is
      cases is
      exact ⟨x, others, head, ih.1 tail, rfl⟩
    · rintro ⟨x, others, head, tail, rfl⟩
      rw [head, ih.2 tail]
      rfl

/-- What is read as a list is an array whose elements are read. -/
theorem list?_eq_some_iff {v : Json} : list? read v = some xs ↔
    ∃ elements, v = .array elements ∧ List.Forall₂ (fun w x => read w = some x) elements xs := by
  cases v with
  | array elements => simpa [list?] using mapM_eq_some_iff
  | _ => exact iff_of_false nofun (by rintro ⟨_, ⟨⟩, _⟩)

/-- A list is read back if its elements are. -/
theorem list?_map (reads : ∀ x ∈ xs, read (f x) = some x) :
    list? read (.array (xs.map f)) = some xs := by
  rw [list?_eq_some_iff]
  refine ⟨_, rfl, ?_⟩
  rw [List.forall₂_map_left_iff, List.forall₂_same]
  exact reads

/-- Each of a list that was read was read from an element. -/
theorem exists_of_list? {v : Json} (said : list? read v = some xs) {x : α} (listed : x ∈ xs) :
    ∃ elements w, v = .array elements ∧ w ∈ elements ∧ read w = some x := by
  obtain ⟨elements, rfl, each⟩ := list?_eq_some_iff.1 said
  refine ⟨elements, ?_⟩
  clear said
  induction each with
  | nil => cases listed
  | cons head _ ih =>
    rcases List.mem_cons.1 listed with rfl | later
    · exact ⟨_, rfl, List.mem_cons_self, head⟩
    · obtain ⟨w, -, there, reads⟩ := ih later
      exact ⟨w, rfl, List.mem_cons_of_mem _ there, reads⟩

/-- A list that was read from a field is read again where it is written. -/
theorem Fields.list_again {fields : Fields} {name : String} {written : List (String × Option Json)}
    (said : fields.required name (list? read) = some xs)
    (again : ∀ v x, read v = some x → read (f x) = some x) (distinct : (written.map (·.1)).Nodup)
    (there : (name, some (.array (xs.map f))) ∈ written) :
    required (fun key => (present written).member? key) name (list? read) = some xs := by
  refine required_of_eq (member?_present distinct there) (list?_map fun x listed => ?_)
  obtain ⟨w, -, said⟩ := Option.bind_eq_some_iff.1 said
  obtain ⟨-, v, -, -, reads⟩ := exists_of_list? said listed
  exact again v x reads

/-- Each element stands beside what is made of it. -/
theorem forall₂_map {r : α → Json → Prop} (each : ∀ x, r x (f x)) (xs : List α) :
    List.Forall₂ r xs (xs.map f) := by
  rw [List.forall₂_map_right_iff, List.forall₂_same]
  exact fun x _ => each x

/-- Texts are read back from their array. -/
theorem strings?_ofStrings (texts : List String) : strings? (.ofStrings texts) = some texts :=
  list?_map fun _ _ => rfl

end Lists

section Texts

variable {depth : Nat} {written : List (String × Option Json)} {v : Json}

/-- An array can be read exactly where its elements can, one level down. -/
theorem readable_array_iff {elements : List Json} :
    Readable (depth + 1) (.array elements) ↔ ∀ v ∈ elements, Readable depth v :=
  ⟨fun (.array each) => each, .array⟩

/-- An object can be read exactly where its keys ascend and its members can, one level down. -/
theorem readable_object_iff {members : List (String × Json)} :
    Readable (depth + 1) (.object members) ↔
      (members.map (·.1)).Pairwise (· < ·) ∧ ∀ m ∈ members, Readable depth m.2 :=
  ⟨fun (.object ascending each) => ⟨ascending, each⟩, fun h => .object h.1 h.2⟩

/-- The fields of a record are one level less deep. -/
theorem Readable.fields {names : List String} {fields : Fields} (h : Readable depth v)
    (told : v.fields? names = some fields) :
    ∃ d, depth = d + 1 ∧ ∀ name w, fields name = some w → Readable d w := by
  cases h with
  | @array _ elements each =>
    rw [fields?] at told
    split at told
    · cases told
      refine ⟨_, rfl, fun name w there => each w ?_⟩
      obtain ⟨before, after, split, -⟩ := List.lookup_eq_some_iff.1 there
      have paired : (name, w) ∈ names.zip elements := by simp [split]
      exact (List.of_mem_zip paired).2
    · cases told
  | object ascending each =>
    cases told
    refine ⟨_, rfl, fun name w there => each (name, w) ?_⟩
    obtain ⟨before, after, split, -⟩ := List.lookup_eq_some_iff.1 there
    simp [split]
  | _ => cases told

/-- An object of the members that are there can be read, if these can and the keys ascend. -/
theorem readable_present {keys : List String} (ascending : keys.Pairwise (· < ·))
    (keyed : written.map (·.1) = keys) (each : ∀ p ∈ written, ∀ w ∈ p.2, Readable depth w) :
    Readable (depth + 1) (present written) :=
  .object (ascending_membersSet (keyed ▸ ascending)) fun _ there =>
    each _ (mem_membersSet.1 there) _ rfl

/-- Metadata is written as the object that it was read from. -/
theorem readable_members {members : List (String × Json)} (h : Readable depth v)
    (said : v.members? = some members) : Readable depth (.object members) := by
  cases v with
  | object _ =>
    cases said
    exact h
  | _ => cases said

/-- Those of a list that was read are written no deeper than the list. -/
theorem readable_list {α : Type} {read : Json → Option α} {f : α → Json} {xs : List α}
    (h : Readable depth v) (said : list? read v = some xs)
    (each : ∀ d v x, Readable d v → read v = some x → Readable d (f x)) :
    ∃ d, depth = d + 1 ∧ Readable depth (.array (xs.map f)) := by
  obtain ⟨elements, rfl, all⟩ := list?_eq_some_iff.1 said
  cases h with
  | array inner =>
    refine ⟨_, rfl, .array fun w there => ?_⟩
    obtain ⟨x, listed, rfl⟩ := List.mem_map.1 there
    obtain ⟨_, v, ⟨⟩, there, reads⟩ := exists_of_list? said listed
    exact each _ v x (inner v there) reads

/-- An array of texts can be read. -/
theorem readable_ofStrings (texts : List String) :
    Readable (depth + 1) (.ofStrings texts) := by
  refine .array fun w there => ?_
  obtain ⟨s, -, rfl⟩ := List.mem_map.1 there
  exact .string s

/-- An array fits a list if its elements fit the element. -/
theorem fits_list {α : Type} {f : α → Json} {element : Shape} (xs : List α)
    (each : ∀ x, Fits element (f x)) : Fits (.list element) (.array (xs.map f)) := by
  refine .list fun w there => ?_
  obtain ⟨x, -, rfl⟩ := List.mem_map.1 there
  exact each x

/-- An object of the members that are there fits a record that has these members. -/
theorem fits_present {fields : List (String × Shape)} {closed : Bool}
    (each : ∀ p ∈ written, ∃ shape, fields.lookup p.1 = some shape ∧ ∀ w ∈ p.2, Fits shape w) :
    Fits (.record fields closed) (present written) := by
  refine .record (fun m there => ?_) fun m there shape named => ?_
  · obtain ⟨shape, named, -⟩ := each _ (mem_membersSet.1 there)
    rw [named, Option.isSome_some]
  · obtain ⟨shape', named', fits⟩ := each _ (mem_membersSet.1 there)
    cases named.symm.trans named'
    exact fits _ rfl

end Texts

end Json

end ServiceBroker

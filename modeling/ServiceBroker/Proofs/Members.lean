/-
# The members of parameters

Of the members of an object one counts under each folded name (`Parameters.Counts`); its
value is of the type of the member or a misfit (`Misfit`), and it gives something or is as
good as left out (`Parameters.Gives`).  The reader of each type decides, and so does that of
all members (`Parameters.decides_readMembers`).
-/

import ServiceBroker.Parameters
import ServiceBroker.Proofs.Deciding
import ServiceBroker.Proofs.Encoding

namespace ServiceBroker

/-- The form of the values of a type: bounds and elements apart. -/
def MemberType.Form : MemberType → Json → Prop
  | .int64, v | .int32, v => ∃ n, v = .integer n
  | .text, v => ∃ s, v = .string s
  | .sequence, v => ∃ elements, v = .array elements

/-- What is wrong with a value that is none of its type. -/
inductive Misfit : MemberType → Json → Malformation → Prop
  | form {type : MemberType} {v : Json} (other : ¬type.Form v) : Misfit type v (.wrongType v type)
  | int64 {n : Int} (beyond : ∀ x : Int64, n ≠ x.toInt) :
    Misfit .int64 (.integer n) (.outOfRange n .int64)
  | int32 {n : Int} (beyond : ∀ x : Int32, n ≠ x.toInt) :
    Misfit .int32 (.integer n) (.outOfRange n .int32)
  /-- The first element that is no text. -/
  | element {texts : List String} {v : Json} {rest : List Json} (other : ¬MemberType.text.Form v) :
    Misfit .sequence (.array (texts.map .string ++ v :: rest)) (.wrongType v .text)

/-- A value of another form is a misfit for nothing else. -/
theorem Misfit.eq_wrongType {type : MemberType} {v : Json} {m : Malformation}
    (misfit : Misfit type v m) (other : ¬type.Form v) : m = .wrongType v type := by
  cases misfit with
  | form => rfl
  | int64 | int32 => exact absurd ⟨_, rfl⟩ other
  | element => exact absurd ⟨_, rfl⟩ other

namespace Parameters

section Members

variable (members : List (String × Json)) (name : String)

/-- The value of the member whose key has the greatest bytes of those that fold to the name; of
one key that is there twice the last counts. -/
def Counts (value : Json) : Prop :=
  ∃ before key after, members = before ++ (key, value) :: after ∧ fold key = name ∧
    (∀ m ∈ before, fold m.1 = name → Bytes.ofText m.1 ≤ Bytes.ofText key) ∧
    ∀ m ∈ after, fold m.1 = name → Bytes.ofText m.1 < Bytes.ofText key

/-- No key folds to the name. -/
def Absent : Prop := ∀ m ∈ members, fold m.1 ≠ name

/-- What is said under a name: a value other than the blank one, which is as good as none. -/
def Gives (blank : Json) : Option Json → Prop
  | some value => Counts members name value ∧ value ≠ blank
  | none => Absent members name ∨ Counts members name blank

end Members

section Reading

variable {members : List (String × Json)} {name : String}

/-- Keys in the order of texts are keys in the order of bytes. -/
theorem counts_iff {value : Json} : Counts members name value ↔
    ∃ before key after, members = before ++ (key, value) :: after ∧ fold key = name ∧
      (∀ m ∈ before, fold m.1 = name → m.1 ≤ key) ∧ ∀ m ∈ after, fold m.1 = name → m.1 < key := by
  simp only [Counts, Bytes.ofText_le_iff, Bytes.ofText_lt_iff]

/-- The last member is the one found if its key folds to the name and no earlier one is greater. -/
theorem greatest_snoc (found : Option (String × Json)) (key : String) (value : Json) :
    greatest name found (members ++ [(key, value)]) =
      if fold key = name ∧ ∀ m ∈ greatest name found members, m.1 ≤ key then some (key, value)
      else greatest name found members := by
  induction members generalizing found with
  | nil => cases found <;> simp [greatest]
  | cons m rest ih =>
    obtain ⟨k, v⟩ := m
    -- either way the same member stands before the rest
    have next : ∃ found', ∀ rest,
        greatest name found ((k, v) :: rest) = greatest name found' rest := by
      by_cases better : fold k = name ∧ ∀ m ∈ found, m.1 ≤ k
      · exact ⟨some (k, v), fun rest => by cases found <;> simp_all [greatest]⟩
      · exact ⟨found, fun rest => by cases found <;> simp_all [greatest]⟩
    obtain ⟨found', next⟩ := next
    rw [List.cons_append, next, next, ih]

/-- The member found stands in its place. -/
theorem greatest_spec (members : List (String × Json)) (name : String) :
    match greatest name none members with
    | none => Absent members name
    | some (key, value) => ∃ before after, members = before ++ (key, value) :: after ∧
        fold key = name ∧ (∀ m ∈ before, fold m.1 = name → m.1 ≤ key) ∧
        ∀ m ∈ after, fold m.1 = name → m.1 < key := by
  induction members using List.reverseRecOn with
  | nil => exact nofun
  | append_singleton members last ih =>
    obtain ⟨key, value⟩ := last
    rw [greatest_snoc]
    by_cases last : fold key = name ∧ ∀ m ∈ greatest name none members, m.1 ≤ key
    · rw [if_pos last]
      refine ⟨members, [], rfl, last.1, ?_, nofun⟩
      intro m there folds
      cases found : greatest name none members with
      | none =>
        rw [found] at ih
        exact absurd folds (ih m there)
      | some best =>
        rw [found] at ih
        obtain ⟨before, after, rfl, folds', earlier, later⟩ := ih
        have le : best.1 ≤ key := last.2 best found
        rcases List.mem_append.1 there with there | there
        · exact String.le_trans (earlier m there folds) le
        · rcases List.mem_cons.1 there with rfl | there
          · exact le
          · exact String.le_trans (Std.le_of_lt (later m there folds)) le
    · rw [if_neg last]
      cases found : greatest name none members with
      | none =>
        rw [found] at ih last
        intro m there folds
        rcases List.mem_append.1 there with there | there
        · exact ih m there folds
        · rw [List.mem_singleton.1 there] at folds
          exact last ⟨folds, nofun⟩
      | some best =>
        rw [found] at ih last
        obtain ⟨before, after, rfl, folds, earlier, later⟩ := ih
        refine ⟨before, after ++ [(key, value)], by simp, folds, earlier, ?_⟩
        intro m there folds'
        rcases List.mem_append.1 there with there | there
        · exact later m there folds'
        · rw [List.mem_singleton.1 there] at folds' ⊢
          by_contra le
          exact last ⟨folds', fun m is => Option.some.inj is ▸ String.not_lt.1 le⟩

/-- Where no key folds to a name no value counts under it. -/
theorem Absent.not_counts (absent : Absent members name) (value : Json) :
    ¬Counts members name value := by
  rintro ⟨before, key, after, rfl, folds, -⟩
  exact absent (key, value) (by simp) folds

/-- Two members that count stand in one place. -/
theorem Counts.unique {value value' : Json} (counts : Counts members name value)
    (counts' : Counts members name value') : value = value' := by
  obtain ⟨before, key, after, rfl, folds, earlier, later⟩ := counts_iff.1 counts
  obtain ⟨before', key', after', split, folds', earlier', later'⟩ := counts_iff.1 counts'
  rcases List.append_eq_append_iff.1 split with ⟨between, is, is'⟩ | ⟨between, is, is'⟩
  · cases between with
    | nil => exact (Prod.mk.inj (List.cons.inj is').1).2
    | cons m between =>
      obtain ⟨rfl, rfl⟩ := List.cons.inj is'
      have le := earlier' (key, value) (by simp [is]) folds
      have lt := later (key', value') (by simp) folds'
      exact absurd lt (String.not_lt.2 le)
  · cases between with
    | nil => exact (Prod.mk.inj (List.cons.inj is').1).2.symm
    | cons m between =>
      obtain ⟨rfl, rfl⟩ := List.cons.inj is'
      have le := earlier (key', value') (by simp [is]) folds'
      have lt := later' (key, value) (by simp) folds
      exact absurd lt (String.not_lt.2 le)

/-- **The member that counts is the one found.** -/
theorem folded?_eq_some_iff {value : Json} :
    folded? members name = some value ↔ Counts members name value := by
  have spec := greatest_spec members name
  rw [folded?]
  cases found : greatest name none members with
  | none =>
    rw [found] at spec
    exact iff_of_false nofun (spec.not_counts value)
  | some best =>
    obtain ⟨key, value'⟩ := best
    rw [found] at spec
    obtain ⟨before, after, counts⟩ := spec
    have counts : Counts members name value' := counts_iff.2 ⟨before, key, after, counts⟩
    rw [Option.map_some, Option.some.injEq]
    exact ⟨fun is => is ▸ counts, counts.unique⟩

/-- No member is found just if no key folds to the name. -/
theorem folded?_eq_none_iff : folded? members name = none ↔ Absent members name := by
  have spec := greatest_spec members name
  rw [folded?, Option.map_eq_none_iff]
  cases found : greatest name none members with
  | none =>
    rw [found] at spec
    exact iff_of_true rfl spec
  | some best =>
    rw [found] at spec
    obtain ⟨before, after, rfl, folds, -⟩ := spec
    exact iff_of_false nofun fun absent => absent best (by simp) folds

end Reading

section Values

variable {v : Json}

/-- The reader of a text decides. -/
theorem decides_readText (v : Json) :
    Decides (readText v) (fun s => v = .string s) [Misfit .text v] := by
  apply Decides.of_cases
  · rintro s rfl
    rfl
  · rintro m (_ | _ | _ | _)
    rename_i other
    cases v with
    | string s => exact absurd ⟨s, rfl⟩ other
    | _ => rfl
  · by_cases form : MemberType.text.Form v
    · exact .inl form
    · exact .inr ⟨_, .form form⟩

/-- A reader of integers with bounds decides if the integers within the bounds are those of the
type. -/
theorem decides_readInteger {α : Type} {type : MemberType} {low high : Int} {ofInt : Int → α}
    {toInt : α → Int} (within : ∀ x, (low ≤ toInt x ∧ toInt x ≤ high) ∧ ofInt (toInt x) = x)
    (only : ∀ n, low ≤ n ∧ n ≤ high → toInt (ofInt n) = n)
    (form : ∀ v, type.Form v ↔ ∃ n, v = .integer n)
    (beyond : ∀ n m, Misfit type (.integer n) m ↔ m = .outOfRange n type ∧ ∀ x, n ≠ toInt x)
    (v : Json) :
    Decides ((readInteger type low high v).map ofInt) (fun x => v = .integer (toInt x))
      [Misfit type v] := by
  by_cases integral : ∃ n, v = .integer n
  · obtain ⟨n, rfl⟩ := integral
    apply Decides.of_cases
    · rintro x ⟨⟩
      rw [readInteger, if_pos (within x).1]
      exact congrArg _ (within x).2
    · intro m misfit
      obtain ⟨rfl, none⟩ := (beyond n m).1 misfit
      rw [readInteger, if_neg fun is => none _ (only n is).symm]
      rfl
    · by_cases is : low ≤ n ∧ n ≤ high
      · exact .inl ⟨ofInt n, by rw [only n is]⟩
      · refine .inr ⟨_, (beyond n _).2 ⟨rfl, ?_⟩⟩
        rintro x rfl
        exact is (within x).1
  · have other : ¬type.Form v := fun is => integral ((form v).1 is)
    apply Decides.of_cases
    · rintro x rfl
      exact absurd ⟨_, rfl⟩ integral
    · intro m misfit
      rw [misfit.eq_wrongType other]
      cases v with
      | integer n => exact absurd ⟨n, rfl⟩ integral
      | _ => rfl
    · exact .inr ⟨_, .form other⟩

/-- The reader of an integer of 64 bits decides. -/
theorem decides_readInt64 (v : Json) :
    Decides (readInt64 v) (fun x => v = .integer x.toInt) [Misfit .int64 v] := by
  apply decides_readInteger
  · exact fun x => ⟨⟨x.minValue_le_toInt, x.toInt_le⟩, Int64.ofInt_toInt x⟩
  · exact fun n is => Int64.toInt_ofInt_of_le is.1 (Int.lt_of_le_of_lt is.2 (by decide))
  · exact fun v => .rfl
  · intro n m
    constructor
    · rintro (other | beyond)
      · exact absurd ⟨n, rfl⟩ other
      · exact ⟨rfl, beyond⟩
    · rintro ⟨rfl, beyond⟩
      exact .int64 beyond

/-- The reader of an integer of 32 bits decides. -/
theorem decides_readInt32 (v : Json) :
    Decides (readInt32 v) (fun x => v = .integer x.toInt) [Misfit .int32 v] := by
  apply decides_readInteger
  · exact fun x => ⟨⟨x.minValue_le_toInt, x.toInt_le⟩, Int32.ofInt_toInt x⟩
  · exact fun n is => Int32.toInt_ofInt_of_le is.1 (Int.lt_of_le_of_lt is.2 (by decide))
  · exact fun v => .rfl
  · intro n m
    constructor
    · rintro (other | _ | beyond)
      · exact absurd ⟨n, rfl⟩ other
      · exact ⟨rfl, beyond⟩
    · rintro ⟨rfl, beyond⟩
      exact .int32 beyond

/-- Texts are read one after another. -/
theorem mapM_readText (texts : List String) :
    (texts.map Json.string).mapM readText = .ok texts := by
  induction texts with
  | nil => rfl
  | cons s rest ih =>
    rw [List.map_cons, List.mapM_cons, ih]
    rfl

/-- The first element that cannot be read is what is complained of. -/
theorem mapM_readText_misfit (texts : List String) {m : Malformation} (rest : List Json)
    (refused : readText v = .error m) :
    (texts.map Json.string ++ v :: rest).mapM readText = .error m := by
  induction texts with
  | nil =>
    rw [List.map_nil, List.nil_append, List.mapM_cons, refused]
    rfl
  | cons s texts ih =>
    rw [List.map_cons, List.cons_append, List.mapM_cons, ih]
    rfl

/-- Elements are texts, or some first one is none. -/
theorem texts_or_misfit (elements : List Json) :
    (∃ texts : List String, elements = texts.map .string) ∨
    ∃ (texts : List String) (w : Json) (rest : List Json),
      elements = texts.map .string ++ w :: rest ∧ ¬MemberType.text.Form w := by
  induction elements with
  | nil => exact .inl ⟨[], rfl⟩
  | cons w rest ih =>
    by_cases form : MemberType.text.Form w
    · obtain ⟨s, rfl⟩ := form
      obtain ⟨texts, rfl⟩ | ⟨texts, w, rest, rfl, other⟩ := ih
      · exact .inl ⟨s :: texts, rfl⟩
      · exact .inr ⟨s :: texts, w, rest, rfl, other⟩
    · exact .inr ⟨[], w, rest, rfl, form⟩

/-- The reader of a list of texts decides. -/
theorem decides_readTexts (v : Json) :
    Decides (readTexts v) (fun texts => v = .ofStrings texts) [Misfit .sequence v] := by
  apply Decides.of_cases
  · rintro texts rfl
    exact mapM_readText texts
  · rintro m (other | _ | _ | other)
    · cases v with
      | array elements => exact absurd ⟨elements, rfl⟩ other
      | _ => rfl
    · rename_i texts w rest
      refine mapM_readText_misfit texts rest ?_
      exact ((decides_readText w).error _).2 (firstOf_singleton.2 (.form other))
  · by_cases form : MemberType.sequence.Form v
    · obtain ⟨elements, rfl⟩ := form
      obtain ⟨texts, rfl⟩ | ⟨texts, w, rest, rfl, other⟩ := texts_or_misfit elements
      · exact .inl ⟨texts, rfl⟩
      · exact .inr ⟨_, .element other⟩
    · exact .inr ⟨_, .form form⟩

end Values

section Typing

/-- What a member is read as: its value, or what stands for none. -/
def Holds {α : Type} (members : List (String × Json)) (name : String) (absent : α)
    (write : α → Json) (x : α) : Prop :=
  Counts members name (write x) ∨ Absent members name ∧ x = absent

/-- What the members are read as, name by name. -/
structure Raw.Of (members : List (String × Json)) (raw : Raw) : Prop where
  allowNetworks : Holds members "allownetworks" [] .ofStrings raw.allowNetworks
  backupTime : Holds members "backuptime" "" .string raw.backupTime
  defaultRoute : Holds members "defaultroute" "" .string raw.defaultRoute
  ipAddress : Holds members "ipaddress" "" .string raw.ipAddress
  maskLength : Holds members "masklen" 0 (fun n => .integer n.toInt) raw.maskLength
  port : Holds members "port" 0 (fun n => .integer n.toInt) raw.port
  switchId : Holds members "switchid" 0 (fun n => .integer n.toInt) raw.switchId
  username : Holds members "username" "" .string raw.username

/-- The names that are recognised and the types of their values, in ascending order. -/
def recognised : List (String × MemberType) :=
  [("allownetworks", .sequence), ("backuptime", .text), ("defaultroute", .text),
    ("ipaddress", .text), ("masklen", .int32), ("port", .int32), ("switchid", .int64),
    ("username", .text)]

/-- The value under a name is a misfit. -/
def Mistyped (members : List (String × Json)) (entry : String × MemberType) (m : Malformation) :
    Prop :=
  ∃ v, Counts members entry.1 v ∧ Misfit entry.2 v m

/-- A member is read if its value is, and otherwise mistyped. -/
theorem decides_readMember (members : List (String × Json)) {α : Type} {type : MemberType}
    {read : Json → Except Malformation α} {write : α → Json}
    (reads : ∀ v, Decides (read v) (v = write ·) [Misfit type v]) (name : String) (absent : α) :
    Decides (readMember members name absent read) (Holds members name absent write)
      [Mistyped members (name, type)] := by
  rw [readMember]
  cases found : folded? members name with
  | none =>
    have none := folded?_eq_none_iff.1 found
    apply Decides.of_cases
    · rintro x (counts | ⟨-, rfl⟩)
      · exact absurd counts (none.not_counts _)
      · rfl
    · rintro m ⟨v, counts, -⟩
      exact absurd counts (none.not_counts v)
    · exact .inl ⟨absent, .inr ⟨none, rfl⟩⟩
  | some v =>
    have counts := folded?_eq_some_iff.1 found
    have misfit : Misfit type v = Mistyped members (name, type) := by
      funext m
      apply propext
      constructor
      · exact fun misfit => ⟨v, counts, misfit⟩
      · rintro ⟨v', counts', misfit⟩
        rwa [counts.unique counts']
    rw [← misfit]
    apply (reads v).congr
    intro x
    constructor
    · rintro rfl
      exact .inl counts
    · rintro (counts' | ⟨none, -⟩)
      · exact counts.unique counts'
      · exact absurd counts (none.not_counts v)

/-- **The members are read, or the first misfit in ascending order is complained about.** -/
theorem decides_readMembers (members : List (String × Json)) :
    Decides (readMembers members) (Raw.Of members) (recognised.map (Mistyped members)) := by
  have texts := decides_readMember members decides_readTexts
  have text := decides_readMember members decides_readText
  have int32 := decides_readMember members decides_readInt32
  have int64 := decides_readMember members decides_readInt64
  have all :=
    (texts "allownetworks" []).bind fun a _ => (text "backuptime" "").bind fun b _ =>
    (text "defaultroute" "").bind fun d _ => (text "ipaddress" "").bind fun i _ =>
    (int32 "masklen" 0).bind fun m _ => (int32 "port" 0).bind fun p _ =>
    (int64 "switchid" 0).bind fun s _ => (text "username" "").bind fun u _ =>
    Decides.pure (⟨s, i, m, d, u, p, b, a⟩ : Raw)
  refine Decides.congr all ?_
  intro raw
  constructor
  · rintro ⟨_, a, _, b, _, d, _, i, _, m, _, p, _, s, _, u, rfl⟩
    exact ⟨a, b, d, i, m, p, s, u⟩
  · rintro ⟨a, b, d, i, m, p, s, u⟩
    exact ⟨_, a, _, b, _, d, _, i, _, m, _, p, _, s, _, u, rfl⟩

end Typing

end Parameters
end ServiceBroker

/-
# Parameters in the form of a request

Parameters are written under the names of the messages and read without regard to case, and
what is not set is left out.  Yet what is written describes just the parameters that it was
written for (`Parameters.describes_toJson`): each name folds to the one that is read, and a
member that is left out is read as the value that stands for none.

With the text of what is written (`Json.parse?_text`) parameters come back from their text.
-/

import Mathlib.Data.List.Nodup
import ServiceBroker.Proofs.Grammar
import ServiceBroker.Proofs.Printing

namespace ServiceBroker

namespace Json

variable {fields : List (String × Option Json)} {key : String} {said : Option Json}

/-- The members that are set. -/
def membersSet (fields : List (String × Option Json)) : List (String × Json) :=
  fields.filterMap fun (key, value) => value.map (key, ·)

/-- A member is set just if there is a value for it. -/
theorem mem_membersSet {m : String × Json} : m ∈ membersSet fields ↔ (m.1, some m.2) ∈ fields := by
  obtain ⟨key, v⟩ := m
  rw [membersSet, List.mem_filterMap]
  constructor
  · rintro ⟨⟨k, o⟩, there, set⟩
    obtain ⟨w, rfl, is⟩ := Option.map_eq_some_iff.1 set
    cases is
    exact there
  · exact fun there => ⟨_, there, rfl⟩

/-- The members that are set are distinct. -/
theorem nodup_membersSet (distinct : fields.Nodup) : (membersSet fields).Nodup := by
  refine distinct.filterMap ?_
  rintro ⟨k, o⟩ ⟨k', o'⟩ m set set'
  obtain ⟨v, rfl, rfl⟩ := Option.map_eq_some_iff.1 set
  obtain ⟨v', rfl, same⟩ := Option.map_eq_some_iff.1 set'
  cases same
  rfl

/-- The members that are set are in ascending order. -/
theorem ascending_membersSet (ascending : (fields.map (·.1)).Pairwise (· < ·)) :
    ((membersSet fields).map (·.1)).Pairwise (· < ·) := by
  refine ascending.sublist ?_
  clear ascending
  induction fields with
  | nil => exact .slnil
  | cons field rest ih =>
    obtain ⟨key, o⟩ := field
    cases o with
    | none => exact ih.cons key
    | some v => exact ih.cons_cons key

/-- **A member of an object is what was set for its key.** -/
theorem member?_present (distinct : (fields.map (·.1)).Nodup) (there : (key, said) ∈ fields) :
    (present fields).member? key = said := by
  have only {w : Json} (set : (key, w) ∈ membersSet fields) : said = some w :=
    (Prod.mk.inj (List.inj_on_of_nodup_map distinct there (mem_membersSet.1 set) rfl)).2
  show (membersSet fields).lookup key = said
  cases found : (membersSet fields).lookup key with
  | some w =>
    obtain ⟨before, after, split, -⟩ := List.lookup_eq_some_iff.1 found
    exact (only (split ▸ by simp)).symm
  | none =>
    cases said with
    | none => rfl
    | some v =>
      have other := List.lookup_eq_none_iff.1 found (key, v) (mem_membersSet.2 there)
      simp at other

end Json

namespace Parameters

variable {fields : List (String × Option Json)} {key : String} {said : Option Json} {blank : Json}

/-- **What is written under a name is given under its folded name.** -/
theorem gives_present (distinct : (fields.map (fold ·.1)).Nodup) (there : (key, said) ∈ fields)
    (nonblank : said ≠ some blank) : Gives (Json.membersSet fields) (fold key) blank said := by
  have only {m : String × Json} (set : m ∈ Json.membersSet fields) (folds : fold m.1 = fold key) :
      (m.1, some m.2) = (key, said) :=
    List.inj_on_of_nodup_map distinct (Json.mem_membersSet.1 set) there folds
  cases said with
  | none => exact .inl fun m set folds => nomatch only set folds
  | some v =>
    have set : (key, v) ∈ Json.membersSet fields := Json.mem_membersSet.2 there
    obtain ⟨before, after, split⟩ := List.append_of_mem set
    refine ⟨⟨before, key, after, split, rfl, ?_, ?_⟩, fun is => nonblank (congrArg some is)⟩
    · intro m earlier folds
      have same := only (split ▸ List.mem_append_left _ earlier) folds
      rw [(Prod.mk.inj same).1]
      exact List.le_refl _
    · intro m later folds
      have same := only (split ▸ by simp [later]) folds
      have is : m = (key, v) := by grind
      have once := Json.nodup_membersSet distinct.of_map
      rw [split, List.nodup_append] at once
      rw [is] at later
      exact absurd later (List.nodup_cons.1 once.2.1).1

/-- What a member gives is never the blank value. -/
theorem Gives.ne_blank {members : List (String × Json)} {name : String}
    (gives : Gives members name blank said) : said ≠ some blank := by
  rintro rfl
  exact gives.2 rfl

/-- The members that parameters are written as. -/
def written (p : Parameters) : List (String × Option Json) :=
  [("allowNetworks", if p.allowNetworks = [] then none else some (.ofStrings p.allowNetworks)),
    ("backupTime", p.backupTime.map .string),
    ("defaultRoute", some (.string p.defaultRoute.text)),
    ("ipaddress", some (.string p.ipAddress.text)),
    ("maskLen", some (.integer p.maskLength.toInt)),
    ("port", p.port.map fun port => .integer port.toNat),
    ("switchID", some (.integer p.switchId.toInt)),
    ("username", p.username.map .string)]

variable {p : Parameters} {v : Option Json}

/-- Parameters are written with the members that are there. -/
theorem toJson_eq (p : Parameters) : p.toJson = .present p.written := rfl

/-- The keys of the members, in ascending order. -/
theorem map_fst_written (p : Parameters) : p.written.map (·.1) =
    ["allowNetworks", "backupTime", "defaultRoute", "ipaddress", "maskLen", "port", "switchID",
      "username"] := rfl

/-- **What is written describes what it was written for.** -/
theorem describes_toJson {members : List (String × Json)} (h : Describes members p) :
    Describes (Json.membersSet p.written) p := by
  have folded : p.written.map (fold ·.1) = (p.written.map (·.1)).map fold := by
    rw [List.map_map]
    rfl
  have distinct : (p.written.map (fold ·.1)).Nodup := by
    rw [folded, map_fst_written]
    decide
  have gives (key : String) {said : Option Json} {blank : Json} (there : (key, said) ∈ p.written)
      (nonblank : said ≠ some blank) : Gives (Json.membersSet p.written) (fold key) blank said :=
    gives_present distinct there nonblank
  constructor
  · exact gives "switchID" (by simp [written]) h.switchId.ne_blank
  · exact gives "ipaddress" (by simp [written]) h.ipAddress.ne_blank
  · exact gives "maskLen" (by simp [written]) h.maskLength.ne_blank
  · exact gives "defaultRoute" (by simp [written]) h.defaultRoute.ne_blank
  · exact gives "username" (by simp [written]) h.username.ne_blank
  · exact gives "port" (by simp [written]) h.port.ne_blank
  · exact gives "backupTime" (by simp [written]) h.backupTime.ne_blank
  · exact gives "allowNetworks" (by simp [written]) h.allowNetworks.ne_blank

/-- **Parameters are read back from their text.** -/
theorem readable_toJson (p : Parameters) : Json.Readable Json.Document.maxDepth p.toJson := by
  have bounds : Int64.minValue.toInt = -9223372036854775808 ∧
      (UInt64.size : Int) - 1 = 18446744073709551615 := by decide
  have text (said : Option String) {v : Json} (set : some v = said.map .string) :
      Json.Readable 126 v := by
    obtain ⟨s, -, rfl⟩ := Option.map_eq_some_iff.1 set.symm
    exact .string s
  rw [toJson_eq]
  apply Json.Readable.object
  · refine Json.ascending_membersSet (?_ : (p.written.map (·.1)).Pairwise (· < ·))
    rw [map_fst_written]
    decide
  · rintro ⟨key, v⟩ there
    have set : (key, some v) ∈ p.written := Json.mem_membersSet.1 there
    simp only [written, List.mem_cons, Prod.mk.injEq, List.not_mem_nil, or_false] at set
    rcases set with ⟨-, set⟩ | ⟨-, set⟩ | ⟨-, set⟩ | ⟨-, set⟩ | ⟨-, set⟩ | ⟨-, set⟩ | ⟨-, set⟩ |
      ⟨-, set⟩
    · split at set
      · cases set
      · cases set
        refine .array fun w there => ?_
        obtain ⟨s, -, rfl⟩ := List.mem_map.1 there
        exact .string s
    · exact text p.backupTime set
    · exact text (some _) set
    · exact text (some _) set
    · cases set
      have low := p.maskLength.minValue_le_toInt
      have high := p.maskLength.toInt_le
      have least : Int32.minValue.toInt = -2147483648 := by decide
      have greatest : Int32.maxValue.toInt = 2147483647 := by decide
      exact .integer (by omega)
    · obtain ⟨port, -, rfl⟩ := Option.map_eq_some_iff.1 set.symm
      have small := port.toNat_lt
      exact .integer (by omega)
    · cases set
      have low := p.switchId.minValue_le_toInt
      have high := p.switchId.toInt_le
      have greatest : Int64.maxValue.toInt = 9223372036854775807 := by decide
      exact .integer (by omega)
    · exact text p.username set

/-- **Parameters come back from their form in a request**, as a value and as its text.  The
addresses in it are the very texts that they were read from, and the other members are there just
where they are set. -/
theorem parse_toJson (accepted : parse v = .ok p) :
    parse (some p.toJson) = .ok p ∧
    Json.parse? (Bytes.ofText p.toJson.text) = some p.toJson ∧
    (∃ members ipAddress defaultRoute, v = some (.object members) ∧
      Counts members "ipaddress" (.string ipAddress) ∧
      p.toJson.member? "ipaddress" = some (.string ipAddress) ∧
      Counts members "defaultroute" (.string defaultRoute) ∧
      p.toJson.member? "defaultRoute" = some (.string defaultRoute)) ∧
    p.toJson.member? "username" = p.username.map .string ∧
    p.toJson.member? "port" = p.port.map (fun port => .integer port.toNat) ∧
    p.toJson.member? "backupTime" = p.backupTime.map .string ∧
    p.toJson.member? "allowNetworks" =
      if p.allowNetworks = [] then none else some (.ofStrings p.allowNetworks) := by
  obtain ⟨members, rfl, -, describes⟩ := ((decides_parse v).ok p).1 accepted
  have distinct : (p.written.map (·.1)).Nodup := by
    rw [map_fst_written]
    decide
  have member (key : String) {said : Option Json} (there : (key, said) ∈ p.written) :
      p.toJson.member? key = said := by
    rw [toJson_eq]
    exact Json.member?_present distinct there
  have set : ("switchID", .integer p.switchId.toInt) ∈ Json.membersSet p.written :=
    Json.mem_membersSet.2 (by simp [written])
  refine ⟨?_, Json.parse?_text (readable_toJson p), ?_, ?_, ?_, ?_, ?_⟩
  · exact ((decides_parse _).ok p).2 ⟨_, rfl, List.ne_nil_of_mem set, describes_toJson describes⟩
  · exact ⟨members, _, _, rfl, describes.ipAddress.1, member "ipaddress" (by simp [written]),
      describes.defaultRoute.1, member "defaultRoute" (by simp [written])⟩
  · exact member "username" (by simp [written])
  · exact member "port" (by simp [written])
  · exact member "backupTime" (by simp [written])
  · exact member "allowNetworks" (by simp [written])

/-- Parameters at the ends of their ranges, with a name that has to be escaped and a key that does
not count. -/
def extreme : Json :=
  .object [("AllowNetworks", .ofStrings ["10.0.0.0/8", ""]), ("IPADDRESS", .null),
    ("backupTime", .string ""), ("defaultRoute", .string "255.255.255.255"),
    ("ipaddress", .string "0.0.0.0"), ("maskLen", .integer 2147483647), ("port", .integer 65535),
    ("switchID", .integer (-9223372036854775808)), ("username", .string "\"\\\n\x01é𝔸"),
    ("zone", .bool true)]

/-- They come back. -/
theorem extreme_comes_back :
    let p : Parameters := {
      switchId := Int64.minValue
      ipAddress := ⟨0, 0, 0, 0⟩
      maskLength := Int32.maxValue
      defaultRoute := ⟨255, 255, 255, 255⟩
      username := some "\"\\\n\x01é𝔸"
      port := some 65535
      allowNetworks := ["10.0.0.0/8", ""] }
    parse (some extreme) = .ok p ∧ parse (some p.toJson) = .ok p ∧
      Json.parse? (Bytes.ofText p.toJson.text) = some p.toJson ∧
      p.toJson.member? "ipaddress" = some (.string "0.0.0.0") ∧
      p.toJson.member? "port" = some (.integer 65535) ∧ p.toJson.member? "backupTime" = none := by
  intro p
  have accepted : parse (some extreme) = .ok p := rfl
  obtain ⟨again, text, ⟨members, address, route, ⟨⟩, counts, carried, -⟩, -, port, backupTime, -⟩ :=
    parse_toJson accepted
  have found := folded?_eq_some_iff.2 counts
  have is : "0.0.0.0" = address := Json.string.inj (Option.some.inj found)
  exact ⟨accepted, again, text, is ▸ carried, port, backupTime⟩

end Parameters
end ServiceBroker

/-
# The grammar of the parameters

What `Parameters.parse` accepts and what it refuses, written down without its readers.
`Parameters.Describes` lists what an object has to say for parameters,
`Parameters.complaints` what may be wrong with a value, in order.

Readers that decide do so one after another (`Decides.bind`), from the single member
(`Parameters.decides_readMembers`) to `Parameters.decides_parse`.
-/

import ServiceBroker.Proofs.Members

namespace ServiceBroker
namespace Parameters

/-- What the members say, name by name. -/
structure Describes (members : List (String × Json)) (p : Parameters) : Prop where
  switchId : Gives members "switchid" (.integer 0) (some (.integer p.switchId.toInt))
  ipAddress : Gives members "ipaddress" (.string "") (some (.string p.ipAddress.text))
  maskLength : Gives members "masklen" (.integer 0) (some (.integer p.maskLength.toInt))
  defaultRoute : Gives members "defaultroute" (.string "") (some (.string p.defaultRoute.text))
  username : Gives members "username" (.string "") (p.username.map .string)
  port : Gives members "port" (.integer 0) (p.port.map fun port => .integer port.toNat)
  backupTime : Gives members "backuptime" (.string "") (p.backupTime.map .string)
  allowNetworks : Gives members "allownetworks" (.array [])
    (if p.allowNetworks = [] then none else some (.ofStrings p.allowNetworks))

/-- A value is an object with members that describe parameters. -/
def Described (v : Option Json) (p : Parameters) : Prop :=
  ∃ members, v = some (.object members) ∧ members ≠ [] ∧ Describes members p

/-- The value with which a member that has to be there is as good as left out. -/
def blank : RequiredMember → Json
  | .switchId | .maskLength => .integer 0
  | .ipAddress | .defaultRoute => .string ""

section Complaints

variable (members : List (String × Json))

/-- A member that has to be there says nothing. -/
def Lacking (member : RequiredMember) (e : ParameterError) : Prop :=
  e = .missing member ∧ Gives members (fold member.name) (blank member) none

/-- The text of a member is the dotted form of no address. -/
def NoAddress (member : RequiredMember) (e : ParameterError) : Prop :=
  e = .invalidIpv4 member ∧
    ∃ s, Counts members (fold member.name) (.string s) ∧ ∀ a : Ipv4, s ≠ a.text

/-- The port is no port number. -/
def NoPort (e : ParameterError) : Prop :=
  ∃ n, Counts members "port" (.integer n) ∧ ¬(0 ≤ n ∧ n ≤ 65535) ∧ e = .malformed (.badPort n)

/-- What may be wrong with members of the right types, in order. -/
def checks : List (ParameterError → Prop) :=
  [Lacking members .switchId, Lacking members .ipAddress, Lacking members .maskLength,
    Lacking members .defaultRoute, NoAddress members .ipAddress, NoAddress members .defaultRoute,
    NoPort members]

end Complaints

/-- The members of an object; other values have none. -/
def membersOf : Option Json → List (String × Json)
  | some (.object members) => members
  | _ => []

/-- What may be wrong with parameters, in order. -/
def complaints (v : Option Json) : List (ParameterError → Prop) :=
  [fun e => (v = none ∨ v = some .null ∨ v = some (.object [])) ∧ e = .empty,
    fun e => (∀ members, v ≠ some (.object members)) ∧ e = .malformed .notAnObject] ++
  (recognised.map fun entry e => ∃ m, Mistyped (membersOf v) entry m ∧ e = .malformed m) ++
  checks (membersOf v)

section Checking

variable {members : List (String × Json)} {name : String}

section Holding

variable {α : Type} {absent x : α} {write : α → Json}

/-- A member that is there counts with its value. -/
theorem Holds.counts (h : Holds members name absent write x) (present : x ≠ absent) :
    Counts members name (write x) :=
  h.resolve_right fun none => present none.2

/-- **A member says what it is read as**, and what stands for none says nothing. -/
theorem Holds.gives_iff [DecidableEq α] (h : Holds members name absent write x)
    (injective : write.Injective) (said : Option Json) :
    Gives members name (write absent) said ↔
      said = if x = absent then none else some (write x) := by
  have same : write x = write absent ↔ x = absent := injective.eq_iff
  obtain counts | ⟨none, rfl⟩ := h
  · have only (v : Json) : Counts members name v ↔ v = write x :=
      ⟨fun counts' => counts'.unique counts, fun is => is ▸ counts⟩
    have there : ¬Absent members name := fun none => none.not_counts _ counts
    cases said with
    | none =>
      rw [Gives, only]
      grind
    | some v =>
      rw [Gives, only]
      grind
  · rw [if_pos rfl]
    cases said with
    | none => exact iff_of_true (.inl none) rfl
    | some v => exact iff_of_false (fun gives => none.not_counts v gives.1) nofun

/-- A member gives a value just if this is what it holds, and not as good as nothing. -/
theorem Holds.gives_some_iff [DecidableEq α] (h : Holds members name absent write x)
    (injective : write.Injective) (y : α) :
    Gives members name (write absent) (some (write y)) ↔ x ≠ absent ∧ x = y := by
  rw [h.gives_iff injective]
  by_cases is : x = absent
  · rw [if_pos is]
    exact iff_of_false nofun fun other => other.1 is
  · rw [if_neg is, Option.some.injEq, injective.eq_iff]
    exact ⟨fun same => ⟨is, same.symm⟩, fun same => same.2.symm⟩

end Holding

/-- A member gives the text that it holds, unless this is empty. -/
theorem Holds.gives_text_iff {s : String} (h : Holds members name "" .string s)
    (said : Option String) :
    Gives members name (.string "") (said.map .string) ↔ said = nonEmpty s := by
  rw [h.gives_iff fun _ _ => Json.string.inj, nonEmpty]
  cases said <;> grind

/-- Arrays of different texts differ. -/
theorem ofStrings_injective : Function.Injective Json.ofStrings := fun _ _ same =>
  List.map_injective_iff.2 (fun _ _ => Json.string.inj) (Json.array.inj same)

/-- The reader of an address decides. -/
theorem decides_readAddress (member : RequiredMember) {s : String}
    (counts : Counts members (fold member.name) (.string s)) :
    Decides (readAddress member s) (fun a => s = a.text) [NoAddress members member] := by
  rw [readAddress]
  apply Decides.of_cases
  · rintro a rfl
    rw [Ipv4.parse?_text]
  · rintro e ⟨rfl, s', counts', none⟩
    cases counts.unique counts'
    cases found : Ipv4.parse? s with
    | none => rfl
    | some a => exact absurd (Ipv4.parse?_eq_some_iff.1 found) (none a)
  · by_cases form : ∃ a : Ipv4, s = a.text
    · exact .inl form
    · exact .inr ⟨_, rfl, s, counts, fun a is => form ⟨a, is⟩⟩

/-- The reader of the port decides. -/
theorem decides_readPort {n : Int32}
    (holds : Holds members "port" 0 (fun n => .integer n.toInt) n) :
    Decides (readPort n)
      (fun port => (port.map fun port => Json.integer port.toNat) =
        if n = 0 then none else some (.integer n.toInt)) [NoPort members] := by
  rw [readPort]
  apply Decides.of_cases
  · intro port said
    by_cases zero : n = 0
    · rw [if_pos zero, Option.map_eq_none_iff] at said
      rw [if_pos zero, said]
    · rw [if_neg zero, Option.map_eq_some_iff] at said
      obtain ⟨number, rfl, is⟩ := said
      have is : (number.toNat : Int) = n.toInt := Json.integer.inj is
      have small := number.toNat_lt
      have back : n.toInt.toNat = number.toNat := by omega
      rw [if_neg zero, if_pos (by omega), back, UInt16.ofNat_toNat]
  · rintro e ⟨n', counts, beyond, rfl⟩
    obtain there | ⟨none, -⟩ := holds
    · cases counts.unique there
      have nonzero : n ≠ 0 := by
        rintro rfl
        exact beyond (by decide)
      rw [if_neg nonzero, if_neg beyond]
    · exact absurd counts (none.not_counts _)
  · by_cases zero : n = 0
    · exact .inl ⟨none, by rw [if_pos zero]; rfl⟩
    · by_cases within : 0 ≤ n.toInt ∧ n.toInt ≤ 65535
      · refine .inl ⟨some (UInt16.ofNat n.toInt.toNat), ?_⟩
        have small : n.toInt.toNat < 65536 := by omega
        rw [if_neg zero, Option.map_some, UInt16.toNat_ofNat_of_lt' small,
          Int.toNat_of_nonneg within.1]
      · exact .inr ⟨_, n.toInt, holds.counts zero, within, rfl⟩

/-- The checks of the members, one after another. -/
theorem ofRaw_eq (raw : Raw) : ofRaw raw =
    if raw.switchId = 0 then .error (.missing .switchId)
    else if raw.ipAddress = "" then .error (.missing .ipAddress)
    else if raw.maskLength = 0 then .error (.missing .maskLength)
    else if raw.defaultRoute = "" then .error (.missing .defaultRoute)
    else do
      let ipAddress ← readAddress .ipAddress raw.ipAddress
      let defaultRoute ← readAddress .defaultRoute raw.defaultRoute
      let port ← readPort raw.port
      return {
        switchId := raw.switchId
        ipAddress
        maskLength := raw.maskLength
        defaultRoute
        username := nonEmpty raw.username
        port
        backupTime := nonEmpty raw.backupTime
        allowNetworks := raw.allowNetworks } := by
  rfl

/-- A member that has to be there lacks if it is read as what stands for none. -/
theorem lacking_iff (member : RequiredMember) {α : Type} [DecidableEq α] {absent x : α}
    {write : α → Json} (holds : Holds members (fold member.name) absent write x)
    (injective : write.Injective) (is_blank : blank member = write absent) (e : ParameterError) :
    Lacking members member e ↔ e = .missing member ∧ x = absent := by
  rw [Lacking, is_blank, holds.gives_iff injective]
  grind

/-- **Typed members are checked in order.** -/
theorem decides_ofRaw {raw : Raw} (read : raw.Of members) :
    Decides (ofRaw raw) (Describes members) (checks members) := by
  have int64 : Function.Injective fun n : Int64 => Json.integer n.toInt :=
    fun _ _ same => Int64.toInt.inj (Json.integer.inj same)
  have int32 : Function.Injective fun n : Int32 => Json.integer n.toInt :=
    fun _ _ same => Int32.toInt.inj (Json.integer.inj same)
  have text : Function.Injective Json.string := fun _ _ => Json.string.inj
  rw [ofRaw_eq]
  have all :=
    Decides.check (lacking_iff .switchId read.switchId int64 rfl) fun _ =>
    Decides.check (lacking_iff .ipAddress read.ipAddress text rfl) fun ipAddress =>
    Decides.check (lacking_iff .maskLength read.maskLength int32 rfl) fun _ =>
    Decides.check (lacking_iff .defaultRoute read.defaultRoute text rfl)
      fun defaultRoute =>
    (decides_readAddress .ipAddress (read.ipAddress.counts ipAddress)).bind fun i _ =>
    (decides_readAddress .defaultRoute (read.defaultRoute.counts defaultRoute)).bind fun d _ =>
    (decides_readPort read.port).bind fun port _ =>
    Decides.pure (⟨raw.switchId, i, raw.maskLength, d, nonEmpty raw.username, port,
      nonEmpty raw.backupTime, raw.allowNetworks⟩ : Parameters)
  refine Decides.congr all ?_
  intro p
  constructor
  · rintro ⟨switch, address, mask, route, i, is, d, is', port, said, rfl⟩
    constructor
    · exact (read.switchId.gives_some_iff int64 _).2 ⟨switch, rfl⟩
    · exact (read.ipAddress.gives_some_iff text _).2 ⟨address, is⟩
    · exact (read.maskLength.gives_some_iff int32 _).2 ⟨mask, rfl⟩
    · exact (read.defaultRoute.gives_some_iff text _).2 ⟨route, is'⟩
    · exact (read.username.gives_text_iff _).2 rfl
    · exact (read.port.gives_iff int32 _).2 said
    · exact (read.backupTime.gives_text_iff _).2 rfl
    · exact (read.allowNetworks.gives_iff ofStrings_injective _).2 rfl
  · intro h
    obtain ⟨switch, switchIs⟩ := (read.switchId.gives_some_iff int64 _).1 h.switchId
    obtain ⟨address, addressIs⟩ := (read.ipAddress.gives_some_iff text _).1 h.ipAddress
    obtain ⟨mask, maskIs⟩ := (read.maskLength.gives_some_iff int32 _).1 h.maskLength
    obtain ⟨route, routeIs⟩ := (read.defaultRoute.gives_some_iff text _).1 h.defaultRoute
    have username := (read.username.gives_text_iff _).1 h.username
    have port := (read.port.gives_iff int32 _).1 h.port
    have backupTime := (read.backupTime.gives_text_iff _).1 h.backupTime
    have networks := (read.allowNetworks.gives_iff ofStrings_injective _).1 h.allowNetworks
    have networksIs : raw.allowNetworks = p.allowNetworks := by
      have same := ofStrings_injective.eq_iff (a := raw.allowNetworks) (b := p.allowNetworks)
      grind
    refine ⟨switch, address, mask, route, _, addressIs, _, routeIs, _, port, ?_⟩
    rw [switchIs, maskIs, ← username, ← backupTime, networksIs]

/-- A member that gives something of its type, or nothing, holds a value. -/
theorem Gives.holds {α : Type} (absent : α) (write : α → Json) {said : Option Json}
    (gives : Gives members name (write absent) said) (typed : ∀ v ∈ said, ∃ x, v = write x) :
    ∃ x, Holds members name absent write x := by
  cases said with
  | none =>
    obtain none | counts := gives
    · exact ⟨absent, .inr ⟨none, rfl⟩⟩
    · exact ⟨absent, .inl counts⟩
  | some v =>
    obtain ⟨x, rfl⟩ := typed v rfl
    exact ⟨x, .inl gives.1⟩

/-- Members that describe parameters are of the right types. -/
theorem Describes.typed {p : Parameters} (h : Describes members p) :
    ∃ raw, Raw.Of members raw := by
  have text (said : Option String) : ∀ v ∈ said.map Json.string, ∃ s, v = .string s := by
    rintro v there
    obtain ⟨s, -, rfl⟩ := Option.map_eq_some_iff.1 there
    exact ⟨s, rfl⟩
  obtain ⟨s, switchId⟩ := Gives.holds 0 (fun n : Int64 => .integer n.toInt) h.switchId
    (by rintro _ ⟨⟩; exact ⟨_, rfl⟩)
  obtain ⟨i, ipAddress⟩ := Gives.holds "" .string h.ipAddress (text (some _))
  obtain ⟨m, maskLength⟩ := Gives.holds 0 (fun n : Int32 => .integer n.toInt) h.maskLength
    (by rintro _ ⟨⟩; exact ⟨_, rfl⟩)
  obtain ⟨d, defaultRoute⟩ := Gives.holds "" .string h.defaultRoute (text (some _))
  obtain ⟨u, username⟩ := Gives.holds "" .string h.username (text _)
  obtain ⟨b, backupTime⟩ := Gives.holds "" .string h.backupTime (text _)
  obtain ⟨n, port⟩ := Gives.holds 0 (fun n : Int32 => .integer n.toInt) h.port <| by
    intro v there
    obtain ⟨number, -, rfl⟩ := Option.map_eq_some_iff.1 there
    have small := number.toNat_lt
    exact ⟨Int32.ofNat number.toNat, by rw [Int32.toInt_ofNat_of_lt (by omega)]⟩
  obtain ⟨a, allowNetworks⟩ := Gives.holds [] .ofStrings h.allowNetworks <| by
    intro v there
    split at there
    · cases there
    · exact ⟨_, (Option.some.inj there).symm⟩
  exact ⟨⟨s, i, m, d, u, n, b, a⟩, allowNetworks, backupTime, defaultRoute, ipAddress, maskLength,
    port, switchId, username⟩

/-- What is left out, is null or has no members is refused as empty. -/
theorem decides_empty {v : Option Json} (is : v = none ∨ v = some .null ∨ v = some (.object [])) :
    Decides (.error .empty) (Described v) (complaints v) := by
  apply Decides.stopped
  · exact fun e => and_iff_right is
  · rintro p ⟨members, rfl, nonempty, -⟩
    obtain none | null | object := is
    · cases none
    · cases null
    · exact nonempty (Json.object.inj (Option.some.inj object))

/-- What is no object and not empty is refused as malformed. -/
theorem decides_other {v : Option Json}
    (is : ¬(v = none ∨ v = some .null ∨ v = some (.object [])))
    (no_object : ∀ members, v ≠ some (.object members)) :
    Decides (.error (.malformed .notAnObject)) (Described v) (complaints v) := by
  apply Decides.passed fun e applies => is applies.1
  apply Decides.stopped
  · exact fun e => and_iff_right no_object
  · rintro p ⟨members, object, -⟩
    exact no_object members object

/-- **The members of an object are read, and then checked.** -/
theorem decides_object {members : List (String × Json)} (nonempty : members ≠ []) :
    Decides ((readMembers members).mapError .malformed >>= ofRaw)
      (Described (some (.object members))) (complaints (some (.object members))) := by
  have read_and_checked := ((decides_readMembers members).mapError ParameterError.malformed).bind
    fun _ read => decides_ofRaw read
  apply Decides.passed (by simp [nonempty])
  apply Decides.passed (by simp)
  refine read_and_checked.congr fun p => ?_
  constructor
  · rintro ⟨raw, -, describes⟩
    exact ⟨members, rfl, nonempty, describes⟩
  · rintro ⟨members, ⟨⟩, -, describes⟩
    obtain ⟨raw, read⟩ := describes.typed
    exact ⟨raw, read, describes⟩

/-- **The parser of the parameters decides.** -/
theorem decides_parse (v : Option Json) :
    Decides (parse v) (Described v) (complaints v) := by
  cases v with
  | none => exact decides_empty (.inl rfl)
  | some v =>
    cases v with
    | null => exact decides_empty (.inr (.inl rfl))
    | object members =>
      cases members with
      | nil => exact decides_empty (.inr (.inr rfl))
      | cons m rest => exact decides_object (List.cons_ne_nil m rest)
    | _ => exact decides_other (by simp) (by simp)

end Checking

/-- **Parameters are decided by their grammar.**  They are accepted exactly if they are an object
whose members describe them, and then as described; that is so exactly if no complaint applies.
Otherwise the first complaint is the error, whatever else is wrong. -/
theorem parse_decides_grammar (v : Option Json) :
    (∀ p, parse v = .ok p ↔
      ∃ members, v = some (.object members) ∧ members ≠ [] ∧ Describes members p) ∧
    ((∃ p, parse v = .ok p) ↔ ∀ complaint ∈ complaints v, ∀ e, ¬complaint e) ∧
    ∀ e, parse v = .error e ↔ FirstOf (complaints v) e :=
  ⟨(decides_parse v).ok, (decides_parse v).exists_ok_iff, (decides_parse v).error⟩

/-- A member that is not there comes before an address that is none. -/
example : parse (some (.object [("ipaddress", .string "not-an-ip"), ("maskLen", .integer 24),
    ("switchID", .integer 1)])) = .error (.missing .defaultRoute) := rfl

/-- Of two keys the greater one counts, and a value of a wrong type comes before everything else. -/
example : parse (some (.object [("MASKLEN", .integer 24), ("maskLen", .null)])) =
    .error (.malformed (.wrongType .null .int32)) := rfl

end Parameters
end ServiceBroker

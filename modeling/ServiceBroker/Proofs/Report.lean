/-
# What is ordered is what is reported

A provider reports an appliance by the order for it, with a number and its state added, some
numbers written as texts and members of its own anywhere (`Json.Within`).  Each reader of a
record gives the same for all such values (`Json.Reads`), reader by reader up to the report as a
whole, so every attribute of an order comes back.
-/

import ServiceBroker.Handler.Database
import ServiceBroker.Proofs.Numerals
import ServiceBroker.Provider.Rest.Wire
import Mathlib.Data.List.Forall2

namespace ServiceBroker
namespace Json

/-- What the first value says the second says too: its objects may have more members. -/
inductive Within : Json → Json → Prop
  | refl (v : Json) : Within v v
  | array {elements elements' : List Json} (each : List.Forall₂ Within elements elements') :
    Within (.array elements) (.array elements')
  | object {members members' : List (String × Json)} (image : String → Json)
    (found : ∀ key v, members.lookup key = some v → members'.lookup key = some (image key))
    (each : ∀ key v, members.lookup key = some v → Within v (image key)) :
    Within (.object members) (.object members')

/-- A reader gives this for a value with any more members. -/
def Reads {α : Type} (read : Json → Option α) (v : Json) (x : α) : Prop :=
  ∀ w, v.Within w → read w = some x

/-- A reader gives this for a member of an object. -/
def ReadsAt {α : Type} (read : Json → Option α) (members : List (String × Json)) (name : String)
    (x : α) : Prop :=
  ∃ v, members.lookup name = some v ∧ Reads read v x

/-- Fields say what the members of an object say. -/
def Fields.Hold (fields : Fields) (members : List (String × Json)) : Prop :=
  ∀ key v, members.lookup key = some v → ∃ w, fields key = some w ∧ v.Within w

/-- An object with a value put under a path of keys. -/
def put (value : Json) : List String → Json → Json
  | [], _ => value
  | key :: path, .object members =>
    .object (insertMember key (put value path ((members.lookup key).getD (.object []))) members)
  | _ :: _, v => v

section Adding

variable {members : List (String × Json)} {key : String} {v w : Json}

/-- A member that is put is found under its key, and the others as before. -/
theorem lookup_insertMember (k : String) :
    (insertMember key v members).lookup k = if k = key then some v else members.lookup k := by
  induction members with
  | nil =>
    by_cases same : k = key
    · simp [insertMember, same]
    · simp [insertMember, List.lookup_cons, same, beq_eq_false_iff_ne.2 same]
  | cons e rest ih =>
    obtain ⟨key', v'⟩ := e
    by_cases same : k = key <;> by_cases same' : k = key' <;> grind [insertMember]

/-- A value has a member more if it has none of that key. -/
theorem Within.more (unknown : members.lookup key = none) (v : Json) :
    Within (.object members) (.object (insertMember key v members)) := by
  refine .object (fun k => (members.lookup k).getD .null) ?_ ?_
  · intro k value there
    have other : k ≠ key := by
      rintro rfl
      rw [unknown] at there
      cases there
    rw [lookup_insertMember, if_neg other, there, Option.getD_some]
  · intro k value there
    rw [there, Option.getD_some]
    exact .refl value

/-- A value says more if one of its members does. -/
theorem Within.inside (there : members.lookup key = some v) (within : v.Within w) :
    Within (.object members) (.object (insertMember key w members)) := by
  refine .object (fun k => if k = key then w else (members.lookup k).getD .null) ?_ ?_
  · intro k value found
    rw [lookup_insertMember, found]
    split <;> rfl
  · intro k value found
    split
    · rename_i same
      rw [same, there] at found
      cases found
      exact within
    · rw [found, Option.getD_some]
      exact .refl value

end Adding

section Reading

variable {α : Type} {read : Json → Option α} {members : List (String × Json)} {name : String}
  {fields : Fields} {x : α}

/-- A text is read as it is. -/
theorem reads_string (s : String) : Reads string? (.string s) s := by
  intro w within
  cases within
  rfl

/-- An integer of 32 bits is read as it is. -/
theorem reads_int32 (n : Int32) : Reads int32? (.integer n.toInt) n := by
  intro w within
  cases within
  rw [int32?, integerWithin?, if_pos ⟨n.minValue_le_toInt, n.toInt_le⟩, Option.map_some,
    Int32.ofInt_toInt]

/-- A list is read element by element. -/
theorem reads_list {elements : List Json} {xs : List α}
    (each : List.Forall₂ (Reads read) elements xs) : Reads (list? read) (.array elements) xs := by
  have all : ∀ elements', List.Forall₂ Within elements elements' →
      elements'.mapM read = some xs := by
    induction each with
    | nil =>
      rintro _ ⟨⟩
      rfl
    | cons this _ ih =>
      rintro _ (_ | ⟨within, withins⟩)
      rw [List.mapM_cons, this _ within, ih _ withins]
      rfl
  intro w within
  cases within with
  | refl => exact all elements (List.forall₂_same.2 fun v _ => .refl v)
  | array withins => exact all _ withins

/-- A list of texts is read as it is. -/
theorem reads_strings (texts : List String) : Reads strings? (.ofStrings texts) texts := by
  apply reads_list
  rw [List.forall₂_map_left_iff]
  exact List.forall₂_same.2 fun s _ => reads_string s

/-- The fields of a record with more members hold what the record says. -/
theorem hold_of_within {w : Json} (names : List String) (within : Within (.object members) w) :
    ∃ fields, w.fields? names = some fields ∧ fields.Hold members := by
  cases within with
  | refl => exact ⟨_, rfl, fun key v found => ⟨v, found, .refl v⟩⟩
  | object image found each =>
    exact ⟨_, rfl, fun key v there => ⟨image key, found key v there, each key v there⟩⟩

/-- A field that may be left out is read where it is there. -/
theorem ReadsAt.orElse (this : ReadsAt read members name x) (hold : fields.Hold members)
    (absent : α) : fields.orElse name absent read = some x := by
  obtain ⟨v, there, reads⟩ := this
  obtain ⟨w, found, within⟩ := hold name v there
  rw [Fields.orElse, found]
  exact reads w within

/-- A member that is read is there for a field that is required. -/
theorem ReadsAt.required (this : ReadsAt read members name x) (hold : fields.Hold members) :
    fields.required name read = some x := by
  obtain ⟨v, there, reads⟩ := this
  obtain ⟨w, found, within⟩ := hold name v there
  rw [Fields.required, found]
  exact reads w within

end Reading

end Json

/-- The appliance that an order gives, under a number and in a state. -/
def ApplianceOrder.appliance (order : ApplianceOrder) (id : ApplianceId)
    (status availability : String) : Appliance where
  id
  name := order.name
  engine := order.engine
  planSize := order.planSize
  instanceStatus := status
  availability
  switchId := order.switchId
  ipAddress := some order.ipAddress
  maskLength := order.maskLength
  defaultRoute := some order.defaultRoute
  port := order.port
  defaultUser := order.defaultUser
  userPassword := order.userPassword
  tags := order.tags

/-- **What was ordered differs from what is asked for in the network attributes only.** -/
theorem InstanceState.hasDiff_ordered (h : DatabaseHandler) (name : String) (p q : Parameters)
    (draw : Backend.Draw) (id : ApplianceId) (status availability : String) :
    (⟨(h.order name p draw).appliance id status availability, some q⟩ : InstanceState).hasDiff =
      true ↔ p.switchId ≠ q.switchId ∨ p.ipAddress ≠ q.ipAddress ∨ p.maskLength ≠ q.maskLength ∨
        p.defaultRoute ≠ q.defaultRoute := by
  rw [@ne_comm _ p.switchId, @ne_comm _ p.ipAddress, @ne_comm _ p.maskLength,
    @ne_comm _ p.defaultRoute]
  have address (a b : Ipv4) : some a ≠ some b ↔ a ≠ b := Option.some_inj.not
  show differs q _ = true ↔ _
  unfold differs
  rw [Bool.or_eq_true, Bool.or_eq_true, Bool.or_eq_true, decide_eq_true_iff, decide_eq_true_iff,
    decide_eq_true_iff, decide_eq_true_iff, or_assoc, or_assoc]
  exact or_congr .rfl (or_congr (address _ _) (or_congr .rfl (address _ _)))

namespace Provider
namespace Rest
namespace Wire

open Json (Reads ReadsAt Fields)

/-- How a provider writes a number. -/
inductive Spelling where
  | number
  | text
deriving DecidableEq, Repr

/-- A number as it is written. -/
def Spelling.write (n : Int) : Spelling → Json
  | number => .integer n
  | text => .string (toString n)

section Readers

variable {α : Type} {members : List (String × Json)}

/-- **A number is read in either spelling.** -/
theorem reads_looseText {n : Int}
    (within : Int64.minValue.toInt ≤ n ∧ n ≤ Int64.maxValue.toInt) (spelling : Spelling) :
    Reads looseText? (spelling.write n) (toString n) := by
  intro w same
  cases spelling with
  | number =>
    cases same
    have back : (Int64.ofInt n).toInt = n :=
      Int64.toInt_ofInt_of_le within.1 (Int.lt_of_le_of_lt within.2 (by decide))
    rw [Spelling.write, looseText?, Json.int64?, Json.integerWithin?, if_pos within,
      Option.map_some, Option.map_some, back]
    · nofun
    · nofun
  | text =>
    cases same
    rfl

/-- A record is read from the members that it says. -/
theorem reads_record {names : List String} {read : Fields → Option α} {x : α}
    (reads : ∀ fields : Fields, fields.Hold members → read fields = some x) :
    Reads (record names read) (.object members) x := by
  intro w within
  obtain ⟨fields, found, hold⟩ := Json.hold_of_within names within
  rw [record, found]
  exact reads fields hold

/-- A network is read from its mask and its route. -/
theorem reads_network {mask : Int32} {route : String}
    (maskLength : ReadsAt Json.int32? members "NetworkMaskLen" mask)
    (defaultRoute : ReadsAt Json.string? members "DefaultRoute" route) :
    Reads network? (.object members) ⟨mask, route⟩ := by
  apply reads_record
  intro fields hold
  rw [text, maskLength.orElse hold, defaultRoute.orElse hold]
  rfl

/-- A thing with an identifier is read as this identifier. -/
theorem reads_identified {id : String} (this : ReadsAt looseText? members "ID" id) :
    Reads identified? (.object members) id := by
  apply reads_record
  intro fields hold
  exact this.orElse hold _

/-- A server is read as its address. -/
theorem reads_server {address : String} (this : ReadsAt Json.string? members "IPAddress" address) :
    Reads server? (.object members) address := by
  apply reads_record
  intro fields hold
  exact this.orElse hold _

/-- A part of a record of which one field counts. -/
theorem reads_part {name : String} {read : Json → Option α} {x absent : α}
    (this : ReadsAt read members name x) :
    Reads (record [name] fun f => f.orElse name absent read) (.object members) x := by
  apply reads_record
  intro fields hold
  exact this.orElse hold absent

/-- A remark is read from its members. -/
theorem reads_remark {r : Remark}
    (database : ReadsAt (record ["Common"] fun f => part f "Common" "" ["DatabaseName"]
      (text · "DatabaseName")) members "DBConf" r.databaseName)
    (network : ReadsAt network? members "Network" r.network)
    (servers : ReadsAt (Json.list? server?) members "Servers" r.servers)
    (switch : ReadsAt identified? members "Switch" r.switchId)
    (plan : ReadsAt identified? members "Plan" r.planId) :
    Reads remark? (.object members) r := by
  apply reads_record
  intro fields hold
  rw [part, database.orElse hold, network.orElse hold, servers.orElse hold, switch.orElse hold,
    plan.orElse hold]
  rfl

/-- The settings of an engine are read from user, password and port. -/
theorem reads_engineSettings {s : Settings}
    (user : ReadsAt Json.string? members "DefaultUser" s.defaultUser)
    (password : ReadsAt Json.string? members "UserPassword" s.userPassword)
    (port : ReadsAt looseText? members "ServicePort" s.servicePort) :
    Reads engineSettings? (.object members) s := by
  apply reads_record
  intro fields hold
  rw [text, text, looseText, user.orElse hold, password.orElse hold, port.orElse hold]
  rfl

/-- An appliance is read from its members. -/
theorem reads_appliance {a : Appliance} (id : ReadsAt looseText? members "ID" a.id)
    (name : ReadsAt Json.string? members "Name" a.name)
    (availability : ReadsAt Json.string? members "Availability" a.availability)
    (status : ReadsAt (record ["Status"] (text · "Status")) members "Instance" a.instanceStatus)
    (remark : ReadsAt remark? members "Remark" a.remark)
    (settings : ReadsAt settings? members "Settings" a.settings)
    (tags : ReadsAt Json.strings? members "Tags" a.tags) :
    Reads appliance? (.object members) a := by
  apply reads_record
  intro fields hold
  rw [id.required hold, text, name.orElse hold, text, availability.orElse hold, part,
    status.orElse hold, remark.orElse hold, settings.orElse hold, tags.orElse hold]
  rfl

/-- The answer with one appliance is read as this appliance. -/
theorem reads_single {a : Appliance} (this : ReadsAt appliance? members "Appliance" a) :
    Reads single? (.object members) a := by
  apply reads_record
  intro fields hold
  exact this.required hold

end Readers

/-- How a provider writes the numbers of an appliance. -/
structure Spellings where
  id : Spelling
  planId : Spelling
  switchId : Spelling
  servicePort : Spelling
deriving DecidableEq, Repr

/-- The order for an appliance with what a provider adds to report it: its number, its state and
its own spelling of the numbers. -/
def report (order : ApplianceOrder) (id : ApplianceId) (status availability : String)
    (spellings : Spellings) : Json :=
  [(["Appliance", "ID"], spellings.id.write id.toInt),
    (["Appliance", "Availability"], .string availability),
    (["Appliance", "Instance", "Status"], .string status),
    (["Appliance", "Remark", "Plan", "ID"], spellings.planId.write order.planSize.toNat),
    (["Appliance", "Remark", "Switch", "ID"], spellings.switchId.write order.switchId.toInt),
    (["Appliance", "Settings", "DBConf", "Common", "ServicePort"],
      spellings.servicePort.write order.port.toNat)].foldl
    (fun v (path, value) => Json.put value path v) (orderBody order)

/-- What is written of an appliance that was ordered. -/
def written (order : ApplianceOrder) (id : ApplianceId) (status availability : String) :
    Appliance where
  id := id.text
  name := order.name
  availability
  instanceStatus := status
  remark := {
    databaseName := order.engine.providerName
    network := ⟨order.maskLength, order.defaultRoute.text⟩
    servers := [order.ipAddress.text]
    switchId := toString order.switchId.toInt
    planId := toString order.planSize.toNat }
  settings := ⟨order.defaultUser, order.userPassword, toString order.port.toNat⟩
  tags := order.tags

section Reports

variable (order : ApplianceOrder) (id : ApplianceId) (status availability : String)
  (spellings : Spellings)

/-- The report of an order is read as what is written of the appliance. -/
theorem reads_report :
    Reads single? (report order id status availability spellings)
      (written order id status availability) := by
  have plan : Int64.minValue.toInt ≤ (order.planSize.toNat : Int) ∧
      (order.planSize.toNat : Int) ≤ Int64.maxValue.toInt := by
    have := order.planSize.toNat_lt
    have : Int64.maxValue.toInt = 9223372036854775807 := by decide
    have : Int64.minValue.toInt = -9223372036854775808 := by decide
    omega
  have port : Int64.minValue.toInt ≤ (order.port.toNat : Int) ∧
      (order.port.toNat : Int) ≤ Int64.maxValue.toInt := by
    have := order.port.toNat_lt
    have : Int64.maxValue.toInt = 9223372036854775807 := by decide
    have : Int64.minValue.toInt = -9223372036854775808 := by decide
    omega
  have number (n : Int64) : Int64.minValue.toInt ≤ n.toInt ∧ n.toInt ≤ Int64.maxValue.toInt :=
    ⟨n.minValue_le_toInt, n.toInt_le⟩
  apply reads_single
  refine ⟨_, rfl, ?_⟩
  apply reads_appliance
  case id => exact ⟨_, rfl, reads_looseText (number id) _⟩
  case name => exact ⟨_, rfl, Json.reads_string _⟩
  case availability => exact ⟨_, rfl, Json.reads_string _⟩
  case status => exact ⟨_, rfl, reads_part ⟨_, rfl, Json.reads_string _⟩⟩
  case tags => exact ⟨_, rfl, Json.reads_strings _⟩
  case remark =>
    refine ⟨_, rfl, ?_⟩
    apply reads_remark
    case database =>
      exact ⟨_, rfl, reads_part ⟨_, rfl, reads_part ⟨_, rfl, Json.reads_string _⟩⟩⟩
    case network =>
      exact ⟨_, rfl, reads_network ⟨_, rfl, Json.reads_int32 _⟩ ⟨_, rfl, Json.reads_string _⟩⟩
    case servers =>
      refine ⟨_, rfl, Json.reads_list (.cons ?_ .nil)⟩
      exact reads_server ⟨_, rfl, Json.reads_string _⟩
    case switch => exact ⟨_, rfl, reads_identified ⟨_, rfl, reads_looseText (number _) _⟩⟩
    case plan => exact ⟨_, rfl, reads_identified ⟨_, rfl, reads_looseText plan _⟩⟩
  case settings =>
    refine ⟨_, rfl, reads_part ⟨_, rfl, reads_part ⟨_, rfl, ?_⟩⟩⟩
    apply reads_engineSettings
    case user => exact ⟨_, rfl, Json.reads_string _⟩
    case password => exact ⟨_, rfl, Json.reads_string _⟩
    case port => exact ⟨_, rfl, reads_looseText port _⟩

/-- What is written of an appliance has the engine of the order. -/
theorem engine_written : (written order id status availability).remark.engine = order.engine := by
  unfold Remark.engine written
  cases order.engine with
  | mariaDb => rfl
  | postgreSql => rfl

/-- The numbers and addresses of what is written are those of the order. -/
theorem toAppliance_written : (written order id status availability).toAppliance =
    .ok (order.appliance id status availability) := by
  have number : Integer.int64? (written order id status availability).id = some id :=
    Integer.int64?_toString id
  unfold Appliance.toAppliance
  rw [number, engine_written]
  simp only [written, List.head?_cons, Option.bind_some, Ipv4.parse?_text,
    Integer.uint32?_toString, Integer.int64?_toString, Integer.uint16?_toString, Option.getD_some]
  rfl

end Reports

/-- **What is ordered is what is reported.**  Whatever members of its own a provider adds to the
report of an appliance, and in whatever spelling it writes the numbers, the report is read, and as
the appliance that was ordered, under its number and in its state.  So an instance differs from the
parameters of a request exactly where the parameters that it was made with do. -/
theorem report_gives_order {order : ApplianceOrder} {id : ApplianceId}
    {status availability : String} {spellings : Spellings} {reply : Json}
    (within : (report order id status availability spellings).Within reply) :
    ∃ a found, single? reply = some a ∧ a.toAppliance = .ok found ∧
      found = order.appliance id status availability ∧
      ∀ (h : DatabaseHandler) (name : String) (p : Parameters) (draw : Backend.Draw),
        order = h.order name p draw → ∀ q : Parameters,
        ((⟨found, some q⟩ : InstanceState).hasDiff = true ↔
          p.switchId ≠ q.switchId ∨ p.ipAddress ≠ q.ipAddress ∨ p.maskLength ≠ q.maskLength ∨
            p.defaultRoute ≠ q.defaultRoute) := by
  refine ⟨written order id status availability, order.appliance id status availability, ?_, ?_,
    rfl, ?_⟩
  · exact reads_report order id status availability spellings reply within
  · exact toAppliance_written order id status availability
  · rintro h name p draw rfl q
    exact InstanceState.hasDiff_ordered h name p q draw id status availability

/-- A report with a zone, and with numbers as texts. -/
theorem report_with_zone_gives_order :
    let p : Parameters := {
      switchId := 112900000000
      ipAddress := ⟨192, 168, 1, 10⟩
      maskLength := 24
      defaultRoute := ⟨192, 168, 1, 1⟩ }
    let order := (⟨.postgreSql, 30⟩ : DatabaseHandler).order "a" p ⟨.nth 10 0, .nth 20 0⟩
    let reply := Json.put (.string "is1a") ["Appliance", "Zone"]
      (report order 113000000000 "up" "available" ⟨.text, .number, .number, .text⟩)
    Json.Within (report order 113000000000 "up" "available" ⟨.text, .number, .number, .text⟩)
      reply ∧
    ∃ a found, single? reply = some a ∧ a.toAppliance = .ok found ∧ found.switchId = 112900000000 ∧
      (⟨found, some p⟩ : InstanceState).hasDiff = false ∧
      (⟨found, some { p with maskLength := 16 }⟩ : InstanceState).hasDiff = true := by
  intro p order reply
  have within : Json.Within
      (report order 113000000000 "up" "available" ⟨.text, .number, .number, .text⟩) reply :=
    .inside rfl (.more rfl _)
  obtain ⟨a, found, read, decoded, rfl, differs⟩ := report_gives_order within
  replace differs := differs _ "a" p _ rfl
  refine ⟨within, a, _, read, decoded, rfl, ?_, ?_⟩
  · rw [Bool.eq_false_iff]
    exact fun differ => by simpa using (differs p).1 differ
  · exact (differs _).2 (.inr (.inr (.inl (by decide))))

end Wire
end Rest
end Provider
end ServiceBroker

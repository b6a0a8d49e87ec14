/-
# What is printed is read back

The tokens of the text of a value are built to a document, and the document is read as the
value (`Json.parse?_text`).  This is so for values without doubles whose integers fit 64 bits,
whose objects list their members in ascending order and which are not nested deeper than is
read (`Json.Readable`).  That the document is built does not depend on how it is read: it stands
for the value in every way that goes from the parts of a value to the whole (`Json.Follows`).
-/

import ServiceBroker.Proofs.Scanning

namespace ServiceBroker
namespace Json

/-- A value that is read back from its text if so many arrays and objects are read. -/
inductive Readable : Nat → Json → Prop
  | null {depth : Nat} : Readable depth .null
  | bool {depth : Nat} (b : Bool) : Readable depth (.bool b)
  | integer {depth : Nat} {n : Int}
    (within : Int64.minValue.toInt ≤ n ∧ n ≤ UInt64.size - 1) : Readable depth (.integer n)
  | string {depth : Nat} (s : String) : Readable depth (.string s)
  | array {depth : Nat} {elements : List Json} (each : ∀ v ∈ elements, Readable depth v) :
    Readable (depth + 1) (.array elements)
  | object {depth : Nat} {members : List (String × Json)}
    (ascending : (members.map (·.1)).Pairwise (· < ·)) (each : ∀ m ∈ members, Readable depth m.2) :
    Readable (depth + 1) (.object members)

section Building

/-- Tokens are built to a document, where a value is expected and where an array was opened. -/
structure Builds (tokens : List Token) (doc : Document) : Prop where
  value : ∀ stack, tokens.foldlM Build.step (.value stack) = some (.after stack doc)
  first : ∀ stack,
    tokens.foldlM Build.step (.firstElement stack) = some (.after (.elements [] :: stack) doc)

/-- Tokens that build a value where one is expected build it in an array as well. -/
theorem builds_of_value {token : Token} {rest : List Token} {doc : Document}
    (begins : token ≠ .closeArray)
    (value : ∀ stack, (token :: rest).foldlM Build.step (.value stack) = some (.after stack doc)) :
    Builds (token :: rest) doc := by
  refine ⟨value, fun stack => ?_⟩
  have same : Build.step (.firstElement stack) token =
      Build.step (.value (.elements [] :: stack)) token := by
    cases token with
    | closeArray => exact absurd rfl begins
    | _ => rfl
  rw [List.foldlM_cons, same, ← List.foldlM_cons]
  exact value _

/-- The key of a member as it is printed, and a value that the document stands for. -/
def IsMember (r : Document → Json → Prop) (d : List StringUnit × Document) (m : String × Json) :
    Prop :=
  d.1 = m.1.toList.flatMap unitsOf ∧ r d.2 m.2

/-- A value is printed as the text of a document that stands for it, with whatever text around
it. -/
def Printed (r : Document → Json → Prop) (v : Json) : Prop :=
  ∃ tokens doc, Scans v.chars tokens ∧ Builds tokens doc ∧ r doc v

variable {r : Document → Json → Prop} {depth : Nat}

/-- Further elements of an array, behind a first one.  What comes before the comma is any text that
is scanned and any document that is built, so that each element in turn can be the first. -/
theorem printed_elements {rest : List Json} (each : ∀ v ∈ rest, Printed r v) :
    ∃ tokens docs,
      (∀ v first, Scans v.chars first → Scans (elementChars (v :: rest)) (first ++ tokens)) ∧
      (∀ stack done doc, (tokens ++ [Token.closeArray]).foldlM Build.step
        (.after (.elements done :: stack) doc) =
          some (.after stack (.array (done.reverse ++ doc :: docs)))) ∧
      List.Forall₂ r docs rest := by
  induction rest with
  | nil =>
    refine ⟨[], [], ?_, ?_, .nil⟩
    · intro v first scans
      rwa [List.append_nil]
    · intro stack done doc
      simp [Build.step]
  | cons w rest ih =>
    rw [List.forall_mem_cons] at each
    obtain ⟨first, doc', scans', builds', stands⟩ := each.1
    obtain ⟨tokens, docs, scans, builds, all⟩ := ih each.2
    refine ⟨.comma :: (first ++ tokens), doc' :: docs, ?_, ?_, .cons stands all⟩
    · intro v first' scans_first
      exact scans_first.join punctuates_comma (scans w first scans')
    · intro stack done doc
      have next : Build.step (.after (.elements done :: stack) doc) .comma =
          some (.value (.elements (doc :: done) :: stack)) := rfl
      rw [List.cons_append, List.append_assoc, foldlM_cons_of_eq next,
        foldlM_append_of_eq (builds'.value _), builds, List.reverse_cons, List.append_assoc,
        List.singleton_append]

/-- Further members of an object, behind a first one. -/
theorem printed_members {rest : List (String × Json)} (each : ∀ m ∈ rest, Printed r m.2) :
    ∃ tokens docs,
      (∀ k v first, Scans v.chars first → Scans (memberChars ((k, v) :: rest))
        (.string (k.toList.flatMap unitsOf) :: .colon :: (first ++ tokens))) ∧
      (∀ stack done name doc, (tokens ++ [Token.closeObject]).foldlM Build.step
        (.after (.member done name :: stack) doc) =
          some (.after stack (.object (done.reverse ++ (name, doc) :: docs)))) ∧
      List.Forall₂ (IsMember r) docs rest := by
  induction rest with
  | nil =>
    refine ⟨[], [], ?_, ?_, .nil⟩
    · intro k v first scans
      rw [List.append_nil]
      exact (scans_string k).join punctuates_colon scans
    · intro stack done name doc
      simp [Build.step]
  | cons m rest ih =>
    obtain ⟨key, w⟩ := m
    rw [List.forall_mem_cons] at each
    obtain ⟨first, doc', scans', builds', stands⟩ := each.1
    obtain ⟨tokens, docs, scans, builds, all⟩ := ih each.2
    refine ⟨.comma :: .string (key.toList.flatMap unitsOf) :: .colon :: (first ++ tokens),
      (key.toList.flatMap unitsOf, doc') :: docs, ?_, ?_, .cons ⟨rfl, stands⟩ all⟩
    · intro k v first' scans_first
      exact ((scans_string k).join punctuates_colon scans_first).join punctuates_comma
        (scans key w first scans')
    · intro stack done name doc
      have comma : Build.step (.after (.member done name :: stack) doc) .comma =
          some (.key stack ((name, doc) :: done)) := rfl
      have string : Build.step (.key stack ((name, doc) :: done))
          (.string (key.toList.flatMap unitsOf)) =
          some (.colon stack ((name, doc) :: done) (key.toList.flatMap unitsOf)) := rfl
      have colon : Build.step (.colon stack ((name, doc) :: done) (key.toList.flatMap unitsOf))
          .colon =
          some (.value (.member ((name, doc) :: done) (key.toList.flatMap unitsOf) :: stack)) := rfl
      rw [List.cons_append, List.cons_append, List.cons_append, List.append_assoc,
        foldlM_cons_of_eq comma, foldlM_cons_of_eq string, foldlM_cons_of_eq colon,
        foldlM_append_of_eq (builds'.value _), builds, List.reverse_cons, List.append_assoc,
        List.singleton_append]

/-- An array is printed if its elements are. -/
theorem printed_array {r' : Document → Json → Prop} {elements : List Json}
    (each : ∀ v ∈ elements, Printed r v)
    (whole : ∀ docs, List.Forall₂ r docs elements → r' (.array docs) (.array elements)) :
    Printed r' (.array elements) := by
  cases elements with
  | nil =>
    refine ⟨[.openArray, .closeArray], .array [], ?_, ?_, whole [] .nil⟩
    · exact scans_nil.join punctuates_openArray (scans_nil.join punctuates_closeArray scans_nil)
    · exact builds_of_value nofun fun stack => rfl
  | cons v rest =>
    rw [List.forall_mem_cons] at each
    obtain ⟨first, doc, scans_first, builds_first, stands⟩ := each.1
    obtain ⟨tokens, docs, scans, builds, all⟩ := printed_elements each.2
    refine ⟨.openArray :: (first ++ (tokens ++ [.closeArray])), .array (doc :: docs), ?_, ?_,
      whole _ (.cons stands all)⟩
    · have inside := (scans v first scans_first).join punctuates_closeArray scans_nil
      rw [List.append_assoc] at inside
      exact scans_nil.join punctuates_openArray inside
    · refine builds_of_value nofun fun stack => ?_
      have opened : Build.step (.value stack) .openArray = some (.firstElement stack) := rfl
      rw [foldlM_cons_of_eq opened, foldlM_append_of_eq (builds_first.first stack), builds]
      rfl

/-- An object is printed if the values of its members are. -/
theorem printed_object {r' : Document → Json → Prop} {members : List (String × Json)}
    (each : ∀ m ∈ members, Printed r m.2)
    (whole : ∀ docs, List.Forall₂ (IsMember r) docs members → r' (.object docs) (.object members)) :
    Printed r' (.object members) := by
  cases members with
  | nil =>
    refine ⟨[.openObject, .closeObject], .object [], ?_, ?_, whole [] .nil⟩
    · exact scans_nil.join punctuates_openObject (scans_nil.join punctuates_closeObject scans_nil)
    · exact builds_of_value nofun fun stack => rfl
  | cons m rest =>
    obtain ⟨key, v⟩ := m
    rw [List.forall_mem_cons] at each
    obtain ⟨first, doc, scans_first, builds_first, stands⟩ := each.1
    obtain ⟨tokens, docs, scans, builds, all⟩ := printed_members each.2
    refine ⟨.openObject :: .string (key.toList.flatMap unitsOf) :: .colon ::
      (first ++ (tokens ++ [.closeObject])),
      .object ((key.toList.flatMap unitsOf, doc) :: docs), ?_, ?_,
      whole _ (.cons ⟨rfl, stands⟩ all)⟩
    · have inside := (scans key v first scans_first).join punctuates_closeObject scans_nil
      rw [List.cons_append, List.cons_append, List.append_assoc] at inside
      exact scans_nil.join punctuates_openObject inside
    · refine builds_of_value nofun fun stack => ?_
      have opened : Build.step (.value stack) .openObject = some (.firstKey stack) := rfl
      have string : Build.step (.firstKey stack) (.string (key.toList.flatMap unitsOf)) =
          some (.colon stack [] (key.toList.flatMap unitsOf)) := rfl
      have colon : Build.step (.colon stack [] (key.toList.flatMap unitsOf)) .colon =
          some (.value (.member [] (key.toList.flatMap unitsOf) :: stack)) := rfl
      rw [foldlM_cons_of_eq opened, foldlM_cons_of_eq string, foldlM_cons_of_eq colon,
        foldlM_append_of_eq (builds_first.value _), builds]
      rfl

/-- A way in which documents stand for values, depth by depth: it holds of the leaves, and goes from
the parts of an array or of an object to the whole. -/
structure Follows (r : Nat → Document → Json → Prop) : Prop where
  null (depth : Nat) : r depth .null .null
  bool (depth : Nat) (b : Bool) : r depth (.bool b) (.bool b)
  numeral (depth : Nat) {numeral : Numeral} {v : Json} (value : numeral.value? = some v) :
    r depth (.numeral numeral) v
  string (depth : Nat) (s : String) : r depth (.string (s.toList.flatMap unitsOf)) (.string s)
  array {depth : Nat} {docs : List Document} {elements : List Json}
    (each : List.Forall₂ (r depth) docs elements) : r (depth + 1) (.array docs) (.array elements)
  object {depth : Nat} {docs : List (List StringUnit × Document)} {members : List (String × Json)}
    (ascending : (members.map (·.1)).Pairwise (· < ·))
    (each : List.Forall₂ (IsMember (r depth)) docs members) :
    r (depth + 1) (.object docs) (.object members)

/-- **A value is printed as a document that stands for it**, in whatever way that is understood. -/
theorem Readable.printed {r : Nat → Document → Json → Prop} (follows : Follows r) {v : Json}
    (h : Readable depth v) : Printed (r depth) v := by
  induction h with
  | null => exact ⟨_, .null, scans_null, builds_of_value nofun fun _ => rfl, follows.null _⟩
  | bool b =>
    cases b with
    | true =>
      exact ⟨_, .bool true, scans_true, builds_of_value nofun fun _ => rfl, follows.bool _ _⟩
    | false =>
      exact ⟨_, .bool false, scans_false, builds_of_value nofun fun _ => rfl, follows.bool _ _⟩
  | integer within =>
    obtain ⟨numeral, scans, value⟩ := scans_integer within
    exact ⟨_, .numeral numeral, scans, builds_of_value nofun fun _ => rfl, follows.numeral _ value⟩
  | string s =>
    exact ⟨_, .string _, scans_string s, builds_of_value nofun fun _ => rfl, follows.string _ s⟩
  | array _ ih => exact printed_array ih fun _ each => follows.array each
  | object ascending _ ih => exact printed_object ih fun _ each => follows.object ascending each

/-- The text of a value is the document that it is printed as. -/
theorem Printed.parse?_text {v : Json} (h : Printed r v) :
    ∃ doc, Document.parse? (Bytes.ofText v.text) = some doc ∧ r doc v := by
  obtain ⟨tokens, doc, scans, builds, stands⟩ := h
  refine ⟨doc, ?_, stands⟩
  rw [Document.parse?, text, Bytes.ofText_ofList, scans.tokens?, Option.bind_eq_bind,
    Option.bind_some, builds.value]
  rfl

end Building

section Reading

/-- Members in ascending order stay in their order. -/
theorem ofMembers_of_ascending {members : List (String × Json)}
    (ascending : (members.map (·.1)).Pairwise (· < ·)) : ofMembers members = .object members := by
  have last {sorted : List (String × Json)} {key : String} {v : Json}
      (below : ∀ m ∈ sorted, m.1 < key) :
      insertMember key v sorted = sorted ++ [(key, v)] := by
    induction sorted with
    | nil => rfl
    | cons m rest ih =>
      rw [List.forall_mem_cons] at below
      rw [insertMember, if_neg (ne_of_gt below.1), if_neg (lt_asymm below.1), ih below.2]
      rfl
  induction members using List.reverseRecOn with
  | nil => rfl
  | append_singleton members m ih =>
    rw [List.map_append, List.pairwise_append] at ascending
    have below : ∀ m' ∈ members, m'.1 < m.1 := fun m' there =>
      ascending.2.2 m'.1 (List.mem_map_of_mem there) m.1 List.mem_cons_self
    have earlier := Json.object.inj (ih ascending.1)
    rw [ofMembers, List.foldl_append, earlier]
    exact congrArg _ (last below)

variable {depth : Nat}

/-- The documents of elements stand for the elements. -/
theorem jsonElements?_eq_some {docs : List Document} {elements : List Json}
    (each : List.Forall₂ (fun d v => d.json? depth = some v) docs elements) :
    Document.jsonElements? depth docs = some elements := by
  induction each with
  | nil => rfl
  | cons first _ ih =>
    rw [Document.jsonElements?, first, ih]
    rfl

/-- The documents of members stand for the members. -/
theorem jsonMembers?_eq_some {docs : List (List StringUnit × Document)}
    {members : List (String × Json)}
    (each : List.Forall₂ (IsMember fun d v => d.json? depth = some v) docs members) :
    Document.jsonMembers? depth docs = some members := by
  induction each with
  | nil => rfl
  | cons first _ ih =>
    rw [Document.jsonMembers?, first.1, text?_units, first.2, ih]
    rfl

/-- A document is read as the value that it stands for. -/
theorem follows_json? : Follows fun depth doc v => doc.json? depth = some v where
  null _ := rfl
  bool _ _ := rfl
  numeral := fun _ {_ _} value => value
  string _ s := by rw [Document.json?, text?_units, Option.map_some]
  array each := by rw [Document.json?, jsonElements?_eq_some each, Option.map_some]
  object ascending each := by
    rw [Document.json?, jsonMembers?_eq_some each, Option.map_some,
      ofMembers_of_ascending ascending]

end Reading

/-- **What is printed is read back.** -/
theorem parse?_text {v : Json} (h : Readable Document.maxDepth v) :
    parse? (Bytes.ofText v.text) = some v := by
  obtain ⟨doc, document, read⟩ := (h.printed follows_json?).parse?_text
  rw [parse?, document, Option.bind_eq_bind, Option.bind_some, read]

end Json
end ServiceBroker

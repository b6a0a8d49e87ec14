/-
# What a reader finds in its own text

A reader of a text looks at what its shape names and passes over the rest.  A value that consists
of what the shape names (`Json.Fits`) is therefore found whole in its text
(`Json.parseAs?_text`), as far as it is read back at all: its objects have each key once, so no
key that is known occurs again.
-/

import Mathlib.Data.List.Forall2
import ServiceBroker.Json.Shape
import ServiceBroker.Proofs.Printing

namespace ServiceBroker
namespace Json

/-- A value that consists of what a shape names. -/
inductive Fits : Shape → Json → Prop
  | any (v : Json) : Fits .any v
  | list {element : Shape} {elements : List Json} (each : ∀ v ∈ elements, Fits element v) :
    Fits (.list element) (.array elements)
  | record {fields : List (String × Shape)} {closed : Bool} {members : List (String × Json)}
    (known : ∀ m ∈ members, (fields.lookup m.1).isSome = true)
    (each : ∀ m ∈ members, ∀ shape, fields.lookup m.1 = some shape → Fits shape m.2) :
    Fits (.record fields closed) (.object members)

/-- Whatever shape a value fits, that is what the shape finds in the document. -/
def Found (depth : Nat) (doc : Document) (v : Json) : Prop :=
  ∀ shape, Fits shape v → doc.resolve? depth shape = some v

section Finding

variable {depth : Nat}

/-- The shape of anything finds what the document stands for. -/
theorem resolve?_any (depth : Nat) (doc : Document) :
    doc.resolve? depth .any = doc.json? depth := by
  cases doc <;> cases depth <;> rfl

/-- A document in which a value is found stands for the value. -/
theorem Found.json? {doc : Document} {v : Json} (found : Found depth doc v) :
    doc.json? depth = some v := by
  rw [← resolve?_any]
  exact found .any (.any v)

/-- Elements are found one after another. -/
theorem resolveAll?_eq_some {element : Shape} {docs : List Document} {elements : List Json}
    (each : List.Forall₂ (Found depth) docs elements) (fits : ∀ v ∈ elements, Fits element v) :
    Document.resolveAll? depth element docs = some elements := by
  induction each with
  | nil => rfl
  | cons first _ ih =>
    rw [List.forall_mem_cons] at fits
    rw [Document.resolveAll?, first element fits.1, ih fits.2]
    rfl

/-- The members of a record are found, as long as none has a key that was met before. -/
theorem resolveMembers?_eq_some {fields : List (String × Shape)} {closed : Bool}
    {docs : List (List StringUnit × Document)} {members : List (String × Json)}
    (each : List.Forall₂ (IsMember (Found depth)) docs members)
    (known : ∀ m ∈ members, (fields.lookup m.1).isSome = true)
    (fits : ∀ m ∈ members, ∀ shape, fields.lookup m.1 = some shape → Fits shape m.2)
    (distinct : (members.map (·.1)).Nodup) {seen : List String}
    (unseen : ∀ m ∈ members, m.1 ∉ seen) :
    Document.resolveMembers? depth fields closed docs seen = some members := by
  induction each generalizing seen with
  | nil => rfl
  | @cons d m docs members first _ ih =>
    obtain ⟨content, doc⟩ := d
    obtain ⟨key, v⟩ := m
    obtain ⟨rfl, found⟩ := first
    rw [List.forall_mem_cons] at known fits unseen
    rw [List.map_cons, List.nodup_cons] at distinct
    obtain ⟨shape, named⟩ := Option.isSome_iff_exists.1 known.1
    have later : ∀ m ∈ members, m.1 ∉ key :: seen := by
      intro m there
      rw [List.mem_cons, not_or]
      refine ⟨fun same => distinct.1 ?_, unseen.2 m there⟩
      exact List.mem_map.2 ⟨m, there, same⟩
    rw [Document.resolveMembers?, text?_units, Option.bind_eq_bind, Option.bind_some, named]
    simp only [if_neg unseen.1, found shape (fits.1 shape named),
      ih known.2 fits.2 distinct.2 later]
    rfl

/-- What shapes find goes from the parts of a document to the whole. -/
theorem follows_found : Follows Found where
  null := by
    rintro depth shape ⟨⟩
    rfl
  bool := by
    rintro depth b shape ⟨⟩
    rfl
  numeral := by
    intro depth numeral v value shape _
    exact value
  string := by
    rintro depth s shape ⟨⟩
    rw [resolve?_any]
    exact follows_json?.string depth s
  array := by
    rintro depth docs elements each shape (_ | fits)
    · rw [resolve?_any]
      exact follows_json?.array (each.imp fun _ _ found => found.json?)
    · rw [Document.resolve?, resolveAll?_eq_some each fits, Option.map_some]
  object := by
    rintro depth docs members ascending each shape (_ | _ | ⟨known, fits⟩)
    · rw [resolve?_any]
      exact follows_json?.object ascending (each.imp fun _ _ found => ⟨found.1, found.2.json?⟩)
    · have distinct : (members.map (·.1)).Nodup := ascending.imp fun lt => ne_of_lt lt
      rw [Document.resolve?, resolveMembers?_eq_some each known fits distinct (by simp),
        Option.map_some, ofMembers_of_ascending ascending]

end Finding

/-- **A value is found whole in its text** by a reader whose shape it fits. -/
theorem parseAs?_text {shape : Shape} {v : Json} (h : Readable Document.maxDepth v)
    (fits : Fits shape v) : parseAs? shape (Bytes.ofText v.text) = some v := by
  obtain ⟨doc, document, found⟩ := (h.printed follows_found).parse?_text
  rw [parseAs?, document, Option.bind_eq_bind, Option.bind_some, found shape fits]

end Json
end ServiceBroker

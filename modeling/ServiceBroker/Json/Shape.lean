/-
# What a reader of a text looks at

A record is read from a text field by field: a key that it does not know is passed
over unread, and a key that it knows may occur once.  `Shape` says which keys a reader
knows, and `Document.resolve?` gives the value of just those parts of a document.

The fields of a record stand in the order in which an array in its place lists them.
-/

import ServiceBroker.Json.Document

namespace ServiceBroker
namespace Json

/-- The parts of a document that a reader looks at. -/
inductive Shape where
  /-- Everything. -/
  | any
  /-- The name of one of several alternatives, or an object with that name as its only key. -/
  | variant
  /-- A list of parts of one shape. -/
  | list (element : Shape)
  /-- A record; a closed one refuses keys that it does not know. -/
  | record (fields : List (String × Shape)) (closed : Bool := false)
deriving Inhabited

namespace Document

mutual

/-- The value of what a shape looks at in a document. -/
def resolve? (depth : Nat) (shape : Shape) : Document → Option Json
  | .array elements =>
    match depth with
    | 0 => none
    | depth + 1 =>
      match shape with
      | .list element => (resolveAll? depth element elements).map .array
      | .record fields _ => (resolveInOrder? depth (fields.map (·.2)) elements).map .array
      | _ => (jsonElements? depth elements).map .array
  | .object members =>
    match depth with
    | 0 => none
    | depth + 1 =>
      match shape with
      | .record fields closed => (resolveMembers? depth fields closed members []).map ofMembers
      | .variant => if members.length = 1 then (jsonMembers? depth members).map ofMembers else none
      | _ => (jsonMembers? depth members).map ofMembers
  | document => document.json? depth

def resolveAll? (depth : Nat) (shape : Shape) : List Document → Option (List Json)
  | [] => some []
  | d :: rest => do return (← d.resolve? depth shape) :: (← resolveAll? depth shape rest)

/-- The elements of an array that stands for a record, one shape each and no more than there are
shapes. -/
def resolveInOrder? (depth : Nat) (shapes : List Shape) : List Document → Option (List Json)
  | [] => some []
  | d :: rest =>
    match shapes with
    | [] => none
    | shape :: others => do
      return (← d.resolve? depth shape) :: (← resolveInOrder? depth others rest)

/-- The members of a record that its shape names, `seen` being the keys already met. -/
def resolveMembers? (depth : Nat) (fields : List (String × Shape)) (closed : Bool) :
    List (List StringUnit × Document) → List String → Option (List (String × Json))
  | [], _ => some []
  | (content, d) :: rest, seen => do
    let key ← StringUnit.text? content
    match fields.lookup key with
    | some shape =>
      if key ∈ seen then none
      else return (key, ← d.resolve? depth shape) ::
        (← resolveMembers? depth fields closed rest (key :: seen))
    | none => if closed then none else resolveMembers? depth fields closed rest seen

end

end Document

/-- The value of what a shape looks at in a text. -/
def parseAs? (shape : Shape) (text : Bytes) : Option Json := do
  (← Document.parse? text).resolve? Document.maxDepth shape

end Json
end ServiceBroker

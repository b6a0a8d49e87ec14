/-
# JSON documents

A JSON text as a tree: members in the order written, keys repeated or not, numerals
and strings unread.  Any nesting is accepted here; what a reader goes into is limited
when the tree is read (`Document.json?`).

The builder is an automaton over tokens with a stack of open arrays and objects, so a
text of any depth is read in one pass.
-/

import ServiceBroker.Json.Token

namespace ServiceBroker
namespace Json

/-- A JSON text as written. -/
inductive Document where
  | null
  | bool (value : Bool)
  | numeral (value : Numeral)
  | string (content : List StringUnit)
  | array (elements : List Document)
  | object (members : List (List StringUnit × Document))
deriving Inhabited

/-- An array or object that is still open, its finished parts with the last one first. -/
inductive Frame where
  | elements (done : List Document)
  | member (done : List (List StringUnit × Document)) (key : List StringUnit)

/-- What the builder expects next. -/
inductive Build where
  /-- A value. -/
  | value (stack : List Frame)
  /-- A value or the end of an array that was just opened. -/
  | firstElement (stack : List Frame)
  /-- A key or the end of an object that was just opened. -/
  | firstKey (stack : List Frame)
  /-- A key, after these members. -/
  | key (stack : List Frame) (done : List (List StringUnit × Document))
  /-- The colon after a key. -/
  | colon (stack : List Frame) (done : List (List StringUnit × Document))
      (key : List StringUnit)
  /-- What may follow a finished value. -/
  | after (stack : List Frame) (value : Document)

namespace Build

/-- The builder after a token that begins a value. -/
def beginValue (stack : List Frame) : Token → Option Build
  | .null => some (.after stack .null)
  | .bool b => some (.after stack (.bool b))
  | .numeral n => some (.after stack (.numeral n))
  | .string content => some (.after stack (.string content))
  | .openArray => some (.firstElement stack)
  | .openObject => some (.firstKey stack)
  | _ => none

/-- The builder after one more token. -/
def step : Build → Token → Option Build
  | .value stack, token => beginValue stack token
  | .firstElement stack, .closeArray => some (.after stack (.array []))
  | .firstElement stack, token => beginValue (.elements [] :: stack) token
  | .firstKey stack, .closeObject => some (.after stack (.object []))
  | .firstKey stack, .string content => some (.colon stack [] content)
  | .key stack done, .string content => some (.colon stack done content)
  | .colon stack done name, .colon => some (.value (.member done name :: stack))
  | .after (.elements done :: stack) v, .comma => some (.value (.elements (v :: done) :: stack))
  | .after (.elements done :: stack) v, .closeArray =>
    some (.after stack (.array (v :: done).reverse))
  | .after (.member done name :: stack) v, .comma => some (.key stack ((name, v) :: done))
  | .after (.member done name :: stack) v, .closeObject =>
    some (.after stack (.object ((name, v) :: done).reverse))
  | _, _ => none

/-- The document at the end of the text. -/
def finish : Build → Option Document
  | .after [] v => some v
  | _ => none

end Build

namespace Document

/-- The document that a text is. -/
def parse? (text : Bytes) : Option Document := do
  let tokens ← tokens? text
  (← tokens.foldlM Build.step (.value [])).finish

/-- The nesting of arrays and objects that is read. -/
def maxDepth : Nat := 127

mutual

/-- The value of a document with at most `depth` arrays and objects around each other. -/
def json? (depth : Nat) : Document → Option Json
  | .null => some .null
  | .bool b => some (.bool b)
  | .numeral n => n.value?
  | .string content => (StringUnit.text? content).map .string
  | .array elements =>
    match depth with
    | 0 => none
    | depth + 1 => (jsonElements? depth elements).map .array
  | .object members =>
    match depth with
    | 0 => none
    | depth + 1 => (jsonMembers? depth members).map ofMembers

def jsonElements? (depth : Nat) : List Document → Option (List Json)
  | [] => some []
  | d :: rest => do return (← d.json? depth) :: (← jsonElements? depth rest)

def jsonMembers? (depth : Nat) : List (List StringUnit × Document) → Option (List (String × Json))
  | [] => some []
  | (key, d) :: rest => do
    return (← StringUnit.text? key, ← d.json? depth) :: (← jsonMembers? depth rest)

end

end Document

/-- The value that a text stands for. -/
def parse? (text : Bytes) : Option Json := do (← Document.parse? text).json? Document.maxDepth

/-- Strings, numbers and white space of a small document. -/
example : parse? (Bytes.ofText " [1, \"\\u0041\\n\", \x7b\"a\": null\x7d] ") =
    some (.array [.integer 1, .string "A\n", .object [("a", .null)]]) := by cbv

end Json
end ServiceBroker

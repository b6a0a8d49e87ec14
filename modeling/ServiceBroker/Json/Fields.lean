/-
# Reading records from values

A record is an object, or an array with its fields in order of declaration.  The
readers below give `none` for a value of the wrong form; they say nothing about why.
-/

import ServiceBroker.Json.Value

namespace ServiceBroker
namespace Json

/-- The fields of a record by name. -/
abbrev Fields := String → Option Json

/-- The fields of a record whose fields have these names: an object, or an array of at most as many
elements as there are names. -/
def fields? (names : List String) : Json → Option Fields
  | .object members => some fun name => members.lookup name
  | .array elements =>
    if elements.length ≤ names.length then some fun name => (names.zip elements).lookup name
    else none
  | _ => none

namespace Fields

/-- A field that has to be there. -/
def required {α : Type} (fields : Fields) (name : String) (read : Json → Option α) : Option α :=
  (fields name).bind read

/-- A field that may be left out. -/
def orElse {α : Type} (fields : Fields) (name : String) (absent : α) (read : Json → Option α) :
    Option α :=
  match fields name with
  | none => some absent
  | some v => read v

/-- A field that may be left out or be `null`. -/
def optional {α : Type} (fields : Fields) (name : String) (read : Json → Option α) :
    Option (Option α) :=
  match fields name with
  | none | some .null => some none
  | some v => (read v).map some

end Fields

/-- An integer within bounds. -/
def integerWithin? (low high : Int) : Json → Option Int
  | .integer n => if low ≤ n ∧ n ≤ high then some n else none
  | _ => none

def int64? (v : Json) : Option Int64 :=
  (v.integerWithin? Int64.minValue.toInt Int64.maxValue.toInt).map Int64.ofInt

def int32? (v : Json) : Option Int32 :=
  (v.integerWithin? Int32.minValue.toInt Int32.maxValue.toInt).map Int32.ofInt

def uint16? (v : Json) : Option UInt16 :=
  (v.integerWithin? 0 (UInt16.size - 1)).map fun n => UInt16.ofNat n.toNat

def uint32? (v : Json) : Option UInt32 :=
  (v.integerWithin? 0 (UInt32.size - 1)).map fun n => UInt32.ofNat n.toNat

def uint64? (v : Json) : Option UInt64 :=
  (v.integerWithin? 0 (UInt64.size - 1)).map fun n => UInt64.ofNat n.toNat

/-- A list of values of one kind. -/
def list? {α : Type} (read : Json → Option α) : Json → Option (List α)
  | .array elements => elements.mapM read
  | _ => none

/-- A list of texts. -/
def strings? (v : Json) : Option (List String) := list? string? v

/-- The name of an alternative: a text, or an object with that name as its only key and `null` as
its value. -/
def variant? : Json → Option String
  | .string s => some s
  | .object [(name, .null)] => some name
  | _ => none

/-- An object, by its members. -/
def members? : Json → Option (List (String × Json))
  | .object members => some members
  | _ => none

end Json
end ServiceBroker

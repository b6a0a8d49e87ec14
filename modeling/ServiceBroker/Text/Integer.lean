/-
# Integers as texts

Decimal integers with an optional sign and any number of leading zeros, and nothing
else.
-/

namespace ServiceBroker
namespace Integer

/-- Decimal digits, any number of them but at least one. -/
def digits? (s : List Char) : Option Nat :=
  if s ≠ [] ∧ s.all Char.isDigit then
    some (s.foldl (fun n c => 10 * n + (c.toNat - '0'.toNat)) 0)
  else none

/-- An integer up to a bound; it may carry a plus sign and no minus sign. -/
def natural? (bound : Nat) (s : String) : Option Nat :=
  let digits := match s.toList with
    | '+' :: rest => rest
    | rest => rest
  (digits? digits).bind fun n => if n ≤ bound then some n else none

/-- An integer within bounds; it may carry either sign. -/
def within? (low high : Int) (s : String) : Option Int :=
  let value : Option Int := match s.toList with
    | '-' :: rest => (digits? rest).map fun n => -(n : Int)
    | '+' :: rest => (digits? rest).map Int.ofNat
    | rest => (digits? rest).map Int.ofNat
  value.bind fun n => if low ≤ n ∧ n ≤ high then some n else none

def int64? (s : String) : Option Int64 :=
  (within? Int64.minValue.toInt Int64.maxValue.toInt s).map Int64.ofInt

def uint32? (s : String) : Option UInt32 := (natural? (UInt32.size - 1) s).map UInt32.ofNat

def uint16? (s : String) : Option UInt16 := (natural? (UInt16.size - 1) s).map UInt16.ofNat

end Integer
end ServiceBroker

/-
# Hexadecimal digits

One digit and its value; digits are read in either case and written in upper case.
-/

namespace ServiceBroker
namespace Hex

/-- The value of a hexadecimal digit, given by its ASCII byte. -/
def value? (b : UInt8) : Option Nat :=
  if 0x30 ≤ b && b ≤ 0x39 then some (b.toNat - 0x30)
  else if 0x61 ≤ b && b ≤ 0x66 then some (b.toNat - 0x57)
  else if 0x41 ≤ b && b ≤ 0x46 then some (b.toNat - 0x37)
  else none

/-- The upper-case digit with a value below sixteen, as its ASCII byte. -/
def digit (n : Nat) : UInt8 := UInt8.ofNat (if n < 10 then 0x30 + n else 0x37 + n)

/-- The digit of a number below 16 has this value. -/
theorem value?_digit {n : Nat} (h : n < 16) : value? (digit n) = some n := by
  have all : ∀ k : Fin 16, value? (digit k.val) = some k.val := by decide
  exact all ⟨n, h⟩

end Hex
end ServiceBroker

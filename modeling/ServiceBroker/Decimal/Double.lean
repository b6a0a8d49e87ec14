/-
# Binary64 numbers

A finite or infinite double by its 64 bits, so that equality is equality of bits,
with the reading of its fields: a finite one is `(-1) ^ sign * m * 2 ^ q`.
-/

namespace ServiceBroker

/-- A binary64 number, by its bits. -/
structure Double where
  bits : UInt64
deriving DecidableEq, Repr, Inhabited

namespace Double

def ofFloat (f : Float) : Double := ⟨f.toBits⟩

def toFloat (d : Double) : Float := Float.ofBits d.bits

/-- The sign bit. -/
def isNegative (d : Double) : Bool := d.bits.toNat ≥ 0x8000000000000000

/-- The eleven exponent bits. -/
def exponentBits (d : Double) : Nat := (d.bits.toNat >>> 52) % 0x800

/-- The fifty-two fraction bits. -/
def fractionBits (d : Double) : Nat := d.bits.toNat % 0x10000000000000

/-- The integer `m` of `m * 2 ^ q`. -/
def significand (d : Double) : Nat :=
  if d.exponentBits = 0 then d.fractionBits else 0x10000000000000 + d.fractionBits

/-- The exponent `q` of `m * 2 ^ q`. -/
def binaryExponent (d : Double) : Int :=
  if d.exponentBits = 0 then -1074 else (d.exponentBits : Int) - 1075

/-- Whether the neighbour towards zero is only half as far away as the one away from zero, which
happens where the binary exponent changes. -/
def hasNarrowLowerGap (d : Double) : Bool := d.fractionBits = 0 && 1 < d.exponentBits

end Double
end ServiceBroker

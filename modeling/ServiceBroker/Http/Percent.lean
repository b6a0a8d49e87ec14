/-
# Percent coding

Bytes written with `%` and two hexadecimal digits.  Reading leaves a `%` alone that no
two digits follow; writing leaves letters, digits and `-._~` alone.
-/

import ServiceBroker.Text.Bytes
import ServiceBroker.Text.Hex

namespace ServiceBroker
namespace Percent

/-- The byte of a percent sign. -/
def sign : UInt8 := 0x25

/-- The byte that two hexadecimal digits behind a percent sign stand for. -/
def pair? (a b : UInt8) : Option UInt8 := do
  return UInt8.ofNat ((← Hex.value? a) * 16 + (← Hex.value? b))

/-- The bytes that are written so. -/
def decode : Bytes → Bytes
  | [] => []
  | [a] => [a]
  | [a, b] => [a, b]
  | a :: b :: c :: rest =>
    if a = sign then
      match pair? b c with
      | some d => d :: decode rest
      | none => a :: decode (b :: c :: rest)
    else a :: decode (b :: c :: rest)

/-- A byte that is written as it is. -/
def isUnreserved (b : UInt8) : Bool :=
  (0x30 ≤ b && b ≤ 0x39) || (0x41 ≤ b && b ≤ 0x5a) || (0x61 ≤ b && b ≤ 0x7a) ||
    b = 0x2d || b = 0x2e || b = 0x5f || b = 0x7e

/-- How one byte is written. -/
def encodeByte (b : UInt8) : Bytes :=
  if isUnreserved b then [b] else [sign, Hex.digit (b.toNat / 16), Hex.digit (b.toNat % 16)]

/-- How bytes are written. -/
def encode (bytes : Bytes) : Bytes := bytes.flatMap encodeByte

end Percent
end ServiceBroker

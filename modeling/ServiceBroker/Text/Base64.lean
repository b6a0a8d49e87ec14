/-
# Base64

Bytes written with the 64 letters, digits and signs of the standard alphabet, four
characters to three bytes, the last group filled up with `=`.  Reading is strict: full
groups only, the padding in its place, the bits that no byte uses zero.  So every
sequence of bytes has one written form.
-/

import ServiceBroker.Text.Bytes

namespace ServiceBroker
namespace Base64

/-- The alphabet, each character at the place of its value. -/
def alphabet : List Char :=
  "ABCDEFGHIJKLMNOPQRSTUVWXYZabcdefghijklmnopqrstuvwxyz0123456789+/".toList

/-- The alphabet has a letter for every six bits. -/
theorem length_alphabet : alphabet.length = 64 := by decide +kernel

/-- The character for six bits. -/
def digit (v : Nat) : Char := alphabet.get ⟨v % 64, by rw [length_alphabet]; omega⟩

/-- The six bits that a character stands for. -/
def value? (c : Char) : Option Nat := alphabet.idxOf? c

/-- The characters for these bytes. -/
def encodeChars : Bytes → List Char
  | [] => []
  | [a] => [digit (a.toNat / 4), digit (a.toNat % 4 * 16), '=', '=']
  | [a, b] =>
    [digit (a.toNat / 4), digit (a.toNat % 4 * 16 + b.toNat / 16), digit (b.toNat % 16 * 4), '=']
  | a :: b :: c :: rest =>
    digit (a.toNat / 4) :: digit (a.toNat % 4 * 16 + b.toNat / 16) ::
      digit (b.toNat % 16 * 4 + c.toNat / 64) :: digit (c.toNat % 64) :: encodeChars rest

/-- The first byte of a group, of its first two values. -/
def firstByte (v w : Nat) : UInt8 := UInt8.ofNat (v * 4 + w / 16)

/-- The second byte of a group, of its second and third value. -/
def secondByte (v w : Nat) : UInt8 := UInt8.ofNat (v % 16 * 16 + w / 4)

/-- The third byte of a group, of its last two values. -/
def thirdByte (v w : Nat) : UInt8 := UInt8.ofNat (v % 4 * 64 + w)

/-- The bytes of a group that ends the text and is filled up. -/
def lastGroup? (v w : Nat) (third : Char) : Option Bytes :=
  if third = '=' then
    if w % 16 = 0 then some [firstByte v w] else none
  else do
    let x ← value? third
    if x % 4 = 0 then some [firstByte v w, secondByte w x] else none

/-- The bytes that are written so. -/
def decodeChars? : List Char → Option Bytes
  | [] => some []
  | a :: b :: c :: d :: rest => do
    let v ← value? a
    let w ← value? b
    if d = '=' ∧ rest = [] then lastGroup? v w c
    else
      let x ← value? c
      let y ← value? d
      return firstByte v w :: secondByte w x :: thirdByte x y :: (← decodeChars? rest)
  | _ => none

/-- The written form of bytes. -/
def encode (bytes : Bytes) : String := String.ofList (encodeChars bytes)

/-- The bytes that a text is the written form of. -/
def decode? (text : String) : Option Bytes := decodeChars? text.toList

/-- Every group of up to three bytes is written with four characters. -/
theorem length_encodeChars (bytes : Bytes) :
    (encodeChars bytes).length = (bytes.length + 2) / 3 * 4 := by
  fun_induction encodeChars bytes with
  | case1 => rfl
  | case2 => simp
  | case3 => simp
  | case4 a b c rest ih => simp only [List.length_cons, ih]; omega

/-- Everything that is written is a visible character of ASCII. -/
theorem visible_encodeChars (bytes : Bytes) :
    ∀ c ∈ encodeChars bytes, 0x20 < c.toNat ∧ c.toNat < 0x7f := by
  have digits (v : Nat) : 0x20 < (digit v).toNat ∧ (digit v).toNat < 0x7f := by
    have all : ∀ v : Fin 64, 0x20 < (digit v).toNat ∧ (digit v).toNat < 0x7f := by decide +kernel
    simpa [digit] using all ⟨v % 64, Nat.mod_lt v (by decide)⟩
  fun_induction encodeChars bytes with
  | case1 => simp
  | case2 a => simp [digits]
  | case3 a b => simp [digits]
  | case4 a b c rest ih => simpa [digits] using ih

example : encode [102, 111, 111, 98] = "Zm9vYg==" ∧ decode? "Zm9vYg==" = some [102, 111, 111, 98] := by
  decide +kernel

example : decode? "Zm9vYh==" = none ∧ decode? "Zm9vYg=" = none ∧ decode? "Zm9vYg" = none := by
  decide +kernel

end Base64
end ServiceBroker

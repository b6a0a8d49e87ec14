/-
# AES-256, encryption only

The block cipher behind the sealing of passwords.  A block is sixteen bytes, column
after column of four; a key gives fifteen round keys.  Only encryption is needed,
because sealing adds a key stream.
-/

import ServiceBroker.Text.Bytes

namespace ServiceBroker

/-- Sixteen bytes. -/
abbrev Block := Vector UInt8 16

namespace Aes256

/-- Product with `x` in the field of 256 elements, modulo `x^8 + x^4 + x^3 + x + 1`. -/
def double (b : UInt8) : UInt8 := (b <<< 1) ^^^ (if b ≥ 0x80 then 0x1b else 0)

/-- Product in the field of 256 elements. -/
def times (a b : UInt8) : UInt8 := loop 8 a b
where
  /-- Adds up the doubles of `a` for the bits of `b`. -/
  loop : Nat → UInt8 → UInt8 → UInt8
    | 0, _, _ => 0
    | n + 1, a, b => (if b &&& 1 = 1 then a else 0) ^^^ loop n (double a) (b >>> 1)

/-- The inverse in the field, zero for zero: the 254th power. -/
def inverse (b : UInt8) : UInt8 :=
  let square (x : UInt8) : UInt8 := times x x
  let p2 := square b
  let p4 := square p2
  let p8 := square p4
  let p16 := square p8
  let p32 := square p16
  let p64 := square p32
  let p128 := square p64
  times p2 (times p4 (times p8 (times p16 (times p32 (times p64 p128)))))

def rotateLeft (b : UInt8) (n : UInt8) : UInt8 := (b <<< n) ||| (b >>> (8 - n))

/-- The byte that a byte is replaced with: its inverse under an affine map of bits. -/
def substitute (b : UInt8) : UInt8 :=
  let i := inverse b
  i ^^^ rotateLeft i 1 ^^^ rotateLeft i 2 ^^^ rotateLeft i 3 ^^^ rotateLeft i 4 ^^^ 0x63

/-- The replacements of all bytes. -/
def substitutions : Vector UInt8 256 := Vector.ofFn fun i => substitute (UInt8.ofNat i.val)

/-- `substitute`, looked up. -/
def sub (b : UInt8) : UInt8 := substitutions.get ⟨b.toNat, b.toNat_lt⟩

/-- Every byte replaced, and every row turned left by its number. -/
def subShift (s : Block) : Block :=
  Vector.ofFn fun i : Fin 16 => sub (s.get ⟨(i.val + 4 * (i.val % 4)) % 16, by omega⟩)

/-- Every column multiplied by a fixed matrix. -/
def mixColumns (s : Block) : Block :=
  Vector.ofFn fun i : Fin 16 =>
    let column := i.val / 4 * 4
    let below (k : Nat) : UInt8 := s.get ⟨column + (i.val + k) % 4, by omega⟩
    double (below 0) ^^^ (double (below 1) ^^^ below 1) ^^^ below 2 ^^^ below 3

def addKey (s key : Block) : Block := s.zipWith (· ^^^ ·) key

/-- A column of four bytes. -/
abbrev Column := Vector UInt8 4

/-- What is added to a column of the schedule from the one before it. -/
def scheduleCore (i : Nat) (previous : Column) : Column :=
  if i % 8 = 0 then
    let turned : Column := #v[sub previous[1], sub previous[2], sub previous[3], sub previous[0]]
    turned.set 0 (turned[0] ^^^ ((1 : UInt8) <<< (UInt8.ofNat (i / 8 - 1))))
  else if i % 8 = 4 then previous.map sub
  else previous

/-- The schedule from column `i` on, given the eight columns before it, the last one first. -/
def columnsFrom : Nat → Nat → Vector Column 8 → List Column
  | 0, _, _ => []
  | n + 1, i, w =>
    let next : Column := (scheduleCore i w[0]).zipWith (· ^^^ ·) w[7]
    next :: columnsFrom n (i + 1) #v[next, w[0], w[1], w[2], w[3], w[4], w[5], w[6]]

/-- The columns of a key. -/
def keyColumn (key : Vector UInt8 32) (i : Fin 8) : Column :=
  Vector.ofFn fun j : Fin 4 => key.get ⟨4 * i.val + j.val, by omega⟩

/-- Columns taken together by four. -/
def blocksOfColumns : List Column → List Block
  | a :: b :: c :: d :: rest => (a ++ b ++ c ++ d : Block) :: blocksOfColumns rest
  | _ => []

/-- The fifteen round keys. -/
def schedule (key : Vector UInt8 32) : List Block :=
  let first := (List.finRange 8).map (keyColumn key)
  let window := Vector.ofFn fun i : Fin 8 => keyColumn key ⟨7 - i.val, by omega⟩
  blocksOfColumns (first ++ columnsFrom 52 8 window)

/-- The rounds after the first key has been added; the last one mixes no columns. -/
def rounds : List Block → Block → Block
  | [], s => s
  | [key], s => addKey (subShift s) key
  | key :: keys, s => rounds keys (addKey (mixColumns (subShift s)) key)

/-- A block encrypted with the round keys of a schedule. -/
def encryptWith (keys : List Block) (s : Block) : Block :=
  match keys with
  | [] => s
  | key :: rest => rounds rest (addKey s key)

/-- A block encrypted with a key. -/
def encrypt (key : Vector UInt8 32) (s : Block) : Block := encryptWith (schedule key) s

end Aes256
end ServiceBroker

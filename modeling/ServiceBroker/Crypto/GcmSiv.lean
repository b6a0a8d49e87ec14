/-
# AES-256-GCM-SIV without associated data

Authenticated encryption that stays safe when a nonce repeats.  The tag is a hash of
nonce and text; the text is encrypted by adding a key stream that starts from the
tag.  `decrypt?` recovers the text and accepts it only when its tag is the one that
stands behind it.
-/

import ServiceBroker.Crypto.Polyval

namespace ServiceBroker
namespace GcmSiv

abbrev Key := Vector UInt8 32
abbrev Nonce := Vector UInt8 12

/-- The low four bytes of a number, the lowest first. -/
def littleEndian (n : Nat) : Vector UInt8 4 :=
  Vector.ofFn fun i : Fin 4 => UInt8.ofNat (n >>> (8 * i.val))

/-- The first half of the encryption of a counter and the nonce. -/
def derive (keys : List Block) (nonce : Nonce) (counter : Nat) : Vector UInt8 8 :=
  let block := Aes256.encryptWith keys (littleEndian counter ++ nonce)
  Vector.ofFn fun i : Fin 8 => block.get ⟨i.val, by omega⟩

/-- The key of the hash for a nonce. -/
def hashKey (key : Key) (nonce : Nonce) : Block :=
  let keys := Aes256.schedule key
  derive keys nonce 0 ++ derive keys nonce 1

/-- The round keys of encryption for a nonce. -/
def textKeys (key : Key) (nonce : Nonce) : List Block :=
  let keys := Aes256.schedule key
  Aes256.schedule (derive keys nonce 2 ++ derive keys nonce 3 ++ derive keys nonce 4 ++
    derive keys nonce 5)

/-- The blocks of a text, the last one filled up with zeros. -/
def blocks (text : Bytes) : List Block :=
  match text with
  | [] => []
  | b :: rest =>
    (Vector.ofFn fun i : Fin 16 => (b :: rest).getD i.val 0) :: blocks ((b :: rest).drop 16)
termination_by text.length
decreasing_by simp only [List.length_drop, List.length_cons]; omega

/-- The last block of the hashed message: no associated data, and the length of the text in bits. -/
def lengthBlock (text : Bytes) : Block :=
  Vector.ofFn fun i : Fin 16 =>
    if i.val < 8 then 0 else UInt8.ofNat ((text.length * 8) >>> (8 * (i.val - 8)))

/-- The nonce as a block. -/
def nonceBlock (nonce : Nonce) : Block := nonce ++ (Vector.replicate 4 0 : Vector UInt8 4)

/-- The tag of a text: its hash, mixed with the nonce and encrypted without its highest bit. -/
def tag (key : Key) (nonce : Nonce) (text : Bytes) : Block :=
  let hashed := Polyval.hash (hashKey key nonce) (blocks text ++ [lengthBlock text])
  let mixed := Aes256.addKey hashed (nonceBlock nonce)
  Aes256.encryptWith (textKeys key nonce) (mixed.set 15 (mixed[15] &&& 0x7f))

/-- The counter block that follows: its first four bytes count, the lowest first, and wrap. -/
def next (counter : Block) : Block :=
  let n := counter[0].toNat + 256 * (counter[1].toNat + 256 * (counter[2].toNat +
    256 * counter[3].toNat))
  let low := littleEndian (n + 1)
  Vector.ofFn fun i : Fin 16 => if h : i.val < 4 then low[i.val] else counter[i.val]

/-- A text with the key stream from a counter block on added to it. -/
def addKeyStream (keys : List Block) (counter : Block) (text : Bytes) : Bytes :=
  match text with
  | [] => []
  | b :: rest =>
    List.zipWith (· ^^^ ·) ((b :: rest).take 16) (Aes256.encryptWith keys counter).toList ++
      addKeyStream keys (next counter) ((b :: rest).drop 16)
termination_by text.length
decreasing_by simp only [List.length_drop, List.length_cons]; omega

/-- Text to cipher text and back: the key stream starts at the tag with its highest bit set. -/
def crypt (key : Key) (nonce : Nonce) (t : Block) (text : Bytes) : Bytes :=
  addKeyStream (textKeys key nonce) (t.set 15 (t[15] ||| 0x80)) text

/-- Cipher text and tag. -/
def encrypt (key : Key) (nonce : Nonce) (text : Bytes) : Bytes :=
  let t := tag key nonce text
  crypt key nonce t text ++ t.toList

/-- The text that was encrypted, if the tag behind it is its tag. -/
def decrypt? (key : Key) (nonce : Nonce) (sealed : Bytes) : Option Bytes :=
  if h : 16 ≤ sealed.length then
    let t : Block := ⟨(sealed.drop (sealed.length - 16)).toArray, by simp; omega⟩
    let text := crypt key nonce t (sealed.take (sealed.length - 16))
    if tag key nonce text = t then some text else none
  else none

end GcmSiv
end ServiceBroker

/-
# A sealed password opens

Each layer of a sealed value is taken off by its reader: the base64 of bytes reads back
(`Base64.decode?_encode`), the key stream added twice is gone
(`GcmSiv.addKeyStream_addKeyStream`), so the tag that was computed is the tag that is
checked (`GcmSiv.decrypt?_encrypt`).  `Sealing.openText_sealText` puts them together.
-/

import ServiceBroker.Sealing
import Mathlib.Tactic.Common

namespace ServiceBroker
namespace Base64

/-- A digit has the value that it was made of. -/
theorem value?_digit {v : Nat} (h : v < 64) : value? (digit v) = some v := by
  have all : ∀ v : Fin 64, value? (digit v) = some v.val := by decide +kernel
  exact all ⟨v, h⟩

/-- No digit is the padding. -/
theorem digit_ne_pad (v : Nat) : digit v ≠ '=' := by
  have all : ∀ v : Fin 64, digit v ≠ '=' := by decide +kernel
  have := all ⟨v % 64, Nat.mod_lt _ (by omega)⟩
  simpa [digit] using this

/-- The first byte is put together again. -/
theorem firstByte_split (a x : UInt8) :
    firstByte (a.toNat / 4) (a.toNat % 4 * 16 + x.toNat / 16) = a := by
  have := x.toNat_lt
  rw [firstByte, show a.toNat / 4 * 4 + (a.toNat % 4 * 16 + x.toNat / 16) / 16 = a.toNat by omega]
  exact UInt8.ofNat_toNat

/-- The second byte is put together again. -/
theorem secondByte_split (a b x : UInt8) :
    secondByte (a.toNat % 4 * 16 + b.toNat / 16) (b.toNat % 16 * 4 + x.toNat / 64) = b := by
  have := x.toNat_lt
  have := b.toNat_lt
  rw [secondByte, show (a.toNat % 4 * 16 + b.toNat / 16) % 16 * 16 +
    (b.toNat % 16 * 4 + x.toNat / 64) / 4 = b.toNat by omega]
  exact UInt8.ofNat_toNat

/-- The third byte is put together again. -/
theorem thirdByte_split (b c : UInt8) :
    thirdByte (b.toNat % 16 * 4 + c.toNat / 64) (c.toNat % 64) = c := by
  have := c.toNat_lt
  rw [thirdByte, show (b.toNat % 16 * 4 + c.toNat / 64) % 4 * 64 + c.toNat % 64 = c.toNat by omega]
  exact UInt8.ofNat_toNat

/-- **What is written is read back**, group by group. -/
theorem decodeChars?_encodeChars (bytes : Bytes) :
    decodeChars? (encodeChars bytes) = some bytes := by
  fun_induction encodeChars bytes with
  | case1 => rfl
  | case2 a =>
    have ha := a.toNat_lt
    have first := firstByte_split a 0
    simp only [UInt8.toNat_zero, Nat.zero_div, Nat.add_zero] at first
    have pad : a.toNat % 4 * 16 % 16 = 0 := by omega
    rw [decodeChars?, value?_digit (by omega), value?_digit (by omega)]
    simp only [Option.bind_eq_bind, Option.bind_some, and_self, if_true, lastGroup?, pad, first]
  | case3 a b =>
    have ha := a.toNat_lt
    have hb := b.toNat_lt
    have second := secondByte_split a b 0
    simp only [UInt8.toNat_zero, Nat.zero_div, Nat.add_zero] at second
    have pad : b.toNat % 16 * 4 % 4 = 0 := by omega
    rw [decodeChars?, value?_digit (by omega), value?_digit (by omega)]
    simp only [Option.bind_eq_bind, Option.bind_some, and_self, if_true, lastGroup?, digit_ne_pad,
      if_false]
    rw [value?_digit (by omega)]
    simp only [Option.bind_some, pad, if_true, firstByte_split, second]
  | case4 a b c rest ih =>
    have ha := a.toNat_lt
    have hb := b.toNat_lt
    have hc := c.toNat_lt
    rw [decodeChars?, value?_digit (by omega), value?_digit (by omega)]
    simp only [Option.bind_eq_bind, Option.bind_some, digit_ne_pad, false_and, if_false]
    rw [value?_digit (by omega), value?_digit (by omega), ih]
    simp only [Option.bind_some, Option.pure_def, firstByte_split, secondByte_split,
      thirdByte_split]

/-- Bytes are read back from their encoding. -/
theorem decode?_encode (bytes : Bytes) : decode? (encode bytes) = some bytes := by
  rw [decode?, encode, String.toList_ofList, decodeChars?_encodeChars]

end Base64

namespace GcmSiv

/-- A stream that is added twice is gone. -/
theorem zipWith_xor_zipWith_xor : ∀ text stream : Bytes, text.length ≤ stream.length →
    List.zipWith (· ^^^ ·) (List.zipWith (· ^^^ ·) text stream) stream = text
  | [], _, _ => rfl
  | _ :: _, [], h => by simp at h
  | b :: text, k :: stream, h => by
    rw [List.zipWith_cons_cons, List.zipWith_cons_cons,
      zipWith_xor_zipWith_xor text stream (by simpa using h), UInt8.xor_assoc, UInt8.xor_self,
      UInt8.xor_zero]

/-- One block of the key stream, and the rest of it. -/
theorem addKeyStream_eq (keys : List Block) (counter : Block) (text : Bytes) :
    addKeyStream keys counter text =
      List.zipWith (· ^^^ ·) (text.take 16) (Aes256.encryptWith keys counter).toList ++
        addKeyStream keys (next counter) (text.drop 16) := by
  cases text with
  | nil => simp [addKeyStream]
  | cons b rest => rw [addKeyStream]

/-- **The key stream takes itself away.** -/
theorem addKeyStream_addKeyStream (keys : List Block) (counter : Block) (text : Bytes) :
    addKeyStream keys counter (addKeyStream keys counter text) = text := by
  fun_induction addKeyStream keys counter text with
  | case1 => rw [addKeyStream]
  | case2 counter b rest ih =>
    set text := b :: rest with htext
    set stream := (Aes256.encryptWith keys counter).toList with hstream
    set front := List.zipWith (· ^^^ ·) (text.take 16) stream with hfront
    set back := addKeyStream keys (next counter) (text.drop 16) with hback
    have hlen : front.length = min 16 text.length := by simp [front, stream]
    -- a short front is the whole text, so the cut after sixteen bytes is in the same place
    have cut : (front ++ back).take 16 = front ∧ (front ++ back).drop 16 = back := by
      rcases Nat.lt_or_ge text.length 16 with short | long
      · have : back = [] := by
          rw [hback, List.drop_eq_nil_of_le (by omega), addKeyStream]
        rw [this, List.append_nil]
        exact ⟨List.take_of_length_le (by omega), List.drop_eq_nil_of_le (by omega)⟩
      · exact ⟨List.take_left' (by omega), List.drop_left' (by omega)⟩
    have hle : (text.take 16).length ≤ stream.length := by
      simp only [List.length_take, stream, Vector.length_toList]
      omega
    rw [addKeyStream_eq, cut.1, cut.2, ih, ← hstream, hfront, zipWith_xor_zipWith_xor _ _ hle,
      List.take_append_drop]

/-- Encrypting twice gives the text back. -/
theorem crypt_crypt (key : Key) (nonce : Nonce) (t : Block) (text : Bytes) :
    crypt key nonce t (crypt key nonce t text) = text :=
  addKeyStream_addKeyStream _ _ text

/-- A tag behind a cipher text is checked against the text that it turns it into. -/
theorem decrypt?_append (key : Key) (nonce : Nonce) (body : Bytes) (t : Block) :
    decrypt? key nonce (body ++ t.toList) =
      if tag key nonce (crypt key nonce t body) = t then some (crypt key nonce t body)
      else none := by
  have hlen : (body ++ t.toList).length - 16 = body.length := by simp
  have ht : ∀ h,
      (⟨((body ++ t.toList).drop ((body ++ t.toList).length - 16)).toArray, h⟩ : Block) = t := by
    intro h
    apply Vector.toArray_inj.1
    show ((body ++ t.toList).drop ((body ++ t.toList).length - 16)).toArray = t.toArray
    rw [hlen, List.drop_left]
    exact Array.toArray_toList
  have hbody : (body ++ t.toList).take ((body ++ t.toList).length - 16) = body := by
    rw [hlen, List.take_left]
  rw [decrypt?, dif_pos (by simp)]
  simp only [ht, hbody]

/-- **What was encrypted is decrypted**, under the same key and nonce. -/
theorem decrypt?_encrypt (key : Key) (nonce : Nonce) (text : Bytes) :
    decrypt? key nonce (encrypt key nonce text) = some text := by
  rw [encrypt, decrypt?_append, crypt_crypt, if_pos rfl]

end GcmSiv

namespace Sealing

/-- What was sealed is opened with the same salt. -/
theorem openBytes_sealBytes (salt : String) (nonce : GcmSiv.Nonce) (text : String) :
    openBytes salt (sealBytes salt nonce text) = .ok text := by
  have hlen : ¬ (sealBytes salt nonce text).length < 12 := by simp [sealBytes]
  have hnonce : ∀ h,
      (⟨((sealBytes salt nonce text).take 12).toArray, h⟩ : GcmSiv.Nonce) = nonce := by
    intro h
    apply Vector.toArray_inj.1
    show ((sealBytes salt nonce text).take 12).toArray = nonce.toArray
    rw [sealBytes, List.take_left' Vector.length_toList]
    exact Array.toArray_toList
  have hbody : (sealBytes salt nonce text).drop 12 =
      GcmSiv.encrypt (key salt) nonce (Bytes.ofText text) := by
    rw [sealBytes, List.drop_left' Vector.length_toList]
  rw [openBytes, dif_neg hlen]
  simp only [hnonce, hbody, GcmSiv.decrypt?_encrypt, Bytes.text?_ofText]

/-- **A sealed text opens** with the salt under which it was sealed, whatever the nonce. -/
theorem openText_sealText (salt : String) (nonce : GcmSiv.Nonce) (text : String) :
    openText salt (sealText salt nonce text) = .ok text := by
  rw [openText, sealText, Base64.decode?_encode]
  exact openBytes_sealBytes salt nonce text

end Sealing
end ServiceBroker

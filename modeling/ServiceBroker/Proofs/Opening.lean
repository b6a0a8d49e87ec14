/-
# What opens was sealed

A sealed value has one written form.  A text is read as base64 only if it is the written form
of the bytes read (`Base64.decode?_eq_some_iff`), and bytes are decrypted only if they are what
encrypting the result gives (`GcmSiv.decrypt?_eq_some_iff`).  So what opens is what was sealed,
and each failure to open says what the text is instead (`Sealing.Unopenable`).
-/

import ServiceBroker.Proofs.Sealing

namespace ServiceBroker
namespace Base64

/-- A character that stands for six bits is the one that is written for them. -/
theorem digit_of_value? {c : Char} {v : Nat} (h : value? c = some v) : v < 64 ∧ digit v = c := by
  obtain ⟨inside, here, -⟩ := List.idxOf?_eq_some_iff.1 h
  rw [length_alphabet] at inside
  refine ⟨inside, ?_⟩
  rw [← here, digit]
  simp only [Nat.mod_eq_of_lt inside, List.get_eq_getElem]

/-- The first byte has the six bits of the first letter and two of the second. -/
theorem toNat_firstByte {v w : Nat} (hv : v < 64) (hw : w < 64) :
    (firstByte v w).toNat = v * 4 + w / 16 := by
  rw [firstByte, UInt8.toNat_ofNat']
  omega

/-- The second byte has four bits of the second letter and four of the third. -/
theorem toNat_secondByte {w x : Nat} (hx : x < 64) :
    (secondByte w x).toNat = w % 16 * 16 + x / 4 := by
  rw [secondByte, UInt8.toNat_ofNat']
  omega

/-- The third byte has two bits of the third letter and the six of the fourth. -/
theorem toNat_thirdByte {x y : Nat} (hy : y < 64) :
    (thirdByte x y).toNat = x % 4 * 64 + y := by
  rw [thirdByte, UInt8.toNat_ofNat']
  omega

/-- A group that is filled up is the written form of its bytes. -/
theorem encodeChars_of_lastGroup? {v w : Nat} {third : Char} {bytes : Bytes} (hv : v < 64)
    (hw : w < 64) (h : lastGroup? v w third = some bytes) :
    encodeChars bytes = [digit v, digit w, third, '='] := by
  have first := toNat_firstByte hv hw
  unfold lastGroup? at h
  split_ifs at h with pad zero
  · cases h
    rw [encodeChars, first, pad, show (v * 4 + w / 16) / 4 = v by omega,
      show (v * 4 + w / 16) % 4 * 16 = w by omega]
  · obtain ⟨x, hx, written⟩ := Option.bind_eq_some_iff.1 h
    obtain ⟨inside, rfl⟩ := digit_of_value? hx
    split_ifs at written with zero
    cases written
    rw [encodeChars, first, toNat_secondByte inside, show (v * 4 + w / 16) / 4 = v by omega,
      show (v * 4 + w / 16) % 4 * 16 + (w % 16 * 16 + x / 4) / 16 = w by omega,
      show (w % 16 * 16 + x / 4) % 16 * 4 = x by omega]

/-- **What is read was written so**, group by group. -/
theorem encodeChars_of_decodeChars? {chars : List Char} {bytes : Bytes}
    (h : decodeChars? chars = some bytes) : encodeChars bytes = chars := by
  fun_induction decodeChars? chars generalizing bytes with
  | case1 =>
    cases h
    rfl
  | case2 a b c d rest ih =>
    obtain ⟨v, hv, h₁⟩ := Option.bind_eq_some_iff.1 h
    obtain ⟨w, hw, h₂⟩ := Option.bind_eq_some_iff.1 h₁
    obtain ⟨v_lt, rfl⟩ := digit_of_value? hv
    obtain ⟨w_lt, rfl⟩ := digit_of_value? hw
    split_ifs at h₂ with last
    · rw [last.1, last.2]
      exact encodeChars_of_lastGroup? v_lt w_lt h₂
    · obtain ⟨x, hx, h₃⟩ := Option.bind_eq_some_iff.1 h₂
      obtain ⟨y, hy, h₄⟩ := Option.bind_eq_some_iff.1 h₃
      obtain ⟨more, further, h₅⟩ := Option.bind_eq_some_iff.1 h₄
      obtain ⟨x_lt, rfl⟩ := digit_of_value? hx
      obtain ⟨y_lt, rfl⟩ := digit_of_value? hy
      cases h₅
      rw [encodeChars, ih further, toNat_firstByte v_lt w_lt, toNat_secondByte x_lt,
        toNat_thirdByte y_lt, show (v * 4 + w / 16) / 4 = v by omega,
        show (v * 4 + w / 16) % 4 * 16 + (w % 16 * 16 + x / 4) / 16 = w by omega,
        show (w % 16 * 16 + x / 4) % 16 * 4 + (x % 4 * 64 + y) / 64 = x by omega,
        show (x % 4 * 64 + y) % 64 = y by omega]
  | case3 => cases h

/-- **Bytes have one written form.** -/
theorem decode?_eq_some_iff {text : String} {bytes : Bytes} :
    decode? text = some bytes ↔ text = encode bytes := by
  constructor
  · intro h
    rw [encode, encodeChars_of_decodeChars? h, String.ofList_toList]
  · rintro rfl
    exact decode?_encode bytes

/-- The bytes for these values of six bits each; bits that fill no byte are dropped. -/
def pack : List Nat → Bytes
  | v :: w :: x :: y :: rest => firstByte v w :: secondByte w x :: thirdByte x y :: pack rest
  | [v, w, x] => [firstByte v w, secondByte w x]
  | [v, w] => [firstByte v w]
  | _ => []

/-- The bytes that a text may be taken for by a reader that minds nothing but the digits: padding
and all that is no digit is passed over, and so are bits that fill no byte. -/
def spelled (text : String) : Bytes := pack (text.toList.filterMap value?)

/-- The padding is no letter. -/
theorem value?_pad : value? '=' = none := by decide +kernel

/-- Whoever reads strictly reads what the careless reader does. -/
theorem pack_of_decodeChars? {chars : List Char} {bytes : Bytes}
    (h : decodeChars? chars = some bytes) : pack (chars.filterMap value?) = bytes := by
  fun_induction decodeChars? chars generalizing bytes with
  | case1 =>
    cases h
    rfl
  | case2 a b c d rest ih =>
    obtain ⟨v, hv, h₁⟩ := Option.bind_eq_some_iff.1 h
    obtain ⟨w, hw, h₂⟩ := Option.bind_eq_some_iff.1 h₁
    rw [List.filterMap_cons_some hv, List.filterMap_cons_some hw]
    split_ifs at h₂ with last
    · rw [last.1, last.2]
      unfold lastGroup? at h₂
      split_ifs at h₂ with pad
      · cases h₂
        rw [pad, List.filterMap_cons_none value?_pad, List.filterMap_cons_none value?_pad]
        rfl
      · obtain ⟨x, hx, h₃⟩ := Option.bind_eq_some_iff.1 h₂
        split_ifs at h₃
        cases h₃
        rw [List.filterMap_cons_some hx, List.filterMap_cons_none value?_pad]
        rfl
    · obtain ⟨x, hx, h₃⟩ := Option.bind_eq_some_iff.1 h₂
      obtain ⟨y, hy, h₄⟩ := Option.bind_eq_some_iff.1 h₃
      obtain ⟨more, further, h₅⟩ := Option.bind_eq_some_iff.1 h₄
      cases h₅
      rw [List.filterMap_cons_some hx, List.filterMap_cons_some hy, pack, ih further]
  | case3 => cases h

/-- **Of all spellings of some bytes one is read.** -/
theorem eq_encode_spelled {text : String} {bytes : Bytes} (h : decode? text = some bytes) :
    text = encode (spelled text) := by
  rw [spelled, pack_of_decodeChars? h]
  exact decode?_eq_some_iff.1 h

end Base64

namespace GcmSiv

variable {key : Key} {nonce : Nonce} {sealed text : Bytes}

/-- **What is decrypted was encrypted so**: a tag that passes is the tag of the text. -/
theorem decrypt?_eq_some_iff : decrypt? key nonce sealed = some text ↔
    sealed = encrypt key nonce text := by
  constructor
  · intro h
    have long : 16 ≤ sealed.length := by
      by_contra short
      rw [decrypt?, dif_neg short] at h
      cases h
    obtain ⟨body, t, rfl⟩ : ∃ (body : Bytes) (t : Block), sealed = body ++ t.toList := by
      refine ⟨sealed.take (sealed.length - 16),
        ⟨(sealed.drop (sealed.length - 16)).toArray, by simp; omega⟩, ?_⟩
      exact (List.take_append_drop _ _).symm
    rw [decrypt?_append] at h
    split_ifs at h with passes
    cases h
    rw [encrypt, passes, crypt_crypt]
  · rintro rfl
    exact decrypt?_encrypt key nonce text

end GcmSiv

/-- **A text is that of its bytes and of no others.** -/
theorem Bytes.text?_eq_some_iff {bytes : Bytes} {text : String} :
    Bytes.text? bytes = some text ↔ bytes = Bytes.ofText text := by
  constructor
  · intro h
    unfold Bytes.text? String.fromUTF8? at h
    split_ifs at h with valid
    cases h
    show bytes = (ByteArray.mk bytes.toArray).data.toList
    exact (List.toList_toArray).symm
  · rintro rfl
    exact Bytes.text?_ofText text

namespace Sealing

open GcmSiv (Nonce)

variable {salt text plain : String} {raw : Bytes} {e : SealingError}

/-- Bytes are opened by decrypting what stands behind the nonce. -/
theorem openBytes_append (salt : String) (nonce : Nonce) (body : Bytes) :
    openBytes salt (nonce.toList ++ body) =
      (GcmSiv.decrypt? (key salt) nonce body).elim (.error .forged) fun bytes =>
        (Bytes.text? bytes).elim (.error .notText) .ok := by
  have long : ¬ (nonce.toList ++ body).length < 12 := by simp
  have front : ∀ h, (⟨((nonce.toList ++ body).take 12).toArray, h⟩ : Nonce) = nonce := by
    intro h
    apply Vector.toArray_inj.1
    show ((nonce.toList ++ body).take 12).toArray = nonce.toArray
    rw [List.take_left' Vector.length_toList]
    exact Array.toArray_toList
  rw [openBytes, dif_neg long]
  simp only [front, List.drop_left' Vector.length_toList]
  cases GcmSiv.decrypt? (key salt) nonce body with
  | none => rfl
  | some bytes =>
    rw [Option.elim_some]
    dsimp only
    cases Bytes.text? bytes with
    | none => rfl
    | some text => rfl

/-- Bytes that are long enough begin with a nonce. -/
theorem exists_nonce (long : 12 ≤ raw.length) : ∃ (nonce : Nonce) (body : Bytes),
    raw = nonce.toList ++ body :=
  ⟨⟨(raw.take 12).toArray, by simp; omega⟩, raw.drop 12, (List.take_append_drop 12 raw).symm⟩

/-- What is wrong with a text that does not open with a salt. -/
inductive Unopenable (salt text : String) : SealingError → Prop where
  /-- It is the written form of no bytes. -/
  | notBase64 (unwritten : ∀ raw, text ≠ Base64.encode raw) : Unopenable salt text .notBase64
  /-- Its bytes hold no nonce. -/
  | tooShort {raw : Bytes} (written : text = Base64.encode raw) (short : raw.length < 12) :
    Unopenable salt text .tooShort
  /-- Its bytes are a nonce and not what that nonce makes of any others. -/
  | forged {raw : Bytes} (written : text = Base64.encode raw) (long : 12 ≤ raw.length)
    (foreign : ∀ nonce bytes, raw ≠ nonce.toList ++ GcmSiv.encrypt (key salt) nonce bytes) :
    Unopenable salt text .forged
  /-- What was sealed is no text. -/
  | notText {nonce : Nonce} {bytes : Bytes}
    (written : text =
      Base64.encode (nonce.toList ++ GcmSiv.encrypt (key salt) nonce bytes))
    (garbled : ∀ plain, bytes ≠ Bytes.ofText plain) : Unopenable salt text .notText

/-- **A text is sealed or has something wrong with it.** -/
theorem sealed_or_unopenable (salt text : String) :
    (∃ plain nonce, text = sealText salt nonce plain) ∨ ∃ e, Unopenable salt text e := by
  by_cases written : ∃ raw, text = Base64.encode raw
  · obtain ⟨raw, written⟩ := written
    by_cases long : 12 ≤ raw.length
    · by_cases encrypted :
          ∃ nonce bytes, raw = nonce.toList ++ GcmSiv.encrypt (key salt) nonce bytes
      · obtain ⟨nonce, bytes, rfl⟩ := encrypted
        by_cases readable : ∃ plain, bytes = Bytes.ofText plain
        · obtain ⟨plain, rfl⟩ := readable
          exact .inl ⟨plain, nonce, written⟩
        · exact .inr ⟨_, .notText written fun plain same => readable ⟨plain, same⟩⟩
      · exact .inr ⟨_, .forged written long fun nonce bytes same => encrypted ⟨nonce, bytes, same⟩⟩
    · exact .inr ⟨_, .tooShort written (Nat.lt_of_not_le long)⟩
  · exact .inr ⟨_, .notBase64 fun raw same => written ⟨raw, same⟩⟩

/-- **What is wrong with a text is what is said of it.** -/
theorem openText_of_unopenable (h : Unopenable salt text e) : openText salt text = .error e := by
  cases h with
  | notBase64 unwritten =>
    have unread : Base64.decode? text = none := Option.eq_none_iff_forall_ne_some.2
      fun raw read => unwritten raw (Base64.decode?_eq_some_iff.1 read)
    rw [openText, unread]
  | tooShort written short =>
    rw [openText, Base64.decode?_eq_some_iff.2 written]
    exact dif_pos short
  | forged written long foreign =>
    obtain ⟨nonce, body, rfl⟩ := exists_nonce long
    have unread : GcmSiv.decrypt? (key salt) nonce body = none :=
      Option.eq_none_iff_forall_ne_some.2 fun bytes read =>
        foreign nonce bytes (by rw [GcmSiv.decrypt?_eq_some_iff.1 read])
    rw [openText, Base64.decode?_eq_some_iff.2 written]
    simp only [openBytes_append, unread, Option.elim_none]
  | @notText nonce bytes written garbled =>
    have unread : Bytes.text? bytes = none := Option.eq_none_iff_forall_ne_some.2
      fun plain read => garbled plain (Bytes.text?_eq_some_iff.1 read)
    rw [openText, Base64.decode?_eq_some_iff.2 written]
    simp only [openBytes_append, GcmSiv.decrypt?_encrypt, Option.elim_some, unread,
      Option.elim_none]

/-- **A text opens just if it was sealed.**  It gives the text that some nonce seals so; of all
spellings of sealed bytes only the one that is written opens; and what does not open is no base64,
too short for a nonce, forged, or was no text when it was encrypted. -/
theorem opens_iff_sealed (salt text : String) :
    (∀ plain, openText salt text = .ok plain ↔ ∃ nonce, text = sealText salt nonce plain) ∧
    (∀ nonce plain, openText salt (sealText salt nonce plain) = .ok plain) ∧
    (∀ nonce plain, Base64.spelled text = sealBytes salt nonce plain →
      text ≠ sealText salt nonce plain → ∃ e, openText salt text = .error e) ∧
    (∀ e, openText salt text = .error e ↔ Unopenable salt text e) ∧
    SealingError.tooShort.message? = some "sealed value too short" ∧
    SealingError.forged.message? = some "authentication failed" := by
  refine ⟨fun plain => ⟨fun opens => ?_, ?_⟩, openText_sealText salt, ?_,
    fun e => ⟨fun fails => ?_, openText_of_unopenable⟩, rfl, rfl⟩
  · rcases sealed_or_unopenable salt text with ⟨other, nonce, rfl⟩ | ⟨e, wrong⟩
    · rw [openText_sealText] at opens
      cases opens
      exact ⟨nonce, rfl⟩
    · rw [openText_of_unopenable wrong] at opens
      cases opens
  · rintro ⟨nonce, rfl⟩
    exact openText_sealText salt nonce plain
  · intro nonce plain spells differs
    rcases sealed_or_unopenable salt text with ⟨other, nonce', rfl⟩ | ⟨e, wrong⟩
    · have read := Base64.decode?_encode (sealBytes salt nonce' other)
      refine absurd ?_ differs
      rw [sealText, Base64.eq_encode_spelled read, ← sealText, spells, sealText]
    · exact ⟨e, openText_of_unopenable wrong⟩
  · rcases sealed_or_unopenable salt text with ⟨plain, nonce, rfl⟩ | ⟨e', wrong⟩
    · rw [openText_sealText] at fails
      cases fails
    · rw [openText_of_unopenable wrong] at fails
      cases fails
      exact wrong

end Sealing
end ServiceBroker

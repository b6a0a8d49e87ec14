/-
# Sealed passwords

How the passwords of bindings are stored: base64 of a nonce, the encrypted password and
a tag, under a key that is the digest of the appliance's salt.  What is stored for one
appliance does not open with the salt of another.
-/

import ServiceBroker.Crypto.GcmSiv
import ServiceBroker.Crypto.Sha256
import ServiceBroker.Text.Base64

namespace ServiceBroker

/-- Why a sealed value does not open. -/
inductive SealingError where
  | notBase64
  | tooShort
  /-- The tag is not that of the text under this salt. -/
  | forged
  /-- What was sealed is no UTF-8. -/
  | notText
  /-- A cause told from outside. -/
  | other (text : String)
deriving DecidableEq, Repr

/-- The text of a cause, where it has one of its own. -/
def SealingError.message? : SealingError → Option String
  | notBase64 | notText => none
  | tooShort => some "sealed value too short"
  | forged => some "authentication failed"
  | other text => some text

namespace Sealing

open GcmSiv (Nonce)

/-- The key for a salt. -/
def key (salt : String) : GcmSiv.Key := Sha256.digest (Bytes.ofText salt)

/-- The bytes of a sealed value. -/
def sealBytes (salt : String) (nonce : Nonce) (text : String) : Bytes :=
  nonce.toList ++ GcmSiv.encrypt (key salt) nonce (Bytes.ofText text)

/-- A text sealed under a salt. -/
def sealText (salt : String) (nonce : Nonce) (text : String) : String :=
  Base64.encode (sealBytes salt nonce text)

/-- The text whose sealed bytes are given. -/
def openBytes (salt : String) (raw : Bytes) : Except SealingError String :=
  if h : raw.length < 12 then .error .tooShort
  else
    let nonce : Nonce := ⟨(raw.take 12).toArray, by simp; omega⟩
    match GcmSiv.decrypt? (key salt) nonce (raw.drop 12) with
    | none => .error .forged
    | some bytes =>
      match Bytes.text? bytes with
      | none => .error .notText
      | some text => .ok text

/-- The text that was sealed under a salt. -/
def openText (salt sealed : String) : Except SealingError String :=
  match Base64.decode? sealed with
  | none => .error .notBase64
  | some raw => openBytes salt raw

end Sealing
end ServiceBroker

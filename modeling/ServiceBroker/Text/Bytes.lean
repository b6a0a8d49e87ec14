/-
# Texts as bytes

The UTF-8 bytes of a text and the two ways back: `text?` refuses bytes that are no
UTF-8, `textLossy` puts U+FFFD for each maximal piece that is none, as a browser
does with a query string.
-/

namespace ServiceBroker

/-- A sequence of bytes, as read from a request, a configuration or a sealed value. -/
abbrev Bytes := List UInt8

namespace Bytes

/-- The UTF-8 bytes of a text. -/
def ofText (s : String) : Bytes := s.toUTF8.data.toList

/-- The text that has these UTF-8 bytes. -/
def text? (bytes : Bytes) : Option String := String.fromUTF8? ⟨bytes.toArray⟩

/-- The bytes of ASCII text written out as a text, each byte one character. -/
def latin (bytes : Bytes) : String := String.ofList (bytes.map fun b => Char.ofNat b.toNat)

/-- The pieces between separators. -/
def split (separator : UInt8) : Bytes → List Bytes
  | [] => [[]]
  | b :: rest =>
    if b = separator then [] :: split separator rest
    else match split separator rest with
      | piece :: others => (b :: piece) :: others
      | [] => [[b]]

/-- A continuation byte of UTF-8. -/
def isContinuation (b : UInt8) : Bool := 0x80 ≤ b && b ≤ 0xbf

/-- How many bytes at the front form one well-formed character, or, when they form none, how
many of them are replaced together: the longest run that some character begins with, and at
least one. -/
def characterSpan : Bytes → Bool × Nat
  | [] => (false, 0)
  | b0 :: rest =>
    if b0 < 0x80 then (true, 1)
    else if 0xc2 ≤ b0 && b0 ≤ 0xdf then
      match rest with
      | b1 :: _ => if isContinuation b1 then (true, 2) else (false, 1)
      | [] => (false, 1)
    else if 0xe0 ≤ b0 && b0 ≤ 0xef then
      let low : UInt8 := if b0 = 0xe0 then 0xa0 else 0x80
      let high : UInt8 := if b0 = 0xed then 0x9f else 0xbf
      match rest with
      | b1 :: rest' =>
        if low ≤ b1 && b1 ≤ high then
          match rest' with
          | b2 :: _ => if isContinuation b2 then (true, 3) else (false, 2)
          | [] => (false, 2)
        else (false, 1)
      | [] => (false, 1)
    else if 0xf0 ≤ b0 && b0 ≤ 0xf4 then
      let low : UInt8 := if b0 = 0xf0 then 0x90 else 0x80
      let high : UInt8 := if b0 = 0xf4 then 0x8f else 0xbf
      match rest with
      | b1 :: rest' =>
        if low ≤ b1 && b1 ≤ high then
          match rest' with
          | b2 :: rest'' =>
            if isContinuation b2 then
              match rest'' with
              | b3 :: _ => if isContinuation b3 then (true, 4) else (false, 3)
              | [] => (false, 3)
            else (false, 2)
          | [] => (false, 2)
        else (false, 1)
      | [] => (false, 1)
    else (false, 1)

/-- The bytes with every piece that is no UTF-8 replaced by the bytes of U+FFFD; `skip` bytes
at the front belong to a character already seen. -/
def repair (skip : Nat) (keep : Bool) : Bytes → Bytes
  | [] => []
  | b :: rest =>
    match skip with
    | n + 1 => if keep then b :: repair n keep rest else repair n keep rest
    | 0 =>
      let (good, span) := characterSpan (b :: rest)
      if good then b :: repair (span - 1) true rest
      else 0xef :: 0xbf :: 0xbd :: repair (span - 1) false rest

/-- The text of these bytes, U+FFFD standing for what is no UTF-8. -/
def textLossy (bytes : Bytes) : String := (text? (repair 0 true bytes)).getD ""

/-- The bytes of a text are read back as the text. -/
theorem text?_ofText (s : String) : text? (ofText s) = some s := by
  have h : (⟨(ofText s).toArray⟩ : ByteArray) = s.toByteArray := by simp [ofText]
  have valid : s.toByteArray.IsValidUTF8 := s.isValidUTF8
  simp only [text?, h, String.fromUTF8?, valid, dif_pos]
  rfl

end Bytes
end ServiceBroker

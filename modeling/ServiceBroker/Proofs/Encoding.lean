/-
# Texts and their bytes

The bytes of a text are those of its characters one after another (`Bytes.ofText_eq`), no two
texts have the same (`Bytes.ofText_injective`), and they are in the order of the texts
(`Bytes.ofText_lt_iff`): the greatest of several texts is the one with the greatest bytes.
-/

import ServiceBroker.Text.Bytes
import Mathlib.Data.String.Basic

namespace ServiceBroker
namespace Bytes

/-- What holds of the 256 bytes holds of every byte. -/
theorem forall_byte {p : UInt8 → Prop} (all : ∀ n : Fin 256, p (UInt8.ofNat n.val)) (b : UInt8) :
    p b := by
  have holds := all ⟨b.toNat, b.toNat_lt⟩
  rwa [UInt8.ofNat_toNat] at holds

/-- The bytes of characters one after another. -/
def ofChars (chars : List Char) : Bytes := chars.flatMap String.utf8EncodeChar

/-- No characters are no bytes. -/
@[simp] theorem ofChars_nil : ofChars [] = [] := rfl

/-- The bytes of a character come before those of the rest. -/
theorem ofChars_cons (c : Char) (rest : List Char) :
    ofChars (c :: rest) = String.utf8EncodeChar c ++ ofChars rest :=
  List.flatMap_cons

/-- The bytes of two texts are those of the one and then of the other. -/
theorem ofChars_append (s t : List Char) : ofChars (s ++ t) = ofChars s ++ ofChars t :=
  List.flatMap_append

/-- The bytes of a text are those of its characters. -/
theorem ofText_ofList (chars : List Char) : ofText (String.ofList chars) = ofChars chars := by
  rw [ofText, String.toUTF8_eq_toByteArray, String.toByteArray_ofList, List.utf8Encode,
    List.data_toByteArray, ofChars]

/-- The bytes of a text are those of its characters, one after another. -/
theorem ofText_eq (s : String) : ofText s = ofChars s.toList := by
  rw [← ofText_ofList, String.ofList_toList]

/-- Texts with the same bytes are the same. -/
theorem ofText_injective : Function.Injective ofText := fun s t same =>
  Option.some.inj (by rw [← text?_ofText s, same, text?_ofText])

/-- Code points end at 17 planes. -/
theorem codePoint_lt (c : Char) : c.val.toNat < 0x110000 := by
  rcases c.valid with small | ⟨-, large⟩
  · exact Nat.lt_trans small (by decide)
  · exact large

/-- A character below 128 is one byte. -/
theorem utf8EncodeChar_ascii {c : Char} (ascii : c.toNat < 0x80) :
    String.utf8EncodeChar c = [UInt8.ofNat c.toNat] :=
  if_pos (Nat.le_of_lt_succ ascii)

/-- Bytes of ASCII, written out as a text, are the bytes of that text. -/
theorem ofText_latin {bytes : Bytes} (ascii : ∀ b ∈ bytes, b < 0x80) :
    ofText (latin bytes) = bytes := by
  have numbers : ∀ n : Fin 0x80, (Char.ofNat n.val).toNat = n.val := by decide
  rw [latin, ofText_ofList]
  induction bytes with
  | nil => rfl
  | cons b rest ih =>
    have small : b.toNat < 0x80 := UInt8.lt_iff_toNat_lt.1 (ascii b List.mem_cons_self)
    have number : (Char.ofNat b.toNat).toNat = b.toNat := numbers ⟨b.toNat, small⟩
    rw [List.map_cons, ofChars_cons, utf8EncodeChar_ascii (by omega), number, UInt8.ofNat_toNat,
      ih fun c there => ascii c (List.mem_cons_of_mem b there)]
    rfl

/-- The bytes of every other character are above those of the characters below 128. -/
theorem le_of_mem_utf8EncodeChar {c : Char} (beyond : 0x80 ≤ c.toNat) {b : UInt8}
    (there : b ∈ String.utf8EncodeChar c) : 0x80 ≤ b := by
  have beyond : 0x80 ≤ c.val.toNat := beyond
  have bound := codePoint_lt c
  unfold String.utf8EncodeChar at there
  generalize c.val.toNat = n at *
  have byte_le (k : Nat) : 0x80 ≤ UInt8.ofNat k ↔ 0x80 ≤ k % 256 := by
    rw [UInt8.le_iff_toNat_le, UInt8.toNat_ofNat']
    rfl
  dsimp only at there
  split_ifs at there <;>
    simp only [List.mem_cons, List.not_mem_nil, or_false] at there
  · omega
  · rcases there with rfl | rfl <;> (rw [byte_le]; omega)
  · rcases there with rfl | rfl | rfl <;> (rw [byte_le]; omega)
  · rcases there with rfl | rfl | rfl | rfl <;> (rw [byte_le]; omega)

/-- A character before another has the smaller bytes, whatever follows. -/
theorem utf8EncodeChar_append_lt {c d : Char} (lt : c < d) (xs ys : Bytes) :
    String.utf8EncodeChar c ++ xs < String.utf8EncodeChar d ++ ys := by
  have bound := codePoint_lt d
  have lt : c.val.toNat < d.val.toNat := lt
  unfold String.utf8EncodeChar
  generalize c.val.toNat = m at *
  generalize d.val.toNat = n at *
  have byte_lt (i j : Nat) : UInt8.ofNat i < UInt8.ofNat j ↔ i % 256 < j % 256 := by
    rw [UInt8.lt_iff_toNat_lt, UInt8.toNat_ofNat', UInt8.toNat_ofNat']
  have byte_eq (i j : Nat) : UInt8.ofNat i = UInt8.ofNat j ↔ i % 256 = j % 256 := by
    rw [← UInt8.toNat_inj, UInt8.toNat_ofNat', UInt8.toNat_ofNat']
  have square (k : Nat) : k / 4096 = k / 64 / 64 := by omega
  have cube (k : Nat) : k / 262144 = k / 64 / 64 / 64 := by omega
  -- the first bytes tell the lengths apart; at one length some byte is smaller
  dsimp only
  split_ifs <;>
    simp only [List.cons_append, List.nil_append, List.cons_lt_cons_iff, byte_lt, byte_eq, square,
      cube] <;>
    omega

/-- Bytes are in the order of the characters. -/
theorem ofChars_lt {s t : List Char} (lt : s < t) : ofChars s < ofChars t := by
  induction s generalizing t with
  | nil =>
    cases t with
    | nil => exact absurd lt (List.not_lt_nil _)
    | cons d t =>
      obtain ⟨b, rest, bytes⟩ :=
        List.exists_cons_of_ne_nil (String.utf8EncodeChar_ne_nil (c := d))
      rw [ofChars_cons, bytes]
      exact List.nil_lt_cons _ _
  | cons c s ih =>
    cases t with
    | nil => exact absurd lt (List.not_lt_nil _)
    | cons d t =>
      rw [ofChars_cons, ofChars_cons]
      rcases List.cons_lt_cons_iff.1 lt with before | ⟨rfl, rest⟩
      · exact utf8EncodeChar_append_lt before _ _
      · exact List.append_left_lt (ih rest)

/-- **Texts are in the order of their bytes.** -/
theorem ofText_lt_iff {s t : String} : ofText s < ofText t ↔ s < t := by
  have mono {s t : String} (lt : s < t) : ofText s < ofText t := by
    rw [ofText_eq, ofText_eq]
    exact ofChars_lt (String.lt_iff_toList_lt.1 lt)
  constructor
  · intro lt
    rcases lt_trichotomy s t with before | rfl | after
    · exact before
    · exact absurd lt (List.lt_irrefl _)
    · exact absurd lt (List.lt_asymm (mono after))
  · exact mono

/-- Texts are ordered as their bytes are. -/
theorem ofText_le_iff {s t : String} : ofText s ≤ ofText t ↔ s ≤ t := by
  rw [← List.not_lt, ofText_lt_iff, String.not_lt]

end Bytes
end ServiceBroker

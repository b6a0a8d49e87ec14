/-
# Texts are scanned to tokens

The compact text of a value is scanned to tokens: punctuation, words, numerals and strings
(`Json.Scans`).  The scanner learns where a word or a numeral ends only from the byte behind it,
so what it has scanned is stated by what it does next (`Json.Stands`).
-/

import Mathlib.Data.List.Induction
import Mathlib.Data.List.TakeWhile
import Mathlib.Tactic.IntervalCases
import ServiceBroker.Json.Document
import ServiceBroker.Json.Text
import ServiceBroker.Proofs.Encoding
import ServiceBroker.Proofs.Numerals

namespace ServiceBroker
namespace Json

section Running

variable {σ α : Type} {step : σ → α → Option σ} {s s' : σ}

/-- An automaton that can take its first step goes on from there. -/
theorem foldlM_cons_of_eq {x : α} (first : step s x = some s') (xs : List α) :
    (x :: xs).foldlM step s = xs.foldlM step s' := by
  rw [List.foldlM_cons, first, Option.bind_eq_bind, Option.bind_some]

/-- Where the first part of a list leads is where the rest begins. -/
theorem foldlM_append_of_eq {xs : List α} (first : xs.foldlM step s = some s') (ys : List α) :
    (xs ++ ys).foldlM step s = ys.foldlM step s' := by
  rw [List.foldlM_append, first, Option.bind_eq_bind, Option.bind_some]

end Running

section Scanning

variable {tokens more : List Token} {cs ds : List Char}

/-- The scanner has found these tokens, the last one first: a byte that continues neither a word
nor a numeral begins the next one, and at the end of the text these are all. -/
structure Stands (state : Scan × List Token) (found : List Token) : Prop where
  next : ∀ b, Scan.isLower b = false → Scan.isNumeralByte b = false →
    Scan.step state b = Scan.start found b
  finish : Scan.finish state = some found.reverse

/-- Characters are scanned to tokens. -/
def Scans (cs : List Char) (tokens : List Token) : Prop :=
  ∀ found, ∃ state, (Bytes.ofChars cs).foldlM Scan.step (.between, found) = some state ∧
    Stands state (tokens.reverse ++ found)

/-- A character is a token of its own. -/
def Punctuates (c : Char) (token : Token) : Prop :=
  ∃ b, String.utf8EncodeChar c = [b] ∧ Scan.isLower b = false ∧ Scan.isNumeralByte b = false ∧
    ∀ found, Scan.start found b = some (.between, token :: found)

/-- Between two tokens all are found. -/
theorem stands_between (found : List Token) : Stands (.between, found) found :=
  ⟨fun _ _ _ => rfl, rfl⟩

/-- Nothing is scanned to no tokens. -/
theorem scans_nil : Scans [] [] := fun found => ⟨_, rfl, stands_between found⟩

/-- Two texts with a character between them that is a token of its own. -/
theorem Scans.join {c : Char} {token : Token} (h : Scans cs tokens)
    (punctuates : Punctuates c token) (h' : Scans ds more) :
    Scans (cs ++ c :: ds) (tokens ++ token :: more) := by
  intro found
  obtain ⟨b, bytes, lower, numeral, start⟩ := punctuates
  obtain ⟨state, run, stands⟩ := h found
  obtain ⟨state', run', stands'⟩ := h' (token :: (tokens.reverse ++ found))
  refine ⟨state', ?_, by simpa using stands'⟩
  have step : Scan.step state b = some (.between, token :: (tokens.reverse ++ found)) := by
    rw [stands.next b lower numeral, start]
  rw [Bytes.ofChars_append, Bytes.ofChars_cons, bytes, foldlM_append_of_eq run,
    List.singleton_append, foldlM_cons_of_eq step, run']

/-- Characters that are scanned to tokens have these tokens as their text. -/
theorem Scans.tokens? (h : Scans cs tokens) : tokens? (Bytes.ofChars cs) = some tokens := by
  obtain ⟨state, run, stands⟩ := h []
  rw [Json.tokens?, run, Option.bind_some, stands.finish, List.append_nil, List.reverse_reverse]

/-- A bracket opens an array. -/
theorem punctuates_openArray : Punctuates '[' .openArray := ⟨0x5b, rfl, rfl, rfl, fun _ => rfl⟩

/-- A bracket closes an array. -/
theorem punctuates_closeArray : Punctuates ']' .closeArray := ⟨0x5d, rfl, rfl, rfl, fun _ => rfl⟩

/-- A brace opens an object. -/
theorem punctuates_openObject : Punctuates '\x7b' .openObject := ⟨0x7b, rfl, rfl, rfl, fun _ => rfl⟩

/-- A brace closes an object. -/
theorem punctuates_closeObject : Punctuates '\x7d' .closeObject :=
  ⟨0x7d, rfl, rfl, rfl, fun _ => rfl⟩

/-- A comma is a token of its own. -/
theorem punctuates_comma : Punctuates ',' .comma := ⟨0x2c, rfl, rfl, rfl, fun _ => rfl⟩

/-- A colon is a token of its own. -/
theorem punctuates_colon : Punctuates ':' .colon := ⟨0x3a, rfl, rfl, rfl, fun _ => rfl⟩

section Words

/-- After a whole word its token is the last one. -/
theorem stands_word (seen : List Char) {token : Token} (word : Scan.word? seen = some token)
    (found : List Token) : Stands (.word seen, found) (token :: found) where
  next b lower _ := by
    rw [Scan.step, lower, word]
    rfl
  finish := by
    rw [Scan.finish, word]
    rfl

/-- The word for nothing is scanned to its token. -/
theorem scans_null : Scans ['n', 'u', 'l', 'l'] [.null] :=
  fun found => ⟨_, rfl, stands_word ['l', 'l', 'u', 'n'] rfl found⟩

/-- The word for truth is scanned to its token. -/
theorem scans_true : Scans ['t', 'r', 'u', 'e'] [.bool true] :=
  fun found => ⟨_, rfl, stands_word ['e', 'u', 'r', 't'] rfl found⟩

/-- The word for falsehood is scanned to its token. -/
theorem scans_false : Scans ['f', 'a', 'l', 's', 'e'] [.bool false] :=
  fun found => ⟨_, rfl, stands_word ['e', 's', 'l', 'a', 'f'] rfl found⟩

end Words

section Numerals

/-- A character of the numeral of an integer. -/
def IsNumeralChar (c : Char) : Prop := c = '-' ∨ c.isDigit = true

/-- A character of a numeral is one byte, which continues a numeral. -/
theorem IsNumeralChar.byte {c : Char} (is : IsNumeralChar c) :
    ∃ b, String.utf8EncodeChar c = [b] ∧ Scan.isBlank b = false ∧ Scan.isLower b = false ∧
      Scan.isNumeralByte b = true ∧ Scan.charOf b = c := by
  have all : ∀ n : Fin 58, n.val = 45 ∨ 48 ≤ n.val →
      Scan.isBlank (UInt8.ofNat n.val) = false ∧ Scan.isLower (UInt8.ofNat n.val) = false ∧
      Scan.isNumeralByte (UInt8.ofNat n.val) = true ∧ (UInt8.ofNat n.val).toNat = n.val := by decide
  have range : c.toNat < 58 ∧ (c.toNat = 45 ∨ 48 ≤ c.toNat) := by
    obtain rfl | digit := is
    · decide
    · obtain ⟨low, high⟩ := Char.isDigit_iff_toNat.1 digit
      have zero : '0'.toNat = 48 := rfl
      have nine : '9'.toNat = 57 := rfl
      omega
  obtain ⟨blank, lower, numeral, back⟩ := all ⟨c.toNat, range.1⟩ range.2
  refine ⟨_, Bytes.utf8EncodeChar_ascii (by omega), blank, lower, numeral, ?_⟩
  rw [Scan.charOf, back, Char.ofNat_toNat]

/-- The characters of a numeral are collected. -/
theorem scan_numeral (numeral : ∀ c ∈ cs, IsNumeralChar c) (seen : List Char)
    (found : List Token) :
    (Bytes.ofChars cs).foldlM Scan.step (.numeral seen, found) =
      some (.numeral (cs.reverse ++ seen), found) := by
  induction cs generalizing seen with
  | nil => rfl
  | cons c rest ih =>
    obtain ⟨b, bytes, -, -, continues, back⟩ := (numeral c List.mem_cons_self).byte
    have next : Scan.step (.numeral seen, found) b = some (.numeral (c :: seen), found) := by
      simp only [Scan.step, continues, if_true, back]
    rw [Bytes.ofChars_cons, bytes, List.singleton_append, foldlM_cons_of_eq next,
      ih fun d there => numeral d (List.mem_cons_of_mem c there), List.reverse_cons,
      List.append_assoc, List.singleton_append]

/-- A numeral is scanned to its token. -/
theorem scans_numeral {n : Numeral} (numeral : ∀ c ∈ cs, IsNumeralChar c)
    (spelled : Numeral.ofChars? cs = some n) : Scans cs [.numeral n] := by
  intro found
  cases cs with
  | nil => cases spelled
  | cons c rest =>
    obtain ⟨b, bytes, blank, lower, begins, back⟩ := (numeral c List.mem_cons_self).byte
    refine ⟨(.numeral (rest.reverse ++ [c]), found), ?_, ?_⟩
    · have first : Scan.step (.between, found) b = some (.numeral [c], found) := by
        simp only [Scan.step, Scan.start, blank, lower, begins, if_true, back,
          Bool.false_eq_true, if_false]
      rw [Bytes.ofChars_cons, bytes, List.singleton_append, foldlM_cons_of_eq first]
      exact scan_numeral (fun d there => numeral d (List.mem_cons_of_mem c there)) [c] found
    · have whole : (rest.reverse ++ [c]).reverse = c :: rest := by simp
      constructor
      · intro b lower ends
        simp only [Scan.step, ends, whole, spelled]
        rfl
      · simp only [Scan.finish, whole, spelled]
        rfl

/-- The digits of a positive number do not begin with a zero. -/
theorem head?_toDigits {k : Nat} (positive : 0 < k) : (Nat.toDigits 10 k).head? ≠ some '0' := by
  induction k using Nat.strongRecOn with
  | _ k ih =>
    by_cases small : k < 10
    · rw [Nat.toDigits_of_lt_base small, List.head?_cons, ne_eq, Option.some.injEq,
        Nat.digitChar_eq_zero]
      exact Nat.ne_of_gt positive
    · have fewer := ih (k / 10) (by omega) (by omega)
      rw [Nat.toDigits_of_base_le (by decide) (by omega), List.head?_append_of_ne_nil _
        Nat.toDigits_ne_nil]
      exact fewer

/-- The digits of a number are a numeral, with a sign or without. -/
theorem ofChars?_toDigits (k : Nat) :
    Numeral.ofChars? (Nat.toDigits 10 k) = some ⟨false, Nat.toDigits 10 k, [], none⟩ ∧
      Numeral.ofChars? ('-' :: Nat.toDigits 10 k) = some ⟨true, Nat.toDigits 10 k, [], none⟩ := by
  have digits : ∀ c ∈ Nat.toDigits 10 k, c.isDigit = true := fun c there =>
    Nat.isDigit_of_mem_toDigits (by decide) (by decide) there
  have whole : (Nat.toDigits 10 k).takeWhile Char.isDigit = Nat.toDigits 10 k :=
    List.takeWhile_eq_self_iff.2 digits
  have none_left : (Nat.toDigits 10 k).dropWhile Char.isDigit = [] :=
    List.dropWhile_eq_nil_iff.2 digits
  have plain : ¬(Nat.toDigits 10 k = [] ∨
      ((Nat.toDigits 10 k).head? = some '0' ∧ (Nat.toDigits 10 k).length ≠ 1)) := by
    rintro (none | ⟨zero, long⟩)
    · exact Nat.toDigits_ne_nil none
    · rcases Nat.eq_zero_or_pos k with rfl | positive
      · exact long (by decide)
      · exact head?_toDigits positive zero
  have unsigned : ∀ rest, Nat.toDigits 10 k = '-' :: rest → False := by
    intro rest is
    exact absurd (digits '-' (is ▸ List.mem_cons_self)) (by decide)
  constructor
  · rw [Numeral.ofChars?, whole, none_left, if_neg plain]
    · rfl
    · exact unsigned
  · rw [Numeral.ofChars?, whole, none_left, if_neg plain]
    rfl

/-- **An integer that fits 64 bits is scanned to a numeral with its value.** -/
theorem scans_integer {n : Int} (within : Int64.minValue.toInt ≤ n ∧ n ≤ UInt64.size - 1) :
    ∃ numeral, Scans (toString n).toList [.numeral numeral] ∧
      numeral.value? = some (.integer n) := by
  have digit (k : Nat) : ∀ c ∈ Nat.toDigits 10 k, IsNumeralChar c := fun c there =>
    .inr (Nat.isDigit_of_mem_toDigits (by decide) (by decide) there)
  have value (k : Nat) : Numeral.digitsValue (Nat.toDigits 10 k) = k := by
    have value := Nat.ofDigitChars_toDigits (b := 10) (n := k) (by decide) (by decide)
    rwa [Nat.ofDigitChars_eq_foldl] at value
  by_cases nonneg : 0 ≤ n
  · have text : (toString n).toList = Nat.toDigits 10 n.toNat := by
      rw [Int.toString_eq_repr, Int.repr_eq_if, if_pos nonneg, Nat.toList_repr]
    rw [text]
    refine ⟨_, scans_numeral (digit _) (ofChars?_toDigits n.toNat).1, ?_⟩
    have small : n.toNat ≤ Numeral.maxWord := by
      have bound : (UInt64.size : Int) = 18446744073709551616 := rfl
      have same : Numeral.maxWord = 18446744073709551615 := rfl
      omega
    have is : (n.toNat : Int) = n := Int.toNat_of_nonneg nonneg
    have found : (⟨false, Nat.toDigits 10 n.toNat, [], none⟩ : Numeral).integer? = some n := by
      simp [Numeral.integer?, value, small, is]
    rw [Numeral.value?, found]
  · have text : (toString n).toList = '-' :: Nat.toDigits 10 (-n).toNat := by
      rw [Int.toString_eq_repr, Int.repr_eq_if, if_neg nonneg, String.toList_append,
        Nat.toList_repr]
      rfl
    have signed : ∀ c ∈ '-' :: Nat.toDigits 10 (-n).toNat, IsNumeralChar c := by
      rw [List.forall_mem_cons]
      exact ⟨.inl rfl, digit _⟩
    rw [text]
    refine ⟨_, scans_numeral signed (ofChars?_toDigits (-n).toNat).2, ?_⟩
    have bound : Int64.minValue.toInt = -9223372036854775808 := by decide
    have small : (-n).toNat ≠ 0 ∧ (-n).toNat ≤ Int64.minValue.toInt.natAbs := by
      rw [bound]
      omega
    have is : -((-n).toNat : Int) = n := by omega
    have found : (⟨true, Nat.toDigits 10 (-n).toNat, [], none⟩ : Numeral).integer? = some n := by
      rw [Numeral.integer?, if_neg (by simp), if_pos rfl, value, if_pos small, is]
    rw [Numeral.value?, found]

end Numerals

section Strings

/-- What a character of a string is scanned to: its code point if it is written by that, else its
bytes. -/
def unitsOf (c : Char) : List StringUnit :=
  if c.toNat < 0x20 ∧ c ∉ ['\x08', '\x0c', '\n', '\r', '\t'] then [.unit c.toNat]
  else (String.utf8EncodeChar c).map .byte

/-- Bytes that stand for themselves in a string. -/
theorem scan_plain {bytes : Bytes} (plain : ∀ b ∈ bytes, b ≠ 0x22 ∧ b ≠ 0x5c ∧ ¬b < 0x20)
    (content : List StringUnit) (found : List Token) :
    bytes.foldlM Scan.step (.string content, found) =
      some (.string ((bytes.map .byte).reverse ++ content), found) := by
  induction bytes generalizing content with
  | nil => rfl
  | cons b rest ih =>
    obtain ⟨quote, backslash, control⟩ := plain b List.mem_cons_self
    have next : Scan.step (.string content, found) b =
        some (.string (.byte b :: content), found) := by
      simp only [Scan.step, quote, backslash, control, if_false]
    rw [foldlM_cons_of_eq next, ih fun d there => plain d (List.mem_cons_of_mem b there),
      List.map_cons, List.reverse_cons, List.append_assoc, List.singleton_append]

/-- A character above the control characters that is no quote and no backslash stands for itself. -/
theorem plain_utf8EncodeChar {c : Char} (control : ¬c.toNat < 0x20) (quote : c ≠ '"')
    (backslash : c ≠ '\\') : ∀ b ∈ String.utf8EncodeChar c, b ≠ 0x22 ∧ b ≠ 0x5c ∧ ¬b < 0x20 := by
  intro b there
  by_cases ascii : c.toNat < 0x80
  · rw [Bytes.utf8EncodeChar_ascii ascii, List.mem_singleton] at there
    have back : b.toNat = c.toNat := by
      rw [there, UInt8.toNat_ofNat', Nat.mod_eq_of_lt (by omega)]
    refine ⟨?_, ?_, ?_⟩
    · rintro rfl
      exact quote (Char.toNat_inj.1 back.symm)
    · rintro rfl
      exact backslash (Char.toNat_inj.1 back.symm)
    · rw [UInt8.lt_iff_toNat_lt, back]
      exact control
  · have beyond := Bytes.le_of_mem_utf8EncodeChar (Nat.le_of_not_lt ascii) there
    rw [UInt8.le_iff_toNat_le] at beyond
    refine ⟨?_, ?_, ?_⟩
    · rintro rfl
      exact absurd beyond (by decide)
    · rintro rfl
      exact absurd beyond (by decide)
    · rw [UInt8.lt_iff_toNat_lt]
      exact fun lt => absurd (Nat.lt_of_le_of_lt beyond lt) (by decide)

/-- Every character of a string is scanned to its units, however it is written. -/
theorem scan_escapeChar (c : Char) (content : List StringUnit) (found : List Token) :
    (Bytes.ofChars (escapeChar c)).foldlM Scan.step (.string content, found) =
      some (.string ((unitsOf c).reverse ++ content), found) := by
  by_cases control : c.toNat < 0x20
  · rw [← Char.ofNat_toNat c]
    generalize c.toNat = n at control
    -- five of the control characters have escapes of their own, so each is looked at
    interval_cases n <;> rfl
  · by_cases special : c = '"' ∨ c = '\\'
    · obtain rfl | rfl := special
      · rfl
      · rfl
    · obtain ⟨quote, backslash⟩ := not_or.1 special
      have other (d : Char) (low : d.toNat < 0x20) : c ≠ d := by
        rintro rfl
        exact control low
      have itself : escapeChar c = [c] := by
        have low : ¬c.toNat < 0x10 := by omega
        simp [escapeChar, quote, backslash, control, low, other '\x08' (by decide),
          other '\x0c' (by decide), other '\n' (by decide), other '\r' (by decide),
          other '\t' (by decide)]
      rw [itself, unitsOf, if_neg fun escaped => control escaped.1, Bytes.ofChars_cons,
        Bytes.ofChars_nil, List.append_nil]
      exact scan_plain (plain_utf8EncodeChar control quote backslash) content found

/-- The escaped characters of a string are collected, unit by unit. -/
theorem scan_escapes (cs : List Char) (content : List StringUnit) (found : List Token) :
    (Bytes.ofChars (cs.flatMap escapeChar)).foldlM Scan.step (.string content, found) =
      some (.string ((cs.flatMap unitsOf).reverse ++ content), found) := by
  induction cs generalizing content with
  | nil => rfl
  | cons c rest ih =>
    rw [List.flatMap_cons, Bytes.ofChars_append,
      foldlM_append_of_eq (scan_escapeChar c content found), ih, List.flatMap_cons,
      List.reverse_append, List.append_assoc]

/-- **A string is scanned to its content.** -/
theorem scans_string (s : String) :
    Scans (stringText s) [.string (s.toList.flatMap unitsOf)] := by
  intro found
  refine ⟨(.between, .string (s.toList.flatMap unitsOf) :: found), ?_, stands_between _⟩
  have quote : String.utf8EncodeChar '"' = [0x22] := rfl
  have opened : Scan.step (.between, found) 0x22 = some (.string [], found) := rfl
  rw [stringText, List.cons_append, Bytes.ofChars_cons, Bytes.ofChars_append, Bytes.ofChars_cons,
    Bytes.ofChars_nil, List.append_nil, quote, List.singleton_append, foldlM_cons_of_eq opened,
    foldlM_append_of_eq (scan_escapes s.toList [] found), List.append_nil]
  simp [Scan.step]

/-- Bytes of a string are taken as they are. -/
theorem bytes?_map_byte (bytes : Bytes) (rest : List StringUnit) (found : Bytes) :
    StringUnit.bytes? (bytes.map .byte ++ rest) found =
      StringUnit.bytes? rest (bytes.reverse ++ found) := by
  induction bytes generalizing found with
  | nil => rfl
  | cons b bytes ih =>
    rw [List.map_cons, List.cons_append, StringUnit.bytes?, ih, List.reverse_cons,
      List.append_assoc, List.singleton_append]

/-- The units of a character are read as its bytes. -/
theorem bytes?_unitsOf (c : Char) (rest : List StringUnit) (found : Bytes) :
    StringUnit.bytes? (unitsOf c ++ rest) found =
      StringUnit.bytes? rest ((String.utf8EncodeChar c).reverse ++ found) := by
  rw [unitsOf]
  split
  · rename_i escaped
    have low : StringUnit.isLowSurrogate c.toNat = false := by
      simp [StringUnit.isLowSurrogate]
      omega
    have high : StringUnit.isHighSurrogate c.toNat = false := by
      simp [StringUnit.isHighSurrogate]
      omega
    have encoded : StringUnit.encode c.toNat = String.utf8EncodeChar c := by
      rw [StringUnit.encode, Char.ofNat_toNat, Bytes.ofText_eq, String.toList_singleton,
        Bytes.ofChars_cons, Bytes.ofChars_nil, List.append_nil]
    rw [List.singleton_append, StringUnit.bytes?.eq_def]
    dsimp only
    rw [low, high, encoded]
    rfl
  · exact bytes?_map_byte _ rest found

/-- The units of a string are read back as the string. -/
theorem text?_units (s : String) : StringUnit.text? (s.toList.flatMap unitsOf) = some s := by
  have bytes (cs : List Char) (found : Bytes) : StringUnit.bytes? (cs.flatMap unitsOf) found =
      some ((Bytes.ofChars cs).reverse ++ found) := by
    induction cs generalizing found with
    | nil => rfl
    | cons c rest ih =>
      rw [List.flatMap_cons, bytes?_unitsOf, ih, Bytes.ofChars_cons, List.reverse_append,
        List.append_assoc]
  rw [StringUnit.text?, bytes, Option.bind_some, List.append_nil, List.reverse_reverse,
    ← Bytes.ofText_eq, Bytes.text?_ofText]

end Strings

end Scanning

end Json
end ServiceBroker

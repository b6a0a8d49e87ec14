/-
# IPv4 addresses

Four octets and their dotted form: four decimal numbers of one to three digits
without leading zeros, separated by dots and nothing else.  `parse?_eq_some_iff` states
that a text is read as an address exactly if it is the dotted form of that address.
-/

namespace ServiceBroker

/-- An IPv4 address. -/
structure Ipv4 where
  first : UInt8
  second : UInt8
  third : UInt8
  fourth : UInt8
deriving DecidableEq, Repr, Inhabited

namespace Ipv4

/-- The number that a run of decimal digits stands for. -/
def decimal (digits : List Char) : Nat :=
  digits.foldl (fun n c => 10 * n + (c.toNat - '0'.toNat)) 0

/-- One octet: one to three digits, no leading zero, at most 255. -/
def octet? (digits : List Char) : Option UInt8 :=
  if digits ≠ [] ∧ digits.length ≤ 3 ∧ digits.all Char.isDigit ∧
      (digits.head? = some '0' → digits.length = 1) ∧ decimal digits ≤ 255 then
    some (UInt8.ofNat (decimal digits))
  else none

/-- The pieces of a character list between dots. -/
def pieces : List Char → List (List Char)
  | [] => [[]]
  | c :: rest =>
    if c = '.' then [] :: pieces rest
    else match pieces rest with
      | piece :: others => (c :: piece) :: others
      | [] => [[c]]

/-- The address with this dotted form. -/
def parse? (s : String) : Option Ipv4 :=
  match pieces s.toList with
  | [a, b, c, d] => do
    return ⟨← octet? a, ← octet? b, ← octet? c, ← octet? d⟩
  | _ => none

/-- The digits of one octet. -/
def octetDigits (b : UInt8) : List Char := Nat.toDigits 10 b.toNat

/-- The dotted form of an address. -/
def text (a : Ipv4) : String :=
  String.ofList (octetDigits a.first ++ '.' :: octetDigits a.second ++
    '.' :: octetDigits a.third ++ '.' :: octetDigits a.fourth)

/-- The digits of an octet are read back. -/
theorem octet?_octetDigits (b : UInt8) : octet? (octetDigits b) = some b := by
  have h : ∀ b : Fin 256, octet? (octetDigits (UInt8.ofNat b.val)) = some (UInt8.ofNat b.val) := by
    decide +kernel
  have := h ⟨b.toNat, b.toNat_lt⟩
  simpa using this

/-- No dot is among the digits of an octet. -/
theorem dot_notMem_octetDigits (b : UInt8) : '.' ∉ octetDigits b := by
  have h : ∀ b : Fin 256, '.' ∉ octetDigits (UInt8.ofNat b.val) := by decide +kernel
  have := h ⟨b.toNat, b.toNat_lt⟩
  simpa using this

/-- A text without a dot is one piece. -/
theorem pieces_of_notMem {s : List Char} (h : '.' ∉ s) : pieces s = [s] := by
  induction s with
  | nil => rfl
  | cons c rest ih =>
    simp only [List.mem_cons, not_or] at h
    simp [pieces, Ne.symm h.1, ih h.2]

/-- What stands before the first dot is the first piece. -/
theorem pieces_append_dot {s : List Char} (h : '.' ∉ s) (rest : List Char) :
    pieces (s ++ '.' :: rest) = s :: pieces rest := by
  induction s with
  | nil => simp [pieces]
  | cons c tail ih =>
    simp only [List.mem_cons, not_or] at h
    simp [pieces, Ne.symm h.1, ih h.2]

/-- **Every address is read back from its dotted form.** -/
theorem parse?_text (a : Ipv4) : parse? a.text = some a := by
  have h : pieces a.text.toList =
      [octetDigits a.first, octetDigits a.second, octetDigits a.third, octetDigits a.fourth] := by
    simp only [text, String.toList_ofList, List.append_assoc, List.cons_append]
    rw [pieces_append_dot (dot_notMem_octetDigits _), pieces_append_dot (dot_notMem_octetDigits _),
      pieces_append_dot (dot_notMem_octetDigits _), pieces_of_notMem (dot_notMem_octetDigits _)]
  simp [parse?, h, octet?_octetDigits]

/-- There is always a piece, if only an empty one. -/
theorem pieces_ne_nil (s : List Char) : pieces s ≠ [] := by
  cases s with
  | nil => simp [pieces]
  | cons c rest =>
    rw [pieces]
    split
    · simp
    · split <;> simp

/-- The pieces with a dot between two each are the whole again. -/
theorem intercalate_pieces (s : List Char) : ['.'].intercalate (pieces s) = s := by
  induction s with
  | nil => rfl
  | cons c rest ih =>
    obtain ⟨piece, others, found⟩ := List.exists_cons_of_ne_nil (pieces_ne_nil rest)
    rw [found] at ih
    rw [pieces, found]
    split
    · rename_i dot
      rw [dot, ← ih]
      rfl
    · rw [← ih]
      cases others <;> rfl

/-- A digit is that of its value. -/
theorem digitChar_value {c : Char} (digit : c.isDigit = true) :
    (c.toNat - '0'.toNat).digitChar = c ∧ c.toNat - '0'.toNat < 10 := by
  obtain ⟨low, high⟩ := Char.isDigit_iff_toNat.1 digit
  have zero : '0'.toNat = 48 := rfl
  have nine : '9'.toNat = 57 := rfl
  have small : c.toNat - '0'.toNat < 10 := by omega
  refine ⟨?_, small⟩
  apply Char.toNat_inj.1
  rw [Nat.toNat_digitChar_of_lt_ten small]
  omega

/-- Digits behind those of a positive number. -/
theorem toDigits_foldl {digits : List Char} (all : ∀ c ∈ digits, c.isDigit = true) {n : Nat}
    (positive : 0 < n) :
    Nat.toDigits 10 (digits.foldl (fun n c => 10 * n + (c.toNat - '0'.toNat)) n) =
      Nat.toDigits 10 n ++ digits := by
  induction digits generalizing n with
  | nil => simp
  | cons c rest ih =>
    obtain ⟨value, small⟩ := digitChar_value (all c List.mem_cons_self)
    have next : Nat.toDigits 10 (10 * n + (c.toNat - '0'.toNat)) = Nat.toDigits 10 n ++ [c] := by
      rw [← Nat.toDigits_append_toDigits (by decide) positive small,
        Nat.toDigits_of_lt_base small, value]
    rw [List.foldl_cons, ih (fun d there => all d (List.mem_cons_of_mem c there)) (by omega), next,
      List.append_assoc, List.singleton_append]

/-- Digits without a leading zero are those of the number that they stand for. -/
theorem toDigits_decimal {digits : List Char} (nonempty : digits ≠ [])
    (all : ∀ c ∈ digits, c.isDigit = true)
    (leading : digits.head? = some '0' → digits.length = 1) :
    Nat.toDigits 10 (decimal digits) = digits := by
  obtain ⟨c, rest, rfl⟩ := List.exists_cons_of_ne_nil nonempty
  by_cases zero : c = '0'
  · subst zero
    have alone : rest = [] := List.length_eq_zero_iff.1 (Nat.succ.inj (leading rfl))
    rw [alone]
    decide
  · obtain ⟨value, small⟩ := digitChar_value (all c List.mem_cons_self)
    have positive : 0 < c.toNat - '0'.toNat := by
      rw [Nat.pos_iff_ne_zero]
      intro none
      rw [none] at value
      exact zero value.symm
    have start : decimal (c :: rest) =
        rest.foldl (fun n c => 10 * n + (c.toNat - '0'.toNat)) (c.toNat - '0'.toNat) := by
      rw [decimal, List.foldl_cons, Nat.mul_zero, Nat.zero_add]
    rw [start, toDigits_foldl (fun d there => all d (List.mem_cons_of_mem c there)) positive,
      Nat.toDigits_of_lt_base small, value, List.singleton_append]

/-- The digits of an octet are the only ones that are read as it. -/
theorem octet?_eq_some_iff {digits : List Char} {b : UInt8} :
    octet? digits = some b ↔ digits = octetDigits b := by
  constructor
  · intro found
    rw [octet?] at found
    split at found
    · rename_i is
      obtain ⟨nonempty, -, all, leading, bound⟩ := is
      rw [← Option.some.inj found, octetDigits, UInt8.toNat_ofNat_of_lt' (Nat.lt_succ_of_le bound),
        toDigits_decimal nonempty (List.all_eq_true.1 all) leading]
    · cases found
  · rintro rfl
    exact octet?_octetDigits b

/-- **A text is read as an address exactly if it is the dotted form of that address.** -/
theorem parse?_eq_some_iff {s : String} {a : Ipv4} : parse? s = some a ↔ s = a.text := by
  constructor
  · intro found
    rw [parse?] at found
    split at found
    · rename_i first second third fourth split
      simp only [bind, Option.bind_eq_some_iff, octet?_eq_some_iff] at found
      obtain ⟨_, rfl, _, rfl, _, rfl, _, rfl, ⟨⟩⟩ := found
      have whole := intercalate_pieces s.toList
      rw [split] at whole
      rw [← String.ofList_toList (s := s), ← whole]
      simp [text, List.intercalate]
    · cases found
  · rintro rfl
    exact parse?_text a

/-- Leading zeros, a missing octet and a number above 255 are refused. -/
example : parse? "01.2.3.4" = none ∧ parse? "1.2.3" = none ∧ parse? "1.2.3.256" = none := by
  decide +kernel

end Ipv4
end ServiceBroker

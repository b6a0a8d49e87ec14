/-
# Integers are read back from their digits

The digits of a natural number give it back (`Integer.digits?_toDigits`), so an integer of
each type is what its decimal text is read as.
-/

import ServiceBroker.Text.Integer

namespace ServiceBroker
namespace Integer

/-- The digits of a number are read back. -/
theorem digits?_toDigits (n : Nat) : digits? (Nat.toDigits 10 n) = some n := by
  have all : (Nat.toDigits 10 n).all Char.isDigit = true := by
    rw [List.all_eq_true]
    intro c hc
    exact Nat.isDigit_of_mem_toDigits (by decide) (by decide) hc
  have value := Nat.ofDigitChars_toDigits (b := 10) (n := n) (by decide) (by decide)
  rw [Nat.ofDigitChars_eq_foldl] at value
  rw [digits?, if_pos ⟨Nat.toDigits_ne_nil, all⟩, value]

/-- The text of a natural number begins with a digit, not with a sign. -/
theorem toList_toString (n : Nat) : ∃ c rest, (toString n).toList = c :: rest ∧
    c.isDigit = true ∧ digits? (c :: rest) = some n := by
  have text : (toString n).toList = Nat.toDigits 10 n := by
    rw [Nat.toString_eq_repr, Nat.toList_repr]
  cases digits : Nat.toDigits 10 n with
  | nil => exact absurd digits Nat.toDigits_ne_nil
  | cons c rest =>
    refine ⟨c, rest, text.trans digits, ?_, ?_⟩
    · apply Nat.isDigit_of_mem_toDigits (b := 10) (n := n) (by decide) (by decide)
      rw [digits]
      exact List.mem_cons_self
    · rw [← digits]
      exact digits?_toDigits n

/-- **A natural number up to the bound is read back from its text.** -/
theorem natural?_toString {bound n : Nat} (le : n ≤ bound) :
    natural? bound (toString n) = some n := by
  obtain ⟨c, rest, text, digit, value⟩ := toList_toString n
  have noSign : c ≠ '+' := by
    rintro rfl
    exact absurd digit (by decide)
  unfold natural?
  rw [text]
  split
  · rename_i tail sign
    exact absurd (List.cons.inj sign).1 noSign
  · show (digits? (c :: rest)).bind _ = some n
    rw [value, Option.bind_some, if_pos le]

/-- **An integer within the bounds is read back from its text**, signed or not. -/
theorem within?_toString {low high n : Int} (within : low ≤ n ∧ n ≤ high) :
    within? low high (toString n) = some n := by
  have found : ∀ value : Option Int, value = some n →
      (value.bind fun n => if low ≤ n ∧ n ≤ high then some n else none) = some n := by
    rintro value rfl
    rw [Option.bind_some, if_pos within]
  unfold within?
  apply found
  rw [Int.toString_eq_repr, Int.repr_eq_if]
  by_cases nonneg : 0 ≤ n
  · rw [if_pos nonneg, ← Nat.toString_eq_repr]
    obtain ⟨c, rest, text, digit, value⟩ := toList_toString n.toNat
    have value' : (digits? (c :: rest)).map Int.ofNat = some n := by
      rw [value, Option.map_some]
      exact congrArg some (Int.toNat_of_nonneg nonneg)
    rw [text]
    split
    · rename_i tail sign
      rw [(List.cons.inj sign).1] at digit
      exact absurd digit (by decide)
    · rename_i tail sign
      rw [(List.cons.inj sign).1] at digit
      exact absurd digit (by decide)
    · exact value'
  · rw [if_neg nonneg, String.toList_append, ← Nat.toString_eq_repr]
    have value : digits? (toString (-n).toNat).toList = some (-n).toNat := by
      rw [Nat.toString_eq_repr, Nat.toList_repr]
      exact digits?_toDigits _
    show Option.map (fun m : Int => -m) (do
      let m ← digits? (toString (-n).toNat).toList
      pure (m : Int)) = some n
    rw [value]
    show some (-((-n).toNat : Int)) = some n
    congr 1
    omega

/-- A printed integer of 64 bits is read back. -/
theorem int64?_toString (n : Int64) : int64? (toString n.toInt) = some n := by
  rw [int64?, within?_toString ⟨n.minValue_le_toInt, n.toInt_le⟩, Option.map_some,
    Int64.ofInt_toInt]

/-- A printed number of 32 bits is read back. -/
theorem uint32?_toString (n : UInt32) : uint32? (toString n.toNat) = some n := by
  have le : n.toNat ≤ UInt32.size - 1 := Nat.le_pred_of_lt n.toNat_lt
  rw [uint32?, natural?_toString le, Option.map_some, UInt32.ofNat_toNat]

/-- A printed number of 16 bits is read back. -/
theorem uint16?_toString (n : UInt16) : uint16? (toString n.toNat) = some n := by
  have le : n.toNat ≤ UInt16.size - 1 := Nat.le_pred_of_lt n.toNat_lt
  rw [uint16?, natural?_toString le, Option.map_some, UInt16.ofNat_toNat]

end Integer
end ServiceBroker

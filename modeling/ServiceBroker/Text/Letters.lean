/-
# Words of random letters

Generated user names and passwords are words over the 52 ASCII letters of a fixed
length.  The length and the alphabet are part of the type, so every word that a
broker generates has them, wherever its digits come from.
-/

namespace ServiceBroker

/-- A word of `n` ASCII letters. -/
structure Letters (n : Nat) where
  text : String
  length_eq : text.toList.length = n
  all_letters : text.toList.all Char.isAlpha = true

namespace Letters

instance {n : Nat} : DecidableEq (Letters n) := fun a b =>
  if h : a.text = b.text then isTrue (by cases a; cases b; simp_all)
  else isFalse (fun e => h (e ▸ rfl))

/-- The alphabet: `a` to `z`, then `A` to `Z`. -/
def alphabet : List Char := "abcdefghijklmnopqrstuvwxyzABCDEFGHIJKLMNOPQRSTUVWXYZ".toList

/-- There are 52 letters, large and small. -/
theorem length_alphabet : alphabet.length = 52 := by decide +kernel

/-- The letter at a position of the alphabet, positions counting round. -/
def letterAt (i : Nat) : Char := alphabet.get ⟨i % 52, by rw [length_alphabet]; omega⟩

/-- Whatever is looked up in the alphabet is a letter. -/
theorem isAlpha_letterAt (i : Nat) : (letterAt i).isAlpha = true := by
  have h : alphabet.all Char.isAlpha = true := by decide +kernel
  exact List.all_eq_true.mp h _ (List.get_mem _ _)

/-- The word whose letters stand at these positions of the alphabet. -/
def ofPositions (positions : List Nat) : Letters positions.length where
  text := String.ofList (positions.map letterAt)
  length_eq := by simp
  all_letters := by simp [isAlpha_letterAt]

/-- The digits of `k` in base 52, the last one first, `n` of them. -/
def digits52 : Nat → Nat → List Nat
  | 0, _ => []
  | n + 1, k => k % 52 :: digits52 n (k / 52)

/-- As many digits are written as are asked for. -/
theorem length_digits52 (n k : Nat) : (digits52 n k).length = n := by
  induction n generalizing k with
  | zero => rfl
  | succ n ih => simp [digits52, ih]

/-- The `k`-th word of `n` letters. -/
def nth (n k : Nat) : Letters n :=
  let word := ofPositions (digits52 n k)
  ⟨word.text, by rw [word.length_eq, length_digits52], word.all_letters⟩

end Letters
end ServiceBroker

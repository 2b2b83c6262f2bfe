import Mathlib.Data.List.TakeDrop
import WordCompletion.Json.Reader
import WordCompletion.Json.Number
import WordCompletion.Proofs.Binary64.Finite

/-! # Integers as they are written

The decimal digits of a natural are read back as they stand, up to a character that no number goes on with. They
stand for the natural, and if that has 64 bits they are absorbed to the last, so the number that they make is
finite.
-/

namespace WordCompletion.Json

/-- No number goes on with what follows. -/
def EndsNumber (rest : List Char) : Prop :=
  ∀ next ∈ rest.head?, next.isDigit = false ∧ next ∉ ['.', 'e', 'E']

/-- The digits of an integer with its sign. -/
def NumberText.ofInteger (negative : Bool) (size : ℕ) : NumberText :=
  ⟨negative, Nat.toDigits 10 size, [], none⟩

/-! ## What the digits stand for -/

theorem naturalOf_toDigits (natural : ℕ) : naturalOf (Nat.toDigits 10 natural) = natural := by
  rw [naturalOf, ← Nat.ofDigitChars_eq_foldl, Nat.ofDigitChars_ten_toDigits]

/-- More digits make no smaller integer. -/
theorem le_foldl_digits (total : ℕ) (digits : List Char) :
    total ≤ digits.foldl (fun total digit => 10 * total + (digit.toNat - '0'.toNat)) total := by
  induction digits generalizing total with
  | nil => exact Nat.le_refl _
  | cons digit rest ih =>
    have more := ih (10 * total + (digit.toNat - '0'.toNat))
    rw [List.foldl_cons]
    omega

/-- Digits that make an integer of 64 bits are all absorbed. -/
theorem absorb_of_lt {total : ℕ} {digits : List Char}
    (small : digits.foldl (fun total digit => 10 * total + (digit.toNat - '0'.toNat)) total < UInt64.size) :
    absorb total digits = (digits.foldl (fun total digit => 10 * total + (digit.toNat - '0'.toNat)) total, []) := by
  induction digits generalizing total with
  | nil => rfl
  | cons digit rest ih =>
    rw [List.foldl_cons] at small ⊢
    have fits := Nat.lt_of_le_of_lt (le_foldl_digits _ rest) small
    rw [absorb, if_pos fits, ih small]

/-- An integer of 64 bits is a finite number. -/
theorem isSome_float?_ofInteger {size : ℕ} (small : size < 2 ^ 64) (negative : Bool) :
    (NumberText.ofInteger negative size).float?.isSome = true := by
  have whole : absorb 0 (Nat.toDigits 10 size) = (size, []) := by
    have total := naturalOf_toDigits size
    rw [naturalOf] at total
    rw [absorb_of_lt (by rw [total]; exact small), total]
  -- no digit is left over, so the power of ten that scales the integer is one
  have significand : (NumberText.ofInteger negative size).significand = (size, 0) := by
    simp [NumberText.significand, NumberText.ofInteger, whole, absorb]
  have unit : Binary64.tenPow 0 = 1 := rfl
  have finite : scale? size 0 = some ((Binary64.ofNat size).mulPositive (.ofNat 1)) := by
    simp only [scale?, unit]
    rw [if_neg (by decide), if_neg (by decide), if_pos (Binary64.isFinite_mulPositive_one small)]
  have sized : (NumberText.ofInteger negative size).size? = scale? size 0 := by
    rw [NumberText.size?, significand]
    rfl
  rw [NumberText.float?, Option.isSome_map, sized, finite, Option.isSome_some]

/-! ## Reading the digits -/

theorem readDigits_append {digits rest : List Char} (nonempty : digits ≠ [])
    (all : ∀ digit ∈ digits, digit.isDigit = true) (stops : ∀ next ∈ rest.head?, next.isDigit = false) :
    readDigits (digits ++ rest) = some (digits, rest) := by
  have none : rest.takeWhile Char.isDigit = [] ∧ rest.dropWhile Char.isDigit = rest := by
    cases rest with
    | nil => exact ⟨rfl, rfl⟩
    | cons next later => simp [stops next rfl]
  have split : (digits ++ rest).span Char.isDigit = (digits, rest) := by
    rw [List.span_eq_takeWhile_dropWhile, List.takeWhile_append_of_pos all, List.dropWhile_append_of_pos all, none.1,
      none.2, List.append_nil]
  simp only [readDigits, split]
  exact if_neg (by simpa using nonempty)

/-- Only zero is written with a zero at the front. -/
theorem head?_toDigits_ne_zero {natural : ℕ} (positive : 0 < natural) : (Nat.toDigits 10 natural).head? ≠ some '0' := by
  induction natural using Nat.strongRecOn with
  | ind natural ih =>
    rcases Nat.lt_or_ge natural 10 with small | large
    · rw [Nat.toDigits_of_lt_base small, List.head?_cons, ne_eq, Option.some_inj, Nat.digitChar_eq_zero]
      exact positive.ne'
    · have front := ih (natural / 10) (by omega) (by omega)
      obtain ⟨digit, others, digits⟩ := List.exists_cons_of_ne_nil (Nat.toDigits_ne_nil (n := natural / 10) (b := 10))
      rw [digits] at front
      rw [Nat.toDigits_of_base_le (by decide) large, digits]
      exact front

theorem readUnsigned_toDigits {rest : List Char} (ends : EndsNumber rest) (negative : Bool) (size : ℕ) :
    readUnsigned negative (Nat.toDigits 10 size ++ rest) = some (.ofInteger negative size, rest) := by
  have digits : readDigits (Nat.toDigits 10 size ++ rest) = some (Nat.toDigits 10 size, rest) :=
    readDigits_append Nat.toDigits_ne_nil (fun _ => Nat.isDigit_of_mem_toDigits (by decide) (by decide))
      fun next member => (ends next member).1
  have plain : ¬ ((Nat.toDigits 10 size).head? = some '0' ∧ 1 < (Nat.toDigits 10 size).length) := by
    rintro ⟨zero, long⟩
    rcases Nat.eq_zero_or_pos size with rfl | positive
    · exact absurd long (by decide)
    · exact head?_toDigits_ne_zero positive zero
  have whole : readFraction rest = some ([], rest) ∧ readExponent rest = some (none, rest) := by
    cases rest with
    | nil => exact ⟨rfl, rfl⟩
    | cons next later =>
      have other := (ends next rfl).2
      simp only [List.mem_cons, List.not_mem_nil, or_false, not_or] at other
      simp [readFraction, readExponent, other]
  simp [readUnsigned, digits, plain, whole, NumberText.ofInteger]

/-- An integer is read with its sign. -/
theorem readNumber_ofInteger {rest : List Char} (ends : EndsNumber rest) (size : ℕ) :
    readNumber (Nat.toDigits 10 size ++ rest) = some (.ofInteger false size, rest) ∧
      readNumber ('-' :: Nat.toDigits 10 size ++ rest) = some (.ofInteger true size, rest) := by
  refine ⟨?_, readUnsigned_toDigits ends true size⟩
  obtain ⟨digit, others, digits⟩ := List.exists_cons_of_ne_nil (Nat.toDigits_ne_nil (n := size) (b := 10))
  have first : digit.isDigit = true :=
    Nat.isDigit_of_mem_toDigits (b := 10) (n := size) (by decide) (by decide) (by simp [digits])
  have unsigned := readUnsigned_toDigits ends false size
  rw [digits] at unsigned ⊢
  have noSign : digit ≠ '-' := by
    rintro rfl
    exact absurd first (by decide)
  simpa [readNumber, noSign] using unsigned

end WordCompletion.Json

import WordCompletion.Options
import WordCompletion.Proofs.Binary64.Quotient
import WordCompletion.Score

/-! # Scores as numbers

A score is a quotient between zero and one, and so is the number it rounds to: no score is a NaN or
passes one. A look-ahead that reaches past the end of the candidate changes nothing, so the largest
look-ahead that the scorer receives serves for every larger one.
-/

namespace WordCompletion

namespace Score

theorem isNaN_value (score : Score) : score.value.isNaN = false :=
  Binary64.isNaN_ofQuotient ..

/-- No score passes one. -/
theorem position_value_le_one (score : Score) : score.value.position ≤ Binary64.one.position := by
  have bound := Binary64.quotientMagnitude_le_one score.compared_pos score.unmatched_le
  have one : Binary64.one.position = (1023 * Binary64.binadeSize : ℕ) := by decide
  rw [value, Binary64.position_ofQuotient, one]
  exact Int.ofNat_le.mpr bound

theorem position_value_nonneg (score : Score) : 0 ≤ score.value.position := by
  rw [value, Binary64.position_ofQuotient]
  exact Int.natCast_nonneg _

theorem value_eq_zero_of_unmatched {score : Score} (matched : score.unmatched = 0) : score.value = .zero := by
  rw [value, matched]
  rfl

end Score

/-! ## Equal bags -/

theorem leftOver_self (bag : List Char) : leftOver bag bag = [] := by
  induction bag with
  | nil => rfl
  | cons char rest ih => rw [leftOver, List.foldl_cons, List.erase_cons_head, ← leftOver, ih]

/-- Look-aheads that reach the end of the candidate are all alike. -/
theorem dissimilarity_eq_of_covers {typed candidate : String} {first second : ℕ}
    (firstCovers : (Text.lowercaseAll candidate.toList).length ≤ first)
    (secondCovers : (Text.lowercaseAll candidate.toList).length ≤ second) :
    dissimilarity typed candidate first = dissimilarity typed candidate second := by
  simp only [dissimilarity, Score.ofLowercase]
  rw [List.take_of_length_le (by omega), List.take_of_length_le (by omega)]

/-- The look-ahead that the scorer receives scores like the one asked for. -/
theorem dissimilarity_scoredLookAhead (options : MatchOptions) {typed candidate : String}
    (short : (Text.lowercaseAll candidate.toList).length ≤ maxSigned) :
    dissimilarity typed candidate options.scoredLookAhead =
      dissimilarity typed candidate options.lookAhead.toNat := by
  unfold MatchOptions.scoredLookAhead
  rcases Nat.le_total options.lookAhead.toNat maxSigned with small | large
  · rw [Nat.min_eq_left small]
  · rw [Nat.min_eq_right large]
    exact dissimilarity_eq_of_covers short (short.trans large)

end WordCompletion

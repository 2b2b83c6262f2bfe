import WordCompletion.Proofs.Binary64.Quotient

/-! # Quotients that round to finite numbers

A quotient below a power of two rounds to no more than that power, so far from the greatest one nothing rounds to
infinity. Main statement: a natural of 64 bits stays finite when it is scaled by one.
-/

namespace WordCompletion.Binary64

/-- A bracket by a power of two bounds the steps of a grid that is no more than some places finer. -/
theorem scaleUp_le_mul {first second places : ℕ} {exponent grid : ℤ}
    (bracket : scaleUp first (-exponent) ≤ scaleUp second exponent) (near : exponent ≤ grid + places) :
    scaleUp first (-grid) ≤ scaleUp second grid * 2 ^ places := by
  apply Nat.le_of_mul_le_mul_right _ (Nat.two_pow_pos (-exponent).toNat)
  calc
    first * 2 ^ (-grid).toNat * 2 ^ (-exponent).toNat = first * 2 ^ (-exponent).toNat * 2 ^ (-grid).toNat :=
      Nat.mul_right_comm ..
    _ ≤ second * 2 ^ exponent.toNat * 2 ^ (-grid).toNat := Nat.mul_le_mul_right _ bracket
    _ = second * 2 ^ (exponent.toNat + (-grid).toNat) := by rw [Nat.mul_assoc, ← Nat.pow_add]
    _ ≤ second * 2 ^ (grid.toNat + places + (-exponent).toNat) :=
      Nat.mul_le_mul_left _ (Nat.pow_le_pow_right Nat.two_pos (by omega))
    _ = second * 2 ^ grid.toNat * 2 ^ places * 2 ^ (-exponent).toNat := by
      rw [Nat.pow_add, Nat.pow_add, ← Nat.mul_assoc, ← Nat.mul_assoc]

theorem leadingExponent_lt {numerator bits : ℕ} (denominator : ℕ) (nonzero : numerator ≠ 0)
    (small : numerator < 2 ^ bits) : leadingExponent numerator denominator < bits := by
  have order : numerator.log2 < bits := (Nat.log2_lt nonzero).mpr small
  simp only [leadingExponent]
  split_ifs <;> omega

/-- A quotient below a power of two rounds to no more than that power. -/
theorem quotientMagnitude_le_of_lt {numerator denominator bits : ℕ} (positive : 0 < denominator)
    (small : numerator < 2 ^ bits) : quotientMagnitude numerator denominator ≤ (bits + 1023) * binadeSize := by
  by_cases zero : numerator = 0
  · rw [quotientMagnitude, if_pos zero]
    exact Nat.zero_le _
  have leading := leadingExponent_lt denominator zero small
  have bracket := (lt_scaleUp_leadingExponent numerator positive.ne').le
  rw [quotientMagnitude, if_neg zero]
  generalize gridEq : max (leadingExponent numerator denominator - 52) leastExponent = grid
  simp only [leastExponent] at gridEq ⊢
  have near : leadingExponent numerator denominator + 1 ≤ grid + (53 : ℕ) := by omega
  have steps : roundHalfEven (scaleUp numerator (-grid)) (scaleUp denominator grid) ≤ 2 ^ 53 :=
    roundHalfEven_le (Nat.mul_pos positive (Nat.two_pow_pos _)) (scaleUp_le_mul bracket near)
  have size : 2 ^ 53 = 2 * binadeSize := by decide
  calc
    min ((grid - -1074).toNat * binadeSize + roundHalfEven (scaleUp numerator (-grid)) (scaleUp denominator grid))
        infinityMagnitude ≤ (grid - -1074).toNat * binadeSize + 2 ^ 53 :=
      (Nat.min_le_left ..).trans (Nat.add_le_add_left steps _)
    _ = ((grid - -1074).toNat + 2) * binadeSize := by rw [size, Nat.add_mul]
    _ ≤ (bits + 1023) * binadeSize := Nat.mul_le_mul_right _ (by omega)

theorem magnitude_ofQuotient (numerator denominator : ℕ) :
    (ofQuotient numerator denominator).magnitude = quotientMagnitude numerator denominator := by
  have small : quotientMagnitude numerator denominator < magnitudeCount :=
    Nat.lt_of_le_of_lt (quotientMagnitude_le ..) (by decide)
  rw [Binary64.magnitude, ofQuotient, bits_ofMagnitude small, Nat.mod_eq_of_lt small]

theorem significand_lt (magnitude : ℕ) : significand magnitude < 2 * binadeSize := by
  simp only [significand]
  split_ifs with least
  · omega
  · have rest : magnitude % binadeSize < binadeSize := Nat.mod_lt _ (by decide)
    omega

/-- The exponent of a natural's number is that of a number not much above it. -/
theorem exponent_ofNat_le {natural bits : ℕ} (small : natural < 2 ^ bits) :
    exponent (ofNat natural).magnitude ≤ (bits : ℤ) - 52 := by
  have bound : quotientMagnitude natural 1 ≤ (bits + 1023) * binadeSize :=
    quotientMagnitude_le_of_lt Nat.one_pos small
  have binade : quotientMagnitude natural 1 / binadeSize ≤ bits + 1023 :=
    Nat.div_le_of_le_mul (by rwa [Nat.mul_comm])
  rw [ofNat, magnitude_ofQuotient]
  simp only [exponent, leastExponent]
  split_ifs <;> omega

/-- A natural of 64 bits stays finite when it is scaled by one. -/
theorem isFinite_mulPositive_one {natural : ℕ} (small : natural < 2 ^ 64) :
    ((ofNat natural).mulPositive (ofNat 1)).isFinite = true := by
  have unit : significand (ofNat 1).magnitude = binadeSize ∧ exponent (ofNat 1).magnitude = -52 := by decide
  have order := exponent_ofNat_le small
  have unscaled : (exponent (ofNat natural).magnitude + -52).toNat = 0 := by omega
  have product : significand (ofNat natural).magnitude * binadeSize < 2 ^ 105 := by
    calc
      significand (ofNat natural).magnitude * binadeSize < 2 * binadeSize * binadeSize :=
        Nat.mul_lt_mul_of_pos_right (significand_lt _) (by decide)
      _ = 2 ^ 105 := by decide
  have bound : ((ofNat natural).mulPositive (ofNat 1)).magnitude ≤ (105 + 1023) * binadeSize := by
    rw [mulPositive, unit.1, unit.2, magnitude_ofQuotient]
    apply quotientMagnitude_le_of_lt
    · exact Nat.mul_pos Nat.one_pos (Nat.two_pow_pos _)
    · simpa only [scaleUp, unscaled, Nat.pow_eq, Nat.pow_zero, Nat.mul_one] using product
  exact decide_eq_true (Nat.lt_of_le_of_lt bound (by decide))

end WordCompletion.Binary64

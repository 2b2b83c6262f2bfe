import WordCompletion.Proofs.Binary64.Quotient

/-! # Rounding keeps the order of quotients

Rounding to a natural does not turn over two quotients. On one grid that settles the order of two rounded
quotients; where the grids differ, the finer one belongs to the smaller quotient and ends where the coarser
one begins. Main statement: of two quotients that are at most one the smaller rounds to the smaller number.
-/

namespace WordCompletion.Binary64

theorem le_roundHalfEven {numerator denominator bound : ℕ} (positive : 0 < denominator)
    (within : bound * denominator ≤ numerator) : bound ≤ roundHalfEven numerator denominator := by
  have quotient : bound ≤ numerator / denominator := (Nat.le_div_iff_mul_le positive).mpr within
  simp only [roundHalfEven]
  split_ifs
  · omega
  · exact quotient

/-- Rounding to a natural keeps the order of quotients. -/
theorem roundHalfEven_mono {first second third fourth : ℕ} (secondPos : 0 < second) (fourthPos : 0 < fourth)
    (below : first * fourth ≤ third * second) : roundHalfEven first second ≤ roundHalfEven third fourth := by
  have firstSplit := Nat.div_add_mod first second
  have secondSplit := Nat.div_add_mod third fourth
  have quotients : first / second ≤ third / fourth := by
    rw [Nat.le_div_iff_mul_le fourthPos]
    apply Nat.le_of_mul_le_mul_right _ secondPos
    calc
      first / second * fourth * second = first / second * second * fourth := Nat.mul_right_comm ..
      _ ≤ first * fourth := Nat.mul_le_mul_right _ (Nat.div_mul_le_self ..)
      _ ≤ third * second := below
  rcases Nat.lt_or_eq_of_le quotients with less | same
  · have floor : third / fourth ≤ roundHalfEven third fourth :=
      le_roundHalfEven fourthPos (Nat.div_mul_le_self ..)
    have ceiling : roundHalfEven first second ≤ first / second + 1 := by
      simp only [roundHalfEven]
      split_ifs <;> omega
    omega
  · -- with equal floors the remainders are in order, and so are their doubles to the denominators
    have remainders : first % second * fourth ≤ third % fourth * second := by
      rw [← firstSplit, ← secondSplit, same] at below
      nlinarith only [below]
    simp only [roundHalfEven, same]
    split_ifs with up other
    · exact Nat.le_refl _
    · exfalso
      apply other
      rcases up with more | ⟨half, odd⟩
      · left
        apply Nat.lt_of_mul_lt_mul_right (a := second)
        nlinarith only [more, remainders, fourthPos]
      · have atLeast : fourth ≤ 2 * (third % fourth) := by
          apply Nat.le_of_mul_le_mul_right _ secondPos
          nlinarith only [half, remainders]
        rcases Nat.lt_or_eq_of_le atLeast with more | exact
        · exact .inl more
        · exact .inr ⟨exact.symm, odd⟩
    · omega
    · exact Nat.le_refl _

/-- A positive quotient that is at most one, brought up between one and two. -/
theorem exists_scale {numerator denominator : ℕ} (nonzero : numerator ≠ 0) (atMostOne : numerator ≤ denominator) :
    ∃ scale : ℕ, leadingExponent numerator denominator = -(scale : ℤ) ∧ denominator ≤ numerator * 2 ^ scale ∧
      numerator * 2 ^ scale < denominator * 2 := by
  have nonpos := leadingExponent_nonpos nonzero atMostOne
  have lower := scaleUp_leadingExponent_le denominator nonzero
  have upper := lt_scaleUp_leadingExponent numerator (show denominator ≠ 0 by omega)
  obtain ⟨scale, leading⟩ := Int.eq_ofNat_of_zero_le (Int.neg_nonneg.mpr nonpos)
  have leading : leadingExponent numerator denominator = -(scale : ℤ) := by omega
  rw [leading] at lower upper
  simp only [scaleUp, Int.neg_neg, Int.toNat_natCast, Int.toNat_neg_natCast, Nat.pow_eq, Nat.pow_zero,
    Nat.mul_one] at lower
  refine ⟨scale, leading, lower, ?_⟩
  cases scale with
  | zero => simpa [scaleUp] using upper
  | succ less =>
    have down : (-(-((less + 1 : ℕ) : ℤ) + 1)).toNat = less := by omega
    have up : (-((less + 1 : ℕ) : ℤ) + 1).toNat = 0 := by omega
    simp only [scaleUp, down, up, Nat.pow_eq, Nat.pow_zero, Nat.mul_one] at upper
    rw [Nat.pow_succ, ← Nat.mul_assoc]
    exact Nat.mul_lt_mul_of_pos_right upper Nat.two_pos

/-- The larger of two quotients has the smaller scale. -/
theorem scale_le_of_le {first second third fourth more less : ℕ} (secondPos : 0 < second)
    (below : first * fourth ≤ third * second) (lower : second ≤ first * 2 ^ more)
    (upper : third * 2 ^ less < fourth * 2) : less ≤ more := by
  by_contra greater
  have room : third * 2 ^ more * 2 ≤ third * 2 ^ less := by
    rw [Nat.mul_assoc, ← Nat.pow_succ]
    exact Nat.mul_le_mul_left _ (Nat.pow_le_pow_right Nat.two_pos (by omega))
  have enough : fourth ≤ third * 2 ^ more := by
    apply Nat.le_of_mul_le_mul_right _ secondPos
    calc
      fourth * second ≤ fourth * (first * 2 ^ more) := Nat.mul_le_mul_left _ lower
      _ = first * fourth * 2 ^ more := by ac_rfl
      _ ≤ third * second * 2 ^ more := Nat.mul_le_mul_right _ below
      _ = third * 2 ^ more * second := Nat.mul_right_comm ..
  omega

/-- The numbers of a binade come before those of the next one. -/
theorem binade_add_le {fine coarse : ℕ} (finer : coarse < fine) (most : fine ≤ 1074) :
    (1074 - fine) * binadeSize + 2 ^ 53 ≤ (1074 - coarse) * binadeSize + 2 ^ 52 := by
  have size : binadeSize = 2 ^ 52 := by decide
  have next : (1074 - fine + 1) * binadeSize ≤ (1074 - coarse) * binadeSize :=
    Nat.mul_le_mul_right _ (by omega)
  rw [size] at next ⊢
  omega

/-- The magnitude of a positive quotient that is at most one, by its scale. -/
theorem quotientMagnitude_eq_of_scale {numerator denominator scale : ℕ} (nonzero : numerator ≠ 0)
    (leading : leadingExponent numerator denominator = -(scale : ℤ)) :
    quotientMagnitude numerator denominator = min ((1074 - min (scale + 52) 1074) * binadeSize +
      roundHalfEven (numerator * 2 ^ min (scale + 52) 1074) denominator) infinityMagnitude := by
  apply quotientMagnitude_eq nonzero
  rw [leading, leastExponent]
  omega

/-- A quotient on a finer grid rounds to no more than one on a coarser grid. -/
theorem binade_round_le {first second third fourth fine coarse : ℕ} (secondPos : 0 < second) (fourthPos : 0 < fourth)
    (upper : first * 2 ^ fine < second * 2) (lower : fourth ≤ third * 2 ^ coarse)
    (finer : min (coarse + 52) 1074 < min (fine + 52) 1074) :
    (1074 - min (fine + 52) 1074) * binadeSize + roundHalfEven (first * 2 ^ min (fine + 52) 1074) second ≤
      (1074 - min (coarse + 52) 1074) * binadeSize + roundHalfEven (third * 2 ^ min (coarse + 52) 1074) fourth := by
  have unclamped : min (coarse + 52) 1074 = coarse + 52 := by omega
  have most : roundHalfEven (first * 2 ^ min (fine + 52) 1074) second ≤ 2 ^ 53 := by
    apply roundHalfEven_le secondPos
    calc
      first * 2 ^ min (fine + 52) 1074 ≤ first * 2 ^ (fine + 52) :=
        Nat.mul_le_mul_left _ (Nat.pow_le_pow_right Nat.two_pos (Nat.min_le_left ..))
      _ = first * 2 ^ fine * 2 ^ 52 := by rw [Nat.pow_add, Nat.mul_assoc]
      _ ≤ second * 2 * 2 ^ 52 := Nat.mul_le_mul_right _ upper.le
      _ = second * 2 ^ 53 := by rw [Nat.mul_assoc, ← Nat.pow_succ']
  have least : 2 ^ 52 ≤ roundHalfEven (third * 2 ^ (coarse + 52)) fourth := by
    apply le_roundHalfEven fourthPos
    calc
      2 ^ 52 * fourth ≤ 2 ^ 52 * (third * 2 ^ coarse) := Nat.mul_le_mul_left _ lower
      _ = third * 2 ^ (coarse + 52) := by rw [Nat.pow_add, Nat.mul_comm, Nat.mul_assoc]
  have next := binade_add_le finer (Nat.min_le_right ..)
  rw [unclamped] at next ⊢
  omega

/-- Of two quotients that are at most one the smaller rounds to the smaller number. -/
theorem quotientMagnitude_mono {first second third fourth : ℕ} (firstAtMost : first ≤ second)
    (thirdAtMost : third ≤ fourth) (fourthPos : 0 < fourth) (below : first * fourth ≤ third * second) :
    quotientMagnitude first second ≤ quotientMagnitude third fourth := by
  by_cases zero : first = 0
  · rw [quotientMagnitude, if_pos zero]
    exact Nat.zero_le _
  have nonzero : third ≠ 0 := by
    rintro rfl
    have positive := Nat.mul_pos (Nat.pos_of_ne_zero zero) fourthPos
    omega
  have secondPos : 0 < second := by omega
  obtain ⟨fine, firstLeading, firstLower, firstUpper⟩ := exists_scale zero firstAtMost
  obtain ⟨coarse, thirdLeading, thirdLower, thirdUpper⟩ := exists_scale nonzero thirdAtMost
  have scales := scale_le_of_le secondPos below firstLower thirdUpper
  rw [quotientMagnitude_eq_of_scale zero firstLeading, quotientMagnitude_eq_of_scale nonzero thirdLeading]
  apply min_le_min_right
  have grids : min (coarse + 52) 1074 ≤ min (fine + 52) 1074 := by omega
  rcases Nat.lt_or_eq_of_le grids with finer | same
  · exact binade_round_le secondPos fourthPos firstUpper thirdLower finer
  · rw [same]
    apply Nat.add_le_add_left
    apply roundHalfEven_mono secondPos fourthPos
    calc
      first * 2 ^ min (fine + 52) 1074 * fourth = first * fourth * 2 ^ min (fine + 52) 1074 := Nat.mul_right_comm ..
      _ ≤ third * second * 2 ^ min (fine + 52) 1074 := Nat.mul_le_mul_right _ below
      _ = third * 2 ^ min (fine + 52) 1074 * second := Nat.mul_right_comm ..

/-- Rounding keeps the order of quotients that are at most one. -/
theorem position_ofQuotient_mono {first second third fourth : ℕ} (firstAtMost : first ≤ second)
    (thirdAtMost : third ≤ fourth) (fourthPos : 0 < fourth) (below : first * fourth ≤ third * second) :
    (ofQuotient first second).position ≤ (ofQuotient third fourth).position := by
  rw [position_ofQuotient, position_ofQuotient]
  exact Int.ofNat_le.mpr (quotientMagnitude_mono firstAtMost thirdAtMost fourthPos below)

end WordCompletion.Binary64

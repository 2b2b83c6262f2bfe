import Mathlib.Tactic.Linarith
import WordCompletion.Binary64.Basic

/-! # Rounded quotients stay in range

The leading exponent brackets a quotient between two powers of two, and rounding to a natural passes
no natural bound. Together they keep a quotient that is at most one at most one after rounding, on
every grid down to the smallest positive number. If the denominator is small enough to be a number
itself, no quotient but zero rounds to zero and none but one rounds to one.
-/

namespace WordCompletion.Binary64

/-- Rounding to a natural never passes a natural bound of the quotient. -/
theorem roundHalfEven_le {numerator denominator bound : ℕ} (positive : 0 < denominator)
    (within : numerator ≤ denominator * bound) : roundHalfEven numerator denominator ≤ bound := by
  have split := Nat.div_add_mod numerator denominator
  have quotient : numerator / denominator ≤ bound := Nat.div_le_of_le_mul within
  simp only [roundHalfEven]
  split_ifs with up
  · -- rounding up leaves a remainder, so the quotient itself lies below the bound
    have rest : 0 < numerator % denominator := by omega
    have below : numerator / denominator ≠ bound := by
      rintro rfl
      omega
    omega
  · exact quotient

/-- A scaled natural is below another when powers of two around them are, whatever the exponent's sign. -/
theorem scaleUp_lt_scaleUp {first second above below : ℕ} {exponent : ℤ} (upper : first < 2 ^ above)
    (lower : 2 ^ below ≤ second) (enough : above + exponent ≤ below) :
    scaleUp first exponent < scaleUp second (-exponent) := by
  calc
    first * 2 ^ exponent.toNat < 2 ^ above * 2 ^ exponent.toNat :=
      Nat.mul_lt_mul_of_pos_right upper (Nat.two_pow_pos _)
    _ = 2 ^ (above + exponent.toNat) := (Nat.pow_add ..).symm
    _ ≤ 2 ^ (below + (-exponent).toNat) := Nat.pow_le_pow_right Nat.two_pos (by omega)
    _ = 2 ^ below * 2 ^ (-exponent).toNat := Nat.pow_add ..
    _ ≤ second * 2 ^ (-exponent).toNat := Nat.mul_le_mul_right _ lower

/-- A quotient is at least two to its leading exponent. -/
theorem scaleUp_leadingExponent_le {numerator : ℕ} (denominator : ℕ) (nonzero : numerator ≠ 0) :
    scaleUp denominator (leadingExponent numerator denominator) ≤
      scaleUp numerator (-leadingExponent numerator denominator) := by
  simp only [leadingExponent]
  split_ifs with lowered
  · exact (scaleUp_lt_scaleUp Nat.lt_log2_self (Nat.log2_self_le nonzero) (by omega)).le
  · exact Nat.not_lt.mp lowered

/-- A quotient is below two to one more than its leading exponent. -/
theorem lt_scaleUp_leadingExponent (numerator : ℕ) {denominator : ℕ} (nonzero : denominator ≠ 0) :
    scaleUp numerator (-(leadingExponent numerator denominator + 1)) <
      scaleUp denominator (leadingExponent numerator denominator + 1) := by
  simp only [leadingExponent]
  split_ifs with lowered
  · simpa using lowered
  · have high : numerator < 2 ^ (numerator.log2 + 1) := Nat.lt_log2_self
    have enough : ((numerator.log2 + 1 : ℕ) : ℤ) + -((numerator.log2 : ℤ) - denominator.log2 + 1) ≤
        denominator.log2 := by omega
    simpa using scaleUp_lt_scaleUp high (Nat.log2_self_le nonzero) enough

/-- The leading exponent of a quotient that is at most one. -/
theorem leadingExponent_nonpos {numerator denominator : ℕ} (nonzero : numerator ≠ 0)
    (atMostOne : numerator ≤ denominator) : leadingExponent numerator denominator ≤ 0 := by
  by_contra positive
  have bracket := scaleUp_leadingExponent_le denominator nonzero
  have power : 2 ^ 1 ≤ 2 ^ (leadingExponent numerator denominator).toNat :=
    Nat.pow_le_pow_right Nat.two_pos (by omega)
  have unscaled : (-leadingExponent numerator denominator).toNat = 0 := by omega
  have doubled := Nat.mul_le_mul_left denominator power
  simp only [scaleUp, unscaled, Nat.pow_zero, Nat.mul_one, Nat.pow_eq] at bracket
  omega

/-- The only quotient with leading exponent zero that is at most one is one. -/
theorem eq_of_leadingExponent_eq_zero {numerator denominator : ℕ} (nonzero : numerator ≠ 0)
    (atMostOne : numerator ≤ denominator) (leading : leadingExponent numerator denominator = 0) :
    numerator = denominator := by
  have bracket := scaleUp_leadingExponent_le denominator nonzero
  rw [leading] at bracket
  simp only [scaleUp, Int.neg_zero, Int.toNat_zero, Nat.pow_eq, Nat.pow_zero, Nat.mul_one] at bracket
  omega

/-- A positive quotient whose steps lie `places` binary places behind the point. -/
theorem quotientMagnitude_eq {numerator denominator places : ℕ} (nonzero : numerator ≠ 0)
    (grid : max (leadingExponent numerator denominator - 52) leastExponent = -(places : ℤ)) :
    quotientMagnitude numerator denominator =
      min ((1074 - places) * binadeSize + roundHalfEven (numerator * 2 ^ places) denominator)
        infinityMagnitude := by
  have binade : (-(places : ℤ) - leastExponent).toNat = 1074 - places := by
    simp only [leastExponent]
    omega
  simp only [quotientMagnitude, if_neg nonzero, grid, binade, scaleUp, Int.neg_neg, Int.toNat_natCast,
    Int.toNat_neg_natCast, Nat.pow_eq, Nat.pow_zero, Nat.mul_one]

/-- The grid of a quotient that is at most one has its steps behind the point. -/
theorem exists_places {numerator denominator : ℕ} (nonzero : numerator ≠ 0) (atMostOne : numerator ≤ denominator) :
    ∃ places : ℕ, max (leadingExponent numerator denominator - 52) leastExponent = -(places : ℤ) ∧
      places ≤ 1074 := by
  have nonpos := leadingExponent_nonpos nonzero atMostOne
  refine ⟨(-max (leadingExponent numerator denominator - 52) leastExponent).toNat, ?_⟩
  simp only [leastExponent]
  omega

/-- A quotient below one stays there when it is doubled up to its leading exponent. -/
theorem exists_doublings {numerator denominator : ℕ} (nonzero : numerator ≠ 0) (below : numerator < denominator) :
    ∃ doublings : ℕ, leadingExponent numerator denominator = -(doublings : ℤ) - 1 ∧
      numerator * 2 ^ doublings < denominator := by
  have nonpos := leadingExponent_nonpos nonzero below.le
  have negative : leadingExponent numerator denominator ≠ 0 :=
    fun zero => below.ne (eq_of_leadingExponent_eq_zero nonzero below.le zero)
  have bracket := lt_scaleUp_leadingExponent numerator (Nat.ne_of_gt (Nat.zero_lt_of_lt below))
  refine ⟨(-(leadingExponent numerator denominator + 1)).toNat, by omega, ?_⟩
  have unscaled : (leadingExponent numerator denominator + 1).toNat = 0 := by omega
  simpa only [scaleUp, unscaled, Nat.pow_eq, Nat.pow_zero, Nat.mul_one] using bracket

/-- What is rounded for a quotient below one falls short of its bound by two to the 53 at least. -/
theorem mul_two_pow_add_le {numerator denominator places : ℕ} (nonzero : numerator ≠ 0)
    (below : numerator < denominator)
    (grid : max (leadingExponent numerator denominator - 52) leastExponent = -(places : ℤ)) :
    numerator * 2 ^ places + 2 ^ 53 ≤ denominator * ((places - 51) * binadeSize) := by
  obtain ⟨doublings, leading, bracket⟩ := exists_doublings nonzero below
  rw [leading, leastExponent] at grid
  have size : 2 ^ 52 = binadeSize := by decide
  -- the grid is at most 53 places finer than the leading exponent
  calc
    numerator * 2 ^ places + 2 ^ 53 ≤ numerator * 2 ^ (doublings + 53) + 2 ^ 53 :=
      Nat.add_le_add_right (Nat.mul_le_mul_left _ (Nat.pow_le_pow_right Nat.two_pos (by omega))) _
    _ = (numerator * 2 ^ doublings + 1) * 2 ^ 53 := by rw [Nat.pow_add, Nat.add_mul, Nat.mul_assoc, Nat.one_mul]
    _ ≤ denominator * 2 ^ 53 := Nat.mul_le_mul_right _ bracket
    _ = denominator * (2 * 2 ^ 52) := by rw [Nat.pow_succ']
    _ ≤ denominator * ((places - 51) * binadeSize) := by
      rw [← size]
      exact Nat.mul_le_mul_left _ (Nat.mul_le_mul_right _ (by omega))

/-- A quotient below one keeps a distance from one, the greater the smaller the denominator is. -/
theorem quotientMagnitude_add_le {numerator denominator distance : ℕ} (below : numerator < denominator)
    (small : denominator * distance ≤ 2 ^ 53) :
    quotientMagnitude numerator denominator + distance ≤ 1023 * binadeSize := by
  by_cases zero : numerator = 0
  · rw [quotientMagnitude, if_pos zero, Nat.zero_add]
    calc
      distance ≤ denominator * distance := Nat.le_mul_of_pos_left _ (Nat.zero_lt_of_lt below)
      _ ≤ 2 ^ 53 := small
      _ ≤ 1023 * binadeSize := by decide
  obtain ⟨places, grid, finest⟩ := exists_places zero below.le
  have room := mul_two_pow_add_le zero below grid
  have enough : numerator * 2 ^ places + denominator * distance ≤ denominator * ((places - 51) * binadeSize) :=
    (Nat.add_le_add_left small _).trans room
  have steps : roundHalfEven (numerator * 2 ^ places) denominator ≤ (places - 51) * binadeSize - distance := by
    apply roundHalfEven_le (Nat.zero_lt_of_lt below)
    rw [Nat.mul_sub]
    exact Nat.le_sub_of_add_le enough
  have within : distance ≤ (places - 51) * binadeSize :=
    Nat.le_of_mul_le_mul_left ((Nat.le_add_left ..).trans enough) (Nat.zero_lt_of_lt below)
  have behind : 51 ≤ places := by
    have nonpos := leadingExponent_nonpos zero below.le
    simp only [leastExponent] at grid
    omega
  calc
    quotientMagnitude numerator denominator + distance ≤
        (1074 - places) * binadeSize + roundHalfEven (numerator * 2 ^ places) denominator + distance := by
      rw [quotientMagnitude_eq zero grid]
      exact Nat.add_le_add_right (Nat.min_le_left ..) _
    _ ≤ (1074 - places) * binadeSize + ((places - 51) * binadeSize - distance) + distance :=
      Nat.add_le_add_right (Nat.add_le_add_left steps _) _
    _ = (1074 - places) * binadeSize + (places - 51) * binadeSize := by
      rw [Nat.add_assoc, Nat.sub_add_cancel within]
    _ = 1023 * binadeSize := by
      rw [← Nat.add_mul]
      congr 1
      omega

theorem quotientMagnitude_self {natural : ℕ} (positive : 0 < natural) :
    quotientMagnitude natural natural = 1023 * binadeSize := by
  have leading : leadingExponent natural natural = 0 := by simp [leadingExponent]
  have grid : max (leadingExponent natural natural - 52) leastExponent = -((52 : ℕ) : ℤ) := by
    rw [leading]
    rfl
  have whole : roundHalfEven (natural * 2 ^ 52) natural = 2 ^ 52 := by
    simp [roundHalfEven, Nat.mul_div_cancel_left _ positive]
  rw [quotientMagnitude_eq positive.ne' grid, whole]
  decide

/-- A quotient that is at most one rounds to at most one. -/
theorem quotientMagnitude_le_one {numerator denominator : ℕ} (positive : 0 < denominator)
    (atMostOne : numerator ≤ denominator) :
    quotientMagnitude numerator denominator ≤ 1023 * binadeSize := by
  rcases Nat.lt_or_eq_of_le atMostOne with below | rfl
  · have bound : quotientMagnitude numerator denominator + 0 ≤ 1023 * binadeSize :=
      quotientMagnitude_add_le below (by simp)
    exact bound
  · exact (quotientMagnitude_self positive).le

/-! ## Quotients of naturals that are exact -/

/-- Every natural up to this one is a number. -/
def exactNaturals : ℕ := 2 ^ 53

/-- A quotient of exact naturals below one stays below one. -/
theorem quotientMagnitude_lt_one {numerator denominator : ℕ} (exact : denominator ≤ exactNaturals)
    (below : numerator < denominator) : quotientMagnitude numerator denominator < 1023 * binadeSize :=
  quotientMagnitude_add_le below ((Nat.mul_one _).trans_le exact)

/-- A positive quotient of exact naturals below one does not vanish. -/
theorem quotientMagnitude_pos {numerator denominator : ℕ} (exact : denominator ≤ exactNaturals)
    (nonzero : numerator ≠ 0) (below : numerator < denominator) : 0 < quotientMagnitude numerator denominator := by
  obtain ⟨places, grid, _⟩ := exists_places nonzero below.le
  obtain ⟨doublings, leading, bracket⟩ := exists_doublings nonzero below
  have few : doublings < 53 := by
    apply (Nat.pow_lt_pow_iff_right Nat.one_lt_two).mp
    calc
      2 ^ doublings ≤ numerator * 2 ^ doublings := Nat.le_mul_of_pos_left _ (Nat.pos_of_ne_zero nonzero)
      _ < denominator := bracket
      _ ≤ 2 ^ 53 := exact
  rw [quotientMagnitude_eq nonzero grid]
  rw [leading, leastExponent] at grid
  have whole : 0 < (1074 - places) * binadeSize := Nat.mul_pos (by omega) (by decide)
  exact lt_min (Nat.add_pos_left whole _) (by decide)

theorem bits_ofMagnitude {magnitude : ℕ} (small : magnitude < magnitudeCount) :
    (ofMagnitude false magnitude).bits.toNat = magnitude := by
  simp only [ofMagnitude, Bool.false_eq_true, if_false, Nat.zero_add, UInt64.toNat_ofNat']
  exact Nat.mod_eq_of_lt (by simp only [magnitudeCount] at small; omega)

private theorem quotientMagnitude_lt (numerator denominator : ℕ) :
    quotientMagnitude numerator denominator < magnitudeCount :=
  Nat.lt_of_le_of_lt (quotientMagnitude_le ..) (by decide)

theorem position_ofQuotient (numerator denominator : ℕ) :
    (ofQuotient numerator denominator).position = quotientMagnitude numerator denominator :=
  position_ofMagnitude (quotientMagnitude_lt ..)

theorem isNaN_ofQuotient (numerator denominator : ℕ) : (ofQuotient numerator denominator).isNaN = false := by
  have small := quotientMagnitude_lt numerator denominator
  simp only [isNaN, Binary64.magnitude, ofQuotient, bits_ofMagnitude small, Nat.mod_eq_of_lt small,
    decide_eq_false_iff_not]
  exact Nat.not_lt.mpr (quotientMagnitude_le ..)

/-- Rounded quotients are equal as soon as their magnitudes are. -/
theorem ofQuotient_eq_iff {first second third fourth : ℕ} : ofQuotient first second = ofQuotient third fourth ↔
    quotientMagnitude first second = quotientMagnitude third fourth := by
  constructor
  · intro same
    have positions := congrArg position same
    simpa only [position_ofQuotient, Int.natCast_inj] using positions
  · intro same
    rw [ofQuotient, same, ← ofQuotient]

/-- A quotient of exact naturals rounds to zero only if it is zero. -/
theorem ofQuotient_eq_zero_iff {numerator denominator : ℕ} (exact : denominator ≤ exactNaturals)
    (positive : 0 < denominator) (atMostOne : numerator ≤ denominator) :
    ofQuotient numerator denominator = .zero ↔ numerator = 0 := by
  have zero : Binary64.zero = ofQuotient 0 1 := rfl
  rw [zero, ofQuotient_eq_iff]
  constructor
  · intro vanishes
    by_contra nonzero
    rcases Nat.lt_or_eq_of_le atMostOne with below | rfl
    · exact (quotientMagnitude_pos exact nonzero below).ne' vanishes
    · rw [quotientMagnitude_self positive] at vanishes
      exact absurd vanishes (by decide)
  · rintro rfl
    rw [quotientMagnitude, quotientMagnitude, if_pos rfl, if_pos rfl]

/-- A quotient of exact naturals rounds to one only if it is one. -/
theorem ofQuotient_eq_one_iff {numerator denominator : ℕ} (exact : denominator ≤ exactNaturals)
    (positive : 0 < denominator) (atMostOne : numerator ≤ denominator) :
    ofQuotient numerator denominator = .one ↔ numerator = denominator := by
  have one : Binary64.one = ofQuotient 1 1 := by decide
  rw [one, ofQuotient_eq_iff, quotientMagnitude_self Nat.one_pos]
  constructor
  · intro full
    by_contra different
    exact (quotientMagnitude_lt_one exact (Nat.lt_of_le_of_ne atMostOne different)).ne full
  · rintro rfl
    exact quotientMagnitude_self positive

/-- Numbers compare by their positions, unless one of them is a NaN. -/
theorem le_iff_position {first second : Binary64} (firstNumber : first.isNaN = false)
    (secondNumber : second.isNaN = false) :
    first.le second = true ↔ first.position ≤ second.position := by
  simp [le, firstNumber, secondNumber]

protected theorem le_trans {first second third : Binary64} (below : first.le second = true)
    (above : second.le third = true) : first.le third = true := by
  simp only [le, Bool.and_eq_true, Bool.not_eq_true', decide_eq_true_eq] at below above ⊢
  exact ⟨⟨below.1.1, above.1.2⟩, below.2.trans above.2⟩

end WordCompletion.Binary64

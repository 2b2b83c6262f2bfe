/-! # Binary floating-point numbers

A `Binary64` is a 64-bit floating-point number given by its bits: a sign and a magnitude of 63 bits
that grows with the number it stands for. Quotients and products round once, to the nearest number,
a tie going to the even one. The order of numbers is the order of their magnitudes with their signs,
so the two zeros are equal in it.
-/

namespace WordCompletion

/-- A 64-bit floating-point number. -/
structure Binary64 where
  bits : UInt64
deriving DecidableEq, Repr, Inhabited

namespace Binary64

/-- The number of magnitudes, which the sign bit counts as. -/
def magnitudeCount : Nat := 0x8000000000000000

/-- The number of magnitudes from one power of two to the next. -/
def binadeSize : Nat := 0x10000000000000

/-- The magnitude of infinity; those above it belong to no number. -/
def infinityMagnitude : Nat := 0x7FF0000000000000

/-- The number with a sign and a magnitude. -/
def ofMagnitude (negative : Bool) (magnitude : Nat) : Binary64 :=
  ⟨UInt64.ofNat ((if negative then magnitudeCount else 0) + magnitude)⟩

def isNegative (number : Binary64) : Bool := magnitudeCount ≤ number.bits.toNat

def magnitude (number : Binary64) : Nat := number.bits.toNat % magnitudeCount

def isNaN (number : Binary64) : Bool := infinityMagnitude < number.magnitude

def isFinite (number : Binary64) : Bool := number.magnitude < infinityMagnitude

def zero : Binary64 := ofMagnitude false 0

def one : Binary64 := ofMagnitude false 0x3FF0000000000000

def half : Binary64 := ofMagnitude false 0x3FE0000000000000

def infinity : Binary64 := ofMagnitude false infinityMagnitude

/-- The not-a-number value with a clear sign and only the leading fraction bit set. -/
def nan : Binary64 := ofMagnitude false 0x7FF8000000000000

/-- The number with the sign turned over. -/
def negate (number : Binary64) : Binary64 :=
  ofMagnitude (!number.isNegative) number.magnitude

/-- The position of a number on the line; both zeros are at zero. -/
def position (number : Binary64) : Int :=
  if number.isNegative then -(number.magnitude : Int) else number.magnitude

/-- The first number is at most the second, which holds of no pair with a NaN. -/
def le (first second : Binary64) : Bool :=
  !first.isNaN && !second.isNaN && first.position ≤ second.position

/-- The quotient of two naturals rounded to a natural, a tie going to the even one. -/
def roundHalfEven (numerator denominator : Nat) : Nat :=
  let quotient := numerator / denominator
  let twice := 2 * (numerator % denominator)
  if denominator < twice ∨ (twice = denominator ∧ quotient % 2 = 1) then quotient + 1 else quotient

/-- A natural times a power of two, when the exponent is not negative. -/
def scaleUp (natural : Nat) (exponent : Int) : Nat := natural * Nat.pow 2 exponent.toNat

/-- The exponent of the greatest power of two that is at most a positive quotient. -/
def leadingExponent (numerator denominator : Nat) : Int :=
  let estimate := (numerator.log2 : Int) - denominator.log2
  if scaleUp numerator (-estimate) < scaleUp denominator estimate then estimate - 1 else estimate

/-- The exponent of the smallest positive number. -/
def leastExponent : Int := -1074

/-- The magnitude nearest to a quotient with a positive denominator. -/
def quotientMagnitude (numerator denominator : Nat) : Nat :=
  if numerator = 0 then 0
  else
    let grid := max (leadingExponent numerator denominator - 52) leastExponent
    let steps := roundHalfEven (scaleUp numerator (-grid)) (scaleUp denominator grid)
    min ((grid - leastExponent).toNat * binadeSize + steps) infinityMagnitude

/-- The number nearest to a quotient with a positive denominator. -/
def ofQuotient (numerator denominator : Nat) : Binary64 :=
  ofMagnitude false (quotientMagnitude numerator denominator)

/-- The number nearest to a natural. -/
def ofNat (natural : Nat) : Binary64 := ofQuotient natural 1

/-- The number nearest to an integer. -/
def ofInt (integer : Int) : Binary64 :=
  ofMagnitude (integer < 0) (quotientMagnitude integer.natAbs 1)

/-- The significand of a finite magnitude, which stands for it times a power of two. -/
def significand (magnitude : Nat) : Nat :=
  if magnitude < binadeSize then magnitude else magnitude % binadeSize + binadeSize

/-- The exponent of that power of two. -/
def exponent (magnitude : Nat) : Int :=
  if magnitude < binadeSize then leastExponent
  else (magnitude / binadeSize : Nat) - 1 + leastExponent

/-- The product of two finite numbers that are not negative. -/
def mulPositive (first second : Binary64) : Binary64 :=
  let scale := exponent first.magnitude + exponent second.magnitude
  ofQuotient (scaleUp (significand first.magnitude * significand second.magnitude) scale)
    (scaleUp 1 (-scale))

/-- The quotient of two finite numbers, the first not negative and the second positive. -/
def divPositive (first second : Binary64) : Binary64 :=
  let scale := exponent first.magnitude - exponent second.magnitude
  ofQuotient (scaleUp (significand first.magnitude) scale)
    (scaleUp (significand second.magnitude) (-scale))

theorem position_ofMagnitude {magnitude : Nat} (small : magnitude < magnitudeCount) :
    (ofMagnitude false magnitude).position = magnitude := by
  have whole : (ofMagnitude false magnitude).bits.toNat = magnitude := by
    simp only [ofMagnitude, Bool.false_eq_true, if_false, Nat.zero_add, UInt64.toNat_ofNat']
    exact Nat.mod_eq_of_lt (by simp only [magnitudeCount] at small; omega)
  have positive : (ofMagnitude false magnitude).isNegative = false := by
    simp only [isNegative, whole, decide_eq_false_iff_not]
    exact Nat.not_le.mpr small
  simp only [position, positive, Bool.false_eq_true, if_false, Binary64.magnitude, whole]
  rw [Nat.mod_eq_of_lt small]

theorem quotientMagnitude_le (numerator denominator : Nat) :
    quotientMagnitude numerator denominator ≤ infinityMagnitude := by
  unfold quotientMagnitude
  split
  · simp [infinityMagnitude]
  · exact Nat.min_le_right ..

end Binary64

end WordCompletion

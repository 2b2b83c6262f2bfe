import WordCompletion.Binary64.Basic

/-! # Decimal notation of binary numbers

`ofDecimal` reads a decimal number as the nearest binary one. `shortest` finds the fewest decimal
digits that read back as a given number, and of those the nearest to it, a tie going up; `toText`
writes them without an exponent.
-/

namespace WordCompletion.Binary64

/-- A natural times a power of ten. -/
structure Decimal where
  digits : Nat
  exponent : Int
deriving DecidableEq, Repr

/-- A power of ten, when the exponent is not negative. -/
def tenPow (exponent : Int) : Nat := Nat.pow 10 exponent.toNat

/-- The decimal digits of a natural. -/
def decimalDigits (natural : Nat) : List Char := Nat.toDigits 10 natural

/-- The magnitude nearest to a decimal number; far out of range it is infinite or zero. -/
def decimalMagnitude (decimal : Decimal) : Nat :=
  if decimal.digits = 0 then 0
  else
    let order := decimal.exponent + (decimalDigits decimal.digits).length
    if 400 < order then infinityMagnitude
    else if order < -400 then 0
    else quotientMagnitude (decimal.digits * tenPow decimal.exponent)
      (tenPow (-decimal.exponent))

/-- The binary number nearest to a signed decimal one. -/
def ofDecimal (negative : Bool) (decimal : Decimal) : Binary64 :=
  ofMagnitude negative (decimalMagnitude decimal)

/-- The numbers that round to a finite magnitude lie between two bounds, given over a denominator
that they share with the number itself. -/
structure RoundingInterval where
  lower : Nat
  value : Nat
  upper : Nat
  denominator : Nat
  closed : Bool
deriving DecidableEq, Repr

/-- The interval of a finite magnitude: half a step to each side, a quarter step below a power of
two, and the ends belong to it when the significand is even. -/
def RoundingInterval.ofMagnitude (magnitude : Nat) : RoundingInterval :=
  let significand := significand magnitude
  let quarter := exponent magnitude - 2
  let below := if significand = binadeSize ∧ leastExponent < exponent magnitude then 1 else 2
  { lower := scaleUp (4 * significand - below) quarter
    value := scaleUp (4 * significand) quarter
    upper := scaleUp (4 * significand + 2) quarter
    denominator := scaleUp 1 (-quarter)
    closed := significand % 2 == 0 }

/-- A decimal number lies in the interval. -/
def RoundingInterval.holds (interval : RoundingInterval) (decimal : Decimal) : Bool :=
  let point := decimal.digits * tenPow decimal.exponent * interval.denominator
  let unit := tenPow (-decimal.exponent)
  if interval.closed then interval.lower * unit ≤ point && point ≤ interval.upper * unit
  else interval.lower * unit < point && point < interval.upper * unit

/-- The number of decimal digits before the point, or less the zeros after it: the least power of ten
above a positive quotient. -/
def decimalOrder (numerator denominator : Nat) : Int :=
  if denominator ≤ numerator then ((decimalDigits (numerator / denominator)).length : Int)
  else 1 - ((decimalDigits ((denominator - 1) / numerator)).length : Int)

/-- The member of the interval nearest to its value among the decimal numbers with the given
exponent, if one of the two neighbours of the value is a member. -/
def RoundingInterval.nearest? (interval : RoundingInterval) (exponent : Int) : Option Decimal :=
  let scaled := interval.value * tenPow (-exponent)
  let unit := interval.denominator * tenPow exponent
  let down : Decimal := ⟨scaled / unit, exponent⟩
  let up : Decimal := ⟨scaled / unit + 1, exponent⟩
  match interval.holds down, interval.holds up with
  | true, true => if 2 * (scaled % unit) < unit then some down else some up
  | true, false => some down
  | false, true => some up
  | false, false => none

/-- The fewest digits that read back as a positive finite magnitude; seventeen always do. -/
def shortest (magnitude : Nat) : Decimal :=
  let interval := RoundingInterval.ofMagnitude magnitude
  let order := decimalOrder interval.value interval.denominator
  ((List.range 17).findSome? fun (count : Nat) => interval.nearest? (order - 1 - count)).getD
    ⟨interval.value / interval.denominator, 0⟩

/-- Decimal digits without an exponent, and without zeros after the last place that counts. -/
def Decimal.toPositional (decimal : Decimal) : String :=
  let digits := decimalDigits decimal.digits
  if 0 ≤ decimal.exponent then
    String.ofList (digits ++ List.replicate decimal.exponent.toNat '0')
  else
    let places := (-decimal.exponent).toNat
    let padded := List.replicate (places + 1 - digits.length) '0' ++ digits
    let whole := padded.take (padded.length - places)
    let fraction := (padded.drop (padded.length - places)).reverse.dropWhile (· == '0') |>.reverse
    if fraction.isEmpty then String.ofList whole
    else String.ofList (whole ++ '.' :: fraction)

/-- A number in positional notation with the fewest digits that read back. -/
def toText (number : Binary64) : String :=
  if number.isNaN then "NaN"
  else
    let sign := if number.isNegative then "-" else ""
    if number.magnitude = infinityMagnitude then sign ++ "inf"
    else if number.magnitude = 0 then sign ++ "0"
    else sign ++ (shortest number.magnitude).toPositional

end WordCompletion.Binary64

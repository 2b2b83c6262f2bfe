import WordCompletion.Binary64.Decimal
import WordCompletion.Json.Basic

/-! # Numbers of JSON texts

An unsigned integer is written without sign, fraction and exponent and fits in 64 bits. A
floating-point number is computed in 64-bit arithmetic: the digits make an integer for as long as it
fits in 64 bits, and its nearest floating-point number is then scaled by one rounded power of ten
after the other. The result can differ from the nearest number in the last bit. A number too large
for a finite value has no value.
-/

namespace WordCompletion.Json

/-- The natural that decimal digits stand for. -/
def naturalOf (digits : List Char) : Nat :=
  digits.foldl (fun total digit => 10 * total + (digit.toNat - '0'.toNat)) 0

/-- Append digits to an integer for as long as it fits in 64 bits; the digits left over start with
the first that does not fit. -/
def absorb : Nat → List Char → Nat × List Char
  | total, [] => (total, [])
  | total, digit :: rest =>
    let next := 10 * total + (digit.toNat - '0'.toNat)
    if next < UInt64.size then absorb next rest else (total, digit :: rest)

/-- The largest power of ten that one step scales by. -/
def maxScaleStep : Nat := 308

/-- Divide by powers of ten until the exponent is within one step of zero, or the number is zero. -/
def scaleDown (number : Binary64) (exponent : Int) : Binary64 :=
  if exponent < -(maxScaleStep : Int) then
    if number.magnitude = 0 then number
    else scaleDown (number.divPositive (.ofNat (Binary64.tenPow maxScaleStep))) (exponent + maxScaleStep)
  else number.divPositive (.ofNat (Binary64.tenPow (-exponent)))
termination_by (-exponent).toNat
decreasing_by simp only [maxScaleStep] at *; omega

/-- An integer scaled by a power of ten, if the result is finite. -/
def scale? (integer : Nat) (exponent : Int) : Option Binary64 :=
  let number := Binary64.ofNat integer
  if exponent < 0 then some (scaleDown number exponent)
  else if (maxScaleStep : Int) < exponent then
    if integer = 0 then some number else none
  else
    let scaled := number.mulPositive (.ofNat (Binary64.tenPow exponent))
    if scaled.isFinite then some scaled else none

namespace NumberText

/-- The integer that the digits make, and the exponent of ten that goes with it. -/
def significand (text : NumberText) : Nat × Int :=
  let (whole, dropped) := absorb 0 text.whole
  let (total, left) := absorb whole text.fraction
  (total, (dropped.length : Int) - ((text.fraction.length : Int) - left.length))

/-- The size of a number without its sign; an exponent beyond 31 bits is as good as infinite. -/
def size? (text : NumberText) : Option Binary64 :=
  let (total, shift) := text.significand
  match text.exponent with
  | none => scale? total shift
  | some (negative, digits) =>
    let exponent := naturalOf digits
    if exponent < 0x80000000 then scale? total (if negative then shift - exponent else shift + exponent)
    else if total = 0 ∨ negative then some .zero
    else none

/-- The floating-point number, if it is finite. -/
def float? (text : NumberText) : Option Binary64 :=
  text.size?.map fun size => if text.negative then size.negate else size

/-- The number as an unsigned integer of 64 bits. -/
def unsigned? (text : NumberText) : Option UInt64 :=
  if text.negative ∨ ¬ text.fraction.isEmpty ∨ text.exponent.isSome then none
  else
    let natural := naturalOf text.whole
    if natural < UInt64.size then some (.ofNat natural) else none

end NumberText

/-- The unsigned integer of a number value. -/
def unsigned? : Json → Option UInt64
  | .number text => text.unsigned?
  | _ => none

/-- The floating-point number of a number value. -/
def float? : Json → Option Binary64
  | .number text => text.float?
  | _ => none

mutual

/-- Every string and key in the value spells a text, and every number in it is finite. -/
def isMeaningful : Json → Bool
  | .number text => text.float?.isSome
  | .string units => (textOf? units).isSome
  | .array items => areMeaningful items
  | .object members => membersMeaningful members
  | _ => true

/-- All items are meaningful. -/
def areMeaningful : List Json → Bool
  | [] => true
  | item :: rest => isMeaningful item && areMeaningful rest

/-- All keys and values of the members are meaningful. -/
def membersMeaningful : List (List StringUnit × Json) → Bool
  | [] => true
  | (key, value) :: rest => (textOf? key).isSome && isMeaningful value && membersMeaningful rest

end

end WordCompletion.Json

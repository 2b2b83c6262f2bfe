import WordCompletion.Binary64.Decimal
import WordCompletion.Json.Number
import WordCompletion.Json.Reader
import WordCompletion.Toml.Basic

/-! # TOML scalars

A scalar without quotes is a run of letters, digits and the signs that numbers and dates are written
with. The whole run must be a truth value, an integer of 64 bits, a floating-point number or a date
or time. Digits may be grouped by single underscores between them, and only a lone zero starts a
decimal number with zero. A positive number too large for a finite value is refused, a negative one
is not.
-/

namespace WordCompletion.Toml

/-- A character of a scalar without quotes. -/
def isScalarChar (char : Char) : Bool :=
  char.isAlphanum || char == '_' || char == '+' || char == '-' || char == '.' || char == ':'

/-- Digits without the underscores that group them; an underscore stands between two digits. -/
def ungroup? (isDigit : Char → Bool) : List Char → Option (List Char)
  | [] => none
  | [digit] => if isDigit digit then some [digit] else none
  | digit :: '_' :: rest =>
    if isDigit digit then (ungroup? isDigit rest).map (digit :: ·) else none
  | digit :: rest =>
    if isDigit digit then (ungroup? isDigit rest).map (digit :: ·) else none

/-- The sign in front of a number, and the rest. -/
def splitSign : List Char → Bool × List Char
  | '-' :: rest => (true, rest)
  | '+' :: rest => (false, rest)
  | chars => (false, chars)

/-- The digits of the whole part of a decimal number. -/
def wholeDigits? (chars : List Char) : Option (List Char) := do
  let digits ← ungroup? Char.isDigit chars
  if digits.head? = some '0' ∧ 1 < digits.length then none else some digits

/-- An integer within 64 bits. -/
def signed? (negative : Bool) (size : Nat) : Option Int64 :=
  let number : Int := if negative then -size else size
  if Int64.minValue.toInt ≤ number ∧ number ≤ Int64.maxValue.toInt then some (Int64.ofInt number)
  else none

/-- The natural that digits to a base stand for. -/
def naturalInBase (base : Nat) (digits : List Char) : Nat :=
  digits.foldl (fun total digit => base * total + (Json.hexDigit? digit).getD 0) 0

/-- A digit to a base of at most sixteen. -/
def isBaseDigit (base : Nat) (char : Char) : Bool :=
  (Json.hexDigit? char).any (· < base)

/-- An integer: signed decimal, or without sign in one of three other bases. -/
def integer? (token : List Char) : Option Int64 :=
  let inBase := fun (base : Nat) (chars : List Char) => do
    signed? false (naturalInBase base (← ungroup? (isBaseDigit base) chars))
  match token with
  | '0' :: 'x' :: rest => inBase 16 rest
  | '0' :: 'o' :: rest => inBase 8 rest
  | '0' :: 'b' :: rest => inBase 2 rest
  | _ => do
    let (negative, chars) := splitSign token
    signed? negative (Json.naturalOf (← wholeDigits? chars))

/-- The exponent of ten after its letter. -/
def exponent? (chars : List Char) : Option Int := do
  let (negative, rest) := splitSign chars
  let size : Int := Json.naturalOf (← ungroup? Char.isDigit rest)
  return if negative then -size else size

/-- A decimal number from the parts around its point and its exponent letter. -/
def decimalFloat? (negative : Bool) (whole : List Char) (fraction exponent : Option (List Char)) :
    Option Binary64 := do
  let whole ← wholeDigits? whole
  let fraction ← match fraction with
    | some chars => ungroup? Char.isDigit chars
    | none => some []
  let exponent ← match exponent with
    | some chars => exponent? chars
    | none => some 0
  let number := Binary64.ofDecimal negative
    ⟨Json.naturalOf (whole ++ fraction), exponent - fraction.length⟩
  if number = .infinity then none else some number

/-- A floating-point number: a name, or a decimal number with a fraction or an exponent. -/
def float? (token : List Char) : Option Binary64 :=
  let (negative, chars) := splitSign token
  if chars = ['i', 'n', 'f'] then
    some (.ofMagnitude negative Binary64.infinityMagnitude)
  else if chars = ['n', 'a', 'n'] then
    some (.ofMagnitude negative Binary64.nan.magnitude)
  else
    let (mantissa, after) := chars.span fun char => char != 'e' && char != 'E'
    let (whole, point) := mantissa.span (· != '.')
    if after.isEmpty && point.isEmpty then none
    else decimalFloat? negative whole (point.tail? ) (after.tail?)

/-- Two digits as a number between bounds. -/
def twoDigits? (least most : Nat) (tens units : Char) : Option Nat :=
  let number := Json.naturalOf [tens, units]
  if tens.isDigit && units.isDigit && least ≤ number && number ≤ most then some number else none

/-- The number of days of a month. -/
def daysIn (year month : Nat) : Nat :=
  if month = 2 then
    if year % 4 = 0 ∧ (year % 100 ≠ 0 ∨ year % 400 = 0) then 29 else 28
  else if month = 4 ∨ month = 6 ∨ month = 9 ∨ month = 11 then 30
  else 31

/-- The rest of a token after a date. -/
def afterDate? : List Char → Option (List Char)
  | y1 :: y2 :: y3 :: y4 :: '-' :: m1 :: m2 :: '-' :: d1 :: d2 :: rest => do
    if [y1, y2, y3, y4].all Char.isDigit then
      let month ← twoDigits? 1 12 m1 m2
      let _ ← twoDigits? 1 (daysIn (Json.naturalOf [y1, y2, y3, y4]) month) d1 d2
      return rest
    else none
  | _ => none

/-- The rest of a token after a time of day. -/
def afterTime? : List Char → Option (List Char)
  | h1 :: h2 :: ':' :: m1 :: m2 :: ':' :: s1 :: s2 :: rest => do
    let _ ← twoDigits? 0 23 h1 h2
    let _ ← twoDigits? 0 59 m1 m2
    let _ ← twoDigits? 0 60 s1 s2
    match rest with
    | '.' :: digit :: more => if digit.isDigit then some (more.dropWhile Char.isDigit) else none
    | _ => some rest
  | _ => none

/-- An offset from universal time. -/
def isOffset : List Char → Bool
  | ['Z'] => true
  | ['z'] => true
  | [sign, h1, h2, ':', m1, m2] =>
    (sign == '+' || sign == '-') && (twoDigits? 0 23 h1 h2).isSome && (twoDigits? 0 59 m1 m2).isSome
  | _ => false

/-- A date, a time of day, or both with or without an offset. -/
def isMoment (token : List Char) : Bool :=
  match afterDate? token with
  | some [] => true
  | some (mark :: time) =>
    (mark == 'T' || mark == 't' || mark == ' ') &&
      (afterTime? time).any fun rest => rest.isEmpty || isOffset rest
  | none => (afterTime? token).any (·.isEmpty)

/-- The value of a scalar without quotes. -/
def scalar? (token : List Char) : Option Toml :=
  if token = ['t', 'r', 'u', 'e'] then some (.bool true)
  else if token = ['f', 'a', 'l', 's', 'e'] then some (.bool false)
  else if isMoment token then some .moment
  else
    match integer? token with
    | some value => some (.integer value)
    | none => (float? token).map .float

/-- A scalar without quotes, and what follows it. A space between a date and a time belongs to it. -/
def readScalar (chars : List Char) : Option (Toml × List Char) :=
  let (token, rest) := chars.span isScalarChar
  match afterDate? token, rest with
  | some [], ' ' :: digit :: more =>
    if digit.isDigit then
      let (time, after) := (digit :: more).span isScalarChar
      (scalar? (token ++ ' ' :: time)).map fun value => (value, after)
    else (scalar? token).map fun value => (value, rest)
  | _, _ => (scalar? token).map fun value => (value, rest)

end WordCompletion.Toml

import WordCompletion.Json.Basic

/-! # Reading JSON texts

`parse?` reads one value that fills the text up to white space around it. The grammar is strict: no
trailing comma, no leading zero, no control character in a string. The readers of nested values carry
fuel, which one more than the length of the text always suffices for.
-/

namespace WordCompletion.Json

/-- White space between tokens. -/
def isSpace (char : Char) : Bool :=
  char == ' ' || char == '\t' || char == '\n' || char == '\r'

/-- The characters after leading white space. -/
def skipSpace (chars : List Char) : List Char := chars.dropWhile isSpace

/-- The value of a hexadecimal digit. -/
def hexDigit? (char : Char) : Option Nat :=
  if '0' ≤ char ∧ char ≤ '9' then some (char.toNat - '0'.toNat)
  else if 'a' ≤ char ∧ char ≤ 'f' then some (char.toNat - 'a'.toNat + 10)
  else if 'A' ≤ char ∧ char ≤ 'F' then some (char.toNat - 'A'.toNat + 10)
  else none

/-- The number of four hexadecimal digits. -/
def hexNumber? (first second third fourth : Char) : Option Nat := do
  let first ← hexDigit? first
  let second ← hexDigit? second
  let third ← hexDigit? third
  let fourth ← hexDigit? fourth
  return ((first * 16 + second) * 16 + third) * 16 + fourth

/-- The character that a letter after a backslash stands for. -/
def shortEscape? (char : Char) : Option Char :=
  match char with
  | '"' => some '"'
  | '\\' => some '\\'
  | '/' => some '/'
  | 'b' => some '\x08'
  | 't' => some '\t'
  | 'n' => some '\n'
  | 'f' => some '\x0C'
  | 'r' => some '\r'
  | _ => none

/-- The units of a string up to its closing quote, and what follows the quote. -/
def readString : List Char → Option (List StringUnit × List Char)
  | [] => none
  | '"' :: rest => some ([], rest)
  | '\\' :: 'u' :: first :: second :: third :: fourth :: rest => do
    let number ← hexNumber? first second third fourth
    let (units, after) ← readString rest
    return (.code number :: units, after)
  | '\\' :: letter :: rest => do
    let char ← shortEscape? letter
    let (units, after) ← readString rest
    return (.char char :: units, after)
  | char :: rest =>
    if char.toNat < 0x20 ∨ char = '\\' then none
    else do
      let (units, after) ← readString rest
      return (.char char :: units, after)

/-- A non-empty run of digits, and what follows it. -/
def readDigits (chars : List Char) : Option (List Char × List Char) :=
  let (digits, rest) := chars.span Char.isDigit
  if digits.isEmpty then none else some (digits, rest)

/-- The fraction of a number, empty if there is no point. -/
def readFraction : List Char → Option (List Char × List Char)
  | '.' :: rest => readDigits rest
  | chars => some ([], chars)

/-- The digits of an exponent after its letter, with its sign. -/
def readSignedDigits : List Char → Option ((Bool × List Char) × List Char)
  | '-' :: rest => (readDigits rest).map fun (digits, after) => ((true, digits), after)
  | '+' :: rest => (readDigits rest).map fun (digits, after) => ((false, digits), after)
  | chars => (readDigits chars).map fun (digits, after) => ((false, digits), after)

/-- The exponent of a number, if there is one. -/
def readExponent (chars : List Char) : Option (Option (Bool × List Char) × List Char) :=
  match chars with
  | 'e' :: rest => (readSignedDigits rest).map fun (exponent, after) => (some exponent, after)
  | 'E' :: rest => (readSignedDigits rest).map fun (exponent, after) => (some exponent, after)
  | _ => some (none, chars)

/-- A number without its sign; a zero at its front stands alone. -/
def readUnsigned (negative : Bool) (chars : List Char) : Option (NumberText × List Char) := do
  let (whole, afterWhole) ← readDigits chars
  if whole.head? = some '0' ∧ 1 < whole.length then none
  else
    let (fraction, afterFraction) ← readFraction afterWhole
    let (exponent, after) ← readExponent afterFraction
    return (⟨negative, whole, fraction, exponent⟩, after)

/-- A number, and what follows it. -/
def readNumber : List Char → Option (NumberText × List Char)
  | '-' :: rest => readUnsigned true rest
  | chars => readUnsigned false chars

mutual

/-- A value after leading white space, and what follows it. -/
def readValue : Nat → List Char → Option (Json × List Char)
  | 0, _ => none
  | fuel + 1, chars =>
    match skipSpace chars with
    | '{' :: rest =>
      match skipSpace rest with
      | '}' :: after => some (.object [], after)
      | inside => (readMembers fuel inside).map fun (members, after) => (.object members, after)
    | '[' :: rest =>
      match skipSpace rest with
      | ']' :: after => some (.array [], after)
      | inside => (readItems fuel inside).map fun (items, after) => (.array items, after)
    | '"' :: rest => (readString rest).map fun (units, after) => (.string units, after)
    | 'n' :: 'u' :: 'l' :: 'l' :: after => some (.null, after)
    | 't' :: 'r' :: 'u' :: 'e' :: after => some (.bool true, after)
    | 'f' :: 'a' :: 'l' :: 's' :: 'e' :: after => some (.bool false, after)
    | chars => (readNumber chars).map fun (text, after) => (.number text, after)

/-- The items of an array up to its closing bracket. -/
def readItems : Nat → List Char → Option (List Json × List Char)
  | 0, _ => none
  | fuel + 1, chars => do
    let (item, afterItem) ← readValue fuel chars
    match skipSpace afterItem with
    | ',' :: rest =>
      let (items, after) ← readItems fuel rest
      return (item :: items, after)
    | ']' :: after => return ([item], after)
    | _ => none

/-- The members of an object up to its closing brace. -/
def readMembers : Nat → List Char → Option (List (List StringUnit × Json) × List Char)
  | 0, _ => none
  | fuel + 1, chars =>
    match skipSpace chars with
    | '"' :: rest => do
      let (key, afterKey) ← readString rest
      match skipSpace afterKey with
      | ':' :: rest =>
        let (value, afterValue) ← readValue fuel rest
        match skipSpace afterValue with
        | ',' :: rest =>
          let (members, after) ← readMembers fuel rest
          return ((key, value) :: members, after)
        | '}' :: after => return ([(key, value)], after)
        | _ => none
      | _ => none
    | _ => none

end

/-- The value that a text writes, if it writes exactly one. -/
def parse? (text : String) : Option Json :=
  match readValue (text.toList.length + 1) text.toList with
  | some (value, after) => if (skipSpace after).isEmpty then some value else none
  | none => none

end WordCompletion.Json

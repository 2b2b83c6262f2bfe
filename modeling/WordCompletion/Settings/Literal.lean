import WordCompletion.Binary64.Decimal
import WordCompletion.Json.Number
import WordCompletion.Settings.Basic
import WordCompletion.Settings.Literal.Quoted
import WordCompletion.Text.Blank
import WordCompletion.Toml.Scalar

/-! # Settings written as text

A variable of the environment gives a setting as text: a truth value, a string between double quotes,
one character between single quotes, a list in brackets, a table in braces, or else a word that runs up
to the next comma, bracket or brace. A word that is a number gives the number, and any other word is a
string. Text that is none of these as a whole is a string as it stands, but a string in it that would be
cut inside a character leaves no setting.
-/

namespace WordCompletion.Literal

/-- A blank between the parts of a literal. -/
def isSpace (char : Char) : Bool :=
  char == ' ' || char == '\t' || char == '\n' || char == '\x0C' || char == '\r'

/-- The characters after blanks. -/
def skipSpace (chars : List Char) : List Char := chars.dropWhile isSpace

/-- A character of a word. -/
def isWordChar (char : Char) : Bool :=
  char != ',' && char != '\x7b' && char != '\x7d' && char != '[' && char != ']'

/-- The natural that a text of digits stands for. -/
def natural? (chars : List Char) : Option Nat :=
  if !chars.isEmpty && chars.all Char.isDigit then some (Json.naturalOf chars) else none

/-- Digits with an optional plus sign that stand for a number of 64 bits without sign. -/
def unsigned? (word : List Char) : Option UInt64 := do
  let size ← natural? (match word with
    | '+' :: rest => rest
    | chars => chars)
  if size < UInt64.size then some (UInt64.ofNat size) else none

/-- Digits with an optional sign that stand for a signed number of 64 bits. -/
def signed? (word : List Char) : Option Int64 := do
  let (negative, digits) := Toml.splitSign word
  Toml.signed? negative (← natural? digits)

/-- A decimal number: a sign, digits, a point, digits and an exponent, of which one digit on either
side of the point suffices. -/
def float? (word : List Char) : Option Binary64 := do
  let (negative, chars) := Toml.splitSign word
  let (mantissa, after) := chars.span fun char => char != 'e' && char != 'E'
  let (whole, point) := mantissa.span (· != '.')
  let fraction := point.drop 1
  let digits ← natural? (whole ++ fraction)
  let exponent ← match after with
    | [] => some 0
    | _ :: rest => do
      let (inverse, digits) := Toml.splitSign rest
      let size : Int ← (natural? digits).map Int.ofNat
      some (if inverse then -size else size)
  return Binary64.ofDecimal negative ⟨digits, exponent - fraction.length⟩

/-- The setting that a word gives. -/
def scalarOf (word : List Char) : Scalar :=
  match (if word.contains '.' then float? word else none) with
  | some number => .float number
  | none =>
    match unsigned? word with
    | some number => .unsigned number
    | none =>
      match signed? word with
      | some number => .signed number
      | none => .text (String.ofList word)

/-- A scalar without quotes, and what follows it. A truth value is one whatever follows. -/
def readScalar : List Char → Scalar × List Char
  | 't' :: 'r' :: 'u' :: 'e' :: rest => (.flag true, rest)
  | 'f' :: 'a' :: 'l' :: 's' :: 'e' :: rest => (.flag false, rest)
  | chars =>
    let (word, after) := chars.span isWordChar
    (scalarOf (Text.trimBlank word), after)

/-- The key of an entry of a table, and what follows it. -/
def readKey (chars : List Char) : Except Fault (String × List Char) := do
  let (key, after) ← match skipSpace chars with
    | '"' :: rest => readQuoted rest
    | chars =>
      let (key, after) := chars.span Toml.isKeyChar
      if key.isEmpty then .error .malformed else .ok (String.ofList key, after)
  return (key, skipSpace after)

mutual

/-- A literal with the blanks around it, and what follows. The fuel bounds the number of parts. -/
def read : Nat → List Char → Except Fault (Setting × List Char)
  | 0, _ => .error .malformed
  | fuel + 1, chars => do
    let (setting, after) ← match skipSpace chars with
      | '"' :: rest => do
        let (found, after) ← readQuoted rest
        .ok (.scalar .environment (.text found), after)
      | '\x27' :: char :: '\x27' :: after =>
        .ok (.scalar .environment (.text (String.ofList [char])), after)
      | '\x27' :: _ => .error .malformed
      | '[' :: rest => do
        let (items, after) ← readItems fuel rest
        .ok (.list .environment items, after)
      | '\x7b' :: rest => do
        let (entries, after) ← readEntries fuel [] rest
        .ok (.table .environment entries, after)
      | chars =>
        let (value, after) := readScalar chars
        .ok (.scalar .environment value, after)
    return (setting, skipSpace after)

/-- The items of a list up to its bracket. A comma may end them. -/
def readItems : Nat → List Char → Except Fault (List Setting × List Char)
  | 0, _ => .error .malformed
  | fuel + 1, chars =>
    match chars with
    | ']' :: after => .ok ([], after)
    | _ => do
      let (item, after) ← read fuel chars
      match after with
      | ']' :: after => return ([item], after)
      | ',' :: rest =>
        let (items, after) ← readItems fuel rest
        return (item :: items, after)
      | _ => .error .malformed

/-- The entries of a table up to its brace, put into those before. A comma may end them, and the last
entry with a key counts. -/
def readEntries : Nat → Layer → List Char → Except Fault (Layer × List Char)
  | 0, _, _ => .error .malformed
  | fuel + 1, before, chars =>
    match chars with
    | '\x7d' :: after => .ok (before, after)
    | _ => do
      let (key, afterKey) ← readKey chars
      match afterKey with
      | '=' :: rest =>
        let (value, after) ← read fuel rest
        let entries := before.put key value
        match after with
        | '\x7d' :: after => return (entries, after)
        | ',' :: rest => readEntries fuel entries rest
        | _ => .error .malformed
      | _ => .error .malformed

end

/-- The setting that a text gives; none when a string in it would be cut inside a character. -/
def parse? (text : String) : Option Setting :=
  let chars := text.toList
  match read (2 * chars.length + 2) chars with
  | .ok (setting, []) => some setting
  | .error .splitCharacter => none
  | _ => some (.scalar .environment (.text text))

end WordCompletion.Literal

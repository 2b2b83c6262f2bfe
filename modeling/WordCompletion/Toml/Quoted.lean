import WordCompletion.Json.Reader

/-! # TOML strings and keys

A string stands between double quotes, with escapes, or between single quotes, without; three of
either make a string that may run over several lines. A key is bare or a one-line string. Line ends
read as line feeds, and other control characters than the tab are refused.
-/

namespace WordCompletion.Toml

/-- A blank within a line. -/
def isBlankChar (char : Char) : Bool := char == ' ' || char == '\t'

/-- The characters after blanks. -/
def skipBlanks (chars : List Char) : List Char := chars.dropWhile isBlankChar

/-- The characters after a line end, if there is one. -/
def lineEnd? : List Char → Option (List Char)
  | '\n' :: rest => some rest
  | '\r' :: '\n' :: rest => some rest
  | _ => none

/-- A character that may stand as it is in comments and strings. -/
def isPlain (char : Char) : Bool :=
  char == '\t' || (0x20 ≤ char.toNat && char.toNat != 0x7F)

/-- The character with a code point, which is not a surrogate. -/
def scalarValue? (code : Nat) : Option Char :=
  if code < 0xD800 ∨ (0xE000 ≤ code ∧ code < 0x110000) then some (Char.ofNat code) else none

/-- The character that an escape stands for, and what follows it. -/
def readEscape : List Char → Option (Char × List Char)
  | 'b' :: rest => some ('\x08', rest)
  | 't' :: rest => some ('\t', rest)
  | 'n' :: rest => some ('\n', rest)
  | 'f' :: rest => some ('\x0C', rest)
  | 'r' :: rest => some ('\r', rest)
  | '"' :: rest => some ('"', rest)
  | '\\' :: rest => some ('\\', rest)
  | 'u' :: a :: b :: c :: d :: rest => do
    let char ← scalarValue? (← Json.hexNumber? a b c d)
    return (char, rest)
  | 'U' :: a :: b :: c :: d :: e :: f :: g :: h :: rest => do
    let high ← Json.hexNumber? a b c d
    let low ← Json.hexNumber? e f g h
    let char ← scalarValue? (high * 0x10000 + low)
    return (char, rest)
  | _ => none

/-- The text of a one-line string up to its double quote. The fuel bounds its length. -/
def readBasic : Nat → List Char → Option (List Char × List Char)
  | 0, _ => none
  | fuel + 1, chars =>
    match chars with
    | '"' :: rest => some ([], rest)
    | '\\' :: rest => do
      let (char, after) ← readEscape rest
      let (found, rest) ← readBasic fuel after
      return (char :: found, rest)
    | char :: rest =>
      if isPlain char then (readBasic fuel rest).map fun (found, after) => (char :: found, after)
      else none
    | [] => none

/-- The text of a one-line string up to its single quote. -/
def readLiteral (chars : List Char) : Option (List Char × List Char) :=
  match chars.span (· != '\x27') with
  | (found, _ :: rest) => if found.all isPlain then some (found, rest) else none
  | (_, []) => none

/-- The characters after the blanks and line ends that follow a backslash at the end of a line. -/
def skipJoined : List Char → List Char
  | '\r' :: '\n' :: rest => skipJoined rest
  | char :: rest => if isBlankChar char || char == '\n' then skipJoined rest else char :: rest
  | [] => []

/-- The text of a string over several lines up to three of its quotes, of which up to two more may
stand before the end. The fuel bounds its length. -/
def readLong (mark : Char) (escapes : Bool) : Nat → List Char → Option (List Char × List Char)
  | 0, _ => none
  | fuel + 1, chars =>
    match chars with
    | [] => none
    | char :: rest =>
      if char = mark then
        let (quotes, after) := chars.span (· == mark)
        if quotes.length < 3 then
          (readLong mark escapes fuel after).map fun (found, after) => (quotes ++ found, after)
        else if quotes.length < 6 then some (quotes.drop 3, after)
        else none
      else if escapes && char == '\\' then
        match lineEnd? (skipBlanks rest) with
        | some after => readLong mark escapes fuel (skipJoined after)
        | none => do
          let (char, after) ← readEscape rest
          let (found, rest) ← readLong mark escapes fuel after
          return (char :: found, rest)
      else
        match lineEnd? chars with
        | some after => (readLong mark escapes fuel after).map fun (found, rest) => ('\n' :: found, rest)
        | none =>
          if isPlain char then
            (readLong mark escapes fuel rest).map fun (found, after) => (char :: found, after)
          else none

/-- A string of any kind, and what follows it. -/
def readText (chars : List Char) : Option (List Char × List Char) :=
  let fuel := chars.length
  match chars with
  | '"' :: '"' :: '"' :: rest => readLong '"' true fuel ((lineEnd? rest).getD rest)
  | '\x27' :: '\x27' :: '\x27' :: rest => readLong '\x27' false fuel ((lineEnd? rest).getD rest)
  | '"' :: rest => readBasic fuel rest
  | '\x27' :: rest => readLiteral rest
  | _ => none

/-- A character of a bare key. -/
def isKeyChar (char : Char) : Bool :=
  char.isAlphanum || char == '_' || char == '-'

/-- A key without dots, and what follows it. -/
def readSimpleKey (chars : List Char) : Option (String × List Char) :=
  match chars with
  | '"' :: rest => (readBasic chars.length rest).map fun (found, after) => (String.ofList found, after)
  | '\x27' :: rest => (readLiteral rest).map fun (found, after) => (String.ofList found, after)
  | _ =>
    let (key, after) := chars.span isKeyChar
    if key.isEmpty then none else some (String.ofList key, after)

/-- A dotted key with blanks around its parts, and what follows it. The fuel bounds its length. -/
def readKey : Nat → List Char → Option (List String × List Char)
  | 0, _ => none
  | fuel + 1, chars => do
    let (key, after) ← readSimpleKey (skipBlanks chars)
    match skipBlanks after with
    | '.' :: rest =>
      let (keys, after) ← readKey fuel rest
      return (key :: keys, after)
    | after => return ([key], after)

end WordCompletion.Toml

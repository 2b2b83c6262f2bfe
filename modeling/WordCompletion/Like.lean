/-! # LIKE patterns

A pattern matches a text with `%` for any run of characters, `_` for any one character, and `!`
before a character that stands for itself. Both pattern and text end at their first NUL, ASCII
letters match in either case, and the two noncharacters at the end of the basic plane read as the
replacement character. A pattern of more than 50000 bytes cannot be evaluated at all.
`Pattern.startingWith` builds the pattern of the texts that begin like a word.
-/

namespace WordCompletion.Like

/-- One piece of a pattern. -/
inductive Piece where
  | anyRun
  | anyChar
  | literal (char : Char)
deriving DecidableEq, Repr

/-- The character that takes the special meaning from the one after it. -/
def escapeChar : Char := '!'

/-- The characters before the first NUL. -/
def beforeNul (chars : List Char) : List Char :=
  chars.takeWhile (· != '\x00')

/-- The pieces of a pattern, unless it ends in a lone escape character. -/
def pieces? : List Char → Option (List Piece)
  | [] => some []
  | '%' :: rest => (pieces? rest).map (.anyRun :: ·)
  | '_' :: rest => (pieces? rest).map (.anyChar :: ·)
  | '!' :: char :: rest => (pieces? rest).map (.literal char :: ·)
  | ['!'] => none
  | char :: rest => (pieces? rest).map (.literal char :: ·)

/-- A character as LIKE compares it. -/
def fold (char : Char) : Char :=
  if char.toNat = 0xFFFE ∨ char.toNat = 0xFFFF then Char.ofNat 0xFFFD else char.toLower

/-- The test holds of the text or of what is left of it after dropping leading characters. -/
def anySuffix (test : List Char → Bool) : List Char → Bool
  | [] => test []
  | char :: rest => test (char :: rest) || anySuffix test rest

/-- The whole text is an instance of the pieces. -/
def matchPieces : List Piece → List Char → Bool
  | [], text => text.isEmpty
  | .anyRun :: pieces, text => anySuffix (matchPieces pieces) text
  | .anyChar :: pieces, text =>
    match text with
    | [] => false
    | _ :: rest => matchPieces pieces rest
  | .literal char :: pieces, text =>
    match text with
    | [] => false
    | first :: rest => fold char == fold first && matchPieces pieces rest

/-- A pattern, with its length in bytes and, if it is well formed, its pieces. -/
structure Pattern where
  byteSize : Nat
  pieces : Option (List Piece)
deriving DecidableEq, Repr

/-- The most bytes a pattern may have. -/
def maxPatternBytes : Nat := 50000

namespace Pattern

/-- Read a pattern from its text. -/
def ofString (text : String) : Pattern where
  byteSize := text.utf8ByteSize
  pieces := pieces? (beforeNul text.toList)

/-- Whether the pattern has too many bytes to be evaluated. -/
def tooLong (pattern : Pattern) : Bool :=
  maxPatternBytes < pattern.byteSize

/-- Whether the text is an instance of the pattern; an ill-formed pattern has none. -/
def matchesText (pattern : Pattern) (text : String) : Bool :=
  match pattern.pieces with
  | some pieces => matchPieces pieces (beforeNul text.toList)
  | none => false

/-- Evaluate a pattern on a text; too long a pattern has no value. -/
def eval? (pattern : Pattern) (text : String) : Option Bool :=
  if pattern.tooLong then none else some (pattern.matchesText text)

/-- A character as it must be written to stand for itself. -/
def quote (char : Char) : List Char :=
  if char = '%' ∨ char = '_' ∨ char = escapeChar then [escapeChar, char] else [char]

/-- The text of the pattern for texts that begin with the first `count` characters of a word. -/
def startingWith (word : String) (count : Nat) : String :=
  String.ofList ((word.toList.take count).flatMap quote ++ ['%'])

end Pattern

end WordCompletion.Like

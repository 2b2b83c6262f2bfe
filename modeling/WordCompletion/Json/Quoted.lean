/-! # JSON strings

A string is written between quotes. Only the quote, the backslash and the control characters below the
space are escaped: five of those by a letter, the others by a number of four hexadecimal digits.
-/

namespace WordCompletion.Json

/-- The lower-case hexadecimal digit of a number below sixteen. -/
def hexChar (number : Nat) : Char := Nat.digitChar number

/-- A character as it is written inside a string. -/
def escape (char : Char) : List Char :=
  match char with
  | '"' => ['\\', '"']
  | '\\' => ['\\', '\\']
  | '\x08' => ['\\', 'b']
  | '\t' => ['\\', 't']
  | '\n' => ['\\', 'n']
  | '\x0C' => ['\\', 'f']
  | '\r' => ['\\', 'r']
  | _ =>
    if char.toNat < 0x20 then
      ['\\', 'u', '0', '0', hexChar (char.toNat / 16), hexChar (char.toNat % 16)]
    else [char]

/-- The written form of a text. -/
def quote (text : List Char) : List Char :=
  '"' :: text.flatMap escape ++ ['"']

end WordCompletion.Json

import WordCompletion.Text.Invisible

/-! # Quoted text

Reports show a text between double quotes. A double quote or a backslash inside is written after a
backslash, the zero character, tab, line feed and carriage return by a letter or a zero after one, and
every other character that does not show by its code point in hexadecimal digits between braces.
-/

namespace WordCompletion.Text

/-- A character that quoted text writes by its code point. -/
def isHidden (char : Char) : Bool :=
  char.toNat < 0x20 || char.toNat == 0x7F || isInvisible char

/-- A character inside quoted text. -/
def quotedChar (char : Char) : List Char :=
  if char = '"' ∨ char = '\\' then ['\\', char]
  else if char = Char.ofNat 0 then ['\\', '0']
  else if char = '\t' then ['\\', 't']
  else if char = '\n' then ['\\', 'n']
  else if char = '\r' then ['\\', 'r']
  else if isHidden char then
    '\\' :: 'u' :: '\x7b' :: (Nat.toDigits 16 char.toNat ++ ['\x7d'])
  else [char]

/-- A text between double quotes. -/
def quoted (text : String) : String :=
  String.ofList ('"' :: (text.toList.flatMap quotedChar ++ ['"']))

end WordCompletion.Text

import WordCompletion.Text.CodeRanges

/-! # Blank characters

A character is blank when it has the Unicode property `White_Space`. The information separators
U+001C to U+001F, the zero-width space and the byte order mark are not blank.
-/

namespace WordCompletion.Text

/-- The code points with property `White_Space`. -/
def blankRanges : CodeRanges := [
    (0x0009, 0x000D), (0x0020, 0x0020), (0x0085, 0x0085), (0x00A0, 0x00A0), (0x1680, 0x1680),
    (0x2000, 0x200A), (0x2028, 0x2029), (0x202F, 0x202F), (0x205F, 0x205F), (0x3000, 0x3000)]

/-- A character with property `White_Space`. -/
def isBlank (char : Char) : Bool :=
  blankRanges.contains char.toNat

theorem blankRanges_ascending : blankRanges.Ascending := by
  decide

theorem isBlank_iff (char : Char) : isBlank char = true ↔ blankRanges.Covers char.toNat :=
  CodeRanges.contains_iff blankRanges_ascending char.toNat

/-- The text without the blank characters at its end. -/
def trimBlankEnd (chars : List Char) : List Char :=
  (chars.reverse.dropWhile isBlank).reverse

/-- The text without the blank characters at either end. -/
def trimBlank (chars : List Char) : List Char :=
  trimBlankEnd (chars.dropWhile isBlank)

end WordCompletion.Text

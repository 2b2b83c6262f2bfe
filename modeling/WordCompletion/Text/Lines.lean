/-! # Lines of a byte stream

A line ends in a line feed, which is no part of it, nor is a carriage return right before the line feed.
Bytes after the last line feed are a line as they stand. Main statements: streams are cut at line feeds
independently of what follows, so the lines of a stream that ends in a line feed come first among the
lines of every longer stream.
-/

namespace WordCompletion

/-- The bytes of a file or a stream. -/
abbrev Bytes := List UInt8

namespace Bytes

/-- The text that the bytes encode in UTF-8. -/
def text? (bytes : Bytes) : Option String := String.fromUTF8? ⟨bytes.toArray⟩

/-- The bytes of a text in UTF-8. -/
def ofText (text : String) : Bytes := text.toUTF8.data.toList

def lineFeed : UInt8 := 10

def carriageReturn : UInt8 := 13

/-- The lines to the right of a position, and whether a line feed stands right there. -/
structure LineScan where
  atFeed : Bool
  found : List Bytes
deriving DecidableEq, Repr

namespace LineScan

/-- Nothing lies to the right of the end of a stream. -/
def atEnd : LineScan := ⟨false, []⟩

/-- Put one byte in front of the first line, or end a line before it. -/
def cons (byte : UInt8) (scan : LineScan) : LineScan :=
  if byte = lineFeed then ⟨true, [] :: scan.found⟩
  else if byte = carriageReturn ∧ scan.atFeed = true then ⟨false, scan.found⟩
  else
    match scan.found with
    | [] => ⟨false, [[byte]]⟩
    | line :: rest => ⟨false, (byte :: line) :: rest⟩

end LineScan

/-- The lines of a stream. -/
def lines (bytes : Bytes) : List Bytes :=
  (bytes.foldr LineScan.cons .atEnd).found

/-- What is right of a scan that has found a line only adds lines after those that it finds. -/
theorem cons_append {scan longer : LineScan} {more : List Bytes} (same : longer.atFeed = scan.atFeed)
    (found : longer.found = scan.found ++ more) (some : scan.found ≠ []) (byte : UInt8) :
    (longer.cons byte).atFeed = (scan.cons byte).atFeed ∧
      (longer.cons byte).found = (scan.cons byte).found ++ more ∧ (scan.cons byte).found ≠ [] := by
  obtain ⟨feed, lines⟩ := scan
  obtain ⟨_, _⟩ := longer
  simp only at same found some
  subst same found
  cases lines with
  | nil => contradiction
  | cons line rest =>
    unfold LineScan.cons
    split
    · simp
    · split
      · simp
      · simp

theorem lines_append_feed_append (front back : Bytes) :
    lines (front ++ lineFeed :: back) = lines (front ++ [lineFeed]) ++ lines back := by
  suffices scan : ((front ++ lineFeed :: back).foldr LineScan.cons .atEnd).atFeed =
        ((front ++ [lineFeed]).foldr LineScan.cons .atEnd).atFeed ∧
      lines (front ++ lineFeed :: back) = lines (front ++ [lineFeed]) ++ lines back ∧
      lines (front ++ [lineFeed]) ≠ [] from scan.2.1
  induction front with
  | nil => simp [lines, LineScan.cons, LineScan.atEnd]
  | cons byte rest ih =>
    obtain ⟨same, found, some⟩ := ih
    exact cons_append same found some byte

end Bytes

end WordCompletion

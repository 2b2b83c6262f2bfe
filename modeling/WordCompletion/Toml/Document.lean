import WordCompletion.Toml.Quoted
import WordCompletion.Toml.Scalar
import WordCompletion.Toml.Table

/-! # Reading TOML documents

`parse?` reads a document of version 1.0 of the language, or finds that it is none. Arrays may run
over several lines and hold comments, inline tables may not. Values nest less than eighty deep, and a
dotted key has fewer than eighty parts. The readers carry fuel, which the length of the text and one
more always suffices for.
-/

namespace WordCompletion.Toml

/-- The characters after a comment, if there is one. -/
def skipComment : List Char → List Char
  | '#' :: rest => rest.dropWhile isPlain
  | chars => chars

/-- The characters after the rest of a line: blanks, a comment and a line end or the end of the text. -/
def restOfLine? (chars : List Char) : Option (List Char) :=
  let after := skipComment (skipBlanks chars)
  if after.isEmpty then some [] else lineEnd? after

/-- The characters after blanks, comments and line ends. The fuel bounds the number of lines. A comment
that a control character cuts short is followed by that character, which nothing starts with. -/
def skipLayout : Nat → List Char → List Char
  | 0, chars => chars
  | fuel + 1, chars =>
    let after := skipComment (skipBlanks chars)
    match lineEnd? after with
    | some rest => skipLayout fuel rest
    | none => after

/-- How deep values may nest. -/
def maxDepth : Nat := 79

/-- A dotted key of no more parts than that, and what follows it. -/
def readPath (chars : List Char) : Option (List String × List Char) := do
  let (keys, after) ← readKey chars.length chars
  if maxDepth < keys.length then none else some (keys, after)

mutual

/-- A value, and what follows it. -/
def readValue : Nat → Nat → List Char → Option (Toml × List Char)
  | 0, _, _ => none
  | fuel + 1, depth, chars =>
    match chars with
    | '"' :: _ => (readText chars).map fun (found, after) => (.text (String.ofList found), after)
    | '\x27' :: _ => (readText chars).map fun (found, after) => (.text (String.ofList found), after)
    | '[' :: rest => do
      if depth = 0 then none
      match skipLayout rest.length rest with
      | ']' :: after => return (.array [], after)
      | inside =>
        let (items, after) ← readItems fuel (depth - 1) inside
        return (.array items, after)
    | '{' :: rest => do
      if depth = 0 then none
      match skipBlanks rest with
      | '}' :: after => return (.table [], after)
      | inside =>
        let (pairs, after) ← readPairs fuel (depth - 1) inside
        return (← inlineTable? pairs, after)
    | _ => readScalar chars

/-- The items of an array up to its closing bracket. -/
def readItems : Nat → Nat → List Char → Option (List Toml × List Char)
  | 0, _, _ => none
  | fuel + 1, depth, chars => do
    let (item, afterItem) ← readValue fuel depth chars
    match skipLayout afterItem.length afterItem with
    | ']' :: after => return ([item], after)
    | ',' :: rest =>
      match skipLayout rest.length rest with
      | ']' :: after => return ([item], after)
      | next =>
        let (items, after) ← readItems fuel depth next
        return (item :: items, after)
    | _ => none

/-- The keys and values of an inline table up to its closing brace. -/
def readPairs : Nat → Nat → List Char → Option (List (List String × Toml) × List Char)
  | 0, _, _ => none
  | fuel + 1, depth, chars => do
    let (keys, afterKey) ← readPath chars
    match afterKey with
    | '=' :: rest =>
      let (value, afterValue) ← readValue fuel depth (skipBlanks rest)
      match skipBlanks afterValue with
      | '}' :: after => return ([(keys, value)], after)
      | ',' :: next =>
        let (pairs, after) ← readPairs fuel depth next
        return ((keys, value) :: pairs, after)
      | _ => none
    | _ => none

end

/-- A statement at the start of a line, and the lines after it. -/
def readStatement (chars : List Char) : Option (Statement × List Char) := do
  match chars with
  | '[' :: '[' :: rest =>
    let (keys, after) ← readPath rest
    match after with
    | ']' :: ']' :: after => return (.arrayHeader keys, ← restOfLine? after)
    | _ => none
  | '[' :: rest =>
    let (keys, after) ← readPath rest
    match after with
    | ']' :: after => return (.header keys, ← restOfLine? after)
    | _ => none
  | _ =>
    let (keys, after) ← readPath chars
    match after with
    | '=' :: rest =>
      let (value, after) ← readValue (rest.length + 1) maxDepth (skipBlanks rest)
      return (.assign keys value, ← restOfLine? after)
    | _ => none

/-- The statements of a document. -/
def readStatements : Nat → List Char → Option (List Statement)
  | 0, _ => none
  | fuel + 1, chars => do
    match skipLayout chars.length chars with
    | [] => return []
    | chars =>
      let (statement, rest) ← readStatement chars
      return statement :: (← readStatements fuel rest)

/-- The entries of the root table of a document; a byte order mark in front does not count. -/
def parse? (text : String) : Option (List (String × Toml)) := do
  let chars := match text.toList with
    | first :: rest => if first.toNat = 0xFEFF then rest else first :: rest
    | [] => []
  rootTable? (← readStatements (chars.length + 1) chars)

end WordCompletion.Toml

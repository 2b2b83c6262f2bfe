import WordCompletion.Toml.Quoted

/-! # Strings in literals

A string stands between double quotes with the escapes of a one-line TOML string. A string without
escapes is kept whole. Of one with escapes the text before the first is cut to as many bytes as it has
characters, so it is kept whole exactly when it is ASCII; when the cut falls inside a character there
is no answer at all, which is a fault of its own. Main statement: what a cut to a number of bytes is.
-/

namespace WordCompletion.Literal

/-- Why a literal gives no setting. -/
inductive Fault where
  /-- The text is no literal. -/
  | malformed
  /-- A string is cut inside a character. -/
  | splitCharacter
deriving DecidableEq, Repr

/-- The front of a text that fills a number of bytes. -/
def takeBytes? : Nat → List Char → Option (List Char)
  | 0, _ => some []
  | _, [] => none
  | count, char :: rest =>
    if char.utf8Size ≤ count then (takeBytes? (count - char.utf8Size) rest).map (char :: ·) else none

/-- A double quote ends the string; one after a backslash does not. -/
def isClosed : List Char → Bool
  | [] => false
  | '"' :: _ => true
  | '\\' :: _ :: rest => isClosed rest
  | _ :: rest => isClosed rest

/-- The text of a string up to its double quote, and what follows it. -/
def readQuoted (chars : List Char) : Except Fault (String × List Char) :=
  let (plain, rest) := chars.span fun char => char != '"' && char != '\\'
  if !isClosed rest || !plain.all Toml.isPlain then .error .malformed
  else
    match rest with
    | '\\' :: _ =>
      match takeBytes? plain.length plain with
      | none => .error .splitCharacter
      | some front =>
        match Toml.readBasic (rest.length + 1) rest with
        | none => .error .malformed
        | some (found, after) => .ok (String.ofList (front ++ found), after)
    | rest => .ok (String.ofList plain, rest.drop 1)

end WordCompletion.Literal

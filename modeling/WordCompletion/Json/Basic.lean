/-! # JSON values as they are written

A value keeps its strings as the units between the quotes and its numbers as their digits. Whether
the units spell a text, and which number the digits stand for, is asked only of the parts that a
reader of the value uses: a lone surrogate or a number out of range does no harm in a part that is
skipped.
-/

namespace WordCompletion

namespace Json

/-- One unit of a written string: a character, plain or after a backslash, or a numbered escape. -/
inductive StringUnit where
  | char (char : Char)
  | code (number : Nat)
deriving DecidableEq, Repr

/-- The digits of a written number; an absent fraction has none. -/
structure NumberText where
  negative : Bool
  whole : List Char
  fraction : List Char
  exponent : Option (Bool × List Char)
deriving DecidableEq, Repr

/-- A text from the units of a string; surrogates must come in pairs. -/
def textOf? : List StringUnit → Option (List Char)
  | [] => some []
  | .char char :: rest => (textOf? rest).map (char :: ·)
  | .code high :: .code low :: rest =>
    if 0xD800 ≤ high ∧ high < 0xDC00 then
      if 0xDC00 ≤ low ∧ low < 0xE000 then
        (textOf? rest).map (Char.ofNat (0x10000 + (high - 0xD800) * 0x400 + (low - 0xDC00)) :: ·)
      else none
    else if 0xDC00 ≤ high ∧ high < 0xE000 then none
    else (textOf? (.code low :: rest)).map (Char.ofNat high :: ·)
  | .code number :: rest =>
    if 0xD800 ≤ number ∧ number < 0xE000 then none
    else (textOf? rest).map (Char.ofNat number :: ·)

end Json

/-- A JSON value; an object keeps its members in order, with repeated keys. -/
inductive Json where
  | null
  | bool (value : Bool)
  | number (text : Json.NumberText)
  | string (units : List Json.StringUnit)
  | array (items : List Json)
  | object (members : List (List Json.StringUnit × Json))
deriving Repr

namespace Json

mutual

/-- How deep arrays and objects are nested; a plain value has depth zero. -/
def depth : Json → Nat
  | .array items => depthOfItems items + 1
  | .object members => depthOfMembers members + 1
  | _ => 0

/-- The greatest depth among items. -/
def depthOfItems : List Json → Nat
  | [] => 0
  | item :: rest => max (depth item) (depthOfItems rest)

/-- The greatest depth among the values of members. -/
def depthOfMembers : List (List StringUnit × Json) → Nat
  | [] => 0
  | (_, value) :: rest => max (depth value) (depthOfMembers rest)

end

/-- The text of a string value. -/
def text? : Json → Option String
  | .string units => (textOf? units).map String.ofList
  | _ => none

/-- The truth value of a literal. -/
def bool? : Json → Option Bool
  | .bool value => some value
  | _ => none

end Json

end WordCompletion

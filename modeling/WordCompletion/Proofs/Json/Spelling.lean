import Mathlib.Data.String.Basic
import WordCompletion.Json.Forms

/-! # Texts that spell objects

An object whose values have no parts is spelled in many ways: white space may stand wherever tokens meet, the
characters of a string stand for themselves or are escaped in one of several ways, and members come in any order.
These relations say which texts spell which values, without reading any. Main statements: what is written of a
text, and of a row, is one of its spellings.
-/

namespace WordCompletion

namespace Json

/-- A value without parts. -/
inductive Scalar where
  | null
  | bool (value : Bool)
  | text (text : String)
  | integer (value : ℤ)
deriving DecidableEq, Repr

/-- White space between tokens. -/
def IsGap (chars : List Char) : Prop := chars ⊆ [' ', '\t', '\n', '\r']

instance decidableIsGap (chars : List Char) : Decidable (IsGap chars) :=
  inferInstanceAs (Decidable (chars ⊆ _))

/-! ## Strings -/

/-- A digit of base sixteen, its letter small or capital. -/
def HexDigit (value : ℕ) (digit : Char) : Prop :=
  value < 16 ∧ (digit = value.digitChar ∨ digit = value.digitChar.toUpper)

instance decidableHexDigit (value : ℕ) (digit : Char) : Decidable (HexDigit value digit) :=
  inferInstanceAs (Decidable (_ ∧ _))

/-- Four digits of base sixteen. -/
inductive HexNumber : ℕ → List Char → Prop
  | digits {a b c d : ℕ} {first second third fourth : Char} (leading : HexDigit a first) (next : HexDigit b second)
      (other : HexDigit c third) (last : HexDigit d fourth) :
      HexNumber (((a * 16 + b) * 16 + c) * 16 + d) [first, second, third, fourth]

/-- The letters that escape a character, each with the character. -/
def shortEscapes : List (Char × Char) :=
  [('"', '"'), ('\\', '\\'), ('/', '/'), ('b', '\x08'), ('f', '\x0C'), ('n', '\n'), ('r', '\r'), ('t', '\t')]

/-- One character inside a string: plain, escaped by a letter, escaped by its number, or escaped by the numbers of
a pair of surrogates. -/
inductive SpellsChar : Char → List Char → Prop
  | plain {char : Char} (shown : 0x20 ≤ char.toNat) (noQuote : char ≠ '"') (noBackslash : char ≠ '\\') :
      SpellsChar char [char]
  | letter {char letter : Char} (short : (letter, char) ∈ shortEscapes) : SpellsChar char ['\\', letter]
  | code {char : Char} {digits : List Char} (number : HexNumber char.toNat digits) :
      SpellsChar char ('\\' :: 'u' :: digits)
  | pair {char : Char} {high low : List Char} (beyond : 0x10000 ≤ char.toNat)
      (upper : HexNumber (0xD800 + (char.toNat - 0x10000) / 0x400) high)
      (lower : HexNumber (0xDC00 + (char.toNat - 0x10000) % 0x400) low) :
      SpellsChar char ('\\' :: 'u' :: (high ++ '\\' :: 'u' :: low))

/-- The inside of a string, character by character. -/
inductive SpellsText : List Char → List Char → Prop
  | nil : SpellsText [] []
  | cons {char : Char} {text first rest : List Char} (head : SpellsChar char first) (tail : SpellsText text rest) :
      SpellsText (char :: text) (first ++ rest)

/-- A string between its quotes. -/
inductive SpellsString : String → List Char → Prop
  | quoted {text : String} {inside : List Char} (spelled : SpellsText text.toList inside) :
      SpellsString text ('"' :: (inside ++ ['"']))

/-! ## Objects -/

/-- A value without parts; an integer is one of 64 bits, with a sign or without, and has no leading zeros. -/
inductive SpellsScalar : Scalar → List Char → Prop
  | null : SpellsScalar .null "null".toList
  | bool (value : Bool) : SpellsScalar (.bool value) (toString value).toList
  | text {text : String} {chars : List Char} (spelled : SpellsString text chars) : SpellsScalar (.text text) chars
  | unsigned {size : ℕ} (small : size < 2 ^ 64) : SpellsScalar (.integer size) (Nat.toDigits 10 size)
  | negative {size : ℕ} (small : size ≤ 2 ^ 63) : SpellsScalar (.integer (-size)) ('-' :: Nat.toDigits 10 size)

/-- A key and its value around a colon. -/
inductive SpellsMember : String × Scalar → List Char → Prop
  | spaced {key : String} {value : Scalar} {name chars beforeKey afterKey beforeValue afterValue : List Char}
      (named : SpellsString key name) (valued : SpellsScalar value chars)
      (gaps : ∀ gap ∈ [beforeKey, afterKey, beforeValue, afterValue], IsGap gap) :
      SpellsMember (key, value) (beforeKey ++ (name ++ (afterKey ++ ':' :: (beforeValue ++ (chars ++ afterValue)))))

/-- Members with commas between them. -/
inductive SpellsMembers : List (String × Scalar) → List Char → Prop
  | last {entry : String × Scalar} {chars : List Char} (member : SpellsMember entry chars) :
      SpellsMembers [entry] chars
  | cons {entry : String × Scalar} {entries : List (String × Scalar)} {chars others : List Char}
      (member : SpellsMember entry chars) (more : SpellsMembers entries others) :
      SpellsMembers (entry :: entries) (chars ++ ',' :: others)

/-- An object with at least one member, and with white space around it. -/
inductive SpellsObject : List (String × Scalar) → List Char → Prop
  | braces {entries : List (String × Scalar)} {before inside after : List Char}
      (gaps : IsGap before ∧ IsGap after) (members : SpellsMembers entries inside) :
      SpellsObject entries (before ++ '{' :: (inside ++ '}' :: after))

/-! ## What is written is a spelling -/

theorem hexDigit_hexChar {value : ℕ} (small : value < 16) : HexDigit value (hexChar value) := ⟨small, .inl rfl⟩

/-- A control character is written by four digits if no letter escapes it. -/
theorem hexNumber_of_lt {number : ℕ} (small : number < 0x20) :
    HexNumber number ['0', '0', hexChar (number / 16), hexChar (number % 16)] := by
  have zero : HexDigit 0 '0' := hexDigit_hexChar (by decide)
  have digits := HexNumber.digits zero zero (hexDigit_hexChar (show number / 16 < 16 by omega))
    (hexDigit_hexChar (show number % 16 < 16 by omega))
  rwa [show ((0 * 16 + 0) * 16 + number / 16) * 16 + number % 16 = number by omega] at digits

theorem spellsChar_escape (char : Char) : SpellsChar char (escape char) := by
  unfold escape
  -- every case but the last is an escape by a letter
  split
  case h_8 noQuote noBackslash _ _ _ _ _ =>
    split_ifs with control
    · exact .code (hexNumber_of_lt control)
    · exact .plain (Nat.not_lt.mp control) noQuote noBackslash
  all_goals exact .letter (by decide)

theorem spellsText_escape (text : List Char) : SpellsText text (text.flatMap escape) := by
  induction text with
  | nil => exact .nil
  | cons char rest ih => exact .cons (spellsChar_escape char) ih

theorem spellsString_quote (text : String) : SpellsString text (quote text.toList) :=
  .quoted (spellsText_escape text.toList)

theorem spellsScalar_quote (text : String) : SpellsScalar (.text text) (quote text.toList) :=
  .text (spellsString_quote text)

/-- A member without white space. -/
theorem spellsMember_compact (key : String) {value : Scalar} {chars : List Char} (valued : SpellsScalar value chars) :
    SpellsMember (key, value) (quote key.toList ++ ':' :: chars) := by
  have spaced := @SpellsMember.spaced key value _ chars [] [] [] [] (spellsString_quote key) valued (by decide)
  simpa using spaced

end Json

namespace Match

/-- The name of the tier. -/
def tag : Match → String
  | .primary _ => "primary"
  | .backup _ _ => "backup"

/-- The fields of the tier with their values. -/
def fields : Match → List (String × Json.Scalar)
  | .primary word => [("word", .text word)]
  | .backup word key => [("word", .text word), ("sort_key", .text key)]

/-- The members of a row as it is written: its tag comes first. -/
def members (row : Match) : List (String × Json.Scalar) := ("tier", .text row.tag) :: row.fields

/-- The keys of a row: that of the tag and the fields of its tier. -/
def keys (row : Match) : List String := row.members.map Prod.fst

open Json in
theorem spellsObject_toJsonText (row : Match) : SpellsObject row.members row.toJsonText.toList := by
  have member (key text : String) : SpellsMember (key, .text text) (quote key.toList ++ ':' :: quote text.toList) :=
    spellsMember_compact key (spellsScalar_quote text)
  have empty : IsGap [] ∧ IsGap [] := by decide
  cases row with
  | primary word =>
    have front : "\x7b\"tier\":\"primary\",\"word\":".toList =
        '{' :: (quote "tier".toList ++ ':' :: quote "primary".toList ++ ',' :: (quote "word".toList ++ [':'])) := by
      decide
    have object := SpellsObject.braces empty (.cons (member "tier" "primary") (.last (member "word" word)))
    rw [show (Match.primary word).toJsonText.toList = _ from String.toList_ofList, front]
    simpa only [members, tag, fields, List.append_assoc, List.cons_append, List.nil_append] using object
  | backup word key =>
    have front : "\x7b\"tier\":\"backup\",\"word\":".toList =
        '{' :: (quote "tier".toList ++ ':' :: quote "backup".toList ++ ',' :: (quote "word".toList ++ [':'])) := by
      decide
    have middle : ",\"sort_key\":".toList = ',' :: (quote "sort_key".toList ++ [':']) := by decide
    have object := SpellsObject.braces empty
      (.cons (member "tier" "backup") (.cons (member "word" word) (.last (member "sort_key" key))))
    rw [show (Match.backup word key).toJsonText.toList = _ from String.toList_ofList, front, middle]
    simpa only [members, tag, fields, List.append_assoc, List.cons_append, List.nil_append] using object

end Match

end WordCompletion

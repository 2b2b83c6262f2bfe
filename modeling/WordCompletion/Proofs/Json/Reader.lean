import Mathlib.Data.List.TakeWhile
import WordCompletion.Proofs.Json.Number
import WordCompletion.Proofs.Json.Spelling

/-! # Spelled texts are read

The reader takes every spelling of an object whose values have no parts, whatever white space and escapes it has.
What it makes of a key or a value keeps its units and digits, and these spell the text and make up a value that no
later reader refuses. Main statement: a text that spells an object is read as an object with these members.
-/

namespace WordCompletion.Json

/-- The text of a scalar that is one. -/
def Scalar.text? : Scalar → Option String
  | .text content => some content
  | _ => none

/-- What is read of a scalar: its text, if it is one, in a value without depth that makes sense. -/
structure Represents (json : Json) (scalar : Scalar) : Prop where
  text : json.text? = scalar.text?
  flat : json.depth = 0
  meaningful : json.isMeaningful = true

/-- What is read of a member. -/
structure RepresentsMember (member : List StringUnit × Json) (entry : String × Scalar) : Prop where
  key : textOf? member.1 = some entry.1.toList
  value : Represents member.2 entry.2

/-! ## White space -/

theorem isSpace_of_isGap {gap : List Char} (blank : IsGap gap) : ∀ char ∈ gap, isSpace char = true := by
  have listed : ∀ char ∈ [' ', '\t', '\n', '\r'], isSpace char = true := by simp [isSpace]
  exact fun char member => listed char (blank member)

theorem skipSpace_append {gap : List Char} (blank : IsGap gap) (rest : List Char) :
    skipSpace (gap ++ rest) = skipSpace rest :=
  List.dropWhile_append_of_pos (isSpace_of_isGap blank)

theorem skipSpace_cons {char : Char} (token : isSpace char = false) (rest : List Char) :
    skipSpace (char :: rest) = char :: rest :=
  List.dropWhile_cons_of_neg (by simp [token])

/-! ## Strings -/

theorem hexDigit?_of_hexDigit {value : ℕ} {digit : Char} (written : HexDigit value digit) :
    hexDigit? digit = some value := by
  have digits : ∀ value < 16, hexDigit? value.digitChar = some value ∧
      hexDigit? value.digitChar.toUpper = some value := by decide
  obtain ⟨small, rfl | rfl⟩ := written
  · exact (digits value small).1
  · exact (digits value small).2

/-- An escape by number gives one unit. -/
theorem readString_code {number : ℕ} {digits : List Char} (written : HexNumber number digits) (rest : List Char) :
    readString ('\\' :: 'u' :: (digits ++ rest)) =
      (readString rest).map fun found => (.code number :: found.1, found.2) := by
  cases written with
  | digits leading next other last =>
    simp only [List.cons_append, List.nil_append, readString, hexNumber?, hexDigit?_of_hexDigit leading,
      hexDigit?_of_hexDigit next, hexDigit?_of_hexDigit other, hexDigit?_of_hexDigit last]
    cases readString rest <;> rfl

/-- An escape by a letter gives its character. -/
theorem readString_letter {letter char : Char} (short : (letter, char) ∈ shortEscapes) (rest : List Char) :
    readString ('\\' :: letter :: rest) = (readString rest).map fun found => (.char char :: found.1, found.2) := by
  have listed : ∀ entry ∈ shortEscapes, entry.1 ≠ 'u' ∧ shortEscape? entry.1 = some entry.2 := by decide
  obtain ⟨noNumber, known⟩ := listed _ short
  simp only at noNumber known
  cases found : readString rest <;> simp [readString, noNumber, known, found]

theorem readString_plain {char : Char} (shown : 0x20 ≤ char.toNat) (noQuote : char ≠ '"') (noBackslash : char ≠ '\\')
    (rest : List Char) :
    readString (char :: rest) = (readString rest).map fun found => (.char char :: found.1, found.2) := by
  have control : ¬ char.toNat < 0x20 := Nat.not_lt.mpr shown
  cases found : readString rest <;> simp [readString, noBackslash, control, found]

/-- A number of no surrogate stands for a character whatever comes next. -/
theorem textOf?_code {number : ℕ} (character : ¬ (0xD800 ≤ number ∧ number < 0xE000)) (more : List StringUnit) :
    textOf? (.code number :: more) = (textOf? more).map (Char.ofNat number :: ·) := by
  have noHigh : ¬ (0xD800 ≤ number ∧ number < 0xDC00) := by omega
  have noLow : ¬ (0xDC00 ≤ number ∧ number < 0xE000) := by omega
  cases more with
  | nil => simp [textOf?, character]
  | cons unit later =>
    cases unit with
    | char other => simp [textOf?, character]
    | code low => rw [textOf?, if_neg noHigh, if_neg noLow]

/-- The code of a character is none of a surrogate. -/
theorem toNat_no_surrogate (char : Char) : ¬ (0xD800 ≤ char.toNat ∧ char.toNat < 0xE000) := by
  have valid := char.valid
  simp only [UInt32.isValidChar, Nat.isValidChar] at valid
  change ¬ (0xD800 ≤ char.val.toNat ∧ char.val.toNat < 0xE000)
  omega

/-- The surrogates of a pair stand for a character. -/
theorem textOf?_pair {char : Char} (beyond : 0x10000 ≤ char.toNat) (more : List StringUnit) :
    textOf? (.code (0xD800 + (char.toNat - 0x10000) / 0x400) ::
        .code (0xDC00 + (char.toNat - 0x10000) % 0x400) :: more) =
      (textOf? more).map (char :: ·) := by
  have bound : char.toNat < 0x110000 := by
    have valid := char.valid
    simp only [UInt32.isValidChar, Nat.isValidChar] at valid
    change char.val.toNat < 0x110000
    omega
  have whole : 0x10000 + (0xD800 + (char.toNat - 0x10000) / 0x400 - 0xD800) * 0x400 +
      (0xDC00 + (char.toNat - 0x10000) % 0x400 - 0xDC00) = char.toNat := by omega
  rw [textOf?, if_pos (by omega), if_pos (by omega), whole, Char.ofNat_toNat]

/-- The spelling of a character is read as units that stand for it. -/
theorem exists_readString_char {char : Char} {chars : List Char} (spelled : SpellsChar char chars) :
    ∃ units, (∀ rest, readString (chars ++ rest) = (readString rest).map fun found => (units ++ found.1, found.2)) ∧
      ∀ more, textOf? (units ++ more) = (textOf? more).map (char :: ·) := by
  cases spelled with
  | plain shown noQuote noBackslash =>
    exact ⟨[.char char], readString_plain shown noQuote noBackslash, fun _ => rfl⟩
  | letter short => exact ⟨[.char char], readString_letter short, fun _ => rfl⟩
  | code number =>
    refine ⟨[.code char.toNat], readString_code number, fun more => ?_⟩
    rw [List.singleton_append, textOf?_code (toNat_no_surrogate char), Char.ofNat_toNat]
  | pair beyond upper lower =>
    refine ⟨[.code _, .code _], fun rest => ?_, textOf?_pair beyond⟩
    simp only [List.cons_append, List.append_assoc, readString_code upper, readString_code lower, Option.map_map]
    rfl

/-- The spelling of a text is read up to the closing quote. -/
theorem exists_readString {text chars : List Char} (spelled : SpellsText text chars) :
    ∃ units, (∀ rest, readString (chars ++ '"' :: rest) = some (units, rest)) ∧ textOf? units = some text := by
  induction spelled with
  | nil => exact ⟨[], fun _ => rfl, rfl⟩
  | cons head _ ih =>
    obtain ⟨first, readFirst, textFirst⟩ := exists_readString_char head
    obtain ⟨units, read, text⟩ := ih
    refine ⟨first ++ units, fun rest => ?_, ?_⟩
    · rw [List.append_assoc, readFirst, read, Option.map_some]
    · rw [textFirst, text, Option.map_some]

/-! ## Values -/

theorem readValue_gap {gap : List Char} (blank : IsGap gap) (fuel : ℕ) (chars : List Char) :
    readValue fuel (gap ++ chars) = readValue fuel chars := by
  cases fuel with
  | zero => rfl
  | succ fuel => rw [readValue, readValue, skipSpace_append blank]

/-- A sign or a digit starts a number. -/
theorem readValue_number {first : Char} (start : first = '-' ∨ first.isDigit = true) (fuel : ℕ) (chars : List Char) :
    readValue (fuel + 1) (first :: chars) =
      (readNumber (first :: chars)).map fun found => (.number found.1, found.2) := by
  have listed : ∀ char ∈ [' ', '\t', '\n', '\r', '{', '[', '"', 'n', 't', 'f'],
      char ≠ '-' ∧ char.isDigit = false := by simp
  have other : first ∉ [' ', '\t', '\n', '\r', '{', '[', '"', 'n', 't', 'f'] := by
    intro member
    obtain ⟨noSign, noDigit⟩ := listed first member
    simp [noSign, noDigit] at start
  simp only [List.mem_cons, List.not_mem_nil, or_false, not_or] at other
  have token : isSpace first = false := by simp [isSpace, other]
  -- no other kind of value starts with this character
  rw [readValue, skipSpace_cons token]
  split <;> simp_all

theorem readValue_string (fuel : ℕ) (chars : List Char) :
    readValue (fuel + 1) ('"' :: chars) = (readString chars).map fun found => (.string found.1, found.2) := rfl

/-- The spelling of a value is read up to where no number goes on. -/
theorem exists_readValue {value : Scalar} {chars : List Char} (spelled : SpellsScalar value chars) :
    ∃ json, Represents json value ∧ ∀ rest, EndsNumber rest → ∀ fuel,
      readValue (fuel + 1) (chars ++ rest) = some (json, rest) := by
  cases spelled with
  | null => exact ⟨.null, ⟨rfl, rfl, rfl⟩, fun _ _ _ => rfl⟩
  | bool value => cases value <;> exact ⟨.bool _, ⟨rfl, rfl, rfl⟩, fun _ _ _ => rfl⟩
  | text spelled =>
    cases spelled with
    | quoted spelled =>
      obtain ⟨units, read, decoded⟩ := exists_readString spelled
      refine ⟨.string units, ⟨?_, rfl, ?_⟩, fun rest _ fuel => ?_⟩
      · rw [Json.text?, decoded, Option.map_some, String.ofList_toList, Scalar.text?]
      · rw [isMeaningful, decoded, Option.isSome_some]
      · rw [List.cons_append, List.append_assoc, List.singleton_append, readValue_string, read, Option.map_some]
  | @unsigned size small =>
    refine ⟨.number (.ofInteger false size), ⟨rfl, rfl, isSome_float?_ofInteger small false⟩, fun rest ends fuel => ?_⟩
    obtain ⟨digit, others, digits⟩ := List.exists_cons_of_ne_nil (Nat.toDigits_ne_nil (n := size) (b := 10))
    have first : digit.isDigit = true :=
      Nat.isDigit_of_mem_toDigits (b := 10) (n := size) (by decide) (by decide) (by simp [digits])
    have read := (readNumber_ofInteger ends size).1
    rw [digits, List.cons_append] at read ⊢
    rw [readValue_number (.inr first), read, Option.map_some]
  | @negative size small =>
    have small : size < 2 ^ 64 := Nat.lt_of_le_of_lt small (by decide)
    refine ⟨.number (.ofInteger true size), ⟨rfl, rfl, isSome_float?_ofInteger small true⟩, fun rest ends fuel => ?_⟩
    have read := (readNumber_ofInteger ends size).2
    rw [List.cons_append] at read ⊢
    rw [readValue_number (.inl rfl), read, Option.map_some]

/-! ## Members -/

/-- A comma or a brace, behind white space, goes on no number. -/
theorem endsNumber_gap {gap : List Char} (blank : IsGap gap) {mark : Char} (token : mark = ',' ∨ mark = '}')
    (rest : List Char) : EndsNumber (gap ++ mark :: rest) := by
  have listed : ∀ char ∈ [' ', '\t', '\n', '\r', ',', '}'], char.isDigit = false ∧ char ∉ ['.', 'e', 'E'] := by simp
  intro next front
  apply listed
  cases gap with
  | nil =>
    obtain rfl : mark = next := by simpa using front
    rcases token with rfl | rfl <;> decide
  | cons char more =>
    obtain rfl : char = next := by simpa using front
    exact List.mem_append_left [',', '}'] (blank (List.mem_cons_self ..))

theorem readMembers_congr {first second : List Char} (same : skipSpace first = skipSpace second) (fuel : ℕ) :
    readMembers fuel first = readMembers fuel second := by
  cases fuel with
  | zero => rfl
  | succ fuel => rw [readMembers, readMembers, same]

/-- The spelling of a member is read up to the comma or the brace behind it. -/
theorem exists_readMember {entry : String × Scalar} {chars : List Char} (spelled : SpellsMember entry chars) :
    ∃ member, RepresentsMember member entry ∧ ∀ fuel rest,
      readMembers (fuel + 2) (chars ++ '}' :: rest) = some ([member], rest) ∧
      readMembers (fuel + 2) (chars ++ ',' :: rest) =
        (readMembers (fuel + 1) rest).map fun found => (member :: found.1, found.2) := by
  cases spelled with
  | @spaced key value name chars beforeKey afterKey beforeValue afterValue named valued gaps =>
    simp only [List.forall_mem_cons, List.not_mem_nil, false_implies, implies_true, and_true] at gaps
    obtain ⟨blankBeforeKey, blankAfterKey, blankBeforeValue, blankAfterValue⟩ := gaps
    cases named with
    | @quoted inside spelled =>
      obtain ⟨units, readKey, decoded⟩ := exists_readString spelled
      obtain ⟨json, represents, readJson⟩ := exists_readValue valued
      have quote (rest : List Char) : skipSpace ('"' :: rest) = '"' :: rest := rfl
      have colon (rest : List Char) : skipSpace (afterKey ++ ':' :: rest) = ':' :: rest :=
        skipSpace_append blankAfterKey _
      have comma (rest : List Char) : skipSpace (afterValue ++ ',' :: rest) = ',' :: rest :=
        skipSpace_append blankAfterValue _
      have brace (rest : List Char) : skipSpace (afterValue ++ '}' :: rest) = '}' :: rest :=
        skipSpace_append blankAfterValue _
      have value {mark : Char} (token : mark = ',' ∨ mark = '}') (fuel : ℕ) (rest : List Char) :
          readValue (fuel + 1) (beforeValue ++ (chars ++ (afterValue ++ mark :: rest))) =
            some (json, afterValue ++ mark :: rest) :=
        (readValue_gap blankBeforeValue _ _).trans (readJson _ (endsNumber_gap blankAfterValue token rest) fuel)
      refine ⟨(units, json), ⟨decoded, represents⟩, fun fuel rest => ⟨?_, ?_⟩⟩
      · simp only [List.append_assoc, List.cons_append, List.nil_append,
          readMembers_congr (skipSpace_append blankBeforeKey _)]
        rw [readMembers]
        simp [quote, readKey, colon, value (.inr rfl), brace]
      · simp only [List.append_assoc, List.cons_append, List.nil_append,
          readMembers_congr (skipSpace_append blankBeforeKey _)]
        rw [readMembers]
        cases found : readMembers (fuel + 1) rest <;> simp [quote, readKey, colon, value (.inl rfl), comma, found]

/-- The spelling of members is read up to the closing brace. -/
theorem exists_readMembers {entries : List (String × Scalar)} {chars : List Char}
    (spelled : SpellsMembers entries chars) :
    ∃ members, List.Forall₂ RepresentsMember members entries ∧ ∀ fuel rest, entries.length < fuel →
      readMembers fuel (chars ++ '}' :: rest) = some (members, rest) := by
  -- each member takes one step, and the last one leaves a step for its value
  induction spelled with
  | last member =>
    obtain ⟨found, represents, read⟩ := exists_readMember member
    refine ⟨[found], .cons represents .nil, fun fuel rest enough => ?_⟩
    obtain ⟨more, rfl⟩ : ∃ more, fuel = more + 2 := ⟨fuel - 2, by simp only [List.length_cons] at enough; omega⟩
    exact (read more rest).1
  | @cons entry entries chars others member _ ih =>
    obtain ⟨found, represents, read⟩ := exists_readMember member
    obtain ⟨members, representsAll, readAll⟩ := ih
    refine ⟨found :: members, .cons represents representsAll, fun fuel rest enough => ?_⟩
    obtain ⟨more, rfl⟩ : ∃ more, fuel = more + 2 := ⟨fuel - 2, by simp only [List.length_cons] at enough; omega⟩
    have left : entries.length < more + 1 := by simpa using enough
    rw [List.append_assoc, List.cons_append, (read more _).2, readAll _ rest left, Option.map_some]

/-! ## Objects -/

/-- A member starts with the quote of its key. -/
theorem SpellsMembers.exists_skipSpace {entries : List (String × Scalar)} {chars : List Char}
    (spelled : SpellsMembers entries chars) (rest : List Char) :
    ∃ more, skipSpace (chars ++ rest) = '"' :: more := by
  have first {entry : String × Scalar} {chars : List Char} (member : SpellsMember entry chars) (rest : List Char) :
      ∃ more, skipSpace (chars ++ rest) = '"' :: more := by
    cases member with
    | @spaced _ _ _ _ beforeKey _ _ _ named _ gaps =>
      cases named with
      | quoted _ =>
        rw [List.append_assoc, skipSpace_append (gaps beforeKey (List.mem_cons_self ..))]
        exact ⟨_, skipSpace_cons rfl _⟩
  cases spelled with
  | last member => exact first member rest
  | cons member _ =>
    rw [List.append_assoc]
    exact first member _

theorem SpellsMembers.length_le {entries : List (String × Scalar)} {chars : List Char}
    (spelled : SpellsMembers entries chars) : entries.length ≤ chars.length := by
  have positive {entry : String × Scalar} {chars : List Char} (member : SpellsMember entry chars) :
      1 ≤ chars.length := by
    cases member
    simp only [List.length_append, List.length_cons]
    omega
  induction spelled with
  | last member => exact positive member
  | cons member _ ih =>
    rw [List.length_cons, List.length_append, List.length_cons]
    omega

/-- Members that no later reader refuses make an object that none refuses. -/
theorem object_of_represents {members : List (List StringUnit × Json)} {entries : List (String × Scalar)}
    (represents : List.Forall₂ RepresentsMember members entries) :
    depthOfMembers members = 0 ∧ membersMeaningful members = true := by
  induction represents with
  | nil => exact ⟨rfl, rfl⟩
  | @cons member _ _ _ head _ ih =>
    obtain ⟨units, value⟩ := member
    refine ⟨?_, ?_⟩
    · rw [depthOfMembers, head.value.flat, ih.1, Nat.max_self]
    · have key : (textOf? units).isSome = true := by rw [head.key, Option.isSome_some]
      rw [membersMeaningful, key, head.value.meaningful, ih.2, Bool.and_self, Bool.and_self]

/-- A text that spells an object is read as an object with these members, which no later reader refuses. -/
theorem exists_parse? {entries : List (String × Scalar)} {text : String} (spelled : SpellsObject entries text.toList) :
    ∃ members, parse? text = some (.object members) ∧ List.Forall₂ RepresentsMember members entries := by
  generalize whole : text.toList = chars at spelled
  cases spelled with
  | @braces before inside after gaps members =>
    obtain ⟨found, represents, read⟩ := exists_readMembers members
    obtain ⟨more, quote⟩ := members.exists_skipSpace ('}' :: after)
    have enough : entries.length < text.toList.length := by
      have fewer := members.length_le
      rw [whole, List.length_append, List.length_cons, List.length_append]
      omega
    have inner : readMembers text.toList.length ('"' :: more) = some (found, after) :=
      (readMembers_congr ((skipSpace_cons rfl more).trans quote.symm) _).trans (read _ after enough)
    have value : readValue (text.toList.length + 1) text.toList = some (.object found, after) := by
      rw [readValue, whole, skipSpace_append gaps.1, skipSpace_cons rfl]
      simp only [quote]
      rw [← whole]
      exact congrArg (Option.map fun read => (Json.object read.1, read.2)) inner
    refine ⟨found, ?_, represents⟩
    have blank : skipSpace after = [] := List.dropWhile_eq_nil_iff.mpr (isSpace_of_isGap gaps.2)
    simp [parse?, value, blank]

end WordCompletion.Json

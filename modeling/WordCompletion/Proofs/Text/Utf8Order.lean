import Mathlib.Data.List.Lex
import Mathlib.Data.String.Basic
import WordCompletion.Text.Lines

/-! # Byte order is code point order

UTF-8 keeps the order of code points: the first byte grows with the number of bytes, and among
encodings of one length the bytes are the digits of the code point, leading digit first. Hence
comparing two texts byte by byte decides like comparing them character by character.
-/

namespace WordCompletion.Bytes

/-- The bytes of a text in UTF-8, as the numbers that a byte-wise comparison sees. -/
def codes (text : String) : List ℕ := (ofText text).map UInt8.toNat

/-- The bytes of one character. -/
def charCodes (char : Char) : List ℕ := (String.utf8EncodeChar char).map UInt8.toNat

theorem codes_eq_flatMap (text : String) : codes text = text.toList.flatMap charCodes := by
  have encoded : text.toUTF8 = (text.toList.flatMap String.utf8EncodeChar).toByteArray := by
    rw [String.toUTF8_eq_toByteArray, ← String.utf8Encode_toList, List.utf8Encode]
  simp only [codes, ofText, encoded, List.data_toByteArray, List.toList_toArray, List.map_flatMap]
  rfl

/-- The bytes of a character are digits of its code point, behind marks that tell their number. -/
theorem charCodes_eq (char : Char) : charCodes char =
    if char.toNat < 0x80 then [char.toNat]
    else if char.toNat < 0x800 then [0xC0 + char.toNat / 0x40, 0x80 + char.toNat % 0x40]
    else if char.toNat < 0x10000 then
      [0xE0 + char.toNat / 0x1000, 0x80 + char.toNat / 0x40 % 0x40, 0x80 + char.toNat % 0x40]
    else [0xF0 + char.toNat / 0x40000, 0x80 + char.toNat / 0x1000 % 0x40,
      0x80 + char.toNat / 0x40 % 0x40, 0x80 + char.toNat % 0x40] := by
  have bound : char.val.toNat < 0x110000 := by
    have valid := char.valid
    simp only [UInt32.isValidChar, Nat.isValidChar] at valid
    omega
  change (String.utf8EncodeChar char).map UInt8.toNat = if char.val.toNat < _ then _ else _
  simp only [String.utf8EncodeChar, Char.toNat]
  generalize char.val.toNat = code at bound ⊢
  split_ifs <;> simp <;> omega

/-- The smaller of two characters has the smaller encoding, whatever follows. -/
theorem charCodes_append_lt {first second : Char} (less : first < second) (front back : List ℕ) :
    charCodes first ++ front < charCodes second ++ back := by
  have codes : first.toNat < second.toNat := less
  simp only [charCodes_eq]
  split_ifs <;> simp only [List.cons_append, List.nil_append, List.cons_lt_cons_iff] <;> omega

theorem charCodes_ne_nil (char : Char) : charCodes char ≠ [] := by
  simp [charCodes]

/-- Encoding keeps the order of texts. -/
theorem flatMap_charCodes_lt {first second : List Char} (less : first < second) :
    first.flatMap charCodes < second.flatMap charCodes := by
  induction less with
  | @nil char rest =>
    obtain ⟨head, tail, nonempty⟩ := List.exists_cons_of_ne_nil (charCodes_ne_nil char)
    simp only [List.flatMap_nil, List.flatMap_cons, nonempty, List.cons_append]
    exact List.nil_lt_cons ..
  | rel smaller => exact charCodes_append_lt smaller _ _
  | cons _ ih => exact List.Lex.append_left _ ih _

theorem codes_lt_codes {first second : String} (less : first < second) : codes first < codes second := by
  rw [codes_eq_flatMap, codes_eq_flatMap]
  exact flatMap_charCodes_lt (String.lt_iff_toList_lt.mp less)

/-- Texts compare like their bytes. -/
theorem codes_strictMono : StrictMono codes := fun _ _ less => codes_lt_codes less

end WordCompletion.Bytes

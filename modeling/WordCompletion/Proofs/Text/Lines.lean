import WordCompletion.CommandLine.Invocation
import WordCompletion.Proofs.Text.Utf8Order

/-! # Printed texts and their lines

Only characters below the space have bytes below it in UTF-8, and the line ends are among them. So a text without
such characters is one line when it is printed, and what is printed of several such texts has them as its lines.
-/

namespace WordCompletion

/-- A text without characters below the space. -/
def IsPlain (text : String) : Prop := ∀ char ∈ text.toList, 0x20 ≤ char.toNat

instance decidableIsPlain (text : String) : Decidable (IsPlain text) := List.decidableBAll _ _

namespace Bytes

theorem ofText_append (front back : String) : ofText (front ++ back) = ofText front ++ ofText back := by
  simp [ofText, String.toUTF8_eq_toByteArray, ByteArray.data_append]

theorem le_of_mem_ofText {text : String} (plain : IsPlain text) : ∀ byte ∈ ofText text, 0x20 ≤ byte.toNat := by
  intro byte member
  have code : byte.toNat ∈ codes text := List.mem_map_of_mem member
  rw [codes_eq_flatMap, List.mem_flatMap] at code
  obtain ⟨char, inside, code⟩ := code
  have shown := plain char inside
  rw [charCodes_eq] at code
  split_ifs at code <;> simp only [List.mem_cons, List.not_mem_nil, or_false] at code <;> omega

/-- Bytes without line ends are one line. -/
theorem lines_append_feed {line : Bytes} (plain : ∀ byte ∈ line, 0x20 ≤ byte.toNat) :
    lines (line ++ [lineFeed]) = [line] := by
  induction line with
  | nil => rfl
  | cons byte rest ih =>
    obtain ⟨first, others⟩ := List.forall_mem_cons.mp plain
    have noFeed : byte ≠ lineFeed := by
      rintro rfl
      exact absurd first (by decide)
    have noReturn : byte ≠ carriageReturn := by
      rintro rfl
      exact absurd first (by decide)
    have later := ih others
    rw [lines] at later ⊢
    simp only [List.cons_append, List.foldr_cons, LineScan.cons, noFeed, noReturn, if_false, false_and, later]

/-- What is printed of texts without characters below the space has them as its lines. -/
theorem lines_printedText {texts : List String} (plain : ∀ text ∈ texts, IsPlain text) :
    lines (ofText (printedText texts)) = texts.map ofText := by
  induction texts with
  | nil => rfl
  | cons text rest ih =>
    obtain ⟨first, others⟩ := List.forall_mem_cons.mp plain
    have printed : printedText (text :: rest) = text ++ "\n" ++ printedText rest := by
      simp [printedText, String.join_eq, String.append_assoc]
    have feed : ofText "\n" = [lineFeed] := by decide
    rw [printed, ofText_append, ofText_append, feed, List.append_assoc, List.singleton_append,
      lines_append_feed_append, lines_append_feed (le_of_mem_ofText first), ih others, List.singleton_append,
      List.map_cons]

end Bytes

end WordCompletion

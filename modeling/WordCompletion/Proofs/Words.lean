import WordCompletion.Proofs.Text.Runs
import WordCompletion.Words

/-! # Words, pieces and ends of texts

A text that is cut between its words has the words of its pieces, for instance if it is split wherever one of
several characters stands of which no word is made. No blank is a word character, so blanks at the end of a text
change none of its words, and a word has none to lose.
-/

namespace WordCompletion

theorem not_alphanumeric_blank : ∀ range ∈ Text.blankRanges,
    ∀ code ∈ List.range' range.1 (range.2 + 1 - range.1), Text.alphanumericRanges.contains code = false := by
  decide +kernel

theorem isWordChar_of_isBlank {char : Char} (blank : Text.isBlank char = true) : isWordChar char = false := by
  obtain ⟨range, member, low, high⟩ := (Text.isBlank_iff char).mp blank
  have inside : char.toNat ∈ List.range' range.1 (range.2 + 1 - range.1) := List.mem_range'_1.mpr (by omega)
  have other : Text.isAlphanumeric char = false := not_alphanumeric_blank range member _ inside
  have mark : char ≠ '_' := by
    rintro rfl
    exact absurd blank (by decide)
  simp [isWordChar, other, mark]

theorem isBlank_of_isWordChar {char : Char} (kept : isWordChar char = true) : Text.isBlank char = false := by
  rw [Bool.eq_false_iff]
  intro blank
  simp [isWordChar_of_isBlank blank] at kept

/-! ## The words of a text -/

variable {text word : String} {minimum : ℕ}

theorem isWordChar_of_mem_wordsOf (member : word ∈ wordsOf text minimum) :
    ∀ char ∈ word.toList, isWordChar char = true :=
  fun _ inside => Text.keep_of_mem_runs (mem_wordsOf.mp member).1 inside

theorem le_length_of_mem_wordsOf (member : word ∈ wordsOf text minimum) : max minimum 1 ≤ word.toList.length := by
  obtain ⟨run, long⟩ := mem_wordsOf.mp member
  have positive := List.length_pos_iff.mpr (Text.ne_nil_of_mem_runs run)
  omega

/-- Blanks at the end of a text do not show in its words. -/
theorem wordsOf_trimBlankEnd (text : String) (minimum : ℕ) :
    wordsOf (String.ofList (Text.trimBlankEnd text.toList)) minimum = wordsOf text minimum := by
  simp only [wordsOf, String.toList_ofList]
  rw [Text.runs_trimBlankEnd fun _ => isWordChar_of_isBlank]

/-! ## The words of pieces -/

/-- A text is cut into pieces at characters of no word. Such a character is dropped, or it stays at the end of
the piece before it or in front of the piece after it. -/
inductive Pieces : List Char → List (List Char) → Prop
  | whole (chars : List Char) : Pieces chars [chars]
  | dropped {front : List Char} {mark : Char} {back : List Char} {pieces : List (List Char)}
      (noWord : isWordChar mark = false) (rest : Pieces back pieces) :
      Pieces (front ++ mark :: back) (front :: pieces)
  | before {front : List Char} {mark : Char} {back : List Char} {pieces : List (List Char)}
      (noWord : isWordChar mark = false) (rest : Pieces back pieces) :
      Pieces (front ++ mark :: back) ((front ++ [mark]) :: pieces)
  | after {front : List Char} {mark : Char} {back : List Char} {pieces : List (List Char)}
      (noWord : isWordChar mark = false) (rest : Pieces (mark :: back) pieces) :
      Pieces (front ++ mark :: back) (front :: pieces)

/-- A character in front of a text that is cut belongs to the first piece. -/
theorem Pieces.cons {chars : List Char} {pieces : List (List Char)} (cut : Pieces chars pieces) (char : Char) :
    Pieces (char :: chars) (pieces.modifyHead (List.cons char)) := by
  cases cut with
  | whole => exact .whole _
  | dropped noWord rest => exact @Pieces.dropped (char :: _) _ _ _ noWord rest
  | before noWord rest => exact @Pieces.before (char :: _) _ _ _ noWord rest
  | after noWord rest => exact @Pieces.after (char :: _) _ _ _ noWord rest

/-- A text that is split at characters of no word, such as line feeds, is cut into pieces. -/
theorem pieces_splitOnP {splits : Char → Bool} (noWord : ∀ char, splits char = true → isWordChar char = false)
    (chars : List Char) : Pieces chars (chars.splitOnP splits) := by
  induction chars with
  | nil =>
    rw [List.splitOnP_nil]
    exact .whole []
  | cons char rest ih =>
    rw [List.splitOnP_cons_eq_if_modifyHead]
    split_ifs with split
    · exact @Pieces.dropped [] _ _ _ (noWord char split) ih
    · exact ih.cons char

/-- A text has the runs of its pieces. -/
theorem Pieces.runs_eq {chars : List Char} {pieces : List (List Char)} (cut : Pieces chars pieces) :
    Text.runs isWordChar chars = pieces.flatMap (Text.runs isWordChar) := by
  induction cut with
  | whole chars => simp
  | dropped noWord _ ih => rw [Text.runs_append_cons_of_not noWord, ih, List.flatMap_cons]
  | before noWord _ ih =>
    rw [Text.runs_append_cons_of_not noWord, ih, List.flatMap_cons]
    rw [Text.runs_append_of_not _ (by simpa using noWord)]
  | after noWord _ ih =>
    rw [Text.runs_append_cons_of_not noWord, List.flatMap_cons, ← ih, Text.runs_cons_of_not _ noWord]

/-- A text has the words of its pieces. -/
theorem Pieces.mem_wordsOf_iff {pieces : List String} (cut : Pieces text.toList (pieces.map String.toList)) :
    word ∈ wordsOf text minimum ↔ ∃ piece ∈ pieces, word ∈ wordsOf piece minimum := by
  simp only [mem_wordsOf, cut.runs_eq, List.mem_flatMap, List.mem_map]
  constructor
  · rintro ⟨⟨_, ⟨piece, member, rfl⟩, run⟩, long⟩
    exact ⟨piece, member, run, long⟩
  · rintro ⟨piece, member, run, long⟩
    exact ⟨⟨_, ⟨piece, member, rfl⟩, run⟩, long⟩

/-! ## A word alone -/

end WordCompletion

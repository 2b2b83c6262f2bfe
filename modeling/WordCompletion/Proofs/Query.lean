import WordCompletion.Proofs.Text.MaximalRuns
import WordCompletion.Proofs.Words
import WordCompletion.Query

/-! # What is asked for at a cursor

The word and the symbol before a cursor are the longest ends of the text without other characters than they may
have. No word character is a blank, so the symbol ends in the word, and nothing before a blank matters to either.
The word is the last word of the text, if it is long enough to be one. After a blank nothing is asked for, and a
word typed alone is its own word and its own symbol.
-/

namespace WordCompletion

variable {text word : String} {minimum : ℕ} {mark : Char}

/-! ## The longest ends -/

/-- The longest end of a text that has kept characters only. -/
structure Text.LongestEnd (keep : Char → Bool) (text part : String) : Prop where
  ends : part.toList <:+ text.toList
  kept : ∀ char ∈ part.toList, keep char = true
  longest : ∀ other : String, other.toList <:+ text.toList → (∀ char ∈ other.toList, keep char = true) →
    other.toList.length ≤ part.toList.length

theorem Text.longestEnd_trailing (keep : Char → Bool) (text : String) :
    LongestEnd keep text (String.ofList (trailing keep text.toList)) where
  ends := by
    rw [String.toList_ofList]
    exact trailing_suffix keep text.toList
  kept := by
    rw [String.toList_ofList]
    exact fun _ => keep_of_mem_trailing
  longest := by
    intro other ends kept
    rw [String.toList_ofList]
    exact (suffix_trailing ends kept).length_le

/-- The symbol ends in the word, which has no blanks. -/
theorem word_suffix_sym (text : String) : (Query.atCursor text).word.toList <:+ (Query.atCursor text).sym.toList := by
  rw [Query.atCursor_word_toList, Query.atCursor_sym_toList]
  refine Text.suffix_trailing (Text.trailing_suffix ..) fun char member => ?_
  simp [isBlank_of_isWordChar (Text.keep_of_mem_trailing member)]

/-- What stands before a blank is not asked for. -/
theorem atCursor_append (blank : Text.isBlank mark = true) (front back : String) :
    Query.atCursor (front ++ String.singleton mark ++ back) = Query.atCursor back := by
  have chars : (front ++ String.singleton mark ++ back).toList = front.toList ++ mark :: back.toList := by simp
  rw [Query.atCursor, chars, Text.trailing_append_cons_of_not (isWordChar_of_isBlank blank),
    Text.trailing_append_cons_of_not (by simp [blank]), Query.atCursor]

/-- The word before the cursor is one of the text. -/
theorem word_atCursor_mem_wordsOf (long : max minimum 1 ≤ (Query.atCursor text).word.toList.length) :
    (Query.atCursor text).word ∈ wordsOf text minimum := by
  rw [mem_wordsOf]
  rw [Query.atCursor_word_toList] at long ⊢
  refine ⟨Text.trailing_mem_runs ?_, (Nat.le_max_left ..).trans long⟩
  exact List.length_pos_iff.mp ((Nat.le_max_right ..).trans long)

/-- The word before the cursor is the longest end of the text that has word characters only, and the symbol, which
ends in it, the longest one without a blank. Nothing before a blank matters to them, and the word is one of the
words of the text if it is long enough. -/
theorem atCursor_longestEnds (text : String) :
    Text.LongestEnd isWordChar text (Query.atCursor text).word ∧
      Text.LongestEnd (fun char => !Text.isBlank char) text (Query.atCursor text).sym ∧
      (Query.atCursor text).word.toList <:+ (Query.atCursor text).sym.toList ∧
      (∀ front mark back, text = front ++ String.singleton mark ++ back → Text.isBlank mark = true →
        Query.atCursor text = Query.atCursor back) ∧
      ∀ minimum, max minimum 1 ≤ (Query.atCursor text).word.toList.length →
        (Query.atCursor text).word ∈ wordsOf text minimum := by
  refine ⟨Text.longestEnd_trailing _ text, Text.longestEnd_trailing _ text, word_suffix_sym text, ?_,
    fun _ => word_atCursor_mem_wordsOf⟩
  rintro front mark back rfl blank
  exact atCursor_append blank front back

/-- The value of a field is asked for with and without the name before it. -/
theorem atCursor_longestEnds_self_val :
    "x = self.val" = "x =" ++ String.singleton ' ' ++ "self.val" ∧ Text.isBlank ' ' = true ∧
      Query.atCursor "x = self.val" = Query.atCursor "self.val" ∧
      max 2 1 ≤ (Query.atCursor "x = self.val").word.toList.length ∧
      (Query.atCursor "x = self.val").word ∈ wordsOf "x = self.val" 2 := by
  have split : "x = self.val" = "x =" ++ String.singleton ' ' ++ "self.val" := by decide +kernel
  have blank : Text.isBlank ' ' = true := by decide
  have long : max 2 1 ≤ (Query.atCursor "x = self.val").word.toList.length := by decide +kernel
  obtain ⟨_, _, _, alone, member⟩ := atCursor_longestEnds "x = self.val"
  exact ⟨split, blank, alone "x =" ' ' "self.val" split blank, long, member 2 long⟩

/-! ## After a blank, and with a word alone -/

/-- After a blank nothing is asked for. -/
theorem atCursor_of_endsBlank (blank : Text.EndsBlank text.toList) : Query.atCursor text = {} := by
  obtain ⟨last, ending, blank⟩ := blank
  obtain ⟨front, split⟩ := List.getLast?_eq_some_iff.mp ending
  have whole : text = String.ofList front ++ String.singleton last ++ "" := by
    apply String.toList_injective
    simp [split]
  rw [whole, atCursor_append blank]
  rfl

end WordCompletion

import WordCompletion.Proofs.Ranking
import WordCompletion.Proofs.Text.MaximalRuns
import WordCompletion.Proofs.WordSet
import WordCompletion.Proofs.Words

/-! # Lists of words and how they combine

The words of a text are listed in the order in which they come first. So the words of two parts are listed one
after the other without those of the second part that are in the first, and asking for longer words only leaves
some out. A list of words that is joined into a text is what that text has for words.
-/

namespace WordCompletion

variable {text : String} {minimum : ℕ} {mark : Char}

/-- A text that is cut in two at a character of no word has the words of its front, and then those of its back
that are new. -/
theorem toList_wordsOf_append (noWord : isWordChar mark = false) (front back : String) (minimum : ℕ) :
    (wordsOf (front ++ String.singleton mark ++ back) minimum).toList =
      (wordsOf front minimum).toList ++ (wordsOf back minimum).toList.filter (· ∉ wordsOf front minimum) := by
  have chars : (front ++ String.singleton mark ++ back).toList = front.toList ++ mark :: back.toList := by simp
  rw [wordsOf, chars, Text.runs_append_cons_of_not noWord, List.filter_append, List.map_append, WordSet.ofList,
    WordSet.insertAll_append, WordSet.toList_insertAll]
  rfl

/-- Asking for longer words leaves the long ones among those that a smaller number gives, as they are listed. -/
theorem toList_wordsOf_of_le {fewer more : ℕ} (atMost : fewer ≤ more) (text : String) :
    (wordsOf text more).toList = (wordsOf text fewer).toList.filter (max more 1 ≤ ·.toList.length) := by
  have stricter : (Text.runs isWordChar text.toList).filter (more ≤ ·.length) =
      ((Text.runs isWordChar text.toList).filter (fewer ≤ ·.length)).filter (more ≤ ·.length) :=
    filter_eq_filter_filter (by simpa using fun _ => atMost.trans) _
  have lengths : (fun run : List Char => decide (more ≤ run.length)) =
      (fun word : String => decide (more ≤ word.toList.length)) ∘ String.ofList := by
    funext run
    simp
  have long : ∀ word ∈ (wordsOf text fewer).toList,
      decide (more ≤ word.toList.length) = decide (max more 1 ≤ word.toList.length) := by
    intro word member
    have positive := le_length_of_mem_wordsOf (WordSet.mem_iff.mpr member)
    exact decide_eq_decide.mpr (by omega)
  rw [wordsOf, stricter, lengths, ← List.filter_map, WordSet.toList_ofList_filter]
  exact List.filter_congr long

/-- Words that are joined by a character of no word are the words of the text that they make. -/
theorem wordsOf_intercalate (noWord : isWordChar mark = false) {words : WordSet}
    (solid : ∀ word ∈ words, (∀ char ∈ word.toList, isWordChar char = true) ∧ max minimum 1 ≤ word.toList.length) :
    wordsOf (String.intercalate (String.singleton mark) words.toList) minimum = words := by
  have chars : (String.intercalate (String.singleton mark) words.toList).toList =
      List.intercalate [mark] (words.toList.map String.toList) := by
    rw [String.toList_intercalate, String.toList_singleton]
  have runs : Text.runs isWordChar (List.intercalate [mark] (words.toList.map String.toList)) =
      words.toList.map String.toList := by
    apply Text.runs_intercalate noWord
    rw [List.forall_mem_map]
    intro word member
    obtain ⟨letters, long⟩ := solid word member
    exact ⟨List.length_pos_iff.mp (by omega), letters⟩
  have long : (words.toList.map String.toList).filter (minimum ≤ ·.length) = words.toList.map String.toList := by
    rw [List.filter_eq_self, List.forall_mem_map]
    intro word member
    exact decide_eq_true ((Nat.le_max_left ..).trans (solid word member).2)
  rw [wordsOf, chars, runs, long, List.map_map, String.ofList_comp_toList, List.map_id, WordSet.ofList_toList]

/-- Asking for longer words leaves the words that are that long in the order in which they are listed, and a list
of words that is joined into a text by a character of no word is what that text has for words. -/
theorem wordsOf_filter_intercalate (text : String) (fewer : ℕ) :
    (∀ more, fewer ≤ more →
      (wordsOf text more).toList = (wordsOf text fewer).toList.filter (max more 1 ≤ ·.toList.length)) ∧
    ∀ mark, isWordChar mark = false →
      wordsOf (String.intercalate (String.singleton mark) (wordsOf text fewer).toList) fewer = wordsOf text fewer :=
  ⟨fun _ atMost => toList_wordsOf_of_le atMost text, fun _ noWord => wordsOf_intercalate noWord fun _ member =>
    ⟨isWordChar_of_mem_wordsOf member, le_length_of_mem_wordsOf member⟩⟩

/-- Among the words of one character and more, repeated ones are not listed and not joined. -/
theorem wordsOf_filter_intercalate_ab : 1 ≤ 2 ∧ isWordChar ',' = false ∧
    (wordsOf "b ab, ñé b; ab" 1).toList = ["b", "ab", "ñé"] ∧
    (wordsOf "b ab, ñé b; ab" 2).toList =
      (wordsOf "b ab, ñé b; ab" 1).toList.filter (max 2 1 ≤ ·.toList.length) ∧
    wordsOf (String.intercalate (String.singleton ',') (wordsOf "b ab, ñé b; ab" 1).toList) 1 =
      wordsOf "b ab, ñé b; ab" 1 := by
  have noWord : isWordChar ',' = false := by decide +kernel
  obtain ⟨longer, joined⟩ := wordsOf_filter_intercalate "b ab, ñé b; ab" 1
  exact ⟨by decide, noWord, by decide +kernel, longer 2 (by decide), joined ',' noWord⟩

end WordCompletion

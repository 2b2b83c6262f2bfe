import WordCompletion.Text.Alphanumeric
import WordCompletion.Text.Runs
import WordCompletion.WordSet

/-! # The words of a text

A word is a maximal run of word characters: alphanumeric characters and underscores. `wordsOf` lists
the words of a text that have at least a given number of characters, each at its first occurrence.
-/

namespace WordCompletion

/-- A character that words are made of. -/
def isWordChar (char : Char) : Bool :=
  char == '_' || Text.isAlphanumeric char

/-- The distinct words of at least `minimum` characters, in order of first occurrence. -/
def wordsOf (text : String) (minimum : Nat) : WordSet :=
  .ofList (((Text.runs isWordChar text.toList).filter (minimum ≤ ·.length)).map String.ofList)

theorem mem_wordsOf {text word : String} {minimum : Nat} :
    word ∈ wordsOf text minimum ↔
      word.toList ∈ Text.runs isWordChar text.toList ∧ minimum ≤ word.toList.length := by
  simp only [wordsOf, WordSet.mem_ofList, List.mem_map, List.mem_filter, decide_eq_true_eq]
  constructor
  · rintro ⟨run, ⟨member, long⟩, rfl⟩
    simpa using ⟨member, long⟩
  · rintro ⟨member, long⟩
    exact ⟨word.toList, ⟨member, long⟩, by simp⟩

end WordCompletion

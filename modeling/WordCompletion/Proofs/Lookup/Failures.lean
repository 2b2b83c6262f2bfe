import Mathlib.Data.String.Basic
import WordCompletion.Proofs.Like.Prefix
import WordCompletion.Proofs.Lookup.Rows

/-! # When the engine fails

The pattern of some leading characters has one byte to four for each of them, and one more at its end. The
engine fails on a lookup when a pattern that it comes to evaluate has too many bytes: that of the word on
every stored word, that of the symbol on those that the first one leaves over. The backup tier evaluates
nothing that the primary tier did not, so it never fails on its own.
-/

namespace WordCompletion

/-! ## How many bytes a pattern has -/

namespace Like.Pattern

/-- Marks are single bytes, so an escape never takes more than the widest character does. -/
theorem utf8Len_quote_le (char : Char) : String.utf8Len (quote char) ≤ 4 := by
  unfold quote
  split_ifs with mark
  · rcases mark with rfl | rfl | rfl <;> decide
  · simpa using char.utf8Size_le_four

theorem utf8Len_quote_pos (char : Char) : 0 < String.utf8Len (quote char) := by
  unfold quote
  split_ifs
  · simp [char.utf8Size_pos]
  · simp [char.utf8Size_pos]

theorem utf8Len_flatMap_quote_le (chars : List Char) :
    String.utf8Len (chars.flatMap quote) ≤ 4 * chars.length := by
  induction chars with
  | nil => simp
  | cons char chars ih =>
    have first := utf8Len_quote_le char
    rw [List.flatMap_cons, String.utf8Len_append, List.length_cons]
    omega

theorem length_le_utf8Len_flatMap_quote (chars : List Char) :
    chars.length ≤ String.utf8Len (chars.flatMap quote) := by
  induction chars with
  | nil => simp
  | cons char chars ih =>
    have first := utf8Len_quote_pos char
    rw [List.flatMap_cons, String.utf8Len_append, List.length_cons]
    omega

theorem utf8ByteSize_startingWith (word : String) (count : ℕ) : (startingWith word count).utf8ByteSize =
    String.utf8Len ((word.toList.take count).flatMap quote) + 1 := by
  rw [startingWith, String.utf8ByteSize_ofList, String.utf8Len_append]
  rfl

/-- However wide the characters are, a pattern has four bytes for each and one more. -/
theorem utf8ByteSize_startingWith_le (word : String) (count : ℕ) :
    (startingWith word count).utf8ByteSize ≤ 4 * count + 1 := by
  have quoted := utf8Len_flatMap_quote_le (word.toList.take count)
  have taken : (word.toList.take count).length ≤ count := List.length_take_le ..
  rw [utf8ByteSize_startingWith]
  omega

theorem lt_utf8ByteSize_startingWith (word : String) (count : ℕ) :
    min count word.toList.length < (startingWith word count).utf8ByteSize := by
  have quoted := length_le_utf8Len_flatMap_quote (word.toList.take count)
  rw [List.length_take] at quoted
  rw [utf8ByteSize_startingWith]
  omega

/-- Fifty thousand leading characters are too many. -/
theorem maxPatternBytes_lt_byteSize {word : String} {count : ℕ} (asked : 50000 ≤ count)
    (typed : 50000 ≤ word.toList.length) : maxPatternBytes < (ofString (startingWith word count)).byteSize := by
  have bound := lt_utf8ByteSize_startingWith word count
  change 50000 < (startingWith word count).utf8ByteSize
  omega

/-- More leading characters make no shorter a pattern. -/
theorem utf8ByteSize_startingWith_mono (word : String) {fewer more : ℕ} (atMost : fewer ≤ more) :
    (startingWith word fewer).utf8ByteSize ≤ (startingWith word more).utf8ByteSize := by
  have split := List.take_append_drop fewer (word.toList.take more)
  rw [List.take_take, Nat.min_eq_left atMost] at split
  rw [utf8ByteSize_startingWith, utf8ByteSize_startingWith, ← split, List.flatMap_append, String.utf8Len_append]
  omega

theorem tooLong_eq_true_iff {pattern : Pattern} : pattern.tooLong = true ↔ maxPatternBytes < pattern.byteSize :=
  decide_eq_true_iff

end Like.Pattern

/-! ## Which lookups the engine fails on -/

namespace Request

variable {request : Request} {words : WordSet}

/-- The pattern of the word is evaluated on every stored word, that of the symbol on those that do not match
the first. -/
theorem likeFails_iff : request.LikeFails words ↔ words.toList ≠ [] ∧
    (Like.maxPatternBytes < request.wordPattern.byteSize ∨
      (Like.maxPatternBytes < request.symPattern.byteSize ∧
        ∃ stored ∈ words, request.wordPattern.matchesText stored = false)) := by
  constructor
  · rintro ⟨stored, member, fails⟩
    refine ⟨List.ne_nil_of_mem member, ?_⟩
    rcases Bool.or_eq_true_iff.mp fails with word | sym
    · exact .inl (Like.Pattern.tooLong_eq_true_iff.mp word)
    · obtain ⟨unmatched, long⟩ := Bool.and_eq_true_iff.mp sym
      exact .inr ⟨Like.Pattern.tooLong_eq_true_iff.mp long, stored, member, by simpa using unmatched⟩
  · rintro ⟨nonempty, word | ⟨long, stored, member, unmatched⟩⟩
    · obtain ⟨stored, member⟩ := List.exists_mem_of_ne_nil _ nonempty
      refine ⟨stored, member, ?_⟩
      simp [likeFailsOn, Like.Pattern.tooLong_eq_true_iff.mpr word]
    · refine ⟨stored, member, ?_⟩
      simp [likeFailsOn, Like.Pattern.tooLong_eq_true_iff.mpr long, unmatched]

/-- The engine reports a failure exactly if an evaluation fails. -/
theorem exists_run_eq_error_iff :
    (∃ error, request.lookup.run words.toList = .error error) ↔ request.LikeFails words := by
  constructor
  · rintro ⟨error, failed⟩
    by_contra evaluated
    rw [Lookup.run, Lookup.rows?, primary?_eq evaluated, backup?_eq evaluated] at failed
    split at failed
    · contradiction
    · rename_i undefined
      split at undefined <;> contradiction
  · intro fails
    exact ⟨Lookup.patternTooComplex, by rw [Lookup.run, rows?_eq_none fails]⟩

theorem isOperational_of_run {error : CacheError} (failed : request.lookup.run words.toList = .error error) :
    error.isOperational = true := by
  unfold Lookup.run at failed
  split at failed
  · contradiction
  · obtain rfl := Except.error.inj failed
    rfl

/-- What the backup tier evaluates, the primary tier has evaluated before. -/
theorem exists_backup?_of_primary? {rows : List Match}
    (evaluated : request.lookup.primary? words.toList = some rows) :
    ∃ others, request.lookup.backup? words.toList = some others := by
  have passed : ¬ request.LikeFails words := by
    intro fails
    rw [primary?_eq_none fails] at evaluated
    contradiction
  exact ⟨_, backup?_eq passed⟩

theorem rows_of_run_eq_error {error : CacheError} (failed : request.lookup.run words.toList = .error error) :
    request.lookup.rows words.toList = [] :=
  rows_eq_nil_of_likeFails (exists_run_eq_error_iff.mp ⟨error, failed⟩)

theorem maxPatternBytes_lt_of_le (request : Request) (asked : 50000 ≤ request.options.exactMatches.toNat)
    (typed : 50000 ≤ request.query.word.toList.length) :
    Like.maxPatternBytes < request.wordPattern.byteSize :=
  Like.Pattern.maxPatternBytes_lt_byteSize asked typed

/-- Patterns of so few characters have 49997 bytes at most. -/
theorem exists_run_eq_ok (few : request.options.exactMatches.toNat ≤ 12499) (words : WordSet) :
    ∃ rows, request.lookup.run words.toList = .ok rows := by
  have short : ∀ text, (Like.Pattern.ofString (Like.Pattern.startingWith text
      request.options.exactMatches.toNat)).tooLong = false := by
    intro text
    apply Like.Pattern.tooLong_eq_false
    have bound := Like.Pattern.utf8ByteSize_startingWith_le text request.options.exactMatches.toNat
    change (Like.Pattern.startingWith text _).utf8ByteSize ≤ 50000
    omega
  have evaluated : ¬ request.LikeFails words := not_likeFails (short _) (short _)
  cases result : request.lookup.run words.toList with
  | ok rows => exact ⟨rows, rfl⟩
  | error error => exact absurd (exists_run_eq_error_iff.mp ⟨error, result⟩) evaluated

end Request

end WordCompletion

import WordCompletion.Proofs.Like.Prefix
import WordCompletion.Proofs.Lookup.Tiers

/-! # Finding what was typed

A stored word that is typed in full matches its own pattern and is at no distance from itself, so it
qualifies for the primary tier whatever the options and the symbol are. Only a row cap can leave it out, and
only for as many words that are at no distance either and come first by length and bytes.
-/

namespace WordCompletion.Request

variable {request : Request} {words : WordSet} {word : String}

/-! ## The typed word qualifies -/

/-- No score of the symbol is better than none against the word. -/
theorem score_primary_eq_zero (zero : request.wordScore word = .zero) : request.score .primary word = .zero := by
  have least : ¬ (request.symScore word).position < Binary64.zero.position :=
    not_lt.mpr (Score.position_value_nonneg _)
  rw [score, zero, Lookup.better, if_neg least]

/-- No cutoff is below zero. -/
theorem zero_le_fuzzyCutoff (answerable : request.Answerable) :
    Binary64.zero.le request.options.fuzzyCutoff = true := by
  have inRange := ((MatchOptions.validate_eq_ok_iff _).mp answerable.valid).2
  exact (Bool.and_eq_true_iff.mp inRange).1

end WordCompletion.Request

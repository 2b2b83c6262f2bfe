import WordCompletion.Proofs.Lookup.Completions
import WordCompletion.ScoreFunction

/-! # The look-ahead on its way to the scorer

The look-ahead of the options is a size, goes to the engine as a signed number, arrives in the score function as a
size again and is added there to the number of characters typed. Large sizes become the largest signed number on
this way and negative numbers become zero, and nothing checks the sum. It needs no check: what arrives is below
half of all sizes, and so is the number of characters of a text. Nor does the cap show, for no candidate has a
character beyond it. So the scores, and with them the answers, are those of exact arithmetic with the look-ahead
that was asked for.
-/

namespace WordCompletion

/-- The look-ahead as it is bound to a statement. -/
def MatchOptions.boundLookAhead (options : MatchOptions) : Int64 :=
  if options.lookAhead.toNat ≤ maxSigned then options.lookAhead.toInt64 else .maxValue

namespace ScoreFunction

variable {typed candidate : String} {value : Int64} {lookAhead : UInt64}

/-! ## Sizes -/

theorem toNat_lookAheadOf (value : Int64) : (lookAheadOf value).toNat = value.toInt.toNat := by
  have small : value.toNatClampNeg < 2 ^ 63 := value.toNatClampNeg_lt
  rw [lookAheadOf, UInt64.toNat_ofNat_of_lt' (by change _ < 2 ^ 64; omega)]
  rfl

theorem toNat_lookAheadOf_lt (value : Int64) : (lookAheadOf value).toNat < 2 ^ 63 := by
  rw [toNat_lookAheadOf]
  exact value.toNatClampNeg_lt

/-- The cap on sizes and the floor under signed numbers make one cap. -/
theorem toNat_lookAheadOf_boundLookAhead (options : MatchOptions) :
    (lookAheadOf options.boundLookAhead).toNat = options.scoredLookAhead := by
  rw [toNat_lookAheadOf, MatchOptions.boundLookAhead, MatchOptions.scoredLookAhead]
  split_ifs with small
  · have signed : options.lookAhead.toInt64.toInt = options.lookAhead.toNat := by
      have below : options.lookAhead.toNat < 2 ^ 63 := Nat.lt_of_le_of_lt small (by decide)
      rw [← Int64.toInt_ofNat_of_lt below, ← UInt64.toInt64_ofNat', UInt64.ofNat_toNat]
    rw [signed, Int.toNat_natCast, Nat.min_eq_left small]
  · rw [Int64.toInt_maxValue, Nat.min_eq_right (by omega)]
    rfl

/-- A sum of sizes that fits is the sum. -/
theorem toNat_windowSize {chars : List Char} (fits : chars.length + lookAhead.toNat < 2 ^ 64) :
    (windowSize chars lookAhead).toNat = chars.length + lookAhead.toNat := by
  rw [windowSize, UInt64.toNat_add, UInt64.toNat_ofNat_of_lt' (by change _ < 2 ^ 64; omega), Nat.mod_eq_of_lt fits]

/-- Then the score is that of exact arithmetic. -/
theorem score_eq_dissimilarity (fits : lowerLength typed + lookAhead.toNat < 2 ^ 64) (candidate : String) :
    score typed candidate lookAhead = dissimilarity typed candidate lookAhead.toNat := by
  rw [score, dissimilarity, Score.ofLowercase, toNat_windowSize fits]

/-! ## Calls -/

/-- Called with a signed look-ahead, the score function adds without an overflow and answers the score that exact
arithmetic gives for a look-ahead. -/
structure ScoresExactly (typed candidate : String) (value : Int64) (lookAhead : ℕ) : Prop where
  fits : lowerLength typed + (lookAheadOf value).toNat < 2 ^ 64
  call_eq : call [.text typed, .text candidate, .integer value] = .ok (dissimilarity typed candidate lookAhead)

/-- Whatever signed number is passed, what it comes to is below half of all sizes, as the text typed is. -/
theorem scoresExactly (fits : lowerLength typed < 2 ^ 63) (candidate : String) (value : Int64) :
    ScoresExactly typed candidate value (max value.toInt 0).toNat := by
  have below := toNat_lookAheadOf_lt value
  have sum : lowerLength typed + (lookAheadOf value).toNat < 2 ^ 64 := by omega
  have floor : (max value.toInt 0).toNat = (lookAheadOf value).toNat := by
    rw [toNat_lookAheadOf]
    omega
  refine ⟨sum, ?_⟩
  rw [call, score_eq_dissimilarity sum, floor]

/-- A look-ahead that is capped on its way reaches past the end of the candidate all the same. -/
theorem scoresExactly_boundLookAhead (options : MatchOptions) (typedFits : lowerLength typed < 2 ^ 63)
    (candidateFits : lowerLength candidate < 2 ^ 63) :
    ScoresExactly typed candidate options.boundLookAhead options.lookAhead.toNat := by
  have below := toNat_lookAheadOf_lt options.boundLookAhead
  have sum : lowerLength typed + (lookAheadOf options.boundLookAhead).toNat < 2 ^ 64 := by omega
  refine ⟨sum, ?_⟩
  rw [call, score_eq_dissimilarity sum, toNat_lookAheadOf_boundLookAhead,
    dissimilarity_scoredLookAhead options (Nat.le_of_lt_succ candidateFits)]

end ScoreFunction

/-! ## Lookups -/

namespace Request

variable {request : Request} {words : WordSet}

/-- The lookup that looks ahead as far as the options ask, without a cap. -/
def uncapped (request : Request) : Lookup :=
  { request.lookup with lookAhead := request.options.lookAhead.toNat }

theorem wordScore_lookup (request : Request) {stored : String} (fits : lowerLength stored < 2 ^ 63) :
    request.lookup.wordScore stored =
      dissimilarity request.query.word stored request.options.lookAhead.toNat :=
  dissimilarity_scoredLookAhead request.options (Nat.le_of_lt_succ fits)

theorem symScore_lookup (request : Request) {stored : String} (fits : lowerLength stored < 2 ^ 63) :
    request.lookup.symScore stored =
      dissimilarity request.query.sym stored request.options.lookAhead.toNat :=
  dissimilarity_scoredLookAhead request.options (Nat.le_of_lt_succ fits)

theorem run_uncapped (request : Request) (fits : ∀ stored ∈ words, lowerLength stored < 2 ^ 63) :
    request.lookup.run words.toList = request.uncapped.run words.toList := by
  refine Lookup.run_congr (fun stored member => ?_) rfl rfl
  exact ⟨rfl, rfl, wordScore_lookup request (fits stored member), symScore_lookup request (fits stored member)⟩

/-- For typed texts and stored words of fewer than two to the 63 characters in lower case, and each look-ahead from
zero to the largest size: no call of the score function that a lookup makes overflows, and the scores that it ranks
by, what the engine does and the answer are those of exact arithmetic with the look-ahead as it was asked for. A call
with any signed number does not overflow either, and scores with that number or, if it is negative, with zero. -/
theorem select_lookAhead (request : Request) (words : WordSet) (wordFits : lowerLength request.query.word < 2 ^ 63)
    (symFits : lowerLength request.query.sym < 2 ^ 63) (storedFits : ∀ stored ∈ words, lowerLength stored < 2 ^ 63) :
    (∀ stored ∈ words,
      ScoreFunction.ScoresExactly request.query.word stored request.options.boundLookAhead
          request.options.lookAhead.toNat ∧
        ScoreFunction.ScoresExactly request.query.sym stored request.options.boundLookAhead
          request.options.lookAhead.toNat ∧
        request.lookup.wordScore stored =
          dissimilarity request.query.word stored request.options.lookAhead.toNat ∧
        request.lookup.symScore stored =
          dissimilarity request.query.sym stored request.options.lookAhead.toNat) ∧
    request.lookup.run words.toList = request.uncapped.run words.toList ∧
    (request.Answerable → words.select request = (request.uncapped.answer words.toList, words)) ∧
    ∀ typed candidate value, lowerLength typed < 2 ^ 63 →
      ScoreFunction.ScoresExactly typed candidate value (max value.toInt 0).toNat := by
  have run := run_uncapped request storedFits
  refine ⟨fun stored member => ?_, run, fun answerable => ?_, fun typed candidate value fits => ?_⟩
  · have fits := storedFits stored member
    exact ⟨ScoreFunction.scoresExactly_boundLookAhead request.options wordFits fits,
      ScoreFunction.scoresExactly_boundLookAhead request.options symFits fits,
      wordScore_lookup request fits, symScore_lookup request fits⟩
  · rw [select_eq answerable, ← Lookup.answer_eq, Lookup.answer_congr run]
  · exact ScoreFunction.scoresExactly fits candidate value

/-- The request for completions of two letters with the largest look-ahead that there is. -/
def farRequest : Request where
  options := { lookAhead := 0xFFFFFFFFFFFFFFFF }
  query := { word := "fo", sym := "fo" }

/-- The whole candidate is compared, four of whose six characters were not typed. A negative look-ahead leaves out
all of these. -/
theorem select_lookAhead_fo : lowerLength farRequest.query.word < 2 ^ 63 ∧
    lowerLength farRequest.query.sym < 2 ^ 63 ∧ (∀ stored ∈ WordSet.ofList ["foobar"], lowerLength stored < 2 ^ 63) ∧
    ScoreFunction.ScoresExactly "fo" "foobar" farRequest.options.boundLookAhead (2 ^ 64 - 1) ∧
    ((dissimilarity "fo" "foobar" (2 ^ 64 - 1)).unmatched, (dissimilarity "fo" "foobar" (2 ^ 64 - 1)).compared) =
      (4, 6) ∧
    (WordSet.ofList ["foobar"]).select farRequest =
      (farRequest.uncapped.answer ["foobar"], .ofList ["foobar"]) ∧
    farRequest.uncapped.answer ["foobar"] = .ok [.backup "foobar" "foobar"] ∧
    ScoreFunction.ScoresExactly "fo" "foobar" (-5) 0 := by
  have typedFits : lowerLength "fo" < 2 ^ 63 := by decide +kernel
  have storedFits : ∀ stored ∈ WordSet.ofList ["foobar"], lowerLength stored < 2 ^ 63 := by
    intro stored member
    obtain rfl : stored = "foobar" := by simpa using member
    decide +kernel
  obtain ⟨scores, _, answers, calls⟩ :=
    select_lookAhead farRequest (.ofList ["foobar"]) typedFits typedFits storedFits
  exact ⟨typedFits, typedFits, storedFits, (scores "foobar" (by simp)).1, by decide +kernel,
    answers ⟨rfl, by decide, rfl⟩, by decide +kernel, calls "fo" "foobar" (-5) typedFits⟩

end Request

end WordCompletion

import WordCompletion.Proofs.Binary64.Order
import WordCompletion.Proofs.Lookup.Recall

/-! # Completions of a typed beginning

What begins a word shares all of its characters with it, in lower case too, so that all that keeps the two
apart is what the scorer sees of the word by looking ahead. The beginning also matches whatever pattern is
made of it. So a word is found from any of its beginnings as soon as the cutoff allows for the characters
looked ahead, whatever stands in the other half of the query.
-/

namespace WordCompletion

/-- The number of characters of a text in lower case. -/
def lowerLength (text : String) : ℕ := (Text.lowercaseAll text.toList).length

/-- The number of characters of a word that the scorer sees beyond a beginning of it. -/
def lookedAhead (typed word : String) (lookAhead : ℕ) : ℕ := min lookAhead (lowerLength word - lowerLength typed)

/-! ## The score of a beginning -/

theorem leftOver_append_left (front back : List Char) : leftOver (front ++ back) front = back := by
  induction front with
  | nil => rfl
  | cons char rest ih => rw [leftOver, List.foldl_cons, List.cons_append, List.erase_cons_head, ← leftOver, ih]

theorem leftOver_append_right (front back : List Char) : leftOver front (front ++ back) = [] := by
  have nothing := leftOver_length_le (leftOver front front) back
  rw [leftOver, List.foldl_append, ← leftOver, ← leftOver]
  rw [leftOver_self] at nothing ⊢
  exact List.eq_nil_of_length_eq_zero (Nat.le_zero.mp nothing)

/-- What is compared is the beginning and, without partners, the characters looked ahead. -/
theorem Score.ofLowercase_append {typed : List Char} (nonempty : typed ≠ []) (rest : List Char) (lookAhead : ℕ) :
    (ofLowercase typed (typed ++ rest) lookAhead).unmatched = min lookAhead rest.length ∧
      (ofLowercase typed (typed ++ rest) lookAhead).compared = typed.length + min lookAhead rest.length := by
  have window : (typed ++ rest).take (typed.length + lookAhead) = typed ++ rest.take lookAhead := by
    rw [List.take_length_add_append]
  rw [ofLowercase, dif_neg nonempty, window]
  constructor
  · change max (leftOver _ _).length (leftOver _ _).length = _
    rw [leftOver_append_left, leftOver_append_right, List.length_nil, Nat.zero_max, List.length_take]
  · change max typed.length (typed ++ rest.take lookAhead).length = _
    rw [List.length_append, List.length_take, Nat.max_eq_right (Nat.le_add_right ..)]

variable {typed word : String}

theorem lowercaseAll_ne_nil (nonempty : typed ≠ "") : Text.lowercaseAll typed.toList ≠ [] := by
  obtain ⟨char, rest, split⟩ := List.exists_cons_of_ne_nil (mt String.toList_eq_nil_iff.mp nonempty)
  rw [split, Text.lowercaseAll, List.flatMap_cons]
  exact List.append_ne_nil_of_left_ne_nil (Text.lowercase_ne_nil char) _

theorem dissimilarity_of_isPrefix (nonempty : typed ≠ "") (begins : typed.toList <+: word.toList) (lookAhead : ℕ) :
    (dissimilarity typed word lookAhead).unmatched = lookedAhead typed word lookAhead ∧
      (dissimilarity typed word lookAhead).compared = lowerLength typed + lookedAhead typed word lookAhead := by
  obtain ⟨rest, split⟩ := begins
  have parts := Score.ofLowercase_append (lowercaseAll_ne_nil nonempty) (Text.lowercaseAll rest) lookAhead
  have length : lowerLength word - lowerLength typed = (Text.lowercaseAll rest).length := by
    rw [lowerLength, lowerLength, ← split, Text.lowercaseAll_append, List.length_append, Nat.add_sub_cancel_left]
  rwa [dissimilarity, ← split, Text.lowercaseAll_append, lookedAhead, length]

theorem value_dissimilarity_of_isPrefix (nonempty : typed ≠ "") (begins : typed.toList <+: word.toList)
    (lookAhead : ℕ) : (dissimilarity typed word lookAhead).value =
      .ofQuotient (lookedAhead typed word lookAhead) (lowerLength typed + lookedAhead typed word lookAhead) := by
  obtain ⟨unmatched, compared⟩ := dissimilarity_of_isPrefix nonempty begins lookAhead
  rw [Score.value, unmatched, compared]

/-- Looking ahead less far makes no score of a beginning worse. -/
theorem position_dissimilarity_mono (nonempty : typed ≠ "") (begins : typed.toList <+: word.toList)
    {nearer farther : ℕ} (atMost : nearer ≤ farther) : (dissimilarity typed word nearer).value.position ≤
      (dissimilarity typed word farther).value.position := by
  have positive : 0 < lowerLength typed := List.length_pos_iff.mpr (lowercaseAll_ne_nil nonempty)
  have fewer : lookedAhead typed word nearer ≤ lookedAhead typed word farther := min_le_min_right _ atMost
  rw [value_dissimilarity_of_isPrefix nonempty begins, value_dissimilarity_of_isPrefix nonempty begins]
  apply Binary64.position_ofQuotient_mono (Nat.le_add_left ..) (Nat.le_add_left ..) (Nat.add_pos_left positive _)
  rw [Nat.mul_add, Nat.mul_add, Nat.mul_comm (lookedAhead typed word farther) (lookedAhead typed word nearer)]
  exact Nat.add_le_add_right (Nat.mul_le_mul_right _ fewer) _

/-- With nothing to look at ahead there is no distance. -/
theorem lookedAhead_eq_zero {lookAhead : ℕ} (nothing : lookAhead = 0 ∨ typed = word) :
    lookedAhead typed word lookAhead = 0 := by
  rw [lookedAhead]
  rcases nothing with rfl | rfl
  · exact Nat.zero_min _
  · rw [Nat.sub_self, Nat.min_zero]

namespace Request

variable {request : Request} {words : WordSet}

/-! ## The completed word qualifies -/

theorem matchesText_of_isPrefix (typedIn : request.query.word = typed ∨ request.query.sym = typed)
    (begins : typed.toList <+: word.toList) :
    (request.wordPattern.matchesText word || request.symPattern.matchesText word) = true := by
  have matched : (Like.Pattern.ofString
      (Like.Pattern.startingWith typed request.options.exactMatches.toNat)).matchesText word = true :=
    Like.Pattern.matchesText_startingWith_of_isPrefix ((List.take_prefix ..).trans begins)
  rw [Bool.or_eq_true]
  rcases typedIn with rfl | rfl
  · exact .inl matched
  · exact .inr matched

/-- The better of two scores is no worse than that of the beginning, for which the scorer looks no farther
ahead than it is asked to. -/
theorem position_score_le_of_isPrefix (typedIn : request.query.word = typed ∨ request.query.sym = typed)
    (nonempty : typed ≠ "") (begins : typed.toList <+: word.toList) : (request.score .primary word).position ≤
      (dissimilarity typed word request.options.lookAhead.toNat).value.position := by
  have capped : request.options.scoredLookAhead ≤ request.options.lookAhead.toNat := Nat.min_le_left ..
  refine le_trans ?_ (position_dissimilarity_mono nonempty begins capped)
  rw [position_score_primary]
  rcases typedIn with rfl | rfl
  · exact min_le_left ..
  · exact min_le_right ..

theorem qualifies_of_isPrefix (answerable : request.Answerable)
    (typedIn : request.query.word = typed ∨ request.query.sym = typed) (nonempty : typed ≠ "")
    (begins : typed.toList <+: word.toList)
    (within : (dissimilarity typed word request.options.lookAhead.toNat).value.le
      request.options.fuzzyCutoff = true) : request.qualifies .primary word = true := by
  have number := isNaN_fuzzyCutoff answerable
  rw [Binary64.le_iff_position (Score.isNaN_value _) number] at within
  rw [qualifies, matchesText_of_isPrefix typedIn begins, Bool.true_and,
    Binary64.le_iff_position (isNaN_score ..) number]
  exact (position_score_le_of_isPrefix typedIn nonempty begins).trans within

/-- The score of a beginning is the quotient of the characters looked ahead by all that are compared, and a
lookup without a row cap for the beginning, as the word or as the symbol, has the word as a primary row if the
cutoff lets that quotient pass. It does at any cutoff if nothing is looked at ahead or the word is typed in
full. The store only has to be able to count its words. -/
theorem select_completion (nonempty : typed ≠ "") (begins : typed.toList <+: word.toList) :
    (∀ lookAhead, (dissimilarity typed word lookAhead).unmatched = lookedAhead typed word lookAhead ∧
      (dissimilarity typed word lookAhead).compared = lowerLength typed + lookedAhead typed word lookAhead) ∧
    ∀ (request : Request) (words : WordSet), request.Answerable → request.query.limitless = true →
      request.wordPattern.byteSize ≤ Like.maxPatternBytes → request.symPattern.byteSize ≤ Like.maxPatternBytes →
      words.size ≤ maxSigned → word ∈ words → request.query.word = typed ∨ request.query.sym = typed →
      (Binary64.ofQuotient (lookedAhead typed word request.options.lookAhead.toNat)
          (lowerLength typed + lookedAhead typed word request.options.lookAhead.toNat)).le
            request.options.fuzzyCutoff = true ∨ request.options.lookAhead = 0 ∨ typed = word →
      ∃ rows, words.select request = (.ok rows, words) ∧ .primary word ∈ rows := by
  refine ⟨dissimilarity_of_isPrefix nonempty begins, ?_⟩
  intro request words answerable limitless wordShort symShort counted member typedIn allowed
  have evaluated : ¬ request.LikeFails words :=
    not_likeFails (Like.Pattern.tooLong_eq_false wordShort) (Like.Pattern.tooLong_eq_false symShort)
  have within : (dissimilarity typed word request.options.lookAhead.toNat).value.le
      request.options.fuzzyCutoff = true := by
    rw [value_dissimilarity_of_isPrefix nonempty begins]
    rcases allowed with within | nothing
    · exact within
    · have zero : lookedAhead typed word request.options.lookAhead.toNat = 0 :=
        lookedAhead_eq_zero (nothing.imp_left (congrArg UInt64.toNat))
      rw [zero]
      exact zero_le_fuzzyCutoff answerable
  have qualified := qualifies_of_isPrefix answerable typedIn nonempty begins within
  refine ⟨_, select_eq answerable words, ?_⟩
  rw [rows_eq_ranking answerable evaluated limitless counted, tier_eq_primary ⟨word, member, qualified⟩]
  exact List.mem_map_of_mem (mem_ranking.mpr ⟨member, qualified⟩)

/-- The symbol begins the stored word and the word of the query begins nothing. -/
theorem select_completion_fo : "fo" ≠ "" ∧ "fo".toList <+: "foobar".toList ∧
    ((complete "zz" "fo").withCap 1 true).Answerable ∧ "foobar" ∈ WordSet.ofList ["bar", "foobar"] ∧
    lookedAhead "fo" "foobar" 2 = 2 ∧ lowerLength "fo" = 2 ∧
    ∃ rows, (WordSet.ofList ["bar", "foobar"]).select ((complete "zz" "fo").withCap 1 true) =
      (.ok rows, .ofList ["bar", "foobar"]) ∧ .primary "foobar" ∈ rows := by
  have answerable : ((complete "zz" "fo").withCap 1 true).Answerable := ⟨rfl, by decide, rfl⟩
  have begins : "fo".toList <+: "foobar".toList := by decide
  have member : "foobar" ∈ WordSet.ofList ["bar", "foobar"] := by simp
  have ahead : lookedAhead "fo" "foobar" 2 = 2 := by decide +kernel
  have length : lowerLength "fo" = 2 := by decide +kernel
  refine ⟨by decide, begins, answerable, member, ahead, length, ?_⟩
  refine (select_completion (by decide) begins).2 _ _ answerable rfl (by decide) (by decide) (by decide) member
    (.inr rfl) (.inl ?_)
  decide +kernel

end Request

end WordCompletion

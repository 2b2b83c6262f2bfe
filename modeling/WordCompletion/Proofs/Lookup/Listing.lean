import WordCompletion.Proofs.Lookup.Beginnings
import WordCompletion.Proofs.Lookup.Recall
import WordCompletion.Proofs.Lookup.Symmetry

/-! # Listing the store

Before anything is typed the word of a query is empty. Its pattern has no leading characters and matches every
stored word, so that the pattern of the symbol is never evaluated; and the empty word is at no distance from
anything, so that the symbol does not show in the score either. What is left of the ranking are the two keys after
the score: such a lookup lists the stored words by length and bytes.
-/

namespace WordCompletion

/-- What words at the same distance are ordered by: the number of characters before the first NUL, then the
bytes. -/
def listingKey (word : String) : ℕ ×ₗ List ℕ :=
  toLex ((Like.beforeNul word.toList).length, Bytes.codes word)

theorem listingKey_injective : Function.Injective listingKey :=
  fun _ _ same => Bytes.codes_strictMono.injective (Prod.mk.inj same).2

/-- Nothing typed is at no distance from any word. -/
theorem value_dissimilarity_empty (candidate : String) (lookAhead : ℕ) :
    (dissimilarity "" candidate lookAhead).value = .zero :=
  Score.value_eq_zero_of_unmatched rfl

namespace Request

variable {request : Request} {words : WordSet}

/-! ## An empty word -/

theorem matchesText_of_empty (empty : request.query.word = "") (stored : String) :
    request.wordPattern.matchesText stored = true := by
  apply Like.Pattern.matchesText_startingWith_of_isPrefix
  rw [empty, String.toList_empty, List.take_nil]
  exact List.nil_prefix

theorem tooLong_of_empty (empty : request.query.word = "") : request.wordPattern.tooLong = false := by
  apply Like.Pattern.tooLong_eq_false
  have bound := Like.Pattern.utf8ByteSize_startingWith request.query.word request.options.exactMatches.toNat
  rw [empty, String.toList_empty, List.take_nil] at bound
  change (Like.Pattern.startingWith request.query.word _).utf8ByteSize ≤ 50000
  rw [empty, bound]
  decide

/-- The engine does not come to evaluate the pattern of the symbol. -/
theorem not_likeFails_of_empty (empty : request.query.word = "") : ¬ request.LikeFails words := by
  rintro ⟨stored, _, fails⟩
  simp [likeFailsOn, tooLong_of_empty empty, matchesText_of_empty empty] at fails

theorem score_primary_of_empty (empty : request.query.word = "") (stored : String) :
    request.score .primary stored = .zero := by
  apply score_primary_eq_zero
  rw [wordScore, empty, value_dissimilarity_empty]

theorem qualifies_of_empty (answerable : request.Answerable) (empty : request.query.word = "") (stored : String) :
    request.qualifies .primary stored = true := by
  rw [qualifies, matchesText_of_empty empty, score_primary_of_empty empty, zero_le_fuzzyCutoff answerable]
  rfl

/-- With equal scores the rest of the key decides. -/
theorem key_le_of_empty (empty : request.query.word = "") {first second : String}
    (below : listingKey first ≤ listingKey second) : request.key .primary first ≤ request.key .primary second := by
  rw [key, key, score_primary_of_empty empty, score_primary_of_empty empty, rowKey, rowKey,
    Prod.Lex.toLex_le_toLex]
  exact .inr ⟨rfl, below⟩

/-! ## The listing -/

theorem ranking_of_empty (answerable : request.Answerable) (empty : request.query.word = "") (words : WordSet) :
    request.ranking .primary words = sortedBy listingKey words.toList := by
  have everything : words.toList.filter (request.qualifies .primary) = words.toList :=
    List.filter_eq_self.mpr fun stored _ => qualifies_of_empty answerable empty stored
  rw [ranking, everything]
  symm
  apply eq_sortedBy (request.key_injective .primary) (sortedBy_perm listingKey words.toList)
  exact (sortedBy_pairwise_le listingKey words.toList).imp (key_le_of_empty empty)

/-- The rows are the words that come first in the listing; if there is nothing to list, there are none. -/
theorem rows_of_empty (answerable : request.Answerable) (empty : request.query.word = "") (words : WordSet) :
    request.lookup.rows words.toList =
      ((sortedBy listingKey words.toList).take request.limit).map Match.primary := by
  have evaluated : ¬ request.LikeFails words := not_likeFails_of_empty empty
  cases answering : request.tier words with
  | primary =>
    rw [rows_eq answerable evaluated, answering, ranking_of_empty answerable empty]
    rfl
  | backup =>
    have nothing : words.toList = [] := by
      rw [List.eq_nil_iff_forall_not_mem]
      intro stored member
      have unqualified := unqualified_of_tier_eq_backup answering stored member
      rw [qualifies_of_empty answerable empty] at unqualified
      contradiction
    rw [(rows_eq_nil_iff answerable evaluated).mpr (by simp [WordSet.mem_iff, nothing]), nothing]
    simp [sortedBy]

/-- A lookup for the empty word lists the stored words by length and bytes, as far as the limit lets it, in primary
rows. Neither the symbol, however long its pattern is, nor the leading characters asked for, the look-ahead or the
cutoff changes anything, and the engine does not fail. -/
theorem select_empty_word (answerable : request.Answerable) (words : WordSet) :
    ∃ listed : List String, listed.Perm words.toList ∧
      listed.Pairwise (fun first second => listingKey first < listingKey second) ∧
      (listed.take request.limit).length = min request.limit words.size ∧
      ∀ sym, words.select (request.asking "" sym) = (.ok ((listed.take request.limit).map Match.primary), words) ∧
        (request.asking "" sym).lookup.run words.toList = .ok ((listed.take request.limit).map Match.primary) := by
  have perm := sortedBy_perm listingKey words.toList
  refine ⟨_, perm, sortedBy_pairwise listingKey_injective words.nodup, ?_, fun sym => ?_⟩
  · rw [List.length_take, perm.length_eq, WordSet.size]
  · have asked := answerable_asking answerable "" sym
    have rows := rows_of_empty asked rfl words
    have evaluated : ¬ (request.asking "" sym).LikeFails words := not_likeFails_of_empty rfl
    rw [select_eq asked, run_of_not_likeFails evaluated, rows]
    exact ⟨rfl, rfl⟩

/-- A request for three words at most that share more leading characters than a pattern can have. -/
def threeWords : Request where
  options := { exactMatches := 50000, maxResults := 3 }

/-- What stands after a NUL makes a word no longer. The symbol's pattern could not be evaluated. -/
theorem select_empty_word_nul : threeWords.Answerable ∧
    Like.maxPatternBytes <
      (threeWords.asking "" (String.ofList (List.replicate 50000 'x'))).symPattern.byteSize ∧
    (WordSet.ofList ["abc", "b", "a\x00zz", ""]).select
        (threeWords.asking "" (String.ofList (List.replicate 50000 'x'))) =
      (.ok [.primary "", .primary "a\x00zz", .primary "b"], .ofList ["abc", "b", "a\x00zz", ""]) := by
  have answerable : threeWords.Answerable := ⟨rfl, by decide, rfl⟩
  have typed : (String.ofList (List.replicate 50000 'x')).toList.length = 50000 := by
    rw [String.toList_ofList, List.length_replicate]
  have ascending : ["", "a\x00zz", "b", "abc"].Pairwise fun first second => listingKey first ≤ listingKey second := by
    decide +kernel
  obtain ⟨listed, perm, sorted, _, answers⟩ := select_empty_word answerable (.ofList ["abc", "b", "a\x00zz", ""])
  have same : listed = ["", "a\x00zz", "b", "abc"] := by
    rw [eq_sortedBy listingKey_injective perm (sorted.imp le_of_lt)]
    exact (eq_sortedBy listingKey_injective (by decide +kernel) ascending).symm
  refine ⟨answerable, Like.Pattern.maxPatternBytes_lt_byteSize (by decide) typed.ge, ?_⟩
  rw [(answers _).1, same]
  rfl

end Request

end WordCompletion

import WordCompletion.Proofs.Lookup.Failures
import WordCompletion.Proofs.Lookup.Tiers

/-! # More leading characters to share

Asking for more leading characters makes both patterns stricter, whether or not NULs and marks are among
these characters, and it makes neither pattern shorter. So a lookup only loses candidates, whose order
stays, and an engine that evaluates the longer patterns evaluates the shorter ones too. Once both texts are
shared in full there is nothing more to ask for.
-/

namespace WordCompletion.Request

variable {request : Request} {words : WordSet} {fewer more : UInt64}

/-- The request with another number of leading characters to share. -/
def withExactMatches (request : Request) (count : UInt64) : Request :=
  { request with options := { request.options with exactMatches := count } }

theorem answerable_withExactMatches (answerable : request.Answerable) (count : UInt64) :
    (request.withExactMatches count).Answerable :=
  ⟨answerable.looksUp, answerable.valid, answerable.live⟩

/-! ## Stricter patterns -/

/-- What qualifies when more is asked for qualifies when less is. -/
theorem qualifies_withExactMatches_of_le (atMost : fewer ≤ more) {tier : Tier} {stored : String}
    (qualified : (request.withExactMatches more).qualifies tier stored = true) :
    (request.withExactMatches fewer).qualifies tier stored = true := by
  cases tier with
  | backup => exact Like.Pattern.matchesText_startingWith_of_le atMost qualified
  | primary =>
    obtain ⟨matched, within⟩ := Bool.and_eq_true_iff.mp qualified
    refine Bool.and_eq_true_iff.mpr ⟨?_, within⟩
    rw [Bool.or_eq_true] at matched ⊢
    exact matched.imp (Like.Pattern.matchesText_startingWith_of_le atMost)
      (Like.Pattern.matchesText_startingWith_of_le atMost)

/-- A pattern of more leading characters is too long if that of fewer is. -/
theorem tooLong_startingWith_of_le {word : String} {fewer more : ℕ} (atMost : fewer ≤ more)
    (long : (Like.Pattern.ofString (Like.Pattern.startingWith word fewer)).tooLong = true) :
    (Like.Pattern.ofString (Like.Pattern.startingWith word more)).tooLong = true := by
  rw [Like.Pattern.tooLong_eq_true_iff] at long ⊢
  exact long.trans_le (Like.Pattern.utf8ByteSize_startingWith_mono word atMost)

/-- The engine fails on no store for which it did not when more was asked for: shorter patterns are no longer
too long, and a word spared the pattern of the symbol by that of the word is still spared it. -/
theorem likeFails_withExactMatches_of_le (atMost : fewer ≤ more)
    (fails : (request.withExactMatches fewer).LikeFails words) :
    (request.withExactMatches more).LikeFails words := by
  obtain ⟨stored, member, long⟩ := fails
  refine ⟨stored, member, ?_⟩
  rw [likeFailsOn, Bool.or_eq_true, Bool.and_eq_true, Bool.not_eq_true'] at long ⊢
  refine long.imp (tooLong_startingWith_of_le atMost) fun both => ⟨?_, tooLong_startingWith_of_le atMost both.2⟩
  rw [Bool.eq_false_iff] at both ⊢
  exact mt (Like.Pattern.matchesText_startingWith_of_le atMost) both.1

/-! ## Fewer rows -/

theorem ranking_withExactMatches_sublist (request : Request) (atMost : fewer ≤ more) (tier : Tier)
    (words : WordSet) : ((request.withExactMatches more).ranking tier words).Sublist
      ((request.withExactMatches fewer).ranking tier words) :=
  sortedBy_filter_sublist (request.key_injective tier) (fun _ => qualifies_withExactMatches_of_le atMost) words.toList

theorem tier_withExactMatches (atMost : fewer ≤ more)
    (primary : (request.withExactMatches more).tier words = .primary) :
    (request.withExactMatches fewer).tier words = .primary :=
  tier_mono (fun _ member qualified => ⟨member, qualifies_withExactMatches_of_le atMost qualified⟩) primary

/-- Without a row cap the rows of one tier under both numbers are nested. -/
theorem rows_withExactMatches_sublist (answerable : request.Answerable) (limitless : request.query.limitless = true)
    (counted : words.size ≤ maxSigned) (atMost : fewer ≤ more)
    (evaluated : ¬ (request.withExactMatches more).LikeFails words)
    (same : (request.withExactMatches fewer).tier words = (request.withExactMatches more).tier words) :
    ((request.withExactMatches more).lookup.rows words.toList).Sublist
      ((request.withExactMatches fewer).lookup.rows words.toList) := by
  have strict := answerable_withExactMatches answerable more
  have lax := answerable_withExactMatches answerable fewer
  have laxEvaluated := mt (likeFails_withExactMatches_of_le atMost) evaluated
  rw [rows_eq_ranking strict evaluated limitless counted, rows_eq_ranking lax laxEvaluated limitless counted, same]
  exact (ranking_withExactMatches_sublist request atMost _ words).map _

/-- Leading characters beyond the ends of both texts are not there to be shared. -/
theorem lookup_withExactMatches_eq (atMost : fewer ≤ more) (word : request.query.word.toList.length ≤ fewer.toNat)
    (sym : request.query.sym.toList.length ≤ fewer.toNat) :
    (request.withExactMatches more).lookup = (request.withExactMatches fewer).lookup := by
  have same : ∀ text : String, text.toList.length ≤ fewer.toNat →
      Like.Pattern.startingWith text more.toNat = Like.Pattern.startingWith text fewer.toNat := by
    intro text covered
    have smaller : fewer.toNat ≤ more.toNat := atMost
    rw [Like.Pattern.startingWith, Like.Pattern.startingWith, List.take_of_length_le covered,
      List.take_of_length_le (covered.trans smaller)]
  simp only [lookup, withExactMatches, Lookup.prepare, same _ word, same _ sym]
  rfl

/-- Asking for more leading characters to be shared leaves some of the rows of a lookup without a cap, in
their order, as long as the store can count its words: if it leaves primary rows, those before were primary
too, and if it leaves backup rows, they are some of those before unless primary ones stood in their place.
Once the number covers both texts it makes no difference, with a cap or without. -/
theorem select_withExactMatches (answerable : request.Answerable) (words : WordSet) (atMost : fewer ≤ more) :
    ∃ rows others, words.select (request.withExactMatches more) = (.ok rows, words) ∧
      words.select (request.withExactMatches fewer) = (.ok others, words) ∧
      (request.query.limitless = true → words.size ≤ maxSigned → rows ≠ [] →
        ((∀ row ∈ rows, row.tier = .primary) →
          others ≠ [] ∧ (∀ row ∈ others, row.tier = .primary) ∧ rows.Sublist others) ∧
        ((∀ row ∈ rows, row.tier = .backup) → others ≠ [] → (∀ row ∈ others, row.tier = .backup) →
          rows.Sublist others)) ∧
      (request.query.word.toList.length ≤ fewer.toNat → request.query.sym.toList.length ≤ fewer.toNat →
        rows = others) := by
  have strict := answerable_withExactMatches answerable more
  have lax := answerable_withExactMatches answerable fewer
  refine ⟨_, _, select_eq strict words, select_eq lax words, ?_, ?_⟩
  · intro limitless counted nonempty
    have evaluated := not_likeFails_of_rows nonempty
    constructor
    · intro tiers
      have primary := tier_eq_of_rows strict nonempty tiers
      have answering := tier_withExactMatches atMost primary
      obtain ⟨some, all⟩ := rows_of_qualified lax (mt (likeFails_withExactMatches_of_le atMost) evaluated)
        (exists_of_tier_eq_primary answering)
      exact ⟨some, all, rows_withExactMatches_sublist answerable limitless counted atMost evaluated
        (answering.trans primary.symm)⟩
    · intro tiers otherNonempty otherTiers
      exact rows_withExactMatches_sublist answerable limitless counted atMost evaluated
        ((tier_eq_of_rows lax otherNonempty otherTiers).trans (tier_eq_of_rows strict nonempty tiers).symm)
  · intro word sym
    rw [lookup_withExactMatches_eq atMost word sym]

/-- The second letter leaves one of two rows. -/
theorem select_withExactMatches_fo : ((complete "fo" "fo").withCap 1 true).Answerable ∧ (1 : UInt64) ≤ 2 ∧
    (WordSet.ofList ["fx", "fo"]).select (((complete "fo" "fo").withCap 1 true).withExactMatches 2) =
      (.ok [.primary "fo"], .ofList ["fx", "fo"]) ∧
    ∃ others, (WordSet.ofList ["fx", "fo"]).select (((complete "fo" "fo").withCap 1 true).withExactMatches 1) =
        (.ok others, .ofList ["fx", "fo"]) ∧
      others = [.primary "fo", .primary "fx"] ∧ [Match.primary "fo"].Sublist others := by
  have answerable : ((complete "fo" "fo").withCap 1 true).Answerable := ⟨rfl, by decide, rfl⟩
  have lax := answerable_withExactMatches answerable 1
  have evaluated : ¬ (((complete "fo" "fo").withCap 1 true).withExactMatches 1).LikeFails (.ofList ["fx", "fo"]) :=
    not_likeFails (by decide) (by decide)
  have primary : (((complete "fo" "fo").withCap 1 true).withExactMatches 1).tier (.ofList ["fx", "fo"]) = .primary := by
    decide +kernel
  have one : (WordSet.ofList ["fx", "fo"]).select (((complete "fo" "fo").withCap 1 true).withExactMatches 2) =
      (.ok [.primary "fo"], .ofList ["fx", "fo"]) := by decide +kernel
  have two : (WordSet.ofList ["fx", "fo"]).select (((complete "fo" "fo").withCap 1 true).withExactMatches 1) =
      (.ok [.primary "fo", .primary "fx"], .ofList ["fx", "fo"]) :=
    select_of_sorted lax evaluated primary ["fo", "fx"] (by decide +kernel) (by decide +kernel)
  obtain ⟨rows, others, first, second, nested, _⟩ :=
    select_withExactMatches answerable (.ofList ["fx", "fo"]) (show (1 : UInt64) ≤ 2 by decide)
  obtain rfl := rows_unique one first
  obtain rfl := rows_unique two second
  exact ⟨answerable, by decide, one, _, two, rfl,
    ((nested rfl (by decide) (by simp)).1 (by simp [Match.tier])).2.2⟩

end WordCompletion.Request

import WordCompletion.Proofs.Like.Prefix
import WordCompletion.Proofs.Lookup.Tiers
import WordCompletion.Proofs.WordSet

/-! # One more stored word

What an answer without a row cap owes to one stored word. A further word that qualifies for the tier that
answers takes one place among the rows, whose order stays; one that does not qualify leaves no trace. The
tier changes in one case only: the first word to qualify for the primary tier is the single row.
-/

namespace WordCompletion

namespace Match

/-- The second rows are the first ones with one row put in somewhere. -/
def PutIn (row : Match) (rows others : List Match) : Prop :=
  ∃ front back, rows = front ++ back ∧ others = front ++ row :: back

end Match

namespace Request

variable {request : Request} {words : WordSet} {added : String}

/-! ## Rankings -/

theorem ranking_insert_of_not (fresh : added ∉ words) {tier : Tier}
    (unqualified : request.qualifies tier added = false) :
    request.ranking tier (words.insert added) = request.ranking tier words := by
  simp [ranking, WordSet.toList_insert fresh, unqualified]

theorem exists_ranking_insert (fresh : added ∉ words) {tier : Tier}
    (qualified : request.qualifies tier added = true) :
    ∃ front back, request.ranking tier words = front ++ back ∧
      request.ranking tier (words.insert added) = front ++ added :: back := by
  have last : (words.insert added).toList.filter (request.qualifies tier) =
      words.toList.filter (request.qualifies tier) ++ [added] := by
    simp [WordSet.toList_insert fresh, qualified]
  rw [ranking, ranking, last]
  exact exists_sortedBy_append_singleton (request.key_injective tier) _ added

/-- A word that qualifies for a tier is put in among its rows, one that does not leaves them. -/
theorem map_ranking_insert (fresh : added ∉ words) (tier : Tier) :
    (request.ranking tier (words.insert added)).map (Match.ofTier tier) =
        (request.ranking tier words).map (Match.ofTier tier) ∨
      Match.PutIn (Match.ofTier tier added) ((request.ranking tier words).map (Match.ofTier tier))
        ((request.ranking tier (words.insert added)).map (Match.ofTier tier)) := by
  cases qualified : request.qualifies tier added with
  | false => exact .inl (by rw [ranking_insert_of_not fresh qualified])
  | true =>
    obtain ⟨front, back, before, after⟩ := exists_ranking_insert fresh qualified
    exact .inr ⟨front.map _, back.map _, by rw [before, List.map_append],
      by rw [after, List.map_append, List.map_cons]⟩

/-- The first word to qualify for a tier is alone there. -/
theorem ranking_insert_of_unqualified (fresh : added ∉ words) {tier : Tier}
    (unqualified : ∀ stored ∈ words, request.qualifies tier stored = false)
    (qualified : request.qualifies tier added = true) : request.ranking tier (words.insert added) = [added] := by
  obtain ⟨front, back, before, after⟩ := exists_ranking_insert fresh qualified
  rw [ranking_eq_nil_iff.mpr unqualified] at before
  obtain ⟨rfl, rfl⟩ := List.append_eq_nil_iff.mp before.symm
  exact after

/-! ## Tiers -/

/-- Primary rows are never lost to a word more. -/
theorem tier_insert_of_primary (primary : request.tier words = .primary) (added : String) :
    request.tier (words.insert added) = .primary :=
  tier_mono (fun _ member qualified => ⟨WordSet.mem_insert.mpr (.inl member), qualified⟩) primary

theorem tier_insert_of_not (fresh : added ∉ words) (unqualified : request.qualifies .primary added = false) :
    request.tier (words.insert added) = request.tier words := by
  simp [tier, WordSet.toList_insert fresh, unqualified]

/-- A word outside both patterns qualifies for no tier. -/
theorem qualifies_eq_false (word : request.wordPattern.matchesText added = false)
    (sym : request.symPattern.matchesText added = false) (tier : Tier) :
    request.qualifies tier added = false := by
  cases tier <;> simp [qualifies, word, sym]

/-! ## Answers -/

/-- Whatever the row cap, a word that matches neither pattern is not missed. -/
theorem rows_insert_of_not (answerable : request.Answerable) (evaluated : ∀ words, ¬ request.LikeFails words)
    (fresh : added ∉ words) (unqualified : ∀ tier, request.qualifies tier added = false) :
    request.lookup.rows (words.insert added).toList = request.lookup.rows words.toList := by
  rw [rows_eq answerable (evaluated _), rows_eq answerable (evaluated _),
    tier_insert_of_not fresh (unqualified .primary), ranking_insert_of_not fresh (unqualified _)]

/-- A word more never empties an answer, whatever the row cap. -/
theorem rows_insert_ne_nil (answerable : request.Answerable) (evaluated : ∀ words, ¬ request.LikeFails words)
    (nonempty : request.lookup.rows words.toList ≠ []) (added : String) :
    request.lookup.rows (words.insert added).toList ≠ [] := by
  rw [Ne, rows_eq_nil_iff answerable (evaluated _)] at nonempty ⊢
  push Not at nonempty ⊢
  cases changed : request.tier (words.insert added) with
  | primary =>
    obtain ⟨stored, member, qualified⟩ := exists_of_tier_eq_primary changed
    exact ⟨stored, member, Bool.ne_false_iff.mpr qualified⟩
  | backup =>
    obtain ⟨stored, member, qualified⟩ := nonempty
    cases answering : request.tier words with
    | primary => exact absurd (changed.symm.trans (tier_insert_of_primary answering added)) nofun
    | backup => exact ⟨stored, WordSet.mem_insert.mpr (.inl member), answering ▸ qualified⟩

theorem rows_insert_of_primary (answerable : request.Answerable) (evaluated : ∀ words, ¬ request.LikeFails words)
    (limitless : request.query.limitless = true) (fresh : added ∉ words)
    (counted : (words.insert added).size ≤ maxSigned) (primary : request.tier words = .primary) :
    request.lookup.rows (words.insert added).toList = request.lookup.rows words.toList ∨
      Match.PutIn (.primary added) (request.lookup.rows words.toList)
        (request.lookup.rows (words.insert added).toList) := by
  have fewer := (WordSet.size_le_insert words added).trans counted
  rw [rows_eq_ranking answerable (evaluated _) limitless fewer,
    rows_eq_ranking answerable (evaluated _) limitless counted, primary, tier_insert_of_primary primary]
  exact map_ranking_insert fresh .primary

theorem rows_insert_of_backup (answerable : request.Answerable) (evaluated : ∀ words, ¬ request.LikeFails words)
    (limitless : request.query.limitless = true) (fresh : added ∉ words)
    (counted : (words.insert added).size ≤ maxSigned) (backup : request.tier words = .backup) :
    request.lookup.rows (words.insert added).toList = request.lookup.rows words.toList ∨
      Match.PutIn (.ofBackup added) (request.lookup.rows words.toList)
        (request.lookup.rows (words.insert added).toList) ∨
      request.lookup.rows (words.insert added).toList = [.primary added] := by
  have fewer := (WordSet.size_le_insert words added).trans counted
  rw [rows_eq_ranking answerable (evaluated _) limitless fewer,
    rows_eq_ranking answerable (evaluated _) limitless counted, backup]
  cases qualified : request.qualifies .primary added with
  | true =>
    have primary : request.tier (words.insert added) = .primary :=
      tier_eq_primary ⟨added, WordSet.mem_insert.mpr (.inr rfl), qualified⟩
    rw [primary, ranking_insert_of_unqualified fresh (unqualified_of_tier_eq_backup backup) qualified]
    exact .inr (.inr rfl)
  | false =>
    rw [tier_insert_of_not fresh qualified, backup, ← or_assoc]
    exact .inl (map_ranking_insert fresh .backup)

/-- Storing one more word changes the rows of a lookup without a cap in one place at most. Primary rows
gain it as a primary row or stay as they are; backup rows, if any, gain it as a backup row or stay, or give
way to it when it is the first to qualify for the primary tier. With or without a cap, a word that matches
neither pattern changes nothing and no word empties an answer. -/
theorem select_insert (answerable : request.Answerable)
    (wordShort : request.wordPattern.byteSize ≤ Like.maxPatternBytes)
    (symShort : request.symPattern.byteSize ≤ Like.maxPatternBytes) (fresh : added ∉ words) :
    ∃ rows others, words.select request = (.ok rows, words) ∧
      (words.insert added).select request = (.ok others, words.insert added) ∧
      (request.query.limitless = true → (words.insert added).size ≤ maxSigned →
        ((rows ≠ [] ∧ ∀ row ∈ rows, row.tier = .primary) ∧
            (others = rows ∨ Match.PutIn (.primary added) rows others)) ∨
          ((∀ row ∈ rows, row.tier = .backup) ∧
            (others = rows ∨ Match.PutIn (.ofBackup added) rows others ∨ others = [.primary added]))) ∧
      (request.wordPattern.matchesText added = false → request.symPattern.matchesText added = false →
        others = rows) ∧
      (rows ≠ [] → others ≠ []) := by
  have evaluated : ∀ words, ¬ request.LikeFails words :=
    fun _ => not_likeFails (Like.Pattern.tooLong_eq_false wordShort) (Like.Pattern.tooLong_eq_false symShort)
  refine ⟨_, _, select_eq answerable words, select_eq answerable _, ?_, ?_, ?_⟩
  · intro limitless counted
    cases answering : request.tier words with
    | primary =>
      have qualified := exists_of_tier_eq_primary answering
      exact .inl ⟨rows_of_qualified answerable (evaluated words) qualified,
        rows_insert_of_primary answerable evaluated limitless fresh counted answering⟩
    | backup =>
      have unqualified := unqualified_of_tier_eq_backup answering
      exact .inr ⟨(rows_of_unqualified answerable (evaluated words) unqualified).1,
        rows_insert_of_backup answerable evaluated limitless fresh counted answering⟩
  · intro word sym
    exact rows_insert_of_not answerable evaluated fresh (qualifies_eq_false word sym)
  · exact fun nonempty => rows_insert_ne_nil answerable evaluated nonempty added

/-- The typed word itself changes an answer in one place, a word that begins otherwise goes unnoticed. -/
theorem select_insert_fo : ((complete "fo" "fo.").withCap 1 true).Answerable ∧
    ((complete "fo" "fo.").withCap 1 true).wordPattern.byteSize ≤ Like.maxPatternBytes ∧
    ((complete "fo" "fo.").withCap 1 true).symPattern.byteSize ≤ Like.maxPatternBytes ∧
    (∃ rows others, (WordSet.ofList ["foobar", "Food"]).select ((complete "fo" "fo.").withCap 1 true) =
        (.ok rows, .ofList ["foobar", "Food"]) ∧
      ((WordSet.ofList ["foobar", "Food"]).insert "fo").select ((complete "fo" "fo.").withCap 1 true) =
        (.ok others, (WordSet.ofList ["foobar", "Food"]).insert "fo") ∧
      (others = rows ∨ Match.PutIn (.primary "fo") rows others ∨ Match.PutIn (.backup "fo" "fo") rows others ∨
        others = [.primary "fo"])) ∧
    ∃ rows, (WordSet.ofList ["foobar", "Food"]).select ((complete "fo" "fo.").withCap 1 true) =
        (.ok rows, .ofList ["foobar", "Food"]) ∧
      ((WordSet.ofList ["foobar", "Food"]).insert "bar").select ((complete "fo" "fo.").withCap 1 true) =
        (.ok rows, (WordSet.ofList ["foobar", "Food"]).insert "bar") := by
  have answerable : ((complete "fo" "fo.").withCap 1 true).Answerable := ⟨rfl, by decide, rfl⟩
  have wordShort : ((complete "fo" "fo.").withCap 1 true).wordPattern.byteSize ≤ Like.maxPatternBytes := by
    decide
  have symShort : ((complete "fo" "fo.").withCap 1 true).symPattern.byteSize ≤ Like.maxPatternBytes := by
    decide
  refine ⟨answerable, wordShort, symShort, ?_, ?_⟩
  · obtain ⟨rows, others, before, after, changes, _⟩ := select_insert answerable wordShort symShort
      (show "fo" ∉ WordSet.ofList ["foobar", "Food"] by decide)
    refine ⟨rows, others, before, after, ?_⟩
    obtain ⟨_, same | put⟩ | ⟨_, same | put | alone⟩ := changes rfl (by decide)
    · exact .inl same
    · exact .inr (.inl put)
    · exact .inl same
    · exact .inr (.inr (.inl put))
    · exact .inr (.inr (.inr alone))
  · obtain ⟨rows, others, before, after, _, unnoticed, _⟩ := select_insert answerable wordShort symShort
      (show "bar" ∉ WordSet.ofList ["foobar", "Food"] by decide)
    obtain rfl := unnoticed (by decide) (by decide)
    exact ⟨_, before, after⟩

end Request

end WordCompletion

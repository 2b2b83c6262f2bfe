import WordCompletion.Proofs.Lookup.Rows

/-! # The best words of one tier

The rows of an answer belong to one tier and are its best words: no word that qualifies and is left
out comes before one that is kept. The backup tier answers only when no stored word qualifies for the
primary one, which never happens to a lookup that accepts every score.
-/

namespace WordCompletion

/-! ## Ranked answers -/

/-- ASCII capitals are the only characters with a lower-case form of their own here. -/
theorem toLower_eq (char : Char) : char.toLower =
    if 'A' ≤ char ∧ char ≤ 'Z' then Char.ofNat (char.toNat + 32) else char := by
  unfold Char.toLower
  split_ifs with capital named named
  · have bound : char.toNat ≤ 90 := capital.2
    have valid : (char.toNat + 32).isValidChar := .inl (by omega)
    rw [show Char.ofNat (char.toNat + 32) = Char.ofNatAux (char.toNat + 32) valid from dif_pos valid]
    apply Char.ext
    apply UInt32.toNat_inj.mp
    change (char.val + 32).toNat = char.toNat + 32
    rw [UInt32.toNat_add]
    change (char.toNat + 32) % _ = _
    omega
  · exact absurd capital named
  · exact absurd named capital
  · rfl

namespace Request

/-- The rows are the best stored words of a tier, best first and as many as the limit lets through. -/
structure BestOf (request : Request) (words : WordSet) (tier : Tier) (rows : List Match) : Prop where
  stored : ∀ row ∈ rows, row.word ∈ words
  oneTier : ∀ row ∈ rows, row.tier = tier
  qualified : ∀ row ∈ rows, request.qualifies tier row.word = true
  distinct : (rows.map Match.word).Nodup
  increasing : rows.Pairwise fun first second => request.key tier first.word < request.key tier second.word
  size : rows.length = min request.limit (words.toList.countP (request.qualifies tier))
  beaten : ∀ left ∈ words, request.qualifies tier left = true → left ∉ rows.map Match.word →
    ∀ row ∈ rows, request.key tier row.word < request.key tier left
  /-- Only backup rows have a sort key, the word with its ASCII capitals lowered. -/
  sortKey : ∀ row ∈ rows, row.sortKey? =
    if tier = .backup then some (String.ofList (row.word.toList.map fun char =>
      if 'A' ≤ char ∧ char ≤ 'Z' then Char.ofNat (char.toNat + 32) else char))
    else none

variable {request : Request} {words : WordSet}

theorem bestOf_ranking (request : Request) (words : WordSet) (tier : Tier) :
    request.BestOf words tier (((request.ranking tier words).take request.limit).map (Match.ofTier tier)) where
  stored := by
    intro row member
    obtain ⟨word, taken, rfl⟩ := List.mem_map.mp member
    simpa using (mem_ranking.mp (List.mem_of_mem_take taken)).1
  oneTier := by
    intro row member
    obtain ⟨word, _, rfl⟩ := List.mem_map.mp member
    exact Match.tier_ofTier tier word
  qualified := by
    intro row member
    obtain ⟨word, taken, rfl⟩ := List.mem_map.mp member
    simpa using (mem_ranking.mp (List.mem_of_mem_take taken)).2
  distinct := by
    rw [Match.map_word_ofTier]
    have nodup := (request.ranking_perm tier words).nodup_iff.mpr (words.nodup.filter _)
    exact nodup.sublist (List.take_sublist ..)
  increasing := by
    rw [List.pairwise_map]
    simp only [Match.word_ofTier]
    exact (sortedBy_pairwise (request.key_injective tier) (words.nodup.filter _)).sublist (List.take_sublist ..)
  size := by
    rw [List.length_map, List.length_take, (request.ranking_perm tier words).length_eq,
      List.countP_eq_length_filter]
  beaten := by
    intro left member qualified dropped row kept
    rw [Match.map_word_ofTier] at dropped
    obtain ⟨word, taken, rfl⟩ := List.mem_map.mp kept
    rw [Match.word_ofTier]
    exact lt_of_not_mem_take (request.key_injective tier) (words.nodup.filter _) taken
      (List.mem_filter.mpr ⟨member, qualified⟩) dropped
  sortKey := by
    intro row member
    obtain ⟨word, _, rfl⟩ := List.mem_map.mp member
    cases tier with
    | primary => rfl
    | backup =>
      have lowered : (Match.ofBackup word).sortKey? = some (String.ofList (word.toList.map Char.toLower)) := rfl
      simp only [Match.word_ofTier, if_true, ← toLower_eq]
      exact lowered

/-- A lookup on which no pattern fails answers the best stored words of one tier. The primary tier
ranks by the smaller of two scores. Scores look ahead as far as the options ask: the largest look-ahead
of the scorer is no restriction for words of fewer than two to the 63 characters in lower case. -/
theorem select_bestOf (answerable : request.Answerable) (evaluated : ¬ request.LikeFails words) :
    (∃ rows, words.select request = (.ok rows, words) ∧ request.BestOf words (request.tier words) rows) ∧
      ∀ stored ∈ words,
        (request.score .primary stored).position =
            min (request.wordScore stored).position (request.symScore stored).position ∧
          ((Text.lowercaseAll stored.toList).length ≤ maxSigned →
            request.wordScore stored =
                (dissimilarity request.query.word stored request.options.lookAhead.toNat).value ∧
              request.symScore stored =
                (dissimilarity request.query.sym stored request.options.lookAhead.toNat).value) := by
  refine ⟨⟨_, select_eq answerable words, ?_⟩, ?_⟩
  · rw [rows_eq answerable evaluated]
    exact bestOf_ranking request words (request.tier words)
  · intro stored _
    refine ⟨position_score_primary request stored, fun short => ⟨?_, ?_⟩⟩
    · exact congrArg Score.value (dissimilarity_scoredLookAhead _ short)
    · exact congrArg Score.value (dissimilarity_scoredLookAhead _ short)

/-- Words that share their first letters, one of them with a NUL inside, are ranked. -/
theorem select_bestOf_fo :
    (complete "fo" "fo.").Answerable ∧
      ¬ (complete "fo" "fo.").LikeFails (.ofList ["foobar", "Food", "fo\x00z", "bar"]) ∧
      ∃ rows, (WordSet.ofList ["foobar", "Food", "fo\x00z", "bar"]).select (complete "fo" "fo.") =
          (.ok rows, .ofList ["foobar", "Food", "fo\x00z", "bar"]) ∧
        (complete "fo" "fo.").BestOf (.ofList ["foobar", "Food", "fo\x00z", "bar"])
          ((complete "fo" "fo.").tier (.ofList ["foobar", "Food", "fo\x00z", "bar"])) rows := by
  have answerable : (complete "fo" "fo.").Answerable := ⟨rfl, by decide, rfl⟩
  have evaluated : ¬ (complete "fo" "fo.").LikeFails (.ofList ["foobar", "Food", "fo\x00z", "bar"]) :=
    not_likeFails (by decide) (by decide)
  exact ⟨answerable, evaluated, (select_bestOf answerable evaluated).1⟩

/-! ## One tier at a time -/

/-- The request with another row cap. -/
def withCap (request : Request) (maxResults : UInt64) (limitless : Bool) : Request :=
  { request with
    options := { request.options with maxResults }
    query := { request.query with limitless } }

theorem answerable_withCap (answerable : request.Answerable) {maxResults : UInt64} (positive : maxResults ≠ 0)
    (limitless : Bool) : (request.withCap maxResults limitless).Answerable where
  looksUp := answerable.looksUp
  valid := (MatchOptions.validate_eq_ok_iff _).mpr
    ⟨positive, ((MatchOptions.validate_eq_ok_iff _).mp answerable.valid).2⟩
  live := answerable.live

theorem isNaN_fuzzyCutoff (answerable : request.Answerable) : request.options.fuzzyCutoff.isNaN = false := by
  have inRange := ((MatchOptions.validate_eq_ok_iff _).mp answerable.valid).2
  simp only [MatchOptions.cutoffInRange, Binary64.le, Bool.and_eq_true, Bool.not_eq_true'] at inRange
  exact inRange.1.1.2

/-- The rows of the answering tier are all there is: without rows no word qualifies. -/
theorem rows_eq_nil_iff (answerable : request.Answerable) (evaluated : ¬ request.LikeFails words) :
    request.lookup.rows words.toList = [] ↔
      ∀ stored ∈ words, request.qualifies (request.tier words) stored = false := by
  have positive := limit_pos answerable
  rw [rows_eq answerable evaluated, List.map_eq_nil_iff, List.take_eq_nil_iff, ranking_eq_nil_iff]
  exact or_iff_right positive.ne'

theorem tier_eq_primary (qualified : ∃ stored ∈ words, request.qualifies .primary stored = true) :
    request.tier words = .primary := if_pos qualified

theorem tier_eq_backup (unqualified : ∀ stored ∈ words, request.qualifies .primary stored = false) :
    request.tier words = .backup := by
  apply if_neg
  rintro ⟨stored, member, qualified⟩
  simp [unqualified stored member] at qualified

theorem exists_of_tier_eq_primary (primary : request.tier words = .primary) :
    ∃ stored ∈ words, request.qualifies .primary stored = true := by
  by_contra unqualified
  push Not at unqualified
  have backup := tier_eq_backup fun stored member => Bool.eq_false_iff.mpr (unqualified stored member)
  rw [backup] at primary
  contradiction

theorem unqualified_of_tier_eq_backup (backup : request.tier words = .backup) :
    ∀ stored ∈ words, request.qualifies .primary stored = false := by
  intro stored member
  rw [Bool.eq_false_iff]
  intro qualified
  rw [tier_eq_primary ⟨stored, member, qualified⟩] at backup
  contradiction

/-- The primary tier still answers where all words that qualify for it are stored and qualify. -/
theorem tier_mono {other : Request} {others : WordSet}
    (wider : ∀ stored ∈ words, request.qualifies .primary stored = true →
      stored ∈ others ∧ other.qualifies .primary stored = true)
    (primary : request.tier words = .primary) : other.tier others = .primary := by
  obtain ⟨stored, member, qualified⟩ := exists_of_tier_eq_primary primary
  exact tier_eq_primary ⟨stored, wider stored member qualified⟩

/-- A stored word that is a backup row scores past the cutoff against the word and the symbol. -/
theorem cutoff_lt_of_backup (answerable : request.Answerable) {stored : String}
    (unqualified : request.qualifies .primary stored = false)
    (backup : request.qualifies .backup stored = true) :
    request.options.fuzzyCutoff.position < (request.wordScore stored).position ∧
      request.options.fuzzyCutoff.position < (request.symScore stored).position := by
  have matched : request.wordPattern.matchesText stored = true := backup
  have beyond : ¬ (request.score .primary stored).le request.options.fuzzyCutoff = true := by
    simpa [qualifies, matched] using unqualified
  rw [Binary64.le_iff_position (isNaN_score ..) (isNaN_fuzzyCutoff answerable), position_score_primary] at beyond
  omega

/-- Under the cutoff of one every backup candidate is a primary candidate. -/
theorem qualifies_primary_of_one (accepting : request.options.fuzzyCutoff = .one) {stored : String}
    (backup : request.qualifies .backup stored = true) : request.qualifies .primary stored = true := by
  have matched : request.wordPattern.matchesText stored = true := backup
  have within : (request.score .primary stored).le request.options.fuzzyCutoff = true := by
    rw [accepting, Binary64.le_iff_position (isNaN_score ..) (by decide), position_score_primary]
    exact (min_le_left ..).trans (Score.position_value_le_one _)
  simp [qualifies, matched, within]

/-- Rows are stored words that qualify for the tier that answers; a failing pattern leaves none. -/
theorem tier_of_mem_rows (answerable : request.Answerable) :
    ∀ row ∈ request.lookup.rows words.toList, row.tier = request.tier words ∧ row.word ∈ words ∧
      request.qualifies (request.tier words) row.word = true := by
  by_cases fails : request.LikeFails words
  · simp [rows_eq_nil_of_likeFails fails]
  · rw [rows_eq answerable fails]
    have best := bestOf_ranking request words (request.tier words)
    exact fun row member => ⟨best.oneTier row member, best.stored row member, best.qualified row member⟩

/-- Rows tell the tier that answers. -/
theorem tier_eq_of_rows (answerable : request.Answerable) {tier : Tier}
    (nonempty : request.lookup.rows words.toList ≠ [])
    (tiers : ∀ row ∈ request.lookup.rows words.toList, row.tier = tier) : request.tier words = tier := by
  obtain ⟨row, member⟩ := List.exists_mem_of_ne_nil _ nonempty
  exact (tier_of_mem_rows answerable row member).1.symm.trans (tiers row member)

/-- Rows tell that no pattern fails. -/
theorem not_likeFails_of_rows (nonempty : request.lookup.rows words.toList ≠ []) : ¬ request.LikeFails words :=
  fun fails => nonempty (rows_eq_nil_of_likeFails fails)

/-- Without a row cap the rows are the whole ranking, as long as the store can count its words. -/
theorem rows_eq_ranking (answerable : request.Answerable) (evaluated : ¬ request.LikeFails words)
    (limitless : request.query.limitless = true) (counted : words.size ≤ maxSigned) :
    request.lookup.rows words.toList =
      (request.ranking (request.tier words) words).map (Match.ofTier (request.tier words)) := by
  have unlimited : request.limit = maxSigned := if_pos limitless
  have few : (request.ranking (request.tier words) words).length ≤ request.limit := by
    rw [unlimited, (request.ranking_perm _ words).length_eq]
    exact (List.length_filter_le ..).trans counted
  rw [rows_eq answerable evaluated, List.take_of_length_le few]

/-- A request that is no lookup answers an error or, when it clears, no rows. -/
theorem of_select_ok {rows : List Match} (success : (words.select request).1 = .ok rows) :
    rows = [] ∨ (request.Answerable ∧ rows = request.lookup.rows words.toList) := by
  by_cases answerable : request.Answerable
  · rw [select_eq answerable] at success
    exact .inr ⟨answerable, (Except.ok.inj success).symm⟩
  · left
    unfold WordSet.select at success
    split at success
    · simp at success
    · rename_i passed
      by_cases cancelled : request.cancelled = true
      · simp [cancelled] at success
      · by_cases clears : request.clear = true
        · simpa [cancelled, clears] using success.symm
        · refine absurd ⟨by simpa using clears, ?_, by simpa using cancelled⟩ answerable
          simpa [clears] using passed

/-- Whatever a request answers, its rows are stored words that qualify for the tier that answers. -/
theorem tier_of_mem_select {rows : List Match} (success : (words.select request).1 = .ok rows) :
    ∀ row ∈ rows, row.tier = request.tier words ∧ row.word ∈ words ∧
      request.qualifies (request.tier words) row.word = true := by
  obtain rfl | ⟨answerable, rfl⟩ := of_select_ok success
  · simp
  · exact tier_of_mem_rows answerable

/-- A cutoff of one leaves nothing to the backup tier. -/
theorem tier_eq_primary_of_one (accepting : request.options.fuzzyCutoff = .one) {stored : String}
    (member : stored ∈ words) (qualified : request.qualifies (request.tier words) stored = true) :
    request.tier words = .primary := by
  cases answering : request.tier words with
  | primary => rfl
  | backup =>
    rw [answering] at qualified
    have primary := tier_eq_primary ⟨stored, member, qualifies_primary_of_one accepting qualified⟩
    exact answering.symm.trans primary

/-- Words within the cutoff are answered in the primary tier. -/
theorem rows_of_qualified (answerable : request.Answerable) (evaluated : ¬ request.LikeFails words)
    (qualified : ∃ stored ∈ words, request.qualifies .primary stored = true) :
    request.lookup.rows words.toList ≠ [] ∧ ∀ row ∈ request.lookup.rows words.toList, row.tier = .primary := by
  have tiers : ∀ row ∈ request.lookup.rows words.toList, _ := tier_of_mem_rows answerable
  have nil := rows_eq_nil_iff answerable evaluated
  rw [tier_eq_primary qualified] at tiers nil
  obtain ⟨stored, member, qualified⟩ := qualified
  refine ⟨fun empty => ?_, fun row member => (tiers row member).1⟩
  simp [nil.mp empty stored member] at qualified

/-- Without words within the cutoff, the words that match the pattern of the word stand in. -/
theorem rows_of_unqualified (answerable : request.Answerable) (evaluated : ¬ request.LikeFails words)
    (unqualified : ∀ stored ∈ words, request.qualifies .primary stored = false) :
    (∀ row ∈ request.lookup.rows words.toList, row.tier = .backup) ∧
      (request.lookup.rows words.toList = [] ↔
        ∀ stored ∈ words, request.wordPattern.matchesText stored = false) := by
  have tiers : ∀ row ∈ request.lookup.rows words.toList, _ := tier_of_mem_rows answerable
  have nil := rows_eq_nil_iff answerable evaluated
  rw [tier_eq_backup unqualified] at tiers nil
  exact ⟨fun row member => (tiers row member).1, nil⟩

/-- Backup rows score past the cutoff. -/
theorem cutoff_lt_of_mem_rows (answerable : request.Answerable) {row : Match}
    (member : row ∈ request.lookup.rows words.toList) (backup : row.tier = .backup) :
    request.options.fuzzyCutoff.position < (request.wordScore row.word).position ∧
      request.options.fuzzyCutoff.position < (request.symScore row.word).position := by
  obtain ⟨tier, stored, qualified⟩ := tier_of_mem_rows answerable row member
  have answering : request.tier words = .backup := tier.symm.trans backup
  rw [answering] at qualified
  refine cutoff_lt_of_backup answerable (Bool.eq_false_iff.mpr fun primary => ?_) qualified
  rw [tier_eq_primary ⟨row.word, stored, primary⟩] at answering
  contradiction

/-- Without primary rows the backup tier answers. -/
theorem tier_eq_backup_of_rows (answerable : request.Answerable) (evaluated : ¬ request.LikeFails words)
    (tiers : ∀ row ∈ request.lookup.rows words.toList, row.tier = .backup) : request.tier words = .backup := by
  cases answering : request.tier words with
  | backup => rfl
  | primary =>
    have nonempty := (rows_of_qualified answerable evaluated (exists_of_tier_eq_primary answering)).1
    exact answering.symm.trans (tier_eq_of_rows answerable nonempty tiers)

/-- Another row cap neither empties the answer nor changes its tier. -/
theorem rows_withCap (answerable : request.Answerable) (evaluated : ¬ request.LikeFails words)
    {maxResults : UInt64} (positive : maxResults ≠ 0) (limitless : Bool) :
    ((request.withCap maxResults limitless).lookup.rows words.toList = [] ↔
        request.lookup.rows words.toList = []) ∧
      ∀ row ∈ request.lookup.rows words.toList,
        ∀ other ∈ (request.withCap maxResults limitless).lookup.rows words.toList, other.tier = row.tier := by
  have capped := answerable_withCap answerable positive limitless
  constructor
  · exact (rows_eq_nil_iff capped evaluated).trans (rows_eq_nil_iff answerable evaluated).symm
  · intro row member other member'
    exact (tier_of_mem_rows capped other member').1.trans (tier_of_mem_rows answerable row member).1.symm

/-- The primary tier answers as soon as a stored word qualifies for it, and otherwise the backup tier,
whose rows all score past the cutoff. The row cap has no say in this, and under a cutoff of one the
backup tier never has a row, whatever becomes of the lookup. -/
theorem select_one_tier (request : Request) (words : WordSet) :
    (request.Answerable → ¬ request.LikeFails words → ∃ rows, words.select request = (.ok rows, words) ∧
      ((∃ stored ∈ words, request.qualifies .primary stored = true) →
        rows ≠ [] ∧ ∀ row ∈ rows, row.tier = .primary) ∧
      ((∀ stored ∈ words, request.qualifies .primary stored = false) →
        (∀ row ∈ rows, row.tier = .backup) ∧
          (rows = [] ↔ ∀ stored ∈ words, request.wordPattern.matchesText stored = false)) ∧
      (∀ row ∈ rows, row.tier = .backup →
        request.options.fuzzyCutoff.position < (request.wordScore row.word).position ∧
          request.options.fuzzyCutoff.position < (request.symScore row.word).position) ∧
      ∀ maxResults limitless, maxResults ≠ 0 →
        ∃ others, words.select (request.withCap maxResults limitless) = (.ok others, words) ∧
          (others = [] ↔ rows = []) ∧ ∀ row ∈ rows, ∀ other ∈ others, other.tier = row.tier) ∧
    (∀ rows, (words.select request).1 = .ok rows →
      (∀ first ∈ rows, ∀ second ∈ rows, first.tier = second.tier) ∧
        (request.options.fuzzyCutoff = .one → ∀ row ∈ rows, row.tier = .primary)) := by
  constructor
  · intro answerable evaluated
    refine ⟨_, select_eq answerable words, rows_of_qualified answerable evaluated,
      rows_of_unqualified answerable evaluated, fun row => cutoff_lt_of_mem_rows answerable, ?_⟩
    intro maxResults limitless positive
    exact ⟨_, select_eq (answerable_withCap answerable positive limitless) words,
      rows_withCap answerable evaluated positive limitless⟩
  · intro rows success
    have tiers := tier_of_mem_select success
    refine ⟨fun first member second member' => (tiers first member).1.trans (tiers second member').1.symm, ?_⟩
    intro accepting row member
    obtain ⟨tier, stored, qualified⟩ := tiers row member
    exact tier.trans (tier_eq_primary_of_one accepting stored qualified)

/-- A word that scores past the cutoff is a backup row when nothing else is stored. -/
theorem select_one_tier_zeq :
    (complete "zeq" "zeq").Answerable ∧ ¬ (complete "zeq" "zeq").LikeFails (.ofList ["zebra"]) ∧
      ∃ rows, (WordSet.ofList ["zebra"]).select (complete "zeq" "zeq") = (.ok rows, .ofList ["zebra"]) ∧
        rows ≠ [] ∧ ∀ row ∈ rows, row.tier = .backup := by
  have answerable : (complete "zeq" "zeq").Answerable := ⟨rfl, by decide, rfl⟩
  have evaluated : ¬ (complete "zeq" "zeq").LikeFails (.ofList ["zebra"]) :=
    not_likeFails (by decide) (by decide)
  have unqualified : ∀ stored ∈ WordSet.ofList ["zebra"],
      (complete "zeq" "zeq").qualifies .primary stored = false := by
    intro stored member
    obtain rfl : stored = "zebra" := by simpa using member
    decide +kernel
  have matched : (complete "zeq" "zeq").wordPattern.matchesText "zebra" = true := by decide +kernel
  obtain ⟨rows, success, _, backup, _⟩ :=
    (select_one_tier (complete "zeq" "zeq") (.ofList ["zebra"])).1 answerable evaluated
  obtain ⟨tiers, nil⟩ := backup unqualified
  refine ⟨answerable, evaluated, rows, success, fun empty => ?_, tiers⟩
  simp [nil.mp empty "zebra" (by simp)] at matched

end Request

end WordCompletion

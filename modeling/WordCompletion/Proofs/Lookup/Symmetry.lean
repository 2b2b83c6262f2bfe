import WordCompletion.Proofs.Lookup.Failures
import WordCompletion.Proofs.Lookup.Tiers

/-! # The word and the symbol of a lookup

The primary tier asks of a stored word that it matches one of two patterns, and ranks it by the smaller of two
scores, so it makes no difference which text is the word and which the symbol. The backup tier does not look at
the symbol. What the symbol has a say in is hence the primary tier and whether that answers, provided that its
pattern can be evaluated.
-/

namespace WordCompletion.Request

variable {request : Request} {words : WordSet} {word sym other : String}

/-- The request with another word and another symbol. -/
def asking (request : Request) (word sym : String) : Request :=
  { request with query := { request.query with word, sym } }

theorem answerable_asking (answerable : request.Answerable) (word sym : String) :
    (request.asking word sym).Answerable :=
  ⟨answerable.looksUp, answerable.valid, answerable.live⟩

/-! ## The primary tier -/

/-- The smaller score is the same in either order. -/
theorem position_score_asking_comm (request : Request) (word sym stored : String) :
    ((request.asking sym word).score .primary stored).position =
      ((request.asking word sym).score .primary stored).position := by
  rw [position_score_primary, position_score_primary]
  exact min_comm ..

theorem key_asking_comm (request : Request) (word sym : String) :
    (request.asking sym word).key .primary = (request.asking word sym).key .primary := by
  funext stored
  rw [key, key, rowKey, rowKey, position_score_asking_comm]

theorem qualifies_asking_comm (answerable : request.Answerable) (word sym : String) :
    (request.asking sym word).qualifies .primary = (request.asking word sym).qualifies .primary := by
  funext stored
  have number : request.options.fuzzyCutoff.isNaN = false := isNaN_fuzzyCutoff answerable
  have within : ((request.asking sym word).score .primary stored).le request.options.fuzzyCutoff =
      ((request.asking word sym).score .primary stored).le request.options.fuzzyCutoff := by
    rw [Bool.eq_iff_iff, Binary64.le_iff_position (isNaN_score ..) number,
      Binary64.le_iff_position (isNaN_score ..) number, position_score_asking_comm]
  exact congrArg₂ and (Bool.or_comm ..) within

theorem ranking_asking_comm (answerable : request.Answerable) (word sym : String) (words : WordSet) :
    (request.asking sym word).ranking .primary words = (request.asking word sym).ranking .primary words := by
  rw [ranking, ranking, key_asking_comm, qualifies_asking_comm answerable]

/-- Where the primary tier answers, it does with the word and the symbol exchanged. -/
theorem tier_asking_comm (answerable : request.Answerable) (primary : (request.asking word sym).tier words = .primary) :
    (request.asking sym word).tier words = .primary := by
  refine tier_mono (fun stored member qualified => ⟨member, ?_⟩) primary
  rw [qualifies_asking_comm answerable]
  exact qualified

/-- Primary rows are the same with the word and the symbol exchanged. The pattern of the symbol is evaluated on more
words then, that of the word on fewer. -/
theorem rows_asking_comm (answerable : request.Answerable)
    (symShort : (request.asking word sym).symPattern.byteSize ≤ Like.maxPatternBytes)
    (primary : ∃ row ∈ (request.asking word sym).lookup.rows words.toList, row.tier = .primary) :
    (request.asking sym word).lookup.rows words.toList = (request.asking word sym).lookup.rows words.toList := by
  have asked := answerable_asking answerable
  obtain ⟨row, member, tier⟩ := primary
  have evaluated := not_likeFails_of_rows (List.ne_nil_of_mem member)
  have exchanged : ¬ (request.asking sym word).LikeFails words := by
    rw [likeFails_iff]
    rintro ⟨nonempty, long | ⟨long, _⟩⟩
    · exact absurd long (not_lt.mpr symShort)
    · exact evaluated (likeFails_iff.mpr ⟨nonempty, .inl long⟩)
  have answering := (tier_of_mem_rows (asked word sym) row member).1.symm.trans tier
  rw [rows_eq (asked sym word) exchanged, rows_eq (asked word sym) evaluated, answering,
    tier_asking_comm answerable answering, ranking_asking_comm answerable]
  rfl

/-! ## The backup tier -/

/-- A symbol whose pattern can be evaluated has no part in the failures of the engine. -/
theorem likeFails_iff_of_symShort (symShort : request.symPattern.byteSize ≤ Like.maxPatternBytes) :
    request.LikeFails words ↔ words.toList ≠ [] ∧ Like.maxPatternBytes < request.wordPattern.byteSize := by
  rw [likeFails_iff]
  exact and_congr_right fun _ => or_iff_left fun long => absurd long.1 (not_lt.mpr symShort)

/-- Lookups of one word that leave it to the backup tier to answer are answered the same. -/
theorem rows_asking_of_backup (answerable : request.Answerable)
    (symShort : (request.asking word sym).symPattern.byteSize ≤ Like.maxPatternBytes)
    (otherShort : (request.asking word other).symPattern.byteSize ≤ Like.maxPatternBytes)
    (backup : ∀ row ∈ (request.asking word sym).lookup.rows words.toList, row.tier = .backup)
    (otherBackup : ∀ row ∈ (request.asking word other).lookup.rows words.toList, row.tier = .backup) :
    (request.asking word sym).lookup.rows words.toList = (request.asking word other).lookup.rows words.toList := by
  by_cases fails : (request.asking word sym).LikeFails words
  · have otherFails := (likeFails_iff_of_symShort otherShort).mpr ((likeFails_iff_of_symShort symShort).mp fails)
    rw [rows_eq_nil_of_likeFails fails, rows_eq_nil_of_likeFails otherFails]
  · have evaluated : ¬ (request.asking word other).LikeFails words := fun otherFails =>
      fails ((likeFails_iff_of_symShort symShort).mpr ((likeFails_iff_of_symShort otherShort).mp otherFails))
    have tier := tier_eq_backup_of_rows (answerable_asking answerable word sym) fails backup
    have otherTier := tier_eq_backup_of_rows (answerable_asking answerable word other) evaluated otherBackup
    rw [rows_eq (answerable_asking answerable word sym) fails,
      rows_eq (answerable_asking answerable word other) evaluated, tier, otherTier]
    rfl

/-! ## The two roles -/

/-- Where a lookup answers primary rows, it answers the same ones with its word and its symbol exchanged, if the
pattern of the symbol can be evaluated. Two lookups of one word whose symbols have such patterns answer the same
rows, if these are backup rows. So a symbol acts on the primary tier only, and there like a word. -/
theorem select_asking (answerable : request.Answerable) (words : WordSet) :
    (∀ word sym, (request.asking word sym).symPattern.byteSize ≤ Like.maxPatternBytes →
      ∃ rows others, words.select (request.asking word sym) = (.ok rows, words) ∧
        words.select (request.asking sym word) = (.ok others, words) ∧
        ((∃ row ∈ rows, row.tier = .primary) → others = rows)) ∧
    ∀ word sym other, (request.asking word sym).symPattern.byteSize ≤ Like.maxPatternBytes →
      (request.asking word other).symPattern.byteSize ≤ Like.maxPatternBytes →
      ∃ rows others, words.select (request.asking word sym) = (.ok rows, words) ∧
        words.select (request.asking word other) = (.ok others, words) ∧
        ((∀ row ∈ rows, row.tier = .backup) → (∀ row ∈ others, row.tier = .backup) → others = rows) := by
  have asked := answerable_asking answerable
  constructor
  · intro word sym symShort
    exact ⟨_, _, select_eq (asked word sym) words, select_eq (asked sym word) words,
      rows_asking_comm answerable symShort⟩
  · intro word sym other symShort otherShort
    exact ⟨_, _, select_eq (asked word sym) words, select_eq (asked word other) words,
      fun backup otherBackup => (rows_asking_of_backup answerable symShort otherShort backup otherBackup).symm⟩

/-- A field is found by its name and the object before it, whichever is the word. Two symbols that are like nothing
stored leave the same backup row. -/
theorem select_asking_self_v : (complete "" "").Answerable ∧
    ((complete "" "").asking "value" "self.v").symPattern.byteSize ≤ Like.maxPatternBytes ∧
    ((complete "" "").asking "zeq" "zeq").symPattern.byteSize ≤ Like.maxPatternBytes ∧
    ((complete "" "").asking "zeq" "xxx").symPattern.byteSize ≤ Like.maxPatternBytes ∧
    (∃ others, (WordSet.ofList ["self.value", "zebra"]).select ((complete "" "").asking "self.v" "value") =
        (.ok others, .ofList ["self.value", "zebra"]) ∧ others = [.primary "self.value"]) ∧
    ∃ rows others, (WordSet.ofList ["self.value", "zebra"]).select ((complete "" "").asking "zeq" "zeq") =
        (.ok rows, .ofList ["self.value", "zebra"]) ∧
      (WordSet.ofList ["self.value", "zebra"]).select ((complete "" "").asking "zeq" "xxx") =
        (.ok others, .ofList ["self.value", "zebra"]) ∧
      rows = [.backup "zebra" "zebra"] ∧ others = rows := by
  have answerable : (complete "" "").Answerable := ⟨rfl, by decide, rfl⟩
  have short : ((complete "" "").asking "value" "self.v").symPattern.byteSize ≤ Like.maxPatternBytes := by decide
  have symShort : ((complete "" "").asking "zeq" "zeq").symPattern.byteSize ≤ Like.maxPatternBytes := by decide
  have otherShort : ((complete "" "").asking "zeq" "xxx").symPattern.byteSize ≤ Like.maxPatternBytes := by decide
  have found : (WordSet.ofList ["self.value", "zebra"]).select ((complete "" "").asking "value" "self.v") =
      (.ok [.primary "self.value"], .ofList ["self.value", "zebra"]) := by decide +kernel
  have backup : (WordSet.ofList ["self.value", "zebra"]).select ((complete "" "").asking "zeq" "zeq") =
      (.ok [.backup "zebra" "zebra"], .ofList ["self.value", "zebra"]) := by decide +kernel
  have otherBackup : (WordSet.ofList ["self.value", "zebra"]).select ((complete "" "").asking "zeq" "xxx") =
      (.ok [.backup "zebra" "zebra"], .ofList ["self.value", "zebra"]) := by decide +kernel
  obtain ⟨exchanged, unseen⟩ := select_asking answerable (.ofList ["self.value", "zebra"])
  obtain ⟨rows, others, first, second, same⟩ := exchanged "value" "self.v" short
  obtain rfl := rows_unique found first
  refine ⟨answerable, short, symShort, otherShort, ⟨others, second, same (by simp [Match.tier])⟩, ?_⟩
  obtain ⟨rows, others, first, second, same⟩ := unseen "zeq" "zeq" "xxx" symShort otherShort
  obtain rfl := rows_unique backup first
  obtain rfl := rows_unique otherBackup second
  exact ⟨_, _, first, second, rfl, same (by simp [Match.tier]) (by simp [Match.tier])⟩

end WordCompletion.Request

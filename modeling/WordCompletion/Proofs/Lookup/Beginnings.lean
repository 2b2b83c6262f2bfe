import WordCompletion.Proofs.Lookup.Failures
import WordCompletion.Proofs.Lookup.Tiers

/-! # Answers that begin like others

A smaller row cap and a lower cutoff only end an answer earlier. The cap takes the first rows of what a
larger one lets through, whichever tier answers and even if the engine fails. The cutoff is one on the very
score by which rows are ordered first, so that lowering it leaves the beginning of the primary tier; if
nothing is left of that, the backup tier answers, which a higher cutoff would not have changed.
-/

namespace WordCompletion.Request

variable {request : Request} {words : WordSet}

/-! ## Runs of the engine -/

theorem run_of_likeFails (fails : request.LikeFails words) :
    request.lookup.run words.toList = .error Lookup.patternTooComplex := by
  rw [Lookup.run, rows?_eq_none fails]

/-- Unless an evaluation fails the engine reports the rows of the answer. -/
theorem run_of_not_likeFails (evaluated : ¬ request.LikeFails words) :
    request.lookup.run words.toList = .ok (request.lookup.rows words.toList) := by
  cases result : request.lookup.rows? words.toList with
  | none => exact absurd (exists_run_eq_error_iff.mp ⟨_, by rw [Lookup.run, result]⟩) evaluated
  | some rows => rw [Lookup.run, Lookup.rows, result, Option.getD_some]

/-! ## Row caps -/

/-- The limit that the engine receives is a positive signed number. -/
theorem limit_mem_signed (answerable : request.Answerable) :
    0 < request.lookup.limit ∧ request.lookup.limit ≤ maxSigned := by
  refine ⟨limit_pos answerable, ?_⟩
  change request.options.limit request.query.limitless ≤ maxSigned
  unfold MatchOptions.limit
  split_ifs
  · exact Nat.le_refl _
  · exact Nat.min_le_right ..

/-- A cap that is valid leaves every larger one valid. -/
theorem answerable_withCap_of_le (answerable : request.Answerable) {fewer more : UInt64} (positive : fewer ≠ 0)
    (atMost : fewer ≤ more) (limitless : Bool) : (request.withCap more limitless).Answerable := by
  apply answerable_withCap answerable
  rintro rfl
  exact positive (UInt64.le_antisymm atMost UInt64.zero_le)

/-- The limit of a smaller cap is that cap on a larger one's. -/
theorem limit_withCap (request : Request) {fewer more : UInt64} (atMost : fewer ≤ more) (limitless : Bool) :
    (request.withCap fewer false).limit = min fewer.toNat (request.withCap more limitless).limit := by
  have smaller : fewer.toNat ≤ more.toNat := atMost
  cases limitless with
  | false =>
    change min fewer.toNat maxSigned = min fewer.toNat (min more.toNat maxSigned)
    omega
  | true => rfl

theorem likeFails_withCap {maxResults : UInt64} {limitless : Bool} :
    (request.withCap maxResults limitless).LikeFails words ↔ request.LikeFails words := Iff.rfl

theorem rows_withCap_eq_take (answerable : request.Answerable) (words : WordSet) {fewer more : UInt64}
    (positive : fewer ≠ 0) (atMost : fewer ≤ more) (limitless : Bool) :
    (request.withCap fewer false).lookup.rows words.toList =
      ((request.withCap more limitless).lookup.rows words.toList).take fewer.toNat := by
  have narrow := answerable_withCap answerable positive false
  have wide := answerable_withCap_of_le answerable positive atMost limitless
  by_cases fails : request.LikeFails words
  · rw [rows_eq_nil_of_likeFails (likeFails_withCap.mpr fails),
      rows_eq_nil_of_likeFails (likeFails_withCap.mpr fails), List.take_nil]
  · rw [rows_eq narrow fails, rows_eq wide fails, limit_withCap request atMost limitless, ← List.map_take,
      List.take_take]
    rfl

/-- The engine fails under one cap exactly if it does under another. -/
theorem run_withCap (answerable : request.Answerable) (words : WordSet) {fewer more : UInt64}
    (positive : fewer ≠ 0) (atMost : fewer ≤ more) (limitless : Bool) :
    (request.withCap fewer false).lookup.run words.toList =
      ((request.withCap more limitless).lookup.run words.toList).map (List.take fewer.toNat) := by
  by_cases fails : request.LikeFails words
  · rw [run_of_likeFails (likeFails_withCap.mpr fails), run_of_likeFails (likeFails_withCap.mpr fails)]
    rfl
  · rw [run_of_not_likeFails (mt likeFails_withCap.mp fails), run_of_not_likeFails (mt likeFails_withCap.mp fails),
      rows_withCap_eq_take answerable words positive atMost limitless]
    rfl

/-- A row cap takes the first rows of the answer under a larger cap or none, be they primary or backup rows,
and the engine fails under all of them or under none. The limit that the engine receives is never zero and
never too large to be a signed number. -/
theorem select_withCap (answerable : request.Answerable) (words : WordSet) {fewer more : UInt64}
    (positive : fewer ≠ 0) (atMost : fewer ≤ more) (limitless : Bool) :
    ∃ rows others, words.select (request.withCap fewer false) = (.ok rows, words) ∧
      words.select (request.withCap more limitless) = (.ok others, words) ∧
      rows = others.take fewer.toNat ∧ rows.length ≤ fewer.toNat ∧
      (request.withCap fewer false).lookup.run words.toList =
        ((request.withCap more limitless).lookup.run words.toList).map (List.take fewer.toNat) ∧
      ∀ capped ∈ [request.withCap fewer false, request.withCap more limitless],
        0 < capped.lookup.limit ∧ capped.lookup.limit ≤ maxSigned := by
  have narrow := answerable_withCap answerable positive false
  have wide := answerable_withCap_of_le answerable positive atMost limitless
  have first := rows_withCap_eq_take answerable words positive atMost limitless
  refine ⟨_, _, select_eq narrow words, select_eq wide words, first, ?_,
    run_withCap answerable words positive atMost limitless, ?_⟩
  · rw [first]
    exact List.length_take_le ..
  · rw [List.forall_mem_cons, List.forall_mem_singleton]
    exact ⟨limit_mem_signed narrow, limit_mem_signed wide⟩

/-- One row of two is the first one. -/
theorem select_withCap_fo : (complete "fo" "fo").Answerable ∧ (1 : UInt64) ≠ 0 ∧ (1 : UInt64) ≤ 2 ∧
    (WordSet.ofList ["foobar", "fox"]).select ((complete "fo" "fo").withCap 2 false) =
      (.ok [.primary "fox", .primary "foobar"], .ofList ["foobar", "fox"]) ∧
    (WordSet.ofList ["foobar", "fox"]).select ((complete "fo" "fo").withCap 1 false) =
      (.ok [.primary "fox"], .ofList ["foobar", "fox"]) := by
  have answerable : (complete "fo" "fo").Answerable := ⟨rfl, by decide, rfl⟩
  have evaluated : ¬ ((complete "fo" "fo").withCap 2 false).LikeFails (.ofList ["foobar", "fox"]) :=
    not_likeFails (by decide) (by decide)
  have primary : ((complete "fo" "fo").withCap 2 false).tier (.ofList ["foobar", "fox"]) = .primary := by
    decide +kernel
  have both : (WordSet.ofList ["foobar", "fox"]).select ((complete "fo" "fo").withCap 2 false) =
      (.ok [.primary "fox", .primary "foobar"], .ofList ["foobar", "fox"]) :=
    select_of_sorted (answerable_withCap answerable (by decide) false) evaluated primary ["fox", "foobar"]
      (by decide +kernel) (by decide +kernel)
  obtain ⟨rows, others, first, second, taken, _⟩ :=
    select_withCap answerable (.ofList ["foobar", "fox"]) (show (1 : UInt64) ≠ 0 by decide)
      (show (1 : UInt64) ≤ 2 by decide) false
  obtain rfl := rows_unique both second
  rw [taken] at first
  exact ⟨answerable, by decide, by decide, both, first⟩

/-! ## Cutoffs -/

/-- The request with another cutoff. -/
def withCutoff (request : Request) (cutoff : Binary64) : Request :=
  { request with options := { request.options with fuzzyCutoff := cutoff } }

/-- A word with a smaller key scores no worse. -/
theorem position_score_le {tier : Tier} {first second : String}
    (below : request.key tier first ≤ request.key tier second) :
    (request.score tier first).position ≤ (request.score tier second).position := by
  rw [key, key, rowKey, rowKey, Prod.Lex.toLex_le_toLex] at below
  obtain better | ⟨same, _⟩ := below
  · exact better.le
  · exact same.le

section Cutoff

variable {low high : Binary64}

theorem qualifies_withCutoff (atMost : low.le high = true) {tier : Tier} {stored : String}
    (qualified : (request.withCutoff low).qualifies tier stored = true) :
    (request.withCutoff high).qualifies tier stored = true := by
  cases tier with
  | backup => exact qualified
  | primary =>
    obtain ⟨matched, within⟩ := Bool.and_eq_true_iff.mp qualified
    exact Bool.and_eq_true_iff.mpr ⟨matched, Binary64.le_trans within atMost⟩

/-- The lower cutoff spares the words that come first. -/
theorem qualifies_withCutoff_of_key_le (number : low.isNaN = false) {first second : String}
    (qualified : (request.withCutoff high).qualifies .primary first = true)
    (below : request.key .primary first ≤ request.key .primary second)
    (within : (request.withCutoff low).qualifies .primary second = true) :
    (request.withCutoff low).qualifies .primary first = true := by
  have matched := (Bool.and_eq_true_iff.mp qualified).1
  have bound : (request.score .primary second).le low = true := (Bool.and_eq_true_iff.mp within).2
  rw [Binary64.le_iff_position (isNaN_score ..) number] at bound
  have better : (request.score .primary first).le low = true :=
    (Binary64.le_iff_position (isNaN_score ..) number).mpr ((position_score_le below).trans bound)
  exact Bool.and_eq_true_iff.mpr ⟨matched, better⟩

theorem ranking_withCutoff_prefix (request : Request) (atMost : low.le high = true) (number : low.isNaN = false)
    (words : WordSet) :
    (request.withCutoff low).ranking .primary words <+: (request.withCutoff high).ranking .primary words :=
  sortedBy_filter_prefix (request.key_injective .primary) (fun _ => qualifies_withCutoff atMost)
    (fun _ _ => qualifies_withCutoff_of_key_le number) words.toList

/-- Where the lower cutoff leaves a primary row, the higher one does. -/
theorem tier_withCutoff (atMost : low.le high = true) (primary : (request.withCutoff low).tier words = .primary) :
    (request.withCutoff high).tier words = .primary :=
  tier_mono (fun _ member qualified => ⟨member, qualifies_withCutoff atMost qualified⟩) primary

theorem likeFails_withCutoff {cutoff : Binary64} :
    (request.withCutoff cutoff).LikeFails words ↔ request.LikeFails words := Iff.rfl

/-- A cutoff that leaves the primary tier empty plays no part in the backup rows. -/
theorem rows_withCutoff_of_backup (lower : (request.withCutoff low).Answerable)
    (higher : (request.withCutoff high).Answerable) (evaluated : ¬ request.LikeFails words)
    (atMost : low.le high = true) (backup : (request.withCutoff high).tier words = .backup) :
    (request.withCutoff low).lookup.rows words.toList = (request.withCutoff high).lookup.rows words.toList := by
  have answering : (request.withCutoff low).tier words = .backup := by
    cases tier : (request.withCutoff low).tier words with
    | backup => rfl
    | primary => exact absurd (backup.symm.trans (tier_withCutoff atMost tier)) nofun
  rw [rows_eq lower evaluated, rows_eq higher evaluated, answering, backup]
  rfl

theorem rows_withCutoff_prefix (lower : (request.withCutoff low).Answerable)
    (higher : (request.withCutoff high).Answerable) (evaluated : ¬ request.LikeFails words)
    (atMost : low.le high = true) (primary : (request.withCutoff low).tier words = .primary) :
    (request.withCutoff low).lookup.rows words.toList <+: (request.withCutoff high).lookup.rows words.toList := by
  have shorter := ranking_withCutoff_prefix request atMost (isNaN_fuzzyCutoff lower) words
  rw [rows_eq lower evaluated, rows_eq higher evaluated, primary, tier_withCutoff atMost primary]
  exact (shorter.take _).map _

/-- Lowering the cutoff leaves the beginning of the primary rows, unless it leaves none of them. A higher
cutoff that leaves none either changes nothing. This holds under any row cap and if the engine fails. -/
theorem select_withCutoff (lower : (request.withCutoff low).Answerable)
    (higher : (request.withCutoff high).Answerable) (atMost : low.le high = true) (words : WordSet) :
    ∃ rows others, words.select (request.withCutoff low) = (.ok rows, words) ∧
      words.select (request.withCutoff high) = (.ok others, words) ∧
      (rows ≠ [] → (∀ row ∈ rows, row.tier = .primary) →
        others ≠ [] ∧ (∀ row ∈ others, row.tier = .primary) ∧ rows <+: others) ∧
      ((∀ row ∈ others, row.tier = .backup) → rows = others) := by
  refine ⟨_, _, select_eq lower words, select_eq higher words, ?_⟩
  by_cases fails : request.LikeFails words
  · rw [rows_eq_nil_of_likeFails (likeFails_withCutoff.mpr fails),
      rows_eq_nil_of_likeFails (likeFails_withCutoff.mpr fails)]
    exact ⟨fun nonempty => absurd rfl nonempty, fun _ => rfl⟩
  · constructor
    · intro nonempty tiers
      have primary := tier_eq_of_rows lower nonempty tiers
      have qualified := exists_of_tier_eq_primary (tier_withCutoff atMost primary)
      obtain ⟨some, all⟩ := rows_of_qualified higher fails qualified
      exact ⟨some, all, rows_withCutoff_prefix lower higher fails atMost primary⟩
    · intro tiers
      cases answering : (request.withCutoff high).tier words with
      | backup => exact rows_withCutoff_of_backup lower higher fails atMost answering
      | primary =>
        have nonempty := (rows_of_qualified higher fails (exists_of_tier_eq_primary answering)).1
        exact absurd (answering.symm.trans (tier_eq_of_rows higher nonempty tiers)) nofun

end Cutoff

/-- The word itself is all that a cutoff of zero leaves. -/
theorem select_withCutoff_fo : ((complete "fo" "fo").withCutoff .zero).Answerable ∧
    ((complete "fo" "fo").withCutoff .half).Answerable ∧ Binary64.zero.le .half = true ∧
    (WordSet.ofList ["foobar", "fo"]).select ((complete "fo" "fo").withCutoff .half) =
      (.ok [.primary "fo", .primary "foobar"], .ofList ["foobar", "fo"]) ∧
    ∃ rows, (WordSet.ofList ["foobar", "fo"]).select ((complete "fo" "fo").withCutoff .zero) =
        (.ok rows, .ofList ["foobar", "fo"]) ∧
      rows = [.primary "fo"] ∧ rows <+: [.primary "fo", .primary "foobar"] := by
  have lower : ((complete "fo" "fo").withCutoff .zero).Answerable := ⟨rfl, by decide, rfl⟩
  have higher : ((complete "fo" "fo").withCutoff .half).Answerable := ⟨rfl, by decide, rfl⟩
  have evaluated : ¬ ((complete "fo" "fo").withCutoff .half).LikeFails (.ofList ["foobar", "fo"]) :=
    not_likeFails (by decide) (by decide)
  have primary : ((complete "fo" "fo").withCutoff .half).tier (.ofList ["foobar", "fo"]) = .primary := by
    decide +kernel
  have wide : (WordSet.ofList ["foobar", "fo"]).select ((complete "fo" "fo").withCutoff .half) =
      (.ok [.primary "fo", .primary "foobar"], .ofList ["foobar", "fo"]) :=
    select_of_sorted higher evaluated primary ["fo", "foobar"] (by decide +kernel) (by decide +kernel)
  have narrow : (WordSet.ofList ["foobar", "fo"]).select ((complete "fo" "fo").withCutoff .zero) =
      (.ok [.primary "fo"], .ofList ["foobar", "fo"]) := by decide +kernel
  obtain ⟨rows, others, first, second, shorter, _⟩ :=
    select_withCutoff lower higher (by decide) (.ofList ["foobar", "fo"])
  obtain rfl := rows_unique narrow first
  obtain rfl := rows_unique wide second
  exact ⟨lower, higher, by decide, wide, _, narrow, rfl, (shorter (by simp) (by simp [Match.tier])).2.2⟩

end WordCompletion.Request

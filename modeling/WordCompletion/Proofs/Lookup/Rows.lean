import WordCompletion.Cache
import WordCompletion.Proofs.Ranking
import WordCompletion.Proofs.Score

/-! # What a lookup answers, tier by tier

A request decides for each stored word whether it qualifies for a tier and under which key it is
ranked there. These decisions name the documented score and patterns and not the steps of a lookup.
Main statement: unless a pattern fails, the rows are the words that qualify for one tier, sorted by
their keys and cut to the limit; the tier is the primary one as soon as some word qualifies for it.
Lookups that evaluate and score every stored word alike answer alike, whatever else is different.
-/

namespace WordCompletion

/-- The two tiers of rows. -/
inductive Tier where
  | primary
  | backup
deriving DecidableEq, Repr

namespace Match

/-- The tier of a row. -/
def tier : Match → Tier
  | .primary _ => .primary
  | .backup _ _ => .backup

/-- The row of a stored word in a tier. -/
def ofTier : Tier → String → Match
  | .primary => .primary
  | .backup => .ofBackup

@[simp] theorem tier_ofTier (tier : Tier) (word : String) : (ofTier tier word).tier = tier := by
  cases tier <;> rfl

@[simp] theorem word_ofTier (tier : Tier) (word : String) : (ofTier tier word).word = word := by
  cases tier <;> rfl

theorem map_word_ofTier (tier : Tier) (words : List String) : (words.map (ofTier tier)).map word = words := by
  simp [List.map_map, Function.comp_def]

end Match

/-! ## Lookups that agree -/

theorem filter?_congr {α : Type} {test other : α → Option Bool} {items : List α}
    (same : ∀ item ∈ items, test item = other item) : filter? test items = filter? other items := by
  induction items with
  | nil => rfl
  | cons head rest ih =>
    rw [List.forall_mem_cons] at same
    rw [filter?, filter?, same.1, ih same.2]

theorem mem_of_filter? {α : Type} {test : α → Option Bool} {items kept : List α}
    (found : filter? test items = some kept) {item : α} (member : item ∈ kept) : item ∈ items := by
  rw [(filter?_eq_some.mp found).2] at member
  exact List.mem_of_mem_filter member

namespace Lookup

variable {first second : Lookup} {words : List String}

/-- Two lookups evaluate their patterns on a stored word alike and score it alike. -/
structure AgreeOn (first second : Lookup) (stored : String) : Prop where
  wordPattern : first.wordPattern.eval? stored = second.wordPattern.eval? stored
  symPattern : first.symPattern.eval? stored = second.symPattern.eval? stored
  wordScore : first.wordScore stored = second.wordScore stored
  symScore : first.symScore stored = second.symScore stored

namespace AgreeOn

variable {stored : String}

theorem matchesWord? (agree : first.AgreeOn second stored) :
    first.matchesWord? stored = second.matchesWord? stored :=
  agree.wordPattern

theorem matchesEither? (agree : first.AgreeOn second stored) :
    first.matchesEither? stored = second.matchesEither? stored := by
  rw [Lookup.matchesEither?, Lookup.matchesEither?, agree.matchesWord?, agree.symPattern]

theorem primaryCandidate (agree : first.AgreeOn second stored) :
    first.primaryCandidate stored = second.primaryCandidate stored := by
  rw [Lookup.primaryCandidate, Lookup.primaryCandidate, agree.wordScore, agree.symScore]

theorem backupCandidate (agree : first.AgreeOn second stored) :
    first.backupCandidate stored = second.backupCandidate stored := by
  rw [Lookup.backupCandidate, Lookup.backupCandidate, agree.wordScore]

end AgreeOn

theorem primary?_congr (agree : ∀ stored ∈ words, first.AgreeOn second stored)
    (cutoff : first.cutoff = second.cutoff) (limit : first.limit = second.limit) :
    first.primary? words = second.primary? words := by
  rw [primary?, primary?, filter?_congr fun stored member => (agree stored member).matchesEither?]
  apply Option.map_congr
  intro kept found
  have candidates : kept.map first.primaryCandidate = kept.map second.primaryCandidate :=
    List.map_congr_left fun stored member => (agree stored (mem_of_filter? found member)).primaryCandidate
  rw [candidates, cutoff, limit]

theorem backup?_congr (agree : ∀ stored ∈ words, first.AgreeOn second stored) (limit : first.limit = second.limit) :
    first.backup? words = second.backup? words := by
  rw [backup?, backup?, filter?_congr fun stored member => (agree stored member).matchesWord?]
  apply Option.map_congr
  intro kept found
  have candidates : kept.map first.backupCandidate = kept.map second.backupCandidate :=
    List.map_congr_left fun stored member => (agree stored (mem_of_filter? found member)).backupCandidate
  rw [candidates, limit]

/-- The engine does the same for lookups that agree on every stored word. -/
theorem run_congr (agree : ∀ stored ∈ words, first.AgreeOn second stored) (cutoff : first.cutoff = second.cutoff)
    (limit : first.limit = second.limit) : first.run words = second.run words := by
  rw [run, run, rows?, rows?, primary?_congr agree cutoff limit, backup?_congr agree limit]

/-- The answer depends on what the engine does and on nothing else. -/
theorem answer_congr (same : first.run words = second.run words) : first.answer words = second.answer words := by
  rw [answer, answer, same]

end Lookup

namespace Request

/-- The request for completions of a word and a symbol under the default options. -/
def complete (word sym : String) : Request := { query := { word, sym } }

/-- The pattern of the words that begin like the word of the query. -/
def wordPattern (request : Request) : Like.Pattern :=
  .ofString (Like.Pattern.startingWith request.query.word request.options.exactMatches.toNat)

/-- The pattern of the words that begin like the symbol of the query. -/
def symPattern (request : Request) : Like.Pattern :=
  .ofString (Like.Pattern.startingWith request.query.sym request.options.exactMatches.toNat)

/-- The score of a stored word against the word of the query. -/
def wordScore (request : Request) (stored : String) : Binary64 :=
  (dissimilarity request.query.word stored request.options.scoredLookAhead).value

/-- The score of a stored word against the symbol of the query. -/
def symScore (request : Request) (stored : String) : Binary64 :=
  (dissimilarity request.query.sym stored request.options.scoredLookAhead).value

/-- The score that a tier ranks a stored word by: the better one of two, or that against the word. -/
def score (request : Request) : Tier → String → Binary64
  | .primary, stored => Lookup.better (request.wordScore stored) (request.symScore stored)
  | .backup, stored => request.wordScore stored

/-- A stored word may be a row of a tier. -/
def qualifies (request : Request) : Tier → String → Bool
  | .primary, stored =>
    (request.wordPattern.matchesText stored || request.symPattern.matchesText stored) &&
      (request.score .primary stored).le request.options.fuzzyCutoff
  | .backup, stored => request.wordPattern.matchesText stored

/-- What orders the rows of a tier. -/
def key (request : Request) (tier : Tier) (stored : String) : RowKey :=
  rowKey (request.score tier stored) stored

/-- The tier that answers: the primary one if any stored word qualifies for it. -/
def tier (request : Request) (words : WordSet) : Tier :=
  if ∃ stored ∈ words.toList, request.qualifies .primary stored = true then .primary else .backup

/-- The words that qualify for a tier, best first. -/
def ranking (request : Request) (tier : Tier) (words : WordSet) : List String :=
  sortedBy (request.key tier) (words.toList.filter (request.qualifies tier))

/-- The most rows of the answer. -/
def limit (request : Request) : ℕ :=
  request.options.limit request.query.limitless

/-- A pattern that is evaluated on a stored word is too long for that. The pattern of the symbol is
evaluated only on words that do not match that of the word. -/
def likeFailsOn (request : Request) (stored : String) : Bool :=
  request.wordPattern.tooLong ||
    (!request.wordPattern.matchesText stored && request.symPattern.tooLong)

/-- Some evaluation of a pattern fails. -/
def LikeFails (request : Request) (words : WordSet) : Prop :=
  ∃ stored ∈ words, request.likeFailsOn stored = true

/-- The request is a lookup whose options pass their check and whose token is not cancelled. -/
structure Answerable (request : Request) : Prop where
  looksUp : request.clear = false
  valid : request.options.validate = .ok ()
  live : request.cancelled = false

/-- The lookup that the request prepares. -/
def lookup (request : Request) : Lookup := .prepare request.options request.query

variable {request : Request} {words : WordSet}

theorem key_injective (request : Request) (tier : Tier) : Function.Injective (request.key tier) :=
  fun _ _ same => eq_of_rowKey_eq same

theorem ranking_perm (request : Request) (tier : Tier) (words : WordSet) :
    (request.ranking tier words).Perm (words.toList.filter (request.qualifies tier)) :=
  sortedBy_perm ..

theorem mem_ranking {tier : Tier} {stored : String} :
    stored ∈ request.ranking tier words ↔ stored ∈ words ∧ request.qualifies tier stored = true := by
  rw [(request.ranking_perm tier words).mem_iff, List.mem_filter, WordSet.mem_iff]

theorem limit_pos (answerable : request.Answerable) : 0 < request.limit :=
  MatchOptions.limit_pos answerable.valid _

/-- A valid lookup that nobody cancelled answers its rows and changes nothing. -/
theorem select_eq (answerable : request.Answerable) (words : WordSet) :
    words.select request = (.ok (request.lookup.rows words.toList), words) := by
  simp [WordSet.select, answerable.looksUp, answerable.valid, answerable.live, lookup, Lookup.answer_eq]

/-- The better of two scores is the smaller one. -/
theorem position_score_primary (request : Request) (stored : String) :
    (request.score .primary stored).position =
      min (request.wordScore stored).position (request.symScore stored).position := by
  simp only [score, Lookup.better]
  split_ifs <;> omega

/-- Each tier ranks by the value of one score or another. -/
theorem exists_score_eq_value (request : Request) (tier : Tier) (stored : String) :
    ∃ score : Score, request.score tier stored = score.value := by
  cases tier with
  | backup => exact ⟨_, rfl⟩
  | primary =>
    simp only [score, Lookup.better]
    split_ifs
    · exact ⟨_, rfl⟩
    · exact ⟨_, rfl⟩

theorem isNaN_score (request : Request) (tier : Tier) (stored : String) :
    (request.score tier stored).isNaN = false := by
  obtain ⟨score, same⟩ := request.exists_score_eq_value tier stored
  rw [same, Score.isNaN_value]

/-! ## Evaluating the patterns -/

/-- Patterns that are short enough never fail. -/
theorem not_likeFails (word : request.wordPattern.tooLong = false) (sym : request.symPattern.tooLong = false) :
    ¬ request.LikeFails words := by
  rintro ⟨stored, _, fails⟩
  simp [likeFailsOn, word, sym] at fails

theorem matchesWord?_eq (request : Request) (stored : String) : request.lookup.matchesWord? stored =
    if request.wordPattern.tooLong then none else some (request.wordPattern.matchesText stored) := rfl

theorem matchesEither?_eq (request : Request) (stored : String) : request.lookup.matchesEither? stored =
    if request.likeFailsOn stored then none
    else some (request.wordPattern.matchesText stored || request.symPattern.matchesText stored) := by
  have second : request.lookup.symPattern.eval? stored =
    if request.symPattern.tooLong then none else some (request.symPattern.matchesText stored) := rfl
  rw [Lookup.matchesEither?, matchesWord?_eq, second, likeFailsOn]
  cases request.wordPattern.tooLong <;> cases request.wordPattern.matchesText stored <;>
    cases request.symPattern.tooLong <;> simp

theorem filter?_matchesEither? (evaluated : ¬ request.LikeFails words) :
    filter? request.lookup.matchesEither? words.toList = some (words.toList.filter fun stored =>
      request.wordPattern.matchesText stored || request.symPattern.matchesText stored) := by
  have defined : ∀ stored ∈ words.toList, request.likeFailsOn stored = false :=
    fun stored member => Bool.eq_false_iff.mpr fun fails => evaluated ⟨stored, member, fails⟩
  refine filter?_eq_some.mpr ⟨?_, List.filter_congr ?_⟩
  · intro stored member
    simp [matchesEither?_eq, defined stored member]
  · intro stored member
    simp [matchesEither?_eq, defined stored member]

theorem filter?_matchesWord? (evaluated : ¬ request.LikeFails words) :
    filter? request.lookup.matchesWord? words.toList =
      some (words.toList.filter request.wordPattern.matchesText) := by
  have defined : ∀ stored ∈ words.toList, request.wordPattern.tooLong = false :=
    fun stored member => Bool.eq_false_iff.mpr fun long =>
      evaluated ⟨stored, member, by simp [likeFailsOn, long]⟩
  refine filter?_eq_some.mpr ⟨?_, List.filter_congr ?_⟩
  · intro stored member
    simp [matchesWord?_eq, defined stored member]
  · intro stored member
    simp [matchesWord?_eq, defined stored member]

/-- The first word on which a pattern fails ends the lookup. -/
theorem filter?_eq_none {α : Type} {test : α → Option Bool} {items : List α} :
    filter? test items = none ↔ ∃ item ∈ items, test item = none := by
  rw [Option.eq_none_iff_forall_ne_some]
  constructor
  · intro undefined
    by_contra defined
    push Not at defined
    exact undefined _ (filter?_eq_some.mpr ⟨defined, rfl⟩)
  · rintro ⟨item, member, fails⟩ kept success
    exact (filter?_eq_some.mp success).1 item member fails

/-- A pattern that fails ends the primary tier, and the backup tier does not stand in for it. -/
theorem primary?_eq_none (fails : request.LikeFails words) : request.lookup.primary? words.toList = none := by
  obtain ⟨stored, member, long⟩ := fails
  have undefined : filter? request.lookup.matchesEither? words.toList = none :=
    filter?_eq_none.mpr ⟨stored, member, by simp [matchesEither?_eq, long]⟩
  rw [Lookup.primary?, undefined, Option.map_none]

theorem rows?_eq_none (fails : request.LikeFails words) : request.lookup.rows? words.toList = none := by
  rw [Lookup.rows?, primary?_eq_none fails]

/-- A lookup on which a pattern fails has no rows, not even of the backup tier. -/
theorem rows_eq_nil_of_likeFails (fails : request.LikeFails words) :
    request.lookup.rows words.toList = [] := by
  rw [Lookup.rows, rows?_eq_none fails, Option.getD_none]

/-! ## The rows of each tier -/

theorem primary?_eq (evaluated : ¬ request.LikeFails words) : request.lookup.primary? words.toList =
    some (((request.ranking .primary words).take request.limit).map (Match.ofTier .primary)) := by
  rw [Lookup.primary?, filter?_matchesEither? evaluated, Option.map_some]
  have within : ((words.toList.filter fun stored => request.wordPattern.matchesText stored ||
        request.symPattern.matchesText stored).map request.lookup.primaryCandidate).filter
          (·.score.le request.lookup.cutoff) =
      (words.toList.filter (request.qualifies .primary)).map
        fun stored => ⟨request.score .primary stored, stored⟩ := by
    rw [List.filter_map, List.filter_filter]
    exact congrArg (List.map _) (List.filter_congr fun stored _ => Bool.and_comm ..)
  have ranked := congrArg (Candidate.rank · request.limit) within
  exact congrArg (fun best => some (best.map Match.primary)) (ranked.trans (rank_map_eq ..))

theorem backup?_eq (evaluated : ¬ request.LikeFails words) : request.lookup.backup? words.toList =
    some (((request.ranking .backup words).take request.limit).map (Match.ofTier .backup)) := by
  rw [Lookup.backup?, filter?_matchesWord? evaluated, Option.map_some]
  exact congrArg (fun ranked => some (ranked.map Match.ofBackup))
    (rank_map_eq (request.score .backup) _ request.limit)

theorem ranking_eq_nil_iff {tier : Tier} :
    request.ranking tier words = [] ↔ ∀ stored ∈ words, request.qualifies tier stored = false := by
  simp only [List.eq_nil_iff_forall_not_mem, mem_ranking, not_and, Bool.not_eq_true]

/-- The rows are the best words that qualify for the tier that answers. -/
theorem rows_eq (answerable : request.Answerable) (evaluated : ¬ request.LikeFails words) :
    request.lookup.rows words.toList =
      ((request.ranking (request.tier words) words).take request.limit).map
        (Match.ofTier (request.tier words)) := by
  have positive := limit_pos answerable
  rw [Lookup.rows, Lookup.rows?, primary?_eq evaluated, backup?_eq evaluated, Request.tier]
  split_ifs with qualified
  · obtain ⟨stored, member, qualified⟩ := qualified
    have present : stored ∈ request.ranking .primary words := mem_ranking.mpr ⟨member, qualified⟩
    obtain ⟨best, rest, nonempty⟩ := List.exists_cons_of_ne_nil (List.ne_nil_of_mem present)
    obtain ⟨more, succ⟩ := Nat.exists_eq_succ_of_ne_zero positive.ne'
    simp [nonempty, succ]
  · have empty : request.ranking .primary words = [] := by
      rw [ranking_eq_nil_iff]
      intro stored member
      exact Bool.eq_false_iff.mpr fun holds => qualified ⟨stored, member, holds⟩
    simp [empty]

theorem rows_unique {rows others : List Match} (first : words.select request = (.ok rows, words))
    (second : words.select request = (.ok others, words)) : rows = others :=
  Except.ok.inj (Prod.mk.inj (first.symm.trans second)).1

/-- Whatever lists the words that qualify for the answering tier in the order of their keys is the answer. -/
theorem select_of_sorted (answerable : request.Answerable) (evaluated : ¬ request.LikeFails words) {tier : Tier}
    (answering : request.tier words = tier) (items : List String)
    (perm : items.Perm (words.toList.filter (request.qualifies tier)))
    (sorted : items.Pairwise fun first second => request.key tier first ≤ request.key tier second) :
    words.select request = (.ok ((items.take request.limit).map (Match.ofTier tier)), words) := by
  rw [select_eq answerable, rows_eq answerable evaluated, answering, ranking,
    eq_sortedBy (request.key_injective tier) perm sorted]

end Request

end WordCompletion

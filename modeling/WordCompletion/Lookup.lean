import WordCompletion.Error
import WordCompletion.Like
import WordCompletion.Match
import WordCompletion.Options
import WordCompletion.Query
import WordCompletion.Score

/-! # Looking up completions

A lookup evaluates its patterns on every stored word. The primary tier keeps the words that match the
pattern of the word or of the symbol and whose better score is within the cutoff; the backup tier,
used when the primary one is empty, keeps the words that match the pattern of the word. Both are
ranked by score, then by length up to the first NUL, then by code points, and cut to the limit. A
pattern that cannot be evaluated on some word fails the whole lookup: the engine reports an error, and
what the engine reports of a statement is answered with no rows.
-/

namespace WordCompletion

/-- The members on which the test holds, unless it has no value on one of them. -/
def filter? {α : Type} (test : α → Option Bool) : List α → Option (List α)
  | [] => some []
  | head :: rest =>
    match test head with
    | none => none
    | some kept => (filter? test rest).map fun tail => if kept then head :: tail else tail

theorem filter?_eq_some {α : Type} {test : α → Option Bool} {items kept : List α} :
    filter? test items = some kept ↔
      (∀ item ∈ items, test item ≠ none) ∧ kept = items.filter (test · == some true) := by
  induction items generalizing kept with
  | nil => simp [filter?, eq_comm]
  | cons head rest ih =>
    cases verdict : test head with
    | none => simp [filter?, verdict]
    | some keep =>
      simp only [filter?, verdict, Option.map_eq_some_iff, ih, List.mem_cons, forall_eq_or_imp,
        List.filter_cons]
      constructor
      · rintro ⟨tail, ⟨defined, rfl⟩, rfl⟩
        exact ⟨⟨by simp, defined⟩, by cases keep <;> simp⟩
      · rintro ⟨⟨_, defined⟩, rfl⟩
        exact ⟨_, ⟨defined, rfl⟩, by cases keep <;> simp⟩

/-- A stored word with its score. -/
structure Candidate where
  score : Binary64
  word : String
deriving DecidableEq, Repr

namespace Candidate

/-- The number of characters before the first NUL. -/
def visibleLength (candidate : Candidate) : Nat :=
  (Like.beforeNul candidate.word.toList).length

/-- The order of rows: by score, then by visible length, then by code points. -/
def le (first second : Candidate) : Bool :=
  if first.score.position ≠ second.score.position then
    first.score.position < second.score.position
  else if first.visibleLength ≠ second.visibleLength then
    first.visibleLength < second.visibleLength
  else first.word ≤ second.word

/-- The first candidates in the order of rows. -/
def rank (candidates : List Candidate) (limit : Nat) : List String :=
  ((candidates.mergeSort le).take limit).map (·.word)

end Candidate

/-- A query made ready to be evaluated on stored words. -/
structure Lookup where
  wordPattern : Like.Pattern
  symPattern : Like.Pattern
  lowerWord : List Char
  lowerSym : List Char
  lookAhead : Nat
  cutoff : Binary64
  limit : Nat
deriving Repr

namespace Lookup

/-- Prepare a query under the options. -/
def prepare (options : MatchOptions) (query : Query) : Lookup where
  wordPattern := .ofString (Like.Pattern.startingWith query.word options.exactMatches.toNat)
  symPattern := .ofString (Like.Pattern.startingWith query.sym options.exactMatches.toNat)
  lowerWord := Text.lowercaseAll query.word.toList
  lowerSym := Text.lowercaseAll query.sym.toList
  lookAhead := options.scoredLookAhead
  cutoff := options.fuzzyCutoff
  limit := options.limit query.limitless

/-- Whether a stored word matches the pattern of the word. -/
def matchesWord? (lookup : Lookup) (stored : String) : Option Bool :=
  lookup.wordPattern.eval? stored

/-- Whether a stored word matches one of the patterns; the second is evaluated only if the first
does not match. -/
def matchesEither? (lookup : Lookup) (stored : String) : Option Bool :=
  match lookup.matchesWord? stored with
  | some false => lookup.symPattern.eval? stored
  | decided => decided

/-- The score of a stored word against the word of the query. -/
def wordScore (lookup : Lookup) (stored : String) : Score :=
  .ofLowercase lookup.lowerWord (Text.lowercaseAll stored.toList) lookup.lookAhead

/-- The score of a stored word against the symbol of the query. -/
def symScore (lookup : Lookup) (stored : String) : Score :=
  .ofLowercase lookup.lowerSym (Text.lowercaseAll stored.toList) lookup.lookAhead

/-- The smaller of two scores. -/
def better (first second : Binary64) : Binary64 :=
  if second.position < first.position then second else first

/-- A stored word with the better of its two scores. -/
def primaryCandidate (lookup : Lookup) (stored : String) : Candidate where
  score := better (lookup.wordScore stored).value (lookup.symScore stored).value
  word := stored

/-- A stored word with its score against the word alone. -/
def backupCandidate (lookup : Lookup) (stored : String) : Candidate where
  score := (lookup.wordScore stored).value
  word := stored

/-- The rows of the primary tier. -/
def primary? (lookup : Lookup) (stored : List String) : Option (List Match) :=
  (filter? lookup.matchesEither? stored).map fun kept =>
    let within := (kept.map lookup.primaryCandidate).filter (·.score.le lookup.cutoff)
    (Candidate.rank within lookup.limit).map .primary

/-- The rows of the backup tier. -/
def backup? (lookup : Lookup) (stored : List String) : Option (List Match) :=
  (filter? lookup.matchesWord? stored).map fun kept =>
    (Candidate.rank (kept.map lookup.backupCandidate) lookup.limit).map .ofBackup

/-- The rows of the lookup, the backup tier standing in for an empty primary one; no value when a
pattern could not be evaluated. -/
def rows? (lookup : Lookup) (stored : List String) : Option (List Match) :=
  match lookup.primary? stored with
  | some [] => lookup.backup? stored
  | answer => answer

/-- What the engine reports of a pattern that it cannot evaluate. -/
def patternTooComplex : CacheError :=
  .ofStatement "LIKE or GLOB pattern too complex"

/-- Run the statements of the two tiers: their rows, or what the engine reports. -/
def run (lookup : Lookup) (stored : List String) : Except CacheError (List Match) :=
  match lookup.rows? stored with
  | some rows => .ok rows
  | none => .error patternTooComplex

/-- Answer a lookup. A failure of the engine while it runs a statement counts as an answer without
rows, any other failure is passed on. -/
def answer (lookup : Lookup) (stored : List String) : Except CacheError (List Match) :=
  match lookup.run stored with
  | .ok rows => .ok rows
  | .error error => if error.isOperational then .ok [] else .error error

/-- The rows that a lookup answers, none when a pattern could not be evaluated. -/
def rows (lookup : Lookup) (stored : List String) : List Match :=
  (lookup.rows? stored).getD []

/-- A lookup always answers: what fails in it is a statement. -/
theorem answer_eq (lookup : Lookup) (stored : List String) :
    lookup.answer stored = .ok (lookup.rows stored) := by
  unfold answer run rows
  cases lookup.rows? stored with
  | some rows => rfl
  | none => rfl

end Lookup

end WordCompletion

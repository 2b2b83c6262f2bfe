import WordCompletion.Binary64.Basic

/-! # Options of the lookup and of the program

`MatchOptions` steers one lookup and `CacheConfig` the whole program. Both are checked field by field
in a fixed order, and the first setting out of range is reported. The row limit and the look-ahead
reach the store as signed 64-bit numbers, so larger settings act as the largest of those.
-/

namespace WordCompletion

/-- The largest signed 64-bit number. -/
def maxSigned : Nat := 0x7FFFFFFFFFFFFFFF

/-- How a lookup filters, scores and caps its rows. -/
structure MatchOptions where
  /-- Leading characters of the query that a candidate shares. -/
  exactMatches : UInt64 := 2
  /-- The highest score of a primary row. -/
  fuzzyCutoff : Binary64 := .half
  /-- Characters of a candidate that are compared beyond the length of the query. -/
  lookAhead : UInt64 := 2
  /-- The most rows of one lookup. -/
  maxResults : UInt64 := 33
deriving DecidableEq, Repr, Inhabited

/-- The settings of the program. -/
structure CacheConfig where
  /-- The options of every lookup. -/
  matchOptions : MatchOptions := {}
  /-- The fewest characters of a word that is stored. -/
  minWordLen : UInt64 := 2
  /-- How long a lookup may stay pending, in milliseconds. -/
  deadlineMs : UInt64 := 250
deriving DecidableEq, Repr, Inhabited

/-- A setting that can be out of range. -/
inductive InvalidSetting where
  | maxResults
  | fuzzyCutoff
  | minWordLen
  | deadline
deriving DecidableEq, Repr

namespace InvalidSetting

/-- The dotted name of the setting. -/
def field : InvalidSetting → String
  | .maxResults => "match_options.max_results"
  | .fuzzyCutoff => "match_options.fuzzy_cutoff"
  | .minWordLen => "min_word_len"
  | .deadline => "deadline_ms"

/-- What is asked of the setting. -/
def reason : InvalidSetting → String
  | .maxResults => "must be greater than 0"
  | .fuzzyCutoff => "must be between 0.0 and 1.0"
  | .minWordLen => "must be greater than 0"
  | .deadline => "must be at least 1ms"

/-- The report of the setting. -/
def message (setting : InvalidSetting) : String :=
  "invalid configuration: " ++ setting.field ++ " - " ++ setting.reason

end InvalidSetting

namespace MatchOptions

/-- The number lies between zero and one; neither a NaN nor an infinity does. -/
def cutoffInRange (cutoff : Binary64) : Bool :=
  Binary64.zero.le cutoff && cutoff.le .one

/-- Check the row cap, then the cutoff. -/
def validate (options : MatchOptions) : Except InvalidSetting Unit :=
  if options.maxResults = 0 then .error .maxResults
  else if cutoffInRange options.fuzzyCutoff then .ok ()
  else .error .fuzzyCutoff

/-- The most rows of a lookup: the cap, unless the query lifts it. -/
def limit (options : MatchOptions) (limitless : Bool) : Nat :=
  if limitless then maxSigned else min options.maxResults.toNat maxSigned

/-- The look-ahead as the scorer receives it. -/
def scoredLookAhead (options : MatchOptions) : Nat :=
  min options.lookAhead.toNat maxSigned

theorem validate_eq_ok_iff (options : MatchOptions) :
    options.validate = .ok () ↔
      options.maxResults ≠ 0 ∧ cutoffInRange options.fuzzyCutoff = true := by
  unfold validate
  split
  · simp_all
  · split <;> simp_all

theorem limit_pos {options : MatchOptions} (valid : options.validate = .ok ()) (limitless : Bool) :
    0 < options.limit limitless := by
  have nonzero := ((validate_eq_ok_iff options).mp valid).1
  have positive : 0 < options.maxResults.toNat := by
    rw [Nat.pos_iff_ne_zero]
    exact fun zero => nonzero (UInt64.toNat.inj zero)
  unfold limit maxSigned
  split <;> omega

end MatchOptions

namespace CacheConfig

/-- Check the match options, then the word length, then the deadline. -/
def validate (config : CacheConfig) : Except InvalidSetting Unit := do
  config.matchOptions.validate
  if config.minWordLen = 0 then throw .minWordLen
  if config.deadlineMs = 0 then throw .deadline

theorem validate_eq_ok_iff (config : CacheConfig) :
    config.validate = .ok () ↔
      config.matchOptions.validate = .ok () ∧ config.minWordLen ≠ 0 ∧ config.deadlineMs ≠ 0 := by
  unfold validate
  cases config.matchOptions.validate with
  | error setting => simp [bind, Except.bind]
  | ok _ =>
    by_cases length : config.minWordLen = 0 <;> by_cases deadline : config.deadlineMs = 0 <;>
      simp [bind, Except.bind, pure, Except.pure, throw, throwThe, MonadExceptOf.throw, length, deadline]

/-- A span of time in whole seconds and the nanoseconds left over. -/
structure Deadline where
  seconds : Nat
  nanoseconds : Nat
deriving DecidableEq, Repr

/-- The deadline of a lookup. -/
def deadline (config : CacheConfig) : Deadline where
  seconds := config.deadlineMs.toNat / 1000
  nanoseconds := config.deadlineMs.toNat % 1000 * 1000000

end CacheConfig

end WordCompletion

import WordCompletion.Proofs.Cache.Outcomes
import WordCompletion.Proofs.Session.Contents

/-! # Calls that fail

A session fails in one way only: a line that is no command is looked up, and a lookup whose options are out
of range is refused. A pattern that the engine cannot evaluate is answered with no rows, and commands and
texts to ingest ask for no options at all. So every run of a valid configuration is free of errors, and one
with refused options goes on as if the lines that failed had not been given.
-/

namespace WordCompletion.Session

variable {session : Session} {line : String} {error : CacheError}

/-- The lookup of a line is not cancelled, so it fails for its options or not at all. -/
theorem select_lookupOf_eq_error_iff : (session.words.select (session.lookupOf line)).1 = .error error ↔
    ∃ setting, session.config.matchOptions.validate = .error setting ∧ error = .ofInvalidSetting setting := by
  have outcome := (session.lookupOf line).outcome_select session.words
  generalize (session.words.select (session.lookupOf line)).1 = answer at outcome
  generalize (session.words.select (session.lookupOf line)).2 = after at outcome
  cases outcome with
  | refused _ invalid =>
    constructor
    · intro failed
      exact ⟨_, invalid, (Except.error.inj failed).symm⟩
    · rintro ⟨other, found, rfl⟩
      rw [Except.error.inj (found.symm.trans invalid)]
  | givenUp _ cancelled => exact absurd cancelled Bool.false_ne_true
  | cleared clears _ => exact absurd clears Bool.false_ne_true
  | answered answerable =>
    refine iff_of_false (by simp) ?_
    rintro ⟨setting, invalid, _⟩
    exact absurd (invalid.symm.trans answerable.valid) (by simp)

/-- A line fails exactly if it is no command and the match options are out of range, and the report names
the first setting that is. -/
theorem handle_eq_error_iff : (session.handle line).1 = .error error ↔ ¬ IsCommand line ∧
    ∃ setting, session.config.matchOptions.validate = .error setting ∧ error = .ofInvalidSetting setting := by
  by_cases command : IsCommand line
  · refine iff_of_false ?_ fun fails => fails.1 command
    obtain clear | count := command
    · simp [handle_clear clear]
    · simp [handle_count count]
  · rw [← @select_lookupOf_eq_error_iff session line error]
    cases answer : (session.words.select (session.lookupOf line)).1 with
    | ok rows => simp [handle_of_ok command answer]
    | error other => simp [handle_of_error command answer, command]

theorem exists_handle_eq_ok (accepted : session.config.matchOptions.validate = .ok ()) (line : String) :
    ∃ printed, (session.handle line).1 = .ok printed := by
  cases answer : (session.handle line).1 with
  | ok printed => exact ⟨printed, rfl⟩
  | error error =>
    obtain ⟨_, setting, invalid, _⟩ := handle_eq_error_iff.mp answer
    exact absurd (invalid.symm.trans accepted) (by simp)

theorem handle_of_eq_error (failed : (session.handle line).1 = .error error) : (session.handle line).2 = session := by
  have call : (session.call (.line line)).1 = .error error := by simp [call, failed, Except.map]
  exact call_of_error call

/-- Under accepted options every call is answered, whatever is stored. -/
theorem exists_call_eq_ok (accepted : session.config.matchOptions.validate = .ok ()) (call : Call) :
    ∃ reply, (session.call call).1 = .ok reply := by
  cases call with
  | ingest text => exact ⟨_, rfl⟩
  | line text =>
    obtain ⟨printed, answer⟩ := exists_handle_eq_ok accepted text
    exact ⟨.printed printed, by simp [Session.call, answer, Except.map]⟩

/-- No call changes the options, so a whole run is answered as each of its calls is. -/
theorem exists_reply_of_mem_run (accepted : session.config.matchOptions.validate = .ok ()) (calls : List Call) :
    ∀ report ∈ (session.run calls).1, ∃ reply, report.1 = .ok reply := by
  induction calls generalizing session with
  | nil => exact fun _ member => absurd member List.not_mem_nil
  | cons call rest ih =>
    have kept : (session.call call).2.config = session.config := by rw [call_snd]
    exact List.forall_mem_cons.mpr ⟨exists_call_eq_ok accepted call, ih (kept ▸ accepted)⟩

/-- Under a valid configuration no call of a run fails. Under match options that are out of range, whatever
was called before, exactly the lines that are no command fail; they report the setting and leave the session
as it is, while the commands and texts to ingest do what they always do. -/
theorem run_errors (config : CacheConfig) (limitless : Bool) (calls : List Call) :
    let session := ((start config limitless).run calls).2
    (config.validate = .ok () →
      ∀ report ∈ ((start config limitless).run calls).1, ∃ reply, report.1 = .ok reply) ∧
    ∀ setting, config.matchOptions.validate = .error setting →
      (∀ line error, (session.handle line).1 = .error error ↔
        ¬ IsCommand line ∧ error = .ofInvalidSetting setting) ∧
      (∀ line error, (session.handle line).1 = .error error → (session.handle line).2 = session) ∧
      (∀ line, trimmed line = ":clear" → session.handle line = (.ok [], { session with words := .empty })) ∧
      (∀ line, trimmed line = ":count" → session.handle line = (.ok [toString session.words.size], session)) ∧
      ∀ text, (session.call (.ingest text)).1 = .ok (.offered (wordsOf text config.minWordLen.toNat).size) ∧
        ∀ word, word ∈ (session.call (.ingest text)).2.words ↔
          word ∈ session.words ∨ word ∈ wordsOf text config.minWordLen.toNat := by
  intro session
  have settings : session.config = config := by
    change ((start config limitless).run calls).2.config = config
    rw [run_snd]
    rfl
  refine ⟨fun valid => ?_, fun setting invalid => ⟨fun line error => ?_, fun line error => handle_of_eq_error,
    fun line => handle_clear, fun line => handle_count, fun text => ?_⟩⟩
  · exact exists_reply_of_mem_run ((CacheConfig.validate_eq_ok_iff config).mp valid).1 calls
  · rw [handle_eq_error_iff, settings, invalid]
    refine and_congr_right fun _ => ⟨?_, fun same => ⟨setting, rfl, same⟩⟩
    rintro ⟨other, found, rfl⟩
    rw [Except.error.inj found]
  · rw [← settings]
    exact ⟨rfl, fun word => WordSet.mem_insertAll⟩

/-- The row cap of zero is refused for the line `fo`, under which the default options are answered. -/
theorem run_errors_noResults :
    let capped : CacheConfig := { matchOptions := { maxResults := 0 } }
    let calls : List Call := [.ingest "foo", .line "fo"]
    let session := ((start capped false).run calls).2
    (∀ report ∈ ((start {} false).run calls).1, ∃ reply, report.1 = .ok reply) ∧
    (session.handle "fo").1 = .error (.ofInvalidSetting .maxResults) ∧ (session.handle "fo").2 = session ∧
    session.handle ":clear\t" = (.ok [], { session with words := .empty }) ∧
    session.handle ":count" = (.ok [toString session.words.size], session) := by
  intro capped calls session
  obtain ⟨fails, kept, clears, counts, _⟩ := (run_errors capped false calls).2 .maxResults (by decide)
  have failed : (session.handle "fo").1 = .error (.ofInvalidSetting .maxResults) :=
    (fails "fo" _).mpr ⟨by decide +kernel, rfl⟩
  exact ⟨(run_errors {} false calls).1 (by decide), failed, kept "fo" _ failed, clears _ (by decide +kernel),
    counts _ (by decide +kernel)⟩

end WordCompletion.Session

import WordCompletion.Proofs.Cache.Contents
import WordCompletion.Proofs.Lookup.Failures

/-! # How requests end

A request is refused for its options, given up for its token, or carried out, and this is decided in that
order. Only a clearing that is carried out changes anything. Every other request leaves the caches as they
are, and then nobody can tell from the rest of a run that it was made: not from an error, and not from the
missing rows of a lookup on which the engine failed.
-/

namespace WordCompletion

/-! ## The ends of a request -/

namespace Request

/-- The request looks up words under options that do not pass their check. -/
def Refused (request : Request) : Prop :=
  request.clear = false ∧ request.options.validate ≠ .ok ()

/-- The ends of a request to some words: its answer, and the words after it. -/
inductive Outcome (request : Request) (words : WordSet) : Except CacheError (List Match) → WordSet → Prop where
  /-- The options are out of range, whatever the token is. -/
  | refused {setting : InvalidSetting} (looksUp : request.clear = false)
      (invalid : request.options.validate = .error setting) :
      Outcome request words (.error (.ofInvalidSetting setting)) words
  /-- The token is cancelled, and nothing is looked up or cleared. -/
  | givenUp (accepted : ¬ request.Refused) (cancelled : request.cancelled = true) :
      Outcome request words (.error .cancelled) words
  /-- The words are cleared, whatever the options and the query are. -/
  | cleared (clears : request.clear = true) (live : request.cancelled = false) :
      Outcome request words (.ok []) .empty
  /-- The words are looked up. -/
  | answered (answerable : request.Answerable) :
      Outcome request words (.ok (request.lookup.rows words.toList)) words

theorem not_refused_of_clear {request : Request} (clears : request.clear = true) : ¬ request.Refused := by
  rintro ⟨looksUp, _⟩
  rw [clears] at looksUp
  contradiction

theorem Answerable.not_refused {request : Request} (answerable : request.Answerable) : ¬ request.Refused :=
  fun refused => refused.2 answerable.valid

/-- Each request ends in one of these ways. -/
theorem outcome_select (request : Request) (words : WordSet) :
    request.Outcome words (words.select request).1 (words.select request).2 := by
  cases clears : request.clear with
  | true =>
    have accepted := not_refused_of_clear clears
    cases cancelled : request.cancelled with
    | true =>
      have ended : words.select request = (.error .cancelled, words) := by
        simp [WordSet.select, clears, cancelled]
      rw [ended]
      exact .givenUp accepted cancelled
    | false =>
      have ended : words.select request = (.ok [], .empty) := by
        simp [WordSet.select, clears, cancelled]
      rw [ended]
      exact .cleared clears cancelled
  | false =>
    cases valid : request.options.validate with
    | error setting =>
      have ended : words.select request = (.error (.ofInvalidSetting setting), words) := by
        simp [WordSet.select, clears, valid]
      rw [ended]
      exact .refused clears valid
    | ok _ =>
      cases cancelled : request.cancelled with
      | true =>
        have ended : words.select request = (.error .cancelled, words) := by
          simp [WordSet.select, clears, valid, cancelled]
        rw [ended]
        exact .givenUp (fun refused => refused.2 valid) cancelled
      | false =>
        have answerable : request.Answerable := ⟨clears, valid, cancelled⟩
        rw [select_eq answerable]
        exact .answered answerable

namespace Outcome

variable {request : Request} {words after : WordSet} {answer : Except CacheError (List Match)}

theorem invalidInput_iff (outcome : request.Outcome words answer after) :
    (∃ reason, answer = .error (.invalidInput reason)) ↔ request.Refused := by
  cases outcome with
  | refused looksUp invalid => exact iff_of_true ⟨_, rfl⟩ ⟨looksUp, by simp [invalid]⟩
  | givenUp accepted _ => exact iff_of_false (by simp) accepted
  | cleared clears _ => exact iff_of_false (by simp) (not_refused_of_clear clears)
  | answered answerable => exact iff_of_false (by simp) answerable.not_refused

theorem cancelled_iff (outcome : request.Outcome words answer after) :
    answer = .error .cancelled ↔ ¬ request.Refused ∧ request.cancelled = true := by
  cases outcome with
  | refused looksUp invalid =>
    have refused : request.Refused := ⟨looksUp, by simp [invalid]⟩
    exact iff_of_false (by simp [CacheError.ofInvalidSetting]) fun accepted => accepted.1 refused
  | givenUp accepted cancelled => exact iff_of_true rfl ⟨accepted, cancelled⟩
  | cleared _ live => exact iff_of_false (by simp) (by simp [live])
  | answered answerable => exact iff_of_false (by simp) (by simp [answerable.live])

theorem ok_iff (outcome : request.Outcome words answer after) :
    (∃ rows, answer = .ok rows) ↔ ¬ request.Refused ∧ request.cancelled = false := by
  cases outcome with
  | refused looksUp invalid =>
    have refused : request.Refused := ⟨looksUp, by simp [invalid]⟩
    exact iff_of_false (by simp) fun accepted => accepted.1 refused
  | givenUp _ cancelled => exact iff_of_false (by simp) (by simp [cancelled])
  | cleared clears live => exact iff_of_true ⟨_, rfl⟩ ⟨not_refused_of_clear clears, live⟩
  | answered answerable => exact iff_of_true ⟨_, rfl⟩ ⟨answerable.not_refused, answerable.live⟩

/-- A request fails by its options or its token and by nothing else. -/
theorem not_internal (outcome : request.Outcome words answer after) :
    (∀ fault, answer ≠ .error (.database fault)) ∧ (∀ reason, answer ≠ .error (.migrationFailed reason)) ∧
      ∀ reason, answer ≠ .error (.interruptFailed reason) := by
  cases outcome with
  | refused => simp [CacheError.ofInvalidSetting]
  | givenUp => simp
  | cleared => simp
  | answered => simp

theorem of_clear (outcome : request.Outcome words answer after) (clears : request.clear = true)
    (live : request.cancelled = false) : answer = .ok [] ∧ after = .empty := by
  cases outcome with
  | refused looksUp => simp [clears] at looksUp
  | givenUp _ cancelled => simp [live] at cancelled
  | cleared => exact ⟨rfl, rfl⟩
  | answered answerable => simp [answerable.looksUp] at clears

end Outcome

end Request

/-! ## Steps that leave no trace -/

namespace Run

variable {caches middle final : Caches} {front back : List Step}
  {before : List (Except CacheError Answer × List ℕ)}

theorem length_of_run? (run : caches.run? front = some (before, middle)) : before.length = front.length := by
  induction front generalizing caches before with
  | nil =>
    obtain ⟨rfl, _⟩ := Prod.mk.inj (Option.some.inj run)
    rfl
  | cons step front ih =>
    obtain ⟨_, _, more, _, continued, rfl⟩ := run?_cons_eq_some.mp run
    rw [List.length_cons, List.length_cons, ih continued]

/-- A run goes on from the state that its first steps lead to. -/
theorem run?_append (run : caches.run? front = some (before, middle)) (back : List Step) :
    caches.run? (front ++ back) = (middle.run? back).map fun rest => (before ++ rest.1, rest.2) := by
  induction front generalizing caches before with
  | nil =>
    obtain ⟨rfl, rfl⟩ := Prod.mk.inj (Option.some.inj run)
    simp
  | cons step front ih =>
    obtain ⟨answer, next, more, stepped, continued, rfl⟩ := run?_cons_eq_some.mp run
    simp only [List.cons_append, Caches.run?, stepped, ih continued, Option.bind_eq_bind, Option.bind_some]
    cases middle.run? back with
    | none => rfl
    | some rest => rfl

/-- After some earlier steps, a step has its own report and shows in no other: whatever is done later is
reported as if the step had not been taken, and leaves the same caches. -/
def Unnoticed (earlier : List Step) (step : Step) (report : Except CacheError Answer × List ℕ) : Prop :=
  ∀ later, Caches.single.run? (earlier ++ step :: later) =
    (Caches.single.run? (earlier ++ later)).map fun others =>
      (others.1.take earlier.length ++ report :: others.1.drop earlier.length, others.2)

/-- A step that leaves the caches as they are goes unnoticed. -/
theorem unnoticed_of_idle {step : Step} {answer : Except CacheError Answer}
    (run : Caches.single.run? front = some (before, middle)) (idle : middle.step? step = some (answer, middle)) :
    Unnoticed front step (answer, middle.sizes) := by
  intro later
  have length := length_of_run? run
  rw [run?_append run, run?_append run]
  simp only [Caches.run?, idle, Option.bind_eq_bind, Option.bind_some]
  cases middle.run? later with
  | none => rfl
  | some rest =>
    have kept : (before ++ rest.1).take front.length = before := List.take_left' length
    have left : (before ++ rest.1).drop front.length = rest.1 := List.drop_left' length
    simp [kept, left]

theorem step?_select {handle store : ℕ} {words : WordSet} (stands : caches.handles[handle]? = some store)
    (behind : caches.stores[store]? = some words) (request : Request) :
    caches.step? ⟨handle, .select request⟩ =
      some ((words.select request).1.map .rows, caches.acted (.select request) store words) :=
  Caches.step?_eq stands behind

/-- A request that leaves its words as they are leaves all caches as they are. -/
theorem acted_select_of_unchanged {store : ℕ} {words : WordSet} (behind : caches.stores[store]? = some words)
    {request : Request} (unchanged : (words.select request).2 = words) :
    caches.acted (.select request) store words = caches := by
  rw [WordSet.select_snd] at unchanged
  simp [Caches.acted, unchanged, Caches.set_of_behind behind, Action.opened, Action.made]

/-! ## Requests in a run -/

/-- The engine fails on a lookup exactly if some word is stored and the pattern of the word is too long, or
that of the symbol is and some stored word does not match the first. The backup tier never fails on its own.
A valid lookup on which the engine fails answers no rows, and neither the words nor any later step show it.
If no more than 12499 leading characters have to match, the engine never fails. -/
theorem failure_unnoticed (request : Request) (words : WordSet) :
    ((∃ error, request.lookup.run words.toList = .error error) ↔
      words.toList ≠ [] ∧ (Like.maxPatternBytes < request.wordPattern.byteSize ∨
        (Like.maxPatternBytes < request.symPattern.byteSize ∧
          ∃ stored ∈ words, request.wordPattern.matchesText stored = false))) ∧
      (∀ rows, request.lookup.primary? words.toList = some rows →
        ∃ others, request.lookup.backup? words.toList = some others) ∧
      (request.Answerable → ∀ error, request.lookup.run words.toList = .error error →
        error.isOperational = true ∧ words.select request = (.ok [], words) ∧
          ∀ earlier reports caches handle, Caches.single.run? earlier = some (reports, caches) →
            caches.words? handle = some words →
              caches.step? ⟨handle, .select request⟩ = some (.ok (.rows []), caches) ∧
                Unnoticed earlier ⟨handle, .select request⟩ (.ok (.rows []), caches.sizes)) ∧
      (request.options.exactMatches.toNat ≤ 12499 → ∃ rows, request.lookup.run words.toList = .ok rows) := by
  refine ⟨Request.exists_run_eq_error_iff.trans Request.likeFails_iff,
    fun rows => Request.exists_backup?_of_primary?, ?_, fun few => Request.exists_run_eq_ok few words⟩
  intro answerable error failed
  have ended : words.select request = (.ok [], words) := by
    rw [Request.select_eq answerable, Request.rows_of_run_eq_error failed]
  refine ⟨Request.isOperational_of_run failed, ended, ?_⟩
  intro earlier reports caches handle run found
  obtain ⟨store, stands, behind⟩ := Caches.words?_eq_some_iff.mp found
  have stepped : caches.step? ⟨handle, .select request⟩ = some (.ok (.rows []), caches) := by
    rw [step?_select stands behind, acted_select_of_unchanged behind (congrArg Prod.snd ended), ended]
    rfl
  exact ⟨stepped, unnoticed_of_idle run stepped⟩

/-- Fifty thousand letters. -/
def longWord : String := String.ofList (List.replicate 50000 'a')

theorem length_longWord : longWord.toList.length = 50000 := by
  unfold longWord
  rw [String.toList_ofList]
  exact List.length_replicate

/-- A request for the words that begin with all of these letters. -/
def longRequest : Request where
  options := { exactMatches := 50000 }
  query := { word := longWord, sym := "b" }

/-- A pattern of more than fifty thousand bytes is answered with no rows and then forgotten. -/
theorem failure_unnoticed_long : longRequest.Answerable ∧
    (∃ error, longRequest.lookup.run (WordSet.ofList ["b"]).toList = .error error) ∧
      (WordSet.ofList ["b"]).select longRequest = (.ok [], .ofList ["b"]) ∧
        Unnoticed [⟨0, .insert ["b"]⟩] ⟨0, .select longRequest⟩ (.ok (.rows []), [1]) := by
  have answerable : longRequest.Answerable := ⟨rfl, by decide, rfl⟩
  have long : Like.maxPatternBytes < longRequest.wordPattern.byteSize :=
    longRequest.maxPatternBytes_lt_of_le (by decide) length_longWord.ge
  obtain ⟨fails, _, quiet, _⟩ := failure_unnoticed longRequest (.ofList ["b"])
  obtain ⟨error, failed⟩ := fails.mpr ⟨by decide, .inl long⟩
  obtain ⟨_, ended, unnoticed⟩ := quiet answerable error failed
  exact ⟨answerable, ⟨error, failed⟩, ended, (unnoticed [⟨0, .insert ["b"]⟩] _ _ 0 rfl rfl).2⟩

/-- Through any handle in any run, a request fails for its options if it looks words up and they are out of
range, else for its token if that is cancelled, and in no other way. A clearing that is carried out empties
the words for every handle to them, whatever its options and its query are; one that is cancelled leaves
everything. A request that fails changes nothing and goes unnoticed by every later step. -/
theorem select_outcomes {earlier : List Step} {reports : List (Except CacheError Answer × List ℕ)}
    {caches : Caches} (run : Caches.single.run? earlier = some (reports, caches)) {handle : ℕ}
    (present : handle < caches.handles.length) (request : Request) :
    ∃ words answer next, caches.words? handle = some words ∧ (words.select request).1 = answer ∧
      caches.step? ⟨handle, .select request⟩ = some (answer.map .rows, next) ∧
      ((∃ reason, answer = .error (.invalidInput reason)) ↔ request.Refused) ∧
      (answer = .error .cancelled ↔ ¬ request.Refused ∧ request.cancelled = true) ∧
      ((∃ rows, answer = .ok rows) ↔ ¬ request.Refused ∧ request.cancelled = false) ∧
      (∀ fault, answer ≠ .error (.database fault)) ∧ (∀ reason, answer ≠ .error (.migrationFailed reason)) ∧
      (∀ reason, answer ≠ .error (.interruptFailed reason)) ∧
      (request.clear = true → request.cancelled = false → answer = .ok [] ∧
        (∀ other, caches.handles[other]? = caches.handles[handle]? → next.words? other = some .empty) ∧
        ∀ options query, caches.step? ⟨handle, .select { request with options, query }⟩ =
          some (answer.map .rows, next)) ∧
      (request.clear = true → request.cancelled = true → next = caches) ∧
      ∀ error, answer = .error error → next = caches ∧
        Unnoticed earlier ⟨handle, .select request⟩ (answer.map .rows, caches.sizes) := by
  have tracks : Tracks earlier caches := tracks_single.run? run
  obtain ⟨store, words, stands, behind, found⟩ := tracks.wellFormed.words?_eq_some present
  have outcome := request.outcome_select words
  have stepped := step?_select stands behind request
  have idle : ∀ error, (words.select request).1 = .error error →
      caches.acted (.select request) store words = caches := by
    intro error failed
    exact acted_select_of_unchanged behind (WordSet.select_error failed)
  obtain ⟨noFault, noMigration, noInterrupt⟩ := outcome.not_internal
  refine ⟨words, _, _, found, rfl, stepped, outcome.invalidInput_iff, outcome.cancelled_iff, outcome.ok_iff,
    noFault, noMigration, noInterrupt, ?_, ?_, ?_⟩
  · intro clears live
    obtain ⟨empty, cleared⟩ := outcome.of_clear clears live
    refine ⟨empty, fun other shares => ?_, fun options query => ?_⟩
    · rw [Caches.words?_acted_self behind (shares.trans stands), ← WordSet.select_snd, cleared]
    · have other := Request.outcome_select { request with options, query } words
      obtain ⟨empty', cleared'⟩ := other.of_clear clears live
      rw [step?_select stands behind, empty, empty']
      simp only [Caches.acted, ← WordSet.select_snd, cleared, cleared', Action.opened, Action.made]
  · intro clears cancelled
    have answered : (words.select request).1 = .error .cancelled :=
      outcome.cancelled_iff.mpr ⟨Request.not_refused_of_clear clears, cancelled⟩
    exact idle _ answered
  · intro error failed
    have unchanged := idle error failed
    rw [unchanged] at stepped
    exact ⟨unchanged, unnoticed_of_idle run stepped⟩

/-- A cancelled request to clear, with options that would be refused if it looked words up. -/
def cancelledClear : Request where
  clear := true
  options := { maxResults := 0 }
  cancelled := true

/-- A cancelled clearing fails for its token alone and keeps the words. -/
theorem select_outcomes_cancelledClear :
    Caches.single.run? [⟨0, .insert ["a"]⟩] = some ([(.ok .done, [1])], ⟨[.ofList ["a"]], [0]⟩) ∧
      0 < (Caches.mk [.ofList ["a"]] [0]).handles.length ∧
      Caches.step? ⟨[.ofList ["a"]], [0]⟩ ⟨0, .select cancelledClear⟩ =
        some (.error .cancelled, ⟨[.ofList ["a"]], [0]⟩) := by
  have run : Caches.single.run? [⟨0, .insert ["a"]⟩] = some ([(.ok .done, [1])], ⟨[.ofList ["a"]], [0]⟩) := rfl
  have present : 0 < (Caches.mk [.ofList ["a"]] [0]).handles.length := by decide
  obtain ⟨_, answer, next, _, _, stepped, _, cancelled, _, _, _, _, _, kept, _⟩ :=
    select_outcomes run present cancelledClear
  have answered : answer = .error .cancelled := cancelled.mpr ⟨Request.not_refused_of_clear rfl, rfl⟩
  rw [answered, kept rfl rfl] at stepped
  exact ⟨run, present, stepped⟩

end Run

end WordCompletion

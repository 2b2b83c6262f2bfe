import WordCompletion.Proofs.Cache.Contents
import WordCompletion.Proofs.Words
import WordCompletion.Session

/-! # What a session stores after a run

The words of a session can be told from its calls and their replies: they are the words of the texts that
were ingested and of the lines that were answered, as far as no later line cleared them. A line is answered
from the words before it, and a line that fails leaves them.
-/

namespace WordCompletion.Session

/-! ## What the calls say -/

/-- A line as its command is told: without the blanks at its end. -/
def trimmed (line : String) : String := String.ofList (Text.trimBlankEnd line.toList)

/-- The line is a command and not the text before a cursor. -/
def IsCommand (line : String) : Prop := trimmed line = ":clear" ∨ trimmed line = ":count"

instance decidableIsCommand (line : String) : Decidable (IsCommand line) :=
  inferInstanceAs (Decidable (_ ∨ _))

/-- The call is a line that clears. -/
def Call.clears : Call → Bool
  | .ingest _ => false
  | .line text => trimmed text = ":clear"

/-- A call with its reply. -/
structure Exchange where
  call : Call
  reply : Except CacheError Reply
deriving Repr

/-- The words that an exchange gives the session, those of a text that is ingested or of a line that is
answered and no command. -/
def Exchange.offers (minimum : ℕ) : Exchange → WordSet
  | ⟨.ingest text, _⟩ => wordsOf text minimum
  | ⟨.line text, .ok _⟩ => if IsCommand text then .empty else wordsOf text minimum
  | ⟨.line _, .error _⟩ => .empty

/-- The words that were given in a history and not cleared since. -/
def storedWords (minimum : ℕ) (history : List Exchange) : Set String :=
  {word | ∃ front exchange back, history = front ++ exchange :: back ∧ word ∈ exchange.offers minimum ∧
    ∀ later ∈ back, later.call.clears = false}

/-- The calls of a run with their replies. -/
def exchanges (session : Session) (calls : List Call) : List Exchange :=
  (calls.zip (session.run calls).1).map fun (call, report) => ⟨call, report.1⟩

theorem mem_storedWords_append_singleton {minimum : ℕ} {history : List Exchange} {exchange : Exchange}
    {word : String} : word ∈ storedWords minimum (history ++ [exchange]) ↔
      word ∈ exchange.offers minimum ∨
        (word ∈ storedWords minimum history ∧ exchange.call.clears = false) := by
  refine Run.exists_split_append_singleton.trans (or_congr (by simp) ?_)
  constructor
  · rintro ⟨front, item, back, same, offered, kept⟩
    refine ⟨⟨front, item, back, same, offered, fun later member => ?_⟩, kept exchange (by simp)⟩
    exact kept later (List.mem_append_left _ member)
  · rintro ⟨⟨front, item, back, same, offered, kept⟩, last⟩
    exact ⟨front, item, back, same, offered, List.forall_mem_append.mpr ⟨kept, by simpa using last⟩⟩

/-- What an exchange gives are words of a text. -/
theorem mem_wordsOf_of_mem_offers {minimum : ℕ} {exchange : Exchange} {word : String}
    (offered : word ∈ exchange.offers minimum) : ∃ text, word ∈ wordsOf text minimum := by
  unfold Exchange.offers at offered
  split at offered
  · exact ⟨_, offered⟩
  · split_ifs at offered
    · exact absurd offered (WordSet.not_mem_empty word)
    · exact ⟨_, offered⟩
  · exact absurd offered (WordSet.not_mem_empty word)

/-! ## One call -/

variable {session : Session} {line : String}

/-- How the session looks up a line that is no command. -/
def lookupOf (session : Session) (line : String) : Request where
  options := session.config.matchOptions
  query := { Query.atCursor (trimmed line) with limitless := session.limitless }

theorem handle_clear (command : trimmed line = ":clear") :
    session.handle line = (.ok [], { session with words := .empty }) := by
  have kind : LineKind.ofLine line = .clear := if_pos command
  rw [handle, kind]

theorem handle_count (command : trimmed line = ":count") :
    session.handle line = (.ok [toString session.words.size], session) := by
  have other : trimmed line ≠ ":clear" := by simp [command]
  have kind : LineKind.ofLine line = .count := (if_neg other).trans (if_pos command)
  rw [handle, kind]

theorem ofLine_of_not_isCommand (text : ¬ IsCommand line) : LineKind.ofLine line = .complete (trimmed line) := by
  obtain ⟨clear, count⟩ := not_or.mp text
  exact (if_neg clear).trans (if_neg count)

theorem handle_of_ok (text : ¬ IsCommand line) {rows : List Match}
    (success : (session.words.select (session.lookupOf line)).1 = .ok rows) :
    session.handle line = (.ok (rows.map Match.toJsonText), session.ingest line) := by
  have request : session.request (trimmed line) = session.lookupOf line := rfl
  have same : session.ingest (trimmed line) = session.ingest line := by
    simp only [ingest, wordsIn, trimmed, wordsOf_trimBlankEnd]
  simp only [handle, ofLine_of_not_isCommand text, request, success, same]

theorem handle_of_error (text : ¬ IsCommand line) {error : CacheError}
    (failed : (session.words.select (session.lookupOf line)).1 = .error error) :
    session.handle line = (.error error, session) := by
  have request : session.request (trimmed line) = session.lookupOf line := rfl
  simp only [handle, ofLine_of_not_isCommand text, request, failed]

/-- Nothing but the words of a session changes. -/
theorem call_snd (session : Session) (call : Call) :
    (session.call call).2 = { session with words := (session.call call).2.words } := by
  cases call with
  | ingest text => rfl
  | line text =>
    simp only [Session.call, handle]
    split
    · rfl
    · rfl
    · split <;> rfl

/-- A line is answered by the rows of its lookup, or it fails like it. -/
theorem call_fst_of_not_isCommand (text : ¬ IsCommand line) : (session.call (.line line)).1 =
    (session.words.select (session.lookupOf line)).1.map fun rows => .printed (rows.map Match.toJsonText) := by
  cases answer : (session.words.select (session.lookupOf line)).1 with
  | ok rows => simp [Session.call, handle_of_ok text answer, Except.map]
  | error error => simp [Session.call, handle_of_error text answer, Except.map]

theorem call_of_error {call : Call} {error : CacheError} (failed : (session.call call).1 = .error error) :
    (session.call call).2 = session := by
  cases call with
  | ingest text => simp [Session.call] at failed
  | line line =>
    by_cases command : IsCommand line
    · obtain clear | count := command
      · simp [Session.call, handle_clear clear, Except.map] at failed
      · simp [Session.call, handle_count count]
    · cases answer : (session.words.select (session.lookupOf line)).1 with
      | ok rows => simp [Session.call, handle_of_ok command answer, Except.map] at failed
      | error error => simp [Session.call, handle_of_error command answer]

/-- A call adds what it gives and, if it is a line that clears, takes everything else away. -/
theorem mem_words_call (session : Session) (call : Call) (word : String) :
    word ∈ (session.call call).2.words ↔
      word ∈ (Exchange.mk call (session.call call).1).offers session.config.minWordLen.toNat ∨
        (word ∈ session.words ∧ call.clears = false) := by
  cases call with
  | ingest text =>
    simp only [Session.call, ingest, Exchange.offers, wordsIn, WordSet.mem_insertAll, Call.clears, and_true]
    exact or_comm
  | line text =>
    by_cases command : IsCommand text
    · obtain clear | count := command
      · simp [Session.call, handle_clear clear, Exchange.offers, Call.clears, IsCommand, clear, Except.map]
      · simp [Session.call, handle_count count, Exchange.offers, Call.clears, IsCommand, count, Except.map]
    · have keeps : (Call.line text).clears = false := decide_eq_false (not_or.mp command).1
      cases answer : (session.words.select (session.lookupOf text)).1 with
      | ok rows =>
        simp only [Session.call, handle_of_ok command answer, Except.map, Exchange.offers, if_neg command, ingest,
          wordsIn, WordSet.mem_insertAll, keeps, and_true]
        exact or_comm
      | error error =>
        simp [Session.call, handle_of_error command answer, Except.map, Exchange.offers, keeps]

/-! ## Runs -/

theorem length_run (session : Session) (calls : List Call) : (session.run calls).1.length = calls.length := by
  induction calls generalizing session with
  | nil => rfl
  | cons call rest ih => exact congrArg Nat.succ (ih _)

theorem run_append (session : Session) (front back : List Call) :
    session.run (front ++ back) = ((session.run front).1 ++ ((session.run front).2.run back).1,
      ((session.run front).2.run back).2) := by
  induction front generalizing session with
  | nil => rfl
  | cons call rest ih => simp only [List.cons_append, run, ih]

theorem run_append_singleton (session : Session) (calls : List Call) (call : Call) :
    session.run (calls ++ [call]) =
      ((session.run calls).1 ++ [(((session.run calls).2.call call).1,
        ((session.run calls).2.call call).2.words.size)], ((session.run calls).2.call call).2) :=
  run_append session calls [call]

theorem exchanges_append_singleton (session : Session) (calls : List Call) (call : Call) :
    session.exchanges (calls ++ [call]) =
      session.exchanges calls ++ [⟨call, ((session.run calls).2.call call).1⟩] := by
  have aligned := length_run session calls
  simp [exchanges, run_append_singleton, List.zip_append aligned.symm]

theorem run_snd (session : Session) (calls : List Call) :
    (session.run calls).2 = { session with words := (session.run calls).2.words } := by
  induction calls using List.reverseRecOn with
  | nil => rfl
  | append_singleton calls call ih =>
    rw [run_append_singleton, call_snd, ih]

/-- The words of texts are stored by ingesting one after the other. -/
theorem run_map_ingest (session : Session) (texts : List String) :
    (session.run (texts.map .ingest)).2 = texts.foldl ingest session := by
  induction texts generalizing session with
  | nil => rfl
  | cons text rest ih => exact ih (session.ingest text)

/-- A session that ingests texts holds their words and those that it had. -/
theorem mem_words_foldl_ingest (session : Session) (texts : List String) (word : String) :
    word ∈ (texts.foldl ingest session).words ↔
      word ∈ session.words ∨ ∃ text ∈ texts, word ∈ wordsOf text session.config.minWordLen.toNat := by
  induction texts generalizing session with
  | nil => simp
  | cons text rest ih =>
    simp only [List.foldl_cons, ih, ingest, wordsIn, WordSet.mem_insertAll, ← WordSet.mem_iff, List.mem_cons,
      exists_eq_or_imp, or_assoc]

/-- What a session stores after a run are the words that it was given and did not clear. -/
theorem mem_words_run (config : CacheConfig) (limitless : Bool) (calls : List Call) (word : String) :
    word ∈ ((start config limitless).run calls).2.words ↔
      word ∈ storedWords config.minWordLen.toNat ((start config limitless).exchanges calls) := by
  induction calls using List.reverseRecOn with
  | nil =>
    refine iff_of_false (WordSet.not_mem_empty word) ?_
    rintro ⟨front, exchange, back, same, _⟩
    exact absurd same.symm (by simp [exchanges])
  | append_singleton calls call ih =>
    have settings : ((start config limitless).run calls).2.config = config := by rw [run_snd]; rfl
    rw [run_append_singleton, mem_words_call, ih, settings, exchanges_append_singleton,
      mem_storedWords_append_singleton]

/-- Some calls lead to the session from one without words. -/
def Reached (config : CacheConfig) (limitless : Bool) (session : Session) : Prop :=
  ∃ calls, session = ((start config limitless).run calls).2

theorem Reached.lookupOf_eq {config : CacheConfig} {limitless : Bool} (reached : Reached config limitless session)
    (line : String) : session.lookupOf line =
      { options := config.matchOptions, query := { Query.atCursor (trimmed line) with limitless } } := by
  obtain ⟨calls, rfl⟩ := reached
  rw [run_snd]
  rfl

theorem Reached.exists_mem_wordsOf {config : CacheConfig} {limitless : Bool}
    (reached : Reached config limitless session) {word : String} (member : word ∈ session.words) :
    ∃ text, word ∈ wordsOf text config.minWordLen.toNat := by
  obtain ⟨calls, rfl⟩ := reached
  obtain ⟨_, _, _, _, offered, _⟩ := (mem_words_run config limitless calls word).mp member
  exact mem_wordsOf_of_mem_offers offered

theorem Reached.isWordChar {config : CacheConfig} {limitless : Bool} (reached : Reached config limitless session)
    {word : String} (member : word ∈ session.words) : ∀ char ∈ word.toList, isWordChar char = true := by
  obtain ⟨_, source⟩ := reached.exists_mem_wordsOf member
  exact isWordChar_of_mem_wordsOf source

/-- After any calls the words of a session are those of the texts ingested and the lines answered since it
was last cleared, and they are words of the length asked for. The next line is answered from these words: a
line that is no command by the rows of its lookup, one that counts by their number. A line that fails adds
nothing, nor does one that counts. -/
theorem run_set_machine (config : CacheConfig) (limitless : Bool) (calls : List Call) :
    let session := ((start config limitless).run calls).2
    let stored := storedWords config.minWordLen.toNat ((start config limitless).exchanges calls)
    (∀ word, word ∈ session.words ↔ word ∈ stored) ∧
      (∀ word ∈ session.words, word ≠ "" ∧ (∀ char ∈ word.toList, isWordChar char = true) ∧
        max config.minWordLen.toNat 1 ≤ word.toList.length) ∧
      ∀ call, ∃ reply next, session.call call = (reply, next) ∧
        (start config limitless).run (calls ++ [call]) =
          (((start config limitless).run calls).1 ++ [(reply, next.words.size)], next) ∧
        (∀ line, call = .line line → ¬ IsCommand line → reply = (session.words.select
          { options := config.matchOptions
            query := { Query.atCursor (trimmed line) with limitless } }).1.map
              fun rows => .printed (rows.map Match.toJsonText)) ∧
        (∀ line, call = .line line → trimmed line = ":count" →
          reply = .ok (.printed [toString stored.ncard]) ∧ next.words = session.words) ∧
        ∀ error, reply = .error error → next.words = session.words := by
  intro session stored
  have contents : ∀ word, word ∈ session.words ↔ word ∈ stored := mem_words_run config limitless calls
  have reached : Reached config limitless session := ⟨calls, rfl⟩
  refine ⟨contents, ?_, fun call => ⟨_, _, rfl, run_append_singleton _ calls call, ?_, ?_, ?_⟩⟩
  · intro word member
    obtain ⟨text, source⟩ := reached.exists_mem_wordsOf member
    have long := le_length_of_mem_wordsOf source
    refine ⟨?_, isWordChar_of_mem_wordsOf source, long⟩
    rintro rfl
    simp at long
  · rintro line rfl text
    exact reached.lookupOf_eq line ▸ call_fst_of_not_isCommand text
  · rintro line rfl count
    have size : session.words.size = stored.ncard := WordSet.size_eq_ncard contents
    have counted : session.handle line = _ := handle_count count
    have answered : session.call (.line line) = (.ok (.printed [toString session.words.size]), session) := by
      rw [Session.call, counted]
      rfl
    exact ⟨(congrArg Prod.fst answered).trans (by rw [size]), congrArg (fun outcome => outcome.2.words) answered⟩
  · intro error failed
    exact congrArg words (call_of_error failed)

end WordCompletion.Session

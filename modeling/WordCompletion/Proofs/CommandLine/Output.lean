import Mathlib.Data.String.Basic
import WordCompletion.CommandLine.Invocation
import WordCompletion.FileTree
import WordCompletion.Proofs.Session.Errors
import WordCompletion.Proofs.Settings.Fields

/-! # What a run prints

A run that is asked to answer its input prints what its session prints, line by line, and what it has
printed stays printed whatever comes later. It prints nothing at all if it does not get as far as the first
line. All of this is said of runs none of whose corpora is the standard input: such a corpus is read like any
other, but then there is no line left.
-/

namespace WordCompletion

/-- The texts of lines, up to the first line that is no text. -/
def Bytes.leadingTexts (lines : List Bytes) : List String :=
  (lines.takeWhile fun line => line.text?.isSome).filterMap Bytes.text?

theorem printedText_append (front back : List String) :
    printedText (front ++ back) = printedText front ++ printedText back := by
  simp [printedText, String.join_eq]

/-! ## What a session prints for lines of bytes -/

namespace Session

variable {session : Session}

theorem feed_cons_of_text {line : Bytes} {text : String} {printed : List String} (decoded : line.text? = some text)
    (answered : (session.handle text).1 = .ok printed) (rest : List Bytes) : session.feed (line :: rest) =
      (printed ++ ((session.handle text).2.feed rest).1, ((session.handle text).2.feed rest).2) := by
  have answer : session.answer? line = some (printed, (session.handle text).2) := by
    have handled : session.handle text = (.ok printed, (session.handle text).2) := Prod.ext answered rfl
    rw [answer?, decoded, Option.bind_eq_bind, Option.bind_some, handled]
    rfl
  simp only [feed, answer]

/-- Lines are answered one after the other up to the first that is no text, which ends the session. -/
theorem exists_feed_eq (accepted : session.config.matchOptions.validate = .ok ()) (lines : List Bytes) :
    ∃ outputs : List (List String),
      (session.run ((Bytes.leadingTexts lines).map .line)).1.map Prod.fst =
        outputs.map (fun printed => .ok (.printed printed)) ∧
      (session.feed lines).1 = outputs.flatten ∧
      ((session.feed lines).2.isSome = true ↔ ∀ line ∈ lines, line.text?.isSome = true) := by
  induction lines generalizing session with
  | nil => exact ⟨[], rfl, rfl, by simp⟩
  | cons line rest ih =>
    cases decoded : line.text? with
    | none =>
      have answer : session.answer? line = none := by rw [answer?, decoded]; rfl
      refine ⟨[], by simp [Bytes.leadingTexts, decoded, run], by simp [feed, answer], ?_⟩
      simp [feed, answer, decoded]
    | some text =>
      obtain ⟨printed, answered⟩ := exists_handle_eq_ok accepted text
      have kept : (session.handle text).2.config.matchOptions.validate = .ok () := by
        have config : (session.call (.line text)).2.config = session.config := by rw [call_snd]
        exact (congrArg (fun config => config.matchOptions.validate) config).trans accepted
      obtain ⟨outputs, replies, later, whole⟩ := ih kept
      have texts : Bytes.leadingTexts (line :: rest) = text :: Bytes.leadingTexts rest := by
        simp [Bytes.leadingTexts, decoded]
      rw [feed_cons_of_text decoded answered]
      refine ⟨printed :: outputs, ?_, ?_, ?_⟩
      · simp [texts, run, call, answered, Except.map, replies]
      · simp [later]
      · simp [whole, decoded]

/-- What is printed for some lines comes first in what is printed for them and more. -/
theorem exists_feed_append (session : Session) (front back : List Bytes) :
    ∃ later, (session.feed (front ++ back)).1 = (session.feed front).1 ++ later := by
  rw [feed_append]
  obtain ⟨printed, last⟩ := session.feed front
  cases last with
  | none => exact ⟨[], (List.append_nil printed).symm⟩
  | some after => exact ⟨_, rfl⟩

end Session

/-! ## What is read of a corpus -/

/-- Reading anything but the standard input leaves the input as it is. -/
theorem Files.read?_of_ne_input {files : Files} {path : String} (apart : files.entry path ≠ .input) (left : Bytes) :
    files.read? path left = (files.contents? path).map fun contents => (contents, left) := by
  unfold read?
  split
  · contradiction
  · rfl

namespace Invocation

variable {invocation : Invocation} {arguments : Arguments} {config : CacheConfig}

/-- The text of a corpus. -/
def textAt? (invocation : Invocation) (corpus : String) : Option String :=
  (invocation.files.contents? corpus).bind Bytes.text?

/-- All of these corpora are text. -/
def Readable (invocation : Invocation) (corpora : List String) : Prop :=
  ∀ corpus ∈ corpora, (invocation.textAt? corpus).isSome = true

instance (invocation : Invocation) (corpora : List String) : Decidable (invocation.Readable corpora) :=
  inferInstanceAs (Decidable (∀ corpus ∈ corpora, _))

/-- None of these corpora is the standard input. -/
def Apart (invocation : Invocation) (corpora : List String) : Prop :=
  ∀ corpus ∈ corpora, invocation.files.entry corpus ≠ .input

instance (invocation : Invocation) (corpora : List String) : Decidable (invocation.Apart corpora) :=
  inferInstanceAs (Decidable (∀ corpus ∈ corpora, _))

theorem seed?_cons {corpus : String} (first : invocation.files.entry corpus ≠ .input) (session : Session)
    (input : Bytes) (rest : List String) :
    seed? invocation.files session input (corpus :: rest) =
      (invocation.textAt? corpus).bind fun text => seed? invocation.files (session.ingest text) input rest := by
  simp only [seed?, List.foldlM_cons, Files.read?_of_ne_input first, textAt?]
  cases invocation.files.contents? corpus with
  | none => rfl
  | some contents => cases decoded : contents.text? <;> simp [Session.ingestBytes?, decoded]

/-- Corpora are stored if all of them are text, and the input is left as it is. -/
theorem seed?_eq {corpora : List String} (apart : invocation.Apart corpora) (session : Session) (input : Bytes) :
    seed? invocation.files session input corpora =
      if invocation.Readable corpora then
        some ((session.run ((corpora.filterMap invocation.textAt?).map .ingest)).2, input)
      else none := by
  rw [Session.run_map_ingest]
  induction corpora generalizing session with
  | nil => rfl
  | cons corpus rest ih =>
    obtain ⟨first, others⟩ := List.forall_mem_cons.mp apart
    rw [seed?_cons first]
    cases found : invocation.textAt? corpus with
    | none => simp [Readable, found]
    | some text =>
      have both : invocation.Readable (corpus :: rest) ↔ invocation.Readable rest := by simp [Readable, found]
      rw [Option.bind_some, ih others, List.filterMap_cons_some found, List.foldl_cons]
      exact (if_congr both rfl rfl).symm

/-! ## How a run starts -/

/-- The session that has stored the corpora. -/
def seeded (invocation : Invocation) (arguments : Arguments) (config : CacheConfig) : Session :=
  ((Session.start config arguments.limitless).run
    ((arguments.corpora.filterMap invocation.textAt?).map .ingest)).2

theorem config_seeded : (invocation.seeded arguments config).config = config := by
  rw [seeded, Session.run_snd]
  rfl

theorem limitless_seeded : (invocation.seeded arguments config).limitless = arguments.limitless := by
  rw [seeded, Session.run_snd]
  rfl

section Asked

variable (asked : Command.ofArguments invocation.arguments = .run arguments)
include asked

theorem prepare_eq_ok (ready : invocation.startup = .ready)
    (loaded : CacheConfig.load invocation.environment invocation.files = .ok config) :
    invocation.prepare = .ok (Session.start config arguments.limitless, arguments.corpora) := by
  simp only [prepare, ready, asked, loaded]

/-- A run that does not come to its corpora fails without a word. -/
theorem prepare_eq_error (cause : invocation.startup ≠ .ready ∨
    ∃ error, CacheConfig.load invocation.environment invocation.files = .error error) :
    ∃ exit, exit ≠ .success ∧ invocation.prepare = .error ⟨exit, ""⟩ := by
  cases startup : invocation.startup with
  | panics => exact ⟨.panicked, by decide, by simp only [prepare, startup]⟩
  | aborts => exact ⟨.aborted, by decide, by simp only [prepare, startup]⟩
  | ready =>
    obtain ⟨error, failed⟩ := cause.resolve_left (not_not_intro startup)
    cases error with
    | splitCharacter => exact ⟨.panicked, by decide, by simp only [prepare, startup, asked, failed]⟩
    | _ => exact ⟨.failure, by decide, by simp only [prepare, startup, asked, failed]⟩

variable (apart : invocation.Apart arguments.corpora)
include apart

/-- A run that is asked to answer its input does so in a session that has stored the corpora. -/
theorem start_eq_ok (ready : invocation.startup = .ready)
    (loaded : CacheConfig.load invocation.environment invocation.files = .ok config)
    (readable : invocation.Readable arguments.corpora) (input : Bytes) :
    invocation.start input = .ok (invocation.seeded arguments config, input) := by
  have stored := seed?_eq apart (Session.start config arguments.limitless) input
  rw [if_pos readable] at stored
  simp only [start, prepare_eq_ok asked ready loaded, bind, Except.bind, stored, seeded]

theorem start_of_unreadable (ready : invocation.startup = .ready)
    (loaded : CacheConfig.load invocation.environment invocation.files = .ok config)
    (unreadable : ¬ invocation.Readable arguments.corpora) (input : Bytes) :
    invocation.start input = .error ⟨.failure, ""⟩ := by
  have stored := seed?_eq apart (Session.start config arguments.limitless) input
  rw [if_neg unreadable] at stored
  simp only [start, prepare_eq_ok asked ready loaded, bind, Except.bind, stored]

/-- A run fails without a word, whatever its input is, if its runtime does not start, its configuration is not
loaded or a corpus is no text. -/
theorem start_eq_error (cause : invocation.startup ≠ .ready ∨
      (∃ error, CacheConfig.load invocation.environment invocation.files = .error error) ∨
      ¬ invocation.Readable arguments.corpora) :
    ∃ exit, exit ≠ .success ∧ ∀ input, invocation.start input = .error ⟨exit, ""⟩ := by
  by_cases early : invocation.startup ≠ .ready ∨
      ∃ error, CacheConfig.load invocation.environment invocation.files = .error error
  · obtain ⟨exit, failed, prepared⟩ := prepare_eq_error asked early
    exact ⟨exit, failed, fun input => by rw [start, prepared]; rfl⟩
  · obtain ⟨ready, loads⟩ := not_or.mp early
    have unreadable : ¬ invocation.Readable arguments.corpora := by tauto
    cases loaded : CacheConfig.load invocation.environment invocation.files with
    | error error => exact absurd ⟨error, loaded⟩ loads
    | ok config =>
      exact ⟨.failure, by decide, start_of_unreadable asked apart (not_not.mp ready) loaded unreadable⟩

end Asked

/-! ## What a run prints -/

theorem run_of_start_eq_error {input : Bytes} {outcome : Outcome} (failed : invocation.start input = .error outcome) :
    invocation.run input = outcome := by
  rw [run, failed]

theorem run_of_start_eq_ok {input left : Bytes} {session : Session}
    (started : invocation.start input = .ok (session, left)) :
    invocation.run input = ⟨if (session.feed left.lines).2.isSome then .success else .failure,
      printedText (session.feed left.lines).1⟩ := by
  rw [run, started]

/-- What is printed for the lines of an input comes first in what is printed for every longer input. -/
theorem exists_output_run_eq_append (asked : Command.ofArguments invocation.arguments = .run arguments)
    (apart : invocation.Apart arguments.corpora) (front back : Bytes) :
    ∃ more, (invocation.run (front ++ Bytes.lineFeed :: back)).output =
      (invocation.run (front ++ [Bytes.lineFeed])).output ++ more := by
  by_cases cause : invocation.startup ≠ .ready ∨
      (∃ error, CacheConfig.load invocation.environment invocation.files = .error error) ∨
      ¬ invocation.Readable arguments.corpora
  · obtain ⟨exit, _, started⟩ := start_eq_error asked apart cause
    refine ⟨"", ?_⟩
    rw [run_of_start_eq_error (started _), run_of_start_eq_error (started _), String.append_empty]
  · simp only [not_or, not_not, not_exists] at cause
    obtain ⟨ready, loads, readable⟩ := cause
    cases loaded : CacheConfig.load invocation.environment invocation.files with
    | error error => exact absurd loaded (loads error)
    | ok config =>
      have started := start_eq_ok asked apart ready loaded readable
      rw [run_of_start_eq_ok (started _), run_of_start_eq_ok (started _), Bytes.lines_append_feed_append]
      obtain ⟨later, printed⟩ :=
        (invocation.seeded arguments config).exists_feed_append (front ++ [Bytes.lineFeed]).lines back.lines
      exact ⟨printedText later, (congrArg printedText printed).trans (printedText_append ..)⟩

/-- A run that is asked to answer its input, and none of whose corpora is the input, prints what a session prints
that has stored the corpora, for the lines of the input up to the first that is no text, and it succeeds if there is
no such line. What is printed for an input that ends a line comes first in what is printed for every longer input. A
run whose configuration is not loaded, or of which a corpus is no text, prints nothing and fails whatever its input
is, and so does a run whose runtime does not start. -/
theorem run_prints (asked : Command.ofArguments invocation.arguments = .run arguments)
    (apart : invocation.Apart arguments.corpora) :
    (∀ config input, invocation.startup = .ready →
      CacheConfig.load invocation.environment invocation.files = .ok config →
      invocation.Readable arguments.corpora →
        let seeded := invocation.seeded arguments config
        ∃ outputs : List (List String),
          (seeded.run ((Bytes.leadingTexts input.lines).map .line)).1.map Prod.fst =
            outputs.map (fun printed => .ok (.printed printed)) ∧
          (invocation.run input).output = printedText outputs.flatten ∧
          ((invocation.run input).exit = .success ↔ ∀ line ∈ input.lines, line.text?.isSome = true)) ∧
    (∀ front back, ∃ more, (invocation.run (front ++ Bytes.lineFeed :: back)).output =
      (invocation.run (front ++ [Bytes.lineFeed])).output ++ more) ∧
    (invocation.startup ≠ .ready ∨
        (∃ error, CacheConfig.load invocation.environment invocation.files = .error error) ∨
        ¬ invocation.Readable arguments.corpora →
      ∀ input, (invocation.run input).output = "" ∧ (invocation.run input).exit ≠ .success) := by
  refine ⟨?_, exists_output_run_eq_append asked apart, ?_⟩
  · intro config input ready loaded readable seeded
    have valid := ((CacheConfig.validate_eq_ok_iff config).mp (CacheConfig.validate_of_load loaded)).1
    have accepted : seeded.config.matchOptions.validate = .ok () := config_seeded.symm ▸ valid
    obtain ⟨outputs, replies, printed, whole⟩ := Session.exists_feed_eq accepted input.lines
    rw [run_of_start_eq_ok (start_eq_ok asked apart ready loaded readable input), ← whole]
    refine ⟨outputs, replies, congrArg printedText printed, ?_⟩
    cases (seeded.feed input.lines).2 <;> simp
  · intro cause input
    obtain ⟨exit, failed, started⟩ := start_eq_error asked apart cause
    rw [run_of_start_eq_error (started input)]
    exact ⟨rfl, failed⟩

/-- After a corpus with one word the word is counted, and the run ends at a byte that no text has. Without the
file of the corpus there is nothing to see. -/
theorem run_prints_count :
    let arguments : Arguments := { corpora := ["c.txt"] }
    let input := Bytes.ofText ":count\n" ++ [0xFF]
    let files := (FileTree.ofTexts ["work"] [("c.txt", "foo")]).files
    let invocation : Invocation := { arguments := ["--corpus", "c.txt"], environment := [], files }
    (∃ outputs : List (List String),
      ((invocation.seeded arguments {}).run [.line ":count"]).1.map Prod.fst =
        outputs.map (fun printed => .ok (.printed printed)) ∧
      (invocation.run input).output = printedText outputs.flatten ∧ (invocation.run input).exit ≠ .success) ∧
    let without : Invocation := { invocation with files := (FileTree.ofTexts ["work"] []).files }
    (without.run input).output = "" ∧ (without.run input).exit ≠ .success := by
  intro arguments input files invocation
  constructor
  · obtain ⟨prints, _⟩ := @run_prints invocation arguments (by rfl) (by decide +kernel)
    obtain ⟨outputs, replies, output, exit⟩ :=
      prints {} input (by rfl) (CacheConfig.load_nil _) (by decide +kernel)
    exact ⟨outputs, replies, output, fun success => absurd (exit.mp success) (by decide +kernel)⟩
  · intro without
    obtain ⟨_, _, fails⟩ := @run_prints without arguments (by rfl) (by decide +kernel)
    exact fails (.inr (.inr (by decide +kernel))) input

/-- The standard input can be read as a corpus, and its line is not answered then, though the session that has
stored it would count the word. A run that asks for no threads does not even begin. -/
theorem output_inputCorpus :
    let arguments : Arguments := { corpora := ["/dev/stdin"] }
    let input := Bytes.ofText ":count\n"
    let files := FileTree.files ⟨["work"], [(["dev", "stdin"], .file .input)]⟩
    let invocation : Invocation := { arguments := ["--corpus", "/dev/stdin"], environment := [], files }
    let unthreaded : Invocation := { arguments := [], environment := [("TOKIO_WORKER_THREADS", "0")], files }
    Command.ofArguments invocation.arguments = .run arguments ∧
    CacheConfig.load invocation.environment invocation.files = .ok {} ∧
    files.read? "/dev/stdin" input = some (input, []) ∧ input.text? = some ":count\n" ∧
    (((Session.start {} false).ingest ":count\n").feed input.lines).1 = ["1"] ∧
    invocation.run input = ⟨.success, ""⟩ ∧
    Command.ofArguments unthreaded.arguments = .run {} ∧
    (CacheConfig.load unthreaded.environment unthreaded.files).toOption = some {} ∧
    unthreaded.run [] = ⟨.panicked, ""⟩ :=
  ⟨rfl, CacheConfig.load_nil _, by decide +kernel, by decide +kernel, by decide +kernel, by decide +kernel, rfl,
    by decide +kernel, by decide +kernel⟩

end Invocation

end WordCompletion

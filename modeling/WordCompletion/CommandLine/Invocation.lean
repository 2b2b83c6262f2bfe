import WordCompletion.CommandLine.Arguments
import WordCompletion.CommandLine.Help
import WordCompletion.Session
import WordCompletion.Settings.Load

/-! # Runs of the program

A run starts its runtime, loads the configuration, stores the words of the corpora and then answers its
input line by line. A configuration that does not load and a corpus that is no text end it before anything
is printed, and so does a line that is no text, after what the lines before it have printed. One variable
gives the number of threads and is read before the arguments; whether the runtime starts with so many is up
to the machine. A corpus that is the standard input as a stream leaves no line of it to answer. Main
statements: the output is a fold over the lines of the input.
-/

namespace WordCompletion

/-- How a run ends. -/
inductive Exit where
  | success
  | failure
  | misuse
  /-- A panic: a variable cannot be read, or the runtime does not start. -/
  | panicked
  /-- The process is stopped in the middle of a call. -/
  | aborted
deriving DecidableEq, Repr

/-- The number that a run ends with; a stopped one has that of the signal in a shell. -/
def Exit.code : Exit → UInt8
  | .success => 0
  | .failure => 1
  | .misuse => 2
  | .panicked => 101
  | .aborted => 134

/-- What becomes of a runtime that is to be started. -/
inductive Startup where
  | ready
  | panics
  | aborts
deriving DecidableEq, Repr

/-- What can be seen of a run. -/
structure Outcome where
  exit : Exit
  output : String
deriving DecidableEq, Repr

namespace Session

/-- Answer a line of input, if it is text: the lines to print, and the session after it. -/
def answer? (session : Session) (line : Bytes) : Option (List String × Session) := do
  match session.handle (← line.text?) with
  | (.ok printed, after) => return (printed, after)
  | (.error _, _) => none

/-- Answer lines of input up to the first that fails: the lines to print, and the session after all
lines, if none fails. -/
def feed (session : Session) : List Bytes → List String × Option Session
  | [] => ([], some session)
  | line :: rest =>
    match session.answer? line with
    | none => ([], none)
    | some (printed, after) =>
      let (later, last) := after.feed rest
      (printed ++ later, last)

@[simp] theorem feed_nil (session : Session) : session.feed [] = ([], some session) := rfl

theorem feed_append (session : Session) (front back : List Bytes) :
    session.feed (front ++ back) =
      match session.feed front with
      | (printed, none) => (printed, none)
      | (printed, some after) => (printed ++ (after.feed back).1, (after.feed back).2) := by
  induction front generalizing session with
  | nil => simp
  | cons line rest ih =>
    simp only [List.cons_append, feed]
    cases session.answer? line with
    | none => rfl
    | some answer =>
      simp only [ih]
      obtain ⟨printed, last⟩ := answer.2.feed rest
      cases last <;> simp

end Session

/-- Lines as they are printed, each with a line feed after it. -/
def printedText (lines : List String) : String :=
  String.join (lines.map (· ++ "\n"))

/-- What a run starts from, its input apart. -/
structure Invocation where
  arguments : List String
  /-- The variables and their values, as the environment holds them. -/
  environment : List (String × String)
  files : Files
  /-- What becomes of a runtime on this machine, by the positive number of threads that it is asked for, if any. -/
  runtime : Option UInt64 → Startup := fun _ => .ready

namespace Session

/-- Store the words of a corpus, if it is text. -/
def ingestBytes? (session : Session) (contents : Bytes) : Option Session := contents.text?.map session.ingest

end Session

namespace Invocation

/-- Store the words of corpora in a session, if all of them are text: the session, and what they leave of the
input. -/
def seed? (files : Files) (session : Session) (input : Bytes) (corpora : List String) : Option (Session × Bytes) :=
  corpora.foldlM (fun (session, left) corpus => do
    let (contents, left) ← files.read? corpus left
    return (← session.ingestBytes? contents, left)) (session, input)

/-- Start the runtime. A number of threads has to be a positive number. -/
def startup (invocation : Invocation) : Startup :=
  match invocation.environment.lookup "TOKIO_WORKER_THREADS" with
  | none => invocation.runtime none
  | some text =>
    match Literal.unsigned? text.toList with
    | none => .panics
    | some number => if number = 0 then .panics else invocation.runtime (some number)

/-- The session that is to store the corpora, and their names, or the outcome of a run that reads none. -/
def prepare (invocation : Invocation) : Except Outcome (Session × List String) :=
  match invocation.startup with
  | .panics => .error ⟨.panicked, ""⟩
  | .aborts => .error ⟨.aborted, ""⟩
  | .ready =>
    match Command.ofArguments invocation.arguments with
    | .misuse => .error ⟨.misuse, ""⟩
    | .help => .error ⟨.success, helpText (.ofEnvironment invocation.environment)⟩
    | .version => .error ⟨.success, versionText⟩
    | .run arguments =>
      match CacheConfig.load invocation.environment invocation.files with
      | .error .splitCharacter => .error ⟨.panicked, ""⟩
      | .error _ => .error ⟨.failure, ""⟩
      | .ok config => .ok (Session.start config arguments.limitless, arguments.corpora)

/-- The session that answers the lines of the input, and what is left of the input, or the outcome of a run that
answers none. -/
def start (invocation : Invocation) (input : Bytes) : Except Outcome (Session × Bytes) := do
  let (session, corpora) ← invocation.prepare
  match seed? invocation.files session input corpora with
  | none => .error ⟨.failure, ""⟩
  | some seeded => .ok seeded

/-- The outcome of a run with its input. -/
def run (invocation : Invocation) (input : Bytes) : Outcome :=
  match invocation.start input with
  | .error outcome => outcome
  | .ok (session, left) =>
    let (printed, last) := session.feed left.lines
    ⟨if last.isSome then .success else .failure, printedText printed⟩

end Invocation

end WordCompletion

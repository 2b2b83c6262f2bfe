import WordCompletion.CommandLine.Invocation

/-! # The program

Reads the arguments, the environment and the files, then answers standard input line by line.
-/

namespace WordCompletion

/-- The names and values in a block of variables, each ended by a zero byte; those that are no text are
left out. -/
def variablesOf (block : Bytes) : List (String × String) :=
  let entries : List Bytes := block.foldr (fun byte entries =>
    match entries with
    | entry :: rest => if byte = 0 then [] :: entry :: rest else (byte :: entry) :: rest
    | [] => if byte = 0 then [[]] else [[byte]]) []
  entries.filterMap fun entry => do
    let (name, value) := (← entry.text?).toList.span (· != '=')
    return (String.ofList name, String.ofList (value.drop 1))

/-- The variables of the environment of this process. -/
def readEnvironment : IO (List (String × String)) := do
  try
    let block ← IO.FS.readBinFile "/proc/self/environ"
    return variablesOf block.data.toList
  catch _ => return []

/-- What stands under a path, as far as a settings file matters: a regular file. -/
def readEntry (path : String) : IO Entry := do
  try
    let place ← IO.FS.realPath path
    unless (← place.metadata).type == .file do return .absent
  catch _ => return .absent
  try
    let contents ← IO.FS.readBinFile path
    return .regular (.contents contents.data.toList)
  catch failure => return .regular (.failed (toString failure))

/-- The files that can be the settings file. -/
def readFiles (environment : List (String × String)) : IO Files := do
  let directory ← try
      let names := pathNames (← IO.currentDir).toString
      pure (some names)
    catch _ => pure none
  let paths := (environment.lookup Environment.fileVariable).elim [] (Files.searchPaths ⟨directory, fun _ => .absent⟩)
  let entries ← paths.mapM fun path => return (path, ← readEntry path)
  return ⟨directory, fun path => (entries.lookup path).getD .absent⟩

/-- The bytes of the next line with its line feed; none at the end of the input. -/
def readLine (input : IO.FS.Stream) : IO Bytes := do
  let mut line := ByteArray.empty
  repeat
    let next ← input.read 1
    line := line ++ next
    if next.isEmpty || next.data.contains Bytes.lineFeed then break
  return line.data.toList

/-- Store the words of corpora, if all of them can be read as text. -/
def ingestFiles (session : Session) : List String → IO (Option Session)
  | [] => return some session
  | corpus :: rest => do
    let contents ← try
        let contents ← IO.FS.readBinFile corpus
        pure (some contents.data.toList)
      catch _ => pure none
    match contents.bind session.ingestBytes? with
    | none => return none
    | some seeded => ingestFiles seeded rest

/-- Answer standard input line by line. -/
def serve (session : Session) : IO Exit := do
  let input ← IO.getStdin
  let output ← IO.getStdout
  let mut current := session
  repeat
    let line ← readLine input
    if line.isEmpty then return .success
    let (printed, next) := current.feed line.lines
    output.putStr (printedText printed)
    output.flush
    match next with
    | some after => current := after
    | none => return .failure
  return .success

end WordCompletion

open WordCompletion

def main (arguments : List String) : IO UInt32 := do
  let environment ← readEnvironment
  let invocation : Invocation := { arguments, environment, files := ← readFiles environment }
  let exit ← match invocation.prepare with
    | .error outcome => do
      (← IO.getStdout).putStr outcome.output
      pure outcome.exit
    | .ok (session, corpora) => do
      match ← ingestFiles session corpora with
      | none => pure .failure
      | some seeded => serve seeded
  return exit.code.toUInt32

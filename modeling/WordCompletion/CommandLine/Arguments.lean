/-! # Command-line arguments

Arguments are read from left to right. Asking for the help or the version ends the reading, and so does
the first argument that is wrong: an unknown flag, a flag that is given twice or with a value that it
does not take, a missing value, or anything that is no flag.
-/

namespace WordCompletion

/-- What the arguments of a run say. -/
structure Arguments where
  /-- Files whose words are stored before the input is read. -/
  corpora : List String := []
  /-- Answer with every match. -/
  limitless : Bool := false
  /-- Write log records as objects. -/
  jsonLogs : Bool := false
deriving DecidableEq, Repr

/-- What the program is asked to do. -/
inductive Command where
  | run (arguments : Arguments)
  | help
  | version
  /-- The arguments are wrong. -/
  | misuse
deriving DecidableEq, Repr

namespace Command

/-- The text can be the value of a flag; of those with a hyphen in front only the hyphen alone can. -/
def isValue (text : String) : Bool :=
  text == "-" || !(text.isEmpty || text.toList.head? == some '-')

/-- What follows a text in front. -/
def after? (front text : String) : Option String :=
  if front.toList.isPrefixOf text.toList then some (String.ofList (text.toList.drop front.length))
  else none

/-- Read the arguments that follow those read so far. -/
def next (read : Arguments) : List String → Command
  | [] => .run read
  | "--corpus" :: [] => .misuse
  | "--corpus" :: file :: rest =>
    if isValue file then next { read with corpora := read.corpora ++ [file] } rest else .misuse
  | "--limitless" :: rest =>
    if read.limitless then .misuse else next { read with limitless := true } rest
  | "--json-logs" :: rest =>
    if read.jsonLogs then .misuse else next { read with jsonLogs := true } rest
  | "--help" :: _ => .help
  | "--version" :: _ => .version
  | "--" :: rest => if rest.isEmpty then .run read else .misuse
  | argument :: rest =>
    match after? "--corpus=" argument with
    | some file =>
      if file.isEmpty then .misuse else next { read with corpora := read.corpora ++ [file] } rest
    | none =>
      if (after? "-h" argument).isSome then .help
      else if (after? "-V" argument).isSome then .version
      else .misuse

/-- What the arguments ask for. -/
def ofArguments (arguments : List String) : Command := next {} arguments

end Command

end WordCompletion

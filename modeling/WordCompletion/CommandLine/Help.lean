/-! # Help and version

What is printed when the help or the version is asked for. The headings and the flags of the help stand
out when the environment forces colours and does not forbid them.
-/

namespace WordCompletion

/-- Whether parts of a text stand out. -/
inductive Style where
  | plain
  | bold
deriving DecidableEq, Repr

namespace Style

/-- A variable of the environment has a value that is not empty. -/
def isSet (environment : List (String × String)) (name : String) : Bool :=
  (environment.lookup name).any (! ·.isEmpty)

/-- The style that the environment asks for. -/
def ofEnvironment (environment : List (String × String)) : Style :=
  if !isSet environment "NO_COLOR" && isSet environment "CLICOLOR_FORCE" then .bold else .plain

/-- A heading, underlined if it stands out. -/
def heading : Style → String → String
  | .plain, text => text
  | .bold, text => "\x1b[1m\x1b[4m" ++ text ++ "\x1b[0m"

/-- A word that is typed as it stands. -/
def literal : Style → String → String
  | .plain, text => text
  | .bold, text => "\x1b[1m" ++ text ++ "\x1b[0m"

end Style

/-- What is printed when the version is asked for. -/
def versionText : String := "wordcache 0.1.0\n"

/-- What is printed when the help is asked for. -/
def helpText (style : Style) : String :=
  "In-memory fuzzy word completion over a stream of observed text\n\n" ++
  style.heading "Usage:" ++ " " ++ style.literal "wordcache" ++ " [OPTIONS]\n\n" ++
  style.heading "Options:" ++ "\n" ++
  "      " ++ style.literal "--corpus" ++
    " <FILE>  Files whose words seed the cache before stdin is read\n" ++
  "      " ++ style.literal "--limitless" ++
    "      Return every match instead of capping at max_results\n" ++
  "      " ++ style.literal "--json-logs" ++ "      Emit logs as JSON objects\n" ++
  "  " ++ style.literal "-h" ++ ", " ++ style.literal "--help" ++ "           Print help\n" ++
  "  " ++ style.literal "-V" ++ ", " ++ style.literal "--version" ++ "        Print version\n"

end WordCompletion

import WordCompletion.Options
import WordCompletion.Settings.Document
import WordCompletion.Settings.Environment
import WordCompletion.Text.Quoted

/-! # Loading the configuration

The configuration is read from two layers, the settings file below and the environment above; a
setting that neither gives has its default value. A settings file that is named but not found gives
no layer, and one that is found but cannot be read is an error. Settings are read in the order of their
names, the first of the wrong kind is reported, and a configuration that was read must then be valid.
-/

namespace WordCompletion

/-- What a setting was found to be. -/
inductive Found where
  | scalar (value : Scalar)
  | list
  | table
deriving DecidableEq, Repr

/-- What a setting has to be. -/
inductive Expected where
  /-- A natural number that counts something. -/
  | count
  /-- A natural number of milliseconds. -/
  | milliseconds
  | float
  | matchOptions
deriving DecidableEq, Repr

/-- A setting of the wrong kind, and the keys that lead to it. -/
structure Mismatch where
  found : Found
  expected : Expected
  source : Source
  path : List String
deriving DecidableEq, Repr

namespace Scalar

/-- The kind and the value of a scalar in a report. -/
def describe : Scalar → String
  | .text value => "string " ++ Text.quoted value
  | .flag value => "bool " ++ toString value
  | .unsigned value => "unsigned int `" ++ toString value ++ "`"
  | .signed value => "signed int `" ++ toString value.toInt ++ "`"
  | .float value => "float `" ++ value.toText ++ "`"

end Scalar

namespace Found

/-- What was found, in a report. -/
def describe : Found → String
  | .scalar value => value.describe
  | .list => "sequence"
  | .table => "map"

end Found

namespace Expected

/-- What was expected, in a report. -/
def describe : Expected → String
  | .count => "usize"
  | .milliseconds => "u64"
  | .float => "f64"
  | .matchOptions => "struct MatchOptions"

/-- A whole number is expected. -/
def isWhole : Expected → Bool
  | .count | .milliseconds => true
  | .float | .matchOptions => false

end Expected

namespace Source

/-- The path of a setting as its source writes it. -/
def pathText (source : Source) (path : List String) : String :=
  let text := ".".intercalate path
  match source with
  | .environment => String.ofList (text.toList.map Char.toUpper)
  | .file _ => "default." ++ text

/-- The name of the source in a report. -/
def describe : Source → String
  | .environment => "`WORDCACHE_` environment variable(s)"
  | .file name => name ++ " TOML file"

end Source

namespace Mismatch

/-- A whole number was found where one was expected, but a negative one. -/
def isNegative (mismatch : Mismatch) : Bool :=
  match mismatch.found with
  | .scalar (.signed _) => mismatch.expected.isWhole
  | _ => false

/-- The report of a setting of the wrong kind. -/
def message (mismatch : Mismatch) : String :=
  (if mismatch.isNegative then "invalid value " else "invalid type: found ") ++
    mismatch.found.describe ++ ", expected " ++ mismatch.expected.describe ++ " for key \"" ++
    mismatch.source.pathText mismatch.path ++ "\" in " ++ mismatch.source.describe

end Mismatch

namespace Setting

/-- The setting is not what is expected at its path. -/
def mismatch (setting : Setting) (expected : Expected) (path : List String) : Mismatch :=
  match setting with
  | .scalar source value => ⟨.scalar value, expected, source, path⟩
  | .list source _ => ⟨.list, expected, source, path⟩
  | .table source _ => ⟨.table, expected, source, path⟩

/-- A natural number. -/
def natural (expected : Expected) (path : List String) (setting : Setting) : Except Mismatch UInt64 :=
  match setting with
  | .scalar _ (.unsigned value) => .ok value
  | .scalar _ (.signed value) =>
    if 0 ≤ value then .ok value.toUInt64 else .error (setting.mismatch expected path)
  | _ => .error (setting.mismatch expected path)

/-- A number; a whole one counts as the nearest number. -/
def float (path : List String) (setting : Setting) : Except Mismatch Binary64 :=
  match setting with
  | .scalar _ (.float value) => .ok value
  | .scalar _ (.unsigned value) => .ok (.ofNat value.toNat)
  | .scalar _ (.signed value) => .ok (.ofInt value.toInt)
  | _ => .error (setting.mismatch .float path)

end Setting

/-- Read the setting under a key of the layer at a path; a missing one has its default value. -/
def Layer.read {α : Type} (layer : Layer) (path : List String) (key : String)
    (value : List String → Setting → Except Mismatch α) (default : α) : Except Mismatch α :=
  match layer.lookup key with
  | some setting => value (path ++ [key]) setting
  | none => .ok default

namespace MatchOptions

/-- Options from a layer with a key for each of them. -/
def ofLayer (exactMatches fuzzyCutoff lookAhead maxResults : String) (path : List String)
    (layer : Layer) : Except Mismatch MatchOptions := do
  let defaults : MatchOptions := {}
  return {
    exactMatches := ← layer.read path exactMatches (Setting.natural .count) defaults.exactMatches
    fuzzyCutoff := ← layer.read path fuzzyCutoff Setting.float defaults.fuzzyCutoff
    lookAhead := ← layer.read path lookAhead (Setting.natural .count) defaults.lookAhead
    maxResults := ← layer.read path maxResults (Setting.natural .count) defaults.maxResults }

/-- The items of a list by their positions. -/
def positions (items : List Setting) : Layer :=
  items.zipIdx.map fun (item, index) => (toString index, item)

/-- Options from a table by name or from a list by position. -/
def ofSetting (path : List String) (setting : Setting) : Except Mismatch MatchOptions :=
  match setting with
  | .table _ entries =>
    ofLayer "exact_matches" "fuzzy_cutoff" "look_ahead" "max_results" path entries
  | .list _ items => ofLayer "0" "1" "2" "3" path (positions items)
  | _ => .error (setting.mismatch .matchOptions path)

end MatchOptions

/-- Why no configuration was loaded. -/
inductive LoadError where
  /-- A string in a variable would be cut inside a character. -/
  | splitCharacter
  | document (name : String) (fault : DocumentFault)
  | wrongKind (mismatch : Mismatch)
  | invalid (setting : InvalidSetting)
deriving DecidableEq, Repr

/-- The report of a settings file that cannot be read as text. -/
def LoadError.unreadMessage (name reason : String) : String :=
  "failed to load configuration: " ++ reason ++ "\n in " ++ (Source.file name).describe

/-- The report of a failed load, if it has one. -/
def LoadError.message? : LoadError → Option String
  | .splitCharacter => none
  | .document name (.unreadable reason) => some (unreadMessage name reason)
  | .document name .notText => some (unreadMessage name "stream did not contain valid UTF-8")
  | .document _ .malformed => none
  | .document _ .reserved => none
  | .wrongKind mismatch => some ("failed to load configuration: " ++ mismatch.message)
  | .invalid setting => some setting.message

namespace CacheConfig

/-- The configuration that a layer gives. -/
def ofLayer (layer : Layer) : Except Mismatch CacheConfig := do
  let defaults : CacheConfig := {}
  let deadlineMs ← layer.read [] "deadline_ms" (Setting.natural .milliseconds) defaults.deadlineMs
  let matchOptions ← layer.read [] "match_options" MatchOptions.ofSetting defaults.matchOptions
  let minWordLen ← layer.read [] "min_word_len" (Setting.natural .count) defaults.minWordLen
  return { matchOptions, minWordLen, deadlineMs }

/-- The settings file that the environment names: the path under which it is found, and what comes of reading it. -/
def settingsFile? (environment : List (String × String)) (files : Files) : Option (String × Reading) :=
  (environment.lookup Environment.fileVariable).bind files.find?

/-- The layer of the settings file that the environment names, empty when there is none. -/
def fileLayer (environment : List (String × String)) (files : Files) : Except LoadError Layer :=
  match settingsFile? environment files with
  | none => .ok []
  | some (place, .failed report) => .error (.document (files.nameOf place) (.unreadable report))
  | some (place, .contents bytes) =>
    (Layer.ofDocument (files.nameOf place) bytes).mapError (.document (files.nameOf place))

/-- Load the configuration from the environment and the settings file that it names. A variable that
cannot be read stops the load before anything else does. -/
def load (environment : List (String × String)) (files : Files) : Except LoadError CacheConfig :=
  match Environment.layer? environment with
  | none => .error .splitCharacter
  | some upper => do
    let lower ← fileLayer environment files
    let config ← (ofLayer (Layer.merge lower upper)).mapError .wrongKind
    config.validate.mapError .invalid
    return config

end CacheConfig

end WordCompletion

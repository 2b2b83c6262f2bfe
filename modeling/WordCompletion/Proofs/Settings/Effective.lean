import Mathlib.Tactic.Push
import WordCompletion.FileTree
import WordCompletion.Proofs.Settings.Variables

/-! # The values that count

For every field the value of its variable counts, without one that of the settings file, and without either the
default value. The configuration is loaded if what counts has the kind of its field everywhere and the whole is
valid, and then it holds what counts and nothing else. So what the settings file gives for a field whose
variable is set can be of any kind and value.
-/

namespace WordCompletion

/-! ## Documents that give a layer -/

/-- A table in a value has the reserved key. -/
inductive Toml.HasReserved : Toml → Prop
  | item {items : List Toml} {value : Toml} (member : value ∈ items) (inside : value.HasReserved) :
      HasReserved (.array items)
  | entry {entries : List (String × Toml)} {key : String} {value : Toml} (member : (key, value) ∈ entries)
      (inside : value.HasReserved) : HasReserved (.table entries)
  | key {entries : List (String × Toml)} (reserved : (entries.lookup reservedKey).isSome = true) :
      HasReserved (.table entries)

/-- A layer gives a setting under the keys of its document. -/
theorem Layer.isSome_lookup_ofToml? {source : Source} {entries : List (String × Toml)} {layer : Layer}
    (made : Layer.ofToml? source entries = some layer) (key : String) :
    (layer.lookup key).isSome = (entries.lookup key).isSome := by
  induction entries generalizing layer with
  | nil =>
    cases made
    rfl
  | cons entry rest ih =>
    obtain ⟨name, value⟩ := entry
    simp only [Layer.ofToml?, Option.bind_eq_bind, Option.bind_eq_some_iff, Option.pure_def,
      Option.some.injEq] at made
    obtain ⟨setting, _, later, made, rfl⟩ := made
    rw [Layer.lookup_cons, List.lookup_cons]
    by_cases same : key = name
    · simp [same]
    · rw [if_neg same, beq_false_of_ne same, ih made]

theorem Setting.ofTable?_eq_none_iff {source : Source} {entries : Layer} :
    Setting.ofTable? source entries = none ↔ (entries.lookup reservedKey).isSome = true := by
  simp [Setting.ofTable?]

mutual

/-- A value gives a setting unless a table in it has the reserved key. -/
theorem Setting.ofToml?_eq_none_iff {source : Source} : (value : Toml) →
    (Setting.ofToml? source value = none ↔ value.HasReserved)
  | .text _ | .integer _ | .float _ | .bool _ | .moment => by
    refine iff_of_false (by simp [Setting.ofToml?]) nofun
  | .array items => by
    rw [Setting.ofToml?, Option.map_eq_none_iff, settingsOfToml?_eq_none_iff items]
    constructor
    · rintro ⟨value, member, inside⟩
      exact .item member inside
    · rintro (⟨member, inside⟩)
      exact ⟨_, member, inside⟩
  | .table entries => by
    rw [Setting.ofToml?]
    cases made : Layer.ofToml? source entries with
    | none =>
      obtain ⟨entry, member, inside⟩ := (Layer.ofToml?_eq_none_iff entries).mp made
      exact iff_of_true rfl (.entry member inside)
    | some layer =>
      have whole : ¬ ∃ entry ∈ entries, entry.2.HasReserved := by
        rw [← Layer.ofToml?_eq_none_iff entries, made]
        exact Option.some_ne_none layer
      rw [Option.bind_some, Setting.ofTable?_eq_none_iff, Layer.isSome_lookup_ofToml? made]
      constructor
      · exact .key
      · rintro (_ | ⟨member, inside⟩ | reserved)
        · exact absurd ⟨_, member, inside⟩ whole
        · exact reserved

theorem settingsOfToml?_eq_none_iff {source : Source} : (items : List Toml) →
    (settingsOfToml? source items = none ↔ ∃ value ∈ items, value.HasReserved)
  | [] => by simp [settingsOfToml?]
  | item :: rest => by
    simp only [settingsOfToml?, List.mem_cons, exists_eq_or_imp]
    rw [← Setting.ofToml?_eq_none_iff item, ← settingsOfToml?_eq_none_iff rest]
    cases Setting.ofToml? source item <;> cases settingsOfToml? source rest <;> simp

theorem Layer.ofToml?_eq_none_iff {source : Source} : (entries : List (String × Toml)) →
    (Layer.ofToml? source entries = none ↔ ∃ entry ∈ entries, entry.2.HasReserved)
  | [] => by simp [Layer.ofToml?]
  | (key, value) :: rest => by
    simp only [Layer.ofToml?, List.mem_cons, exists_eq_or_imp]
    rw [← Setting.ofToml?_eq_none_iff value, ← Layer.ofToml?_eq_none_iff rest]
    cases Setting.ofToml? source value <;> cases Layer.ofToml? source rest <;> simp

end


namespace CacheConfig

variable {environment : List (String × String)} {files : Files}

/-- The settings file, if one is found, can be read and is a TOML document without the reserved key below its
root. -/
def HasDocument (environment : List (String × String)) (files : Files) : Prop :=
  ∀ place reading, settingsFile? environment files = some (place, reading) →
    ∃ bytes text entries, reading = .contents bytes ∧ bytes.text? = some text ∧ Toml.parse? text = some entries ∧
      ∀ entry ∈ entries, ¬ entry.2.HasReserved

theorem HasDocument.exists_fileLayer (document : HasDocument environment files) :
    ∃ lower, fileLayer environment files = .ok lower := by
  cases found : settingsFile? environment files with
  | none => exact ⟨[], fileLayer_of_missing found⟩
  | some file =>
    obtain ⟨place, reading⟩ := file
    obtain ⟨bytes, text, entries, rfl, decoded, parsed, unreserved⟩ := document place reading found
    have made : ∃ lower, Layer.ofToml? (.file (files.nameOf place)) entries = some lower := by
      rw [← Option.ne_none_iff_exists', Ne, Layer.ofToml?_eq_none_iff]
      push Not
      exact unreserved
    obtain ⟨lower, made⟩ := made
    exact ⟨lower, (fileLayer_eq_ok_iff found).mpr ⟨_, _, _, rfl, decoded, parsed, made⟩⟩

end CacheConfig

/-! ## What counts -/

/-- What counts of a field. -/
inductive Effective where
  /-- Its variable is set, but cannot be read. -/
  | unreadable
  | given (setting : Setting)
  | default

namespace Effective

variable {α : Type} {reads : Setting → α → Prop} {default value : α}

/-- What counts is this value of the kind that is read, or the default value. -/
inductive Is (reads : Setting → α → Prop) (default : α) : Effective → α → Prop
  | given {setting : Setting} {value : α} (read : reads setting value) : Is reads default (.given setting) value
  | default : Is reads default .default default

theorem is_given_iff {setting : Setting} : (given setting).Is reads default value ↔ reads setting value :=
  ⟨fun | .given read => read, .given⟩

theorem not_is_unreadable : ¬ unreadable.Is reads default value :=
  nofun

theorem is_default_iff : Effective.default.Is reads default value ↔ default = value :=
  ⟨fun | .default => rfl, fun | rfl => .default⟩

end Effective

namespace ConfigField

variable {environment : List (String × String)} {lower layer : Layer} {field : ConfigField}

/-- What counts of a field: its variable, or else the settings file, or else the default value. -/
def effective (field : ConfigField) (environment : List (String × String)) (lower : Layer) : Effective :=
  match environment.lookup field.variableName with
  | some text => (Literal.parse? text).elim .unreadable .given
  | none => (field.inLayer? lower).elim .default .given

/-- In a layer with the variables over the settings file a field is read as what counts of it. -/
theorem read_eq_ok_iff {α : Type} {value : List String → Setting → Except Mismatch α}
    {reads : Setting → α → Prop} {default result : α}
    (merged : field.inLayer? layer = Setting.merge? (field.inLayer? lower) (field.inVariables? environment))
    (readable : ∀ text, environment.lookup field.variableName = some text → Literal.parse? text ≠ none)
    (outlined : ∀ {setting other : Setting}, setting.outline = other.outline →
      ∀ path, value path setting = value path other)
    (kind : ∀ {path : List String} {setting : Setting} {result : α},
      value path setting = .ok result ↔ reads setting result) :
    field.read layer value default = .ok result ↔
      (field.effective environment lower).Is reads default result := by
  rw [read, effective, merged, inVariables?]
  cases set : environment.lookup field.variableName with
  | none =>
    cases field.inLayer? lower with
    | none => exact (Except.ok.injEq default result).to_iff.trans Effective.is_default_iff.symm
    | some setting => exact kind.trans Effective.is_given_iff.symm
  | some text =>
    -- Over a table below, the table of the variable is another one, but it looks the same.
    obtain ⟨setting, parsed⟩ := Option.ne_none_iff_exists'.mp (readable text set)
    simp only [Option.bind_some, parsed, Option.elim_some, Effective.is_given_iff]
    cases field.inLayer? lower with
    | none => exact kind
    | some below =>
      have seen := outlined (Setting.outline_merge below setting) field.path
      exact (congrArg (· = .ok result) seen).to_iff.trans kind

end ConfigField

namespace CacheConfig

/-- The configuration holds what counts, in each of its fields. -/
structure Holds (config : CacheConfig) (effective : ConfigField → Effective) : Prop where
  exactMatches : (effective .exactMatches).Is Setting.IsNatural 2 config.matchOptions.exactMatches
  fuzzyCutoff : (effective .fuzzyCutoff).Is Setting.IsNumber .half config.matchOptions.fuzzyCutoff
  lookAhead : (effective .lookAhead).Is Setting.IsNatural 2 config.matchOptions.lookAhead
  maxResults : (effective .maxResults).Is Setting.IsNatural 33 config.matchOptions.maxResults
  minWordLen : (effective .minWordLen).Is Setting.IsNatural 2 config.minWordLen
  deadlineMs : (effective .deadlineMs).Is Setting.IsNatural 250 config.deadlineMs

variable {environment : List (String × String)} {files : Files} {lower : Layer}

/-- A variable that cannot be read counts, and so no configuration holds what counts. -/
theorem Holds.readable {config : CacheConfig} (holds : config.Holds fun field => field.effective environment lower)
    {field : ConfigField} {text : String} (set : environment.lookup field.variableName = some text) :
    Literal.parse? text ≠ none := by
  intro unread
  have counts : field.effective environment lower = .unreadable := by
    simp only [ConfigField.effective, set, unread, Option.elim_none]
  obtain ⟨exact, cutoff, ahead, results, length, deadline⟩ := holds
  cases field <;> simp only [counts, Effective.not_is_unreadable] at *

/-- Of a layer with the variables over the settings file the configuration is read that holds what counts. -/
theorem ofLayer_eq_ok_iff_holds {layer : Layer} (holds : layer.HoldsTable optionsKey)
    (merged : ∀ field : ConfigField,
      field.inLayer? layer = Setting.merge? (field.inLayer? lower) (field.inVariables? environment))
    (readable : ∀ (field : ConfigField) text,
      environment.lookup field.variableName = some text → Literal.parse? text ≠ none)
    (config : CacheConfig) :
    ofLayer layer = .ok config ↔ config.Holds fun field => field.effective environment lower := by
  have natural : ∀ (expected : Expected) (field : ConfigField) (default result : UInt64),
      field.read layer (Setting.natural expected) default = .ok result ↔
        (field.effective environment lower).Is Setting.IsNatural default result :=
    fun expected field default result => ConfigField.read_eq_ok_iff (merged field) (readable field)
      (fun same => Setting.natural_congr same expected) Setting.natural_eq_ok_iff
  have number : ∀ (field : ConfigField) (default result : Binary64),
      field.read layer Setting.float default = .ok result ↔
        (field.effective environment lower).Is Setting.IsNumber default result :=
    fun field default result => ConfigField.read_eq_ok_iff (merged field) (readable field) Setting.float_congr
      Setting.float_eq_ok_iff
  rw [ofLayer_eq_ok_iff holds]
  simp only [natural, number]
  constructor
  · rintro ⟨exact, cutoff, ahead, results, length, deadline⟩
    exact ⟨exact, cutoff, ahead, results, length, deadline⟩
  · rintro ⟨exact, cutoff, ahead, results, length, deadline⟩
    exact ⟨exact, cutoff, ahead, results, length, deadline⟩

/-- A configuration is loaded if it holds what counts and is valid. -/
theorem load_eq_ok_iff_holds (names : Environment.OfFields environment)
    (file : fileLayer environment files = .ok lower) (below : lower.HoldsTable optionsKey) (config : CacheConfig) :
    load environment files = .ok config ↔
      (config.Holds fun field => field.effective environment lower) ∧ config.validate = .ok () := by
  rw [load_eq_ok_iff]
  obtain ⟨unreadable, field, text, set, cut⟩ | ⟨upper, layered, above, distinct, fields, readable⟩ :=
    Environment.layer?_cases names
  · refine iff_of_false ?_ fun holds => holds.1.readable set cut
    rintro ⟨upper, _, layered, _⟩
    exact Option.some_ne_none upper (layered.symm.trans unreadable)
  · have merged : ∀ field : ConfigField, field.inLayer? (.merge lower upper) =
        Setting.merge? (field.inLayer? lower) (field.inVariables? environment) := by
      intro field
      rw [ConfigField.inLayer?_merge below above distinct, fields]
    have read := ofLayer_eq_ok_iff_holds (Layer.holdsTable_merge below above distinct.root) merged readable
    rw [← read]
    constructor
    · rintro ⟨upper', lower', layered', file', read, valid⟩
      cases layered.symm.trans layered'
      cases file.symm.trans file'
      exact ⟨read, valid⟩
    · rintro ⟨read, valid⟩
      exact ⟨upper, lower, layered, file, read, valid⟩

/-- What a settings file gives for fields whose variables are set does not matter. -/
theorem load_eq_of_unset (names : Environment.OfFields environment) {other : Files} {lower' : Layer}
    (file : fileLayer environment files = .ok lower) (file' : fileLayer environment other = .ok lower')
    (below : lower.HoldsTable optionsKey) (below' : lower'.HoldsTable optionsKey)
    (same : ∀ field : ConfigField, environment.lookup field.variableName = none →
      field.inLayer? lower = field.inLayer? lower') : load environment files = load environment other := by
  apply load_congr file file'
  intro upper layered
  obtain ⟨unreadable, _⟩ | ⟨_, layered', above, distinct, fields, readable⟩ := Environment.layer?_cases names
  · exact absurd (layered.symm.trans unreadable) (Option.some_ne_none upper)
  · cases layered.symm.trans layered'
    apply ofLayer_congr (Layer.holdsTable_merge below above distinct.root)
      (Layer.holdsTable_merge below' above distinct.root)
    intro field
    rw [ConfigField.inLayer?_merge below above distinct, ConfigField.inLayer?_merge below' above distinct, fields]
    cases set : field.inVariables? environment with
    | none => rw [same field (ConfigField.lookup_eq_none_of_inVariables? (readable field) set)]
    | some setting => rw [Setting.map_outline_merge?, Setting.map_outline_merge?]

/-- The variables over the settings file and the file over the default values decide field by field. A
configuration is loaded if it is valid and holds what counts of each field, and it is then the one that does.
What the file gives under a variable that is set is not looked at: with another file that gives the same for
the fields without a variable, the load ends the same, in an error as well. -/
theorem load_layers (names : Environment.OfFields environment) (document : HasDocument environment files) :
    ∃ lower, fileLayer environment files = .ok lower ∧ (lower.HoldsTable optionsKey →
      (∀ config, load environment files = .ok config ↔
        (config.Holds fun field => field.effective environment lower) ∧ config.validate = .ok ()) ∧
      ∀ other lower', fileLayer environment other = .ok lower' → lower'.HoldsTable optionsKey →
        (∀ field : ConfigField, environment.lookup field.variableName = none →
          field.inLayer? lower = field.inLayer? lower') →
        load environment files = load environment other) := by
  obtain ⟨lower, file⟩ := document.exists_fileLayer
  exact ⟨lower, file, fun below => ⟨load_eq_ok_iff_holds names file below,
    fun other lower' file' below' => load_eq_of_unset names file file' below below'⟩⟩

/-- A text where a number belongs does not matter under a variable with a number. -/
theorem load_layers_overridden :
    let environment := [("WORDCACHE_CONFIG_FILE", "c.toml"), ("WORDCACHE_MIN_WORD_LEN", "5")]
    let files := (FileTree.ofTexts ["work"] [("c.toml", "min_word_len=''\nmatch_options.look_ahead=9")]).files
    let other := (FileTree.ofTexts ["work"] [("c.toml", "match_options.look_ahead=9")]).files
    load environment files = .ok { matchOptions := { lookAhead := 9 }, minWordLen := 5 } ∧
      load environment files = load environment other := by
  intro environment files other
  have names : Environment.OfFields environment := by
    refine ⟨by decide, ?_⟩
    rintro _ (_ | ⟨_, (_ | ⟨_, ⟨⟩⟩)⟩) gives
    · exact absurd (by decide +kernel) gives
    · exact ⟨.minWordLen, rfl⟩
  have found : settingsFile? environment files =
      some ("/work/c.toml", .contents (.ofText "min_word_len=''\nmatch_options.look_ahead=9")) := by
    decide +kernel
  have decoded : (Bytes.ofText "min_word_len=''\nmatch_options.look_ahead=9").text? =
      some "min_word_len=''\nmatch_options.look_ahead=9" := by decide +kernel
  have parsed : Toml.parse? "min_word_len=''\nmatch_options.look_ahead=9" =
      some [("min_word_len", .text ""), ("match_options", .table [("look_ahead", .integer 9)])] := by decide +kernel
  have document : HasDocument environment files := by
    intro place reading same
    cases found.symm.trans same
    refine ⟨_, _, _, rfl, decoded, parsed, ?_⟩
    simp only [← @Setting.ofToml?_eq_none_iff .environment]
    decide +kernel
  obtain ⟨lower, file, layers⟩ := load_layers names document
  cases file.symm.trans ((fileLayer_eq_ok_iff found).mpr ⟨_, _, _, rfl, decoded, parsed, rfl⟩)
  obtain ⟨loads, alone⟩ := layers fun setting member => ⟨_, _, (Option.some.inj member).symm⟩
  constructor
  · refine (loads _).mpr ⟨⟨.default, .default, .given ?_, .default, .given ?_, .default⟩, by decide⟩
    · exact .signed (by decide)
    · exact .unsigned
  · have found : settingsFile? environment other =
        some ("/work/c.toml", .contents (.ofText "match_options.look_ahead=9")) := by decide +kernel
    have decoded : (Bytes.ofText "match_options.look_ahead=9").text? = some "match_options.look_ahead=9" := by
      decide +kernel
    have parsed : Toml.parse? "match_options.look_ahead=9" =
        some [("match_options", .table [("look_ahead", .integer 9)])] := by decide +kernel
    apply alone _ _ ((fileLayer_eq_ok_iff found).mpr ⟨_, _, _, rfl, decoded, parsed, rfl⟩)
      fun setting member => ⟨_, _, (Option.some.inj member).symm⟩
    intro field unset
    cases field with
    | minWordLen => cases unset
    | _ => rfl

/-- Two keys are special in a table of match options: with the one nothing is loaded, and with the other the
table counts as the value under it. What else is in the two files would be valid. -/
theorem load_specialKeys :
    let environment := [("WORDCACHE_CONFIG_FILE", "c.toml")]
    let reserved := "[match_options]\n___figment_value_id = 3\nlook_ahead = 9\n"
    let standIn := "[match_options]\n___figment_value_value = 5\n"
    Environment.OfFields environment ∧
    Toml.parse? reserved = some [("match_options", .table [(reservedKey, .integer 3), ("look_ahead", .integer 9)])] ∧
    ({ matchOptions := { lookAhead := 9 } } : CacheConfig).validate = .ok () ∧
    load environment (FileTree.ofTexts ["work"] [("c.toml", reserved)]).files =
      .error (.document "c.toml" .reserved) ∧
    Toml.parse? standIn = some [("match_options", .table [(standInKey, .integer 5)])] ∧
    ({} : CacheConfig).validate = .ok () ∧
    load environment (FileTree.ofTexts ["work"] [("c.toml", standIn)]).files =
      .error (.wrongKind ⟨.scalar (.signed 5), .matchOptions, .file "c.toml", ["match_options"]⟩) := by
  intro environment reserved standIn
  have skipped : Environment.settingPath? "WORDCACHE_CONFIG_FILE" = none := by decide +kernel
  have layered : Environment.layer? environment = some [] := by
    simp [environment, Environment.layer?, Environment.layerOf?, skipped, Layer.merge]
  have found : settingsFile? environment (FileTree.ofTexts ["work"] [("c.toml", reserved)]).files =
      some ("/work/c.toml", .contents (.ofText reserved)) := by decide +kernel
  have found' : settingsFile? environment (FileTree.ofTexts ["work"] [("c.toml", standIn)]).files =
      some ("/work/c.toml", .contents (.ofText standIn)) := by decide +kernel
  have parsed : Toml.parse? reserved =
      some [("match_options", .table [(reservedKey, .integer 3), ("look_ahead", .integer 9)])] := by decide +kernel
  have parsed' : Toml.parse? standIn = some [("match_options", .table [(standInKey, .integer 5)])] := by decide +kernel
  have decoded : (Bytes.ofText reserved).text? = some reserved := by decide +kernel
  have decoded' : (Bytes.ofText standIn).text? = some standIn := by decide +kernel
  refine ⟨⟨by decide, ?_⟩, parsed, by decide, ?_, parsed', by decide, ?_⟩
  · rintro _ (_ | ⟨_, ⟨⟩⟩) gives
    exact absurd skipped gives
  · have file : fileLayer environment (FileTree.ofTexts ["work"] [("c.toml", reserved)]).files =
        .error (.document "c.toml" .reserved) := by
      simp only [fileLayer, found, Layer.ofDocument, decoded, parsed]
      rfl
    rw [load, layered, file]
    rfl
  · rw [load, layered, (fileLayer_eq_ok_iff found').mpr ⟨_, _, _, rfl, decoded', parsed', rfl⟩]
    rfl

end CacheConfig

end WordCompletion

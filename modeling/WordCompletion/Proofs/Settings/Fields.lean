import Mathlib.Data.List.Nodup
import WordCompletion.Settings.Load

/-! # Fields of the configuration in their layers

Each field of the configuration has one place in a layer, at its root or in its table of match options. Of
two layers that merge, the upper one decides field by field. What is read of a field hangs on its setting
alone, and not on what else is in the layer. A settings file that is found has to be a document to give a layer,
and a configuration is loaded of that layer under the one of the variables.
-/

namespace WordCompletion

namespace Layer

variable {key : String} {lower upper : Layer}

/-! ## Keys that stay distinct -/

theorem keys_change (key : String) (next : Option Setting → Setting) (layer : Layer) :
    (layer.change key next).keys = if key ∈ layer.keys then layer.keys else layer.keys ++ [key] := by
  induction layer with
  | nil => simp [change, keys]
  | cons entry rest ih =>
    obtain ⟨name, setting⟩ := entry
    by_cases same : name = key
    · simp [change, keys, same]
    · have moved : (change key next ((name, setting) :: rest)).keys = name :: (change key next rest).keys := by
        simp [change, keys, same]
      have inside : key ∈ keys ((name, setting) :: rest) ↔ key ∈ keys rest := by
        simp [keys, Ne.symm same]
      rw [moved, ih]
      simp only [inside]
      split_ifs <;> rfl

theorem nodup_keys_change {layer : Layer} (distinct : layer.keys.Nodup) (key : String)
    (next : Option Setting → Setting) : (layer.change key next).keys.Nodup := by
  rw [keys_change]
  split_ifs with present
  · exact distinct
  · refine List.nodup_append.mpr ⟨distinct, List.nodup_singleton key, ?_⟩
    rintro name member _ last rfl
    exact present (List.mem_singleton.mp last ▸ member)

theorem nodup_keys_merge (distinct : lower.keys.Nodup) (upper : Layer) : (merge lower upper).keys.Nodup := by
  induction upper generalizing lower with
  | nil => exact distinct
  | cons entry rest ih => exact ih (nodup_keys_change distinct ..)

/-! ## The table under a key -/

/-- The entries of the table under a key, none if there is no table. -/
def tableAt (key : String) (layer : Layer) : Layer :=
  match layer.lookup key with
  | some (.table _ entries) => entries
  | _ => []

/-- What a layer gives under a key, if anything, is a table. -/
def HoldsTable (key : String) (layer : Layer) : Prop :=
  ∀ setting ∈ layer.lookup key, ∃ source entries, setting = .table source entries

/-- Keys occur once, in the layer and in the table under a key. -/
structure Distinct (key : String) (layer : Layer) : Prop where
  root : layer.keys.Nodup
  table : (layer.tableAt key).keys.Nodup

theorem tableAt_of_none (absent : lower.lookup key = none) : lower.tableAt key = [] := by
  rw [tableAt, absent]

theorem tableAt_of_table {source : Source} {entries : Layer}
    (found : lower.lookup key = some (.table source entries)) : lower.tableAt key = entries := by
  rw [tableAt, found]

theorem HoldsTable.cases (holds : lower.HoldsTable key) :
    lower.lookup key = none ∨ ∃ source entries, lower.lookup key = some (.table source entries) := by
  cases found : lower.lookup key with
  | none => exact .inl rfl
  | some setting =>
    obtain ⟨source, entries, rfl⟩ := holds setting found
    exact .inr ⟨source, entries, rfl⟩

/-- Tables under a key merge, and one that stands alone stays. -/
theorem lookup_merge_cases (below : lower.HoldsTable key) (above : upper.HoldsTable key)
    (distinct : upper.keys.Nodup) :
    (merge lower upper).lookup key = lower.lookup key ∧ upper.lookup key = none ∨
      (merge lower upper).lookup key = upper.lookup key ∧ lower.lookup key = none ∨
        ∃ source, (merge lower upper).lookup key =
          some (.table source (merge (lower.tableAt key) (upper.tableAt key))) := by
  have merged := lookup_merge distinct lower key
  obtain absent | ⟨source', entries', found'⟩ := above.cases
  · refine .inl ⟨?_, absent⟩
    rw [merged, absent]
    cases lower.lookup key <;> rfl
  · obtain absent | ⟨source, entries, found⟩ := below.cases
    · refine .inr (.inl ⟨?_, absent⟩)
      rw [merged, absent, found']
      rfl
    · refine .inr (.inr ⟨source', ?_⟩)
      rw [merged, tableAt_of_table found, tableAt_of_table found', found, found', Setting.merge?, Setting.merge]

theorem holdsTable_merge (below : lower.HoldsTable key) (above : upper.HoldsTable key)
    (distinct : upper.keys.Nodup) : (merge lower upper).HoldsTable key := by
  obtain ⟨same, _⟩ | ⟨same, _⟩ | ⟨source, both⟩ := lookup_merge_cases below above distinct
  · rwa [HoldsTable, same]
  · rwa [HoldsTable, same]
  · rintro setting found
    exact ⟨_, _, Option.some.inj (found.symm.trans both)⟩

theorem lookup_tableAt_merge (below : lower.HoldsTable key) (above : upper.HoldsTable key)
    (distinct : upper.Distinct key) (name : String) : ((merge lower upper).tableAt key).lookup name =
      Setting.merge? ((lower.tableAt key).lookup name) ((upper.tableAt key).lookup name) := by
  obtain ⟨same, absent⟩ | ⟨same, absent⟩ | ⟨source, both⟩ := lookup_merge_cases below above distinct.root
  · have table : (merge lower upper).tableAt key = lower.tableAt key := by rw [tableAt, same, tableAt]
    rw [table, tableAt_of_none absent]
    cases (lower.tableAt key).lookup name <;> rfl
  · have table : (merge lower upper).tableAt key = upper.tableAt key := by rw [tableAt, same, tableAt]
    rw [table, tableAt_of_none absent]
    cases (upper.tableAt key).lookup name <;> rfl
  · rw [tableAt_of_table both, lookup_merge distinct.table]

theorem Distinct.merge (distinct : lower.Distinct key) (below : lower.HoldsTable key)
    (above : upper.HoldsTable key) (distinct' : upper.Distinct key) : (merge lower upper).Distinct key where
  root := nodup_keys_merge distinct.root upper
  table := by
    obtain ⟨same, _⟩ | ⟨same, _⟩ | ⟨source, both⟩ := lookup_merge_cases below above distinct'.root
    · rw [tableAt, same]
      exact distinct.table
    · rw [tableAt, same]
      exact distinct'.table
    · rw [tableAt_of_table both]
      exact nodup_keys_merge distinct.table _

/-! ## Documents -/

theorem ofDocument_eq_ok_iff {name : String} {contents : Bytes} {layer : Layer} :
    ofDocument name contents = .ok layer ↔ ∃ text entries, contents.text? = some text ∧
      Toml.parse? text = some entries ∧ ofToml? (.file name) entries = some layer := by
  rw [ofDocument]
  cases contents.text? with
  | none => simp
  | some text =>
    cases parsed : Toml.parse? text with
    | none => simp [parsed]
    | some entries => cases made : ofToml? (.file name) entries <;> simp [parsed, made]

end Layer

/-! ## The fields -/

/-- A field of the configuration. -/
inductive ConfigField where
  | exactMatches
  | fuzzyCutoff
  | lookAhead
  | maxResults
  | minWordLen
  | deadlineMs
deriving DecidableEq, Repr

/-- The key of the table of match options. -/
def optionsKey : String := "match_options"

namespace ConfigField

/-- The field is one of the match options. -/
def isOption : ConfigField → Bool
  | .minWordLen | .deadlineMs => false
  | _ => true

/-- The last key on the way to the field. -/
def key : ConfigField → String
  | .exactMatches => "exact_matches"
  | .fuzzyCutoff => "fuzzy_cutoff"
  | .lookAhead => "look_ahead"
  | .maxResults => "max_results"
  | .minWordLen => "min_word_len"
  | .deadlineMs => "deadline_ms"

/-- The keys that lead to the field. -/
def path (field : ConfigField) : List String :=
  if field.isOption then [optionsKey, field.key] else [field.key]

/-- The setting that a layer gives for the field. -/
def inLayer? (field : ConfigField) (layer : Layer) : Option Setting :=
  (if field.isOption then layer.tableAt optionsKey else layer).lookup field.key

theorem key_injective {field other : ConfigField} (same : field.key = other.key) : field = other := by
  revert same
  cases field <;> cases other <;> simp [key]

theorem key_ne_optionsKey (field : ConfigField) : field.key ≠ optionsKey := by
  cases field <;> decide

theorem inLayer?_nil (field : ConfigField) : field.inLayer? [] = none := by
  cases field <;> rfl

variable {lower upper : Layer}

/-- Layers merge field by field. -/
theorem inLayer?_merge (below : lower.HoldsTable optionsKey) (above : upper.HoldsTable optionsKey)
    (distinct : upper.Distinct optionsKey) (field : ConfigField) :
    field.inLayer? (.merge lower upper) = Setting.merge? (field.inLayer? lower) (field.inLayer? upper) := by
  unfold inLayer?
  split_ifs
  · exact Layer.lookup_tableAt_merge below above distinct field.key
  · exact Layer.lookup_merge distinct.root lower field.key

end ConfigField

/-! ## Settings as values -/

namespace Setting

theorem merge?_none (upper : Option Setting) : merge? none upper = upper := by
  cases upper <;> rfl

/-- The setting is a natural of 64 bits. -/
inductive IsNatural : Setting → UInt64 → Prop where
  | unsigned {source : Source} {value : UInt64} : IsNatural (.scalar source (.unsigned value)) value
  | signed {source : Source} {value : Int64} (nonnegative : 0 ≤ value) :
      IsNatural (.scalar source (.signed value)) value.toUInt64

/-- The setting is a number. -/
inductive IsNumber : Setting → Binary64 → Prop where
  | float {source : Source} {value : Binary64} : IsNumber (.scalar source (.float value)) value
  | unsigned {source : Source} {value : UInt64} : IsNumber (.scalar source (.unsigned value)) (.ofNat value.toNat)
  | signed {source : Source} {value : Int64} : IsNumber (.scalar source (.signed value)) (.ofInt value.toInt)

theorem natural_eq_ok_iff {expected : Expected} {path : List String} {setting : Setting} {value : UInt64} :
    setting.natural expected path = .ok value ↔ setting.IsNatural value := by
  constructor
  · intro read
    unfold natural at read
    split at read
    · cases read
      exact .unsigned
    · split_ifs at read with nonnegative
      cases read
      exact .signed nonnegative
    · contradiction
  · intro holds
    cases holds with
    | unsigned => rfl
    | signed nonnegative => exact if_pos nonnegative

theorem float_eq_ok_iff {path : List String} {setting : Setting} {value : Binary64} :
    setting.float path = .ok value ↔ setting.IsNumber value := by
  constructor
  · intro read
    unfold float at read
    split at read
    all_goals cases read
    · exact .float
    · exact .unsigned
    · exact .signed
  · intro holds
    cases holds <;> rfl

/-- What can be seen of a setting without its parts. -/
def outline : Setting → Source × Found
  | .scalar source value => (source, .scalar value)
  | .list source _ => (source, .list)
  | .table source _ => (source, .table)

/-- A setting looks the same over another one. -/
theorem outline_merge (lower upper : Setting) : (lower.merge upper).outline = upper.outline := by
  cases lower <;> cases upper <;> rfl

theorem map_outline_merge? (lower : Option Setting) (upper : Setting) :
    (merge? lower (some upper)).map outline = some upper.outline := by
  cases lower with
  | none => rfl
  | some below => exact congrArg some (outline_merge below upper)

variable {setting other : Setting}

theorem natural_congr (same : setting.outline = other.outline) (expected : Expected) (path : List String) :
    setting.natural expected path = other.natural expected path := by
  cases setting <;> cases other <;> simp [outline] at same <;> obtain ⟨rfl, rfl⟩ := same <;> rfl

theorem float_congr (same : setting.outline = other.outline) (path : List String) :
    setting.float path = other.float path := by
  cases setting <;> cases other <;> simp [outline] at same <;> obtain ⟨rfl, rfl⟩ := same <;> rfl

end Setting

/-! ## What is read of a layer -/

namespace ConfigField

variable {α : Type}

/-- Read a field in a layer; one that is missing has its default value. -/
def read (field : ConfigField) (layer : Layer) (value : List String → Setting → Except Mismatch α)
    (default : α) : Except Mismatch α :=
  match field.inLayer? layer with
  | some setting => value field.path setting
  | none => .ok default

/-- Reading does not look into tables and lists. -/
theorem read_congr {field : ConfigField} {first second : Layer}
    {value : List String → Setting → Except Mismatch α}
    (congr : ∀ {setting other : Setting}, setting.outline = other.outline →
      ∀ path, value path setting = value path other)
    (same : (field.inLayer? first).map Setting.outline = (field.inLayer? second).map Setting.outline) (default : α) :
    field.read first value default = field.read second value default := by
  unfold read
  cases found : field.inLayer? first <;> cases found' : field.inLayer? second <;> simp [found, found'] at same
  · rfl
  · exact congr same _

end ConfigField

namespace CacheConfig

/-- Without a table of match options every option has its default value. -/
theorem read_options {layer : Layer} (holds : layer.HoldsTable optionsKey) :
    layer.read [] "match_options" MatchOptions.ofSetting ({} : CacheConfig).matchOptions =
      MatchOptions.ofLayer "exact_matches" "fuzzy_cutoff" "look_ahead" "max_results" [optionsKey]
        (layer.tableAt optionsKey) := by
  obtain absent | ⟨source, entries, found⟩ := holds.cases
  · have unset : layer.lookup "match_options" = none := absent
    rw [Layer.tableAt_of_none absent, Layer.read, unset]
    rfl
  · have set : layer.lookup "match_options" = some (.table source entries) := found
    rw [Layer.tableAt_of_table found, Layer.read, set]
    rfl

/-- The configuration that a layer gives is read field by field. -/
theorem ofLayer_eq {layer : Layer} (holds : layer.HoldsTable optionsKey) : ofLayer layer = do
    let deadlineMs ← ConfigField.deadlineMs.read layer (Setting.natural .milliseconds) 250
    let exactMatches ← ConfigField.exactMatches.read layer (Setting.natural .count) 2
    let fuzzyCutoff ← ConfigField.fuzzyCutoff.read layer Setting.float .half
    let lookAhead ← ConfigField.lookAhead.read layer (Setting.natural .count) 2
    let maxResults ← ConfigField.maxResults.read layer (Setting.natural .count) 33
    let minWordLen ← ConfigField.minWordLen.read layer (Setting.natural .count) 2
    return { matchOptions := { exactMatches, fuzzyCutoff, lookAhead, maxResults }, minWordLen, deadlineMs } := by
  rw [ofLayer, read_options holds]
  simp only [MatchOptions.ofLayer, bind_assoc, pure_bind]
  rfl

/-- What is read of a layer are the outlines of its fields. -/
theorem ofLayer_congr {first second : Layer} (holds : first.HoldsTable optionsKey)
    (holds' : second.HoldsTable optionsKey) (same : ∀ field : ConfigField,
      (field.inLayer? first).map Setting.outline = (field.inLayer? second).map Setting.outline) :
    ofLayer first = ofLayer second := by
  have natural : ∀ expected field default, ConfigField.read field first (Setting.natural expected) default =
      ConfigField.read field second (Setting.natural expected) default :=
    fun expected field => ConfigField.read_congr (fun same => Setting.natural_congr same expected) (same field)
  rw [ofLayer_eq holds, ofLayer_eq holds', ConfigField.read_congr Setting.float_congr (same .fuzzyCutoff)]
  simp only [natural]

theorem bind_eq_ok_iff {Error Value Result : Type} {first : Except Error Value}
    {next : Value → Except Error Result} {result : Result} :
    (first >>= next) = .ok result ↔ ∃ value, first = .ok value ∧ next value = .ok result := by
  cases first <;> simp [bind, Except.bind]

theorem mapError_eq_ok_iff {Error Error' Value : Type} {result : Except Error Value} {report : Error → Error'}
    {value : Value} : result.mapError report = .ok value ↔ result = .ok value := by
  cases result <;> simp [Except.mapError]

/-- A layer gives a configuration if each of its fields has been read. -/
theorem ofLayer_eq_ok_iff {layer : Layer} (holds : layer.HoldsTable optionsKey) {config : CacheConfig} :
    ofLayer layer = .ok config ↔
      ConfigField.exactMatches.read layer (Setting.natural .count) 2 = .ok config.matchOptions.exactMatches ∧
      ConfigField.fuzzyCutoff.read layer Setting.float .half = .ok config.matchOptions.fuzzyCutoff ∧
      ConfigField.lookAhead.read layer (Setting.natural .count) 2 = .ok config.matchOptions.lookAhead ∧
      ConfigField.maxResults.read layer (Setting.natural .count) 33 = .ok config.matchOptions.maxResults ∧
      ConfigField.minWordLen.read layer (Setting.natural .count) 2 = .ok config.minWordLen ∧
      ConfigField.deadlineMs.read layer (Setting.natural .milliseconds) 250 = .ok config.deadlineMs := by
  simp only [ofLayer_eq holds, bind_eq_ok_iff]
  constructor
  · rintro ⟨_, deadline, _, exact, _, cutoff, _, ahead, _, results, _, length, made⟩
    cases made
    exact ⟨exact, cutoff, ahead, results, length, deadline⟩
  · rintro ⟨exact, cutoff, ahead, results, length, deadline⟩
    exact ⟨_, deadline, _, exact, _, cutoff, _, ahead, _, results, _, length, rfl⟩

/-! ## Loading -/

variable {environment : List (String × String)} {files : Files} {place : String} {reading : Reading}

/-- A file gives a layer if it can be read, is text and a document, and has no reserved key. -/
theorem fileLayer_eq_ok_iff (found : settingsFile? environment files = some (place, reading)) {lower : Layer} :
    fileLayer environment files = .ok lower ↔ ∃ bytes text entries, reading = .contents bytes ∧
      bytes.text? = some text ∧ Toml.parse? text = some entries ∧
      Layer.ofToml? (.file (files.nameOf place)) entries = some lower := by
  rw [fileLayer, found]
  cases reading with
  | failed report => simp
  | contents bytes => simp [mapError_eq_ok_iff, Layer.ofDocument_eq_ok_iff]

theorem fileLayer_of_missing (missing : settingsFile? environment files = none) :
    fileLayer environment files = .ok [] := by
  rw [fileLayer, missing]

/-- A configuration is loaded if there are both layers, and if it is read of them and valid. -/
theorem load_eq_ok_iff {config : CacheConfig} : load environment files = .ok config ↔
    ∃ upper lower, Environment.layer? environment = some upper ∧ fileLayer environment files = .ok lower ∧
      ofLayer (Layer.merge lower upper) = .ok config ∧ config.validate = .ok () := by
  rw [load]
  cases Environment.layer? environment with
  | none => simp
  | some upper =>
    simp only [bind_eq_ok_iff, mapError_eq_ok_iff]
    constructor
    · rintro ⟨lower, file, read, merged, _, valid, made⟩
      cases made
      exact ⟨upper, lower, rfl, file, merged, valid⟩
    · rintro ⟨_, lower, same, file, merged, valid⟩
      cases same
      exact ⟨lower, file, config, merged, (), valid, rfl⟩

theorem validate_of_load {config : CacheConfig} (loaded : load environment files = .ok config) :
    config.validate = .ok () := by
  obtain ⟨_, _, _, _, _, valid⟩ := load_eq_ok_iff.mp loaded
  exact valid

/-- Without a variable the default configuration is loaded. -/
theorem load_nil (files : Files) : load [] files = .ok {} := by
  have layered : Environment.layer? [] = some [] := by simp [Environment.layer?]
  exact load_eq_ok_iff.mpr ⟨[], [], layered, rfl, rfl, by decide⟩

/-- Files of which the same is read under the same variables load the same. -/
theorem load_congr {other : Files} {lower lower' : Layer} (file : fileLayer environment files = .ok lower)
    (file' : fileLayer environment other = .ok lower') (same : ∀ upper ∈ Environment.layer? environment,
      ofLayer (Layer.merge lower upper) = ofLayer (Layer.merge lower' upper)) :
    load environment files = load environment other := by
  rw [load, load, file, file']
  cases found : Environment.layer? environment with
  | none => rfl
  | some upper => simp only [bind, Except.bind, same upper found]

end CacheConfig

end WordCompletion

import WordCompletion.FileTree
import WordCompletion.Proofs.Settings.Variables

/-! # The settings file that is named

A settings file that is found counts: it has to be readable, text and a TOML document, or nothing is loaded, and
the configuration is then read of its settings under those of the variables. A name under which no file is found,
in the working directory or above it, is passed over: the configuration is loaded as if no file had been named, and
nothing is reported.
-/

namespace WordCompletion

/-! ## Faults of a file -/

/-- A settings file has a fault: it cannot be read, or it is no text, or the text is no document. -/
inductive Reading.HasFault : Reading → DocumentFault → Prop
  | unreadable (report : String) : HasFault (.failed report) (.unreadable report)
  | notText {bytes : Bytes} (undecoded : bytes.text? = none) : HasFault (.contents bytes) .notText
  | malformed {bytes : Bytes} {text : String} (decoded : bytes.text? = some text)
      (unparsed : Toml.parse? text = none) : HasFault (.contents bytes) .malformed

theorem Files.find?_eq_none_iff {files : Files} {path : String} :
    files.find? path = none ↔ ∀ place ∈ files.searchPaths path, files.regular? place = none := by
  simp [find?, List.findSome?_eq_none_iff]

/-! ## Variables beside the one that names the file -/

namespace Environment

variable {environment : List (String × String)}

/-- The variables without the one that names the settings file. -/
def withoutFile (environment : List (String × String)) : List (String × String) :=
  environment.filter fun entry => entry.1 ≠ fileVariable

theorem lookup_withoutFile (environment : List (String × String)) :
    (withoutFile environment).lookup fileVariable = none := by
  rw [List.lookup_eq_none_iff]
  intro entry member
  have other : entry.1 ≠ fileVariable := of_decide_eq_true (List.mem_filter.mp member).2
  exact bne_iff_ne.mpr other.symm

theorem layerOf?_fileVariable (text : String) : layerOf? (fileVariable, text) = some [] := by
  have unset : settingPath? fileVariable = none := by decide +kernel
  rw [layerOf?, unset]

/-- There is a layer of the variables if each of them can be read. -/
theorem isSome_layer?_iff : (layer? environment).isSome = true ↔
    ∀ entry ∈ environment, (layerOf? entry).isSome = true := by
  rw [layer?, Entries.foldlM_map_eq]
  split_ifs with all
  · exact iff_of_true rfl all
  · exact iff_of_false (by simp) all

/-- The variable that names the settings file is no setting. -/
theorem layer?_withoutFile (environment : List (String × String)) :
    layer? (withoutFile environment) = layer? environment := by
  rw [layer?, withoutFile, List.foldlM_filter, layer?]
  congr 1
  funext lower entry
  by_cases named : entry.1 = fileVariable
  · obtain ⟨name, text⟩ := entry
    obtain rfl : name = fileVariable := named
    rw [layerOf?_fileVariable]
    simp [Layer.merge]
  · simp [named]

end Environment

namespace CacheConfig

variable {environment : List (String × String)} {files : Files} {path place : String} {reading : Reading}

theorem settingsFile?_of_named (named : environment.lookup Environment.fileVariable = some path) :
    settingsFile? environment files = files.find? path := by
  rw [settingsFile?, named, Option.bind_some]

theorem fileLayer_of_fault (found : settingsFile? environment files = some (place, reading)) {fault : DocumentFault}
    (faulty : reading.HasFault fault) :
    fileLayer environment files = .error (.document (files.nameOf place) fault) := by
  rw [fileLayer, found]
  cases faulty with
  | unreadable report => rfl
  | notText undecoded =>
    simp only [Layer.ofDocument, undecoded]
    rfl
  | malformed decoded unparsed =>
    simp only [Layer.ofDocument, decoded, unparsed]
    rfl

/-- A file that is found counts: the configuration is read of its layer under that of the variables. -/
theorem load_eq_ok_iff_of_found (found : settingsFile? environment files = some (place, reading))
    (config : CacheConfig) :
    load environment files = .ok config ↔ ∃ bytes text entries lower upper, reading = .contents bytes ∧
      bytes.text? = some text ∧ Toml.parse? text = some entries ∧
      Layer.ofToml? (.file (files.nameOf place)) entries = some lower ∧
      Environment.layer? environment = some upper ∧ ofLayer (Layer.merge lower upper) = .ok config ∧
      config.validate = .ok () := by
  simp only [load_eq_ok_iff, fileLayer_eq_ok_iff found]
  constructor
  · rintro ⟨upper, lower, layered, ⟨bytes, text, entries, read, decoded, parsed, made⟩, merged, valid⟩
    exact ⟨bytes, text, entries, lower, upper, read, decoded, parsed, made, layered, merged, valid⟩
  · rintro ⟨bytes, text, entries, lower, upper, read, decoded, parsed, made, layered, merged, valid⟩
    exact ⟨upper, lower, layered, ⟨bytes, text, entries, read, decoded, parsed, made⟩, merged, valid⟩

/-- Variables that can be read do not keep a fault of the file from being reported. -/
theorem load_of_fault (found : settingsFile? environment files = some (place, reading)) {fault : DocumentFault}
    (faulty : reading.HasFault fault) (readable : (Environment.layer? environment).isSome = true) :
    load environment files = .error (.document (files.nameOf place) fault) := by
  obtain ⟨upper, layered⟩ := Option.isSome_iff_exists.mp readable
  rw [load, layered, fileLayer_of_fault found faulty]
  rfl

theorem load_of_missing (missing : settingsFile? environment files = none) :
    load environment files = load (Environment.withoutFile environment) files := by
  have unnamed : settingsFile? (Environment.withoutFile environment) files = none := by
    rw [settingsFile?, Environment.lookup_withoutFile, Option.bind_none]
  rw [load, load, Environment.layer?_withoutFile, fileLayer_of_missing missing, fileLayer_of_missing unnamed]

/-- Under a name for the settings file a configuration is loaded only of a file that is found, can be read, is text
and a TOML document and gives the layer below the variables; a file that cannot be read, is no text or no document
is reported, whatever variables that can be read stand beside the name. But if no file is found in any of the
places where it is looked for, the load ends as if none had been named. -/
theorem load_namedFile (named : environment.lookup Environment.fileVariable = some path) :
    (∀ place reading, files.find? path = some (place, reading) →
      (∀ config, load environment files = .ok config ↔ ∃ bytes text entries lower upper,
        reading = .contents bytes ∧ bytes.text? = some text ∧ Toml.parse? text = some entries ∧
        Layer.ofToml? (.file (files.nameOf place)) entries = some lower ∧
        Environment.layer? environment = some upper ∧ ofLayer (Layer.merge lower upper) = .ok config ∧
        config.validate = .ok ()) ∧
      ∀ fault, reading.HasFault fault → (Environment.layer? environment).isSome = true →
        load environment files = .error (.document (files.nameOf place) fault)) ∧
    ((∀ place ∈ files.searchPaths path, files.regular? place = none) →
      load environment files = load (Environment.withoutFile environment) files) := by
  refine ⟨fun place reading found => ?_, fun missing => ?_⟩
  · rw [← settingsFile?_of_named named] at found
    exact ⟨load_eq_ok_iff_of_found found, fun fault => load_of_fault found⟩
  · rw [← Files.find?_eq_none_iff, ← settingsFile?_of_named named] at missing
    exact load_of_missing missing

/-- A key without a value makes no document, and a file may be there and not be readable; a variable with a good
value does not help. Without the file the variable counts alone. -/
theorem load_namedFile_faults :
    let environment := [("WORDCACHE_CONFIG_FILE", "c.toml"), ("WORDCACHE_MIN_WORD_LEN", "5")]
    let files := (FileTree.ofTexts ["work"] [("c.toml", "min_word_len")]).files
    let denied := "Permission denied (os error 13)"
    let locked := FileTree.files ⟨["home", "work"], [(["home", "c.toml"], .file (.regular (.failed denied)))]⟩
    let bare := (FileTree.ofTexts ["work"] []).files
    environment.lookup Environment.fileVariable = some "c.toml" ∧
      files.find? "c.toml" = some ("/work/c.toml", .contents (.ofText "min_word_len")) ∧
      load environment files = .error (.document "c.toml" .malformed) ∧
      locked.find? "c.toml" = some ("/home/c.toml", .failed denied) ∧
      load environment locked = .error (.document "../c.toml" (.unreadable denied)) ∧
      (∀ place ∈ bare.searchPaths "c.toml", bare.regular? place = none) ∧
      load environment bare = load [("WORDCACHE_MIN_WORD_LEN", "5")] bare := by
  intro environment files denied locked bare
  have named : environment.lookup Environment.fileVariable = some "c.toml" := by decide
  have readable : (Environment.layer? environment).isSome = true := by
    rw [Environment.isSome_layer?_iff, List.forall_mem_cons, List.forall_mem_singleton]
    decide +kernel
  have found : files.find? "c.toml" = some ("/work/c.toml", .contents (.ofText "min_word_len")) := by
    decide +kernel
  have decoded : (Bytes.ofText "min_word_len").text? = some "min_word_len" := by decide +kernel
  have unparsed : Toml.parse? "min_word_len" = none := by decide +kernel
  have found' : locked.find? "c.toml" = some ("/home/c.toml", .failed denied) := by decide +kernel
  have missing : ∀ place ∈ bare.searchPaths "c.toml", bare.regular? place = none := by decide +kernel
  obtain ⟨counts, _⟩ := @load_namedFile environment files "c.toml" named
  obtain ⟨counts', _⟩ := @load_namedFile environment locked "c.toml" named
  obtain ⟨_, passed⟩ := @load_namedFile environment bare "c.toml" named
  obtain ⟨_, reported⟩ := counts _ _ found
  obtain ⟨_, reported'⟩ := counts' _ _ found'
  exact ⟨named, found, reported _ (.malformed decoded unparsed) readable, found', reported' _ (.unreadable _) readable,
    missing, passed missing⟩

/-- A file that is named but missing is passed over, and the default configuration is loaded. -/
theorem load_missingFile :
    let environment := [("WORDCACHE_CONFIG_FILE", "missing.toml")]
    let files := (FileTree.ofTexts ["work"] []).files
    environment.lookup Environment.fileVariable = some "missing.toml" ∧
      (∀ place ∈ files.searchPaths "missing.toml", files.entry place = .absent) ∧
      load environment files = .ok {} := by
  intro environment files
  have missing : settingsFile? environment files = none := by decide +kernel
  refine ⟨rfl, by decide +kernel, ?_⟩
  rw [load_of_missing missing]
  exact load_nil files

end CacheConfig

end WordCompletion

import WordCompletion.Files
import WordCompletion.Settings.Basic
import WordCompletion.Toml.Document

/-! # Settings in a file

A settings file is a TOML document. Integers in it are signed, and a date or a time counts as an empty
table, for none of the program's settings is one. Two keys are special in every table but the document
itself: a table with the one stands for the value under it, and no table may have the other.
-/

namespace WordCompletion

/-- The key of the value that a table stands for. -/
def standInKey : String := "___figment_value_value"

/-- The key that no table may have. -/
def reservedKey : String := "___figment_value_id"

/-- The setting that a table of settings gives, unless it has the reserved key. -/
def Setting.ofTable? (source : Source) (entries : Layer) : Option Setting :=
  if (entries.lookup reservedKey).isSome then none
  else some ((entries.lookup standInKey).getD (.table source entries))

mutual

/-- The setting that a value of a document gives. -/
def Setting.ofToml? (source : Source) : Toml → Option Setting
  | .text value => some (.scalar source (.text value))
  | .integer value => some (.scalar source (.signed value))
  | .float value => some (.scalar source (.float value))
  | .bool value => some (.scalar source (.flag value))
  | .moment => some (.table source [])
  | .array items => (settingsOfToml? source items).map (.list source)
  | .table entries => (Layer.ofToml? source entries).bind (Setting.ofTable? source)

/-- The settings that the items of an array give. -/
def settingsOfToml? (source : Source) : List Toml → Option (List Setting)
  | [] => some []
  | item :: rest => do
    let setting ← Setting.ofToml? source item
    return setting :: (← settingsOfToml? source rest)

/-- The settings that the entries of a table give. -/
def Layer.ofToml? (source : Source) : List (String × Toml) → Option (List (String × Setting))
  | [] => some []
  | (key, value) :: rest => do
    let setting ← Setting.ofToml? source value
    return (key, setting) :: (← Layer.ofToml? source rest)

end

/-- Why a settings file gives no layer. -/
inductive DocumentFault where
  /-- The file cannot be read, for the reason that the system reports. -/
  | unreadable (report : String)
  /-- The file is not text in UTF-8. -/
  | notText
  /-- The text is no TOML document. -/
  | malformed
  /-- A table in the document has the reserved key. -/
  | reserved
deriving DecidableEq, Repr

/-- The layer of a settings file. -/
def Layer.ofDocument (name : String) (contents : Bytes) : Except DocumentFault Layer :=
  match contents.text? with
  | none => .error .notText
  | some text =>
    match Toml.parse? text with
    | none => .error .malformed
    | some entries =>
      match Layer.ofToml? (.file name) entries with
      | none => .error .reserved
      | some layer => .ok layer

end WordCompletion

import WordCompletion.Settings.Literal
import WordCompletion.Text.Lowercase

/-! # Settings in the environment

A variable whose name starts with `WORDCACHE_`, in any case, gives the setting at the path that the
rest of its name spells: two underscores or a point go one table deeper, and case does not count. The
variable that names the settings file gives none. Blanks around a name or around its rest do not count.
Variables are taken in the order in which the environment holds them, and later ones merge over earlier ones.
-/

namespace WordCompletion.Environment

/-- What the names of variables with settings start with. -/
def leadingName : List Char := "WORDCACHE_".toList

/-- The name of the variable that names the settings file, which is read in this case only. -/
def fileVariable : String := "WORDCACHE_CONFIG_FILE"

/-- The rest of a name with the leading part, in any case. -/
def afterLeadingName? (name : List Char) : Option (List Char) :=
  if (name.take leadingName.length).map Char.toUpper = leadingName then
    some (name.drop leadingName.length)
  else none

/-- The parts of a name between pairs of underscores and points. -/
def nameParts : List Char → List (List Char)
  | [] => [[]]
  | '_' :: '_' :: rest => [] :: nameParts rest
  | '.' :: rest => [] :: nameParts rest
  | char :: rest =>
    match nameParts rest with
    | [] => [[char]]
    | part :: parts => (char :: part) :: parts

/-- The path of the setting that a variable gives. -/
def settingPath? (name : String) : Option (List String) := do
  let rest ← afterLeadingName? (Text.trimBlank name.toList)
  if rest.map Char.toLower = "config_file".toList then none
  else
    let parts := nameParts (Text.lowercaseAll (Text.trimBlank rest))
    if parts.contains [] then none else some (parts.map String.ofList)

/-- A layer with one setting, in a table for each name before the last. -/
def nest (setting : Setting) : List String → Layer
  | [] => []
  | [key] => [(key, setting)]
  | key :: path => [(key, .table .environment (nest setting path))]

/-- The layer of one variable, which is empty when the variable gives no setting; none when its text
cannot be read. -/
def layerOf? (entry : String × String) : Option Layer :=
  match settingPath? entry.1 with
  | some path => (Literal.parse? entry.2).map fun setting => nest setting path
  | none => some []

/-- The layer of all variables, if each of them can be read. -/
def layer? (entries : List (String × String)) : Option Layer :=
  entries.foldlM (fun lower entry => (layerOf? entry).map (Layer.merge lower)) []

end WordCompletion.Environment

import WordCompletion.Json.Number
import WordCompletion.Json.Quoted
import WordCompletion.Json.Reader
import WordCompletion.Match
import WordCompletion.Options
import WordCompletion.Query

/-! # JSON forms of queries, options and rows

A record is read from an object by the names of its fields, or from an array by their order. Unknown
members of an object are skipped, a repeated field is an error, and an array must not be longer than
the list of fields. A row is tagged by its tier; it is written with the tag first and read with its
members in any order.
-/

namespace WordCompletion

namespace Json

/-- Note the value of a member under its key: a known field may have only one value. -/
def noteField? (names : List String) (found : List (String × Json)) (key : String) (value : Json) :
    Option (List (String × Json)) :=
  if key ∈ names then
    if (found.lookup key).isSome then none else some (found ++ [(key, value)])
  else some found

/-- The members with a known key, if every key spells a text and no known one is repeated. -/
def knownFields? (names : List String) (members : List (List StringUnit × Json)) :
    Option (List (String × Json)) :=
  members.foldlM (fun found (key, value) => do
    noteField? names found (String.ofList (← textOf? key)) value) []

/-- The values of the named fields of a record, absent ones included. -/
def fields? (names : List String) : Json → Option (String → Option Json)
  | .object members => (knownFields? names members).map fun found name => found.lookup name
  | .array items =>
    if names.length < items.length then none else some fun name => (names.zip items).lookup name
  | _ => none

/-- The value of a field, or its default if it is absent. -/
def orDefault {α : Type} (read : Json → Option α) (default : α) : Option Json → Option α
  | some value => read value
  | none => some default

/-- The deepest nesting of a value that a tagged record may hold. -/
def maxTaggedDepth : Nat := 127

end Json

namespace Query

/-- Read a query; only its last field has a default. -/
def ofJson? (json : Json) : Option Query := do
  let field ← json.fields? ["word", "sym", "limitless"]
  let word ← (← field "word").text?
  let sym ← (← field "sym").text?
  let limitless ← Json.orDefault Json.bool? false (field "limitless")
  return { word, sym, limitless }

end Query

namespace MatchOptions

/-- Read match options, each field with its default. -/
def ofJson? (json : Json) : Option MatchOptions := do
  let defaults : MatchOptions := {}
  let field ← json.fields? ["exact_matches", "fuzzy_cutoff", "look_ahead", "max_results"]
  let exactMatches ← Json.orDefault Json.unsigned? defaults.exactMatches (field "exact_matches")
  let fuzzyCutoff ← Json.orDefault Json.float? defaults.fuzzyCutoff (field "fuzzy_cutoff")
  let lookAhead ← Json.orDefault Json.unsigned? defaults.lookAhead (field "look_ahead")
  let maxResults ← Json.orDefault Json.unsigned? defaults.maxResults (field "max_results")
  return { exactMatches, fuzzyCutoff, lookAhead, maxResults }

end MatchOptions

namespace CacheConfig

/-- Read a configuration, each field with its default. -/
def ofJson? (json : Json) : Option CacheConfig := do
  let defaults : CacheConfig := {}
  let field ← json.fields? ["match_options", "min_word_len", "deadline_ms"]
  let matchOptions ←
    Json.orDefault MatchOptions.ofJson? defaults.matchOptions (field "match_options")
  let minWordLen ← Json.orDefault Json.unsigned? defaults.minWordLen (field "min_word_len")
  let deadlineMs ← Json.orDefault Json.unsigned? defaults.deadlineMs (field "deadline_ms")
  return { matchOptions, minWordLen, deadlineMs }

end CacheConfig

namespace Match

/-- The fields of a row of the tier with this tag. -/
def fieldsOfTier? (tag : String) : Option (List String) :=
  match tag with
  | "primary" => some ["word"]
  | "backup" => some ["word", "sort_key"]
  | _ => none

/-- The row of the tier with this tag, from its fields. -/
def ofFields? (tag : String) (field : String → Option Json) : Option Match := do
  let word ← (← field "word").text?
  match tag with
  | "primary" => return .primary word
  | "backup" => return .backup word (← (← field "sort_key").text?)
  | _ => none

/-- Read a row. Everything in it must be meaningful, and the tag is the member `tier` of an object or
the first item of an array. -/
def ofJson? (json : Json) : Option Match :=
  if json.isMeaningful = false ∨ Json.maxTaggedDepth < json.depth then none
  else
    match json with
    | .object members => do
      let tag ← (← (← Json.knownFields? ["tier"] members).lookup "tier").text?
      let found ← Json.knownFields? (← fieldsOfTier? tag) members
      ofFields? tag fun name => found.lookup name
    | .array (tier :: items) => do
      let tag ← tier.text?
      let field ← Json.fields? (← fieldsOfTier? tag) (.array items)
      ofFields? tag field
    | _ => none

/-- The one-line form of a row: its tier, its word and, for a backup row, its sort key. -/
def toJsonText : Match → String
  | .primary word =>
    String.ofList ("\x7b\"tier\":\"primary\",\"word\":".toList ++ Json.quote word.toList ++ ['}'])
  | .backup word key =>
    String.ofList ("\x7b\"tier\":\"backup\",\"word\":".toList ++ Json.quote word.toList ++
      ",\"sort_key\":".toList ++ Json.quote key.toList ++ ['}'])

end Match

end WordCompletion

import WordCompletion.Proofs.Entries
import WordCompletion.Proofs.Json.Reader
import WordCompletion.Proofs.Text.Lines

/-! # Rows as lines of JSON

A row is written as one line, and the line is read back as the row. Reading goes by the keys: the tag and the
fields of its tier may stand anywhere among members of other keys, but none of them may come twice. The key of a
field that only the other tier has is such another key. Main statement: `Match.jsonText_decodes`.
-/

namespace WordCompletion

namespace Json

variable {names : List String} {members : List (List StringUnit × Json)} {entries : List (String × Scalar)}

/-! ## Known fields -/

/-- What is read of a member whose key is a text. -/
structure RepresentsField (field : String × Json) (entry : String × Scalar) : Prop where
  key : field.1 = entry.1
  value : Represents field.2 entry.2

/-- The known fields, if none of their keys comes twice. -/
def noted? (names : List String) (fields : List (String × Json)) : Option (List (String × Json)) :=
  if ((fields.map Prod.fst).filter (· ∈ names)).Nodup then some (fields.filter (·.1 ∈ names)) else none

theorem nodup_filter_iff {keys : List String} :
    (keys.filter (· ∈ names)).Nodup ↔ ∀ key ∈ names, keys.count key ≤ 1 := by
  rw [List.nodup_iff_count_le_one]
  constructor
  · intro atMost key known
    have once := atMost key
    rwa [List.count_filter (by simpa using known)] at once
  · intro once key
    by_cases known : key ∈ names
    · rw [List.count_filter (by simpa using known)]
      exact once key known
    · rw [List.count_eq_zero_of_not_mem (by simp [known])]
      exact Nat.zero_le 1

theorem isSome_lookup_iff {found : List (String × Json)} {key : String} :
    (found.lookup key).isSome = true ↔ key ∈ found.map Prod.fst := by
  simp [List.lookup_isSome_iff]

/-- Fields are noted one by one behind those that have been found. -/
theorem foldlM_noteField? (names : List String) (fields : List (String × Json)) {found : List (String × Json)}
    (distinct : (found.map Prod.fst).Nodup) :
    fields.foldlM (fun found field => noteField? names found field.1 field.2) found =
      if (found.map Prod.fst ++ (fields.map Prod.fst).filter (· ∈ names)).Nodup then
        some (found ++ fields.filter (·.1 ∈ names))
      else none := by
  induction fields generalizing found with
  | nil => simpa using distinct
  | cons field rest ih =>
    obtain ⟨key, value⟩ := field
    rw [List.foldlM_cons, List.map_cons]
    by_cases known : key ∈ names
    · by_cases taken : key ∈ found.map Prod.fst
      · have refused : noteField? names found key value = none := by
          rw [noteField?, if_pos known, if_pos (isSome_lookup_iff.mpr taken)]
        have repeated : ¬ (found.map Prod.fst ++ (key :: rest.map Prod.fst).filter (· ∈ names)).Nodup := by
          intro distinct
          exact List.disjoint_of_nodup_append distinct taken (by simp [known])
        rw [refused, if_neg repeated]
        rfl
      · have noted : noteField? names found key value = some (found ++ [(key, value)]) := by
          rw [noteField?, if_pos known, if_neg (isSome_lookup_iff.not.mpr taken)]
        have fresh : ((found ++ [(key, value)]).map Prod.fst).Nodup := by
          rw [List.map_append, List.nodup_append_comm]
          exact List.nodup_cons.mpr ⟨taken, distinct⟩
        rw [noted, Option.bind_eq_bind, Option.bind_some, ih fresh]
        simp [known]
    · have skipped : noteField? names found key value = some found := if_neg known
      rw [skipped, Option.bind_eq_bind, Option.bind_some, ih distinct]
      simp [known]

/-- The keys of members that are read spell texts, so that only known keys that come twice are refused. -/
theorem exists_fields (represents : List.Forall₂ RepresentsMember members entries) :
    ∃ fields, List.Forall₂ RepresentsField fields entries ∧
      ∀ names, knownFields? names members = noted? names fields := by
  -- all that is left to show is that the keys decode, whatever has been found before them
  suffices decoded : ∃ fields, List.Forall₂ RepresentsField fields entries ∧ ∀ names found,
      members.foldlM (fun found member => do
        noteField? names found (String.ofList (← textOf? member.1)) member.2) found =
      fields.foldlM (fun found field => noteField? names found field.1 field.2) found by
    obtain ⟨fields, represents, noted⟩ := decoded
    refine ⟨fields, represents, fun names => ?_⟩
    exact (noted names []).trans (@foldlM_noteField? names fields [] List.nodup_nil)
  induction represents with
  | nil => exact ⟨[], .nil, fun _ _ => rfl⟩
  | @cons member entry _ _ head _ ih =>
    obtain ⟨units, value⟩ := member
    obtain ⟨fields, represents, noted⟩ := ih
    have decoded : textOf? units = some entry.1.toList := head.key
    refine ⟨(entry.1, value) :: fields, .cons ⟨rfl, head.value⟩ represents, fun names found => ?_⟩
    rw [List.foldlM_cons, List.foldlM_cons]
    simp only [noted]
    simp only [decoded, Option.bind_eq_bind, Option.bind_some, String.ofList_toList]

section Fields

variable {fields : List (String × Json)} (represents : List.Forall₂ RepresentsField fields entries)
include represents

theorem map_fst_of_represents : fields.map Prod.fst = entries.map Prod.fst := by
  induction represents with
  | nil => rfl
  | cons head _ ih => rw [List.map_cons, List.map_cons, head.key, ih]

theorem exists_mem_of_represents {key : String} {value : Scalar} (member : (key, value) ∈ entries) :
    ∃ json, (key, json) ∈ fields ∧ Represents json value := by
  induction represents with
  | nil => exact absurd member List.not_mem_nil
  | @cons field _ _ _ head _ ih =>
    obtain ⟨name, json⟩ := field
    rcases List.mem_cons.mp member with rfl | member
    · obtain rfl : name = key := head.key
      exact ⟨json, List.mem_cons_self .., head.value⟩
    · obtain ⟨json, inside, value⟩ := ih member
      exact ⟨json, List.mem_cons_of_mem _ inside, value⟩

/-- Where no known key comes twice, every known field is found. -/
theorem exists_noted? (once : ∀ key ∈ names, (entries.map Prod.fst).count key ≤ 1) :
    ∃ found, noted? names fields = some found ∧ ∀ key ∈ names, ∀ value, (key, value) ∈ entries →
      ∃ json, found.lookup key = some json ∧ Represents json value := by
  rw [← map_fst_of_represents represents, ← nodup_filter_iff] at once
  refine ⟨fields.filter (·.1 ∈ names), if_pos once, fun key known value member => ?_⟩
  obtain ⟨json, inside, read⟩ := exists_mem_of_represents represents member
  rw [List.filter_map] at once
  refine ⟨json, (Entries.lookup_eq_some_iff once).mpr ?_, read⟩
  exact List.mem_filter.mpr ⟨inside, decide_eq_true known⟩

/-- A known key that comes twice is refused. -/
theorem noted?_of_repeated {key : String} (known : key ∈ names) (repeated : 2 ≤ (entries.map Prod.fst).count key) :
    noted? names fields = none := by
  apply if_neg
  rw [nodup_filter_iff, map_fst_of_represents represents]
  intro once
  have atMost := once key known
  omega

end Fields

/-! ## Written strings -/

theorem le_of_mem_escape (char : Char) : ∀ written ∈ escape char, 0x20 ≤ written.toNat := by
  have hex : ∀ value < 16, 0x20 ≤ (hexChar value).toNat := by decide
  unfold escape
  split
  case h_8 =>
    split_ifs with control
    · simp only [List.forall_mem_cons, List.not_mem_nil, false_implies, implies_true, and_true]
      exact ⟨by decide, by decide, by decide, by decide, hex _ (by omega), hex _ (by omega)⟩
    · simpa using Nat.not_lt.mp control
  all_goals simp

/-- What is written of a text has no characters below the space. -/
theorem le_of_mem_quote (text : List Char) : ∀ written ∈ quote text, 0x20 ≤ written.toNat := by
  simp only [quote, List.forall_mem_cons, List.forall_mem_append, List.forall_mem_flatMap]
  exact ⟨⟨by decide, fun char _ => le_of_mem_escape char⟩, by simp⟩

end Json

/-! ## Rows -/

namespace Match

variable {row : Match} {entries : List (String × Json.Scalar)} {text : String}

/-- Read a row from a text. -/
def ofJsonText? (text : String) : Option Match := (Json.parse? text).bind ofJson?

theorem fieldsOfTier?_tag (row : Match) : fieldsOfTier? row.tag = some (row.fields.map Prod.fst) := by
  cases row <;> rfl

/-- The fields of a row are read back from values that stand for them. -/
theorem ofFields?_of_represents {field : String → Option Json}
    (read : ∀ key value, (key, value) ∈ row.fields → ∃ json, field key = some json ∧ json.Represents value) :
    ofFields? row.tag field = some row := by
  cases row with
  | primary word =>
    obtain ⟨json, found, represents⟩ := read "word" (.text word) (by simp [fields])
    have text : json.text? = some word := represents.text
    simp [ofFields?, tag, found, text]
  | backup word sortKey =>
    obtain ⟨json, found, represents⟩ := read "word" (.text word) (by simp [fields])
    obtain ⟨json', found', represents'⟩ := read "sort_key" (.text sortKey) (by simp [fields])
    have text : json.text? = some word := represents.text
    have text' : json'.text? = some sortKey := represents'.text
    simp [ofFields?, tag, found, text, found', text']

/-- A text that spells an object with the tag of a row is read by its known fields alone, and only if the tag
comes once. -/
theorem exists_ofJsonText?_eq (spelled : Json.SpellsObject entries text.toList)
    (tagged : ("tier", .text row.tag) ∈ entries) :
    ∃ fields, List.Forall₂ Json.RepresentsField fields entries ∧
      ofJsonText? text = if (entries.map Prod.fst).count "tier" ≤ 1 then
          (Json.noted? (row.fields.map Prod.fst) fields).bind fun found => ofFields? row.tag (found.lookup ·)
        else none := by
  obtain ⟨members, read, represents⟩ := Json.exists_parse? spelled
  obtain ⟨fields, fieldwise, noted⟩ := Json.exists_fields represents
  obtain ⟨flat, meaningful⟩ := Json.object_of_represents represents
  have accepted : ¬ ((Json.object members).isMeaningful = false ∨
      Json.maxTaggedDepth < (Json.object members).depth) := by
    simp [Json.isMeaningful, Json.depth, flat, meaningful, Json.maxTaggedDepth]
  refine ⟨fields, fieldwise, ?_⟩
  rw [ofJsonText?, read, Option.bind_some, ofJson?, if_neg accepted]
  simp only [noted]
  split_ifs with once
  · have single : ∀ key ∈ ["tier"], (entries.map Prod.fst).count key ≤ 1 := by simpa using once
    obtain ⟨found, tier, looked⟩ := Json.exists_noted? fieldwise single
    obtain ⟨json, named, represents⟩ := looked "tier" (by simp) _ tagged
    have tag : json.text? = some row.tag := represents.text
    simp only [tier, named, tag, fieldsOfTier?_tag, Option.bind_eq_bind, Option.bind_some]
  · have refused : Json.noted? ["tier"] fields = none :=
      Json.noted?_of_repeated fieldwise (List.mem_singleton.mpr rfl) (by omega)
    rw [refused]
    rfl

/-- An object is read as a row if its known members are those of the row. -/
theorem ofJsonText?_of_perm (spelled : Json.SpellsObject entries text.toList)
    (given : (entries.filter (·.1 ∈ row.keys)).Perm row.members) : ofJsonText? text = some row := by
  have distinct : row.keys.Nodup := by cases row <;> simp [keys, members, fields]
  have once : ∀ key ∈ row.keys, (entries.map Prod.fst).count key ≤ 1 := by
    rw [← Json.nodup_filter_iff, List.filter_map]
    exact (given.map Prod.fst).nodup_iff.mpr distinct
  have inside : ∀ entry ∈ row.members, entry ∈ entries :=
    fun entry member => List.mem_of_mem_filter (given.mem_iff.mpr member)
  obtain ⟨fields, represents, read⟩ := exists_ofJsonText?_eq spelled (inside _ (List.mem_cons_self ..))
  obtain ⟨found, noted, looked⟩ :=
    Json.exists_noted? represents fun key known => once key (List.mem_cons_of_mem _ known)
  rw [read, if_pos (once "tier" (List.mem_cons_self ..)), noted, Option.bind_some]
  apply ofFields?_of_represents
  intro key value member
  exact looked key (List.mem_map_of_mem member) value (inside _ (List.mem_cons_of_mem _ member))

/-- An object with the tag of a row is read as nothing if a key of the row comes twice. -/
theorem ofJsonText?_of_repeated (spelled : Json.SpellsObject entries text.toList)
    (tagged : ("tier", .text row.tag) ∈ entries) {key : String} (known : key ∈ row.keys)
    (repeated : 2 ≤ (entries.map Prod.fst).count key) : ofJsonText? text = none := by
  obtain ⟨fields, represents, read⟩ := exists_ofJsonText?_eq spelled tagged
  rw [read]
  split_ifs with once
  · rcases List.mem_cons.mp known with (rfl : key = "tier") | field
    · omega
    · rw [Json.noted?_of_repeated represents field repeated]
      rfl
  · rfl

/-- A row is read back from the line that is written of it. -/
theorem ofJsonText?_toJsonText (row : Match) : ofJsonText? row.toJsonText = some row := by
  have own : row.members.filter (·.1 ∈ row.keys) = row.members :=
    List.filter_eq_self.mpr fun entry member => decide_eq_true (List.mem_map_of_mem member)
  exact ofJsonText?_of_perm (spellsObject_toJsonText row) (.of_eq own)

theorem isPlain_toJsonText (row : Match) : IsPlain row.toJsonText := by
  cases row with
  | primary word =>
    rw [IsPlain, show (primary word).toJsonText.toList = _ from String.toList_ofList, List.forall_mem_append,
      List.forall_mem_append]
    exact ⟨⟨show IsPlain _ by decide, Json.le_of_mem_quote _⟩, by simp⟩
  | backup word key =>
    rw [IsPlain, show (backup word key).toJsonText.toList = _ from String.toList_ofList]
    simp only [List.forall_mem_append]
    exact ⟨⟨⟨⟨show IsPlain _ by decide, Json.le_of_mem_quote _⟩, show IsPlain _ by decide⟩,
      Json.le_of_mem_quote _⟩, by simp⟩

/-- Rows and their texts: each row is read back from its text, which has no characters below the space; the lines of
what is printed of some rows are their texts; no two rows have the same text. And whatever spells an object is read as
a row if its known members are those of the row, in any order and among any others, while nothing is read of an object
with the tag of the row in which a key of the row comes twice. -/
theorem jsonText_decodes :
    (∀ row : Match, ofJsonText? row.toJsonText = some row ∧ ∀ char ∈ row.toJsonText.toList, 0x20 ≤ char.toNat) ∧
      (∀ rows : List Match, Bytes.lines (.ofText (printedText (rows.map toJsonText))) =
        rows.map fun row => Bytes.ofText row.toJsonText) ∧
      Function.Injective toJsonText ∧
      ∀ (row : Match) (entries : List (String × Json.Scalar)) (text : String),
        Json.SpellsObject entries text.toList →
          ((entries.filter (·.1 ∈ row.keys)).Perm row.members → ofJsonText? text = some row) ∧
          (("tier", .text row.tag) ∈ entries → (∃ key ∈ row.keys, 2 ≤ (entries.map Prod.fst).count key) →
            ofJsonText? text = none) := by
  refine ⟨fun row => ⟨ofJsonText?_toJsonText row, isPlain_toJsonText row⟩, fun rows => ?_, fun first second same => ?_,
    fun row entries text spelled => ⟨ofJsonText?_of_perm spelled, fun tagged ⟨key, known, repeated⟩ =>
      ofJsonText?_of_repeated spelled tagged known repeated⟩⟩
  · rw [Bytes.lines_printedText (List.forall_mem_map.mpr fun row _ => isPlain_toJsonText row), List.map_map]
    rfl
  · have read := ofJsonText?_toJsonText first
    rw [same, ofJsonText?_toJsonText second] at read
    exact (Option.some_inj.mp read).symm

/-- The key of the other tier may come twice and have any value, the key of the own tier may not; a pair of
surrogates and white space do no harm. -/
theorem jsonText_decodes_sortKey :
    let text := "\x7b\"sort_key\" : -9223372036854775808,\"word\":\"\\ud83D\\uDE00\"," ++
      "\"sort_key\":null,\"tier\":\"primary\"\x7d\n"
    let entries : List (String × Json.Scalar) :=
      [("sort_key", .integer (-9223372036854775808)), ("word", .text "😀"), ("sort_key", .null),
        ("tier", .text "primary")]
    let text' := "\x7b\"sort_key\":null,\"sort_key\":\"b\",\"word\":\"a\",\"tier\":\"backup\"\x7d"
    let entries' : List (String × Json.Scalar) :=
      [("sort_key", .null), ("sort_key", .text "b"), ("word", .text "a"), ("tier", .text "backup")]
    Json.SpellsObject entries text.toList ∧
      (entries.filter (·.1 ∈ (primary "😀").keys)).Perm (primary "😀").members ∧
      ofJsonText? text = some (primary "😀") ∧
      Json.SpellsObject entries' text'.toList ∧ ("tier", .text (backup "a" "b").tag) ∈ entries' ∧
      (∃ key ∈ (backup "a" "b").keys, 2 ≤ (entries'.map Prod.fst).count key) ∧
      ofJsonText? text' = none := by
  intro text entries text' entries'
  have smile : Json.SpellsString "😀" "\"\\ud83D\\uDE00\"".toList := by
    have upper : Json.HexNumber 0xD83D ['d', '8', '3', 'D'] :=
      @Json.HexNumber.digits 13 8 3 13 'd' '8' '3' 'D' (by decide) (by decide) (by decide) (by decide)
    have lower : Json.HexNumber 0xDE00 ['D', 'E', '0', '0'] :=
      @Json.HexNumber.digits 13 14 0 0 'D' 'E' '0' '0' (by decide) (by decide) (by decide) (by decide)
    exact @Json.SpellsString.quoted "😀" _ (.cons (.pair (by decide) upper lower) .nil)
  have spaced := @Json.SpellsMember.spaced "sort_key" _ _ _ [] [' '] [' '] [] (Json.spellsString_quote "sort_key")
    (@Json.SpellsScalar.negative 9223372036854775808 (by decide)) (by decide)
  have spelled : Json.SpellsObject entries text.toList := by
    have word := Json.spellsMember_compact "word" (.text smile)
    have sortKey := Json.spellsMember_compact "sort_key" .null
    have tier := Json.spellsMember_compact "tier" (Json.spellsScalar_quote "primary")
    have object := @Json.SpellsObject.braces _ [] _ ['\n'] (by decide)
      (.cons spaced (.cons word (.cons sortKey (.last tier))))
    convert object using 1
    · rfl
    · decide
  have spelled' : Json.SpellsObject entries' text'.toList := by
    have null := Json.spellsMember_compact "sort_key" .null
    have sortKey := Json.spellsMember_compact "sort_key" (Json.spellsScalar_quote "b")
    have word := Json.spellsMember_compact "word" (Json.spellsScalar_quote "a")
    have tier := Json.spellsMember_compact "tier" (Json.spellsScalar_quote "backup")
    have object := @Json.SpellsObject.braces _ [] _ [] (by decide)
      (.cons null (.cons sortKey (.cons word (.last tier))))
    convert object using 1
    decide
  have given : (entries.filter (·.1 ∈ (primary "😀").keys)).Perm (primary "😀").members := by decide
  have tagged : ("tier", .text (backup "a" "b").tag) ∈ entries' := by decide
  have repeated : ∃ key ∈ (backup "a" "b").keys, 2 ≤ (entries'.map Prod.fst).count key := by decide
  obtain ⟨_, _, _, read⟩ := jsonText_decodes
  exact ⟨spelled, given, (read (primary "😀") entries text spelled).1 given, spelled', tagged, repeated,
    (read (backup "a" "b") entries' text' spelled').2 tagged repeated⟩

end Match

end WordCompletion

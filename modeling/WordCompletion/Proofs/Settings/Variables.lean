import WordCompletion.Proofs.Entries
import WordCompletion.Proofs.Settings.Fields

/-! # Fields of the configuration in their variables

Each field has a variable of its own, and an environment whose settings are all given by these variables, each
of them once, has a layer that gives exactly what they give, whatever their order. If the text of one of them
is cut inside a character, there is no layer.
-/

namespace WordCompletion

/-! ## The variables of the fields -/

namespace ConfigField

/-- The variable that gives the field. -/
def variableName : ConfigField → String
  | .exactMatches => "WORDCACHE_MATCH_OPTIONS__EXACT_MATCHES"
  | .fuzzyCutoff => "WORDCACHE_MATCH_OPTIONS__FUZZY_CUTOFF"
  | .lookAhead => "WORDCACHE_MATCH_OPTIONS__LOOK_AHEAD"
  | .maxResults => "WORDCACHE_MATCH_OPTIONS__MAX_RESULTS"
  | .minWordLen => "WORDCACHE_MIN_WORD_LEN"
  | .deadlineMs => "WORDCACHE_DEADLINE_MS"

theorem settingPath?_variableName (field : ConfigField) :
    Environment.settingPath? field.variableName = some field.path := by
  cases field <;> decide +kernel

theorem path_injective {field other : ConfigField} (same : field.path = other.path) : field = other := by
  apply key_injective
  unfold path at same
  split_ifs at same <;> simp_all

theorem variableName_injective {field other : ConfigField}
    (same : field.variableName = other.variableName) : field = other := by
  apply path_injective
  apply Option.some.inj
  rw [← settingPath?_variableName, ← settingPath?_variableName, same]

/-- The setting that the variables give for the field. -/
def inVariables? (field : ConfigField) (environment : List (String × String)) : Option Setting :=
  (environment.lookup field.variableName).bind Literal.parse?

theorem inVariables?_cons_of_ne {field : ConfigField} {name : String} (other : field.variableName ≠ name)
    (text : String) (rest : List (String × String)) :
    field.inVariables? ((name, text) :: rest) = field.inVariables? rest := by
  rw [inVariables?, List.lookup_cons, beq_false_of_ne other, inVariables?]

theorem inVariables?_cons_self (field : ConfigField) (text : String) (rest : List (String × String)) :
    field.inVariables? ((field.variableName, text) :: rest) = Literal.parse? text := by
  rw [inVariables?, List.lookup_cons, beq_self_eq_true]
  rfl

theorem lookup_eq_none_of_inVariables? {field : ConfigField} {environment : List (String × String)}
    (readable : ∀ text, environment.lookup field.variableName = some text → Literal.parse? text ≠ none)
    (unset : field.inVariables? environment = none) : environment.lookup field.variableName = none := by
  cases set : environment.lookup field.variableName with
  | none => rfl
  | some text =>
    rw [inVariables?, set] at unset
    exact absurd unset (readable text set)

theorem inVariables?_of_not_mem {field : ConfigField} {environment : List (String × String)}
    (absent : field.variableName ∉ environment.map Prod.fst) : field.inVariables? environment = none := by
  have unset : environment.lookup field.variableName = none := by
    rw [List.lookup_eq_none_iff]
    intro entry member
    exact bne_iff_ne.mpr fun same => absent (List.mem_map.mpr ⟨entry, member, same.symm⟩)
  rw [inVariables?, unset]
  rfl

end ConfigField

namespace Environment

open ConfigField

/-- Every variable occurs once, and those that give settings are the variables of the fields. -/
structure OfFields (environment : List (String × String)) : Prop where
  distinct : (environment.map Prod.fst).Nodup
  fields : ∀ name ∈ environment.map Prod.fst, settingPath? name ≠ none →
    ∃ field : ConfigField, name = field.variableName

/-! ## The layer of one variable -/

theorem nest_path (setting : Setting) (field : ConfigField) : nest setting field.path =
    if field.isOption then [(optionsKey, .table .environment [(field.key, setting)])]
    else [(field.key, setting)] := by
  unfold path
  split_ifs <;> rfl

theorem lookup_nest_of_not_isOption (setting : Setting) {field : ConfigField} (root : field.isOption = false) :
    List.lookup optionsKey (nest setting field.path) = none := by
  rw [nest_path, root, if_neg Bool.false_ne_true, Layer.lookup_cons, if_neg field.key_ne_optionsKey.symm]
  rfl

theorem lookup_nest_of_isOption (setting : Setting) {field : ConfigField} (option : field.isOption = true) :
    List.lookup optionsKey (nest setting field.path) = some (.table .environment [(field.key, setting)]) := by
  rw [nest_path, option, if_pos rfl, Layer.lookup_cons, if_pos rfl]

theorem holdsTable_nest (setting : Setting) (field : ConfigField) :
    Layer.HoldsTable optionsKey (nest setting field.path) := by
  intro found member
  cases place : field.isOption with
  | false => simp [lookup_nest_of_not_isOption setting place] at member
  | true =>
    rw [lookup_nest_of_isOption setting place] at member
    exact ⟨_, _, (Option.some.inj member).symm⟩

theorem distinct_nest (setting : Setting) (field : ConfigField) :
    Layer.Distinct optionsKey (nest setting field.path) where
  root := by
    rw [nest_path]
    split_ifs <;> exact List.nodup_singleton _
  table := by
    cases place : field.isOption with
    | false =>
      rw [Layer.tableAt_of_none (lookup_nest_of_not_isOption setting place)]
      exact List.nodup_nil
    | true =>
      rw [Layer.tableAt_of_table (lookup_nest_of_isOption setting place)]
      exact List.nodup_singleton _

theorem inLayer?_nest (setting : Setting) (field other : ConfigField) :
    other.inLayer? (nest setting field.path) = if other = field then some setting else none := by
  have same : other.key = field.key ↔ other = field := ⟨key_injective, congrArg key⟩
  unfold inLayer?
  cases place : field.isOption with
  | false =>
    rw [Layer.tableAt_of_none (lookup_nest_of_not_isOption setting place), nest_path, place]
    split_ifs <;> simp_all [Layer.lookup_cons]
  | true =>
    rw [Layer.tableAt_of_table (lookup_nest_of_isOption setting place), nest_path, place]
    split_ifs <;> simp_all [Layer.lookup_cons, key_ne_optionsKey]

/-! ## The layer of all variables -/

variable {environment : List (String × String)}

theorem layerOf?_variable (field : ConfigField) (text : String) :
    layerOf? (field.variableName, text) = (Literal.parse? text).map fun setting => nest setting field.path := by
  rw [layerOf?, settingPath?_variableName]

theorem OfFields.of_cons {entry : String × String} (names : OfFields (entry :: environment)) :
    entry.1 ∉ environment.map Prod.fst ∧ OfFields environment := by
  obtain ⟨fresh, distinct⟩ := List.nodup_cons.mp names.distinct
  exact ⟨fresh, distinct, fun name member => names.fields name (List.mem_cons_of_mem _ member)⟩

/-- Variables that merge one after the other over a layer give their fields, and leave the others. -/
theorem foldl_merge (names : OfFields environment) {lower : Layer} (holds : lower.HoldsTable optionsKey)
    (distinct : lower.Distinct optionsKey) :
    let upper := (environment.filterMap layerOf?).foldl Layer.merge lower
    upper.HoldsTable optionsKey ∧ upper.Distinct optionsKey ∧ ∀ field : ConfigField,
      field.inLayer? upper = Setting.merge? (field.inLayer? lower) (field.inVariables? environment) := by
  -- Each variable is merged before the rest, so that it is part of the lower layer for them.
  induction environment generalizing lower with
  | nil =>
    refine ⟨holds, distinct, fun field => ?_⟩
    simp only [List.filterMap_nil, List.foldl_nil, inVariables?, List.lookup_nil, Option.bind_none]
    cases field.inLayer? lower <;> rfl
  | cons entry rest ih =>
    obtain ⟨name, text⟩ := entry
    obtain ⟨fresh, others⟩ := names.of_cons
    cases spelled : settingPath? name with
    | none =>
      have nothing : layerOf? (name, text) = some [] := by rw [layerOf?, spelled]
      have other : ∀ field : ConfigField, field.variableName ≠ name := by
        rintro field rfl
        simp [settingPath?_variableName] at spelled
      simp only [List.filterMap_cons, nothing, List.foldl_cons, Layer.merge]
      obtain ⟨holds', distinct', fields⟩ := ih others holds distinct
      exact ⟨holds', distinct', fun field => by rw [fields, inVariables?_cons_of_ne (other field)]⟩
    | some path =>
      obtain ⟨field, rfl⟩ := names.fields name (List.mem_cons_self ..) (by simp [spelled])
      have unset := inVariables?_of_not_mem fresh
      cases read : Literal.parse? text with
      | none =>
        have skipped : layerOf? (field.variableName, text) = none := by rw [layerOf?_variable, read]; rfl
        simp only [List.filterMap_cons, skipped]
        obtain ⟨holds', distinct', fields⟩ := ih others holds distinct
        refine ⟨holds', distinct', fun other => ?_⟩
        rw [fields]
        by_cases same : other = field
        · rw [same, unset, inVariables?_cons_self, read]
        · rw [inVariables?_cons_of_ne fun named => same (variableName_injective named)]
      | some setting =>
        have layer : layerOf? (field.variableName, text) = some (nest setting field.path) := by
          rw [layerOf?_variable, read]
          rfl
        simp only [List.filterMap_cons, layer, List.foldl_cons]
        have above := holdsTable_nest setting field
        have once := distinct_nest setting field
        obtain ⟨holds', distinct', fields⟩ :=
          ih others (Layer.holdsTable_merge holds above once.root) (distinct.merge holds above once)
        refine ⟨holds', distinct', fun other => ?_⟩
        rw [fields, inLayer?_merge holds above once, inLayer?_nest]
        by_cases same : other = field
        · rw [same, unset, inVariables?_cons_self, read, if_pos rfl]
          rfl
        · rw [inVariables?_cons_of_ne fun named => same (variableName_injective named), if_neg same]
          rfl

/-- A variable cannot be read if it is that of a field and its text is cut inside a character. -/
theorem exists_layerOf?_eq_none_iff (names : OfFields environment) :
    (∃ entry ∈ environment, layerOf? entry = none) ↔
      ∃ field text, environment.lookup (variableName field) = some text ∧ Literal.parse? text = none := by
  constructor
  · rintro ⟨⟨name, text⟩, member, unread⟩
    cases spelled : settingPath? name with
    | none => simp [layerOf?, spelled] at unread
    | some path =>
      obtain ⟨field, rfl⟩ := names.fields name (List.mem_map_of_mem member) (by simp [spelled])
      rw [layerOf?_variable, Option.map_eq_none_iff] at unread
      exact ⟨field, text, (Entries.lookup_eq_some_iff names.distinct).mpr member, unread⟩
  · rintro ⟨field, text, set, unread⟩
    refine ⟨_, (Entries.lookup_eq_some_iff names.distinct).mp set, ?_⟩
    rw [layerOf?_variable, unread, Option.map_none]

/-- The layer of the variables, in whatever order they come: there is none if one of them cannot be read. -/
theorem layer?_cases (names : OfFields environment) :
    (layer? environment = none ∧ ∃ field text, environment.lookup (variableName field) = some text ∧
      Literal.parse? text = none) ∨
    ∃ upper, layer? environment = some upper ∧ upper.HoldsTable optionsKey ∧ upper.Distinct optionsKey ∧
      (∀ field : ConfigField, field.inLayer? upper = field.inVariables? environment) ∧
      ∀ field text, environment.lookup (variableName field) = some text → Literal.parse? text ≠ none := by
  have unread := exists_layerOf?_eq_none_iff names
  rw [layer?, Entries.foldlM_map_eq]
  by_cases all : ∀ entry ∈ environment, (layerOf? entry).isSome = true
  · right
    have noTable : Layer.HoldsTable optionsKey [] := fun setting found => by simp at found
    have noKeys : Layer.Distinct optionsKey [] := ⟨List.nodup_nil, List.nodup_nil⟩
    obtain ⟨holds, distinct, fields⟩ := foldl_merge names noTable noKeys
    refine ⟨_, if_pos all, holds, distinct, fun field => ?_, fun field text set unreadable => ?_⟩
    · rw [fields, inLayer?_nil, Setting.merge?_none]
    · obtain ⟨entry, member, none⟩ := unread.mpr ⟨field, text, set, unreadable⟩
      simpa [none] using all entry member
  · left
    refine ⟨if_neg all, unread.mp ?_⟩
    push Not at all
    obtain ⟨entry, member, none⟩ := all
    exact ⟨entry, member, by simpa using none⟩

end Environment

end WordCompletion

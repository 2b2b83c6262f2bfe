import WordCompletion.Binary64.Basic

/-! # Settings and their layers

A layer is a table of settings by name, and a setting remembers where it was given. Layers merge from
the lowest to the highest: a table merges key by key with a table below it, and any other setting
takes the place of what is below. Main statements: the setting under a key of a merged layer.
-/

namespace WordCompletion

/-- Where a setting was given. -/
inductive Source where
  | environment
  | file (name : String)
deriving DecidableEq, Repr

/-- A setting without parts. -/
inductive Scalar where
  | text (value : String)
  | flag (value : Bool)
  | unsigned (value : UInt64)
  | signed (value : Int64)
  | float (value : Binary64)
deriving DecidableEq, Repr

/-- A setting with its source. -/
inductive Setting where
  | scalar (source : Source) (value : Scalar)
  | list (source : Source) (items : List Setting)
  | table (source : Source) (entries : List (String × Setting))
deriving Repr

/-- Settings by name. -/
abbrev Layer := List (String × Setting)

namespace Layer

/-- Change the setting under a key, or put a new one at the end. -/
def change (key : String) (next : Option Setting → Setting) : Layer → Layer
  | [] => [(key, next none)]
  | (name, setting) :: rest =>
    if name = key then (name, next (some setting)) :: rest else (name, setting) :: change key next rest

/-- Put a setting under a key, in the place of one that is there. -/
def put (layer : Layer) (key : String) (setting : Setting) : Layer :=
  layer.change key fun _ => setting

theorem lookup_cons (key name : String) (setting : Setting) (rest : Layer) :
    List.lookup name ((key, setting) :: rest) =
      if name = key then some setting else rest.lookup name := by
  by_cases same : name = key
  · simp [same]
  · simp [List.lookup_cons, same, beq_false_of_ne same]

theorem lookup_change (key name : String) (next : Option Setting → Setting) (layer : Layer) :
    (layer.change key next).lookup name =
      if name = key then some (next (layer.lookup name)) else layer.lookup name := by
  induction layer with
  | nil => simp [change, lookup_cons]
  | cons entry rest ih =>
    obtain ⟨first, setting⟩ := entry
    by_cases found : first = key
    · subst found
      by_cases same : name = first <;> simp [change, lookup_cons, same]
    · by_cases same : name = first
      · subst same
        simp [change, found]
      · simp [change, found, lookup_cons, same, ih]

end Layer

mutual

/-- A setting over a lower one. -/
def Setting.merge : Setting → Setting → Setting
  | .table _ lower, .table source upper => .table source (Layer.merge lower upper)
  | _, upper => upper

/-- The settings of a layer over those of a lower one. -/
def Layer.merge (lower : Layer) : Layer → Layer
  | [] => lower
  | (key, upper) :: rest =>
    Layer.merge (Layer.change key (fun
      | some below => below.merge upper
      | none => upper) lower) rest

end

/-- The setting of a key that only one of two layers gives is the one given; of two settings the upper
merges over the lower. -/
def Setting.merge? : Option Setting → Option Setting → Option Setting
  | lower, none => lower
  | none, some upper => some upper
  | some lower, some upper => some (lower.merge upper)

namespace Layer

/-- The keys of a layer. -/
def keys (layer : Layer) : List String := layer.map (·.1)

theorem lookup_merge {upper : Layer} (distinct : upper.keys.Nodup) (lower : Layer) (name : String) :
    (Layer.merge lower upper).lookup name = Setting.merge? (lower.lookup name) (upper.lookup name) := by
  induction upper generalizing lower with
  | nil => cases found : lower.lookup name <;> simp [Layer.merge, Setting.merge?, found]
  | cons entry rest ih =>
    obtain ⟨key, setting⟩ := entry
    simp only [keys, List.map_cons, List.nodup_cons] at distinct
    rw [Layer.merge, ih distinct.2, lookup_change, lookup_cons]
    by_cases same : name = key
    · subst same
      have absent : rest.lookup name = none := by
        rw [List.lookup_eq_none_iff]
        intro entry member
        simp only [bne_iff_ne, ne_eq]
        rintro rfl
        exact distinct.1 (List.mem_map_of_mem member)
      cases found : lower.lookup name <;> simp [absent, Setting.merge?]
    · simp [same]

end Layer

end WordCompletion

import WordCompletion.Binary64.Basic

/-! # TOML values

The values of a TOML document. Of a date or a time only that it is one is kept.
-/

namespace WordCompletion

/-- A value of a TOML document. -/
inductive Toml where
  | text (value : String)
  | integer (value : Int64)
  | float (value : Binary64)
  | bool (value : Bool)
  | moment
  | array (items : List Toml)
  | table (entries : List (String × Toml))
deriving Repr

namespace Toml

mutual

/-- Whether two values are equal. -/
def same : Toml → Toml → Bool
  | .text value, .text other => value = other
  | .integer value, .integer other => value = other
  | .float value, .float other => value = other
  | .bool value, .bool other => value = other
  | .moment, .moment => true
  | .array items, .array others => sameItems items others
  | .table entries, .table others => sameEntries entries others
  | _, _ => false

/-- Whether two lists of items are equal. -/
def sameItems : List Toml → List Toml → Bool
  | [], [] => true
  | item :: items, other :: others => item.same other && sameItems items others
  | _, _ => false

/-- Whether two tables have equal entries in the same order. -/
def sameEntries : List (String × Toml) → List (String × Toml) → Bool
  | [], [] => true
  | (key, value) :: entries, (name, other) :: others =>
    key = name && value.same other && sameEntries entries others
  | _, _ => false

end

mutual

theorem same_eq_true_iff : (value other : Toml) → (value.same other = true ↔ value = other)
  | .text _, other | .integer _, other | .float _, other | .bool _, other | .moment, other => by
    cases other <;> simp [same]
  | .array items, other => by
    cases other <;> simp [same, sameItems_eq_true_iff items]
  | .table entries, other => by
    cases other <;> simp [same, sameEntries_eq_true_iff entries]

theorem sameItems_eq_true_iff : (items others : List Toml) → (sameItems items others = true ↔ items = others)
  | [], others => by
    cases others <;> simp [sameItems]
  | item :: items, others => by
    cases others <;> simp [sameItems, same_eq_true_iff item, sameItems_eq_true_iff items]

theorem sameEntries_eq_true_iff :
    (entries others : List (String × Toml)) → (sameEntries entries others = true ↔ entries = others)
  | [], others => by
    cases others <;> simp [sameEntries]
  | (_, value) :: entries, others => by
    cases others <;>
      simp [sameEntries, Prod.ext_iff, same_eq_true_iff value, sameEntries_eq_true_iff entries]

end

instance : DecidableEq Toml := fun value other => decidable_of_iff _ (same_eq_true_iff value other)

end Toml

end WordCompletion

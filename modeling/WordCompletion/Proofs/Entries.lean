import Mathlib.Data.List.Nodup

/-! # Lists of entries

Variables and settings come as lists: of names with what they stand for, or of items that are read one after the
other until one cannot be. Under distinct names the order of a list does not matter to what a name stands for.
Items that can all be read can as well be read before any of them is used.
-/

namespace WordCompletion.Entries

variable {Name Value : Type} [BEq Name] [LawfulBEq Name] {name : Name} {entries : List (Name × Value)}

theorem lookup_eq_some_iff (distinct : (entries.map Prod.fst).Nodup) {value : Value} :
    entries.lookup name = some value ↔ (name, value) ∈ entries := by
  induction entries with
  | nil => simp
  | cons entry rest ih =>
    obtain ⟨first, found⟩ := entry
    obtain ⟨fresh, distinct⟩ := List.nodup_cons.mp distinct
    by_cases same : name = first
    · subst same
      have absent : (name, value) ∉ rest := fun member => fresh (List.mem_map.mpr ⟨_, member, rfl⟩)
      simp [absent, eq_comm]
    · rw [List.lookup_cons, beq_false_of_ne same, ih distinct]
      simp [same]

/-! ## Reading entries -/

/-- What is read one after the other can as well be read first, if all of it can be read. -/
theorem foldlM_map_eq {State Item : Type} (read? : Item → Option Value) (use : State → Value → State)
    (state : State) (items : List Item) : items.foldlM (fun state item => (read? item).map (use state)) state =
      if ∀ item ∈ items, (read? item).isSome = true then some ((items.filterMap read?).foldl use state)
      else none := by
  induction items generalizing state with
  | nil => simp
  | cons item rest ih =>
    rw [List.foldlM_cons]
    cases found : read? item with
    | none => simp [found]
    | some value => simp [found, ih]

end WordCompletion.Entries

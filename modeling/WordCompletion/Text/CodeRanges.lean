/-! # Ranges of code points

A character class is an ascending list of inclusive ranges of code points. Membership walks the list
and stops at the first range that lies above the code point; for an ascending list this is the same
as lying in one of the ranges, which is the main statement.
-/

namespace WordCompletion.Text

/-- Inclusive ranges of code points, each as its first and last member. -/
abbrev CodeRanges := List (Nat × Nat)

namespace CodeRanges

/-- Every range is non-empty and lies above the ranges before it. -/
def Ascending : CodeRanges → Prop
  | [] => True
  | (first, last) :: rest =>
    first ≤ last ∧ (∀ next ∈ rest.head?, last < next.1) ∧ Ascending rest

instance decidableAscending : (ranges : CodeRanges) → Decidable ranges.Ascending
  | [] => .isTrue trivial
  | (first, last) :: rest =>
    haveI := decidableAscending rest
    haveI : Decidable (∀ next ∈ rest.head?, last < next.1) := by
      cases rest with
      | nil => exact .isTrue (by simp)
      | cons head _ => exact decidable_of_iff (last < head.1) (by simp)
    inferInstanceAs (Decidable (first ≤ last ∧ (∀ next ∈ rest.head?, last < next.1) ∧ Ascending rest))

/-- The code point lies in one of the ranges. -/
def Covers (ranges : CodeRanges) (code : Nat) : Prop :=
  ∃ range ∈ ranges, range.1 ≤ code ∧ code ≤ range.2

/-- Membership in an ascending list of ranges. -/
def contains : CodeRanges → Nat → Bool
  | [], _ => false
  | (first, last) :: rest, code =>
    if code < first then false else code ≤ last || contains rest code

theorem Ascending.lt_of_mem {first last : Nat} {rest : CodeRanges}
    (ascending : Ascending ((first, last) :: rest)) : ∀ range ∈ rest, last < range.1 := by
  induction rest generalizing first last with
  | nil => simp
  | cons head tail ih =>
    obtain ⟨_, below, ordered⟩ := ascending
    have step : last < head.1 := below head (by simp)
    intro range member
    rcases List.mem_cons.mp member with rfl | inTail
    · exact step
    · have beyond := @ih head.1 head.2 ordered range inTail
      have nonempty : head.1 ≤ head.2 := ordered.1
      omega

/-- On an ascending list the walk finds exactly the covered code points. -/
theorem contains_iff {ranges : CodeRanges} (ascending : ranges.Ascending) (code : Nat) :
    ranges.contains code = true ↔ ranges.Covers code := by
  induction ranges with
  | nil => simp [contains, Covers]
  | cons head rest ih =>
    obtain ⟨first, last⟩ := head
    have above := ascending.lt_of_mem
    have nonempty : first ≤ last := ascending.1
    have inner := ih ascending.2.2
    by_cases before : code < first
    · simp only [contains, before, if_true, Covers, List.mem_cons]
      constructor
      · simp
      · rintro ⟨range, rfl | member, low, _⟩
        · exact absurd low (by simpa using before)
        · have := above range member
          omega
    · simp only [contains, before, if_false, Bool.or_eq_true, decide_eq_true_eq, inner, Covers,
        List.mem_cons, exists_eq_or_imp]
      constructor
      · rintro (inside | found)
        · exact .inl ⟨by omega, inside⟩
        · exact .inr found
      · rintro (⟨_, inside⟩ | found)
        · exact .inl inside
        · exact .inr found

end CodeRanges

end WordCompletion.Text

import Mathlib.Order.Bounds.Basic
import WordCompletion.Proofs.Text.MaximalRuns
import WordCompletion.Proofs.WordSet
import WordCompletion.Proofs.Words

/-! # Where the words of a text occur

A word occurs where a maximal run of word characters spells it; the same characters inside a longer run are
no occurrence. Main statement: the words of a text are those that occur in it and are long enough, no word
twice, in the order of their first occurrences.
-/

namespace WordCompletion

/-- A word of the text starts at a position. -/
def OccursAt (text word : String) (position : ℕ) : Prop :=
  Text.IsRunAt isWordChar text.toList word.toList position

variable {text word : String} {minimum : ℕ}

theorem mem_wordsOf_iff_occursAt :
    word ∈ wordsOf text minimum ↔ max minimum 1 ≤ word.toList.length ∧ ∃ position, OccursAt text word position := by
  rw [mem_wordsOf, Text.mem_runs_iff]
  constructor
  · rintro ⟨⟨position, occurs⟩, long⟩
    have positive := List.length_pos_iff.mpr occurs.ne_nil
    exact ⟨by omega, position, occurs⟩
  · rintro ⟨long, occurs⟩
    exact ⟨occurs, by omega⟩

/-! ## First occurrences -/

/-- Where a list of the kept members can be cut, the whole list can. -/
private theorem exists_split_of_filter {items before after : List (List Char)} {item : List Char}
    {test : List Char → Bool} (kept : items.filter test = before ++ item :: after) :
    ∃ earlier later, items = earlier ++ item :: later ∧ earlier.filter test = before := by
  obtain ⟨front, rest, rfl, rfl, remaining⟩ := List.filter_eq_append_iff.mp kept
  obtain ⟨skipped, later, rfl, dropped, _, _⟩ := List.filter_eq_cons_iff.mp remaining
  refine ⟨front ++ skipped, later, by simp, ?_⟩
  rw [List.filter_append, List.filter_eq_nil_iff.mpr dropped, List.append_nil]

/-- Of two words of a text the one that is listed first is a run before which neither is one. -/
theorem pairwise_wordsOf (text : String) (minimum : ℕ) :
    (wordsOf text minimum).toList.Pairwise fun first second => ∃ earlier later,
      Text.runs isWordChar text.toList = earlier ++ first.toList :: later ∧ first.toList ∉ earlier ∧
        second.toList ∉ earlier := by
  refine List.Pairwise.imp_of_mem ?_ (WordSet.pairwise_ofList _)
  rintro first second firstMember secondMember ⟨before, after, listed, fresh, later⟩
  obtain ⟨front, rest, kept, rfl, others⟩ := List.map_eq_append_iff.mp listed
  obtain ⟨run, others, rfl, rfl, _⟩ := List.map_eq_cons_iff.mp others
  obtain ⟨earlier, remaining, split, rfl⟩ := exists_split_of_filter kept
  -- what is left out of the list is too short to be one of the two
  have absent : ∀ word ∈ wordsOf text minimum, word ∉ (earlier.filter (minimum ≤ ·.length)).map String.ofList →
      word.toList ∉ earlier := by
    intro word member missing early
    refine missing (List.mem_map.mpr ⟨word.toList, List.mem_filter.mpr ⟨early, ?_⟩, by simp⟩)
    simpa using (mem_wordsOf.mp member).2
  exact ⟨earlier, remaining, by simpa using split, absent _ firstMember fresh, absent _ secondMember later⟩

/-- No occurrence starts before a run whose word is not among the earlier ones. -/
theorem le_of_occursAt {front run back : List Char} (split : text.toList = front ++ run ++ back)
    (maximal : Text.MaximalRun isWordChar front run back) (fresh : word.toList ∉ Text.runs isWordChar front)
    {position : ℕ} (occurs : OccursAt text word position) : front.length ≤ position := by
  by_contra earlier
  rw [List.append_assoc] at split
  exact fresh (occurs.mem_runs_of_lt split maximal.stopsBefore (not_le.mp earlier))

/-- One word starts at a position. -/
theorem OccursAt.word_unique {other : String} {position : ℕ} (occurs : OccursAt text word position)
    (others : OccursAt text other position) : word = other := by
  obtain ⟨front, back, split, rfl, maximal⟩ := occurs
  obtain ⟨before, after, whole, same, second⟩ := others
  have wholes : front ++ (word.toList ++ back) = before ++ (other.toList ++ after) := by
    rw [← List.append_assoc, ← List.append_assoc, ← split, whole]
  obtain ⟨rfl, _⟩ := List.append_inj wholes same.symm
  have runs := maximal.runs_eq
  rw [← split, whole, second.runs_eq] at runs
  exact (String.toList_injective (List.cons.inj (List.append_cancel_left runs)).1).symm

theorem exists_isLeast_occursAt (occurs : ∃ position, OccursAt text word position) :
    ∃ position, IsLeast {start | OccursAt text word start} position := by
  classical
  exact ⟨Nat.find occurs, Nat.find_spec occurs, fun _ => Nat.find_min' occurs⟩

/-- The words of a text are those that occur in it as maximal runs of word characters and have the least
number of characters, at least one. None is listed twice, and they are in the order in which they first occur. -/
theorem wordsOf_occurrences (text : String) (minimum : ℕ) :
    (wordsOf text minimum).toList.Nodup ∧
      (∀ word, word ∈ wordsOf text minimum ↔
        max minimum 1 ≤ word.toList.length ∧ ∃ position, OccursAt text word position) ∧
      (wordsOf text minimum).toList.Pairwise fun first second => ∃ position other,
        IsLeast {start | OccursAt text first start} position ∧ IsLeast {start | OccursAt text second start} other ∧
          position < other := by
  refine ⟨(wordsOf text minimum).nodup, fun word => mem_wordsOf_iff_occursAt, ?_⟩
  refine List.Pairwise.imp_of_mem ?_ ((pairwise_wordsOf text minimum).and (wordsOf text minimum).nodup)
  rintro first second _ secondMember ⟨⟨earlier, later, found, fresh, absent⟩, distinct⟩
  obtain ⟨front, back, split, maximal, rfl, _⟩ := Text.exists_maximalRun_of_runs_eq found
  have occurs : OccursAt text first front.length := ⟨front, back, split, rfl, maximal⟩
  obtain ⟨other, least⟩ := exists_isLeast_occursAt (mem_wordsOf_iff_occursAt.mp secondMember).2
  refine ⟨front.length, other, ⟨occurs, fun start => le_of_occursAt split maximal fresh⟩, least, ?_⟩
  have after : front.length ≤ other := le_of_occursAt split maximal absent least.1
  refine lt_of_le_of_ne after ?_
  rintro rfl
  exact distinct (occurs.word_unique least.1)

/-- What stands inside a longer run does not count as an earlier occurrence. -/
example : (wordsOf "foo_bar, bar; foo bar" 1).toList = ["foo_bar", "bar", "foo"] := by decide +kernel

end WordCompletion

import Mathlib.Data.List.Induction
import Mathlib.Data.Set.Card
import WordCompletion.WordSet

/-! # Word sets as sets

The words of a set in their order of arrival, seen as a set: how many there are, and what one more word or a
list of them adds. A list hands over its words in the order of their first occurrences, and those of them that
pass a test in the same order.
-/

namespace WordCompletion.WordSet

theorem size_eq_ncard {words : WordSet} {stored : Set String} (same : ∀ word, word ∈ words ↔ word ∈ stored) :
    words.size = stored.ncard := by
  have members : stored = words.toList.toFinset := by
    ext word
    rw [← same, List.coe_toFinset, mem_iff]
    rfl
  rw [members, Set.ncard_coe_finset, List.toFinset_card_of_nodup words.nodup, size]

theorem toList_insert {words : WordSet} {added : String} (fresh : added ∉ words) :
    (words.insert added).toList = words.toList ++ [added] := by
  simp [insert, mt mem_iff.mpr fresh]

theorem size_le_insert (words : WordSet) (added : String) : words.size ≤ (words.insert added).size := by
  by_cases present : added ∈ words
  · rw [insert_of_mem present]
  · simp [size, toList_insert present]

theorem ofList_append_singleton (words : List String) (added : String) :
    ofList (words ++ [added]) = (ofList words).insert added := by
  rw [ofList, insertAll_append, insertAll_cons, insertAll_nil, ofList]

/-- Of two words of a list the one that arrives first occurs before the other does. -/
theorem pairwise_ofList (words : List String) : (ofList words).toList.Pairwise fun first second =>
    ∃ before after, words = before ++ first :: after ∧ first ∉ before ∧ second ∉ before := by
  induction words using List.reverseRecOn with
  | nil => exact .nil
  | append_singleton words added ih =>
    have longer := ih.imp fun {first second} ⟨before, after, split, fresh, later⟩ =>
      show ∃ before after, words ++ [added] = before ++ first :: after ∧ first ∉ before ∧ second ∉ before from
        ⟨before, after ++ [added], by simp [split], fresh, later⟩
    rw [ofList_append_singleton]
    by_cases present : added ∈ ofList words
    · rwa [insert_of_mem present]
    · rw [toList_insert present, List.pairwise_append]
      refine ⟨longer, List.pairwise_singleton .., ?_⟩
      intro first member second last
      obtain rfl := List.mem_singleton.mp last
      obtain ⟨before, after, rfl, fresh⟩ := List.eq_append_cons_of_mem (mem_ofList.mp member)
      refine ⟨before, after ++ [second], by simp, fresh, fun early => present ?_⟩
      exact mem_ofList.mpr (List.mem_append_left _ early)

/-- A list adds those of its words that are not there yet, in the order of their first occurrences. -/
theorem toList_insertAll (words : WordSet) (added : List String) :
    (words.insertAll added).toList = words.toList ++ (ofList added).toList.filter (· ∉ words) := by
  induction added using List.reverseRecOn with
  | nil => simp [ofList, empty]
  | append_singleton added last ih =>
    rw [insertAll_append, insertAll_cons, insertAll_nil, ofList_append_singleton]
    by_cases listed : last ∈ ofList added
    · have present : last ∈ words.insertAll added := mem_insertAll.mpr (.inr (mem_ofList.mp listed))
      rw [insert_of_mem present, insert_of_mem listed, ih]
    · rw [toList_insert listed, List.filter_append, ← List.append_assoc, ← ih]
      by_cases stored : last ∈ words
      · have present : last ∈ words.insertAll added := mem_insertAll.mpr (.inl stored)
        simp [insert_of_mem present, stored]
      · have fresh : last ∉ words.insertAll added := by simpa [stored] using listed
        simp [toList_insert fresh, stored]

/-- Words may be tested before repeated ones are dropped or afterwards. -/
theorem toList_ofList_filter (keep : String → Bool) (words : List String) :
    (ofList (words.filter keep)).toList = (ofList words).toList.filter keep := by
  induction words using List.reverseRecOn with
  | nil => rfl
  | append_singleton words last ih =>
    have members : last ∈ ofList (words.filter keep) ↔ last ∈ ofList words ∧ keep last = true := by simp
    rw [List.filter_append, ofList_append_singleton]
    by_cases kept : keep last = true
    · rw [List.filter_cons_of_pos kept, List.filter_nil, ofList_append_singleton]
      by_cases present : last ∈ ofList words
      · rw [insert_of_mem present, insert_of_mem (members.mpr ⟨present, kept⟩), ih]
      · rw [toList_insert present, toList_insert (mt (And.left ∘ members.mp) present), List.filter_append, ih,
          List.filter_cons_of_pos kept, List.filter_nil]
    · rw [List.filter_cons_of_neg kept, List.filter_nil, List.append_nil, ih]
      by_cases present : last ∈ ofList words
      · rw [insert_of_mem present]
      · rw [toList_insert present, List.filter_append, List.filter_cons_of_neg kept, List.filter_nil,
          List.append_nil]

/-- Distinct words stay as they are listed. -/
theorem toList_ofList_of_nodup {words : List String} (distinct : words.Nodup) : (ofList words).toList = words := by
  induction words using List.reverseRecOn with
  | nil => rfl
  | append_singleton words last ih =>
    obtain ⟨front, _, apart⟩ := List.nodup_append.mp distinct
    have fresh : last ∉ ofList words := by
      rw [mem_ofList]
      exact fun early => apart last early last (List.mem_singleton_self last) rfl
    rw [ofList_append_singleton, toList_insert fresh, ih front]

/-- A set is what its own list of words makes. -/
theorem ofList_toList (words : WordSet) : ofList words.toList = words :=
  (WordSet.mk.injEq ..).mpr (toList_ofList_of_nodup words.nodup)

end WordCompletion.WordSet

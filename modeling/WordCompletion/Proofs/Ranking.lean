import Mathlib.Data.Prod.Lex
import Mathlib.Data.Set.Card
import WordCompletion.Lookup
import WordCompletion.Proofs.Text.Utf8Order

/-! # The order of rows is total

Rows are ordered by a key of three parts, the last of which tells any two words apart. Sorting words
by such a key leaves no choice: the result is strictly increasing, depends only on which words there
are, and cutting it keeps the words with the smallest keys. A stricter test leaves out some of the sorted
words and moves none; one that favours small keys leaves their beginning.
-/

namespace WordCompletion

/-! ## Stricter tests -/

theorem filter_eq_filter_filter {α : Type*} {keep other : α → Bool}
    (stricter : ∀ item, keep item = true → other item = true) (items : List α) :
    items.filter keep = (items.filter other).filter keep := by
  rw [List.filter_filter]
  apply List.filter_congr
  intro item _
  rw [Bool.eq_iff_iff, Bool.and_eq_true]
  exact (and_iff_left_of_imp (stricter item)).symm

/-- A test that holds of whatever comes before an item on which it holds keeps the beginning of a list. -/
theorem filter_prefix_of_pairwise {α : Type*} {keep : α → Bool} {items : List α}
    (closed : items.Pairwise fun first second => keep second = true → keep first = true) :
    items.filter keep <+: items := by
  induction items with
  | nil => exact List.prefix_rfl
  | cons head rest ih =>
    obtain ⟨before, others⟩ := List.pairwise_cons.mp closed
    by_cases kept : keep head = true
    · rw [List.filter_cons_of_pos kept, List.prefix_cons_inj]
      exact ih others
    · have dropped : rest.filter keep = [] := by
        rw [List.filter_eq_nil_iff]
        exact fun item member holds => kept (before item member holds)
      rw [List.filter_cons_of_neg kept, dropped]
      exact List.nil_prefix

/-! ## Sorting by a key that tells words apart -/

section Sorting

variable {Key : Type*} [LinearOrder Key] {key : String → Key}

/-- The words in the order of their keys. -/
def sortedBy (key : String → Key) (words : List String) : List String :=
  words.mergeSort fun first second => decide (key first ≤ key second)

theorem sortedBy_perm (key : String → Key) (words : List String) : (sortedBy key words).Perm words :=
  List.mergeSort_perm ..

theorem sortedBy_pairwise_le (key : String → Key) (words : List String) :
    (sortedBy key words).Pairwise fun first second => key first ≤ key second := by
  have sorted : (sortedBy key words).Pairwise fun first second => decide (key first ≤ key second) = true := by
    apply List.pairwise_mergeSort
    · intro first second third below above
      exact decide_eq_true ((of_decide_eq_true below).trans (of_decide_eq_true above))
    · intro first second
      simpa using le_total (key first) (key second)
  exact sorted.imp of_decide_eq_true

/-- Distinct words come in strictly increasing order. -/
theorem sortedBy_pairwise (injective : Function.Injective key) {words : List String} (nodup : words.Nodup) :
    (sortedBy key words).Pairwise fun first second => key first < key second := by
  have distinct : (sortedBy key words).Nodup := (sortedBy_perm key words).nodup_iff.mpr nodup
  exact (sortedBy_pairwise_le key words).imp₂
    (fun _ _ below different => lt_of_le_of_ne below fun same => different (injective same)) distinct

/-- There is one way only to put words in the order of their keys. -/
theorem eq_sortedBy (injective : Function.Injective key) {items words : List String} (perm : items.Perm words)
    (sorted : items.Pairwise fun first second => key first ≤ key second) : items = sortedBy key words := by
  refine List.Perm.eq_of_pairwise ?_ sorted (sortedBy_pairwise_le key words)
    (perm.trans (sortedBy_perm key words).symm)
  intro left right _ _ below above
  exact injective (le_antisymm below above)

/-- The order in which the words are given does not show. -/
theorem sortedBy_eq_of_perm (injective : Function.Injective key) {first second : List String}
    (perm : first.Perm second) : sortedBy key first = sortedBy key second :=
  eq_sortedBy injective ((sortedBy_perm key first).trans perm) (sortedBy_pairwise_le key first)

/-- One more word takes one place, and the others keep their order. -/
theorem exists_sortedBy_append_singleton (injective : Function.Injective key) (words : List String)
    (added : String) : ∃ front back, sortedBy key words = front ++ back ∧
      sortedBy key (words ++ [added]) = front ++ added :: back := by
  have perm := sortedBy_perm key (words ++ [added])
  have sorted := sortedBy_pairwise_le key (words ++ [added])
  have present : added ∈ words ++ [added] := List.mem_append_right _ (List.mem_singleton_self added)
  obtain ⟨front, back, split⟩ := List.append_of_mem (perm.mem_iff.mpr present)
  rw [split] at perm sorted
  refine ⟨front, back, ?_, split⟩
  have others : (front ++ back).Perm words :=
    (List.perm_middle.symm.trans (perm.trans (List.perm_append_singleton added words))).cons_inv
  have rest : (front ++ back).Sublist (front ++ added :: back) := (List.sublist_cons_self added back).append_left front
  exact (eq_sortedBy injective others (sorted.sublist rest)).symm

/-- A word that the cut leaves out has a larger key than every word that it keeps. -/
theorem lt_of_not_mem_take (injective : Function.Injective key) {words : List String} (nodup : words.Nodup)
    {limit : ℕ} {kept left : String} (taken : kept ∈ (sortedBy key words).take limit) (member : left ∈ words)
    (dropped : left ∉ (sortedBy key words).take limit) : key kept < key left := by
  have sorted := sortedBy_pairwise injective nodup
  rw [← List.take_append_drop limit (sortedBy key words)] at sorted
  have present : left ∈ sortedBy key words := (sortedBy_perm key words).mem_iff.mpr member
  rw [← List.take_append_drop limit (sortedBy key words), List.mem_append] at present
  exact (List.pairwise_append.mp sorted).2.2 kept taken left (present.resolve_left dropped)

/-- Words may be left out before sorting or after it. -/
theorem sortedBy_filter (injective : Function.Injective key) (keep : String → Bool) (words : List String) :
    sortedBy key (words.filter keep) = (sortedBy key words).filter keep :=
  (eq_sortedBy injective ((sortedBy_perm key words).filter keep) ((sortedBy_pairwise_le key words).filter keep)).symm

/-- A stricter test sorts fewer words into the same order. -/
theorem sortedBy_filter_sublist (injective : Function.Injective key) {keep other : String → Bool}
    (stricter : ∀ word, keep word = true → other word = true) (words : List String) :
    (sortedBy key (words.filter keep)).Sublist (sortedBy key (words.filter other)) := by
  rw [filter_eq_filter_filter stricter, sortedBy_filter injective]
  exact List.filter_sublist

/-- A stricter test that favours smaller keys keeps the beginning of the sorted words. -/
theorem sortedBy_filter_prefix (injective : Function.Injective key) {keep other : String → Bool}
    (stricter : ∀ word, keep word = true → other word = true)
    (closed : ∀ first second, other first = true → key first ≤ key second → keep second = true → keep first = true)
    (words : List String) : sortedBy key (words.filter keep) <+: sortedBy key (words.filter other) := by
  rw [filter_eq_filter_filter stricter, sortedBy_filter injective]
  apply filter_prefix_of_pairwise
  apply (sortedBy_pairwise_le key (words.filter other)).imp_of_mem
  intro first second member _ below
  exact closed first second (List.mem_filter.mp ((sortedBy_perm key _).mem_iff.mp member)).2 below

end Sorting

/-! ## The key of a row -/

/-- A score, a number of characters and a string of bytes, compared in this order. -/
abbrev RowKey := ℤ ×ₗ ℕ ×ₗ List ℕ

/-- What a row is ordered by: its score, its number of characters before the first NUL, its bytes. -/
def rowKey (score : Binary64) (word : String) : RowKey :=
  toLex (score.position, toLex ((Like.beforeNul word.toList).length, Bytes.codes word))

/-- Words with equal keys are equal, whatever their scores. -/
theorem eq_of_rowKey_eq {first second : Binary64} {left right : String}
    (same : rowKey first left = rowKey second right) : left = right :=
  Bytes.codes_strictMono.injective (Prod.mk.inj (Prod.mk.inj same).2).2

theorem Candidate.le_iff (first second : Candidate) :
    first.le second = true ↔ rowKey first.score first.word ≤ rowKey second.score second.word := by
  have bytes : first.word ≤ second.word ↔ Bytes.codes first.word ≤ Bytes.codes second.word :=
    Bytes.codes_strictMono.le_iff_le.symm
  change first.le second = true ↔
    toLex (first.score.position, toLex (first.visibleLength, Bytes.codes first.word)) ≤
      toLex (second.score.position, toLex (second.visibleLength, Bytes.codes second.word))
  simp only [Candidate.le, Prod.Lex.toLex_le_toLex]
  split_ifs with score length
  · rw [decide_eq_true_iff]
    omega
  · rw [decide_eq_true_iff]
    omega
  · simp only [ne_eq, not_not] at score length
    simp [score, length, bytes]

/-- Ranking scored words sorts them by their keys and cuts the result. -/
theorem rank_map_eq (score : String → Binary64) (words : List String) (limit : ℕ) :
    Candidate.rank (words.map fun word => ⟨score word, word⟩) limit =
      (sortedBy (fun word => rowKey (score word) word) words).take limit := by
  have sorted := List.map_mergeSort (l := words) (f := fun word => Candidate.mk (score word) word)
    (r := fun first second => decide (rowKey (score first) first ≤ rowKey (score second) second))
    (s := Candidate.le) (by
      intro first _ second _
      exact Bool.eq_iff_iff.mpr (by simp [Candidate.le_iff]))
  simp only [Candidate.rank, ← sorted, List.map_take, List.map_map, Function.comp_def, List.map_id', sortedBy]

end WordCompletion

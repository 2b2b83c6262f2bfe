import Mathlib.Algebra.BigOperators.Ring.Finset
import Mathlib.Algebra.Order.Field.Rat
import Mathlib.Data.Multiset.OrderedMonoid
import Mathlib.Data.Multiset.UnionInter
import WordCompletion.Proofs.Score

/-! # What a score compares

The typed text is a bag of lower-case characters, and so is the part of the candidate that counts. The
score is what the larger bag has beyond the characters that the two share, out of all it has: it is least
when the bags are equal and greatest when they share nothing. Main statement: the numerator and the
denominator of every score in terms of the two bags, so that neither the order of the characters typed nor
anything past the window plays a part.
-/

namespace WordCompletion

/-- The characters of a text in lower case, each as often as it occurs. -/
def bag (text : String) : Multiset Char :=
  Text.lowercaseAll text.toList

/-- The number of lower-case characters of a candidate that count. -/
def windowLength (typed : String) (lookAhead : ℕ) : ℕ :=
  (bag typed).card + lookAhead

/-- The lower-case characters of a candidate that count. -/
def window (typed candidate : String) (lookAhead : ℕ) : Multiset Char :=
  (Text.lowercaseAll candidate.toList).take (windowLength typed lookAhead)

/-! ## Bags without their common part -/

theorem coe_leftOver (bag taken : List Char) :
    (leftOver bag taken : Multiset Char) = (bag : Multiset Char) - taken := by
  rw [Multiset.coe_sub, List.diff_eq_foldl, leftOver]

theorem length_leftOver (bag taken : List Char) :
    (leftOver bag taken).length = ((bag : Multiset Char) - taken).card := by
  rw [← coe_leftOver, Multiset.coe_card]

/-- What one bag has beyond the other, and what it shares with it, is all of it. -/
theorem card_sub_add_card_inter (first second : Multiset Char) :
    (first - second).card + (first ∩ second).card = first.card := by
  rw [← Multiset.card_add, Multiset.sub_add_inter]

/-- How many more times a character occurs in one bag than in the other. -/
def balance (first second : Multiset Char) (char : Char) : ℤ :=
  first.count char - second.count char

theorem neg_balance (first second : Multiset Char) (char : Char) :
    -balance first second char = balance second first char :=
  Int.neg_sub ..

/-- What one bag has beyond the other is the sum of the balances in its favour. -/
theorem card_sub_eq_sum_balance (first second : Multiset Char) : ((first - second).card : ℤ) =
    ∑ char ∈ (first + second).toFinset with 0 < balance first second char, balance first second char := by
  have support : (first - second).toFinset =
      (first + second).toFinset.filter fun char => 0 < balance first second char := by
    ext char
    rw [Multiset.mem_toFinset, ← Multiset.count_pos, Multiset.count_sub, Finset.mem_filter,
      Multiset.mem_toFinset, ← Multiset.count_pos, Multiset.count_add, balance]
    omega
  rw [← Multiset.toFinset_sum_count_eq, Nat.cast_sum, support]
  apply Finset.sum_congr rfl
  intro char member
  have favoured := (Finset.mem_filter.mp member).2
  rw [balance] at favoured ⊢
  rw [Multiset.count_sub]
  omega

theorem card_sub_eq_sum_neg_balance (first second : Multiset Char) : ((second - first).card : ℤ) =
    ∑ char ∈ (first + second).toFinset with balance first second char < 0, -balance first second char := by
  rw [card_sub_eq_sum_balance second first, add_comm second first]
  apply Finset.sum_congr
  · apply Finset.filter_congr
    intro char _
    rw [← neg_balance first second]
    omega
  · intro char _
    exact (neg_balance first second char).symm

namespace Score

theorem ext_iff {first second : Score} :
    first = second ↔ first.unmatched = second.unmatched ∧ first.compared = second.compared := by
  constructor
  · rintro rfl
    exact ⟨rfl, rfl⟩
  · cases first
    cases second
    rintro ⟨rfl, rfl⟩
    rfl

/-- The score as a fraction. -/
def ratio (score : Score) : ℚ :=
  score.unmatched / score.compared

theorem ratio_eq_zero_iff (score : Score) : score.ratio = 0 ↔ score.unmatched = 0 := by
  have positive := score.compared_pos
  rw [ratio, div_eq_zero_iff, Nat.cast_eq_zero, Nat.cast_eq_zero]
  omega

theorem ratio_eq_one_iff (score : Score) : score.ratio = 1 ↔ score.unmatched = score.compared := by
  have positive : (score.compared : ℚ) ≠ 0 := Nat.cast_ne_zero.mpr score.compared_pos.ne'
  rw [ratio, div_eq_one_iff_eq positive, Nat.cast_inj]

theorem value_eq_zero_iff {score : Score} (exact : score.compared ≤ Binary64.exactNaturals) :
    score.value = .zero ↔ score.ratio = 0 :=
  (Binary64.ofQuotient_eq_zero_iff exact score.compared_pos score.unmatched_le).trans score.ratio_eq_zero_iff.symm

theorem value_eq_one_iff {score : Score} (exact : score.compared ≤ Binary64.exactNaturals) :
    score.value = .one ↔ score.ratio = 1 :=
  (Binary64.ofQuotient_eq_one_iff exact score.compared_pos score.unmatched_le).trans score.ratio_eq_one_iff.symm

/-! ## The score of two bags -/

/-- The score compares a bag of typed characters with those of a candidate that count. -/
structure Compares (score : Score) (typed window : Multiset Char) : Prop where
  /-- Nothing typed is at no distance. -/
  empty : typed = 0 → score = .zero
  compared : typed ≠ 0 → score.compared = max typed.card window.card
  compared_pos : typed ≠ 0 → 0 < max typed.card window.card
  unmatched : typed ≠ 0 → score.unmatched = max typed.card window.card - (typed ∩ window).card
  /-- The bags share no more than the larger one has. -/
  shared_le : (typed ∩ window).card ≤ max typed.card window.card
  /-- The characters without a partner are the larger of what is missing and what is left over, as
  counting character by character gives them. -/
  balanced : typed ≠ 0 → (score.unmatched : ℤ) =
    max (∑ char ∈ (typed + window).toFinset with 0 < balance typed window char, balance typed window char)
      (∑ char ∈ (typed + window).toFinset with balance typed window char < 0, -balance typed window char)
  ratio_eq_zero : score.ratio = 0 ↔ typed = 0 ∨ typed = window
  ratio_eq_one : score.ratio = 1 ↔ typed ≠ 0 ∧ ∀ char ∈ typed, char ∉ window
  /-- As a number the fraction is rounded. While all naturals up to its denominator are exact, no other
  fraction rounds to zero, nor to one. -/
  value_eq_zero : score.compared ≤ Binary64.exactNaturals →
    (score.value = .zero ↔ typed = 0 ∨ typed = window)
  value_eq_one : score.compared ≤ Binary64.exactNaturals →
    (score.value = .one ↔ typed ≠ 0 ∧ ∀ char ∈ typed, char ∉ window)

theorem card_inter_le (typed window : Multiset Char) : (typed ∩ window).card ≤ max typed.card window.card :=
  (Multiset.card_le_card Multiset.inter_le_left).trans (le_max_left ..)

variable {typed window : List Char}

theorem ofBags_unmatched (nonempty : typed ≠ []) : (ofBags typed window nonempty).unmatched =
    max ((typed : Multiset Char) - window).card ((window : Multiset Char) - typed).card := by
  rw [← length_leftOver, ← length_leftOver, ofBags]

/-- The characters without a partner and those with one make up the larger bag. -/
theorem ofBags_unmatched_add_card_inter (nonempty : typed ≠ []) :
    (ofBags typed window nonempty).unmatched + ((typed : Multiset Char) ∩ window).card =
      (ofBags typed window nonempty).compared := by
  have missing := card_sub_add_card_inter typed window
  have extra := card_sub_add_card_inter window typed
  rw [Multiset.inter_comm] at extra
  rw [Multiset.coe_card] at missing extra
  rw [ofBags_unmatched, ofBags]
  dsimp only
  omega

theorem ofBags_unmatched_eq_zero_iff (nonempty : typed ≠ []) :
    (ofBags typed window nonempty).unmatched = 0 ↔ (typed : Multiset Char) = window := by
  rw [ofBags_unmatched, Nat.max_eq_zero_iff, Multiset.card_eq_zero, Multiset.card_eq_zero, tsub_eq_zero_iff_le,
    tsub_eq_zero_iff_le, ← le_antisymm_iff]

theorem ofBags_unmatched_eq_compared_iff (nonempty : typed ≠ []) :
    (ofBags typed window nonempty).unmatched = (ofBags typed window nonempty).compared ↔
      ∀ char ∈ (typed : Multiset Char), char ∉ (window : Multiset Char) := by
  rw [← ofBags_unmatched_add_card_inter nonempty, Nat.left_eq_add, Multiset.card_eq_zero,
    Multiset.inter_eq_zero_iff_disjoint, Multiset.disjoint_left]

theorem compares_zero (window : Multiset Char) : zero.Compares 0 window where
  empty := fun _ => rfl
  compared := fun nonempty => absurd rfl nonempty
  compared_pos := fun nonempty => absurd rfl nonempty
  unmatched := fun nonempty => absurd rfl nonempty
  shared_le := card_inter_le 0 window
  balanced := fun nonempty => absurd rfl nonempty
  ratio_eq_zero := iff_of_true (zero.ratio_eq_zero_iff.mpr rfl) (.inl rfl)
  ratio_eq_one := iff_of_false (fun one => by simpa [zero] using zero.ratio_eq_one_iff.mp one)
    fun both => both.1 rfl
  value_eq_zero := fun _ => iff_of_true rfl (.inl rfl)
  value_eq_one := fun _ => iff_of_false (by decide) fun both => both.1 rfl

theorem compares_ofBags (nonempty : typed ≠ []) : (ofBags typed window nonempty).Compares typed window := by
  have nonzero : (typed : Multiset Char) ≠ 0 := mt (Multiset.coe_eq_zero typed).mp nonempty
  have total : (ofBags typed window nonempty).compared =
      max (typed : Multiset Char).card (window : Multiset Char).card := by
    rw [Multiset.coe_card, Multiset.coe_card, ofBags]
  have least : (ofBags typed window nonempty).ratio = 0 ↔
      (typed : Multiset Char) = 0 ∨ (typed : Multiset Char) = window := by
    rw [Score.ratio_eq_zero_iff, ofBags_unmatched_eq_zero_iff, or_iff_right nonzero]
  have greatest : (ofBags typed window nonempty).ratio = 1 ↔
      (typed : Multiset Char) ≠ 0 ∧ ∀ char ∈ (typed : Multiset Char), char ∉ (window : Multiset Char) := by
    rw [Score.ratio_eq_one_iff, ofBags_unmatched_eq_compared_iff, and_iff_right nonzero]
  have larger : (ofBags typed window nonempty).unmatched =
      max (typed : Multiset Char).card (window : Multiset Char).card - ((typed : Multiset Char) ∩ window).card := by
    rw [← total, ← ofBags_unmatched_add_card_inter nonempty, Nat.add_sub_cancel]
  exact {
    empty := fun zero => absurd zero nonzero
    compared := fun _ => total
    compared_pos := fun _ => total ▸ (ofBags typed window nonempty).compared_pos
    unmatched := fun _ => larger
    shared_le := card_inter_le _ _
    balanced := fun _ => by
      rw [ofBags_unmatched, Nat.cast_max, card_sub_eq_sum_balance typed window, card_sub_eq_sum_neg_balance]
    ratio_eq_zero := least
    ratio_eq_one := greatest
    value_eq_zero := fun exact => (value_eq_zero_iff exact).trans least
    value_eq_one := fun exact => (value_eq_one_iff exact).trans greatest }

end Score

/-! ## The score of two texts -/

theorem bag_eq_zero_iff {text : String} : bag text = 0 ↔ Text.lowercaseAll text.toList = [] :=
  Multiset.coe_eq_zero _

/-- The score of a candidate compares the bag of the typed text with the window of the candidate. -/
theorem compares_dissimilarity (typed candidate : String) (lookAhead : ℕ) :
    (dissimilarity typed candidate lookAhead).Compares (bag typed) (window typed candidate lookAhead) := by
  unfold dissimilarity Score.ofLowercase
  split_ifs with empty
  · rw [bag_eq_zero_iff.mpr empty]
    exact Score.compares_zero _
  · exact Score.compares_ofBags empty

/-- Nothing but the two bags decides the score. -/
theorem Score.Compares.eq {first second : Score} {typed window : Multiset Char}
    (left : first.Compares typed window) (right : second.Compares typed window) : first = second := by
  by_cases empty : typed = 0
  · rw [left.empty empty, right.empty empty]
  · rw [ext_iff, left.unmatched empty, right.unmatched empty, left.compared empty, right.compared empty]
    exact ⟨rfl, rfl⟩

theorem dissimilarity_congr {typed other candidate changed : String} {lookAhead : ℕ}
    (sameBag : bag other = bag typed)
    (sameWindow : window other changed lookAhead = window typed candidate lookAhead) :
    dissimilarity other changed lookAhead = dissimilarity typed candidate lookAhead := by
  have compares := compares_dissimilarity other changed lookAhead
  rw [sameBag, sameWindow] at compares
  exact compares.eq (compares_dissimilarity typed candidate lookAhead)

theorem bag_eq_of_perm {first second : String} (perm : first.toList.Perm second.toList) : bag first = bag second :=
  Multiset.coe_eq_coe.mpr (perm.flatMap_right Text.lowercase)

/-- The score of a candidate is what the larger of two bags has beyond their common part, out of all it
has: the bag of the typed text and that of as many characters of the candidate as count. It is zero when
the bags are equal or nothing is typed, and one when they share nothing. The order of what is typed, what
the candidate has past its window and the case of either text leave no trace. -/
theorem dissimilarity_compares (typed candidate : String) (lookAhead : ℕ) :
    (dissimilarity typed candidate lookAhead).Compares (bag typed) (window typed candidate lookAhead) ∧
      (∀ other : String, other.toList.Perm typed.toList →
        dissimilarity other candidate lookAhead = dissimilarity typed candidate lookAhead) ∧
      (∀ other : String, (Text.lowercaseAll other.toList).take (windowLength typed lookAhead) =
          (Text.lowercaseAll candidate.toList).take (windowLength typed lookAhead) →
        dissimilarity typed other lookAhead = dissimilarity typed candidate lookAhead) ∧
      ∀ other changed : String, Text.lowercaseAll other.toList = Text.lowercaseAll typed.toList →
        Text.lowercaseAll changed.toList = Text.lowercaseAll candidate.toList →
        dissimilarity other changed lookAhead = dissimilarity typed candidate lookAhead := by
  refine ⟨compares_dissimilarity typed candidate lookAhead, ?_, ?_, ?_⟩
  · intro other perm
    have same := bag_eq_of_perm perm
    exact dissimilarity_congr same (by rw [window, window, windowLength, windowLength, same])
  · intro other shared
    exact dissimilarity_congr rfl (congrArg Multiset.ofList shared)
  · intro other changed typedSame candidateSame
    rw [dissimilarity, dissimilarity, typedSame, candidateSame]

/-- Two characters of four are missing from the candidate. -/
example : (dissimilarity "aBcd" "Cax" 0).value = .half := by decide +kernel

end WordCompletion

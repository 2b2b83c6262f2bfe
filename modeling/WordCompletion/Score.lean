import WordCompletion.Binary64.Basic
import WordCompletion.Text.Lowercase

/-! # How far a candidate is from what was typed

The typed text and the head of the candidate are compared as bags of lower-case characters: the score
is the share of the larger bag that finds no partner in the other. Only as many characters of the
candidate count as the typed text has, and a few more to look ahead. A score of zero means equal bags
and one means that nothing is shared; a typed text without characters is at no distance from anything.
-/

namespace WordCompletion

/-- What is left of a bag of characters after taking out the members of another. -/
def leftOver (bag taken : List Char) : List Char :=
  taken.foldl List.erase bag

theorem leftOver_length_le (bag taken : List Char) : (leftOver bag taken).length ≤ bag.length := by
  induction taken generalizing bag with
  | nil => exact Nat.le_refl _
  | cons char rest ih => exact Nat.le_trans (ih (bag.erase char)) (List.length_erase_le)

/-- A score: the number of unmatched characters out of the number compared. -/
structure Score where
  unmatched : Nat
  compared : Nat
  compared_pos : 0 < compared
  unmatched_le : unmatched ≤ compared
deriving DecidableEq, Repr

namespace Score

/-- The score of equal bags. -/
def zero : Score := ⟨0, 1, Nat.one_pos, Nat.zero_le 1⟩

/-- The score of two bags of characters of which the first has a member. -/
def ofBags (typed window : List Char) (nonempty : typed ≠ []) : Score where
  unmatched := max (leftOver typed window).length (leftOver window typed).length
  compared := max typed.length window.length
  compared_pos := by
    have := List.length_pos_iff.mpr nonempty
    omega
  unmatched_le := by
    have := leftOver_length_le typed window
    have := leftOver_length_le window typed
    omega

/-- The score of a candidate against a typed text, both in lower case. -/
def ofLowercase (typed candidate : List Char) (lookAhead : Nat) : Score :=
  if empty : typed = [] then zero
  else ofBags typed (candidate.take (typed.length + lookAhead)) empty

/-- The score as a floating-point number. -/
def value (score : Score) : Binary64 :=
  .ofQuotient score.unmatched score.compared

end Score

/-- The score of a candidate against a typed text, in either case. -/
def dissimilarity (typed candidate : String) (lookAhead : Nat) : Score :=
  .ofLowercase (Text.lowercaseAll typed.toList) (Text.lowercaseAll candidate.toList) lookAhead

end WordCompletion

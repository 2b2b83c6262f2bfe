import WordCompletion.Proofs.Lookup.Symmetry

/-! # The case of ASCII letters in a query

Two foldings of case meet in a lookup: the matcher folds ASCII letters only, and the scorer takes every
character to its lower-case form. A function that takes each of the 26 ASCII capitals like its small letter
cannot tell texts apart that differ in the case of ASCII letters alone, and all that a lookup reads of its word
and of its symbol is of this kind: the bytes of a pattern, what it matches and where a NUL ends it, and the
characters that are scored.
-/

namespace WordCompletion

/-! ## Texts that differ in case alone -/

namespace Text

/-- An ASCII capital and its small letter. -/
def IsCapitalOf (capital small : Char) : Prop :=
  'A' ≤ capital ∧ capital ≤ 'Z' ∧ small.toNat = capital.toNat + 32

/-- The characters are the same but for the case of ASCII letters. -/
def SameLetter (first second : Char) : Prop :=
  first = second ∨ IsCapitalOf first second ∨ IsCapitalOf second first

instance decidableSameLetter (first second : Char) : Decidable (SameLetter first second) :=
  inferInstanceAs (Decidable (_ ∨ (_ ∧ _ ∧ _) ∨ (_ ∧ _ ∧ _)))

/-- The texts are the same, character by character, but for the case of ASCII letters. -/
def SameLetters (first second : List Char) : Prop := List.Forall₂ SameLetter first second

instance decidableSameLetters (first second : List Char) : Decidable (SameLetters first second) :=
  inferInstanceAs (Decidable (List.Forall₂ SameLetter first second))

/-- A function takes every ASCII capital like its small letter. -/
def CaseBlind {α : Type} (f : Char → α) : Prop :=
  ∀ place : Fin 26, f (Char.ofNat (65 + place)) = f (Char.ofNat (97 + place))

section CaseBlind

variable {α : Type} {f : Char → α}

theorem CaseBlind.apply_eq (blind : CaseBlind f) {capital small : Char} (letter : IsCapitalOf capital small) :
    f capital = f small := by
  obtain ⟨first, last, shifted⟩ := letter
  have low : 65 ≤ capital.toNat := first
  have high : capital.toNat ≤ 90 := last
  have same := blind ⟨capital.toNat - 65, by omega⟩
  have large : 65 + (capital.toNat - 65) = capital.toNat := by omega
  have little : 97 + (capital.toNat - 65) = small.toNat := by omega
  rwa [large, little, Char.ofNat_toNat, Char.ofNat_toNat] at same

theorem SameLetter.apply_eq {first second : Char} (same : SameLetter first second) (blind : CaseBlind f) :
    f first = f second := by
  rcases same with rfl | letter | letter
  · rfl
  · exact blind.apply_eq letter
  · exact (blind.apply_eq letter).symm

theorem SameLetters.map_eq {first second : List Char} (same : SameLetters first second) (blind : CaseBlind f) :
    first.map f = second.map f := by
  induction same with
  | nil => rfl
  | cons head _ ih => rw [List.map_cons, List.map_cons, head.apply_eq blind, ih]

end CaseBlind

theorem SameLetters.take {first second : List Char} (same : SameLetters first second) (count : ℕ) :
    SameLetters (first.take count) (second.take count) :=
  List.forall₂_take count same

theorem caseBlind_lowercase : CaseBlind lowercase := by
  unfold CaseBlind
  decide

theorem SameLetters.lowercaseAll_eq {first second : List Char} (same : SameLetters first second) :
    lowercaseAll first = lowercaseAll second := by
  rw [lowercaseAll, lowercaseAll, List.flatMap_def, List.flatMap_def, same.map_eq caseBlind_lowercase]

end Text

/-! ## Patterns -/

namespace Like

theorem caseBlind_fold : Text.CaseBlind fold := by
  unfold Text.CaseBlind
  decide

theorem caseBlind_bne_nul : Text.CaseBlind (· != '\x00') := by
  unfold Text.CaseBlind
  decide

variable {first second : List Char}

/-- No letter is a NUL, so a NUL ends both texts in the same place. -/
theorem sameLetters_beforeNul (same : Text.SameLetters first second) :
    Text.SameLetters (beforeNul first) (beforeNul second) := by
  induction same with
  | nil => exact .nil
  | @cons char other rest more head _ ih =>
    have ends : (char != '\x00') = (other != '\x00') := head.apply_eq caseBlind_bne_nul
    rw [beforeNul, beforeNul, List.takeWhile_cons, List.takeWhile_cons, ends]
    split_ifs
    · exact .cons head ih
    · exact .nil

theorem nul_mem_iff_of_sameLetters (same : Text.SameLetters first second) : '\x00' ∈ first ↔ '\x00' ∈ second := by
  have shown : ∀ chars : List Char, '\x00' ∈ chars ↔ false ∈ chars.map (· != '\x00') := by simp
  rw [shown, shown, same.map_eq caseBlind_bne_nul]

namespace Pattern

theorem caseBlind_utf8Len_quote : Text.CaseBlind fun char => String.utf8Len (quote char) := by
  unfold Text.CaseBlind
  decide

theorem utf8Len_flatMap_quote (chars : List Char) :
    String.utf8Len (chars.flatMap quote) = (chars.map fun char => String.utf8Len (quote char)).sum := by
  induction chars with
  | nil => rfl
  | cons char chars ih => rw [List.flatMap_cons, String.utf8Len_append, ih, List.map_cons, List.sum_cons]

variable {word other : String}

/-- Small and capital letters have one byte each. -/
theorem utf8ByteSize_startingWith_congr (same : Text.SameLetters word.toList other.toList) (count : ℕ) :
    (startingWith word count).utf8ByteSize = (startingWith other count).utf8ByteSize := by
  rw [utf8ByteSize_startingWith, utf8ByteSize_startingWith, utf8Len_flatMap_quote, utf8Len_flatMap_quote,
    (same.take count).map_eq caseBlind_utf8Len_quote]

/-- Marks are no letters, so that the same characters are escaped, and the matcher folds the others. -/
theorem matchesText_startingWith_congr (same : Text.SameLetters word.toList other.toList) (count : ℕ)
    (text : String) : (ofString (startingWith word count)).matchesText text =
      (ofString (startingWith other count)).matchesText text := by
  have typed := same.take count
  have folded : SameFold (beforeNul (word.toList.take count)) (beforeNul (other.toList.take count)) :=
    (sameLetters_beforeNul typed).map_eq caseBlind_fold
  have length := folded.length_eq
  rw [SameFold] at folded
  rw [Bool.eq_iff_iff, matchesText_startingWith_iff, matchesText_startingWith_iff, SameFold, SameFold, folded, length,
    nul_mem_iff_of_sameLetters typed]

theorem eval?_startingWith_congr (same : Text.SameLetters word.toList other.toList) (count : ℕ) (text : String) :
    (ofString (startingWith word count)).eval? text = (ofString (startingWith other count)).eval? text := by
  have long : (ofString (startingWith word count)).tooLong = (ofString (startingWith other count)).tooLong :=
    congrArg (fun size => decide (maxPatternBytes < size)) (utf8ByteSize_startingWith_congr same count)
  rw [eval?, eval?, long, matchesText_startingWith_congr same count]

end Pattern

end Like

/-! ## Lookups -/

namespace Request

variable {word other sym otherSym : String}

theorem agreeOn_asking (request : Request) (sameWord : Text.SameLetters word.toList other.toList)
    (sameSym : Text.SameLetters sym.toList otherSym.toList) (stored : String) :
    (request.asking word sym).lookup.AgreeOn (request.asking other otherSym).lookup stored where
  wordPattern := Like.Pattern.eval?_startingWith_congr sameWord _ stored
  symPattern := Like.Pattern.eval?_startingWith_congr sameSym _ stored
  wordScore := congrArg (Score.ofLowercase · _ _) sameWord.lowercaseAll_eq
  symScore := congrArg (Score.ofLowercase · _ _) sameSym.lowercaseAll_eq

theorem run_asking_congr (request : Request) (sameWord : Text.SameLetters word.toList other.toList)
    (sameSym : Text.SameLetters sym.toList otherSym.toList) (stored : List String) :
    (request.asking word sym).lookup.run stored = (request.asking other otherSym).lookup.run stored :=
  Lookup.run_congr (fun _ _ => agreeOn_asking request sameWord sameSym _) rfl rfl

/-- Of two requests that ask for the same thing to be done, only the answers of the lookups count. -/
theorem select_congr_of_answer {first second : Request} {words : WordSet} (clear : first.clear = second.clear)
    (options : first.options = second.options) (cancelled : first.cancelled = second.cancelled)
    (answer : first.lookup.answer words.toList = second.lookup.answer words.toList) :
    words.select first = words.select second := by
  rw [lookup, lookup, options] at answer
  rw [WordSet.select, WordSet.select, clear, options, cancelled, answer]

/-- Requests for words and for symbols that differ in the case of ASCII letters alone are answered the same, and
the engine fails on both or on neither. Valid lookups have the same rows in the same order. -/
theorem select_sameLetters (sameWord : Text.SameLetters word.toList other.toList)
    (sameSym : Text.SameLetters sym.toList otherSym.toList) (request : Request) (words : WordSet) :
    words.select (request.asking word sym) = words.select (request.asking other otherSym) ∧
      (request.asking word sym).lookup.run words.toList = (request.asking other otherSym).lookup.run words.toList ∧
      (request.Answerable → ∃ rows, words.select (request.asking word sym) = (.ok rows, words) ∧
        words.select (request.asking other otherSym) = (.ok rows, words)) := by
  have run := run_asking_congr request sameWord sameSym words.toList
  have select : words.select (request.asking word sym) = words.select (request.asking other otherSym) :=
    select_congr_of_answer rfl rfl rfl (Lookup.answer_congr run)
  refine ⟨select, run, fun answerable => ?_⟩
  have rows := select_eq (answerable_asking answerable word sym) words
  exact ⟨_, rows, select.symm.trans rows⟩

/-- Letters of both cases stand within the leading characters and after them, beside letters whose case counts. -/
theorem select_sameLetters_stra : Text.SameLetters "sTra".toList "STRA".toList ∧
    Text.SameLetters "Él.sTra".toList "ÉL.STRA".toList ∧ ¬ Text.SameLetters "É".toList "é".toList ∧
    (complete "" "").Answerable ∧
    (WordSet.ofList ["strand", "Straße", "bar"]).select ((complete "" "").asking "sTra" "Él.sTra") =
      (.ok [.primary "Straße", .primary "strand"], .ofList ["strand", "Straße", "bar"]) ∧
    (WordSet.ofList ["strand", "Straße", "bar"]).select ((complete "" "").asking "STRA" "ÉL.STRA") =
      (.ok [.primary "Straße", .primary "strand"], .ofList ["strand", "Straße", "bar"]) := by
  have sameWord : Text.SameLetters "sTra".toList "STRA".toList := by decide
  have sameSym : Text.SameLetters "Él.sTra".toList "ÉL.STRA".toList := by decide
  have answerable : (complete "" "").Answerable := ⟨rfl, by decide, rfl⟩
  have evaluated : ¬ ((complete "" "").asking "sTra" "Él.sTra").LikeFails (.ofList ["strand", "Straße", "bar"]) :=
    not_likeFails (by decide) (by decide)
  have primary : ((complete "" "").asking "sTra" "Él.sTra").tier (.ofList ["strand", "Straße", "bar"]) = .primary := by
    decide +kernel
  have found : (WordSet.ofList ["strand", "Straße", "bar"]).select ((complete "" "").asking "sTra" "Él.sTra") =
      (.ok [.primary "Straße", .primary "strand"], .ofList ["strand", "Straße", "bar"]) :=
    select_of_sorted (answerable_asking answerable "sTra" "Él.sTra") evaluated primary ["Straße", "strand"]
      (by decide +kernel) (by decide +kernel)
  have same := (select_sameLetters sameWord sameSym (complete "" "") (.ofList ["strand", "Straße", "bar"])).1
  exact ⟨sameWord, sameSym, by decide, answerable, found, same.symm.trans found⟩

end Request

end WordCompletion

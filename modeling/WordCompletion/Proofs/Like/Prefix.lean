import Mathlib.Data.List.TakeWhile
import WordCompletion.Like

/-! # Patterns for texts that begin like a word

What a matcher decides is a relation between pieces and texts, and escaping is undone by reading: the
pattern of the first characters of a word is these characters, each standing for itself, and then any
run. A NUL among them ends the pattern early and takes the run away, so that nothing may follow them.
Main statement: which texts match such a pattern, NULs and marks in the word included.
-/

namespace WordCompletion.Like

/-! ## Instances -/

/-- The text is made of an instance of each piece, in order. -/
inductive Instance : List Piece → List Char → Prop where
  | done : Instance [] []
  | anyRun {pieces : List Piece} {rest : List Char} (run : List Char) (more : Instance pieces rest) :
      Instance (.anyRun :: pieces) (run ++ rest)
  | anyChar {pieces : List Piece} {rest : List Char} (char : Char) (more : Instance pieces rest) :
      Instance (.anyChar :: pieces) (char :: rest)
  | literal {char first : Char} {pieces : List Piece} {rest : List Char} (same : fold char = fold first)
      (more : Instance pieces rest) : Instance (.literal char :: pieces) (first :: rest)

theorem anySuffix_eq_true_iff {test : List Char → Bool} {text : List Char} :
    anySuffix test text = true ↔ ∃ run rest, text = run ++ rest ∧ test rest = true := by
  induction text with
  | nil =>
    rw [anySuffix]
    constructor
    · exact fun holds => ⟨[], [], rfl, holds⟩
    · rintro ⟨run, rest, split, holds⟩
      obtain ⟨rfl, rfl⟩ := List.append_eq_nil_iff.mp split.symm
      exact holds
  | cons char text ih =>
    rw [anySuffix, Bool.or_eq_true, ih]
    constructor
    · rintro (whole | ⟨run, rest, rfl, holds⟩)
      · exact ⟨[], _, rfl, whole⟩
      · exact ⟨char :: run, rest, rfl, holds⟩
    · rintro ⟨run, rest, split, holds⟩
      cases run with
      | nil => exact .inl (split ▸ holds)
      | cons first run =>
        obtain ⟨rfl, rfl⟩ := List.cons.inj split
        exact .inr ⟨run, rest, rfl, holds⟩

/-- The matcher decides the relation. -/
theorem matchPieces_eq_true_iff {pieces : List Piece} {text : List Char} :
    matchPieces pieces text = true ↔ Instance pieces text := by
  induction pieces generalizing text with
  | nil =>
    rw [matchPieces, List.isEmpty_iff]
    constructor
    · rintro rfl
      exact .done
    · rintro ⟨⟩
      rfl
  | cons piece pieces ih =>
    cases piece with
    | anyRun =>
      rw [matchPieces, anySuffix_eq_true_iff]
      constructor
      · rintro ⟨run, rest, rfl, matched⟩
        exact .anyRun run (ih.mp matched)
      · rintro ⟨⟩
        exact ⟨_, _, rfl, ih.mpr ‹_›⟩
    | anyChar =>
      cases text with
      | nil => exact iff_of_false (by simp [matchPieces]) nofun
      | cons char rest =>
        rw [matchPieces, ih]
        constructor
        · exact .anyChar char
        · rintro ⟨⟩
          assumption
    | literal char =>
      cases text with
      | nil => exact iff_of_false (by simp [matchPieces]) nofun
      | cons first rest =>
        rw [matchPieces, Bool.and_eq_true, beq_iff_eq, ih]
        constructor
        · rintro ⟨same, more⟩
          exact .literal same more
        · rintro ⟨⟩
          exact ⟨‹_›, ‹_›⟩

/-! ## Characters that stand for themselves -/

/-- The characters of two texts are pairwise the same to the matcher. -/
def SameFold (first second : List Char) : Prop := first.map fold = second.map fold

instance decidableSameFold (first second : List Char) : Decidable (SameFold first second) :=
  inferInstanceAs (Decidable (first.map fold = second.map fold))

theorem SameFold.refl (chars : List Char) : SameFold chars chars := rfl

theorem SameFold.length_eq {first second : List Char} (same : SameFold first second) :
    first.length = second.length := by
  simpa using congrArg List.length same

theorem SameFold.take {first second : List Char} (same : SameFold first second) (count : ℕ) :
    SameFold (first.take count) (second.take count) := by
  rw [SameFold, List.map_take, List.map_take, same]

theorem instance_literals_append_iff {chars text : List Char} {pieces : List Piece} :
    Instance (chars.map .literal ++ pieces) text ↔
      ∃ front back, text = front ++ back ∧ SameFold chars front ∧ Instance pieces back := by
  induction chars generalizing text with
  | nil =>
    constructor
    · intro matched
      exact ⟨[], text, rfl, .refl [], matched⟩
    · rintro ⟨front, back, rfl, same, matched⟩
      obtain rfl : front = [] := List.eq_nil_of_length_eq_zero same.length_eq.symm
      exact matched
  | cons char chars ih =>
    constructor
    · rintro ⟨⟩
      rename_i first rest same more
      obtain ⟨front, back, rfl, others, matched⟩ := ih.mp more
      exact ⟨first :: front, back, rfl, congrArg₂ List.cons same others, matched⟩
    · rintro ⟨front, back, rfl, same, matched⟩
      cases front with
      | nil => simp [SameFold] at same
      | cons first front =>
        obtain ⟨head, tail⟩ := List.cons.inj same
        exact .literal head (ih.mpr ⟨front, back, rfl, tail, matched⟩)

theorem instance_literals_iff {chars text : List Char} :
    Instance (chars.map .literal) text ↔ SameFold chars text := by
  rw [← List.append_nil (chars.map _), instance_literals_append_iff]
  constructor
  · rintro ⟨front, back, rfl, same, ⟨⟩⟩
    simpa using same
  · exact fun same => ⟨text, [], by simp, same, .done⟩

theorem instance_literals_anyRun_iff {chars text : List Char} :
    Instance (chars.map .literal ++ [.anyRun]) text ↔
      chars.length ≤ text.length ∧ SameFold chars (text.take chars.length) := by
  rw [instance_literals_append_iff]
  constructor
  · rintro ⟨front, back, rfl, same, _⟩
    have length := same.length_eq
    exact ⟨by simp [length], by simpa [length] using same⟩
  · rintro ⟨_, same⟩
    refine ⟨_, _, (List.take_append_drop chars.length text).symm, same, ?_⟩
    simpa using Instance.anyRun (text.drop chars.length) .done

/-! ## Escaping -/

theorem beforeNul_of_not_mem {chars : List Char} (clean : '\x00' ∉ chars) : beforeNul chars = chars := by
  rw [beforeNul, List.takeWhile_eq_self_iff]
  intro char member
  exact bne_iff_ne.mpr (ne_of_mem_of_not_mem member clean)

theorem beforeNul_append_nul {front : List Char} (clean : '\x00' ∉ front) (back : List Char) :
    beforeNul (front ++ '\x00' :: back) = front := by
  have kept : ∀ char ∈ front, (char != '\x00') = true :=
    fun char member => bne_iff_ne.mpr (ne_of_mem_of_not_mem member clean)
  simp [beforeNul, List.takeWhile_append_of_pos kept]

theorem beforeNul_take (chars : List Char) (count : ℕ) :
    beforeNul (chars.take count) = (beforeNul chars).take count := by
  induction chars generalizing count with
  | nil => simp [beforeNul]
  | cons char chars ih =>
    cases count with
    | zero => rfl
    | succ count =>
      simp only [beforeNul, List.take_succ_cons, List.takeWhile_cons] at ih ⊢
      split_ifs
      · rw [List.take_succ_cons, ih]
      · rfl

theorem beforeNul_append_of_mem {front : List Char} (nul : '\x00' ∈ front) (back : List Char) :
    beforeNul (front ++ back) = beforeNul front := by
  obtain ⟨before, after, rfl, clean⟩ := List.eq_append_cons_of_mem nul
  rw [List.append_assoc, List.cons_append, beforeNul_append_nul clean, beforeNul_append_nul clean]

namespace Pattern

theorem nul_not_mem_flatMap_quote {chars : List Char} (clean : '\x00' ∉ chars) :
    '\x00' ∉ chars.flatMap quote := by
  rw [List.mem_flatMap]
  rintro ⟨char, member, quoted⟩
  have different : '\x00' ≠ char := fun same => clean (same ▸ member)
  unfold quote at quoted
  split_ifs at quoted <;> simp [escapeChar, different] at quoted

/-- A quoted character is read as itself. -/
theorem pieces?_quote_append (char : Char) (rest : List Char) :
    pieces? (quote char ++ rest) = (pieces? rest).map (.literal char :: ·) := by
  unfold quote
  split_ifs with mark
  · rfl
  · simp only [escapeChar, not_or] at mark
    simp [pieces?, mark]

theorem pieces?_flatMap_quote_append (chars rest : List Char) :
    pieces? (chars.flatMap quote ++ rest) = (pieces? rest).map (chars.map .literal ++ ·) := by
  induction chars with
  | nil => simp
  | cons char chars ih =>
    rw [List.flatMap_cons, List.append_assoc, pieces?_quote_append, ih, Option.map_map]
    rfl

/-- Without a NUL the pattern is the characters themselves and then any run. -/
theorem pieces_startingWith {word : String} {count : ℕ} (clean : '\x00' ∉ word.toList.take count) :
    (ofString (startingWith word count)).pieces =
      some ((word.toList.take count).map .literal ++ [.anyRun]) := by
  have whole : '\x00' ∉ (word.toList.take count).flatMap quote ++ ['%'] := by
    simpa using nul_not_mem_flatMap_quote clean
  simp only [ofString, startingWith, String.toList_ofList]
  rw [beforeNul_of_not_mem whole, pieces?_flatMap_quote_append]
  rfl

/-- A NUL ends the pattern, which loses the run at its end. -/
theorem pieces_startingWith_nul {word : String} {count : ℕ} {front back : List Char}
    (split : word.toList.take count = front ++ '\x00' :: back) (clean : '\x00' ∉ front) :
    (ofString (startingWith word count)).pieces = some (front.map .literal) := by
  have quoted : (word.toList.take count).flatMap quote ++ ['%'] =
      front.flatMap quote ++ '\x00' :: (back.flatMap quote ++ ['%']) := by
    simp [split, quote, escapeChar]
  simp only [ofString, startingWith, String.toList_ofList]
  rw [quoted, beforeNul_append_nul (nul_not_mem_flatMap_quote clean)]
  simpa [pieces?] using pieces?_flatMap_quote_append front []

/-! ## Evaluating the pattern -/

theorem tooLong_eq_false {pattern : Pattern} (short : pattern.byteSize ≤ maxPatternBytes) :
    pattern.tooLong = false :=
  decide_eq_false (Nat.not_lt.mpr short)

theorem eval?_of_short {pattern : Pattern} (short : pattern.byteSize ≤ maxPatternBytes) (text : String) :
    pattern.eval? text = some (pattern.matchesText text) := by
  simp [eval?, tooLong_eq_false short]

theorem matchesText_eq_true_iff {pattern : Pattern} {pieces : List Piece} (read : pattern.pieces = some pieces)
    {text : String} : pattern.matchesText text = true ↔ Instance pieces (beforeNul text.toList) := by
  simp only [matchesText, read, matchPieces_eq_true_iff]

/-- The visible part of a text is compared with what the leading characters show before a NUL; if there is a
NUL among them, nothing may follow. -/
theorem matchesText_startingWith_iff {word text : String} {count : ℕ} :
    (ofString (startingWith word count)).matchesText text = true ↔
      SameFold (beforeNul (word.toList.take count))
          ((beforeNul text.toList).take (beforeNul (word.toList.take count)).length) ∧
        ('\x00' ∈ word.toList.take count →
          (beforeNul text.toList).length = (beforeNul (word.toList.take count)).length) := by
  by_cases nul : '\x00' ∈ word.toList.take count
  · obtain ⟨front, back, split, clean⟩ := List.eq_append_cons_of_mem nul
    rw [matchesText_eq_true_iff (pieces_startingWith_nul split clean), instance_literals_iff, split,
      beforeNul_append_nul clean]
    constructor
    · intro same
      have whole : (beforeNul text.toList).take front.length = beforeNul text.toList :=
        List.take_of_length_le same.length_eq.ge
      exact ⟨by rwa [whole], fun _ => same.length_eq.symm⟩
    · rintro ⟨same, ends⟩
      rwa [List.take_of_length_le (ends (by simp)).le] at same
  · rw [matchesText_eq_true_iff (pieces_startingWith nul), instance_literals_anyRun_iff, beforeNul_of_not_mem nul]
    constructor
    · exact fun begins => ⟨begins.2, fun member => absurd member nul⟩
    · rintro ⟨same, _⟩
      exact ⟨same.length_eq.le.trans (List.length_take_le' ..), same⟩

/-- A text that matches the pattern of some leading characters matches that of fewer. -/
theorem matchesText_startingWith_of_le {word text : String} {fewer more : ℕ} (atMost : fewer ≤ more)
    (matched : (ofString (startingWith word more)).matchesText text = true) :
    (ofString (startingWith word fewer)).matchesText text = true := by
  rw [matchesText_startingWith_iff] at matched ⊢
  obtain ⟨same, ends⟩ := matched
  have shorter : word.toList.take fewer = (word.toList.take more).take fewer := by
    rw [List.take_take, Nat.min_eq_left atMost]
  generalize word.toList.take more = typed at *
  rw [shorter]
  constructor
  · have cut := same.take fewer
    rwa [List.take_take, ← List.length_take, ← beforeNul_take] at cut
  · intro nul
    have whole := beforeNul_append_of_mem nul (typed.drop fewer)
    rw [List.take_append_drop] at whole
    rw [ends (List.mem_of_mem_take nul), whole]

/-- A text that begins with the characters of the pattern matches it, even if NULs are among them. -/
theorem matchesText_startingWith_of_isPrefix {word text : String} {count : ℕ}
    (begins : word.toList.take count <+: text.toList) :
    (ofString (startingWith word count)).matchesText text = true := by
  rw [matchesText_startingWith_iff]
  obtain ⟨rest, whole⟩ := begins
  generalize word.toList.take count = typed at *
  rw [← whole]
  by_cases nul : '\x00' ∈ typed
  · rw [beforeNul_append_of_mem nul, List.take_length]
    exact ⟨.refl _, fun _ => rfl⟩
  · have kept : beforeNul (typed ++ rest) = typed ++ beforeNul rest := by
      rw [beforeNul, List.takeWhile_append, ← beforeNul, beforeNul_of_not_mem nul, if_pos rfl, ← beforeNul]
    rw [kept, beforeNul_of_not_mem nul, List.take_left]
    exact ⟨.refl _, fun member => absurd member nul⟩

/-- The pattern of the first characters of a word matches the texts that begin with them or, if there is
a NUL among them, the texts that end where it stands. Each character stands for itself, marks and escapes
included. -/
theorem eval?_startingWith {word : String} {count : ℕ}
    (short : (startingWith word count).utf8ByteSize ≤ maxPatternBytes) (text : String) :
    let typed := word.toList.take count
    let visible := beforeNul text.toList
    ∃ pieces holds, (ofString (startingWith word count)).pieces = some pieces ∧
      (ofString (startingWith word count)).eval? text = some holds ∧
      (holds = true ↔ Instance pieces visible) ∧
      ('\x00' ∉ typed → pieces = typed.map .literal ++ [.anyRun] ∧
        (holds = true ↔ typed.length ≤ visible.length ∧ SameFold typed (visible.take typed.length))) ∧
      ∀ front back, typed = front ++ '\x00' :: back → '\x00' ∉ front → pieces = front.map .literal ∧
        (holds = true ↔ visible.length = front.length ∧ SameFold front visible) := by
  intro typed visible
  have value : (ofString (startingWith word count)).eval? text = _ := eval?_of_short short text
  by_cases nul : '\x00' ∈ typed
  · obtain ⟨front, back, split, clean⟩ := List.eq_append_cons_of_mem nul
    have read := pieces_startingWith_nul split clean
    refine ⟨_, _, read, value, matchesText_eq_true_iff read, fun absent => absurd nul absent, ?_⟩
    intro other rest again clean'
    have same : front = other := (beforeNul_append_nul clean back).symm.trans
      ((congrArg beforeNul (split.symm.trans again)).trans (beforeNul_append_nul clean' rest))
    subst same
    rw [matchesText_eq_true_iff read, instance_literals_iff]
    exact ⟨rfl, fun agree => ⟨agree.length_eq.symm, agree⟩, And.right⟩
  · have read := pieces_startingWith nul
    refine ⟨_, _, read, value, matchesText_eq_true_iff read, fun _ => ⟨rfl, ?_⟩, ?_⟩
    · rw [matchesText_eq_true_iff read, instance_literals_anyRun_iff]
    · intro front back split
      exact absurd (split ▸ List.mem_append_right front (List.mem_cons_self ..)) nul

/-- Marks in a word match nothing but themselves. -/
theorem eval?_startingWith_marks : (startingWith "a_%!b" 4).utf8ByteSize ≤ maxPatternBytes ∧
    (ofString (startingWith "a_%!b" 4)).eval? "A_%!x" = some true ∧
      (ofString (startingWith "a_%!b" 4)).eval? "abc!x" = some false := by
  have short : (startingWith "a_%!b" 4).utf8ByteSize ≤ maxPatternBytes := by decide
  obtain ⟨_, holds, _, value, _, begins, _⟩ := eval?_startingWith short "A_%!x"
  obtain ⟨_, others, _, other, _, begins', _⟩ := eval?_startingWith short "abc!x"
  refine ⟨short, ?_, ?_⟩
  · rw [value, (begins (by decide)).2.mpr ⟨by decide, by decide⟩]
  · rw [other, Bool.eq_false_iff.mpr fun found => absurd ((begins' (by decide)).2.mp found).2 (by decide)]

end Pattern

end WordCompletion.Like

import Mathlib.Data.List.Induction
import Mathlib.Data.List.TakeWhile
import WordCompletion.Text.Blank
import WordCompletion.Text.Runs

/-! # Runs, and texts with blanks at their end

A scan joins a kept character to the run on its right and lets every other character end a run, so runs
are never empty and hold kept characters only. A character that is not kept parts the runs of a text, and
such characters add nothing at its end. Blanks at the end of a text are such characters for every run without blanks.
The kept end of a text is the longest one, and it begins after the last character that is not kept.
-/

namespace WordCompletion.Text

variable {keep : Char → Bool} {chars : List Char}

/-! ## Runs -/

namespace RunScan

/-- Every run of the scan has characters, all of them kept. -/
def Kept (keep : Char → Bool) (scan : RunScan) : Prop :=
  ∀ run ∈ scan.found, run ≠ [] ∧ ∀ char ∈ run, keep char = true

theorem Kept.cons {scan : RunScan} (kept : scan.Kept keep) (char : Char) : (cons keep char scan).Kept keep := by
  unfold RunScan.cons
  split_ifs with holds
  · split
    · rename_i run later
      intro other member
      rcases List.mem_cons.mp member with rfl | member
      · refine ⟨List.cons_ne_nil _ _, List.forall_mem_cons.mpr ⟨holds, ?_⟩⟩
        exact (kept run (List.mem_cons_self ..)).2
      · exact kept other (List.mem_cons_of_mem _ member)
    · exact List.forall_mem_cons.mpr ⟨⟨List.cons_ne_nil _ _, by simpa using holds⟩, kept⟩
  · exact kept

theorem kept_foldr (keep : Char → Bool) (chars : List Char) : (chars.foldr (cons keep) atEnd).Kept keep := by
  induction chars with
  | nil => exact fun _ member => absurd member List.not_mem_nil
  | cons char rest ih => exact ih.cons char

theorem foldr_of_not (dropped : ∀ char ∈ chars, keep char = false) : chars.foldr (cons keep) atEnd = atEnd := by
  induction chars with
  | nil => rfl
  | cons char rest ih =>
    obtain ⟨first, others⟩ := List.forall_mem_cons.mp dropped
    rw [List.foldr_cons, ih others]
    simp [RunScan.cons, first, atEnd]

/-- A run that starts at a position has been found. -/
theorem found_ne_nil_of_opened (chars : List Char) (opened : (chars.foldr (cons keep) atEnd).opened = true) :
    (chars.foldr (cons keep) atEnd).found ≠ [] := by
  cases chars with
  | nil => exact absurd opened Bool.false_ne_true
  | cons char rest =>
    rw [List.foldr_cons] at opened ⊢
    unfold RunScan.cons at opened ⊢
    split_ifs at opened ⊢
    split <;> exact List.cons_ne_nil _ _

/-- A character joins what was found first, and what comes later stays. -/
theorem cons_found_append (char : Char) {scan : RunScan} (found : scan.opened = true → scan.found ≠ [])
    (later : List (List Char)) : cons keep char ⟨scan.opened, scan.found ++ later⟩ =
      ⟨(cons keep char scan).opened, (cons keep char scan).found ++ later⟩ := by
  obtain ⟨opened, runs⟩ := scan
  unfold RunScan.cons
  split_ifs with kept
  · cases opened with
    | false => rfl
    | true =>
      cases runs with
      | nil => exact absurd rfl (found rfl)
      | cons run rest => rfl
  · rfl

/-- What is found on the right of a character that is not kept stays as it is. -/
theorem foldr_append_cons_of_not {mark : Char} (dropped : keep mark = false) (front back : List Char) :
    (front ++ mark :: back).foldr (cons keep) atEnd =
      ⟨(front.foldr (cons keep) atEnd).opened,
        (front.foldr (cons keep) atEnd).found ++ (back.foldr (cons keep) atEnd).found⟩ := by
  induction front with
  | nil => simp [RunScan.cons, dropped, atEnd]
  | cons char rest ih =>
    rw [List.cons_append, List.foldr_cons, ih, List.foldr_cons]
    exact cons_found_append char (found_ne_nil_of_opened rest) _

end RunScan

theorem ne_nil_of_mem_runs {run : List Char} (member : run ∈ runs keep chars) : run ≠ [] :=
  (RunScan.kept_foldr keep chars run member).1

theorem keep_of_mem_runs {run : List Char} (member : run ∈ runs keep chars) {char : Char}
    (inside : char ∈ run) : keep char = true :=
  (RunScan.kept_foldr keep chars run member).2 char inside

/-- What is not kept adds nothing at the end. -/
theorem runs_append_of_not (chars : List Char) {tail : List Char} (dropped : ∀ char ∈ tail, keep char = false) :
    runs keep (chars ++ tail) = runs keep chars := by
  rw [runs, runs, List.foldr_append, RunScan.foldr_of_not dropped]

/-- A character that is not kept parts the runs of a text. -/
theorem runs_append_cons_of_not {mark : Char} (dropped : keep mark = false) (front back : List Char) :
    runs keep (front ++ mark :: back) = runs keep front ++ runs keep back := by
  rw [runs, RunScan.foldr_append_cons_of_not dropped, runs, runs]

/-- Kept characters at the end of a text belong to its kept end. -/
theorem trailing_append_of_forall (front : List Char) {back : List Char} (kept : ∀ char ∈ back, keep char = true) :
    trailing keep (front ++ back) = trailing keep front ++ back := by
  rw [trailing, List.reverse_append, List.takeWhile_append_of_pos (by simpa using kept), List.reverse_append,
    List.reverse_reverse, trailing]

/-- The kept end of a text is the longest there is: it ends in every other one. -/
theorem suffix_trailing {part : List Char} (ends : part <:+ chars) (kept : ∀ char ∈ part, keep char = true) :
    part <:+ trailing keep chars := by
  obtain ⟨front, rfl⟩ := ends
  rw [trailing_append_of_forall front kept]
  exact List.suffix_append ..

/-- The kept end of a text does not reach back to a character that is not kept. -/
theorem trailing_append_cons_of_not {mark : Char} (dropped : keep mark = false) (front back : List Char) :
    trailing keep (front ++ mark :: back) = trailing keep back := by
  have stops : (mark :: front.reverse).takeWhile keep = [] := by rw [List.takeWhile_cons, dropped]; rfl
  rw [trailing, List.reverse_append, List.reverse_cons, List.append_assoc, List.singleton_append,
    List.takeWhile_append, stops, List.append_nil, trailing]
  split_ifs with whole
  · rw [(List.takeWhile_prefix keep).eq_of_length whole]
  · rfl

/-- A text has no kept end exactly if its last character, when it has one, is not kept. -/
theorem trailing_eq_nil_iff : trailing keep chars = [] ↔ ∀ last ∈ chars.getLast?, keep last = false := by
  rw [trailing, List.reverse_eq_nil_iff, List.getLast?_eq_head?_reverse]
  cases chars.reverse with
  | nil => simp
  | cons last rest => simp [List.takeWhile_cons]

/-! ## Blanks at the end -/

/-- The last character is a blank. -/
def EndsBlank (chars : List Char) : Prop := ∃ last ∈ chars.getLast?, isBlank last = true

instance (chars : List Char) : Decidable (EndsBlank chars) :=
  decidable_of_iff (chars.getLast?.any isBlank = true) (Option.any_eq_true _ _)

theorem exists_trimBlankEnd_append (chars : List Char) :
    ∃ blanks, chars = trimBlankEnd chars ++ blanks ∧ ∀ char ∈ blanks, isBlank char = true := by
  refine ⟨(chars.reverse.takeWhile isBlank).reverse, ?_, ?_⟩
  · rw [trimBlankEnd, ← List.reverse_append, List.takeWhile_append_dropWhile, List.reverse_reverse]
  · intro char member
    exact List.mem_takeWhile_imp (List.mem_reverse.mp member)

theorem trimBlankEnd_append_singleton (chars : List Char) (last : Char) :
    trimBlankEnd (chars ++ [last]) = if isBlank last then trimBlankEnd chars else chars ++ [last] := by
  rw [trimBlankEnd, List.reverse_concat, List.dropWhile_cons]
  split_ifs with blank
  · rfl
  · rw [List.reverse_cons, List.reverse_reverse]

/-- No blank is left at the end. The induction takes the characters off the end, as trimming does. -/
theorem not_endsBlank_trimBlankEnd (chars : List Char) : ¬ EndsBlank (trimBlankEnd chars) := by
  induction chars using List.reverseRecOn with
  | nil => simp [EndsBlank, trimBlankEnd]
  | append_singleton chars last ih =>
    rw [trimBlankEnd_append_singleton]
    split_ifs with blank
    · exact ih
    · simpa [EndsBlank] using blank

theorem trimBlankEnd_eq_self_iff : trimBlankEnd chars = chars ↔ ¬ EndsBlank chars := by
  constructor
  · intro kept
    rw [← kept]
    exact not_endsBlank_trimBlankEnd chars
  · intro solid
    rcases List.eq_nil_or_concat chars with rfl | ⟨front, last, rfl⟩
    · rfl
    · rw [List.concat_eq_append, trimBlankEnd_append_singleton, if_neg]
      simpa [EndsBlank] using solid

/-- Blanks at the end do not show in runs without blanks. -/
theorem runs_trimBlankEnd (solid : ∀ char, isBlank char = true → keep char = false) (chars : List Char) :
    runs keep (trimBlankEnd chars) = runs keep chars := by
  obtain ⟨blanks, split, blank⟩ := exists_trimBlankEnd_append chars
  have whole : runs keep chars = runs keep (trimBlankEnd chars ++ blanks) := congrArg (runs keep) split
  rw [whole, runs_append_of_not _ fun char member => solid char (blank char member)]

end WordCompletion.Text

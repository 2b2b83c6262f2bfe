import Mathlib.Data.List.DropRight
import Mathlib.Data.List.Induction
import WordCompletion.Proofs.Text.Runs

/-! # Runs as stretches of a text

A maximal run is a stretch of kept characters with a character that is not kept, or an end of the text, on
either side. Cutting a text around such a stretch cuts its list of runs around the run, and each cut of the
list comes from such a cut of the text: the runs are the maximal ones, each as often as it occurs and in the
order of their positions. The kept end of a text is one of them, and runs that are joined by a character that is
not kept are the runs of what they make.
-/

namespace WordCompletion.Text

variable {keep : Char → Bool} {chars front run back : List Char}

/-- Between two parts of a text there is a maximal run of kept characters. -/
structure MaximalRun (keep : Char → Bool) (front run back : List Char) : Prop where
  nonempty : run ≠ []
  kept : ∀ char ∈ run, keep char = true
  stopsBefore : ∀ last ∈ front.getLast?, keep last = false
  stopsAfter : ∀ next ∈ back.head?, keep next = false

/-- A maximal run of kept characters starts at a position. -/
def IsRunAt (keep : Char → Bool) (chars run : List Char) (position : ℕ) : Prop :=
  ∃ front back, chars = front ++ run ++ back ∧ front.length = position ∧ MaximalRun keep front run back

/-! ## Cutting a text around a run -/

theorem RunScan.foldr_of_forall (nonempty : run ≠ []) (kept : ∀ char ∈ run, keep char = true) :
    run.foldr (cons keep) atEnd = ⟨true, [run]⟩ := by
  induction run with
  | nil => exact absurd rfl nonempty
  | cons char rest ih =>
    obtain ⟨first, others⟩ := List.forall_mem_cons.mp kept
    cases rest with
    | nil => simp [RunScan.cons, first, atEnd]
    | cons next later =>
      rw [List.foldr_cons, ih (List.cons_ne_nil _ _) others]
      simp [RunScan.cons, first]

/-- A text of kept characters is one run. -/
theorem runs_of_forall (nonempty : run ≠ []) (kept : ∀ char ∈ run, keep char = true) : runs keep run = [run] := by
  rw [runs, RunScan.foldr_of_forall nonempty kept]

/-- A text that stops before another part has its runs and those of that part. -/
theorem runs_append_of_stopsBefore (stops : ∀ last ∈ front.getLast?, keep last = false) (rest : List Char) :
    runs keep (front ++ rest) = runs keep front ++ runs keep rest := by
  rcases List.eq_nil_or_concat front with rfl | ⟨init, last, rfl⟩
  · rfl
  · have dropped : keep last = false := stops last (by simp)
    rw [List.concat_eq_append, List.append_assoc, List.singleton_append, runs_append_cons_of_not dropped,
      runs_append_of_not _ (by simpa using dropped)]

/-- A run of kept characters comes before the runs of what follows where it stops. -/
theorem runs_append_of_stopsAfter (nonempty : run ≠ []) (kept : ∀ char ∈ run, keep char = true)
    (stops : ∀ next ∈ back.head?, keep next = false) : runs keep (run ++ back) = run :: runs keep back := by
  cases back with
  | nil => rw [List.append_nil, runs_of_forall nonempty kept, runs_nil]
  | cons mark rest =>
    have dropped : keep mark = false := stops mark (by simp)
    rw [runs_append_cons_of_not dropped, runs_of_forall nonempty kept, runs_cons_of_not _ dropped]
    rfl

/-- Runs that are joined by a character that is not kept are the runs of the text that they make. -/
theorem runs_intercalate {mark : Char} (dropped : keep mark = false) {pieces : List (List Char)}
    (solid : ∀ piece ∈ pieces, piece ≠ [] ∧ ∀ char ∈ piece, keep char = true) :
    runs keep (List.intercalate [mark] pieces) = pieces := by
  induction pieces with
  | nil => rfl
  | cons piece rest ih =>
    obtain ⟨⟨nonempty, kept⟩, others⟩ := List.forall_mem_cons.mp solid
    cases rest with
    | nil => rw [List.intercalate_singleton, runs_of_forall nonempty kept]
    | cons next later =>
      rw [List.intercalate_cons_cons, List.append_assoc, List.singleton_append, runs_append_cons_of_not dropped,
        runs_of_forall nonempty kept, ih others, List.singleton_append]

/-- Around a maximal run a text has the runs of the parts before and after it. -/
theorem MaximalRun.runs_eq (maximal : MaximalRun keep front run back) :
    runs keep (front ++ run ++ back) = runs keep front ++ run :: runs keep back := by
  rw [List.append_assoc, runs_append_of_stopsBefore maximal.stopsBefore,
    runs_append_of_stopsAfter maximal.nonempty maximal.kept maximal.stopsAfter]

/-! ## Cutting a text around one of its runs -/

/-- The first run of a text has nothing but dropped characters before it. -/
theorem exists_maximalRun_of_runs_eq_cons {later : List (List Char)} (found : runs keep chars = run :: later) :
    ∃ front back, chars = front ++ run ++ back ∧ MaximalRun keep front run back ∧ runs keep front = [] ∧
      runs keep back = later := by
  induction chars with
  | nil => exact absurd found nofun
  | cons char rest ih =>
    by_cases kept : keep char = true
    · -- the run starts here and takes what is kept up to the first character that is not
      have whole : char :: rest = (char :: rest.takeWhile keep) ++ rest.dropWhile keep := by
        rw [List.cons_append, List.takeWhile_append_dropWhile]
      have maximal : MaximalRun keep [] (char :: rest.takeWhile keep) (rest.dropWhile keep) := {
        nonempty := List.cons_ne_nil _ _
        kept := List.forall_mem_cons.mpr ⟨kept, fun _ member => List.mem_takeWhile_imp member⟩
        stopsBefore := nofun
        stopsAfter := by
          intro next ending
          have stops := List.head?_dropWhile_not keep rest
          rw [Option.mem_def.mp ending] at stops
          exact stops }
      have parts := maximal.runs_eq
      rw [List.nil_append, ← whole, found, runs_nil, List.nil_append] at parts
      obtain ⟨rfl, rfl⟩ := List.cons.inj parts
      exact ⟨[], _, whole, maximal, rfl, rfl⟩
    · have dropped : keep char = false := Bool.eq_false_iff.mpr kept
      rw [runs_cons_of_not _ dropped] at found
      obtain ⟨front, back, rfl, maximal, empty, others⟩ := ih found
      refine ⟨char :: front, back, rfl, ⟨maximal.nonempty, maximal.kept, ?_, maximal.stopsAfter⟩, ?_, others⟩
      · intro last ending
        cases front with
        | nil =>
          obtain rfl : char = last := by simpa using ending
          exact dropped
        | cons first more => exact maximal.stopsBefore last (by simpa using ending)
      · rw [runs_cons_of_not _ dropped, empty]

/-- A maximal run of what follows another one is a maximal run of the whole text. -/
theorem MaximalRun.append {first middle : List Char} (outer : MaximalRun keep front first (middle ++ run ++ back))
    (inner : MaximalRun keep middle run back) : MaximalRun keep (front ++ first ++ middle) run back where
  nonempty := inner.nonempty
  kept := inner.kept
  stopsAfter := inner.stopsAfter
  stopsBefore := by
    intro last ending
    cases middle with
    | nil =>
      -- two runs do not touch
      obtain ⟨char, rest, rfl⟩ := List.exists_cons_of_ne_nil inner.nonempty
      have dropped : keep char = false := outer.stopsAfter char (by simp)
      simp [inner.kept char (List.mem_cons_self ..)] at dropped
    | cons char rest =>
      apply inner.stopsBefore last
      simpa [List.getLast?_append] using ending

/-- Each run in the list of runs is a maximal one of the text, with the earlier runs before it and the later
ones after it. The induction takes the first run and the text up to its end off together. -/
theorem exists_maximalRun_of_runs_eq {earlier later : List (List Char)}
    (found : runs keep chars = earlier ++ run :: later) :
    ∃ front back, chars = front ++ run ++ back ∧ MaximalRun keep front run back ∧ runs keep front = earlier ∧
      runs keep back = later := by
  induction earlier generalizing chars with
  | nil => exact exists_maximalRun_of_runs_eq_cons found
  | cons first rest ih =>
    obtain ⟨front, others, rfl, outer, empty, more⟩ := exists_maximalRun_of_runs_eq_cons found
    obtain ⟨middle, back, rfl, inner, before, after⟩ := ih more
    refine ⟨front ++ first ++ middle, back, by simp, outer.append inner, ?_, after⟩
    have part : MaximalRun keep front first middle := {
      nonempty := outer.nonempty
      kept := outer.kept
      stopsBefore := outer.stopsBefore
      stopsAfter := by
        intro next starting
        obtain ⟨tail, rfl⟩ := List.head?_eq_some_iff.mp starting
        exact outer.stopsAfter next (by simp) }
    rw [part.runs_eq, empty, before]
    rfl

/-! ## Positions of runs -/

theorem IsRunAt.ne_nil {position : ℕ} (occurs : IsRunAt keep chars run position) : run ≠ [] := by
  obtain ⟨_, _, _, _, maximal⟩ := occurs
  exact maximal.nonempty

/-- The runs of a text are its maximal runs. -/
theorem mem_runs_iff : run ∈ runs keep chars ↔ ∃ position, IsRunAt keep chars run position := by
  constructor
  · intro member
    obtain ⟨earlier, later, found⟩ := List.append_of_mem member
    obtain ⟨front, back, split, maximal, _⟩ := exists_maximalRun_of_runs_eq found
    exact ⟨front.length, front, back, split, rfl, maximal⟩
  · rintro ⟨_, front, back, rfl, _, maximal⟩
    rw [maximal.runs_eq]
    simp

/-- The kept end of a text, if it has one, is a run of it. -/
theorem trailing_mem_runs (nonempty : trailing keep chars ≠ []) : trailing keep chars ∈ runs keep chars := by
  have split : chars.rdropWhile keep ++ trailing keep chars = chars := List.rdropWhile_append_rtakeWhile
  have maximal : MaximalRun keep (chars.rdropWhile keep) (trailing keep chars) [] := {
    nonempty
    kept := fun _ => keep_of_mem_trailing
    stopsBefore := by
      intro last ending
      obtain ⟨some, rfl⟩ := List.mem_getLast?_eq_getLast ending
      exact Bool.eq_false_iff.mpr (List.rdropWhile_last_not keep chars some)
    stopsAfter := nofun }
  exact mem_runs_iff.mpr ⟨_, _, _, by rw [List.append_nil, split], rfl, maximal⟩

/-- A run that starts before another one is among the runs in front of that. -/
theorem IsRunAt.mem_runs_of_lt {position : ℕ} (other : IsRunAt keep chars run position) (split : chars = front ++ back)
    (stops : ∀ last ∈ front.getLast?, keep last = false) (earlier : position < front.length) :
    run ∈ runs keep front := by
  obtain ⟨before, after, whole, rfl, maximal⟩ := other
  have starts : before ++ run <+: chars := ⟨after, whole.symm⟩
  have covers : front <+: chars := ⟨back, split.symm⟩
  rcases List.prefix_or_prefix_of_prefix starts covers with ⟨rest, rfl⟩ | ⟨missing, same⟩
  · have part : MaximalRun keep before run rest := {
      nonempty := maximal.nonempty
      kept := maximal.kept
      stopsBefore := maximal.stopsBefore
      stopsAfter := by
        intro next starting
        obtain ⟨tail, rfl⟩ := List.head?_eq_some_iff.mp starting
        have parts : after = next :: tail ++ back := by
          rw [whole, List.append_assoc (before ++ run)] at split
          exact List.append_cancel_left split
        exact maximal.stopsAfter next (by simp [parts]) }
    rw [part.runs_eq]
    simp
  · -- the front would end inside the run, with a character that is kept
    rcases List.append_eq_append_iff.mp same with ⟨rest, rfl, _⟩ | ⟨inside, rfl, rfl⟩
    · rw [List.length_append] at earlier
      omega
    · rcases List.eq_nil_or_concat inside with rfl | ⟨init, last, rfl⟩
      · simp at earlier
      · have dropped : keep last = false := stops last (by simp)
        simp [maximal.kept last (by simp)] at dropped

end WordCompletion.Text

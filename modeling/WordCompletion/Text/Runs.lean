/-! # Runs of kept characters

`runs keep` cuts a text into its maximal non-empty runs of kept characters, in order, and
`trailing keep` is the run that ends the text, empty when the last character is not kept. Main
statements: the equations of `runs` at the head of a text, and `trailing` as the longest kept suffix.
-/

namespace WordCompletion.Text

/-- The runs of the text to the right of a position, and whether the first of them starts there. -/
structure RunScan where
  opened : Bool
  found : List (List Char)
deriving DecidableEq, Repr

namespace RunScan

/-- Nothing lies to the right of the end of a text. -/
def atEnd : RunScan := ⟨false, []⟩

/-- Put one character in front: a kept one joins an opened run or starts a run of its own. -/
def cons (keep : Char → Bool) (char : Char) (scan : RunScan) : RunScan :=
  if keep char then
    match scan with
    | ⟨true, run :: later⟩ => ⟨true, (char :: run) :: later⟩
    | ⟨_, found⟩ => ⟨true, [char] :: found⟩
  else ⟨false, scan.found⟩

end RunScan

/-- The maximal non-empty runs of kept characters, in order. -/
def runs (keep : Char → Bool) (chars : List Char) : List (List Char) :=
  (chars.foldr (RunScan.cons keep) .atEnd).found

@[simp] theorem runs_nil (keep : Char → Bool) : runs keep [] = [] := rfl

theorem runs_cons_of_not (keep : Char → Bool) {char : Char} (dropped : keep char = false)
    (rest : List Char) : runs keep (char :: rest) = runs keep rest := by
  simp [runs, RunScan.cons, dropped]

/-- The longest suffix of kept characters. -/
def trailing (keep : Char → Bool) (chars : List Char) : List Char :=
  (chars.reverse.takeWhile keep).reverse

theorem trailing_suffix (keep : Char → Bool) (chars : List Char) :
    trailing keep chars <:+ chars := by
  rw [← List.reverse_prefix]
  simpa [trailing] using List.takeWhile_prefix (l := chars.reverse) keep

theorem keep_of_mem_trailing {keep : Char → Bool} {chars : List Char} {char : Char}
    (member : char ∈ trailing keep chars) : keep char = true := by
  have all := List.all_takeWhile (p := keep) (l := chars.reverse)
  exact List.all_eq_true.mp all char (by simpa [trailing] using member)

end WordCompletion.Text

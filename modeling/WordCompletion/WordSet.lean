/-! # Sets of words in order of arrival

A word set holds each word once, in the order in which the words first arrived. Main statements: what
inserting one word, or a list of words, does to membership.
-/

namespace WordCompletion

/-- Distinct words, the earliest arrival first. -/
structure WordSet where
  toList : List String
  nodup : toList.Nodup
deriving DecidableEq, Repr

namespace WordSet

/-- The set without words. -/
def empty : WordSet := ⟨[], List.nodup_nil⟩

instance : EmptyCollection WordSet := ⟨empty⟩

instance : Inhabited WordSet := ⟨empty⟩

instance : Membership String WordSet := ⟨fun words word => word ∈ words.toList⟩

instance (word : String) (words : WordSet) : Decidable (word ∈ words) :=
  inferInstanceAs (Decidable (word ∈ words.toList))

/-- The number of words. -/
def size (words : WordSet) : Nat := words.toList.length

/-- Whether there is no word. -/
def isEmpty (words : WordSet) : Bool := words.toList.isEmpty

/-- Add a word at the end unless it is present. -/
def insert (words : WordSet) (word : String) : WordSet :=
  if absent : word ∈ words.toList then words
  else ⟨words.toList ++ [word], by
    rw [List.nodup_append]
    refine ⟨words.nodup, by simp, ?_⟩
    intro first member second last same
    obtain rfl := List.mem_singleton.mp last
    exact absent (same ▸ member)⟩

/-- Add the words of a list one after the other. -/
def insertAll (words : WordSet) (added : List String) : WordSet :=
  added.foldl insert words

/-- The words of a list, each at its first occurrence. -/
def ofList (words : List String) : WordSet := empty.insertAll words

theorem mem_iff {words : WordSet} {word : String} : word ∈ words ↔ word ∈ words.toList := Iff.rfl

@[simp] theorem not_mem_empty (word : String) : ¬ word ∈ empty := List.not_mem_nil

@[simp] theorem mem_insert {words : WordSet} {added word : String} :
    word ∈ words.insert added ↔ word ∈ words ∨ word = added := by
  simp only [mem_iff, insert]
  split
  · constructor
    · exact .inl
    · rintro (member | rfl) <;> assumption
  · simp

@[simp] theorem insertAll_nil (words : WordSet) : words.insertAll [] = words := rfl

@[simp] theorem insertAll_cons (words : WordSet) (word : String) (rest : List String) :
    words.insertAll (word :: rest) = (words.insert word).insertAll rest := rfl

theorem insertAll_append (words : WordSet) (front back : List String) :
    words.insertAll (front ++ back) = (words.insertAll front).insertAll back := by
  simp [insertAll]

@[simp] theorem mem_insertAll {words : WordSet} {added : List String} {word : String} :
    word ∈ words.insertAll added ↔ word ∈ words ∨ word ∈ added := by
  induction added generalizing words with
  | nil => simp
  | cons head rest ih => simp [ih, or_assoc]

@[simp] theorem mem_ofList {words : List String} {word : String} :
    word ∈ ofList words ↔ word ∈ words := by
  simp [ofList]

theorem insert_of_mem {words : WordSet} {word : String} (present : word ∈ words) :
    words.insert word = words := by
  simp [insert, mem_iff.mp present]

end WordSet

end WordCompletion

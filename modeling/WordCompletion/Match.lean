/-! # Rows of a lookup

A row is a stored word of one of two tiers. Primary rows score within the cutoff and come in their
final order; backup rows are offered when there are no primary ones and carry a key to sort them by.
-/

namespace WordCompletion

/-- A row of a lookup. -/
inductive Match where
  | primary (word : String)
  | backup (word : String) (sortKey : String)
deriving DecidableEq, Repr

namespace Match

/-- The stored word. -/
def word : Match → String
  | .primary word => word
  | .backup word _ => word

/-- The sort key of a backup row. -/
def sortKey? : Match → Option String
  | .primary _ => none
  | .backup _ key => some key

/-- The backup row of a stored word: its key is the word with ASCII capitals lowered. -/
def ofBackup (word : String) : Match :=
  .backup word (String.ofList (word.toList.map Char.toLower))

end Match

end WordCompletion

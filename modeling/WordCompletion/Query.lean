import WordCompletion.Text.Blank
import WordCompletion.Text.Runs
import WordCompletion.Words

/-! # Queries

A query asks for completions of a word and, beside it, of a symbol: the unbroken stretch of text that
the word ends. `Query.atCursor` reads both off the text before a cursor.
-/

namespace WordCompletion

/-- What a lookup searches for; a limitless one ignores the cap on the number of rows. -/
structure Query where
  word : String := ""
  sym : String := ""
  limitless : Bool := false
deriving DecidableEq, Repr, Inhabited

namespace Query

/-- The word characters, and the characters up to the last blank, that end the text. -/
def atCursor (text : String) : Query where
  word := String.ofList (Text.trailing isWordChar text.toList)
  sym := String.ofList (Text.trailing (fun char => !Text.isBlank char) text.toList)

@[simp] theorem atCursor_word_toList (text : String) :
    (atCursor text).word.toList = Text.trailing isWordChar text.toList := by
  simp [atCursor]

@[simp] theorem atCursor_sym_toList (text : String) :
    (atCursor text).sym.toList = Text.trailing (fun char => !Text.isBlank char) text.toList := by
  simp [atCursor]

end Query

end WordCompletion

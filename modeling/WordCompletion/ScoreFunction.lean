import WordCompletion.Error
import WordCompletion.Score

/-! # The score as a database function

Queries reach the score through a function of three arguments: the typed text, the candidate and the
look-ahead. The engine takes up to 32766 placeholders in a query and up to 1000 arguments in a call; it
checks how many arguments there are, then their types from the first to the last. A negative look-ahead
counts as zero. The function works with sizes of 64 bits, whose sums nothing checks.
-/

namespace WordCompletion

/-- A value as the database engine types it. -/
inductive SqlValue where
  | null
  | integer (value : Int64)
  | real (value : Binary64)
  | text (value : String)
  | blob (bytes : List UInt8)
deriving DecidableEq, Repr

namespace SqlValue

/-- The name of the type of a value. -/
def typeName : SqlValue → String
  | .null => "Null"
  | .integer _ => "Integer"
  | .real _ => "Real"
  | .text _ => "Text"
  | .blob _ => "Blob"

end SqlValue

namespace ScoreFunction

/-- The name of the function. -/
def name : String := "x_dissimilarity"

/-- A query that calls the function with a number of placeholders. -/
def query (arguments : Nat) : String :=
  "SELECT " ++ name ++ "(" ++ ", ".intercalate (List.replicate arguments "?") ++ ")"

/-- The rejection of an argument of the wrong type. -/
def wrongType (value : SqlValue) (index : Nat) : CacheError :=
  .ofStatement ("Invalid function parameter type " ++ value.typeName ++ " at index " ++
    toString index)

/-- The largest number of arguments in a call. -/
def maxArguments : Nat := 1000

/-- The largest number of placeholders in a query. -/
def maxPlaceholders : Nat := 32766

/-- The offset of a placeholder in a query. -/
def placeholderOffset (index : Nat) : Nat := "SELECT ".length + name.length + 1 + 3 * index

/-- The rejection of a call that does not have three arguments. -/
def wrongCount (arguments : Nat) : CacheError :=
  .ofStatement <|
    if maxPlaceholders < arguments then
      "too many SQL variables in " ++ query arguments ++ " at offset " ++
        toString (placeholderOffset maxPlaceholders)
    else if maxArguments < arguments then "too many arguments on function " ++ name
    else "wrong number of arguments to function " ++ name ++ "() in " ++ query arguments ++ " at offset 7"

/-- The look-ahead that a signed number asks for. -/
def lookAheadOf (value : Int64) : UInt64 := .ofNat value.toNatClampNeg

/-- The number of characters of a candidate that count against the characters typed. -/
def windowSize (typed : List Char) (lookAhead : UInt64) : UInt64 := .ofNat typed.length + lookAhead

/-- The score of a candidate against a typed text. -/
def score (typed candidate : String) (lookAhead : UInt64) : Score :=
  let typed := Text.lowercaseAll typed.toList
  if empty : typed = [] then .zero
  else .ofBags typed ((Text.lowercaseAll candidate.toList).take (windowSize typed lookAhead).toNat) empty

/-- Call the function. -/
def call : List SqlValue → Except CacheError Score
  | [first, second, third] =>
    match first, second, third with
    | .text typed, .text candidate, .integer lookAhead =>
      .ok (score typed candidate (lookAheadOf lookAhead))
    | .text _, .text _, value => .error (wrongType value 2)
    | .text _, value, _ => .error (wrongType value 1)
    | value, _, _ => .error (wrongType value 0)
  | arguments => .error (wrongCount arguments.length)

end ScoreFunction

end WordCompletion

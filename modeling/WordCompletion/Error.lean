import WordCompletion.EngineCode
import WordCompletion.Options

/-! # Errors of the word store

What a call on the store can fail with, and the report of each failure. A failure of the store's
engine while it runs a statement is operational: a lookup answers it with no rows.
-/

namespace WordCompletion

/-- What the engine itself reports. -/
inductive EngineFault where
  /-- A statement failed with a result code and, mostly, a text of its own. -/
  | statement (code : EngineCode) (text : Option String)
  /-- A query that must have a row had none. -/
  | noRows
  /-- There is no column of this name. -/
  | columnName (name : String)
deriving DecidableEq, Repr

/-- The report of an engine fault. -/
def EngineFault.message : EngineFault → String
  | .statement _ (some text) => text
  | .statement code none => "Error code " ++ toString code.value ++ ": " ++ code.describe
  | .noRows => "Query returned no rows"
  | .columnName name => "Invalid column name: " ++ name

/-- A failure of the connection to the engine. -/
inductive DatabaseFault where
  | engine (fault : EngineFault)
  | connectionClosed
  | closeFailed (fault : EngineFault)
deriving DecidableEq, Repr

/-- The report of a failed connection, in which the text of an engine fault stands as it is. -/
def DatabaseFault.message : DatabaseFault → String
  | .engine fault => "Error(\"" ++ fault.message ++ "\")"
  | .connectionClosed => "ConnectionClosed"
  | .closeFailed fault => "Close((Connection, \"" ++ fault.message ++ "\"))"

/-- A failure of a call on the store. -/
inductive CacheError where
  | invalidInput (reason : String)
  | database (fault : DatabaseFault)
  | migrationFailed (reason : String)
  | cancelled
  | interruptFailed (reason : String)
deriving DecidableEq, Repr

namespace CacheError

/-- The report of a failed call. -/
def message : CacheError → String
  | .invalidInput reason => "INVALID_INPUT: " ++ reason
  | .database fault => "CACHE_ERROR: " ++ fault.message
  | .migrationFailed reason => "CACHE_ERROR: migration failed: " ++ reason
  | .cancelled => "CANCELLED"
  | .interruptFailed reason => "INTERRUPT_FAILED: " ++ reason

/-- The engine failed while it ran a statement. -/
def isOperational : CacheError → Bool
  | .database (.engine (.statement _ _)) => true
  | _ => false

/-- The rejection of a setting out of range. -/
def ofInvalidSetting (setting : InvalidSetting) : CacheError :=
  .invalidInput setting.message

/-- The rejection of a statement with a text of its own. -/
def ofStatement (text : String) : CacheError :=
  .database (.engine (.statement .failed (some text)))

end CacheError

end WordCompletion

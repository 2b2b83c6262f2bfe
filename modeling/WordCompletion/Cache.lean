import WordCompletion.Lookup

/-! # Word caches and their handles

A cache is reached through handles. Opening makes a new cache with one handle, cloning a further
handle to the same cache, and every other step acts through one handle on the cache behind it. Only
insertions and clearing lookups change what a cache stores. The engine takes every string as a word; its
limit of a thousand million bytes on a string is left out, unlike the one on patterns. One step ends before
the next begins, and no lookup is interrupted while it runs; of the lookups that are given up before they have
begun only those are steps that do not clear. Main statements concern runs: a run is the fold of its steps.
-/

namespace WordCompletion

/-- A lookup as it is asked for; one whose token is already cancelled does nothing. -/
structure Request where
  clear : Bool := false
  options : MatchOptions := {}
  query : Query := {}
  cancelled : Bool := false
deriving Repr

namespace WordSet

/-- Answer a request. Options out of range are refused before the token is looked at, and a clearing
request has no options; then the request clears the words or looks them up. -/
def select (words : WordSet) (request : Request) : Except CacheError (List Match) × WordSet :=
  match (if request.clear then .ok () else request.options.validate) with
  | .error setting => (.error (.ofInvalidSetting setting), words)
  | .ok () =>
    if request.cancelled then (.error .cancelled, words)
    else if request.clear then (.ok [], empty)
    else ((Lookup.prepare request.options request.query).answer words.toList, words)

/-- A request that fails leaves the words as they are. -/
theorem select_error {words : WordSet} {request : Request} {error : CacheError}
    (failed : (words.select request).1 = .error error) : (words.select request).2 = words := by
  unfold select at failed ⊢
  split
  · rfl
  · by_cases cancelled : request.cancelled = true
    · simp [cancelled]
    · by_cases clear : request.clear = true <;> simp_all

end WordSet

/-- All caches, and for each handle the number of the cache behind it. -/
structure Caches where
  stores : List WordSet
  handles : List Nat
deriving Repr

/-- What is done through a handle. -/
inductive Action where
  /-- Open a further cache. -/
  | openCache
  /-- Make a further handle to the same cache. -/
  | cloneHandle
  | insert (words : List String)
  | ingest (text : String) (minimum : Nat)
  | len
  | isEmpty
  | select (request : Request)
  /-- A lookup that is started and given up before it answers. -/
  | dropSelect (options : MatchOptions)
deriving Repr

/-- What a step answers. -/
inductive Answer where
  | done
  | handle (index : Nat)
  | count (number : Nat)
  | flag (value : Bool)
  | rows (found : List Match)
  | dropped
deriving DecidableEq, Repr

/-- An action through the handle with a number. -/
structure Step where
  handle : Nat := 0
  action : Action
deriving Repr

namespace Caches

/-- One empty cache with one handle. -/
def single : Caches := ⟨[.empty], [0]⟩

/-- The words behind a handle. -/
def words? (caches : Caches) (handle : Nat) : Option WordSet := do
  caches.stores[← caches.handles[handle]?]?

/-- The number of words behind every handle. -/
def sizes (caches : Caches) : List Nat :=
  caches.handles.map fun store => (caches.stores[store]?.getD .empty).size

/-- Take one step, if its handle exists. -/
def step? (caches : Caches) (step : Step) : Option (Except CacheError Answer × Caches) := do
  let store ← caches.handles[step.handle]?
  let words ← caches.stores[store]?
  let put (changed : WordSet) : Caches := { caches with stores := caches.stores.set store changed }
  match step.action with
  | .openCache =>
    return (.ok (.handle caches.handles.length),
      ⟨caches.stores ++ [.empty], caches.handles ++ [caches.stores.length]⟩)
  | .cloneHandle =>
    return (.ok (.handle caches.handles.length), { caches with handles := caches.handles ++ [store] })
  | .insert added => return (.ok .done, put (words.insertAll added))
  | .ingest text minimum =>
    let offered := wordsOf text minimum
    return (.ok (.count offered.size), put (words.insertAll offered.toList))
  | .len => return (.ok (.count words.size), caches)
  | .isEmpty => return (.ok (.flag words.isEmpty), caches)
  | .select request =>
    let (answer, changed) := words.select request
    return (answer.map .rows, put changed)
  | .dropSelect options =>
    match options.validate with
    | .error setting => return (.error (.ofInvalidSetting setting), caches)
    | .ok () => return (.ok .dropped, caches)

/-- Take steps one after the other, and report after each its answer and the sizes behind all
handles; no value if a step names a handle that does not exist. -/
def run? (caches : Caches) : List Step → Option (List (Except CacheError Answer × List Nat) × Caches)
  | [] => some ([], caches)
  | step :: rest => do
    let (answer, next) ← caches.step? step
    let (reports, last) ← next.run? rest
    return ((answer, next.sizes) :: reports, last)

end Caches

end WordCompletion

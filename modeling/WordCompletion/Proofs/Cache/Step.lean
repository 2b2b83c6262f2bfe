import Mathlib.Data.List.Basic
import WordCompletion.Cache

/-! # What one step does

A step answers from the words behind its handle, changes these words at most, and makes at most one
handle. Main statement: a step succeeds exactly on a handle that exists, and then it is this answer and
these changes, whatever the action is.
-/

namespace WordCompletion

namespace Action

/-- The words that an action adds to the cache behind its handle. -/
def offers : Action → List String
  | .insert added => added
  | .ingest text minimum => (wordsOf text minimum).toList
  | _ => []

/-- The action empties the cache behind its handle: it is a clearing lookup that nobody cancelled. -/
def clears : Action → Bool
  | .select request => request.clear && !request.cancelled
  | _ => false

/-- The action makes a handle. -/
def makesHandle : Action → Bool
  | .openCache | .cloneHandle => true
  | _ => false

/-- The words behind the handle after the action. -/
def after (action : Action) (words : WordSet) : WordSet :=
  if action.clears then .empty else words.insertAll action.offers

/-- The caches that the action opens. -/
def opened : Action → List WordSet
  | .openCache => [.empty]
  | _ => []

/-- The cache behind the handle that the action makes, given the number of caches and the cache that
it acts on. -/
def made (caches store : ℕ) : Action → List ℕ
  | .openCache => [caches]
  | .cloneHandle => [store]
  | _ => []

/-- The answer of an action on some words, when there is a number of handles. -/
def answer (action : Action) (words : WordSet) (handles : ℕ) : Except CacheError Answer :=
  match action with
  | .openCache | .cloneHandle => .ok (.handle handles)
  | .insert _ => .ok .done
  | .ingest text minimum => .ok (.count (wordsOf text minimum).size)
  | .len => .ok (.count words.size)
  | .isEmpty => .ok (.flag words.isEmpty)
  | .select request => (words.select request).1.map .rows
  | .dropSelect options =>
    match options.validate with
    | .error setting => .error (.ofInvalidSetting setting)
    | .ok () => .ok .dropped

theorem after_of_idle {action : Action} (adds : action.offers = []) (keeps : action.clears = false)
    (words : WordSet) : action.after words = words := by
  simp [after, adds, keeps]

theorem mem_after {action : Action} {words : WordSet} {word : String} :
    word ∈ action.after words ↔ word ∈ action.offers ∨ (word ∈ words ∧ action.clears = false) := by
  cases clears : action.clears with
  | false => simp [after, clears, or_comm]
  | true =>
    -- only lookups clear, and they add nothing
    have adds : action.offers = [] := by cases action <;> first | rfl | simp [Action.clears] at clears
    simp [after, clears, adds]

theorem length_made (action : Action) (caches store : ℕ) :
    (action.made caches store).length = action.makesHandle.toNat := by
  cases action <;> rfl

/-- Actions make the next handle, or none. -/
theorem lt_or_made {action : Action} {number handles : ℕ} (below : number < handles + action.makesHandle.toNat) :
    number < handles ∨ (number = handles ∧ (action = .openCache ∨ action = .cloneHandle)) := by
  cases action with
  | openCache => exact (Nat.lt_succ_iff_lt_or_eq.mp below).imp_right fun last => ⟨last, .inl rfl⟩
  | cloneHandle => exact (Nat.lt_succ_iff_lt_or_eq.mp below).imp_right fun last => ⟨last, .inr rfl⟩
  | _ => exact .inl below

end Action

/-- A request leaves nothing behind if it clears, and else what was there. -/
theorem WordSet.select_snd (words : WordSet) (request : Request) :
    (words.select request).2 = (Action.select request).after words := by
  cases clear : request.clear with
  | true => cases cancelled : request.cancelled <;> simp [select, Action.after, Action.clears, Action.offers,
      clear, cancelled]
  | false =>
    have idle : (Action.select request).after words = words :=
      Action.after_of_idle rfl (by simp [Action.clears, clear]) words
    simp only [select, clear, Bool.false_eq_true, if_false, idle]
    split
    · rfl
    · split_ifs <;> rfl

namespace Caches

/-- The caches after an action on the store with the given number and words. -/
def acted (caches : Caches) (action : Action) (store : ℕ) (words : WordSet) : Caches where
  stores := caches.stores.set store (action.after words) ++ action.opened
  handles := caches.handles ++ action.made caches.stores.length store

theorem words?_eq_some_iff {caches : Caches} {handle : ℕ} {words : WordSet} :
    caches.words? handle = some words ↔
      ∃ store, caches.handles[handle]? = some store ∧ caches.stores[store]? = some words := by
  simp [words?, Option.bind_eq_some_iff]

theorem set_of_behind {caches : Caches} {store : ℕ} {words : WordSet}
    (behind : caches.stores[store]? = some words) : caches.stores.set store words = caches.stores := by
  obtain ⟨bound, same⟩ := List.getElem?_eq_some_iff.mp behind
  rw [← same, List.set_getElem_self]

/-- An action that adds, clears and makes nothing leaves all caches as they are. -/
theorem acted_of_idle {caches : Caches} {action : Action} {store : ℕ} {words : WordSet}
    (behind : caches.stores[store]? = some words) (adds : action.offers = []) (keeps : action.clears = false)
    (opens : action.opened = []) (makes : action.made caches.stores.length store = []) :
    caches.acted action store words = caches := by
  simp [acted, action.after_of_idle adds keeps, set_of_behind behind, opens, makes]

/-- A step on a handle that exists answers, and changes no more than the cache behind it. -/
theorem step?_eq {caches : Caches} {step : Step} {store : ℕ} {words : WordSet}
    (handle : caches.handles[step.handle]? = some store) (behind : caches.stores[store]? = some words) :
    caches.step? step = some (step.action.answer words caches.handles.length,
      caches.acted step.action store words) := by
  have kept := set_of_behind behind
  obtain ⟨number, action⟩ := step
  simp only [step?, handle, behind, Option.bind_eq_bind, Option.bind_some, Option.pure_def]
  cases action with
  | openCache =>
    have idle : Action.openCache.after words = words := Action.after_of_idle rfl rfl words
    simp [acted, idle, kept, Action.opened, Action.made, Action.answer]
  | cloneHandle =>
    have idle : Action.cloneHandle.after words = words := Action.after_of_idle rfl rfl words
    simp [acted, idle, kept, Action.opened, Action.made, Action.answer]
  | insert added => simp [acted, Action.after, Action.offers, Action.clears, Action.opened, Action.made,
      Action.answer]
  | ingest text minimum => simp [acted, Action.after, Action.offers, Action.clears, Action.opened, Action.made,
      Action.answer]
  | len => rw [acted_of_idle behind rfl rfl rfl rfl, Action.answer]
  | isEmpty => rw [acted_of_idle behind rfl rfl rfl rfl, Action.answer]
  | select request => simp [acted, WordSet.select_snd, Action.opened, Action.made, Action.answer]
  | dropSelect options =>
    rw [acted_of_idle behind rfl rfl rfl rfl]
    simp only [Action.answer]
    cases options.validate <;> rfl

/-- A step that answers goes through a handle that exists. -/
theorem of_step? {caches next : Caches} {step : Step} {answer : Except CacheError Answer}
    (success : caches.step? step = some (answer, next)) :
    ∃ store words, caches.handles[step.handle]? = some store ∧ caches.stores[store]? = some words ∧
      answer = step.action.answer words caches.handles.length ∧ next = caches.acted step.action store words := by
  obtain ⟨store, handle, found⟩ := Option.bind_eq_some_iff.mp success
  obtain ⟨words, behind, _⟩ := Option.bind_eq_some_iff.mp found
  rw [step?_eq handle behind, Option.some_inj, Prod.mk.injEq] at success
  exact ⟨store, words, handle, behind, success.1.symm, success.2.symm⟩

/-! ## The caches after a step -/

/-- Every handle stands for a cache that exists. -/
def WellFormed (caches : Caches) : Prop :=
  ∀ handle store : ℕ, caches.handles[handle]? = some store → store < caches.stores.length

theorem WellFormed.words?_eq_some {caches : Caches} (wellFormed : caches.WellFormed) {handle : ℕ}
    (present : handle < caches.handles.length) : ∃ store words, caches.handles[handle]? = some store ∧
      caches.stores[store]? = some words ∧ caches.words? handle = some words := by
  have behind := List.getElem?_eq_getElem present
  have stored := List.getElem?_eq_getElem (wellFormed handle _ behind)
  exact ⟨_, _, behind, stored, words?_eq_some_iff.mpr ⟨_, behind, stored⟩⟩

section Acted

variable {caches : Caches} {action : Action} {store : ℕ} {words : WordSet}

/-- Handles keep the cache that they stand for. -/
theorem handles_acted {handle : ℕ} (present : handle < caches.handles.length) :
    (caches.acted action store words).handles[handle]? = caches.handles[handle]? :=
  List.getElem?_append_left present

theorem length_handles_acted :
    (caches.acted action store words).handles.length = caches.handles.length + action.makesHandle.toNat := by
  rw [acted, List.length_append, Action.length_made]

theorem stores_acted_self (behind : caches.stores[store]? = some words) :
    (caches.acted action store words).stores[store]? = some (action.after words) := by
  obtain ⟨bound, _⟩ := List.getElem?_eq_some_iff.mp behind
  rw [acted, List.getElem?_append_left (by simpa using bound), List.getElem?_set_self bound]

theorem stores_acted_of_ne {other : ℕ} (different : other ≠ store) {kept : WordSet}
    (behind : caches.stores[other]? = some kept) :
    (caches.acted action store words).stores[other]? = some kept := by
  obtain ⟨bound, _⟩ := List.getElem?_eq_some_iff.mp behind
  rw [acted, List.getElem?_append_left (by simpa using bound), List.getElem?_set_ne different.symm, behind]

/-- A cache after the action is the one acted on, another one as it was, or a new one. -/
theorem of_stores_acted {other : ℕ} {changed : WordSet} (behind : caches.stores[store]? = some words)
    (found : (caches.acted action store words).stores[other]? = some changed) :
    (other = store ∧ changed = action.after words) ∨
      (other ≠ store ∧ caches.stores[other]? = some changed) ∨
        (other = caches.stores.length ∧ changed = .empty) := by
  by_cases same : other = store
  · subst same
    rw [stores_acted_self behind] at found
    exact .inl ⟨rfl, (Option.some.inj found).symm⟩
  · by_cases bound : other < caches.stores.length
    · have kept := List.getElem?_eq_getElem bound
      rw [stores_acted_of_ne same kept] at found
      exact .inr (.inl ⟨same, kept.trans found⟩)
    · rw [acted, List.getElem?_append_right (by simpa using bound), List.length_set] at found
      obtain ⟨opens, first⟩ := List.getElem?_eq_some_iff.mp found
      cases action with
      | openCache =>
        simp only [Action.opened, List.length_singleton] at opens
        simp only [Action.opened, List.getElem_singleton] at first
        exact .inr (.inr ⟨by omega, first.symm⟩)
      | _ => simp [Action.opened] at opens

/-- A clone stands for the cache of the handle that was acted through. -/
theorem handles_acted_cloneHandle :
    (caches.acted .cloneHandle store words).handles[caches.handles.length]? = some store := by
  simp [acted, Action.made]

/-- The handle of a new cache stands for no earlier cache. -/
theorem handles_acted_openCache :
    (caches.acted .openCache store words).handles[caches.handles.length]? = some caches.stores.length := by
  simp [acted, Action.made]

/-- Every handle to the cache acted on sees the change. -/
theorem words?_acted_self (behind : caches.stores[store]? = some words) {other : ℕ}
    (handle : caches.handles[other]? = some store) :
    (caches.acted action store words).words? other = some (action.after words) := by
  obtain ⟨present, _⟩ := List.getElem?_eq_some_iff.mp handle
  exact words?_eq_some_iff.mpr ⟨store, (handles_acted present).trans handle, stores_acted_self behind⟩

theorem words?_acted_cloneHandle (behind : caches.stores[store]? = some words) :
    (caches.acted .cloneHandle store words).words? caches.handles.length = some words :=
  words?_eq_some_iff.mpr ⟨store, handles_acted_cloneHandle, stores_acted_self behind⟩

theorem words?_acted_openCache :
    (caches.acted .openCache store words).words? caches.handles.length = some .empty := by
  refine words?_eq_some_iff.mpr ⟨caches.stores.length, handles_acted_openCache, ?_⟩
  simp [acted, Action.opened]

/-- A handle to another cache, or any handle if the action changes nothing, sees what it saw. -/
theorem words?_acted (wellFormed : caches.WellFormed) (behind : caches.stores[store]? = some words) {other : ℕ}
    (present : other < caches.handles.length)
    (kept : caches.handles[other]? ≠ some store ∨ action.after words = words) :
    (caches.acted action store words).words? other = caches.words? other := by
  obtain ⟨beside, others, handle, stored, seen⟩ := wellFormed.words?_eq_some present
  rw [seen, words?_eq_some_iff]
  refine ⟨beside, (handles_acted present).trans handle, ?_⟩
  by_cases same : beside = store
  · subst same
    have idle := kept.resolve_left (not_not.mpr handle)
    rw [stores_acted_self behind, idle, ← behind, stored]
  · exact stores_acted_of_ne same stored

/-- A handle after the action is an earlier one, or it is the next one and the action makes it. -/
theorem of_handles_acted {handle other : ℕ}
    (found : (caches.acted action store words).handles[handle]? = some other) :
    caches.handles[handle]? = some other ∨
      (handle = caches.handles.length ∧ (action = .openCache ∨ action = .cloneHandle)) := by
  by_cases old : handle < caches.handles.length
  · exact .inl ((handles_acted old).symm.trans found)
  · obtain ⟨bound, _⟩ := List.getElem?_eq_some_iff.mp found
    rw [length_handles_acted] at bound
    exact .inr ((Action.lt_or_made bound).resolve_left old)

/-- A new handle and an earlier one stand for the same cache if the new one is a clone, and the earlier
one stands for the cache that was acted on. -/
theorem shares_made_iff (wellFormed : caches.WellFormed) (made : action = .openCache ∨ action = .cloneHandle)
    {other : ℕ} (present : other < caches.handles.length) :
    (caches.acted action store words).handles[caches.handles.length]? =
        (caches.acted action store words).handles[other]? ↔
      action = .cloneHandle ∧ caches.handles[other]? = some store := by
  obtain ⟨beside, _, handle, _⟩ := wellFormed.words?_eq_some present
  have below := wellFormed other beside handle
  rw [handles_acted present, handle]
  obtain rfl | rfl := made
  · simp [handles_acted_openCache, Nat.ne_of_gt below]
  · simp [handles_acted_cloneHandle, eq_comm]

theorem wellFormed_acted (wellFormed : caches.WellFormed) (behind : caches.stores[store]? = some words) :
    (caches.acted action store words).WellFormed := by
  obtain ⟨bound, _⟩ := List.getElem?_eq_some_iff.mp behind
  have grown : (caches.acted action store words).stores.length =
      caches.stores.length + action.opened.length := by simp [acted]
  intro handle other found
  obtain kept | ⟨rfl, rfl | rfl⟩ := of_handles_acted found
  · have below := wellFormed handle other kept
    omega
  · rw [handles_acted_openCache, Option.some_inj] at found
    simp only [Action.opened, List.length_singleton] at grown
    omega
  · rw [handles_acted_cloneHandle, Option.some_inj] at found
    omega

end Acted

end Caches

end WordCompletion

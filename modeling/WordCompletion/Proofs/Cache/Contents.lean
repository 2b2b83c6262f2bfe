import Mathlib.Logic.Relation
import WordCompletion.Proofs.Cache.Step
import WordCompletion.Proofs.WordSet

/-! # What the caches store after a run

What a run leaves behind can be told from its steps alone. Handles are numbered as they are made, the
clones of a handle form a group with it, and behind a group are the words that were inserted through it
since it was last cleared. The invariant says so of every state of a run: two handles stand for the same
cache exactly if they are of one group, and each cache has the words of its group.
-/

namespace WordCompletion

namespace Run

/-! ## What the steps say -/

/-- The number of handles after some steps. -/
def handlesAfter (start : ℕ) (steps : List Step) : ℕ :=
  start + steps.countP (·.action.makesHandle)

/-- Every step goes through a handle that exists by then. -/
def Addressed : ℕ → List Step → Prop
  | _, [] => True
  | handles, step :: rest => step.handle < handles ∧ Addressed (handles + step.action.makesHandle.toNat) rest

instance decidableAddressed : ∀ handles steps, Decidable (Addressed handles steps)
  | _, [] => inferInstanceAs (Decidable True)
  | handles, step :: rest =>
    have := decidableAddressed (handles + step.action.makesHandle.toNat) rest
    inferInstanceAs (Decidable (_ ∧ _))

/-- A step makes the second handle as a clone of the first. -/
def CloneOf (steps : List Step) (parent child : ℕ) : Prop :=
  ∃ front step back, steps = front ++ step :: back ∧
    step = ⟨parent, .cloneHandle⟩ ∧ child = handlesAfter 1 front

/-- Handles are of one group if cloning connects them. -/
def SameGroup (steps : List Step) : ℕ → ℕ → Prop :=
  Relation.EqvGen (CloneOf steps)

/-- A step through one of the handles adds the word, and no later one through any of them clears. -/
def InsertedSince (through : ℕ → Prop) (steps : List Step) (word : String) : Prop :=
  ∃ front step back, steps = front ++ step :: back ∧ through step.handle ∧ word ∈ step.action.offers ∧
    ∀ later ∈ back, through later.handle → later.action.clears = false

/-- The words inserted through the group of a handle since it was last cleared. -/
def storedWords (steps : List Step) (handle : ℕ) : Set String :=
  {word | InsertedSince (SameGroup steps handle) steps word}

/-! ## One step more -/

/-- A list with one more item at its end is split at that item or before it. -/
theorem exists_split_append_singleton {Item : Type*} {Holds : List Item → Item → List Item → Prop}
    {items : List Item} {last : Item} :
    (∃ front item back, items ++ [last] = front ++ item :: back ∧ Holds front item back) ↔
      Holds items last [] ∨
        ∃ front item back, items = front ++ item :: back ∧ Holds front item (back ++ [last]) := by
  constructor
  · rintro ⟨front, item, back, same, holds⟩
    rcases List.eq_nil_or_concat back with rfl | ⟨back, other, rfl⟩
    · obtain ⟨rfl, rfl⟩ := List.append_singleton_inj.mp same
      exact .inl holds
    · rw [List.concat_eq_append, ← List.cons_append, ← List.append_assoc] at same
      obtain ⟨rfl, rfl⟩ := List.append_singleton_inj.mp same
      exact .inr ⟨front, item, back, rfl, by simpa using holds⟩
  · rintro (holds | ⟨front, item, back, rfl, holds⟩)
    · exact ⟨items, last, [], rfl, holds⟩
    · exact ⟨front, item, back ++ [last], by simp, holds⟩

theorem handlesAfter_append_singleton (start : ℕ) (steps : List Step) (step : Step) :
    handlesAfter start (steps ++ [step]) = handlesAfter start steps + step.action.makesHandle.toNat := by
  cases makes : step.action.makesHandle <;> simp [handlesAfter, makes, Nat.add_assoc]

theorem cloneOf_append_singleton {steps : List Step} {step : Step} {parent child : ℕ} :
    CloneOf (steps ++ [step]) parent child ↔
      (step = ⟨parent, .cloneHandle⟩ ∧ child = handlesAfter 1 steps) ∨ CloneOf steps parent child :=
  exists_split_append_singleton

theorem SameGroup.append_singleton {steps : List Step} {first second : ℕ} (same : SameGroup steps first second)
    (step : Step) : SameGroup (steps ++ [step]) first second := by
  have kept : CloneOf steps ≤ CloneOf (steps ++ [step]) :=
    fun _ _ cloned => cloneOf_append_singleton.mpr (.inr cloned)
  exact Relation.EqvGen.mono kept first second same

theorem insertedSince_append_singleton {through : ℕ → Prop} {steps : List Step} {step : Step} {word : String} :
    InsertedSince through (steps ++ [step]) word ↔
      (through step.handle ∧ word ∈ step.action.offers) ∨
        (InsertedSince through steps word ∧ (through step.handle → step.action.clears = false)) := by
  refine exists_split_append_singleton.trans (or_congr (by simp) ?_)
  constructor
  · rintro ⟨front, item, back, same, reached, offered, kept⟩
    refine ⟨⟨front, item, back, same, reached, offered, fun later member => ?_⟩, ?_⟩
    · exact kept later (List.mem_append_left _ member)
    · exact kept step (by simp)
  · rintro ⟨⟨front, item, back, same, reached, offered, kept⟩, last⟩
    refine ⟨front, item, back, same, reached, offered, fun later member => ?_⟩
    rcases List.mem_append.mp member with member | member
    · exact kept later member
    · obtain rfl := List.mem_singleton.mp member
      exact last

theorem InsertedSince.imp {through others : ℕ → Prop} {steps : List Step} {word : String}
    (agree : ∀ step ∈ steps, through step.handle ↔ others step.handle)
    (inserted : InsertedSince through steps word) : InsertedSince others steps word := by
  obtain ⟨front, step, back, rfl, reached, offered, kept⟩ := inserted
  refine ⟨front, step, back, rfl, (agree step (by simp)).mp reached, offered, fun later member other => ?_⟩
  exact kept later member ((agree later (by simp [member])).mpr other)

/-- Only what is said of the handles of the steps matters. -/
theorem insertedSince_congr {through others : ℕ → Prop} {steps : List Step} {word : String}
    (agree : ∀ step ∈ steps, through step.handle ↔ others step.handle) :
    InsertedSince through steps word ↔ InsertedSince others steps word :=
  ⟨.imp agree, .imp fun step member => (agree step member).symm⟩

/-! ## Runs -/

theorem run?_cons_eq_some {caches final : Caches} {step : Step} {rest : List Step}
    {reports : List (Except CacheError Answer × List ℕ)} :
    caches.run? (step :: rest) = some (reports, final) ↔
      ∃ answer next more, caches.step? step = some (answer, next) ∧ next.run? rest = some (more, final) ∧
        reports = (answer, next.sizes) :: more := by
  constructor
  · intro run
    obtain ⟨⟨answer, next⟩, stepped, found⟩ := Option.bind_eq_some_iff.mp run
    obtain ⟨⟨more, last⟩, continued, same⟩ := Option.bind_eq_some_iff.mp found
    obtain ⟨rfl, rfl⟩ := Prod.mk.inj (Option.some.inj same)
    exact ⟨answer, next, more, stepped, continued, rfl⟩
  · rintro ⟨answer, next, more, stepped, run, rfl⟩
    simp [Caches.run?, stepped, run]

/-- A run succeeds if every step goes through a handle that exists by then. -/
theorem exists_run? {caches : Caches} {steps : List Step} (wellFormed : caches.WellFormed)
    (addressed : Addressed caches.handles.length steps) :
    ∃ reports final, caches.run? steps = some (reports, final) := by
  induction steps generalizing caches with
  | nil => exact ⟨[], caches, rfl⟩
  | cons step rest ih =>
    obtain ⟨present, addressed⟩ := addressed
    obtain ⟨store, words, handle, behind, _⟩ := wellFormed.words?_eq_some present
    have stepped := Caches.step?_eq handle behind
    have next : (caches.acted step.action store words).WellFormed := Caches.wellFormed_acted wellFormed behind
    obtain ⟨more, final, run⟩ := ih next (Caches.length_handles_acted ▸ addressed)
    exact ⟨_, final, run?_cons_eq_some.mpr ⟨_, _, more, stepped, run, rfl⟩⟩

/-- A run passes each of its steps in the state that the steps before it lead to. -/
theorem run?_split {caches final : Caches} {front back : List Step} {step : Step}
    {reports : List (Except CacheError Answer × List ℕ)}
    (run : caches.run? (front ++ step :: back) = some (reports, final)) :
    ∃ before middle answer next, caches.run? front = some (before, middle) ∧
      middle.step? step = some (answer, next) ∧ reports[front.length]? = some (answer, next.sizes) := by
  induction front generalizing caches reports with
  | nil =>
    obtain ⟨answer, next, more, stepped, _, rfl⟩ := run?_cons_eq_some.mp run
    exact ⟨[], caches, answer, next, rfl, stepped, rfl⟩
  | cons first front ih =>
    obtain ⟨answer, next, more, stepped, continued, rfl⟩ := run?_cons_eq_some.mp run
    obtain ⟨before, middle, later, after, earlier, last, report⟩ := ih continued
    exact ⟨_, middle, later, after, run?_cons_eq_some.mpr ⟨_, _, _, stepped, earlier, rfl⟩, last, report⟩

/-! ## The invariant -/

/-- The caches are those that a run of the steps leads to. -/
structure Tracks (steps : List Step) (caches : Caches) : Prop where
  wellFormed : caches.WellFormed
  length : caches.handles.length = handlesAfter 1 steps
  reached : ∀ step ∈ steps, step.handle < caches.handles.length
  cloned : ∀ parent child, CloneOf steps parent child →
    ∃ store, caches.handles[parent]? = some store ∧ caches.handles[child]? = some store
  grouped : ∀ first second store, caches.handles[first]? = some store →
    caches.handles[second]? = some store → SameGroup steps first second
  contents : ∀ store words, caches.stores[store]? = some words → ∀ word,
    word ∈ words ↔ InsertedSince (caches.handles[·]? = some store) steps word

theorem tracks_single : Tracks [] .single where
  wellFormed := by
    intro handle store behind
    obtain rfl : store = 0 := List.mem_singleton.mp (List.mem_of_getElem? behind)
    exact Nat.one_pos
  length := rfl
  reached := by simp
  cloned := by
    rintro parent child ⟨front, step, back, same, _⟩
    simp at same
  grouped := by
    intro first second store behind beside
    obtain ⟨bound, _⟩ := List.getElem?_eq_some_iff.mp behind
    obtain ⟨bound', _⟩ := List.getElem?_eq_some_iff.mp beside
    obtain rfl : first = 0 := Nat.lt_one_iff.mp bound
    obtain rfl : second = 0 := Nat.lt_one_iff.mp bound'
    exact .refl 0
  contents := by
    intro store words behind word
    obtain rfl : words = .empty := List.mem_singleton.mp (List.mem_of_getElem? behind)
    constructor
    · exact fun member => absurd member (WordSet.not_mem_empty word)
    · rintro ⟨front, step, back, same, _⟩
      simp at same

variable {steps : List Step} {caches : Caches}

/-- Cloning never leaves a cache. -/
theorem Tracks.handles_eq (tracks : Tracks steps caches) {first second : ℕ}
    (same : SameGroup steps first second) : caches.handles[first]? = caches.handles[second]? := by
  induction same with
  | rel parent child cloned =>
    obtain ⟨store, behind, beside⟩ := tracks.cloned parent child cloned
    exact behind.trans beside.symm
  | refl handle => rfl
  | symm first second _ ih => exact ih.symm
  | trans first second third _ _ ih ih' => exact ih.trans ih'

theorem Tracks.sameGroup_iff (tracks : Tracks steps caches) {first second : ℕ}
    (present : first < caches.handles.length) :
    SameGroup steps first second ↔ caches.handles[first]? = caches.handles[second]? := by
  refine ⟨tracks.handles_eq, fun same => ?_⟩
  have behind := List.getElem?_eq_getElem present
  exact tracks.grouped first second _ behind (same.symm.trans behind)

section Acted

variable {step : Step} {store : ℕ} {words : WordSet}

/-- An earlier handle and a new one stand for the same cache only if the new one is a clone. -/
theorem Tracks.sameGroup_made (tracks : Tracks steps caches)
    (handle : caches.handles[step.handle]? = some store) {first : ℕ} (present : first < caches.handles.length)
    (made : step.action = .openCache ∨ step.action = .cloneHandle)
    (shared : (caches.acted step.action store words).handles[caches.handles.length]? =
      (caches.acted step.action store words).handles[first]?) :
    SameGroup (steps ++ [step]) first caches.handles.length := by
  obtain ⟨clones, old⟩ := (Caches.shares_made_iff tracks.wellFormed made present).mp shared
  have before : SameGroup steps first step.handle := tracks.grouped _ _ store old handle
  have cloned : CloneOf (steps ++ [step]) step.handle caches.handles.length :=
    cloneOf_append_singleton.mpr (.inl ⟨by rw [← clones], tracks.length⟩)
  exact (before.append_singleton step).trans _ _ _ (.rel _ _ cloned)

/-- The words of each cache stay those of its group: of the cache acted on, another one or a new one. -/
theorem Tracks.contents_acted (tracks : Tracks steps caches)
    (handle : caches.handles[step.handle]? = some store) (behind : caches.stores[store]? = some words)
    {other : ℕ} {changed : WordSet}
    (found : (caches.acted step.action store words).stores[other]? = some changed) (word : String) :
    word ∈ changed ↔ InsertedSince ((caches.acted step.action store words).handles[·]? = some other)
      (steps ++ [step]) word := by
  obtain ⟨present, _⟩ := List.getElem?_eq_some_iff.mp handle
  have before : InsertedSince ((caches.acted step.action store words).handles[·]? = some other) steps word ↔
      InsertedSince (caches.handles[·]? = some other) steps word :=
    insertedSince_congr fun earlier member => by rw [Caches.handles_acted (tracks.reached earlier member)]
  rw [insertedSince_append_singleton, before, Caches.handles_acted present, handle]
  obtain ⟨rfl, rfl⟩ | ⟨different, kept⟩ | ⟨rfl, rfl⟩ := Caches.of_stores_acted behind found
  · rw [Action.mem_after, ← tracks.contents other words behind]
    simp
  · rw [← tracks.contents other changed kept]
    simp [different.symm]
  · -- no step can have gone through a handle of the new cache
    have untouched : ¬ InsertedSince (caches.handles[·]? = some caches.stores.length) steps word := by
      rintro ⟨front, earlier, back, rfl, stands, _⟩
      exact Nat.lt_irrefl _ (tracks.wellFormed _ _ stands)
    have below := tracks.wellFormed _ _ handle
    simp [untouched, below.ne]

theorem Tracks.grouped_acted (tracks : Tracks steps caches)
    (handle : caches.handles[step.handle]? = some store) {first second other : ℕ}
    (found : (caches.acted step.action store words).handles[first]? = some other)
    (beside : (caches.acted step.action store words).handles[second]? = some other) :
    SameGroup (steps ++ [step]) first second := by
  have shared := found.trans beside.symm
  obtain old | ⟨rfl, made⟩ := Caches.of_handles_acted found
  · obtain ⟨bound, _⟩ := List.getElem?_eq_some_iff.mp old
    obtain old' | ⟨rfl, made⟩ := Caches.of_handles_acted beside
    · exact (tracks.grouped first second other old old').append_singleton step
    · exact tracks.sameGroup_made handle bound made shared.symm
  · obtain old | ⟨rfl, _⟩ := Caches.of_handles_acted beside
    · obtain ⟨bound, _⟩ := List.getElem?_eq_some_iff.mp old
      exact (tracks.sameGroup_made handle bound made shared).symm
    · exact .refl _

/-- A step that is taken keeps up the invariant. -/
theorem Tracks.acted (tracks : Tracks steps caches) (handle : caches.handles[step.handle]? = some store)
    (behind : caches.stores[store]? = some words) :
    Tracks (steps ++ [step]) (caches.acted step.action store words) where
  wellFormed := Caches.wellFormed_acted tracks.wellFormed behind
  length := by rw [Caches.length_handles_acted, handlesAfter_append_singleton, tracks.length]
  reached := by
    intro earlier member
    rw [Caches.length_handles_acted]
    rcases List.mem_append.mp member with member | member
    · exact Nat.lt_add_right _ (tracks.reached earlier member)
    · obtain ⟨present, _⟩ := List.getElem?_eq_some_iff.mp handle
      exact Nat.lt_add_right _ (List.mem_singleton.mp member ▸ present)
  cloned := by
    intro parent child cloned
    obtain ⟨rfl, rfl⟩ | earlier := cloneOf_append_singleton.mp cloned
    · obtain ⟨present, _⟩ := List.getElem?_eq_some_iff.mp handle
      refine ⟨store, (Caches.handles_acted present).trans handle, ?_⟩
      rw [← tracks.length, Caches.handles_acted_cloneHandle]
    · obtain ⟨other, old, beside⟩ := tracks.cloned parent child earlier
      obtain ⟨bound, _⟩ := List.getElem?_eq_some_iff.mp old
      obtain ⟨bound', _⟩ := List.getElem?_eq_some_iff.mp beside
      exact ⟨other, (Caches.handles_acted bound).trans old, (Caches.handles_acted bound').trans beside⟩
  grouped := fun _ _ _ => tracks.grouped_acted handle
  contents := fun _ _ => tracks.contents_acted handle behind

end Acted

/-- A run keeps up with its steps. -/
theorem Tracks.run? {rest : List Step} {final : Caches} {reports : List (Except CacheError Answer × List ℕ)}
    (tracks : Tracks steps caches) (run : caches.run? rest = some (reports, final)) :
    Tracks (steps ++ rest) final := by
  induction rest generalizing steps caches reports with
  | nil =>
    obtain ⟨_, rfl⟩ := Prod.mk.inj (Option.some.inj run)
    simpa using tracks
  | cons step rest ih =>
    obtain ⟨_, next, more, stepped, continued, rfl⟩ := run?_cons_eq_some.mp run
    obtain ⟨store, words, handle, behind, _, rfl⟩ := Caches.of_step? stepped
    simpa using ih (tracks.acted handle behind) continued

/-! ## Contents after a run -/

/-- What a handle sees are the words of its group. -/
theorem Tracks.mem_iff (tracks : Tracks steps caches) {handle : ℕ} {words : WordSet}
    (found : caches.words? handle = some words) (word : String) :
    word ∈ words ↔ word ∈ storedWords steps handle := by
  obtain ⟨store, stands, behind⟩ := Caches.words?_eq_some_iff.mp found
  obtain ⟨present, _⟩ := List.getElem?_eq_some_iff.mp stands
  rw [tracks.contents store words behind]
  refine insertedSince_congr fun earlier _ => ?_
  rw [tracks.sameGroup_iff present, stands, eq_comm]

theorem Tracks.size_eq (tracks : Tracks steps caches) {handle : ℕ} {words : WordSet}
    (found : caches.words? handle = some words) : words.size = (storedWords steps handle).ncard :=
  WordSet.size_eq_ncard (tracks.mem_iff found)

/-- In the middle of a run, a step is answered from the words of the group that it goes through. -/
theorem answer_of_run? {front back : List Step} {step : Step} {final : Caches}
    {reports : List (Except CacheError Answer × List ℕ)}
    (run : Caches.single.run? (front ++ step :: back) = some (reports, final)) :
    ∃ words : WordSet, words.size = (storedWords front step.handle).ncard ∧
      reports[front.length]?.map Prod.fst = some (step.action.answer words (handlesAfter 1 front)) := by
  obtain ⟨before, middle, answer, next, earlier, stepped, report⟩ := run?_split run
  have tracks : Tracks front middle := tracks_single.run? earlier
  obtain ⟨store, words, handle, behind, rfl, _⟩ := Caches.of_step? stepped
  have found : middle.words? step.handle = some words := Caches.words?_eq_some_iff.mpr ⟨store, handle, behind⟩
  exact ⟨words, tracks.size_eq found, by rw [report, Option.map_some, tracks.length]⟩

/-- After any run, each handle stores without repetition the words that were inserted through its group
since the last lookup that cleared it; sizes are reported accordingly. Clones see the same words. Only
insertions and clearing lookups change anything, and only in the group that they go through. -/
theorem run_contents {steps : List Step} (addressed : Addressed 1 steps) :
    ∃ reports final, Caches.single.run? steps = some (reports, final) ∧
      (∀ handle < handlesAfter 1 steps, ∃ words, final.words? handle = some words ∧
        words.toList.Nodup ∧ ∀ word, word ∈ words.toList ↔ word ∈ storedWords steps handle) ∧
      (∀ front handle back, steps = front ++ ⟨handle, .len⟩ :: back →
        reports[front.length]?.map Prod.fst = some (.ok (.count (storedWords front handle).ncard))) ∧
      (∀ front handle back, steps = front ++ ⟨handle, .isEmpty⟩ :: back →
        reports[front.length]?.map Prod.fst =
          some (.ok (.flag (decide ((storedWords front handle).ncard = 0))))) ∧
      (∀ first second, SameGroup steps first second → final.words? first = final.words? second) ∧
      ∀ step : Step, step.handle < handlesAfter 1 steps →
        ∃ answer next, final.step? step = some (answer, next) ∧ ∀ other < handlesAfter 1 steps,
          ¬ SameGroup steps step.handle other ∨ (step.action.offers = [] ∧ step.action.clears = false) →
            next.words? other = final.words? other := by
  obtain ⟨reports, final, run⟩ := exists_run? tracks_single.wellFormed addressed
  have tracks : Tracks steps final := tracks_single.run? run
  refine ⟨reports, final, run, ?_, ?_, ?_, ?_, ?_⟩
  · intro handle present
    rw [← tracks.length] at present
    obtain ⟨_, words, _, _, found⟩ := tracks.wellFormed.words?_eq_some present
    exact ⟨words, found, words.nodup, tracks.mem_iff found⟩
  · rintro front handle back rfl
    obtain ⟨words, size, report⟩ := answer_of_run? run
    rw [report, Action.answer, size]
  · rintro front handle back rfl
    obtain ⟨words, size, report⟩ := answer_of_run? run
    have empty : words.isEmpty = decide (words.size = 0) := by
      rw [Bool.eq_iff_iff, decide_eq_true_iff, WordSet.isEmpty, List.isEmpty_iff, WordSet.size,
        List.length_eq_zero_iff]
    rw [report, Action.answer, empty, size]
  · intro first second same
    rw [Caches.words?, Caches.words?, tracks.handles_eq same]
  · intro step present
    rw [← tracks.length] at present
    obtain ⟨store, words, handle, behind, _⟩ := tracks.wellFormed.words?_eq_some present
    refine ⟨_, _, Caches.step?_eq handle behind, fun other present' kept => ?_⟩
    rw [← tracks.length] at present'
    refine Caches.words?_acted tracks.wellFormed behind present' (kept.imp ?_ ?_)
    · intro apart same
      exact apart ((tracks.sameGroup_iff present).mpr (handle.trans same.symm))
    · rintro ⟨adds, keeps⟩
      exact Action.after_of_idle adds keeps words

/-- A word inserted through a clone is seen and counted through the handle that was cloned. -/
theorem run_contents_clone : Addressed 1 [⟨0, .cloneHandle⟩, ⟨1, .insert ["a"]⟩, ⟨0, .len⟩] ∧
    ∃ reports final, Caches.single.run? [⟨0, .cloneHandle⟩, ⟨1, .insert ["a"]⟩, ⟨0, .len⟩] =
        some (reports, final) ∧
      reports[2]?.map Prod.fst =
        some (.ok (.count (storedWords [⟨0, .cloneHandle⟩, ⟨1, .insert ["a"]⟩] 0).ncard)) ∧
      ∃ words, final.words? 0 = some words ∧ words.toList.Nodup ∧ ∀ word, word ∈ words.toList ↔
        word ∈ storedWords [⟨0, .cloneHandle⟩, ⟨1, .insert ["a"]⟩, ⟨0, .len⟩] 0 := by
  have addressed : Addressed 1 [⟨0, .cloneHandle⟩, ⟨1, .insert ["a"]⟩, ⟨0, .len⟩] := by decide
  obtain ⟨reports, final, run, contents, counts, _⟩ := run_contents addressed
  exact ⟨addressed, reports, final, run, counts [⟨0, .cloneHandle⟩, ⟨1, .insert ["a"]⟩] 0 [] rfl,
    contents 0 (by decide)⟩

end Run

end WordCompletion

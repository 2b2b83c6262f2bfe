import WordCompletion.Proofs.Cache.Contents
import WordCompletion.Proofs.Lookup.Rows

/-! # Histories that leave the same words

Two runs that leave the same words behind corresponding handles cannot be told apart afterwards, in
whatever order and by whatever steps the words arrived. Words of equal key would show their order of
arrival, but there are none. The relation between the two states is preserved by every step that is
taken in both, and such a step is answered alike.
-/

namespace WordCompletion

/-! ## Sets with the same words -/

/-- The same words, in whatever order they arrived. -/
def WordSet.Alike (first second : WordSet) : Prop :=
  ∀ word, word ∈ first ↔ word ∈ second

variable {first second : WordSet}

theorem WordSet.Alike.perm (alike : first.Alike second) : first.toList.Perm second.toList :=
  (List.perm_ext_iff_of_nodup first.nodup second.nodup).mpr alike

namespace Request

theorem ranking_congr (alike : first.Alike second) (request : Request) (tier : Tier) :
    request.ranking tier first = request.ranking tier second :=
  sortedBy_eq_of_perm (request.key_injective tier) (alike.perm.filter _)

theorem likeFails_congr (alike : first.Alike second) (request : Request) :
    request.LikeFails first ↔ request.LikeFails second :=
  exists_congr fun stored => and_congr_left fun _ => alike stored

theorem rows_congr (alike : first.Alike second) (request : Request) :
    request.lookup.rows first.toList = request.lookup.rows second.toList := by
  by_cases fails : request.LikeFails first
  · rw [rows_eq_nil_of_likeFails fails, rows_eq_nil_of_likeFails ((likeFails_congr alike request).mp fails)]
  · have evaluated : ¬ request.LikeFails second := fails ∘ (likeFails_congr alike request).mpr
    rw [Lookup.rows, Lookup.rows?, primary?_eq fails, backup?_eq fails, Lookup.rows, Lookup.rows?,
      primary?_eq evaluated, backup?_eq evaluated, ranking_congr alike, ranking_congr alike]

theorem select_congr (alike : first.Alike second) (request : Request) :
    (first.select request).1 = (second.select request).1 := by
  unfold WordSet.select
  split
  · rfl
  · split_ifs
    · rfl
    · rfl
    · rw [Lookup.answer_eq, Lookup.answer_eq]
      exact congrArg Except.ok (rows_congr alike request)

end Request

namespace Action

theorem after_congr (alike : first.Alike second) (action : Action) :
    (action.after first).Alike (action.after second) := by
  intro word
  rw [mem_after, mem_after, alike word]

theorem answer_congr (alike : first.Alike second) (action : Action) (handles : ℕ) :
    action.answer first handles = action.answer second handles := by
  cases action with
  | len => exact congrArg (Except.ok ∘ Answer.count) alike.perm.length_eq
  | isEmpty => exact congrArg (Except.ok ∘ Answer.flag) alike.perm.isEmpty_eq
  | select request => exact congrArg (Except.map Answer.rows) (Request.select_congr alike request)
  | _ => rfl

end Action

/-! ## Handles under other numbers -/

/-- The step through the handle with the number given to its own. -/
def Step.through (numbers : ℕ → ℕ) (step : Step) : Step :=
  { step with handle := numbers step.handle }

/-- The answer with the number given to the handle in it. -/
def Answer.renumber (numbers : ℕ → ℕ) : Answer → Answer
  | .handle index => .handle (numbers index)
  | answer => answer

theorem Action.renumber_answer (action : Action) (words : WordSet) (handles : ℕ) (numbers : ℕ → ℕ) :
    (action.answer words handles).map (.renumber numbers) = action.answer words (numbers handles) := by
  cases action with
  | select request =>
    simp only [Action.answer]
    cases (words.select request).1 <;> rfl
  | dropSelect options =>
    simp only [Action.answer]
    cases options.validate <;> rfl
  | _ => rfl

namespace Run

/-- The number of the handle in a place, first among some held ones and then among those that are made
when there are a number of handles. -/
def numberAt (held : List ℕ) (handles place : ℕ) : ℕ :=
  held.getD place (handles + (place - held.length))

/-- What the steps of a run are answered, if all of their handles exist. -/
def answers? (caches : Caches) (steps : List Step) : Option (List (Except CacheError Answer)) :=
  (caches.run? steps).map fun reported => reported.1.map Prod.fst

theorem answers?_cons {caches next : Caches} {step : Step} {answer : Except CacheError Answer}
    (stepped : caches.step? step = some (answer, next)) (rest : List Step) :
    answers? caches (step :: rest) = (answers? next rest).map (answer :: ·) := by
  simp only [answers?, Caches.run?, stepped, Option.bind_eq_bind, Option.bind_some]
  cases next.run? rest <;> rfl

theorem numberAt_map {Item : Type*} (numberOf : Item → ℕ) {held : List Item} {handles place : ℕ}
    (bound : place < held.length) : numberAt (held.map numberOf) handles place = numberOf held[place] := by
  simp [numberAt, bound]

theorem numberAt_add {held : List ℕ} {handles places : ℕ} (length : held.length = places) (extra : ℕ) :
    numberAt held handles (places + extra) = handles + extra := by
  simp [numberAt, ← length]

/-- The numbers are those of handles that exist, and the next ones those of handles yet to be made. -/
structure Numbers (numbers : ℕ → ℕ) (places : ℕ) (caches : Caches) : Prop where
  wellFormed : caches.WellFormed
  present : ∀ place < places, numbers place < caches.handles.length
  next : ∀ extra, numbers (places + extra) = caches.handles.length + extra

theorem Numbers.acted {numbers : ℕ → ℕ} {places : ℕ} {caches : Caches} (held : Numbers numbers places caches)
    {action : Action} {store : ℕ} {words : WordSet} (behind : caches.stores[store]? = some words) :
    Numbers numbers (places + action.makesHandle.toNat) (caches.acted action store words) where
  wellFormed := Caches.wellFormed_acted held.wellFormed behind
  present := by
    intro place bound
    rw [Caches.length_handles_acted]
    by_cases old : place < places
    · exact Nat.lt_add_right _ (held.present place old)
    · obtain ⟨extra, rfl⟩ := Nat.exists_eq_add_of_le (Nat.not_lt.mp old)
      rw [held.next]
      omega
  next := by
    intro extra
    rw [Nat.add_assoc, held.next, Caches.length_handles_acted, Nat.add_assoc]

/-! ## Two runs side by side -/

/-- Behind the handles in each place are the same words, and the same places share a cache. -/
structure Alike (numbers numbers' : ℕ → ℕ) (places : ℕ) (caches caches' : Caches) : Prop where
  left : Numbers numbers places caches
  right : Numbers numbers' places caches'
  words : ∀ place < places, ∃ words words', caches.words? (numbers place) = some words ∧
    caches'.words? (numbers' place) = some words' ∧ words.Alike words'
  shared : ∀ place < places, ∀ other < places,
    (caches.handles[numbers place]? = caches.handles[numbers other]? ↔
      caches'.handles[numbers' place]? = caches'.handles[numbers' other]?)

variable {numbers numbers' : ℕ → ℕ} {places : ℕ} {caches caches' : Caches}

section Acted

variable {action : Action} {place store store' : ℕ} {words words' : WordSet}

/-- The same action in the same place leaves the same words in every place, a new one included. -/
theorem Alike.words_acted (alike : Alike numbers numbers' places caches caches') (bound : place < places)
    (handle : caches.handles[numbers place]? = some store) (behind : caches.stores[store]? = some words)
    (handle' : caches'.handles[numbers' place]? = some store') (behind' : caches'.stores[store']? = some words')
    (same : words.Alike words') {other : ℕ} (below : other < places + action.makesHandle.toNat) :
    ∃ changed changed', (caches.acted action store words).words? (numbers other) = some changed ∧
      (caches'.acted action store' words').words? (numbers' other) = some changed' ∧
        changed.Alike changed' := by
  obtain old | ⟨rfl, made⟩ := Action.lt_or_made below
  · have shared := alike.shared other old place bound
    rw [handle, handle'] at shared
    by_cases meets : caches.handles[numbers other]? = some store
    · exact ⟨_, _, Caches.words?_acted_self behind meets, Caches.words?_acted_self behind' (shared.mp meets),
        Action.after_congr same action⟩
    · rw [Caches.words?_acted alike.left.wellFormed behind (alike.left.present other old) (.inl meets),
        Caches.words?_acted alike.right.wellFormed behind' (alike.right.present other old)
          (.inl (meets ∘ shared.mpr))]
      exact alike.words other old
  · have number : numbers other = caches.handles.length := alike.left.next 0
    have number' : numbers' other = caches'.handles.length := alike.right.next 0
    rw [number, number']
    obtain rfl | rfl := made
    · exact ⟨_, _, Caches.words?_acted_openCache, Caches.words?_acted_openCache, fun _ => Iff.rfl⟩
    · exact ⟨_, _, Caches.words?_acted_cloneHandle behind, Caches.words?_acted_cloneHandle behind', same⟩

/-- A new handle shares its cache with the same places on both sides. -/
theorem Alike.shared_made (alike : Alike numbers numbers' places caches caches') (bound : place < places)
    (handle : caches.handles[numbers place]? = some store)
    (handle' : caches'.handles[numbers' place]? = some store')
    (made : action = .openCache ∨ action = .cloneHandle) {other : ℕ} (below : other < places) :
    ((caches.acted action store words).handles[numbers places]? =
        (caches.acted action store words).handles[numbers other]? ↔
      (caches'.acted action store' words').handles[numbers' places]? =
        (caches'.acted action store' words').handles[numbers' other]?) := by
  have number : numbers places = caches.handles.length := alike.left.next 0
  have number' : numbers' places = caches'.handles.length := alike.right.next 0
  have shared := alike.shared other below place bound
  rw [handle, handle'] at shared
  rw [number, number', Caches.shares_made_iff alike.left.wellFormed made (alike.left.present other below),
    Caches.shares_made_iff alike.right.wellFormed made (alike.right.present other below), shared]

theorem Alike.acted (alike : Alike numbers numbers' places caches caches') (bound : place < places)
    (handle : caches.handles[numbers place]? = some store) (behind : caches.stores[store]? = some words)
    (handle' : caches'.handles[numbers' place]? = some store') (behind' : caches'.stores[store']? = some words')
    (same : words.Alike words') :
    Alike numbers numbers' (places + action.makesHandle.toNat) (caches.acted action store words)
      (caches'.acted action store' words') where
  left := alike.left.acted behind
  right := alike.right.acted behind'
  words := fun _ below => alike.words_acted bound handle behind handle' behind' same below
  shared := by
    intro first below second below'
    obtain old | ⟨rfl, made⟩ := Action.lt_or_made below
    · obtain old' | ⟨rfl, made⟩ := Action.lt_or_made below'
      · rw [Caches.handles_acted (alike.left.present first old),
          Caches.handles_acted (alike.left.present second old'),
          Caches.handles_acted (alike.right.present first old),
          Caches.handles_acted (alike.right.present second old')]
        exact alike.shared first old second old'
      · rw [eq_comm, alike.shared_made bound handle handle' made old, eq_comm]
    · obtain old | ⟨rfl, _⟩ := Action.lt_or_made below'
      · exact alike.shared_made bound handle handle' made old
      · exact iff_of_true rfl rfl

end Acted

/-- A step that is taken on both sides is answered alike, and the sides stay alike. -/
theorem Alike.step? (alike : Alike numbers numbers' places caches caches') {step : Step}
    (bound : step.handle < places) : ∃ answer next next',
      caches.step? (step.through numbers) = some (Except.map (.renumber numbers) answer, next) ∧
        caches'.step? (step.through numbers') = some (Except.map (.renumber numbers') answer, next') ∧
          Alike numbers numbers' (places + step.action.makesHandle.toNat) next next' := by
  obtain ⟨words, words', found, found', same⟩ := alike.words step.handle bound
  obtain ⟨store, handle, behind⟩ := Caches.words?_eq_some_iff.mp found
  obtain ⟨store', handle', behind'⟩ := Caches.words?_eq_some_iff.mp found'
  have number : numbers places = caches.handles.length := alike.left.next 0
  have number' : numbers' places = caches'.handles.length := alike.right.next 0
  have stepped : caches.step? (step.through numbers) = _ := Caches.step?_eq handle behind
  have stepped' : caches'.step? (step.through numbers') = _ := Caches.step?_eq handle' behind'
  refine ⟨step.action.answer words places, _, _, ?_, ?_, alike.acted bound handle behind handle' behind' same⟩
  · rw [stepped, Action.renumber_answer, number]
    rfl
  · rw [stepped', Action.answer_congr same, Action.renumber_answer, number']
    rfl

/-- Whatever is done on both sides is answered alike. -/
theorem Alike.answers?_eq (alike : Alike numbers numbers' places caches caches') {steps : List Step}
    (addressed : Addressed places steps) : ∃ answers : List (Except CacheError Answer),
      answers? caches (steps.map (.through numbers)) = some (answers.map (Except.map (.renumber numbers))) ∧
        answers? caches' (steps.map (.through numbers')) =
          some (answers.map (Except.map (.renumber numbers'))) := by
  induction steps generalizing places caches caches' with
  | nil => exact ⟨[], rfl, rfl⟩
  | cons step rest ih =>
    obtain ⟨bound, addressed⟩ := addressed
    obtain ⟨answer, next, next', stepped, stepped', alike⟩ := alike.step? bound
    obtain ⟨answers, same, same'⟩ := ih alike addressed
    refine ⟨answer :: answers, ?_, ?_⟩
    · rw [List.map_cons, answers?_cons stepped, same, Option.map_some, List.map_cons]
    · rw [List.map_cons, answers?_cons stepped', same', Option.map_some, List.map_cons]

/-! ## Runs that leave the same words -/

variable {steps steps' : List Step} {final final' : Caches} {held : List (ℕ × ℕ)}

/-- Handles held at the end of two runs that see the same words, and belong together in both runs. -/
theorem alike_of_tracks (tracks : Tracks steps final) (tracks' : Tracks steps' final')
    (same : ∀ pair ∈ held, ∃ words words', final.words? pair.1 = some words ∧
      final'.words? pair.2 = some words' ∧ words.Alike words')
    (groups : ∀ pair ∈ held, ∀ other ∈ held,
      (SameGroup steps pair.1 other.1 ↔ SameGroup steps' pair.2 other.2)) :
    Alike (numberAt (held.map Prod.fst) final.handles.length)
      (numberAt (held.map Prod.snd) final'.handles.length) held.length final final' := by
  have present : ∀ pair ∈ held, pair.1 < final.handles.length ∧ pair.2 < final'.handles.length := by
    intro pair member
    obtain ⟨words, words', found, found', _⟩ := same pair member
    obtain ⟨store, handle, _⟩ := Caches.words?_eq_some_iff.mp found
    obtain ⟨store', handle', _⟩ := Caches.words?_eq_some_iff.mp found'
    exact ⟨(List.getElem?_eq_some_iff.mp handle).1, (List.getElem?_eq_some_iff.mp handle').1⟩
  constructor
  case left =>
    refine ⟨tracks.wellFormed, fun place bound => ?_, numberAt_add (List.length_map ..)⟩
    rw [numberAt_map Prod.fst bound]
    exact (present _ (List.getElem_mem bound)).1
  case right =>
    refine ⟨tracks'.wellFormed, fun place bound => ?_, numberAt_add (List.length_map ..)⟩
    rw [numberAt_map Prod.snd bound]
    exact (present _ (List.getElem_mem bound)).2
  case words =>
    intro place bound
    rw [numberAt_map Prod.fst bound, numberAt_map Prod.snd bound]
    exact same _ (List.getElem_mem bound)
  case shared =>
    intro place bound other bound'
    have member := List.getElem_mem bound
    rw [numberAt_map Prod.fst bound, numberAt_map Prod.snd bound, numberAt_map Prod.fst bound',
      numberAt_map Prod.snd bound', ← tracks.sameGroup_iff (present _ member).1,
      ← tracks'.sameGroup_iff (present _ member).2]
    exact groups _ member _ (List.getElem_mem bound')

/-- After two runs that leave the same words behind some handles, which are clones of each other in one
run where they are in the other, no lookup through these handles and no further steps through them and
through handles made from them tell the runs apart. -/
theorem run_history_independent {reports reports' : List (Except CacheError Answer × List ℕ)}
    (run : Caches.single.run? steps = some (reports, final))
    (run' : Caches.single.run? steps' = some (reports', final'))
    (same : ∀ pair ∈ held, ∃ words words', final.words? pair.1 = some words ∧
      final'.words? pair.2 = some words' ∧ words.Alike words')
    (groups : ∀ pair ∈ held, ∀ other ∈ held,
      (SameGroup steps pair.1 other.1 ↔ SameGroup steps' pair.2 other.2)) :
    (∀ pair ∈ held, ∀ request, ∃ answer next next',
      final.step? ⟨pair.1, .select request⟩ = some (answer, next) ∧
        final'.step? ⟨pair.2, .select request⟩ = some (answer, next')) ∧
    ∀ more, Addressed held.length more → ∃ answers : List (Except CacheError Answer),
      let numbers := numberAt (held.map Prod.fst) final.handles.length
      let numbers' := numberAt (held.map Prod.snd) final'.handles.length
      answers? final (more.map (.through numbers)) = some (answers.map (Except.map (.renumber numbers))) ∧
        answers? final' (more.map (.through numbers')) =
          some (answers.map (Except.map (.renumber numbers'))) := by
  constructor
  · intro pair member request
    obtain ⟨words, words', found, found', alike⟩ := same pair member
    obtain ⟨store, handle, behind⟩ := Caches.words?_eq_some_iff.mp found
    obtain ⟨store', handle', behind'⟩ := Caches.words?_eq_some_iff.mp found'
    have stepped : final.step? ⟨pair.1, .select request⟩ = _ := Caches.step?_eq handle behind
    have stepped' : final'.step? ⟨pair.2, .select request⟩ = _ := Caches.step?_eq handle' behind'
    -- a lookup's answer has no handle in it, so the numbers of handles do not show either
    exact ⟨_, _, _, stepped, stepped'.trans (by rw [← Action.answer_congr alike]; rfl)⟩
  · intro more addressed
    exact (alike_of_tracks (tracks_single.run? run) (tracks_single.run? run') same groups).answers?_eq addressed

/-- Neither the order of arrival shows nor what was cleared before. -/
theorem run_history_independent_ab : ∃ reports final reports' final',
    Caches.single.run? [⟨0, .insert ["b", "a"]⟩] = some (reports, final) ∧
      Caches.single.run? [⟨0, .insert ["c"]⟩, ⟨0, .select { clear := true }⟩, ⟨0, .insert ["a", "b"]⟩] =
          some (reports', final') ∧
        ∀ request, ∃ answer next next', final.step? ⟨0, .select request⟩ = some (answer, next) ∧
          final'.step? ⟨0, .select request⟩ = some (answer, next') := by
  have run : Caches.single.run? [⟨0, .insert ["b", "a"]⟩] =
      some ([(.ok .done, [2])], ⟨[.ofList ["b", "a"]], [0]⟩) := rfl
  have run' : Caches.single.run?
      [⟨0, .insert ["c"]⟩, ⟨0, .select { clear := true }⟩, ⟨0, .insert ["a", "b"]⟩] =
        some ([(.ok .done, [1]), (.ok (.rows []), [0]), (.ok .done, [2])],
          ⟨[.ofList ["a", "b"]], [0]⟩) := rfl
  have same : ∀ pair ∈ [(0, 0)], ∃ words words',
      Caches.words? ⟨[.ofList ["b", "a"]], [0]⟩ pair.1 = some words ∧
        Caches.words? ⟨[.ofList ["a", "b"]], [0]⟩ pair.2 = some words' ∧ words.Alike words' := by
    rintro pair member
    obtain rfl := List.mem_singleton.mp member
    exact ⟨_, _, rfl, rfl, fun word => by simp [or_comm]⟩
  refine ⟨_, _, _, _, run, run', (run_history_independent run run' same ?_).1 (0, 0) (by simp)⟩
  rintro pair member other member'
  obtain rfl := List.mem_singleton.mp member
  obtain rfl := List.mem_singleton.mp member'
  exact iff_of_true (.refl 0) (.refl 0)

end Run

end WordCompletion

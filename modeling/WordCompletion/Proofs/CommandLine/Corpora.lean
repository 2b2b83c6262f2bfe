import WordCompletion.Proofs.CommandLine.Output
import WordCompletion.Proofs.Session.Alike

/-! # Corpora by their words

Of its corpora a run keeps the words only, and neither their order nor how often they occur or in which corpus.
Two runs whose corpora have the same words print the same for the same input. So corpora can be given in any
order and more than once, and a corpus can be cut into several between its words. This does not go for a corpus
that is the standard input, for it leaves the run no line to answer.
-/

namespace WordCompletion

namespace Invocation

variable {invocation first second : Invocation} {arguments arguments' : Arguments} {config : CacheConfig}

/-- A corpus has the word among those that are stored of it. -/
def Gives (invocation : Invocation) (config : CacheConfig) (word corpus : String) : Prop :=
  ∃ text, invocation.textAt? corpus = some text ∧ word ∈ wordsOf text config.minWordLen.toNat

/-- The words of all corpora together. -/
def offered (invocation : Invocation) (config : CacheConfig) (corpora : List String) : Set String :=
  {word | ∃ corpus ∈ corpora, invocation.Gives config word corpus}

theorem mem_words_seeded (word : String) :
    word ∈ (invocation.seeded arguments config).words ↔ word ∈ invocation.offered config arguments.corpora := by
  have empty : word ∉ (Session.start config arguments.limitless).words := WordSet.not_mem_empty word
  rw [seeded, Session.run_map_ingest, Session.mem_words_foldl_ingest, or_iff_right empty]
  constructor
  · rintro ⟨text, member, inside⟩
    obtain ⟨corpus, named, found⟩ := List.mem_filterMap.mp member
    exact ⟨corpus, named, text, found, inside⟩
  · rintro ⟨corpus, named, text, found, inside⟩
    exact ⟨text, List.mem_filterMap.mpr ⟨corpus, named, found⟩, inside⟩

theorem mem_offered_singleton {corpus text : String} (found : invocation.textAt? corpus = some text) (word : String) :
    word ∈ invocation.offered config [corpus] ↔ word ∈ wordsOf text config.minWordLen.toNat := by
  simp [offered, Gives, found]

/-- Two runs that are asked the same, their corpora apart, and that have no corpus which is the standard input. -/
structure SameTask (first second : Invocation) (arguments arguments' : Arguments) (config : CacheConfig) : Prop where
  asked : Command.ofArguments first.arguments = .run arguments
  asked' : Command.ofArguments second.arguments = .run arguments'
  limitless : arguments.limitless = arguments'.limitless
  startup : first.startup = second.startup
  loaded : CacheConfig.load first.environment first.files = .ok config
  loaded' : CacheConfig.load second.environment second.files = .ok config
  apart : first.Apart arguments.corpora
  apart' : second.Apart arguments'.corpora

/-- Runs are the same whose corpora have the same words. -/
theorem SameTask.run_eq (task : SameTask first second arguments arguments' config)
    (readable : first.Readable arguments.corpora ↔ second.Readable arguments'.corpora)
    (same : first.offered config arguments.corpora = second.offered config arguments'.corpora) (input : Bytes) :
    first.run input = second.run input := by
  cases startup : first.startup with
  | ready =>
    have startup' : second.startup = .ready := task.startup ▸ startup
    by_cases texts : first.Readable arguments.corpora
    · have alike : (first.seeded arguments config).Alike (second.seeded arguments' config) := by
        refine ⟨?_, ?_, fun word => ?_⟩
        · rw [config_seeded, config_seeded]
        · rw [limitless_seeded, limitless_seeded, task.limitless]
        · rw [mem_words_seeded, mem_words_seeded, same]
      obtain ⟨printed, whole⟩ := alike.feed_eq input.lines
      rw [run_of_start_eq_ok (start_eq_ok task.asked task.apart startup task.loaded texts input),
        run_of_start_eq_ok (start_eq_ok task.asked' task.apart' startup' task.loaded' (readable.mp texts) input),
        printed, whole]
    · rw [run_of_start_eq_error (start_of_unreadable task.asked task.apart startup task.loaded texts input),
        run_of_start_eq_error
          (start_of_unreadable task.asked' task.apart' startup' task.loaded' (texts ∘ readable.mpr) input)]
  | _ =>
    have startup' := task.startup ▸ startup
    simp only [run, start, prepare, startup, startup', bind, Except.bind]

/-! ## Other lists of the same files -/

theorem textAt?_congr (files : first.files = second.files) (corpus : String) :
    first.textAt? corpus = second.textAt? corpus := by
  rw [textAt?, textAt?, files]

theorem offered_congr (files : first.files = second.files) (config : CacheConfig) (corpora : List String) :
    first.offered config corpora = second.offered config corpora := by
  simp only [offered, Gives, textAt?_congr files]

/-- Corpora in another order, or given more than once, change nothing. -/
theorem SameTask.run_eq_of_mem_iff (task : SameTask first second arguments arguments' config)
    (files : first.files = second.files)
    (members : ∀ corpus, corpus ∈ arguments.corpora ↔ corpus ∈ arguments'.corpora) (input : Bytes) :
    first.run input = second.run input := by
  apply task.run_eq
  · simp only [Readable, members, textAt?_congr files]
  · rw [← offered_congr files]
    ext word
    exact exists_congr fun corpus => and_congr_left' (members corpus)

theorem exists_mem_iff_of_pieces {names : String → Prop} {front back pieces : List String} {corpus : String}
    (same : names corpus ↔ ∃ piece ∈ pieces, names piece) :
    (∃ name ∈ front ++ corpus :: back, names name) ↔ ∃ name ∈ front ++ pieces ++ back, names name := by
  simp only [List.mem_append, List.mem_cons, or_and_right, exists_or, exists_eq_left, same, or_assoc]

/-- A corpus that is cut into several between its words changes nothing. -/
theorem SameTask.run_eq_of_pieces (task : SameTask first second arguments arguments' config)
    (files : first.files = second.files) {front back pieces : List String} {corpus : String}
    (listed : arguments.corpora = front ++ corpus :: back) (listed' : arguments'.corpora = front ++ pieces ++ back)
    {text : String} {texts : List String} (found : first.textAt? corpus = some text)
    (found' : pieces.map first.textAt? = texts.map some) (cut : Pieces text.toList (texts.map String.toList))
    (input : Bytes) : first.run input = second.run input := by
  have readable : ∀ piece ∈ pieces, (first.textAt? piece).isSome = true := by
    intro piece member
    obtain ⟨text, _, made⟩ := List.mem_map.mp (found' ▸ List.mem_map_of_mem member)
    rw [← made, Option.isSome_some]
  have given : ∀ word, first.Gives config word corpus ↔ ∃ piece ∈ pieces, first.Gives config word piece := by
    intro word
    constructor
    · rintro ⟨_, found'', inside⟩
      cases found.symm.trans found''
      obtain ⟨piece, member, inside⟩ := cut.mem_wordsOf_iff.mp inside
      obtain ⟨name, named, found⟩ := List.mem_map.mp (found' ▸ List.mem_map_of_mem member)
      exact ⟨name, named, piece, found, inside⟩
    · rintro ⟨name, named, piece, found'', inside⟩
      obtain ⟨other, member, made⟩ := List.mem_map.mp (found' ▸ List.mem_map_of_mem named)
      cases made.trans found''
      exact ⟨text, found, cut.mem_wordsOf_iff.mpr ⟨piece, member, inside⟩⟩
  apply task.run_eq
  · simp only [Readable, listed, listed', ← textAt?_congr files, List.forall_mem_append, List.forall_mem_cons, found,
      Option.isSome_some, true_and, and_iff_left readable]
  · rw [listed, listed', ← offered_congr files]
    ext word
    exact exists_mem_iff_of_pieces (given word)

/-! ## What a run depends on -/

/-- Corpora act by the set of their words: two runs that are asked the same, and none of whose corpora is the
standard input, print the same and end the same if their corpora are text and have the same words. In whatever
order corpora are given, and how often, makes no difference, and neither does it to cut one of them into several at
characters of no word. -/
theorem run_corpora (task : SameTask first second arguments arguments' config) :
    (first.Readable arguments.corpora → second.Readable arguments'.corpora →
      first.offered config arguments.corpora = second.offered config arguments'.corpora →
      ∀ input, first.run input = second.run input) ∧
    (first.files = second.files → (∀ corpus, corpus ∈ arguments.corpora ↔ corpus ∈ arguments'.corpora) →
      ∀ input, first.run input = second.run input) ∧
    ∀ front corpus back pieces, first.files = second.files → arguments.corpora = front ++ corpus :: back →
      arguments'.corpora = front ++ pieces ++ back →
      ∀ text (texts : List String), first.textAt? corpus = some text → pieces.map first.textAt? = texts.map some →
        Pieces text.toList (texts.map String.toList) → ∀ input, first.run input = second.run input :=
  ⟨fun readable readable' => task.run_eq (iff_of_true readable readable'), task.run_eq_of_mem_iff,
    fun _ _ _ _ files listed listed' _ _ => task.run_eq_of_pieces files listed listed'⟩

/-- The words `foo` and `bar` come from one corpus, from another with a point between them, or from two. -/
theorem run_corpora_fooBar :
    let files := (FileTree.ofTexts ["work"]
      [("a.txt", "foo bar"), ("b.txt", "bar.foo"), ("c.txt", "foo"), ("d.txt", "bar")]).files
    let reading := fun (corpora : List String) =>
      ({ arguments := corpora.flatMap fun corpus => ["--corpus", corpus], environment := [], files } : Invocation)
    let input := Bytes.ofText ":count\nfo"
    (reading ["a.txt"]).run input = (reading ["b.txt"]).run input ∧
    (reading ["a.txt"]).run input = (reading ["c.txt", "d.txt"]).run input ∧
    (reading ["c.txt", "d.txt"]).run input = (reading ["d.txt", "c.txt", "d.txt"]).run input := by
  intro files reading input
  have loaded := CacheConfig.load_nil files
  refine ⟨?_, ?_, ?_⟩
  · have task : SameTask (reading ["a.txt"]) (reading ["b.txt"]) { corpora := ["a.txt"] }
        { corpora := ["b.txt"] } {} :=
      ⟨rfl, rfl, rfl, rfl, loaded, loaded, by decide +kernel, by decide +kernel⟩
    have text : (reading ["a.txt"]).textAt? "a.txt" = some "foo bar" := by decide +kernel
    have text' : (reading ["b.txt"]).textAt? "b.txt" = some "bar.foo" := by decide +kernel
    have words : (wordsOf "foo bar" 2).toList.Perm (wordsOf "bar.foo" 2).toList := by decide +kernel
    obtain ⟨same, _⟩ := run_corpora task
    apply same (by decide +kernel) (by decide +kernel)
    ext word
    rw [mem_offered_singleton text, mem_offered_singleton text']
    exact words.mem_iff
  · have task : SameTask (reading ["a.txt"]) (reading ["c.txt", "d.txt"]) { corpora := ["a.txt"] }
        { corpora := ["c.txt", "d.txt"] } {} :=
      ⟨rfl, rfl, rfl, rfl, loaded, loaded, by decide +kernel, by decide +kernel⟩
    have cut : Pieces "foo bar".toList (["foo", "bar"].map String.toList) :=
      @Pieces.dropped ['f', 'o', 'o'] ' ' _ _ (by decide +kernel) (.whole _)
    obtain ⟨_, _, cuts⟩ := run_corpora task
    exact cuts [] "a.txt" [] ["c.txt", "d.txt"] rfl rfl rfl "foo bar" ["foo", "bar"] (by decide +kernel)
      (by decide +kernel) cut input
  · have task : SameTask (reading ["c.txt", "d.txt"]) (reading ["d.txt", "c.txt", "d.txt"])
        { corpora := ["c.txt", "d.txt"] } { corpora := ["d.txt", "c.txt", "d.txt"] } {} :=
      ⟨rfl, rfl, rfl, rfl, loaded, loaded, by decide +kernel, by decide +kernel⟩
    obtain ⟨_, lists, _⟩ := run_corpora task
    exact lists rfl (by simp [or_comm]) input

/-- The standard input and a file with its word are the same to the words that are stored, but not to the lines
that are left. -/
theorem run_inputCorpus_ne :
    let files := FileTree.files ⟨["work"], [(["dev", "stdin"], .file .input),
      (["work", "c.txt"], .file (.regular (.contents (.ofText "count"))))]⟩
    let first : Invocation := { arguments := ["--corpus", "/dev/stdin"], environment := [], files }
    let second : Invocation := { arguments := ["--corpus", "c.txt"], environment := [], files }
    let input := Bytes.ofText ":count\n"
    Command.ofArguments first.arguments = .run { corpora := ["/dev/stdin"] } ∧
    Command.ofArguments second.arguments = .run { corpora := ["c.txt"] } ∧
    CacheConfig.load [] files = .ok {} ∧
    files.read? "/dev/stdin" input = some (.ofText ":count\n", []) ∧
    files.read? "c.txt" input = some (.ofText "count", input) ∧
    (wordsOf ":count\n" 2).toList = (wordsOf "count" 2).toList ∧
    first.run input = ⟨.success, ""⟩ ∧ second.run input = ⟨.success, "1\n"⟩ :=
  ⟨rfl, rfl, CacheConfig.load_nil _, by decide +kernel, by decide +kernel, by decide +kernel, by decide +kernel,
    by decide +kernel⟩

end Invocation

end WordCompletion

import WordCompletion.Proofs.Session.Alike
import WordCompletion.Proofs.Words.Composition

/-! # Texts in pieces

A text that is cut at characters of no word leaves the same words as its pieces do, in whatever order they come
and however often. So a session that ingests the pieces cannot be told from one that ingests the text as a whole.
-/

namespace WordCompletion

theorem ne_empty_of_mem_wordsOf {text word : String} {minimum : ℕ} (member : word ∈ wordsOf text minimum) :
    text ≠ "" := by
  rintro rfl
  exact absurd (mem_wordsOf.mp member).1 List.not_mem_nil

namespace Session

/-- A session that has ingested the pieces of a text is like one that has ingested the text. -/
theorem alike_of_pieces (session : Session) {text : String} {pieces order : List String}
    (cut : Pieces text.toList (pieces.map String.toList))
    (same : ∀ piece, piece ≠ "" → (piece ∈ order ↔ piece ∈ pieces)) :
    (session.run (order.map .ingest)).2.Alike (session.run [.ingest text]).2 := by
  refine ⟨?_, ?_, fun word => ?_⟩
  · rw [run_snd, run_snd session [.ingest text]]
  · rw [run_snd, run_snd session [.ingest text]]
  · have whole : (session.run [.ingest text]).2 = [text].foldl ingest session := run_map_ingest session [text]
    have given : (∃ piece ∈ order, word ∈ wordsOf piece session.config.minWordLen.toNat) ↔
        word ∈ wordsOf text session.config.minWordLen.toNat := by
      rw [cut.mem_wordsOf_iff]
      exact exists_congr fun piece => and_congr_left fun inside => same piece (ne_empty_of_mem_wordsOf inside)
    simp only [run_map_ingest, whole, mem_words_foldl_ingest, given, List.mem_singleton, exists_eq_left]

/-- A text that is cut in two at a character of no word has the words of its front, and then those of its back
that are new. So a text can be cut at such characters and its pieces ingested in any order, more than once or, if
they are empty, not at all: the session holds the words that it holds of the whole text, and it answers the same to
all later calls. -/
theorem run_ingest_pieces :
    (∀ front mark back minimum, isWordChar mark = false →
      (wordsOf (front ++ String.singleton mark ++ back) minimum).toList =
        (wordsOf front minimum).toList ++ (wordsOf back minimum).toList.filter (· ∉ wordsOf front minimum)) ∧
    ∀ (session : Session) (text : String) (pieces order : List String),
      Pieces text.toList (pieces.map String.toList) →
      (∀ piece, piece ≠ "" → (piece ∈ order ↔ piece ∈ pieces)) →
      let whole := (session.run [.ingest text]).2
      let parts := (session.run (order.map .ingest)).2
      (∀ word, word ∈ parts.words ↔ word ∈ whole.words) ∧
        ∀ calls, (parts.run calls).1 = (whole.run calls).1 := by
  refine ⟨fun front mark back minimum noWord => toList_wordsOf_append noWord front back minimum, ?_⟩
  intro session text pieces order cut same whole parts
  have alike : parts.Alike whole := alike_of_pieces session cut same
  exact ⟨alike.words, alike.run_eq⟩

/-- Two lines arrive in the other order, without the empty pieces around the line ends. -/
theorem run_ingest_pieces_lines :
    let text := "foo bar\r\nbaz bar\n"
    let pieces := ["foo bar", "", "baz bar", ""]
    let order := ["baz bar", "foo bar"]
    let calls := [Call.line "ba", .line ":count"]
    isWordChar '\n' = false ∧
      (wordsOf ("foo bar" ++ String.singleton '\n' ++ "baz bar") 1).toList =
        (wordsOf "foo bar" 1).toList ++ (wordsOf "baz bar" 1).toList.filter (· ∉ wordsOf "foo bar" 1) ∧
      Pieces text.toList (pieces.map String.toList) ∧ (∀ piece, piece ≠ "" → (piece ∈ order ↔ piece ∈ pieces)) ∧
      (((start {} false).run (order.map .ingest)).2.run calls).1 =
        (((start {} false).run [.ingest text]).2.run calls).1 := by
  intro text pieces order calls
  have noWord : ∀ char, (char == '\r' || char == '\n') = true → isWordChar char = false := by
    intro char ending
    rcases Bool.or_eq_true_iff.mp ending with same | same
    · obtain rfl := eq_of_beq same
      decide +kernel
    · obtain rfl := eq_of_beq same
      decide +kernel
  have split : text.toList.splitOnP (fun char => char == '\r' || char == '\n') = pieces.map String.toList := by
    decide +kernel
  have cut : Pieces text.toList (pieces.map String.toList) := split ▸ pieces_splitOnP noWord text.toList
  have same : ∀ piece, piece ≠ "" → (piece ∈ order ↔ piece ∈ pieces) := by
    intro piece some
    simp [order, pieces, some, or_comm]
  obtain ⟨parted, answered⟩ := run_ingest_pieces
  have feed : isWordChar '\n' = false := noWord '\n' rfl
  exact ⟨feed, parted "foo bar" '\n' "baz bar" 1 feed, cut, same,
    (answered (start {} false) text pieces order cut same).2 calls⟩

end Session

end WordCompletion

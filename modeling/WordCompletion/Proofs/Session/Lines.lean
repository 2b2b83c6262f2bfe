import WordCompletion.Proofs.Lookup.Rows
import WordCompletion.Proofs.Query
import WordCompletion.Proofs.Session.Contents

/-! # Lines as texts before a cursor

A line that is no command is read up to its last character that is not blank, and the cursor is taken to
stand there. At the end of the line itself it would ask for something else exactly if blanks follow a text:
after a blank a cursor asks for nothing.
-/

namespace WordCompletion.Session

variable {session : Session} {line : String}

theorem trimmed_eq_self_iff : trimmed line = line ↔ ¬ Text.EndsBlank line.toList := by
  rw [← Text.trimBlankEnd_eq_self_iff, trimmed, ← String.toList_inj, String.toList_ofList]

/-- What is left of a line without its last blanks ends in a character that a cursor there asks for. -/
theorem sym_atCursor_trimmed_ne (left : trimmed line ≠ "") : (Query.atCursor (trimmed line)).sym ≠ "" := by
  intro nothing
  have noSym : Text.trailing (fun char => !Text.isBlank char) (trimmed line).toList = [] := by
    rw [← Query.atCursor_sym_toList, nothing]
    rfl
  rw [Text.trailing_eq_nil_iff, trimmed, String.toList_ofList] at noSym
  rcases ending : (Text.trimBlankEnd line.toList).getLast? with _ | last
  · apply left
    rw [trimmed, List.getLast?_eq_none_iff.mp ending]
  · apply Text.not_endsBlank_trimBlankEnd line.toList
    exact ⟨last, ending, by simpa using noSym last ending⟩

theorem request_of_endsBlank (blank : Text.EndsBlank line.toList) : session.request line =
    { options := session.config.matchOptions, query := { limitless := session.limitless } } := by
  rw [request, atCursor_of_endsBlank blank]

/-- A cursor asks for the same at the end of a line and before its last blanks exactly if there are none or
if there is nothing else. -/
theorem request_trimmed_eq_iff : session.request (trimmed line) = session.request line ↔
    ¬ Text.EndsBlank line.toList ∨ trimmed line = "" := by
  constructor
  · intro same
    by_contra neither
    obtain ⟨blank, left⟩ := not_or.mp neither
    rw [request_of_endsBlank (not_not.mp blank)] at same
    exact sym_atCursor_trimmed_ne left (congrArg (fun request => request.query.sym) same)
  · intro harmless
    by_cases blank : Text.EndsBlank line.toList
    · have empty : trimmed line = "" := harmless.resolve_left (not_not.mpr blank)
      rw [request_of_endsBlank blank, empty]
      rfl
    · rw [trimmed_eq_self_iff.mpr blank]

/-- A line that is no command is answered by the rows of a lookup: what is asked for is what a cursor asks
for before the last blanks of the line. At the end of the line a cursor asks for the same unless blanks
follow a text there: after a blank it asks for the empty word and the empty symbol. -/
theorem handle_trimmed (valid : session.config.validate = .ok ()) (text : ¬ IsCommand line) :
    ∃ rows, session.words.select (session.request (trimmed line)) = (.ok rows, session.words) ∧
      session.handle line = (.ok (rows.map Match.toJsonText), session.ingest line) ∧
      (session.request (trimmed line) = session.request line ↔
        ¬ Text.EndsBlank line.toList ∨ trimmed line = "") ∧
      (Text.EndsBlank line.toList → session.request line =
        { options := session.config.matchOptions
          query := { word := "", sym := "", limitless := session.limitless } }) := by
  have answerable : (session.request (trimmed line)).Answerable :=
    ⟨rfl, ((CacheConfig.validate_eq_ok_iff _).mp valid).1, rfl⟩
  have selected := Request.select_eq answerable session.words
  exact ⟨_, selected, handle_of_ok text (congrArg Prod.fst selected), request_trimmed_eq_iff, request_of_endsBlank⟩

/-- A text with blanks after it is completed as if they were not there, although a cursor behind them asks for
something else. -/
theorem handle_trimmed_fo : ({} : CacheConfig).validate = .ok () ∧ ¬ IsCommand "x = fo\t " ∧
    let session := ((start {} false).run [.ingest "foo bar"]).2
    ∃ rows, session.words.select (session.request (trimmed "x = fo\t ")) = (.ok rows, session.words) ∧
      (session.handle "x = fo\t ").1 = .ok (rows.map Match.toJsonText) ∧
      session.request (trimmed "x = fo\t ") ≠ session.request "x = fo\t " := by
  have valid : ({} : CacheConfig).validate = .ok () := by decide
  have text : ¬ IsCommand "x = fo\t " := by decide
  refine ⟨valid, text, ?_⟩
  intro session
  obtain ⟨rows, selected, handled, same, _⟩ := @handle_trimmed session _ valid text
  refine ⟨rows, selected, congrArg Prod.fst handled, ?_⟩
  rw [Ne, same]
  decide

/-- After a blank every stored word is asked for, but those that begin otherwise than what stands before the
blank are not printed. -/
theorem handle_fo_blank : ({} : CacheConfig).validate = .ok () ∧ ¬ IsCommand "fo " ∧
    let session := ((start {} false).run [.ingest "bar"]).2
    session.words.select (session.request "fo ") = (.ok [.primary "bar"], session.words) ∧
      (session.handle "fo ").1 = .ok [] ∧ [Match.primary "bar"].map Match.toJsonText ≠ [] := by
  decide +kernel

end WordCompletion.Session

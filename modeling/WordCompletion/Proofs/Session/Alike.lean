import WordCompletion.CommandLine.Invocation
import WordCompletion.Proofs.Cache.History
import WordCompletion.Proofs.Session.Contents

/-! # Sessions that hold the same words

Two sessions under the same settings that hold the same words, in whatever order the words arrived, cannot be
told apart: they give the same answer to every call, and they hold the same words after it. So whole runs of
calls are answered the same, and lines of input print the same.
-/

namespace WordCompletion.Session

variable {first second : Session}

/-- The same settings, and the same words. -/
structure Alike (first second : Session) : Prop where
  config : first.config = second.config
  limitless : first.limitless = second.limitless
  words : first.words.Alike second.words

namespace Alike

theorem lookupOf_eq (alike : first.Alike second) (line : String) : first.lookupOf line = second.lookupOf line := by
  rw [lookupOf, lookupOf, alike.config, alike.limitless]

theorem ingest (alike : first.Alike second) (text : String) : (first.ingest text).Alike (second.ingest text) where
  config := alike.config
  limitless := alike.limitless
  words := by
    intro word
    simp only [Session.ingest, wordsIn, WordSet.mem_insertAll, alike.config, alike.words word]

theorem size_eq (alike : first.Alike second) : first.words.size = second.words.size :=
  alike.words.perm.length_eq

/-- A line is answered the same, and the sessions stay alike. -/
theorem handle (alike : first.Alike second) (line : String) :
    (first.handle line).1 = (second.handle line).1 ∧ (first.handle line).2.Alike (second.handle line).2 := by
  by_cases command : IsCommand line
  · obtain clear | count := command
    · rw [handle_clear clear, handle_clear clear]
      exact ⟨rfl, alike.config, alike.limitless, fun _ => Iff.rfl⟩
    · rw [handle_count count, handle_count count, alike.size_eq]
      exact ⟨rfl, alike⟩
  · have same : (first.words.select (first.lookupOf line)).1 = (second.words.select (second.lookupOf line)).1 := by
      rw [Request.select_congr alike.words, alike.lookupOf_eq]
    cases answer : (first.words.select (first.lookupOf line)).1 with
    | ok rows =>
      rw [handle_of_ok command answer, handle_of_ok command (same ▸ answer)]
      exact ⟨rfl, alike.ingest line⟩
    | error error =>
      rw [handle_of_error command answer, handle_of_error command (same ▸ answer)]
      exact ⟨rfl, alike⟩

/-- A call is answered the same, and the sessions stay alike. -/
theorem call (alike : first.Alike second) (call : Call) :
    (first.call call).1 = (second.call call).1 ∧ (first.call call).2.Alike (second.call call).2 := by
  cases call with
  | ingest text =>
    refine ⟨?_, alike.ingest text⟩
    simp only [Session.call, wordsIn, alike.config]
  | line text =>
    obtain ⟨same, later⟩ := alike.handle text
    exact ⟨congrArg (Except.map Reply.printed) same, later⟩

/-- Calls are answered the same, with the same numbers of stored words after each. -/
theorem run_eq (alike : first.Alike second) (calls : List Call) : (first.run calls).1 = (second.run calls).1 := by
  induction calls generalizing first second with
  | nil => rfl
  | cons call rest ih =>
    obtain ⟨same, later⟩ := alike.call call
    simp only [run, same, later.size_eq, ih later]

/-- A line of input either ends both sessions or leaves them alike. -/
theorem answer? (alike : first.Alike second) (line : Bytes) :
    (first.answer? line = none ∧ second.answer? line = none) ∨
      ∃ printed after after', first.answer? line = some (printed, after) ∧
        second.answer? line = some (printed, after') ∧ after.Alike after' := by
  rw [Session.answer?, Session.answer?]
  cases line.text? with
  | none => exact .inl ⟨rfl, rfl⟩
  | some text =>
    obtain ⟨same, later⟩ := alike.handle text
    simp only [Option.bind_eq_bind, Option.bind_some]
    generalize first.handle text = reply at same later
    generalize second.handle text = reply' at same later
    obtain ⟨answer, after⟩ := reply
    obtain ⟨answer', after'⟩ := reply'
    cases same
    cases answer with
    | ok printed => exact .inr ⟨printed, after, after', rfl, rfl, later⟩
    | error error => exact .inl ⟨rfl, rfl⟩

/-- Lines of input are printed the same, and both sessions come to their end or neither does. -/
theorem feed_eq (alike : first.Alike second) (lines : List Bytes) :
    (first.feed lines).1 = (second.feed lines).1 ∧
      (first.feed lines).2.isSome = (second.feed lines).2.isSome := by
  induction lines generalizing first second with
  | nil => exact ⟨rfl, rfl⟩
  | cons line rest ih =>
    obtain ⟨ended, ended'⟩ | ⟨printed, after, after', answered, answered', later⟩ := alike.answer? line
    · simp only [feed, ended, ended', Option.isSome_none, and_self]
    · obtain ⟨same, whole⟩ := ih later
      simp only [feed, answered, answered', same, whole, and_self]

end Alike

end WordCompletion.Session

import Mathlib.Order.Bounds.Basic
import WordCompletion.Proofs.Migration.Runs

/-! # Outcomes of a run of the migrations

A run meets its obstacles in the order of its statements: a table of versions that cannot be read, an index in
the place of the words, a table of versions that cannot take the time of a migration. Only the first of them
stands in the way of a database that has the newest version. Which one a run meets, if any, is determined by
the schema, and so is what a run without one leaves.
-/

namespace WordCompletion

namespace Schema

variable {schema : Schema} {current : Int64}

/-! ## Statements in terms of the schema -/

/-- There is a table of versions, and it has no column of a name. -/
def Lacks (schema : Schema) (column : String) : Prop :=
  ∃ table ∈ schema.versionTable, column ∉ table.columns

/-- The table that a run creates lacks none of its columns. -/
theorem lacks_iff {column : String} (known : column ∈ (VersionTable.full []).columns) :
    schema.Lacks column ↔ column ∉ schema.table.columns := by
  cases present : schema.versionTable with
  | none => simp [Lacks, table, present, known]
  | some table => simp [Lacks, Schema.table, present]

theorem mem_columns_of_not_lacks {column : String} (known : column ∈ (VersionTable.full []).columns)
    (found : ¬ schema.Lacks column) : column ∈ schema.table.columns :=
  not_not.mp ((lacks_iff known).not.mp found)

theorem index_mem_objects : "index:words" ∈ schema.objects ↔ schema.words = some .index := by
  simp [mem_objects_iff]

theorem not_mem_recorded (behind : schema.newest < 1) : 1 ∉ schema.recorded :=
  fun member => Int64.not_lt.mpr (le_newest member) behind

/-- The time is the only value that a readable table of versions can lack a column for. -/
theorem record_of_lacks (schema : Schema) (readable : "version" ∈ schema.table.columns)
    (lacks : "applied_at" ∉ schema.table.columns) (version : Int64) :
    schema.record version = (.error (missingColumn "applied_at"), schema) := by
  simp [record, readable, lacks]

theorem record_of_complete (schema : Schema) (readable : "version" ∈ schema.table.columns)
    (complete : "applied_at" ∈ schema.table.columns) {version : Int64} (new : version ∉ schema.recorded) :
    schema.record version =
      (.ok (), { schema with versionTable := some (.full (schema.recorded ++ [version])) }) := by
  simp [record, insertVersion, readable, complete, new]

theorem createWords_of_index (schema : Schema) (taken : schema.words = some .index) : schema.createWords =
    (.error (.statement .failed (some "there is already an index named words")), schema) := by
  rw [createWords, taken]

/-- An empty table of words is put in place unless something has its name. -/
def withWords (schema : Schema) : Schema :=
  { schema with words := some (schema.words.getD (.table [])) }

theorem createWords_of_free (schema : Schema) (free : schema.words ≠ some .index) :
    schema.createWords = (.ok (), schema.withWords) := by
  obtain ⟨versionTable, words, other⟩ := schema
  rcases words with _ | _ | _ | _
  · rfl
  · rfl
  · rfl
  · exact absurd rfl free

/-! ## The obstacles in order -/

/-- How a run ends, and what makes it end so. -/
inductive Ends (schema : Schema) : Except CacheError Unit × Schema → Prop where
  | unreadable (lacks : schema.Lacks "version") : schema.Ends (.error unreadableVersions, schema)
  | passed (readable : ¬ schema.Lacks "version") (upToDate : 1 ≤ schema.newest) :
    schema.Ends (.ok (), schema.ensureVersions)
  | index (readable : ¬ schema.Lacks "version") (behind : schema.newest < 1)
    (taken : schema.words = some .index) :
    schema.Ends (.error (.migrationFailed "version 1: there is already an index named words"), schema)
  | timeless (readable : ¬ schema.Lacks "version") (behind : schema.newest < 1)
    (free : schema.words ≠ some .index) (lacks : schema.Lacks "applied_at") :
    schema.Ends (.error (missingColumn "applied_at"), schema)
  | applied (readable : ¬ schema.Lacks "version") (behind : schema.newest < 1)
    (free : schema.words ≠ some .index) (complete : ¬ schema.Lacks "applied_at") :
    schema.Ends (.ok (), { schema.withWords with versionTable := some (.full (schema.recorded ++ [1])) })

theorem migrate_of_le (readable : ¬ schema.Lacks "version") (upToDate : 1 ≤ schema.newest) :
    schema.migrate = (.ok (), schema.ensureVersions) := by
  rw [migrate_of_readable (mem_columns_of_not_lacks (by decide) readable)]
  refine applyLater_of_le ?_ schema.ensureVersions
  rw [migrations, List.forall_mem_singleton]
  exact upToDate

theorem andThen_applyLater_nil (done : Except CacheError Unit × Schema) :
    andThen done (applyLater current []) = done := by
  rcases done with ⟨_ | _, _⟩ <;> rfl

/-- A database that is behind has the words put in place and the first version recorded. -/
theorem migrate_of_lt (readable : ¬ schema.Lacks "version") (behind : schema.newest < 1) :
    schema.migrate = Migration.apply ⟨1, createWords⟩ schema.ensureVersions := by
  rw [migrate_of_readable (mem_columns_of_not_lacks (by decide) readable), migrations, applyLater, if_pos behind,
    andThen_applyLater_nil]

/-- The cases are the obstacles in the order in which a run meets them. -/
theorem ends_run (schema : Schema) : schema.Ends schema.run := by
  rcases Classical.em (schema.Lacks "version") with lacks | readable
  · have missing : "version" ∉ schema.table.columns := (lacks_iff (by decide)).mp lacks
    have work : schema.migrate = (.error unreadableVersions, schema.ensureVersions) := by
      rw [migrate, readNewest_ensureVersions, readNewest, if_neg missing]
    rw [run_of_migrate_error work]
    exact .unreadable lacks
  rcases Int64.lt_or_le schema.newest 1 with behind | upToDate
  case inr =>
    rw [run_of_migrate_ok (migrate_of_le readable upToDate)]
    exact .passed readable upToDate
  have work := migrate_of_lt readable behind
  rcases Classical.em (schema.words = some .index) with taken | free
  · have script := createWords_of_index schema.ensureVersions taken
    rw [run_of_migrate_error (work.trans (apply_of_error script))]
    exact .index readable behind taken
  replace work := work.trans (apply_of_ok (createWords_of_free schema.ensureVersions free))
  have version : "version" ∈ schema.table.columns := mem_columns_of_not_lacks (by decide) readable
  rcases Classical.em (schema.Lacks "applied_at") with lacks | complete
  · have missing : "applied_at" ∉ schema.table.columns := (lacks_iff (by decide)).mp lacks
    have failed := record_of_lacks schema.ensureVersions.withWords version missing 1
    rw [run_of_migrate_error (work.trans failed)]
    exact .timeless readable behind free lacks
  · have time : "applied_at" ∈ schema.table.columns := mem_columns_of_not_lacks (by decide) complete
    have recorded := record_of_complete schema.ensureVersions.withWords version time (not_mem_recorded behind)
    rw [run_of_migrate_ok (work.trans recorded)]
    exact .applied readable behind free complete

/-! ## What the end tells -/

variable {ending : Except CacheError Unit × Schema}

theorem Ends.error_iff (ends : schema.Ends ending) : (∃ error, ending.1 = .error error) ↔
    schema.Lacks "version" ∨
      (schema.newest < 1 ∧ ("index:words" ∈ schema.objects ∨ schema.Lacks "applied_at")) := by
  rw [index_mem_objects]
  cases ends with
  | unreadable lacks => exact iff_of_true ⟨_, rfl⟩ (.inl lacks)
  | index readable behind taken => exact iff_of_true ⟨_, rfl⟩ (.inr ⟨behind, .inl taken⟩)
  | timeless readable behind free lacks => exact iff_of_true ⟨_, rfl⟩ (.inr ⟨behind, .inr lacks⟩)
  | passed readable upToDate =>
    refine iff_of_false nofun ?_
    rintro (lacks | ⟨behind, _⟩)
    · exact readable lacks
    · exact Int64.not_lt.mpr upToDate behind
  | applied readable behind free complete =>
    refine iff_of_false nofun ?_
    rintro (lacks | ⟨_, taken | lacks⟩)
    · exact readable lacks
    · exact free taken
    · exact complete lacks

/-- Only a script that fails is reported as a failed migration. -/
theorem Ends.migrationFailed_iff (ends : schema.Ends ending) :
    (∃ reason, ending.1 = .error (.migrationFailed reason)) ↔
      ¬ schema.Lacks "version" ∧ schema.newest < 1 ∧ "index:words" ∈ schema.objects := by
  rw [index_mem_objects]
  cases ends with
  | unreadable lacks => exact iff_of_false nofun fun ⟨readable, _⟩ => readable lacks
  | passed readable upToDate => exact iff_of_false nofun fun ⟨_, behind, _⟩ => Int64.not_lt.mpr upToDate behind
  | index readable behind taken => exact iff_of_true ⟨_, rfl⟩ ⟨readable, behind, taken⟩
  | timeless readable behind free lacks => exact iff_of_false nofun fun ⟨_, _, taken⟩ => free taken
  | applied readable behind free complete => exact iff_of_false nofun fun ⟨_, _, taken⟩ => free taken

theorem Ends.error_kind (ends : schema.Ends ending) {error : CacheError} (failed : ending.1 = .error error) :
    ((∃ reason, error = .migrationFailed reason) ∨ ∃ fault, error = .database fault) ∧ error ≠ duplicateVersion := by
  cases ends with
  | unreadable lacks =>
    cases failed
    exact ⟨.inr ⟨_, rfl⟩, by decide⟩
  | index readable behind taken =>
    cases failed
    exact ⟨.inl ⟨_, rfl⟩, nofun⟩
  | timeless readable behind free lacks =>
    cases failed
    exact ⟨.inr ⟨_, rfl⟩, by decide⟩
  | passed readable upToDate => cases failed
  | applied readable behind free complete => cases failed

theorem Ends.recorded (ends : schema.Ends ending) (success : ending.1 = .ok ()) :
    ending.2.recorded = schema.recorded ++ if schema.newest < 1 then [1] else [] := by
  cases ends with
  | passed readable upToDate =>
    rw [if_neg (Int64.not_lt.mpr upToDate), List.append_nil]
    rfl
  | applied readable behind free complete =>
    rw [if_pos behind]
    rfl
  | unreadable lacks => cases success
  | index readable behind taken => cases success
  | timeless readable behind free lacks => cases success

theorem mem_objects_withVersions (schema : Schema) (table : VersionTable) (object : String) :
    object ∈ objects { schema with versionTable := some table } ↔
      object ∈ schema.objects ∨ object = "table:_migrations" := by
  simp only [mem_objects_iff, Option.isSome_some]
  tauto

theorem unnamed_iff (free : schema.words ≠ some .index) :
    schema.words = none ↔ "table:words" ∉ schema.objects ∧ "view:words" ∉ schema.objects := by
  cases kind : schema.words with
  | none => simp [mem_objects_iff, kind]
  | some object =>
    cases object with
    | table rows => simp [mem_objects_iff, kind]
    | view => simp [mem_objects_iff, kind]
    | index => exact absurd kind free

theorem mem_objects_withWords (schema : Schema) {object : String} :
    object ∈ schema.withWords.objects ↔ object ∈ schema.objects ∨ (object = "table:words" ∧ schema.words = none) := by
  cases kind : schema.words with
  | none =>
    simp only [mem_objects_iff, withWords, kind, Option.getD_none, Option.some.injEq, reduceCtorEq,
      WordsObject.table.injEq, exists_eq']
    tauto
  | some found => simp [mem_objects_iff, withWords, kind]

theorem Ends.mem_objects (ends : schema.Ends ending) (success : ending.1 = .ok ()) {object : String} :
    object ∈ ending.2.objects ↔ object ∈ schema.objects ∨ object = "table:_migrations" ∨
      (object = "table:words" ∧ schema.newest < 1 ∧ "table:words" ∉ schema.objects ∧
        "view:words" ∉ schema.objects) := by
  cases ends with
  | passed readable upToDate =>
    have late : ¬ schema.newest < 1 := Int64.not_lt.mpr upToDate
    refine (mem_objects_withVersions schema schema.table object).trans ?_
    tauto
  | applied readable behind free complete =>
    rw [mem_objects_withVersions schema.withWords, mem_objects_withWords, unnamed_iff free]
    tauto
  | unreadable lacks => cases success
  | index readable behind taken => cases success
  | timeless readable behind free lacks => cases success

theorem isGreatest_newest (nonempty : schema.recorded ≠ []) :
    IsGreatest {version | version ∈ schema.recorded} schema.newest :=
  ⟨newest_mem nonempty, fun _ => le_newest⟩

/-- When a run fails and with which kind of error, and what a run that succeeds leaves. The newest version is
the greatest recorded one, or zero. That version 1 is recorded already is never the reason of a failure. -/
theorem run_outcome (schema : Schema) :
    (schema.recorded = [] → schema.newest = 0) ∧
    (schema.recorded ≠ [] → IsGreatest {version | version ∈ schema.recorded} schema.newest) ∧
    ((∃ error, schema.run.1 = .error error) ↔
      schema.Lacks "version" ∨
        (schema.newest < 1 ∧ ("index:words" ∈ schema.objects ∨ schema.Lacks "applied_at"))) ∧
    ((∃ reason, schema.run.1 = .error (.migrationFailed reason)) ↔
      ¬ schema.Lacks "version" ∧ schema.newest < 1 ∧ "index:words" ∈ schema.objects) ∧
    (∀ error, schema.run.1 = .error error →
      ((∃ reason, error = .migrationFailed reason) ∨ ∃ fault, error = .database fault) ∧
      error ≠ duplicateVersion) ∧
    (schema.run.1 = .ok () →
      schema.run.2.recorded = schema.recorded ++ (if schema.newest < 1 then [1] else []) ∧
      ∀ object, object ∈ schema.run.2.objects ↔
        object ∈ schema.objects ∨ object = "table:_migrations" ∨
          (object = "table:words" ∧ schema.newest < 1 ∧ "table:words" ∉ schema.objects ∧
            "view:words" ∉ schema.objects)) := by
  have ends := ends_run schema
  exact ⟨newest_eq_zero, isGreatest_newest, ends.error_iff, ends.migrationFailed_iff,
    fun error failed => ends.error_kind failed,
    fun success => ⟨ends.recorded success, fun object => ends.mem_objects success⟩⟩

/-- The words of a new database are put in place, and so are those of one with a negative version. An index in
their place is a failed migration, and no clash of versions. -/
theorem run_outcome_negative :
    fresh.newest = 0 ∧
    IsGreatest {version | version ∈ (Schema.mk (some (.full [-5, -7])) none false).recorded} (-5) ∧
    (∃ error, (Schema.mk (some (.full [-5, -7])) (some .index) true).run.1 = .error error ∧
      error ≠ duplicateVersion) ∧
    (Schema.mk (some (.full [-5, -7])) none false).run.2.recorded = [-5, -7, 1] ∧
    "table:words" ∈ (Schema.mk (some (.full [-5, -7])) none false).run.2.objects := by
  obtain ⟨error, failed⟩ : ∃ error, (Schema.mk (some (.full [-5, -7])) (some .index) true).run.1 = .error error :=
    ⟨_, rfl⟩
  obtain ⟨-, greatest, -, -, -, left⟩ := run_outcome (Schema.mk (some (.full [-5, -7])) none false)
  obtain ⟨versions, objects⟩ := left rfl
  exact ⟨(run_outcome fresh).1 rfl, greatest (by decide), ⟨error, failed, ((run_outcome _).2.2.2.2.1 error failed).2⟩,
    versions, (objects _).mpr (.inr (.inr ⟨rfl, by decide, by decide, by decide⟩))⟩

end Schema

end WordCompletion

import Mathlib.Order.Bounds.Basic
import WordCompletion.Migration

/-! # Runs of the migrations

No statement of a run takes anything away, so that a run that succeeds keeps every object, version and word
there was; one that fails leaves nothing behind. After a run that succeeds no migration is later than all
recorded versions, and that stays so until versions are forgotten: all further runs find nothing to apply.
-/

namespace WordCompletion

/-- The larger of two signed numbers is one of them and at least both. -/
instance lawfulOrderMaxInt64 : Std.LawfulOrderMax Int64 where
  max_eq_or first second := by
    change (if first ≤ second then second else first) = _ ∨ (if first ≤ second then second else first) = _
    split
    · exact .inr rfl
    · exact .inl rfl
  max_le_iff first second bound := by
    change (if first ≤ second then second else first) ≤ bound ↔ _
    split <;> grind

namespace VersionTable

/-- The columns stay and versions are only added. -/
structure Grows (before after : VersionTable) : Prop where
  columns : after.columns = before.columns
  versions : before.versions <+: after.versions

theorem Grows.refl (table : VersionTable) : table.Grows table := ⟨rfl, List.prefix_rfl⟩

theorem Grows.trans {first second third : VersionTable} (early : first.Grows second) (late : second.Grows third) :
    first.Grows third :=
  ⟨late.columns.trans early.columns, early.versions.trans late.versions⟩

end VersionTable

namespace Schema

/-! ## What is kept -/

/-- The rows that reading the words gives. -/
def storedWords (schema : Schema) : List String :=
  match schema.words with
  | some (.table rows) => rows
  | some .view => ["v"]
  | _ => []

/-- A table of versions stays and grows. -/
def KeepsVersions (before after : Schema) : Prop :=
  ∀ table ∈ before.versionTable, ∃ grown ∈ after.versionTable, table.Grows grown

/-- Nothing is taken away. -/
structure Grows (before after : Schema) : Prop where
  versions : before.KeepsVersions after
  words : ∀ object ∈ before.words, object ∈ after.words
  other : after.other = before.other

variable {schema before after : Schema}

theorem KeepsVersions.refl (schema : Schema) : schema.KeepsVersions schema :=
  fun table present => ⟨table, present, .refl table⟩

theorem KeepsVersions.trans {first second third : Schema} (early : first.KeepsVersions second)
    (late : second.KeepsVersions third) : first.KeepsVersions third := by
  intro table present
  obtain ⟨grown, there, growth⟩ := early table present
  obtain ⟨last, final, more⟩ := late grown there
  exact ⟨last, final, growth.trans more⟩

theorem Grows.refl (schema : Schema) : schema.Grows schema := ⟨.refl schema, fun _ present => present, rfl⟩

theorem Grows.trans {first second third : Schema} (early : first.Grows second) (late : second.Grows third) :
    first.Grows third :=
  ⟨early.versions.trans late.versions, fun object present => late.words object (early.words object present),
    late.other.trans early.other⟩

theorem mem_objects_iff {object : String} : object ∈ schema.objects ↔
    (object = "index:words" ∧ schema.words = some .index) ∨
    (object = "table:_migrations" ∧ schema.versionTable.isSome = true) ∨
    (object = "table:other" ∧ schema.other = true) ∨
    (object = "table:words" ∧ ∃ rows, schema.words = some (.table rows)) ∨
    (object = "view:words" ∧ schema.words = some .view) := by
  obtain ⟨versionTable, words, other⟩ := schema
  rcases words with _ | _ | _ | _ <;> cases versionTable <;> cases other <;> simp [objects]

theorem Grows.mem_objects (grows : before.Grows after) {object : String} (member : object ∈ before.objects) :
    object ∈ after.objects := by
  rw [mem_objects_iff] at member ⊢
  rcases member with ⟨rfl, index⟩ | ⟨rfl, present⟩ | ⟨rfl, further⟩ | ⟨rfl, rows, table⟩ | ⟨rfl, view⟩
  · exact .inl ⟨rfl, grows.words _ index⟩
  · obtain ⟨table, there⟩ := Option.isSome_iff_exists.mp present
    obtain ⟨grown, stays, _⟩ := grows.versions table there
    exact .inr (.inl ⟨rfl, Option.isSome_iff_exists.mpr ⟨grown, stays⟩⟩)
  · exact .inr (.inr (.inl ⟨rfl, grows.other.trans further⟩))
  · exact .inr (.inr (.inr (.inl ⟨rfl, rows, grows.words _ table⟩)))
  · exact .inr (.inr (.inr (.inr ⟨rfl, grows.words _ view⟩)))

theorem recorded_of_versionTable {table : VersionTable} (present : schema.versionTable = some table) :
    schema.recorded = table.versions := by
  rw [Schema.recorded, Schema.table, present, Option.getD_some]

theorem Grows.recorded (grows : before.Grows after) : before.recorded <+: after.recorded := by
  cases present : before.versionTable with
  | none =>
    rw [Schema.recorded, Schema.table, present]
    exact List.nil_prefix
  | some table =>
    obtain ⟨grown, stays, growth⟩ := grows.versions table present
    rw [recorded_of_versionTable present, recorded_of_versionTable stays]
    exact growth.versions

theorem Grows.mem_storedWords (grows : before.Grows after) {word : String} (member : word ∈ before.storedWords) :
    word ∈ after.storedWords := by
  cases present : before.words with
  | none => simp [storedWords, present] at member
  | some object =>
    rw [storedWords, present] at member
    rwa [storedWords, grows.words object present]

/-! ## Statements take nothing away -/

theorem table_of_versionTable {table : VersionTable} (present : schema.versionTable = some table) :
    schema.table = table := by
  rw [Schema.table, present, Option.getD_some]

theorem grows_ensureVersions (schema : Schema) : schema.Grows schema.ensureVersions where
  versions := by
    intro table present
    exact ⟨table, congrArg some (table_of_versionTable present), .refl table⟩
  words := fun _ present => present
  other := rfl

theorem grows_createWords (schema : Schema) : schema.Grows schema.createWords.2 := by
  unfold createWords
  split
  · rename_i absent
    exact ⟨.refl schema, fun object present => by simp [absent] at present, rfl⟩
  · exact .refl schema
  · exact .refl schema

theorem grows_append {versions : List Int64} (full : schema.table = .full versions) (version : Int64) :
    schema.Grows { schema with versionTable := some (.full (versions ++ [version])) } := by
  refine ⟨?_, fun _ present => present, rfl⟩
  intro table present
  obtain rfl : table = .full versions := (table_of_versionTable present).symm.trans full
  exact ⟨.full (versions ++ [version]), rfl, rfl, List.prefix_append ..⟩

theorem insertVersion_cases {versions : List Int64} (full : schema.table = .full versions) (version : Int64) :
    schema.insertVersion version = (.error duplicateVersion, schema) ∨ schema.insertVersion version =
      (.ok (), { schema with versionTable := some (.full (versions ++ [version])) }) := by
  have same : schema.recorded = versions := congrArg VersionTable.versions full
  rw [insertVersion, same]
  split
  · exact .inl rfl
  · exact .inr rfl

/-- A version is recorded at the end, and only in a table as a run creates it. -/
theorem record_cases (schema : Schema) (version : Int64) :
    (∃ error, schema.record version = (.error error, schema)) ∨
    ∃ versions, schema.table = .full versions ∧ schema.record version =
      (.ok (), { schema with versionTable := some (.full (versions ++ [version])) }) := by
  cases kind : schema.table with
  | full versions =>
    have inserted : schema.record version = schema.insertVersion version := by
      rw [record, kind]
      rfl
    rw [inserted]
    exact (insertVersion_cases kind version).imp (fun failed => ⟨_, failed⟩) fun done => ⟨versions, rfl, done⟩
  | odd =>
    rw [record, kind]
    exact .inl ⟨missingColumn "version", rfl⟩
  | narrow =>
    rw [record, kind]
    exact .inl ⟨missingColumn "applied_at", rfl⟩

theorem grows_insertVersion {versions : List Int64} (full : schema.table = .full versions) (version : Int64) :
    schema.Grows (schema.insertVersion version).2 := by
  rcases insertVersion_cases full version with failed | done
  · rw [failed]
    exact .refl schema
  · rw [done]
    exact grows_append full version

theorem grows_record (schema : Schema) (version : Int64) : schema.Grows (schema.record version).2 := by
  rcases record_cases schema version with ⟨error, failed⟩ | ⟨versions, full, done⟩
  · rw [failed]
    exact .refl schema
  · rw [done]
    exact grows_append full version

theorem mem_recorded_record {version : Int64} (success : (schema.record version).1 = .ok ()) :
    version ∈ (schema.record version).2.recorded := by
  rcases record_cases schema version with ⟨error, failed⟩ | ⟨versions, full, done⟩
  · rw [failed] at success
    exact absurd success nofun
  · rw [done]
    exact List.mem_append_right versions (List.mem_singleton_self version)

/-! ## Runs take nothing away -/

theorem grows_andThen {done : Except CacheError Unit × Schema} (grows : before.Grows done.2)
    {next : Schema → Except CacheError Unit × Schema} (more : ∀ schema : Schema, schema.Grows (next schema).2) :
    before.Grows (andThen done next).2 := by
  unfold andThen
  split
  · exact grows.trans (more _)
  · exact grows

theorem apply_of_ok {migration : Migration} {changed : Schema} (ran : migration.script schema = (.ok (), changed)) :
    migration.apply schema = changed.record migration.version := by
  rw [Migration.apply, ran]

theorem apply_of_error {migration : Migration} {fault : EngineFault} {changed : Schema}
    (ran : migration.script schema = (.error fault, changed)) : migration.apply schema =
      (.error (.migrationFailed ("version " ++ toString migration.version ++ ": " ++ fault.message)), changed) := by
  rw [Migration.apply, ran]

theorem grows_apply {migration : Migration} (grows : ∀ schema : Schema, schema.Grows (migration.script schema).2)
    (schema : Schema) : schema.Grows (migration.apply schema).2 := by
  have script := grows schema
  match ran : migration.script schema with
  | (.ok (), changed) =>
    rw [ran] at script
    rw [apply_of_ok ran]
    exact script.trans (grows_record changed migration.version)
  | (.error fault, changed) =>
    rw [ran] at script
    rw [apply_of_error ran]
    exact script

/-- The induction is on the migrations that are left. -/
theorem grows_applyLater (current : Int64) {pending : List Migration}
    (grows : ∀ migration ∈ pending, ∀ schema : Schema, schema.Grows (migration.script schema).2) (schema : Schema) :
    schema.Grows (applyLater current pending schema).2 := by
  induction pending generalizing schema with
  | nil => exact .refl schema
  | cons migration rest ih =>
    obtain ⟨first, others⟩ := List.forall_mem_cons.mp grows
    unfold applyLater
    split
    · exact grows_andThen (grows_apply first schema) (ih others)
    · exact ih others schema

theorem grows_script : ∀ migration ∈ migrations, ∀ schema : Schema, schema.Grows (migration.script schema).2 := by
  rw [migrations, List.forall_mem_singleton]
  exact grows_createWords

/-- Whether it fails or not, the work of a run takes nothing away. -/
theorem grows_migrate (schema : Schema) : schema.Grows schema.migrate.2 := by
  unfold migrate
  split
  · exact (grows_ensureVersions schema).trans (grows_applyLater _ grows_script _)
  · exact grows_ensureVersions schema

theorem run_of_migrate_ok {done : Schema} (work : schema.migrate = (.ok (), done)) : schema.run = (.ok (), done) := by
  rw [run, transaction, work]

theorem run_of_migrate_error {error : CacheError} {done : Schema} (work : schema.migrate = (.error error, done)) :
    schema.run = (.error error, schema) := by
  rw [run, transaction, work]

/-- A run that succeeds is its work. -/
theorem run_eq_migrate (success : schema.run.1 = .ok ()) : schema.run = schema.migrate := by
  match work : schema.migrate with
  | (.ok (), done) => exact run_of_migrate_ok work
  | (.error error, done) =>
    rw [run_of_migrate_error work] at success
    exact absurd success nofun

theorem grows_run (schema : Schema) : schema.Grows schema.run.2 := by
  cases answer : schema.run.1 with
  | ok _ =>
    rw [run_eq_migrate answer]
    exact grows_migrate schema
  | error error =>
    rw [run_error answer]
    exact .refl schema

/-! ## The greatest version -/

theorem newest_eq_zero (empty : schema.recorded = []) : schema.newest = 0 := by
  rw [newest, empty]
  rfl

theorem max?_recorded (nonempty : schema.recorded ≠ []) : schema.recorded.max? = some schema.newest := by
  cases greatest : schema.recorded.max? with
  | none => exact absurd (List.max?_eq_none_iff.mp greatest) nonempty
  | some version => rw [newest, greatest, Option.getD_some]

theorem newest_mem (nonempty : schema.recorded ≠ []) : schema.newest ∈ schema.recorded :=
  (List.max?_eq_some_iff.mp (max?_recorded nonempty)).1

theorem le_newest {version : Int64} (member : version ∈ schema.recorded) : version ≤ schema.newest :=
  (List.max?_eq_some_iff.mp (max?_recorded (List.ne_nil_of_mem member))).2 version member

/-! ## After a run that succeeds -/

/-- Each migration is matched or passed by a recorded version. -/
def UpToDate (schema : Schema) : Prop :=
  ∃ table ∈ schema.versionTable, "version" ∈ table.columns ∧
    ∀ migration ∈ migrations, ∃ version ∈ table.versions, migration.version ≤ version

theorem UpToDate.mono (upToDate : before.UpToDate) (keeps : before.KeepsVersions after) : after.UpToDate := by
  obtain ⟨table, present, readable, matched⟩ := upToDate
  obtain ⟨grown, stays, growth⟩ := keeps table present
  refine ⟨grown, stays, growth.columns ▸ readable, fun migration member => ?_⟩
  obtain ⟨version, old, atMost⟩ := matched migration member
  exact ⟨version, growth.versions.subset old, atMost⟩

theorem applyLater_of_le {current : Int64} {pending : List Migration}
    (passed : ∀ migration ∈ pending, migration.version ≤ current) (schema : Schema) :
    applyLater current pending schema = (.ok (), schema) := by
  induction pending with
  | nil => rfl
  | cons migration rest ih =>
    obtain ⟨first, others⟩ := List.forall_mem_cons.mp passed
    rw [applyLater, if_neg (Int64.not_lt.mpr first), ih others]

/-- Nothing is left to do. -/
theorem run_of_upToDate (upToDate : schema.UpToDate) : schema.run = (.ok (), schema) := by
  obtain ⟨table, present, readable, matched⟩ := upToDate
  have same : schema.table = table := table_of_versionTable present
  have unchanged : schema.ensureVersions = schema := by
    rw [ensureVersions, same, ← Option.mem_def.mp present]
  have passed : ∀ migration ∈ migrations, migration.version ≤ schema.newest := by
    intro migration member
    obtain ⟨version, recorded, atMost⟩ := matched migration member
    exact Int64.le_trans atMost (le_newest ((recorded_of_versionTable present).symm ▸ recorded))
  apply run_of_migrate_ok
  rw [migrate, unchanged, readNewest, same, if_pos readable]
  exact applyLater_of_le passed schema

theorem andThen_eq_of_ok {done : Except CacheError Unit × Schema}
    {next : Schema → Except CacheError Unit × Schema} (success : (andThen done next).1 = .ok ()) :
    done.1 = .ok () ∧ andThen done next = next done.2 := by
  unfold andThen at success ⊢
  split
  · exact ⟨rfl, rfl⟩
  · exact absurd success nofun

theorem mem_recorded_apply {migration : Migration} (success : (migration.apply schema).1 = .ok ()) :
    migration.version ∈ (migration.apply schema).2.recorded := by
  match ran : migration.script schema with
  | (.ok (), changed) =>
    rw [apply_of_ok ran] at success ⊢
    exact mem_recorded_record success
  | (.error fault, changed) =>
    rw [apply_of_error ran] at success
    exact absurd success nofun

/-- What a run has not applied it has passed, and what it has applied it has recorded. -/
theorem passed_or_mem_recorded {current : Int64} {pending : List Migration}
    (grows : ∀ migration ∈ pending, ∀ schema : Schema, schema.Grows (migration.script schema).2)
    (success : (applyLater current pending schema).1 = .ok ()) : ∀ migration ∈ pending,
      migration.version ≤ current ∨ migration.version ∈ (applyLater current pending schema).2.recorded := by
  induction pending generalizing schema with
  | nil => exact fun _ member => absurd member List.not_mem_nil
  | cons migration rest ih =>
    obtain ⟨_, others⟩ := List.forall_mem_cons.mp grows
    rw [List.forall_mem_cons]
    unfold applyLater at success ⊢
    split at success
    · rename_i later
      obtain ⟨applied, same⟩ := andThen_eq_of_ok success
      rw [if_pos later, same]
      rw [same] at success
      have kept := (grows_applyLater current others (migration.apply schema).2).recorded
      exact ⟨.inr (kept.subset (mem_recorded_apply applied)), ih others success⟩
    · rename_i passed
      rw [if_neg passed]
      exact ⟨.inl (Int64.not_lt.mp passed), ih others success⟩

/-- Migrations have positive versions, so that a database without versions lacks all of them. -/
theorem version_pos : ∀ migration ∈ migrations, 0 < migration.version := by
  rw [migrations, List.forall_mem_singleton]
  decide

theorem readNewest_ensureVersions (schema : Schema) : schema.ensureVersions.readNewest = schema.readNewest := rfl

theorem migrate_of_readable (readable : "version" ∈ schema.table.columns) :
    schema.migrate = applyLater schema.newest migrations schema.ensureVersions := by
  rw [migrate, readNewest_ensureVersions, readNewest, if_pos readable]

theorem readable_of_migrate (success : schema.migrate.1 = .ok ()) : "version" ∈ schema.table.columns := by
  by_contra unreadable
  rw [migrate, readNewest_ensureVersions, readNewest, if_neg unreadable] at success
  exact absurd success nofun

/-- A run that succeeds leaves nothing to do. -/
theorem upToDate_run (success : schema.run.1 = .ok ()) : schema.run.2.UpToDate := by
  rw [run_eq_migrate success]
  replace success : schema.migrate.1 = .ok () := run_eq_migrate success ▸ success
  have readable := readable_of_migrate success
  rw [migrate_of_readable readable] at success ⊢
  have grows := grows_applyLater schema.newest grows_script schema.ensureVersions
  obtain ⟨grown, stays, growth⟩ := grows.versions schema.table rfl
  refine ⟨grown, stays, growth.columns ▸ readable, fun migration member => ?_⟩
  rcases passed_or_mem_recorded grows_script success migration member with passed | recorded
  · have nonempty : schema.recorded ≠ [] := by
      intro empty
      rw [newest_eq_zero empty] at passed
      exact Int64.not_lt.mpr passed (version_pos migration member)
    exact ⟨schema.newest, growth.versions.subset (newest_mem nonempty), passed⟩
  · rw [recorded_of_versionTable stays] at recorded
    exact ⟨migration.version, recorded, Int64.le_refl _⟩

/-! ## Runs among other steps -/

/-- The schema that steps lead to. -/
def reached (schema : Schema) (steps : List SchemaStep) : Schema :=
  steps.foldl (fun current next => (current.step next).2) schema

theorem keepsVersions_of_eq (same : after.versionTable = before.versionTable) : before.KeepsVersions after :=
  fun table present => ⟨table, same ▸ present, .refl table⟩

theorem keepsVersions_seed (schema : Schema) (version : Int64) : schema.KeepsVersions (schema.seed version).2 := by
  cases kind : schema.table with
  | full versions =>
    rw [seed, kind]
    exact (grows_insertVersion kind version).versions
  | odd | narrow =>
    rw [seed, kind]
    exact .refl schema

theorem keepsVersions_createVersions (schema : Schema) (table : VersionTable) (columns : String) :
    schema.KeepsVersions (schema.createVersions table columns).2 := by
  unfold createVersions
  split
  · exact .refl schema
  · rename_i absent
    intro other present
    exact absurd (Option.isSome_of_mem present) absent

/-- Nothing but forgetting takes versions away. -/
theorem keepsVersions_step {next : SchemaStep} (kept : next ≠ .forget) (schema : Schema) :
    schema.KeepsVersions (schema.step next).2 := by
  cases next with
  | run => exact (grows_run schema).versions
  | seed version => exact keepsVersions_seed schema version
  | forget => exact absurd rfl kept
  | dropWords =>
    apply keepsVersions_of_eq
    change schema.dropWords.2.versionTable = _
    unfold dropWords
    split <;> rfl
  | viewWords =>
    apply keepsVersions_of_eq
    change schema.viewWords.2.versionTable = _
    unfold viewWords
    dsimp only
    split <;> rfl
  | indexWords =>
    apply keepsVersions_of_eq
    change schema.indexWords.2.versionTable = _
    unfold indexWords
    split
    · rfl
    · split <;> rfl
  | oddVersions => exact keepsVersions_createVersions schema .odd _
  | narrowVersions => exact keepsVersions_createVersions schema .narrow _

theorem keepsVersions_reached {steps : List SchemaStep} (kept : .forget ∉ steps) (schema : Schema) :
    schema.KeepsVersions (schema.reached steps) := by
  induction steps generalizing schema with
  | nil => exact .refl schema
  | cons next rest ih =>
    have first : next ≠ .forget := (List.ne_of_not_mem_cons kept).symm
    exact (keepsVersions_step first schema).trans (ih (List.not_mem_of_not_mem_cons kept) _)

/-- The number of those runs among some steps that change what is recorded. -/
def additions (schema : Schema) : List SchemaStep → ℕ
  | [] => 0
  | next :: rest =>
    (if next = .run ∧ (schema.step next).2.recorded ≠ schema.recorded then 1 else 0) +
      (schema.step next).2.additions rest

theorem additions_of_upToDate (upToDate : schema.UpToDate) {steps : List SchemaStep} (kept : .forget ∉ steps) :
    schema.additions steps = 0 := by
  induction steps generalizing schema with
  | nil => rfl
  | cons next rest ih =>
    have first : next ≠ .forget := (List.ne_of_not_mem_cons kept).symm
    have others : .forget ∉ rest := List.not_mem_of_not_mem_cons kept
    have still : ¬ (next = .run ∧ (schema.step next).2.recorded ≠ schema.recorded) := by
      rintro ⟨rfl, added⟩
      exact added (congrArg (·.2.recorded) (run_of_upToDate upToDate))
    rw [additions, if_neg still, ih (upToDate.mono (keepsVersions_step first schema)) others]

/-- As long as no version is forgotten, only the first run that succeeds can find something to record. -/
theorem additions_le_one (schema : Schema) {steps : List SchemaStep} (kept : .forget ∉ steps) :
    schema.additions steps ≤ 1 := by
  induction steps generalizing schema with
  | nil => exact Nat.zero_le 1
  | cons next rest ih =>
    have others : .forget ∉ rest := List.not_mem_of_not_mem_cons kept
    unfold additions
    split
    · rename_i adds
      obtain ⟨rfl, added⟩ := adds
      have success : schema.run.1 = .ok () := by
        cases answer : schema.run.1 with
        | ok _ => rfl
        | error error => exact absurd (congrArg recorded (run_error answer)) added
      have done : (schema.step .run).2.additions rest = 0 := additions_of_upToDate (upToDate_run success) others
      rw [done]
    · rw [Nat.zero_add]
      exact ih _ others

/-- Runs are atomic and idempotent. A run that fails changes nothing. One that succeeds keeps every object,
version and stored word, and whatever is done after it short of forgetting versions, a further run succeeds
and changes nothing. So at most one run records anything as long as no version is forgotten. -/
theorem run_atomic (schema : Schema) :
    (∀ error, schema.run.1 = .error error → schema.run.2 = schema) ∧
    (schema.run.1 = .ok () →
      (∀ object ∈ schema.objects, object ∈ schema.run.2.objects) ∧
      schema.recorded <+: schema.run.2.recorded ∧
      (∀ word ∈ schema.storedWords, word ∈ schema.run.2.storedWords) ∧
      ∀ steps, SchemaStep.forget ∉ steps →
        (schema.run.2.reached steps).run = (.ok (), schema.run.2.reached steps)) ∧
    ∀ steps, SchemaStep.forget ∉ steps → schema.additions steps ≤ 1 := by
  refine ⟨fun error failed => run_error failed, fun success => ?_, fun steps kept => additions_le_one schema kept⟩
  have grows := grows_run schema
  refine ⟨fun object => grows.mem_objects, grows.recorded, fun word => grows.mem_storedWords, ?_⟩
  intro steps kept
  exact run_of_upToDate ((upToDate_run success).mono (keepsVersions_reached kept _))

/-- An index in the place of the words makes a run fail. Without one, a run keeps the words and the negative
version of a database, and it stays the only one that records anything when the words are dropped. -/
theorem run_atomic_index :
    (∃ error, (Schema.mk none (some .index) true).run = (.error error, ⟨none, some .index, true⟩)) ∧
    ∃ after, (Schema.mk (some (.full [-5])) (some (.table ["fo"])) false).run = (.ok (), after) ∧
      "table:words" ∈ after.objects ∧ -5 ∈ after.recorded ∧ "fo" ∈ after.storedWords ∧
      (after.reached [.dropWords, .run]).run = (.ok (), after.reached [.dropWords, .run]) ∧
      (Schema.mk (some (.full [-5])) (some (.table ["fo"])) false).additions [.run, .dropWords, .run] ≤ 1 := by
  obtain ⟨error, failed⟩ : ∃ error, (Schema.mk none (some .index) true).run.1 = .error error := ⟨_, rfl⟩
  have success : (Schema.mk (some (.full [-5])) (some (.table ["fo"])) false).run.1 = .ok () := rfl
  obtain ⟨objects, versions, words, again⟩ := (run_atomic _).2.1 success
  refine ⟨⟨error, Prod.ext failed ((run_atomic _).1 error failed)⟩, _, Prod.ext success rfl,
    objects _ (by decide), versions.subset (by decide), words _ (by decide), again _ (by decide),
    (run_atomic _).2.2 _ (by decide)⟩

end Schema

end WordCompletion

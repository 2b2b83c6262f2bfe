import WordCompletion.Error

/-! # Schema migrations

A migration run creates the table of words once per database and records that it has done so. It is one
transaction: it makes sure that there is a table of versions, reads the greatest recorded version, and applies
and records the migrations of later versions. A failure on the way takes back what was done before it. The
other steps bring a database into the states that a run can meet: recorded versions, a view or an index in the
place of the words, a table of versions with other columns.
-/

namespace WordCompletion

/-- The table of versions. -/
inductive VersionTable where
  /-- The table as a run creates it, with its versions. -/
  | full (versions : List Int64)
  /-- A table with no column for the version. -/
  | odd
  /-- A table with no column but the version, and no rows. -/
  | narrow
deriving DecidableEq, Repr

namespace VersionTable

/-- The names of the columns. -/
def columns : VersionTable → List String
  | .full _ => ["version", "applied_at"]
  | .odd => ["other"]
  | .narrow => ["version"]

/-- The recorded versions. -/
def versions : VersionTable → List Int64
  | .full versions => versions
  | .odd => []
  | .narrow => []

end VersionTable

/-- The object that goes by the name of the words. -/
inductive WordsObject where
  | table (rows : List String)
  | view
  | index
deriving DecidableEq, Repr

/-- The objects of a database. -/
structure Schema where
  versionTable : Option VersionTable
  words : Option WordsObject
  /-- Whether there is the further table that an index needs. -/
  other : Bool
deriving DecidableEq, Repr

/-- One step on a database. -/
inductive SchemaStep where
  | run
  | seed (version : Int64)
  | forget
  | dropWords
  | viewWords
  | indexWords
  | oddVersions
  | narrowVersions
deriving DecidableEq, Repr

namespace Schema

/-- The schema of a new database. -/
def fresh : Schema := ⟨none, none, false⟩

/-- The objects, each as its type and name, in the order of their texts. -/
def objects (schema : Schema) : List String :=
  (if schema.words = some .index then ["index:words"] else []) ++
  (if schema.versionTable.isSome then ["table:_migrations"] else []) ++
  (if schema.other then ["table:other"] else []) ++
  (match schema.words with
    | some (.table _) => ["table:words"]
    | some .view => ["view:words"]
    | _ => [])

/-- The recorded versions in ascending order, if the table of versions can be read. -/
def versions? (schema : Schema) : Option (List Int64) :=
  match schema.versionTable with
  | some (.full versions) => some (versions.mergeSort (· ≤ ·))
  | some .narrow => some []
  | some .odd => none
  | none => none

/-- The table of versions, or the one that a run creates when there is none. -/
def table (schema : Schema) : VersionTable := schema.versionTable.getD (.full [])

/-- The recorded versions in the order of their arrival. -/
def recorded (schema : Schema) : List Int64 := schema.table.versions

/-- The greatest recorded version, or zero. -/
def newest (schema : Schema) : Int64 := schema.recorded.max?.getD 0

/-- Fail with the text of a statement. -/
def fail (schema : Schema) (text : String) : Except CacheError Unit × Schema :=
  (.error (.ofStatement text), schema)

/-! ### Transactions

A statement answers, and it leaves a schema also when it fails.
-/

/-- Go on with the schema that something left, unless that has failed. -/
def andThen (done : Except CacheError Unit × Schema) (next : Schema → Except CacheError Unit × Schema) :
    Except CacheError Unit × Schema :=
  match done with
  | (.ok (), schema) => next schema
  | (.error error, schema) => (.error error, schema)

/-- Do a piece of work as a whole: what it has done when it fails is taken back. -/
def transaction (schema : Schema) (work : Schema → Except CacheError Unit × Schema) :
    Except CacheError Unit × Schema :=
  match work schema with
  | (.ok (), done) => (.ok (), done)
  | (.error error, _) => (.error error, schema)

/-! ### Statements of a run -/

/-- Create the table of versions unless there is one. -/
def ensureVersions (schema : Schema) : Schema :=
  { schema with versionTable := some schema.table }

/-- The rejection of a table of versions that has no column for them. -/
def unreadableVersions : CacheError :=
  .ofStatement "no such column: version in SELECT COALESCE(MAX(version), 0) FROM _migrations at offset 20"

/-- Read the greatest recorded version, or zero. -/
def readNewest (schema : Schema) : Except CacheError Int64 :=
  if "version" ∈ schema.table.columns then .ok schema.newest else .error unreadableVersions

/-- Put the table of words in place unless a table or a view has its name. -/
def createWords (schema : Schema) : Except EngineFault Unit × Schema :=
  match schema.words with
  | none => (.ok (), { schema with words := some (.table []) })
  | some .index => (.error (.statement .failed (some "there is already an index named words")), schema)
  | some _ => (.ok (), schema)

/-- The rejection of a version that is recorded already. -/
def duplicateVersion : CacheError := .ofStatement "UNIQUE constraint failed: _migrations.version"

/-- Add a version to the recorded ones, which are distinct. -/
def insertVersion (schema : Schema) (version : Int64) : Except CacheError Unit × Schema :=
  if version ∈ schema.recorded then (.error duplicateVersion, schema)
  else (.ok (), { schema with versionTable := some (.full (schema.recorded ++ [version])) })

/-- The rejection of a value for a column that the table of versions has not. -/
def missingColumn (column : String) : CacheError :=
  .ofStatement ("table _migrations has no column named " ++ column)

/-- Record a version and the time at which it was applied. -/
def record (schema : Schema) (version : Int64) : Except CacheError Unit × Schema :=
  match ["version", "applied_at"].find? (· ∉ schema.table.columns) with
  | some column => (.error (missingColumn column), schema)
  | none => schema.insertVersion version

end Schema

/-! ### Migrations -/

/-- What a database of a version has that an earlier one has not. -/
structure Migration where
  version : Int64
  script : Schema → Except EngineFault Unit × Schema

/-- Run the script, then record the version. -/
def Migration.apply (migration : Migration) (schema : Schema) : Except CacheError Unit × Schema :=
  match migration.script schema with
  | (.ok (), changed) => changed.record migration.version
  | (.error fault, changed) =>
    (.error (.migrationFailed ("version " ++ toString migration.version ++ ": " ++ fault.message)), changed)

/-- All migrations in order. -/
def migrations : List Migration := [⟨1, Schema.createWords⟩]

namespace Schema

/-- Apply those migrations that are later than a version. -/
def applyLater (current : Int64) : List Migration → Schema → Except CacheError Unit × Schema
  | [], schema => (.ok (), schema)
  | migration :: rest, schema =>
    if current < migration.version then andThen (migration.apply schema) (applyLater current rest)
    else applyLater current rest schema

/-- The work of a run. -/
def migrate (schema : Schema) : Except CacheError Unit × Schema :=
  match schema.ensureVersions.readNewest with
  | .ok current => applyLater current migrations schema.ensureVersions
  | .error error => (.error error, schema.ensureVersions)

/-- Run the migrations; a failed run changes nothing. -/
def run (schema : Schema) : Except CacheError Unit × Schema := schema.transaction migrate

/-! ### Other steps -/

/-- Record a version, creating the table of versions if there is none. -/
def seed (schema : Schema) (version : Int64) : Except CacheError Unit × Schema :=
  match schema.table with
  | .full _ => schema.insertVersion version
  | _ => schema.fail "table _migrations has 1 columns but 2 values were supplied"

/-- Forget every recorded version. -/
def forget (schema : Schema) : Except CacheError Unit × Schema :=
  match schema.versionTable with
  | none => schema.fail "no such table: _migrations"
  | some (.full _) => (.ok (), { schema with versionTable := some (.full []) })
  | some _ => (.ok (), schema)

/-- Drop the table of words. -/
def dropWords (schema : Schema) : Except CacheError Unit × Schema :=
  match schema.words with
  | some (.table _) => (.ok (), { schema with words := none })
  | some .view => schema.fail "use DROP VIEW to delete view words"
  | _ => schema.fail "no such table: words"

/-- Create a view in the place of the words. -/
def viewWords (schema : Schema) : Except CacheError Unit × Schema :=
  let place := " already exists in CREATE VIEW words AS SELECT 'v' AS word at offset 12"
  match schema.words with
  | none => (.ok (), { schema with words := some .view })
  | some (.table _) => schema.fail ("table words" ++ place)
  | some .view => schema.fail ("view words" ++ place)
  | some .index => schema.fail "there is already an index named words"

/-- Create a further table and, on it, an index with the name of the words. The table stays when the
index cannot be created. -/
def indexWords (schema : Schema) : Except CacheError Unit × Schema :=
  if schema.other then
    schema.fail ("table other already exists in CREATE TABLE other (x); " ++
      "CREATE INDEX words ON other (x) at offset 13")
  else
    match schema.words with
    | none => (.ok (), { schema with other := true, words := some .index })
    | some .index => { schema with other := true }.fail "index words already exists"
    | some _ => { schema with other := true }.fail "there is already a table named words"

/-- Create a table of versions with other columns. -/
def createVersions (schema : Schema) (table : VersionTable) (columns : String) :
    Except CacheError Unit × Schema :=
  if schema.versionTable.isSome then
    schema.fail ("table _migrations already exists in CREATE TABLE _migrations (" ++ columns ++
      ") at offset 13")
  else (.ok (), { schema with versionTable := some table })

/-- Take one step. -/
def step (schema : Schema) : SchemaStep → Except CacheError Unit × Schema
  | .run => schema.run
  | .seed version => schema.seed version
  | .forget => schema.forget
  | .dropWords => schema.dropWords
  | .viewWords => schema.viewWords
  | .indexWords => schema.indexWords
  | .oddVersions => schema.createVersions .odd "other TEXT"
  | .narrowVersions => schema.createVersions .narrow "version INTEGER"

/-- Take steps one after the other, and report after each its answer and the schema. -/
def steps (schema : Schema) : List SchemaStep → List (Except CacheError Unit × Schema)
  | [] => []
  | next :: rest => schema.step next :: (schema.step next).2.steps rest

/-- A failed run leaves the schema as it was. -/
theorem run_error {schema : Schema} {error : CacheError} (failed : schema.run.1 = .error error) :
    schema.run.2 = schema := by
  unfold run transaction at failed ⊢
  split <;> simp_all

end Schema

end WordCompletion

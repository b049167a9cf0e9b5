/-
# `AskLake.ContinuousSql.Documents` — jobs, runs and publications

A worker reports a batch as a JSON document.  Here a field holds what the source
makes of it: `str(value or "")` is a string, `int(value)` is `none` where it
raises, and a list or an object is `none` where the value is of another type.

    Publication  --validatePublicationIdentity-->  Evidence

`Evidence` is all that is used afterwards.  The two counts a catalog row shows
are text: `parseDisplayCount_displayCount` says that they are read back.
-/
import AskLake.Events.Log

namespace AskLake.ContinuousSql

open AskLake.Lib AskLake.Python AskLake.Kafka AskLake.Events

/-! ## Displayed counts -/

/-- A comma before every third digit, from the last digit on. -/
def groupThousands : List Char → List Char
  | a :: b :: c :: d :: rest => a :: b :: c :: ',' :: groupThousands (d :: rest)
  | short => short

/-- `f"{n:,}"` -/
def displayCount (n : Nat) : String :=
  String.ofList (groupThousands (Nat.toDigits 10 n).reverse).reverse

/-- `parse_display_count` -/
def parseDisplayCount (value : String) : Nat :=
  Nat.ofDigitChars 10 (value.toList.filter Char.isDigit) 0

theorem filter_groupThousands : ∀ {digits : List Char}, (∀ c ∈ digits, c.isDigit = true) →
    (groupThousands digits).filter Char.isDigit = digits
  | [], _ => rfl
  | [a], h => List.filter_eq_self.mpr h
  | [a, b], h => List.filter_eq_self.mpr h
  | [a, b, c], h => List.filter_eq_self.mpr h
  | a :: b :: c :: d :: rest, h => by
      have hrest : (groupThousands (d :: rest)).filter Char.isDigit = d :: rest :=
        filter_groupThousands fun x hx => h x (by simp [List.mem_cons.mp hx])
      rw [groupThousands, List.filter_cons_of_pos (h a (by simp)),
        List.filter_cons_of_pos (h b (by simp)), List.filter_cons_of_pos (h c (by simp)),
        List.filter_cons_of_neg (by decide), hrest]

/-- A displayed count is read back. -/
theorem parseDisplayCount_displayCount (n : Nat) : parseDisplayCount (displayCount n) = n := by
  have hdigits : ∀ c ∈ (Nat.toDigits 10 n).reverse, c.isDigit = true :=
    fun c hc => Nat.isDigit_of_mem_toDigits (by decide) (by decide) (List.mem_reverse.mp hc)
  unfold parseDisplayCount displayCount
  rw [String.toList_ofList, List.filter_reverse, filter_groupThousands hdigits,
    List.reverse_reverse, Nat.ofDigitChars_ten_toDigits]

/-! ## Documents -/

/-- `IcebergWriterTarget` -/
structure IcebergWriterTarget where
  catalog : String
  namespace_ : String
  table : String
  writeMode : String
  partitionColumns : List String := []
  deriving DecidableEq

/-- `QueryEngineTableRef`, of format `iceberg` -/
structure QueryEngineTableRef where
  catalog : String
  schema : String
  table : String
  partitionColumns : List String
  deriving DecidableEq

def IcebergWriterTarget.queryEngineTable (target : IcebergWriterTarget) : QueryEngineTableRef :=
  ⟨target.catalog, target.namespace_, target.table, target.partitionColumns⟩

/-- The `sourceBoundary` of a publication. -/
structure SqlSourceBoundary where
  kind : String
  jobId : String
  /-- `int(get("batchId", -1))` -/
  batchId : Option Int
  /-- `int(get("runGeneration", -1))` -/
  runGeneration : Option Int
  planHash : String
  fencingTokenHash : String
  runId : String
  sourceRanges : Option (List RangeItem)
  staticSnapshots : Option (List StrDict)
  inputSnapshots : List StrDict := []
  /-- the fields that are only compared -/
  other : StrDict := .empty
  deriving DecidableEq

/-- An `icebergCommit` document: the writer's own has an `operation` and no
`queryEngineTable`, a verified one the other way round. -/
structure CommitDocument where
  /-- `str(get("snapshotId") or "")` -/
  snapshotId : String
  sourceBoundary : Option SqlSourceBoundary
  createdTable : Option Bool := none
  operation : Option String := none
  jobId : Option String := none
  runId : Option String := none
  target : Option IcebergWriterTarget := none
  queryEngineTable : Option QueryEngineTableRef := none
  committedAt : Option String := none
  warehouseLocation : Option String := none
  schemaFingerprint : Option String := none
  ruleFingerprint : Option String := none
  deriving DecidableEq

structure Publication where
  batchId : Option Int
  continuousSqlRunGeneration : Option Int
  storedCount : Option Int
  continuousSqlPlanHash : String
  continuousSqlFencingTokenHash : String
  sourceBoundary : Option SqlSourceBoundary
  sourceRanges : Option (List RangeItem)
  staticSnapshots : Option (List StrDict)
  runId : String
  manifestPath : String
  icebergCommit : Option CommitDocument
  publishedAt : String
  deriving DecidableEq

/-- `continuous_sql_jobs`, as far as a publication reads it. -/
structure Job where
  id : String
  name : String
  planHash : String
  outputDatasetId : String
  outputTarget : IcebergWriterTarget
  triggerIntervalSeconds : Int := 10
  /-- `str(compiled_plan.get("schemaFingerprint") or "")` -/
  schemaFingerprint : String := ""
  /-- `int(compiled_plan.get("staticPruningMaxKeys") or 100)` -/
  staticPruningMaxKeys : Int := 100

/-- `continuous_sql_runs` -/
structure Run where
  runId : String
  generation : Int
  fencingToken : String

/-! ## `validate_publication_identity` -/

inductive SqlError
  /-- `ContinuousSqlPublicationError` -/
  | publication (code : String) (message : Option String)
  /-- `IcebergWriterError` -/
  | writer (code message : String)
  | python (e : Error)
  deriving DecidableEq

/-- `ContinuousSqlPublicationError(code)` -/
def SqlError.code (code : String) : SqlError := .publication code none

structure Evidence where
  batchId : Int
  generation : Int
  rowCount : Nat
  sourceRanges : List RangeItem
  staticSnapshots : List StrDict
  sourceBoundary : SqlSourceBoundary
  publicationRunId : String
  manifestPath : String
  icebergCommit : Option CommitDocument
  publishedAt : String
  deriving DecidableEq

/-- The three numbers that identify a publication. -/
def publicationNumbers (run : Run) (publication : Publication) :
    Except SqlError (Int × Int × Nat) :=
  match publication.batchId, publication.continuousSqlRunGeneration, publication.storedCount with
  | some batchId, some generation, some rowCount =>
      if batchId < 0 ∨ generation ≠ run.generation ∨ rowCount < 0 then
        .error (.code "CONTINUOUS_SQL_PUBLICATION_ID_INVALID")
      else .ok (batchId, generation, rowCount.toNat)
  | _, _, _ => .error (.code "CONTINUOUS_SQL_PUBLICATION_ID_INVALID")

/-- A boundary that names the publication. -/
def SqlSourceBoundary.names (boundary : SqlSourceBoundary) (job : Job) (batchId generation : Int)
    (fenceHash : String) : Prop :=
  boundary.kind = "continuous_sql_batch" ∧ boundary.jobId = job.id ∧
    boundary.batchId = some batchId ∧ boundary.runGeneration = some generation ∧
    boundary.planHash = job.planHash ∧ boundary.fencingTokenHash = fenceHash

instance (boundary : SqlSourceBoundary) (job : Job) (batchId generation : Int)
    (fenceHash : String) : Decidable (boundary.names job batchId generation fenceHash) :=
  inferInstanceAs (Decidable (_ ∧ _))

/-- The commit document, which a publication without rows does not need. -/
def outputCommit (publication : Publication) (boundary : SqlSourceBoundary) (rowCount : Nat) :
    Except SqlError (Option CommitDocument) :=
  if rowCount = 0 then .ok none
  else
    match publication.icebergCommit with
    | some commit =>
        if commit.sourceBoundary = some boundary then .ok (some commit)
        else .error (.code "CONTINUOUS_SQL_OUTPUT_COMMIT_INVALID")
    | none => .error (.code "CONTINUOUS_SQL_OUTPUT_COMMIT_INVALID")

def validatePublicationIdentity (rt : Runtime) (job : Job) (run : Run)
    (publication : Publication) : Except SqlError Evidence := do
  let (batchId, generation, rowCount) ← publicationNumbers run publication
  rejectIf (publication.continuousSqlPlanHash ≠ job.planHash)
    (.code "CONTINUOUS_SQL_PUBLICATION_PLAN_MISMATCH")
  let expectedFenceHash := rt.sha256 run.fencingToken
  rejectIf (publication.continuousSqlFencingTokenHash ≠ expectedFenceHash)
    (.code "CONTINUOUS_SQL_PUBLICATION_FENCED")
  let boundary ← orReject publication.sourceBoundary
    (.code "CONTINUOUS_SQL_SOURCE_BOUNDARY_INVALID")
  rejectIf (¬ boundary.names job batchId generation expectedFenceHash)
    (.code "CONTINUOUS_SQL_SOURCE_BOUNDARY_INVALID")
  let sourceRanges ← orReject publication.sourceRanges
    (.code "CONTINUOUS_SQL_SOURCE_OFFSETS_INVALID")
  rejectIf (boundary.sourceRanges ≠ some sourceRanges)
    (.code "CONTINUOUS_SQL_SOURCE_OFFSETS_INVALID")
  let staticSnapshots ← orReject publication.staticSnapshots
    (.code "CONTINUOUS_SQL_STATIC_BINDING_MISMATCH")
  rejectIf (boundary.staticSnapshots ≠ some staticSnapshots)
    (.code "CONTINUOUS_SQL_STATIC_BINDING_MISMATCH")
  rejectIf (strip publication.runId ≠ strip boundary.runId)
    (.code "CONTINUOUS_SQL_PUBLICATION_RUN_ID_INVALID")
  rejectIf (strip publication.manifestPath = "") (.code "CONTINUOUS_SQL_MANIFEST_MISSING")
  let icebergCommit ← outputCommit publication boundary rowCount
  pure
    { batchId, generation, rowCount, sourceRanges, staticSnapshots
      sourceBoundary := boundary
      publicationRunId := strip publication.runId
      manifestPath := strip publication.manifestPath
      icebergCommit
      publishedAt := publication.publishedAt }

end AskLake.ContinuousSql

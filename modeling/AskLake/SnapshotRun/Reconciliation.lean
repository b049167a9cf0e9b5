/-
# `AskLake.SnapshotRun.Reconciliation` — publishing a Spark result to the Catalog

    loaded     the row as the request reads it, without a lock
    verified   what Iceberg and the object store say of the files
    commit     dataset, result and evidence in one transaction
    failure    the row is read once more, and a failed `catalogResult` written

`task_states` is written as a whole: what a request assigns is its own view of the column.
-/
import AskLake.SnapshotRun.Airflow
import AskLake.Materialization.SourceWindow

namespace AskLake.SnapshotRun

open AskLake.Lib AskLake.Python AskLake.Materialization
open AskLake.SourceWindow (SourceHost sparkMaterializationMode sparkSourceWindow modeText hasKey
  entryOf)

/-! ## Evidence -/

/-- What `verify_spark_iceberg_result` or `inspect_spark_output` found. -/
inductive Verified
  | iceberg (dataFileCount : Int) (icebergCommit queryEngineTable : Value)
      (warehouseLocation ruleFingerprint schemaFingerprint : Value) (storageSizeBytes : Int)
  | parquet (parquetObjectCount storageSizeBytes : Int)

/-- The keys that are written into a verified result. -/
def evidenceKeys : List String :=
  ["dataFileCount", "icebergCommit", "materializationOutputPath", "queryEngineTable",
    "queryEngineVerified", "ruleFingerprint", "schemaFingerprint", "storageSizeBytes",
    "warehouseLocation", "parquetObjectCount"]

/-- `{**spark_result, …}` -/
def Verified.enrich (result : Manifest) : Verified → Manifest
  | .iceberg dataFileCount icebergCommit queryEngineTable warehouseLocation ruleFingerprint
      schemaFingerprint storageSizeBytes =>
      ((((((((result.put "dataFileCount" (.int dataFileCount)).put
        "icebergCommit" icebergCommit).put
        "materializationOutputPath" warehouseLocation).put
        "queryEngineTable" queryEngineTable).put
        "queryEngineVerified" (.bool true)).put
        "ruleFingerprint" ruleFingerprint).put
        "schemaFingerprint" schemaFingerprint).put
        "storageSizeBytes" (.int storageSizeBytes)).put
        "warehouseLocation" warehouseLocation
  | .parquet parquetObjectCount storageSizeBytes =>
      (result.put "parquetObjectCount" (.int parquetObjectCount)).put
        "storageSizeBytes" (.int storageSizeBytes)

/-- The verified result is the result but for the evidence. -/
def Extends (result enriched : Manifest) : Prop :=
  ∀ key, key ∉ evidenceKeys → enriched.get key = result.get key

theorem Extends.refl (result : Manifest) : Extends result result := fun _ _ => rfl

theorem Extends.trans {a b c : Manifest} (h : Extends a b) (h' : Extends b c) : Extends a c :=
  fun key hkey => (h' key hkey).trans (h key hkey)

theorem extends_put (result : Manifest) {key : String} (h : key ∈ evidenceKeys) (value : Value) :
    Extends result (result.put key value) := by
  intro other hother
  refine Manifest.get_put_ne result ?_ value
  rintro rfl
  exact hother h

theorem extends_enrich (result : Manifest) (verified : Verified) :
    Extends result (verified.enrich result) := by
  cases verified with
  | iceberg =>
      unfold Verified.enrich
      repeat' first
        | exact Extends.refl _
        | refine Extends.trans ?_ (extends_put _ (by simp [evidenceKeys]) _)
  | parquet =>
      refine Extends.trans (extends_put _ (by simp [evidenceKeys]) _)
        (extends_put _ (by simp [evidenceKeys]) _)

theorem Extends.successful {result enriched : Manifest} (h : Extends result enriched) :
    enriched.successful = result.successful := by
  rw [Manifest.successful, Manifest.successful, h "status" (by simp [evidenceKeys])]

/-- `is_kafka_job` is false of a job that Airflow runs. -/
def Verified.suits (job : SnapshotJob) : Verified → Bool
  | .iceberg .. => job.icebergTarget
  | .parquet .. => !job.icebergTarget

/-! ## The transaction -/

/-- An entry of the dictionary display that is there on a condition. -/
def entryIf (condition : Bool) (key : String) (value : Value) : Manifest :=
  if condition then [(key, value)] else []

/-- `_spark_materialization_run`, with the fields that the run history reads -/
def sparkMaterializationRun (host : SourceHost) (job : SnapshotJob) (result : Manifest)
    (window : Option Run) (lastUpdated : String) (rowCount storageSizeBytes : Int)
    (storageFormat : String) : Run :=
  let icebergCommit := (result.get "icebergCommit").dictOr
  [("createdAt", .str lastUpdated)] ++
    entryIf (icebergCommit.get "committedAt").truthy "icebergCommittedAt"
      (.str (host.textOf (icebergCommit.get "committedAt"))) ++
    [("jobId", .str job.id),
      ("materializationMode", .str (modeText (sparkMaterializationMode host result))),
      ("rowCount", .int rowCount),
      ("runId", .str (host.textOf (result.get "runId"))),
      ("status", .str (if result.successful then "success" else "failed")),
      ("storageFormat", .str storageFormat),
      ("storageLocation", .str (host.text ((result.get "materializationOutputPath").orElse
        (.str (host.text ((result.get "outputPath").orElse (.str "-"))))))),
      ("storageSizeBytes", .int storageSizeBytes)] ++
    entryOf "sourceWindow" (window.map Value.obj) ++
    entryIf (result.get "kafkaSnapshot").isDict "kafkaSnapshot" (result.get "kafkaSnapshot") ++
    entryIf (result.get "icebergCommit").isDict "icebergSnapshotId"
      (.str (host.textOf (icebergCommit.get "snapshotId")))

/-- `SPARK_OUTPUT_FORMAT` -/
def sparkOutputFormat : String := "parquet"

/-- `dataset_payload_from_spark_result`: the run history; `storageSize` is
`dataset_storage_size_bytes` of the output path. -/
def datasetRuns (host : SourceHost) (job : SnapshotJob) (storageSize : Int) (now : String)
    (result : Manifest) (previous : History) : Except Error (List Run) := do
  let size ← parseCountValue host.toProjectionHost (result.get "storageSizeBytes")
  let rows ← parseCountValue host.toProjectionHost
    (if hasKey result "materializationRows" then result.get "materializationRows"
      else result.get "outputRows")
  let queryEngineTable := (result.get "queryEngineTable").dictOr
  let available := (result.get "queryEngineVerified" matches .bool true) &&
    (result.get "queryEngineTable").isDict && ["catalog", "schema", "table", "format"].all fun key =>
      strip (host.textOf (queryEngineTable.get key)) ≠ ""
  let window ← sparkSourceWindow host result
  let runs ← upsertMaterializationRun host.toProjectionHost (stored (previous.getD []))
    (sparkMaterializationRun host job result window
      (host.text ((result.get "endedAt").orElse (.str now))) rows
      (if size = 0 then storageSize else size)
      (if available then "iceberg" else sparkOutputFormat))
  let _ ← aggregateMaterializationRuns host.toProjectionHost runs
  return runs

/-- What a commit writes. -/
structure CatalogCommit where
  history : List Run
  sparkResult : Manifest
  evidence : PhysicalEvidence

/-- `commit_airflow_catalog_reconciliation`, up to its flush; `nameTaken` says that another
dataset has the name of the target. -/
def commitCatalog (host : SourceHost) (job : SnapshotJob) (nameTaken : Bool)
    (storageSize : Int) (now : String) (verified : Verified) (sparkResult : Manifest)
    (dataset : History) : Except Error CatalogCommit := do
  let result := verified.enrich sparkResult
  rejectIf (nameTaken = true) (.runtime "Target dataset name is already owned by another dataset id.")
  let history ← datasetRuns host job storageSize now result dataset
  let icebergCommit := (result.get "icebergCommit").dictOr
  let dataFileCount ← parseCountValue host.toProjectionHost (result.get "dataFileCount")
  let parquetObjectCount ← parseCountValue host.toProjectionHost (result.get "parquetObjectCount")
  let storageSizeBytes ← parseCountValue host.toProjectionHost (result.get "storageSizeBytes")
  return {
    history
    sparkResult := result
    evidence := {
      dataFileCount
      icebergSnapshotId := optionalString (some (host.textOf (icebergCommit.get "snapshotId")))
      parquetObjectCount
      storageLocation := (result.get "materializationOutputPath").orElse (result.get "outputPath")
      storageSizeBytes } }

/-! ## The request -/

inductive ReconcileStart
  /-- `AIRFLOW_RUN_MISMATCH`, `SPARK_RESULT_NOT_READY` -/
  | refused
  /-- The run has been published before. -/
  | done
  /-- A failure is recorded. -/
  | fail (message : String)
  | verify (sparkResult : Manifest)

/-- `catalog_result` is the run's success. -/
def CatalogResult.publishes (datasetId runId : String) : CatalogResult → Bool
  | .success datasetId' runId' _ => runId' = runId && datasetId' = datasetId
  | .failed .. => false

/-- `reconcile_airflow_catalog`, up to the call of the verifier -/
def RunRow.startReconcile (host : Host) (job : SnapshotJob) (dataset : History) (row : RunRow) :
    ReconcileStart :=
  if row.jobId ≠ job.id ∨ row.airflowDagRunId ≠ row.runId then .refused
  else if strip job.datasetId = "" then .fail "Persisted Job does not have a target dataset id."
  else if row.taskStates.catalogResult.any (·.publishes (strip job.datasetId) row.runId) ∧
      dataset.isSome then .done
  else
    match row.taskStates.sparkResult with
    | none => .refused
    | some sparkResult =>
        if ¬ sparkResult.successful then .refused
        else if host.text ((sparkResult.get "runId").orElse (.str row.runId)) ≠ row.runId then
          .refused
        else .verify sparkResult

/-- The column as the commit assigns it. -/
def TaskStates.publish (job : SnapshotJob) (runId : String) (commit : CatalogCommit)
    (view : TaskStates) : TaskStates :=
  { view with
    sparkResult := some commit.sparkResult
    catalogResult := some (.success (strip job.datasetId) runId commit.evidence) }

/-- `persist_catalog_reconciliation_failure`: what its view of the row is flushed with -/
def RunRow.recordFailure (job : SnapshotJob) (message : String) (view : TaskStates) (row : RunRow) :
    RunRow :=
  let compactMessage := compactStorageText message 1800
  { row with
    taskStates := { view with
      catalogResult := some (.failed (strip job.datasetId) row.runId compactMessage) }
    failedStage := "Catalog reconciliation"
    errorSummary := compactMessage }

end AskLake.SnapshotRun

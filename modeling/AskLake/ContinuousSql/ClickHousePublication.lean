/-
# `AskLake.ContinuousSql.ClickHousePublication` — `ClickHouseContinuousSqlPublicationService`

A ClickHouse worker reports how far each Kafka partition is.  `reconcileProgress` turns a
report into a revision of the output dataset, in two database commits:

    1  the batch, output_committed, with the catalog row and the revision
    2  the batch, dashboard_ready, with the number of its revision

A report is known again by the digest of what it says, which is the run id of its revision.
The offsets of a new revision start at the partition cursors, its row count at the catalog's
`clickhouseOutputRowCount`.

The rows are those of one job and one run generation.
-/
import Mathlib.Algebra.GroupWithZero.Nat
import AskLake.ContinuousSql.Publication

namespace AskLake.ContinuousSql

open AskLake.Lib AskLake.Python AskLake.Kafka AskLake.Events AskLake.Dashboard

/-! ## Reports -/

/-- An item of `clickhouseOffsets`: a field is `none` where `int()` raises. -/
structure ProgressDocument where
  partition : Option Int
  minOffset : Option Int
  maxOffset : Option Int
  rowCount : Option Int
  /-- `str(item.get("latestIngestedAt") or "")` -/
  latestIngestedAt : String

/-- `clickhouseOutputRowCount` -/
inductive CountArgument
  | missing
  | invalid
  | int (n : Int)

/-- What a worker reports; an item that is no `dict` is `none`. -/
structure ProgressReport where
  clickhouseOffsets : Option (List (Option ProgressDocument))
  clickhouseOutputRowCount : CountArgument

/-- One partition of a normalized report. -/
structure ProgressItem where
  partition : Nat
  minOffset : Nat
  maxOffset : Nat
  rowCount : Nat
  latestIngestedAt : String
  ordered : minOffset ≤ maxOffset
  deriving DecidableEq

namespace ProgressItem

def document (item : ProgressItem) : Json :=
  .obj [("partition", .int item.partition), ("minOffset", .int item.minOffset),
    ("maxOffset", .int item.maxOffset), ("rowCount", .int item.rowCount),
    ("latestIngestedAt", .str item.latestIngestedAt)]

end ProgressItem

/-- The checks on one item, which drop what does not pass. -/
def normalizeProgressItem (item : ProgressDocument) : Option ProgressItem :=
  match item.partition, item.minOffset, item.maxOffset, item.rowCount with
  | some partition, some minOffset, some maxOffset, some rowCount =>
      if h : partition < 0 ∨ minOffset < 0 ∨ maxOffset < minOffset ∨ rowCount < 0 then none
      else some ⟨partition.toNat, minOffset.toNat, maxOffset.toNat, rowCount.toNat,
        item.latestIngestedAt, by omega⟩
  | _, _, _, _ => none

/-- `normalize_clickhouse_progress` -/
def normalizeClickhouseProgress (value : Option (List (Option ProgressDocument))) :
    List ProgressItem :=
  ((value.getD []).filterMap fun item => item.bind normalizeProgressItem).insertionSort
    fun a b => a.partition ≤ b.partition

/-- `normalize_output_row_count` -/
def normalizeOutputRowCount (value : CountArgument) (fallback : Nat) : Except Error Nat :=
  match value with
  | .missing => .ok fallback
  | .invalid => .error (.value "ClickHouse output row count is invalid")
  | .int n =>
      if n < 0 then .error (.value "ClickHouse output row count cannot be negative")
      else .ok n.toNat

/-! ## The store -/

/-- `ClickHouseWriterTarget`, validated -/
structure ClickHouseWriterTarget where
  database : String
  table : String
  deriving DecidableEq

def ClickHouseWriterTarget.tableUri (target : ClickHouseWriterTarget) : String :=
  s!"clickhouse://{target.database}/{target.table}"

/-- `continuous_sql_jobs`, as far as this publication reads it. -/
structure ClickHouseJob where
  id : String
  name : String
  planHash : String
  outputDatasetId : String
  /-- `str(streamingSource.get("topic") or "")` -/
  topic : String
  target : ClickHouseWriterTarget
  triggerIntervalSeconds : Int := 10

structure ClickHouseRun where
  runId : String
  generation : Int
  staticBindings : List StrDict := []

/-- `continuous_sql_batches` of the job and the generation -/
structure ProgressBatch where
  batchId : Nat
  runId : String
  stage : Stage
  planHash : String
  inputOffsets : List RangeItem
  staticSnapshots : List StrDict
  /-- of the `sourceBoundary`, which names job and generation besides -/
  progress : List ProgressItem
  /-- of the `outputCommit`, which names engine and table besides -/
  marker : String
  outputCommitId : String
  manifestPath : String
  rowCount : Nat
  datasetRevision : Option Nat := none
  publishedAt : String
  lastErrorCode : Option String := none
  lastErrorMessage : Option String := none
  deriving DecidableEq

/-- A materialization run of the catalog payload, as this service writes it. -/
structure ProgressRun where
  createdAt : String
  publicationManifest : String
  rowCount : Nat
  runId : String
  progress : List ProgressItem
  sourceRanges : List RangeItem
  staticSnapshots : List StrDict
  storageLocation : String
  deriving DecidableEq

/-- The catalog payload of the output dataset. -/
structure ProgressPayload where
  clickhouseProgress : List (Nat × Nat × Nat × String)
  clickhouseOutputRowCount : Nat
  materializationRuns : List ProgressRun
  rows : String
  sourceRunId : String
  storageLocation : String
  lastUpdated : String
  deriving DecidableEq

structure ProgressStore where
  live : Db := {}
  batches : List ProgressBatch := []
  catalog : Option ProgressPayload := none

namespace ProgressStore

def getBatch (store : ProgressStore) (batchId : Nat) : Option ProgressBatch :=
  store.batches.find? fun batch => batch.batchId = batchId

/-- `batch_by_output_commit_id` -/
def batchByOutputCommitId (store : ProgressStore) (outputCommitId : String) :
    Option ProgressBatch :=
  store.batches.find? fun batch => batch.outputCommitId = outputCommitId

/-- `next_batch_id` -/
def nextBatchId (store : ProgressStore) : Nat :=
  ((store.batches.map ProgressBatch.batchId).max?).elim 0 (· + 1)

end ProgressStore

/-! ## The identity of a report -/

def progressText (job : ClickHouseJob) (run : ClickHouseRun) (progress : List ProgressItem) :
    String :=
  Json.dumpsSorted true (.obj [("jobId", .str job.id), ("generation", .int run.generation),
    ("planHash", .str job.planHash), ("progress", .arr (progress.map ProgressItem.document))])

/-- `clickhouse_progress_marker` -/
def clickhouseProgressMarker (rt : Runtime) (job : ClickHouseJob) (run : ClickHouseRun)
    (progress : List ProgressItem) : String :=
  rt.sha256 (progressText job run progress)

/-- `f"csqlch_{marker[:32]}"` -/
def publicationRunIdOf (marker : String) : String := "csqlch_" ++ (marker.take 32).toString

def publicationRunId (rt : Runtime) (job : ClickHouseJob) (run : ClickHouseRun)
    (progress : List ProgressItem) : String :=
  publicationRunIdOf (clickhouseProgressMarker rt job run progress)

/-! ## `_new_source_ranges` -/

/-- Where a partition goes on: at its cursor, or at the first offset of the report. -/
def progressStart (live : Db) (datasetId topic : String) (item : ProgressItem) : Int :=
  ((live.cursors ⟨datasetId, topic, item.partition⟩).map StreamCursor.nextOffset).getD
    item.minOffset

def progressRange (live : Db) (datasetId topic : String) (item : ProgressItem) :
    Option RangeItem :=
  let endOffset : Int := item.maxOffset + 1
  let startOffset := progressStart live datasetId topic item
  if endOffset ≤ startOffset then none
  else some (.object ⟨topic, some item.partition, some startOffset, some endOffset⟩)

def newSourceRanges (live : Db) (datasetId topic : String) (progress : List ProgressItem) :
    List RangeItem :=
  progress.filterMap (progressRange live datasetId topic)

/-! ## Staging -/

/-- What a call publishes. -/
structure ProgressEvidence where
  batchId : Nat
  marker : String
  rowCount : Nat
  outputRowCount : Nat
  progress : List ProgressItem
  sourceRanges : List RangeItem
  manifest : String
  publishedAt : String

def stagedBatch (job : ClickHouseJob) (run : ClickHouseRun) (evidence : ProgressEvidence) :
    ProgressBatch where
  batchId := evidence.batchId
  runId := run.runId
  stage := .outputCommitted
  planHash := job.planHash
  inputOffsets := evidence.sourceRanges
  staticSnapshots := run.staticBindings
  progress := evidence.progress
  marker := evidence.marker
  outputCommitId := publicationRunIdOf evidence.marker
  manifestPath := evidence.manifest
  rowCount := evidence.rowCount
  publishedAt := evidence.publishedAt

/-- The comparison of `stage_batch`; these commit documents have no snapshot to compare. -/
def progressMismatch (existing batch : ProgressBatch) : Prop :=
  existing.runId ≠ batch.runId ∨ existing.planHash ≠ batch.planHash ∨
    existing.inputOffsets ≠ batch.inputOffsets ∨
    existing.staticSnapshots ≠ batch.staticSnapshots ∨ existing.progress ≠ batch.progress ∨
    (existing.outputCommitId ≠ "" ∧ batch.outputCommitId ≠ "" ∧
      existing.outputCommitId ≠ batch.outputCommitId) ∨
    (existing.manifestPath ≠ "" ∧ batch.manifestPath ≠ "" ∧
      existing.manifestPath ≠ batch.manifestPath) ∨
    existing.rowCount ≠ batch.rowCount

instance (existing batch : ProgressBatch) : Decidable (progressMismatch existing batch) :=
  inferInstanceAs (Decidable (_ ∨ _))

def restagedProgress (existing batch : ProgressBatch) : ProgressBatch :=
  { existing with
    marker := batch.marker
    outputCommitId := orDefault batch.outputCommitId existing.outputCommitId
    manifestPath := orDefault batch.manifestPath existing.manifestPath
    rowCount := batch.rowCount
    publishedAt := orDefault batch.publishedAt existing.publishedAt
    lastErrorCode := batch.lastErrorCode
    lastErrorMessage := batch.lastErrorMessage }

/-- `_stage_output_batch`: the row is flushed, not committed. -/
def stageOutputBatch (store : ProgressStore) (batch : ProgressBatch) :
    Except Error ProgressStore :=
  match store.getBatch batch.batchId with
  | none => .ok { store with batches := store.batches ++ [batch] }
  | some existing => do
      rejectIf (progressMismatch existing batch)
        (.value "Continuous SQL batch identity was reused with different lineage evidence")
      pure { store with
        batches := updateWhere (fun row => row.batchId = batch.batchId)
          (fun row => restagedProgress row batch) store.batches }

/-! ## Catalog and revision -/

def progressRun (job : ClickHouseJob) (run : ClickHouseRun) (evidence : ProgressEvidence) :
    ProgressRun where
  createdAt := evidence.publishedAt
  publicationManifest := s!"{job.target.tableUri}/_publications/{evidence.marker}.json"
  rowCount := evidence.rowCount
  runId := publicationRunIdOf evidence.marker
  progress := evidence.progress
  sourceRanges := evidence.sourceRanges
  staticSnapshots := run.staticBindings
  storageLocation := job.target.tableUri

/-- `_catalog_dataset` -/
def progressPayload (job : ClickHouseJob) (run : ClickHouseRun) (evidence : ProgressEvidence)
    (previous : Option ProgressPayload) : ProgressPayload :=
  let newRun := progressRun job run evidence
  let previousRuns := (previous.elim [] ProgressPayload.materializationRuns).filter fun item =>
    item.runId ≠ newRun.runId
  let runs := previousRuns ++ [newRun]
  { clickhouseProgress := evidence.progress.map fun item =>
      (item.partition, item.maxOffset, item.rowCount, item.latestIngestedAt)
    clickhouseOutputRowCount := evidence.outputRowCount
    materializationRuns := runs.drop (runs.length - 100)
    rows := displayCount evidence.outputRowCount
    sourceRunId := newRun.runId
    storageLocation := job.target.tableUri
    lastUpdated := evidence.publishedAt }

def progressRequest (job : ClickHouseJob) (evidence : ProgressEvidence) : CommitRequest where
  datasetId := job.outputDatasetId
  runId := publicationRunIdOf evidence.marker
  storageLocation := job.target.tableUri
  storageFormat := "clickhouse"
  materializationMode := "delta"
  rowCount := evidence.rowCount
  nextCheckAfterMs := max 1000 (min 60000 (job.triggerIntervalSeconds * 500))
  sourceRanges := .list evidence.sourceRanges
  commitKind := .stream
  manifestLocation := some evidence.manifest

/-- One attempt of `save_catalog_dataset_and_revision`, on a session that holds the staged batch
and, where the dataset was read from the store, its new payload. -/
def saveProgressOnce (env : Deployment) (payload : ProgressPayload) (request : CommitRequest)
    (store : ProgressStore) : Except Error (ProgressStore × RevisionCommit) := do
  let (live, commit, created) ← recordDatasetCommit env store.live store.live request
  pure ({ store with
    live
    catalog := if created ∨ store.catalog.isSome then some payload else none }, commit)

/-- Two attempts: the rollback between them drops the staged batch, and what was set on a
dataset that the store had. -/
def saveProgress (env : Deployment) (payload : ProgressPayload) (request : CommitRequest)
    (staged store : ProgressStore) : Except Error (ProgressStore × RevisionCommit) :=
  match saveProgressOnce env payload request staged with
  | .error (.integrity _) =>
      saveProgressOnce env (store.catalog.getD payload) request store
  | outcome => outcome

/-! ## `_ready_batch` -/

/-- The batch that is made where none was found. -/
def recoveredBatch (job : ClickHouseJob) (run : ClickHouseRun) (batchId : Nat)
    (publicationRunId : String) (progress : List ProgressItem) (sourceRanges : List RangeItem)
    (manifest : Option String) (now : String) : ProgressBatch where
  batchId := batchId
  runId := run.runId
  stage := .dashboardReady
  planHash := job.planHash
  inputOffsets := sourceRanges
  staticSnapshots := run.staticBindings
  progress := progress
  marker := (publicationRunId.dropPrefix "csqlch_").toString
  outputCommitId := publicationRunId
  manifestPath := manifest.getD s!"{job.target.tableUri}/_publications/{publicationRunId}.json"
  rowCount := 0
  publishedAt := now

def readyBatch (batch : ProgressBatch) (revision : Nat) : ProgressBatch :=
  { batch with
    stage := .dashboardReady
    datasetRevision := some revision
    lastErrorCode := none
    lastErrorMessage := none }

/-- `_ready_batch`, where `fresh` is the batch it makes if there is none. -/
def readyProgress (store : ProgressStore) (batchId revision : Nat) (fresh : ProgressBatch) :
    ProgressStore × ProgressBatch :=
  match store.getBatch batchId with
  | none =>
      let batch := readyBatch fresh revision
      ({ store with batches := store.batches ++ [batch] }, batch)
  | some existing =>
      ({ store with
        batches := updateWhere (fun row => row.batchId = batchId)
          (fun row => readyBatch row revision) store.batches }, readyBatch existing revision)

/-! ## `reconcile_progress` -/

/-- The stores that the commits leave behind, and what is returned or raised. -/
abbrev Reconciled := List ProgressStore × Except Error (Option ProgressBatch)

section
variable (env : Deployment) (job : ClickHouseJob) (run : ClickHouseRun)

/-- A report whose revision is there. -/
def recoverProgress (progress : List ProgressItem) (now : String) (store : ProgressStore)
    (existing : RevisionCommit) : Reconciled :=
  let runId := publicationRunId env.toRuntime job run progress
  let batchId := ((store.batchByOutputCommitId runId).map ProgressBatch.batchId).getD
    store.nextBatchId
  let ready := readyProgress store batchId existing.revision
    (recoveredBatch job run batchId runId progress existing.sourceRanges.items none now)
  ([ready.1], .ok (some ready.2))

def progressEvidence (progress : List ProgressItem) (outputRowCount : Nat) (topic now : String)
    (store : ProgressStore) : ProgressEvidence :=
  let marker := clickhouseProgressMarker env.toRuntime job run progress
  { batchId := store.nextBatchId
    marker
    rowCount := outputRowCount - store.catalog.elim 0 ProgressPayload.clickhouseOutputRowCount
    outputRowCount
    progress
    sourceRanges := newSourceRanges store.live job.outputDatasetId topic progress
    manifest := s!"{job.target.tableUri}/_publications/{marker}.json"
    publishedAt := now }

/-- A report with new offsets. -/
def publishProgress (evidence : ProgressEvidence) (store : ProgressStore) : Reconciled :=
  let saved : Except Error (ProgressStore × RevisionCommit) := do
    let staged ← stageOutputBatch store (stagedBatch job run evidence)
    saveProgress env (progressPayload job run evidence store.catalog)
      (progressRequest job evidence) staged store
  match saved with
  | .error e => ([], .error e)
  | .ok (saved, commit) =>
      let ready := readyProgress saved evidence.batchId commit.revision
        (recoveredBatch job run evidence.batchId (publicationRunIdOf evidence.marker)
          evidence.progress evidence.sourceRanges (some evidence.manifest) evidence.publishedAt)
      ([saved, ready.1], .ok (some ready.2))

/-- `reconcile_progress`, of a normalized report. -/
def reconcileNormalized (progress : List ProgressItem) (outputRowCount : Nat) (now : String)
    (store : ProgressStore) : Reconciled :=
  let topic := strip job.topic
  if topic = "" then ([], .error (.value "ClickHouse publication has no Kafka topic"))
  else
    match commitByRunId store.live (publicationRunId env.toRuntime job run progress) with
    | some existing => recoverProgress env job run progress now store existing
    | none =>
        if newSourceRanges store.live job.outputDatasetId topic progress = [] then ([], .ok none)
        else
          publishProgress env job run
            (progressEvidence env job run progress outputRowCount topic now store) store

def reconcileProgress (report : ProgressReport) (now : String) (store : ProgressStore) :
    Reconciled :=
  let progress := normalizeClickhouseProgress report.clickhouseOffsets
  if progress = [] then ([], .ok none)
  else
    match normalizeOutputRowCount report.clickhouseOutputRowCount
        (progress.map ProgressItem.rowCount).sum with
    | .error e => ([], .error e)
    | .ok outputRowCount => reconcileNormalized env job run progress outputRowCount now store

end

end AskLake.ContinuousSql

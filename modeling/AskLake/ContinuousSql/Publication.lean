/-
# `AskLake.ContinuousSql.Publication` — `ContinuousSqlPublicationService`

`reconcileManifest` takes a publication through its database commits:

    1  the batch is staged                            output_committed
    2  its Iceberg commit is verified                 catalog_ready
    3  catalog row and dataset revision, together
    4  the batch names its revision                   dashboard_ready
    5  the incremental binding advances

A `Session` is the store as the session sees it, together with the stores that
its commits left behind: what a process that stops is left with is one of them.
A call that raises leaves what it had written, as its caller goes on to commit;
only `save_catalog_dataset_and_revision` rolls back.

Time stamps of rows, catalog fields that are copied from the job, and the
deletion fence of a dataset are left out.
-/
import AskLake.ContinuousSql.Documents
import AskLake.ContinuousSql.SourceRanges
import AskLake.Dashboard.Record

namespace AskLake.ContinuousSql

open AskLake.Lib AskLake.Python AskLake.Kafka AskLake.Events AskLake.Dashboard

/-! ## The store -/

inductive Stage
  | planned
  | outputCommitted
  | catalogReady
  | dashboardReady
  | failed
  deriving DecidableEq, Repr

structure BatchKey where
  jobId : String
  generation : Int
  batchId : Int
  deriving DecidableEq

/-- `continuous_sql_batches`, under its unique key -/
structure Batch where
  runId : String
  stage : Stage
  planHash : String
  inputOffsets : List RangeItem
  staticSnapshots : List StrDict
  sourceBoundary : SqlSourceBoundary
  outputCommit : Option CommitDocument
  outputCommitId : String
  manifestPath : String
  rowCount : Nat
  datasetRevision : Option Nat := none
  publishedAt : String
  lastErrorCode : Option String := none
  lastErrorMessage : Option String := none
  deriving DecidableEq

/-- `continuous_sql_incremental_bindings` -/
structure IncrementalBinding where
  sourceDatasetId : String
  sourceRevision : Nat := 0
  sourceRunId : Option String := none
  sourceFingerprint : Option String := none
  sourceRanges : List RangeItem := []
  nextOffsets : List NextOffset := []
  outputRevision : Nat := 0
  processedRows : Int := 0
  processedStaticKeys : Int := 0
  status : String := "ready"
  lastErrorCode : Option String := none
  lastErrorMessage : Option String := none
  deriving DecidableEq

/-- A materialization run of the catalog payload, as this service writes it. -/
structure MaterializationRun where
  createdAt : String
  icebergCommittedAt : Option String
  icebergSnapshotId : String
  jobId : String
  materializationMode : String
  publicationManifest : String
  rowCount : Nat
  runId : String
  sourceBoundary : SqlSourceBoundary
  sourceLabel : String
  sourceRanges : List RangeItem
  staticSnapshots : List StrDict
  storageLocation : Option String
  queryEngineTable : Option QueryEngineTableRef
  deriving DecidableEq

inductive RunItem
  | written (run : MaterializationRun)
  /-- another writer's object: `str(item.get("runId") or "")`, and its text -/
  | object (runId text : String)
  | other
  deriving DecidableEq

/-- The catalog payload of an output dataset. -/
structure OutputPayload where
  rows : String := ""
  materializationRuns : List RunItem := []
  icebergSnapshotId : Option String := none
  storageLocation : Option String := none
  sourceRunId : Option String := none
  lastUpdated : String := ""
  deriving DecidableEq

structure SqlStore where
  /-- revision commits, freshness, cursors and events -/
  live : Db := {}
  batches : Table BatchKey Batch := fun _ => none
  bindings : Table String IncrementalBinding := fun _ => none
  outputs : Table String OutputPayload := fun _ => none

/-! ## Sessions -/

structure Session where
  store : SqlStore
  /-- the stores that the commits left behind -/
  commits : List SqlStore := []
  /-- the ranges the binding was advanced by, with their batches: no column holds them -/
  applied : List (BatchKey × KafkaRanges) := []

namespace Session

def setBatch (s : Session) (key : BatchKey) (batch : Batch) : Session :=
  { s with store := { s.store with batches := s.store.batches.put key batch } }

def commit (s : Session) : Session := { s with commits := s.commits ++ [s.store] }

/-- Write the row of a batch, and commit. -/
def saveBatch (s : Session) (key : BatchKey) (batch : Batch) : Session :=
  (s.setBatch key batch).commit

end Session

structure IcebergWriterError where
  code : String
  message : String
  deriving DecidableEq

/-- Trino, as the Iceberg writer asks it. -/
structure IcebergWriter where
  describeTable : IcebergWriterTarget → Except IcebergWriterError Unit
  /-- the row of `$snapshots`: snapshot id, time of commit, warehouse location -/
  snapshot : IcebergWriterTarget → String → Except IcebergWriterError (String × String × String)
  /-- the rows of one run in a snapshot -/
  countRunRows : IcebergWriterTarget → String → String → Except IcebergWriterError Int

structure SqlEnv extends Deployment where
  writer : IcebergWriter
  /-- `datetime.now(UTC).isoformat()` -/
  now : String

/-! ## `stage_batch` -/

def batchKey (job : Job) (evidence : Evidence) : BatchKey :=
  ⟨job.id, evidence.generation, evidence.batchId⟩

def newBatch (job : Job) (run : Run) (evidence : Evidence) : Batch where
  runId := run.runId
  stage := .outputCommitted
  planHash := job.planHash
  inputOffsets := evidence.sourceRanges
  staticSnapshots := evidence.staticSnapshots
  sourceBoundary := evidence.sourceBoundary
  outputCommit := evidence.icebergCommit
  outputCommitId := evidence.publicationRunId
  manifestPath := evidence.manifestPath
  rowCount := evidence.rowCount
  publishedAt := evidence.publishedAt

/-- `output_commit_identity` -/
def CommitDocument.identity (commit : CommitDocument) : String × Option SqlSourceBoundary :=
  (commit.snapshotId, commit.sourceBoundary)

def immutableMismatch (existing batch : Batch) : Prop :=
  existing.runId ≠ batch.runId ∨ existing.planHash ≠ batch.planHash ∨
    existing.inputOffsets ≠ batch.inputOffsets ∨
    existing.staticSnapshots ≠ batch.staticSnapshots ∨
    existing.sourceBoundary ≠ batch.sourceBoundary ∨
    (existing.outputCommitId ≠ "" ∧ batch.outputCommitId ≠ "" ∧
      existing.outputCommitId ≠ batch.outputCommitId) ∨
    (existing.manifestPath ≠ "" ∧ batch.manifestPath ≠ "" ∧
      existing.manifestPath ≠ batch.manifestPath) ∨
    (existing.outputCommit ≠ none ∧ batch.outputCommit ≠ none ∧
      existing.outputCommit.map CommitDocument.identity ≠
        batch.outputCommit.map CommitDocument.identity) ∨
    existing.rowCount ≠ batch.rowCount

instance (existing batch : Batch) : Decidable (immutableMismatch existing batch) :=
  inferInstanceAs (Decidable (_ ∨ _))

/-- The existing row, with what the publication brings. -/
def restaged (existing batch : Batch) : Batch :=
  { existing with
    outputCommit := batch.outputCommit.or existing.outputCommit
    outputCommitId := orDefault batch.outputCommitId existing.outputCommitId
    manifestPath := orDefault batch.manifestPath existing.manifestPath
    rowCount := batch.rowCount
    publishedAt := orDefault batch.publishedAt existing.publishedAt
    lastErrorCode := batch.lastErrorCode
    lastErrorMessage := batch.lastErrorMessage }

/-- `ContinuousSqlRepository.stage_batch` -/
def stageBatch (existing : Option Batch) (batch : Batch) : Except Error Batch :=
  match existing with
  | none => .ok batch
  | some existing => do
      rejectIf (immutableMismatch existing batch)
        (.value "Continuous SQL batch identity was reused with different lineage evidence")
      pure (restaged existing batch)

/-- `_stage_manifest_batch` -/
def stageManifestBatch (job : Job) (run : Run) (evidence : Evidence) (s : Session) :
    Except Error (Session × Batch) := do
  let key := batchKey job evidence
  let batch ← stageBatch (s.store.batches key) (newBatch job run evidence)
  if batch.stage = .dashboardReady then pure (s.setBatch key batch, batch)
  else if evidence.rowCount = 0 then
    let ready := { batch with
      stage := .dashboardReady, lastErrorCode := none, lastErrorMessage := none }
    pure (s.saveBatch key ready, ready)
  else pure (s.saveBatch key batch, batch)

/-! ## `_source_commits_for_evidence` -/

inductive SourceCommits
  /-- `None`: the job has no binding -/
  | unbound
  /-- `False` -/
  | pending
  /-- a list, which is empty where the fingerprint was applied last -/
  | selected (commits : List RevisionCommit)
  deriving DecidableEq

/-- `list_commits` -/
def listCommits (db : Db) (datasetId : String) (afterRevision : Nat) : List RevisionCommit :=
  (db.commits.filter fun commit =>
    commit.datasetId = datasetId ∧ afterRevision < commit.revision).insertionSort
      fun a b => a.revision ≤ b.revision

/-- The loop over the commits: it stops as soon as they cover the target. -/
def selectCommits (target : KafkaRanges) (selected : List RevisionCommit)
    (collected : List RangeItem) : List RevisionCommit → Except Error SourceCommits
  | [] => .ok .pending
  | commit :: rest =>
      if commit.commitKind ≠ .stream then selectCommits target selected collected rest
      else do
        let coverage ← sourceRangeCoverage (collected ++ commit.sourceRanges.items)
        let covered ← sourceRangeCoverage target.documents
        if coverageContains coverage covered then pure (.selected (selected ++ [commit]))
        else
          selectCommits target (selected ++ [commit]) (collected ++ commit.sourceRanges.items) rest

/-- The fingerprint that the binding was last advanced by. -/
def appliedLast (rt : Runtime) (binding : IncrementalBinding) (ranges : KafkaRanges) : Prop :=
  binding.sourceFingerprint ≠ none ∧ binding.sourceFingerprint ≠ some "" ∧
    binding.sourceFingerprint = kafkaSourceFingerprint rt ranges

instance (rt : Runtime) (binding : IncrementalBinding) (ranges : KafkaRanges) :
    Decidable (appliedLast rt binding ranges) := inferInstanceAs (Decidable (_ ∧ _))

def sourceCommitsForEvidence (rt : Runtime) (job : Job) (evidence : Evidence) (store : SqlStore) :
    Except Error SourceCommits :=
  match store.bindings job.id with
  | none => .ok .unbound
  | some binding => do
      let targetRanges ← normalizeKafkaSourceRanges (.list evidence.sourceRanges) true
      if appliedLast rt binding targetRanges then pure (.selected [])
      else
        selectCommits targetRanges [] []
          (listCommits store.live binding.sourceDatasetId binding.sourceRevision)

/-! ## `_advance_incremental_binding` -/

/-- The first commit of the list, newest first, that the offsets have passed. -/
def completedCommit (nextOffsets : List NextOffset) :
    List RevisionCommit → Except Error (Option RevisionCommit)
  | [] => .ok none
  | commit :: older => do
      let consumed ← sourceRangesConsumed commit.sourceRanges.items nextOffsets
      if consumed then pure (some commit) else completedCommit nextOffsets older

def movedWatermark (binding : IncrementalBinding) (completed : Option RevisionCommit) :
    IncrementalBinding :=
  match completed with
  | none => binding
  | some commit =>
      if binding.sourceRevision < commit.revision then
        { binding with sourceRevision := commit.revision, sourceRunId := some commit.runId }
      else binding

/-- The binding after these ranges. -/
def advancedBy (rt : Runtime) (job : Job) (binding : IncrementalBinding) (ranges : KafkaRanges)
    (completed : Option RevisionCommit) (outputRevision : Nat) : IncrementalBinding :=
  { movedWatermark binding completed with
    sourceFingerprint := kafkaSourceFingerprint rt ranges
    sourceRanges := ranges.documents
    nextOffsets := mergeNextOffsets binding.nextOffsets (nextOffsetsOf ranges)
    outputRevision := max binding.outputRevision outputRevision
    processedRows := binding.processedRows + sourceRowCount ranges
    processedStaticKeys :=
      binding.processedStaticKeys + min (sourceRowCount ranges) job.staticPruningMaxKeys
    status := "ready"
    lastErrorCode := none
    lastErrorMessage := none }

def Session.advance (s : Session) (job : Job) (evidence : Evidence) (ranges : KafkaRanges)
    (binding : IncrementalBinding) : Session :=
  { s with
    store := { s.store with bindings := s.store.bindings.put job.id binding }
    applied := s.applied ++ [(batchKey job evidence, ranges)] }

def advanceIncrementalBinding (rt : Runtime) (job : Job) (evidence : Evidence)
    (sourceCommits : SourceCommits) (outputRevision : Nat) (s : Session) :
    Session × Except SqlError Unit :=
  match sourceCommits, s.store.bindings job.id with
  | .unbound, _ => (s, .ok ())
  | .pending, _ => (s, .error (.code "CONTINUOUS_SQL_SOURCE_COMMIT_PENDING"))
  | .selected [], _ => (s, .ok ())
  | .selected (_ :: _), none => (s, .ok ())
  | .selected (first :: more), some binding =>
      let completed : Except Error (KafkaRanges × Option RevisionCommit) := do
        let ranges ← normalizeKafkaSourceRanges (.list evidence.sourceRanges) true
        let completed ← completedCommit
          (mergeNextOffsets binding.nextOffsets (nextOffsetsOf ranges)) (first :: more).reverse
        pure (ranges, completed)
      match completed with
      | .error e => (s, .error (.python e))
      | .ok (ranges, completed) =>
          let binding := advancedBy rt job binding ranges completed outputRevision
          ((s.advance job evidence ranges binding).commit, .ok ())

/-! ## `_verify_output_commit` -/

/-- `IcebergWriterService.verify_commit` -/
def verifyCommit (writer : IcebergWriter) (job : Job) (evidence : Evidence)
    (expectedSnapshotId : String) : Except IcebergWriterError CommitDocument := do
  writer.describeTable job.outputTarget
  let (snapshotId, committedAt, warehouseLocation) ←
    match writer.snapshot job.outputTarget expectedSnapshotId with
    | .ok found => .ok found
    | .error e =>
        if e.code = "ICEBERG_SNAPSHOT_EVIDENCE_MISSING" then
          .error ⟨"ICEBERG_SNAPSHOT_ID_MISMATCH", "ICEBERG_SNAPSHOT_ID_MISMATCH"⟩
        else .error e
  rejectIf (snapshotId ≠ expectedSnapshotId)
    ⟨"ICEBERG_SNAPSHOT_ID_MISMATCH", "ICEBERG_SNAPSHOT_ID_MISMATCH"⟩
  pure
    { snapshotId
      sourceBoundary := some evidence.sourceBoundary
      createdTable := some false
      jobId := some job.id
      runId := some evidence.publicationRunId
      target := some job.outputTarget
      queryEngineTable := some job.outputTarget.queryEngineTable
      committedAt := some committedAt
      warehouseLocation := some warehouseLocation
      schemaFingerprint := if job.schemaFingerprint = "" then none else some job.schemaFingerprint
      ruleFingerprint := some job.planHash }

/-- `IcebergWriterService.verify_snapshot_run_row_count` -/
def verifySnapshotRunRowCount (writer : IcebergWriter) (target : IcebergWriterTarget)
    (snapshotId runId : String) (expectedRowCount : Nat) : Except IcebergWriterError Unit := do
  rejectIf (runId = "") ⟨"ICEBERG_RUN_ID_INVALID", "ICEBERG_RUN_ID_INVALID"⟩
  let actualRowCount ← writer.countRunRows target snapshotId runId
  rejectIf (actualRowCount < 0)
    ⟨"ICEBERG_RUN_ROW_COUNT_EVIDENCE_INVALID", "ICEBERG_RUN_ROW_COUNT_EVIDENCE_INVALID"⟩
  rejectIf (actualRowCount ≠ expectedRowCount)
    ⟨"ICEBERG_RUN_ROW_COUNT_MISMATCH",
      s!"Expected {expectedRowCount} rows for run {runId}, found {actualRowCount}"⟩

def expectedSnapshotId (evidence : Evidence) : String :=
  strip ((evidence.icebergCommit.map CommitDocument.snapshotId).getD "")

/-- Both questions to the writer. -/
def verification (writer : IcebergWriter) (job : Job) (evidence : Evidence) :
    Except IcebergWriterError CommitDocument := do
  let verified ← verifyCommit writer job evidence (expectedSnapshotId evidence)
  verifySnapshotRunRowCount writer job.outputTarget verified.snapshotId evidence.publicationRunId
    evidence.rowCount
  pure verified

def verifyOutputCommit (env : SqlEnv) (job : Job) (evidence : Evidence) (s : Session) :
    Session × Except SqlError (Option CommitDocument) :=
  if expectedSnapshotId evidence = "" then
    (s, .error (.publication "CONTINUOUS_SQL_OUTPUT_COMMIT_MISSING"
      (some "Continuous SQL output commit does not include an Iceberg snapshot.")))
  else
    match verification env.writer job evidence, s.store.batches (batchKey job evidence) with
    | .ok verified, _ => (s, .ok (some verified))
    | .error e, none => (s, .error (.writer e.code e.message))
    | .error e, some batch =>
        (s.saveBatch (batchKey job evidence)
          { batch with
            stage := .outputCommitted
            lastErrorCode := some ("CONTINUOUS_SQL_CATALOG_" ++ e.code)
            lastErrorMessage := some e.message }, .ok none)

/-! ## `_catalog_payload` and `save_catalog_dataset_and_revision` -/

def RunItem.runId : RunItem → Option String
  | .written run => some run.runId
  | .object runId _ => some runId
  | .other => none

/-- `bool(evidence["sourceBoundary"].get("inputSnapshots"))` -/
def snapshotRefresh (evidence : Evidence) : Prop := evidence.sourceBoundary.inputSnapshots ≠ []

instance (evidence : Evidence) : Decidable (snapshotRefresh evidence) :=
  inferInstanceAs (Decidable (¬ _))

def materializationMode (evidence : Evidence) : String :=
  if snapshotRefresh evidence then "snapshot" else "delta"

def materializationRun (env : SqlEnv) (job : Job) (evidence : Evidence)
    (verified : CommitDocument) : MaterializationRun where
  createdAt := orDefault evidence.publishedAt env.now
  icebergCommittedAt := verified.committedAt
  icebergSnapshotId := verified.snapshotId
  jobId := job.id
  materializationMode := materializationMode evidence
  publicationManifest := evidence.manifestPath
  rowCount := evidence.rowCount
  runId := evidence.publicationRunId
  sourceBoundary := evidence.sourceBoundary
  sourceLabel := job.name
  sourceRanges := evidence.sourceRanges
  staticSnapshots := evidence.staticSnapshots
  storageLocation := verified.warehouseLocation
  queryEngineTable := verified.queryEngineTable

/-- `[…][-100:]` -/
def lastHundred (runs : List RunItem) : List RunItem := runs.drop (runs.length - 100)

/-- `_catalog_payload` -/
def catalogPayload (env : SqlEnv) (job : Job) (evidence : Evidence) (verified : CommitDocument)
    (previous : OutputPayload) : OutputPayload :=
  let previousRuns := previous.materializationRuns.filter fun item =>
    item.runId ≠ none ∧ item.runId ≠ some evidence.publicationRunId
  let totalRows :=
    if snapshotRefresh evidence then evidence.rowCount
    else parseDisplayCount previous.rows + evidence.rowCount
  { rows := displayCount totalRows
    materializationRuns :=
      lastHundred (previousRuns ++ [.written (materializationRun env job evidence verified)])
    icebergSnapshotId := some verified.snapshotId
    storageLocation := verified.warehouseLocation
    sourceRunId := some evidence.publicationRunId
    lastUpdated := orDefault evidence.publishedAt env.now }

/-- The arguments of `record_dataset_commit`. -/
def commitRequest (job : Job) (evidence : Evidence) (verified : CommitDocument) :
    CommitRequest where
  datasetId := job.outputDatasetId
  runId := evidence.publicationRunId
  storageLocation := verified.warehouseLocation.getD ""
  storageFormat := "iceberg"
  materializationMode := materializationMode evidence
  rowCount := evidence.rowCount
  nextCheckAfterMs := max 1000 (min 60000 (job.triggerIntervalSeconds * 500))
  sourceRanges := .list evidence.sourceRanges
  commitKind := .stream
  manifestLocation := some evidence.manifestPath
  snapshotId := some verified.snapshotId

/-- One attempt of `save_catalog_dataset_and_revision`.  A dataset that was read
from the store is attached to the session, so that the commit writes it whether
the revision is new or not; one that is not is merged for a new revision only. -/
def saveOnce (env : SqlEnv) (dataset : OutputPayload) (attached : Bool) (request : CommitRequest)
    (store : SqlStore) : Except Error (SqlStore × RevisionCommit) := do
  let (live, commit, created) ←
    recordDatasetCommit env.toDeployment store.live store.live request
  if created ∨ attached then
    pure ({ store with live, outputs := store.outputs.put request.datasetId dataset }, commit)
  else pure ({ store with live }, commit)

/-- Two attempts: the second one follows a violated unique key, and the rollback
has dropped what was set on an attached dataset. -/
def saveCatalogDatasetAndRevision (env : SqlEnv) (dataset : OutputPayload)
    (existing : Option OutputPayload) (request : CommitRequest) (s : Session) :
    Session × Except SqlError RevisionCommit :=
  let attempt :=
    match saveOnce env dataset existing.isSome request s.store with
    | .error (.integrity _) =>
        saveOnce env (existing.getD dataset) existing.isSome request s.store
    | outcome => outcome
  match attempt with
  | .ok (store, commit) => ({ s with store }.commit, .ok commit)
  | .error e => (s, .error (.python e))

/-! ## `_publish_verified_commit` and `reconcile_manifest` -/

def catalogReadyBatch (batch : Batch) (verified : CommitDocument) : Batch :=
  { batch with
    stage := .catalogReady
    outputCommit := some verified
    lastErrorCode := none
    lastErrorMessage := none }

def dashboardReadyBatch (batch : Batch) (revision : Nat) : Batch :=
  { batch with
    stage := .dashboardReady
    datasetRevision := some revision
    lastErrorCode := none
    lastErrorMessage := none }

/-- The last two commits: the batch names its revision, the binding advances. -/
def finishPublication (env : SqlEnv) (job : Job) (evidence : Evidence) (revision : Nat)
    (s : Session) : Session × Except SqlError Batch :=
  match s.store.batches (batchKey job evidence) with
  | none => (s, .error (.code "CONTINUOUS_SQL_BATCH_MISSING"))
  | some batch =>
      let batch := dashboardReadyBatch batch revision
      let s := s.saveBatch (batchKey job evidence) batch
      match sourceCommitsForEvidence env.toRuntime job evidence s.store with
      | .error e => (s, .error (.python e))
      | .ok sourceCommits =>
          let (s, outcome) :=
            advanceIncrementalBinding env.toRuntime job evidence sourceCommits revision s
          (s, outcome.map fun _ => batch)

def publishVerifiedCommit (env : SqlEnv) (job : Job) (evidence : Evidence)
    (verified : CommitDocument) (s : Session) : Session × Except SqlError Batch :=
  match s.store.batches (batchKey job evidence) with
  | none => (s, .error (.code "CONTINUOUS_SQL_BATCH_MISSING"))
  | some batch =>
      let s := s.saveBatch (batchKey job evidence) (catalogReadyBatch batch verified)
      let existing := s.store.outputs job.outputDatasetId
      let dataset := catalogPayload env job evidence verified (existing.getD {})
      match saveCatalogDatasetAndRevision env dataset existing
          (commitRequest job evidence verified) s with
      | (s, .error e) => (s, .error e)
      | (s, .ok commit) => finishPublication env job evidence commit.revision s

/-- `reconcile_manifest`, from the staged batch on. -/
def reconcileStaged (env : SqlEnv) (job : Job) (evidence : Evidence) (s : Session)
    (batch : Batch) : Session × Except SqlError Batch :=
  let key := batchKey job evidence
  match sourceCommitsForEvidence env.toRuntime job evidence s.store with
  | .error e => (s, .error (.python e))
  | .ok .pending =>
      let waiting := { batch with
        lastErrorCode := some "CONTINUOUS_SQL_SOURCE_COMMIT_PENDING"
        lastErrorMessage := some "Waiting for the matching Kafka Dataset revision commit." }
      (s.saveBatch key waiting, .ok waiting)
  | .ok sourceCommits =>
      if sourceCommits = .selected [] ∧ batch.stage ≠ .dashboardReady then
        let failed := { batch with
          stage := .failed
          lastErrorCode := some "CONTINUOUS_SQL_SOURCE_RANGE_ALREADY_APPLIED"
          lastErrorMessage := some "This Kafka source fingerprint was already applied." }
        (s.saveBatch key failed, .ok failed)
      else if batch.stage = .dashboardReady then
        let (s, outcome) := advanceIncrementalBinding env.toRuntime job evidence sourceCommits
          (batch.datasetRevision.getD 0) s
        (s, outcome.map fun _ => batch)
      else if evidence.rowCount = 0 then
        let (s, outcome) :=
          advanceIncrementalBinding env.toRuntime job evidence sourceCommits 0 s
        (s, outcome.map fun _ => batch)
      else
        match verifyOutputCommit env job evidence s with
        | (s, .error e) => (s, .error e)
        | (s, .ok (some verified)) => publishVerifiedCommit env job evidence verified s
        | (s, .ok none) =>
            match s.store.batches key with
            | none => (s, .error (.code "CONTINUOUS_SQL_BATCH_MISSING"))
            | some failedBatch => (s, .ok failedBatch)

def reconcileManifest (env : SqlEnv) (job : Job) (run : Run) (publication : Publication)
    (s : Session) : Session × Except SqlError Batch :=
  match validatePublicationIdentity env.toRuntime job run publication with
  | .error e => (s, .error e)
  | .ok evidence =>
      match stageManifestBatch job run evidence s with
      | .error e => (s, .error (.python e))
      | .ok (s, batch) => reconcileStaged env job evidence s batch

end AskLake.ContinuousSql

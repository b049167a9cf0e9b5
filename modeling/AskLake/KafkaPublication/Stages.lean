/-
# `AskLake.KafkaPublication.Stages` — `execute_continuous_publication`

A batch that the stream worker has written becomes visible in four stages, of which two write
to the database, each in a transaction of its own:

    output      the worker's Iceberg commit is verified
    manifest    the manifest of the batch is there
    catalog     a materialization run of the dataset          commit
    dashboard   a revision of the dataset, and its cursors    commit

A stage that raises is rolled back and ends the call.  A call that finds its run in the catalog
goes on from there: without a revision it records one of kind `backfill`, which seeds the
cursors, in the place of one of kind `stream`, which advances them.

Left out is `publicationWorkflow`, the diagnostic record that the stages write and that only
they read, with the fingerprints in it.
-/
import AskLake.ContinuousSql.Publication
import Mathlib.Order.WithBot

namespace AskLake.KafkaPublication

open AskLake.Lib AskLake.Python AskLake.Kafka AskLake.Events AskLake.Dashboard

open AskLake.ContinuousSql (IcebergWriterTarget IcebergWriter IcebergWriterError
  verifySnapshotRunRowCount)

/-! ## Documents -/

/-- Cursors are compared by the order of the integers itself. -/
scoped instance (priority := high) intPreorder : Preorder Int := Int.instLinearOrder.toPreorder

scoped instance (priority := high) intSup : SemilatticeSup Int :=
  Int.instLinearOrder.toLattice.toSemilatticeSup

deriving instance DecidableEq for RangesArgument

/-- A `sourceBoundary`; the empty dictionary counts as none. -/
structure StreamBoundary where
  kind : String
  jobId : String
  batchId : Option Int
  runId : String
  checkpointPath : String
  consumerGroupId : String
  topic : String
  boundaryId : String
  sourceRanges : RangesArgument
  /-- the fields that are only compared -/
  other : StrDict := .empty
  deriving DecidableEq

/-- An `icebergCommit`; `target` is `none` where it is not valid. -/
structure StreamCommit where
  jobId : String
  runId : String
  target : Option IcebergWriterTarget
  snapshotId : String
  schemaFingerprint : String
  ruleFingerprint : String
  sourceBoundary : Option StreamBoundary
  deriving DecidableEq

/-- What the worker reports of a batch. -/
structure StreamPublication where
  batchId : Option Int
  runId : Option String
  storedCount : Option Int
  dataPath : Option String
  manifestPath : Option String
  sourceRanges : RangesArgument
  sourceBoundary : Option StreamBoundary
  icebergCommit : Option StreamCommit
  publishedAt : Option String := none

/-- `etl_jobs`, as far as a publication reads it. -/
structure StreamJob where
  id : String
  /-- `job.dataset_id or make_dataset_id(job.target)` -/
  datasetId : String
  /-- where the batches of the job lie -/
  targetRoot : String
  icebergTarget : Option IcebergWriterTarget
  schemaFingerprint : String
  /-- the fingerprint of the compiled rules, which may not compile -/
  ruleFingerprint : Except Error String
  triggerIntervalSeconds : Option Int

/-- `kafka_continuous_runtimes`, as far as a publication reads it. -/
structure StreamRuntime where
  checkpointPath : String
  consumerGroupId : String
  topic : String
  storedCount : Int
  /-- `last_flush_at or heartbeat_at` -/
  flushedAt : Option String := none

/-- A run of `materializationRuns`. -/
structure MaterializationRun where
  runId : String
  materializationMode : String
  status : String
  rowCount : Option Int
  createdAt : String
  icebergCommittedAt : String
  icebergSnapshotId : String
  /-- `kafkaSnapshot.snapshotId`, which a stream publication does not have -/
  kafkaSnapshotId : String := ""
  deriving DecidableEq

/-- `queryEngineTable` -/
structure TableMapping where
  catalog : String
  schema : String
  table : String
  format : String
  deriving DecidableEq

/-- The payload of `catalog_datasets`, as far as a publication reads what it has written. -/
structure DatasetPayload where
  materializationRuns : List MaterializationRun
  queryEngineTable : Option TableMapping

/-- The rows of the job's dataset. -/
structure KafkaStore where
  live : Db := {}
  catalog : Option DatasetPayload := none

namespace KafkaStore

def runs (store : KafkaStore) : List MaterializationRun :=
  store.catalog.elim [] DatasetPayload.materializationRuns

end KafkaStore

/-- The deployment, with what the standard library makes of times and paths. -/
structure StreamEnv extends Deployment where
  /-- `datetime.fromisoformat`, in UTC -/
  fromIsoFormat : String → Option Int
  /-- `canonical_storage_path` -/
  canonicalStoragePath : String → String

/-- What a call is told by other systems. -/
structure StageAnswers where
  writer : IcebergWriter
  /-- data files and bytes of a snapshot -/
  storageMetrics : Except IcebergWriterError (Int × Int)
  /-- the `_SUCCESS` marker of the manifest -/
  manifest : Except Error Unit := .ok ()
  /-- what else the catalog transaction may raise: locks, the deletion fence, the commit -/
  catalog : Except Error Unit := .ok ()
  /-- and the dashboard transaction -/
  dashboard : Except Error Unit := .ok ()
  now : String

/-! ## The identity of a publication -/

inductive PublicationStage
  | output
  | manifest
  | catalog
  | dashboard
  deriving DecidableEq

inductive StageError
  | python (e : Error)
  /-- `ApiError` -/
  | api (code message : String)
  deriving DecidableEq

/-- How a call fails: the stage, its error code, and what was raised. -/
structure StageFailure where
  stage : PublicationStage
  code : String
  error : StageError
  deriving DecidableEq

structure PublicationIdentity where
  batchId : Nat
  runId : String
  deriving DecidableEq

/-- `f"continuous:{job.id}:batch:{batch_id}:"` -/
def runIdPrefix (jobId : String) (batchId : Nat) : List Char :=
  "continuous:".toList ++ jobId.toList ++ ":batch:".toList ++ Nat.toDigits 10 batchId ++ [':']

/-- `build_publication_identity` -/
def buildPublicationIdentity (job : StreamJob) (publication : StreamPublication) :
    Except Error PublicationIdentity :=
  match publication.batchId with
  | none => .error (.value "Continuous publication batch identity is invalid.")
  | some batchId =>
      if batchId < 0 then .error (.value "Continuous publication batch identity is invalid.")
      else
        let runId := (optionalString publication.runId).elim "" Text.text
        if (runIdPrefix job.id batchId.toNat).isPrefixOf runId.toList then
          .ok ⟨batchId.toNat, runId⟩
        else .error (.value "Continuous publication run identity is invalid.")

/-- `_nonnegative_int(publication.get("storedCount"), 0)` -/
def StreamPublication.stored (publication : StreamPublication) : Nat :=
  (publication.storedCount.getD 0).toNat

/-! ## `continuous_stream_publication_metadata` -/

structure PublicationInputs where
  dataPath : Option String
  manifestPath : String
  sourceRanges : KafkaRanges

def tableUri (target : IcebergWriterTarget) : String :=
  s!"iceberg://{target.catalog}/{target.namespace_}/{target.table}"

/-- Only a list is passed on. -/
def rangesList (ranges : RangesArgument) : RangesArgument :=
  match ranges with
  | .list items => .list items
  | _ => .missing

def preparePublication (env : StreamEnv) (job : StreamJob) (publication : StreamPublication)
    (identity : PublicationIdentity) : Except Error PublicationInputs := do
  let target ← orReject job.icebergTarget (.value "IcebergWriterTarget")
  let dataPath := (optionalString publication.dataPath).map Text.text
  let manifestPath := (optionalString publication.manifestPath).map Text.text
  let sourceRanges ← normalizeKafkaSourceRanges (rangesList publication.sourceRanges) true
  rejectIf (0 < publication.stored ∧ dataPath = none)
    (.value "Kafka publication is missing its durable data path")
  let manifestPath ← orReject manifestPath
    (.value "Kafka publication is missing its committed manifest path")
  rejectIf (∃ path ∈ dataPath,
      env.canonicalStoragePath path ≠ env.canonicalStoragePath (tableUri target))
    (.value "Kafka publication data path does not match its batch identity")
  rejectIf (env.canonicalStoragePath manifestPath ≠
      env.canonicalStoragePath s!"{job.targetRoot}/_batch-manifests/batch_id={identity.batchId}")
    (.value "Kafka publication manifest path does not match its batch identity")
  pure ⟨dataPath, manifestPath, sourceRanges⟩

/-! ## `_verify_continuous_publication_output` -/

/-- `value.rstrip("/")` -/
def rstripSlash (path : String) : String :=
  String.ofList (path.toList.rdropWhile (· = '/'))

/-- The comparisons of a boundary with the job, the runtime and the publication. -/
def StreamBoundary.names (boundary : StreamBoundary) (job : StreamJob) (runtime : StreamRuntime)
    (identity : PublicationIdentity) : Prop :=
  boundary.kind = "kafka_continuous_batch" ∧ boundary.jobId = job.id ∧
    boundary.batchId = some (identity.batchId : Int) ∧ boundary.runId = identity.runId ∧
    rstripSlash boundary.checkpointPath = rstripSlash runtime.checkpointPath ∧
    boundary.consumerGroupId = runtime.consumerGroupId ∧ boundary.topic = runtime.topic ∧
    strip boundary.boundaryId ≠ ""

instance (boundary : StreamBoundary) (job : StreamJob) (runtime : StreamRuntime)
    (identity : PublicationIdentity) : Decidable (boundary.names job runtime identity) :=
  inferInstanceAs (Decidable (_ ∧ _))

/-- `catalog_reconciliation_error` -/
def catalogReconciliationError (message : String) : StageError :=
  .api "CATALOG_RECONCILIATION_FAILED" message

/-- What is known of a verified commit. -/
structure VerifiedOutput where
  target : IcebergWriterTarget
  snapshotId : String
  committedAt : String
  /-- `materializationOutputPath` -/
  warehouseLocation : String
  endedAt : String

/-- The questions to Trino, and the comparison of the snapshot. -/
def askWriter (answers : StageAnswers) (target : IcebergWriterTarget) (runId snapshotId : String)
    (expectedRowCount : Nat) : Except IcebergWriterError (String × String × Int × Int) := do
  answers.writer.describeTable target
  let (found, committedAt, warehouseLocation) ←
    match answers.writer.snapshot target snapshotId with
    | .ok row => .ok row
    | .error e =>
        if e.code = "ICEBERG_SNAPSHOT_EVIDENCE_MISSING" then
          .error ⟨"ICEBERG_SNAPSHOT_ID_MISMATCH", "ICEBERG_SNAPSHOT_ID_MISMATCH"⟩
        else .error e
  rejectIf (found ≠ snapshotId) ⟨"ICEBERG_SNAPSHOT_ID_MISMATCH", "ICEBERG_SNAPSHOT_ID_MISMATCH"⟩
  verifySnapshotRunRowCount answers.writer target snapshotId runId expectedRowCount
  let (files, bytes) ← answers.storageMetrics
  pure (committedAt, warehouseLocation, files, bytes)

/-- `verify_spark_iceberg_result`, with the row count of the run -/
def verifySparkIcebergResult (answers : StageAnswers) (job : StreamJob) (runtime : StreamRuntime)
    (target : IcebergWriterTarget) (runId endedAt : String) (commit : StreamCommit)
    (expectedRowCount : Nat) : Except StageError VerifiedOutput := do
  rejectIf (commit.jobId ≠ job.id ∨ commit.runId ≠ runId)
    (catalogReconciliationError "Spark Iceberg commit identity does not match the persisted Run.")
  let committedTarget ← orReject commit.target
    (catalogReconciliationError "Spark Iceberg commit target is invalid.")
  rejectIf (committedTarget ≠ target)
    (catalogReconciliationError
      "Spark Iceberg commit target does not match the persisted Job target.")
  let snapshotId := strip commit.snapshotId
  rejectIf (snapshotId = "")
    (catalogReconciliationError "Spark Iceberg commit does not include snapshotId.")
  rejectIf (strip job.schemaFingerprint ≠ "" ∧
      strip commit.schemaFingerprint ≠ strip job.schemaFingerprint)
    (catalogReconciliationError
      "Spark Iceberg schema fingerprint does not match the persisted Job.")
  let expectedRuleFingerprint ← job.ruleFingerprint.mapError StageError.python
  rejectIf (commit.ruleFingerprint ≠ expectedRuleFingerprint)
    (catalogReconciliationError "Spark Iceberg rule fingerprint does not match the persisted Job.")
  let (committedAt, warehouseLocation, files, bytes) ←
    (askWriter answers target runId snapshotId expectedRowCount).mapError fun e =>
      .api e.code "Iceberg run rows could not be verified through Trino."
  rejectIf (0 < runtime.storedCount ∧ (files ≤ 0 ∨ bytes ≤ 0))
    (catalogReconciliationError "Iceberg commit does not expose physical data-file evidence.")
  pure ⟨target, snapshotId, committedAt, warehouseLocation, endedAt⟩

def verifyPublicationOutput (job : StreamJob) (runtime : StreamRuntime)
    (publication : StreamPublication) (identity : PublicationIdentity)
    (inputs : PublicationInputs) (answers : StageAnswers) : Except StageError VerifiedOutput := do
  rejectIf (inputs.dataPath = none)
    (.python (.value "Kafka publication is missing its durable data path"))
  let target ← orReject job.icebergTarget (.python (.value "IcebergWriterTarget"))
  let unmatched := StageError.python (.value
    "Continuous publication does not include matching Iceberg source-boundary evidence.")
  let commit ← orReject publication.icebergCommit unmatched
  let boundary ← orReject publication.sourceBoundary unmatched
  rejectIf (commit.sourceBoundary ≠ some boundary) unmatched
  let boundaryRanges ←
    (normalizeKafkaSourceRanges boundary.sourceRanges true).mapError StageError.python
  rejectIf (¬ boundary.names job runtime identity ∨ boundaryRanges ≠ inputs.sourceRanges)
    (.python (.value "Continuous publication source boundary does not match the persisted runtime."))
  let endedAt := (optionalString publication.publishedAt).elim
    (runtime.flushedAt.getD answers.now) Text.text
  verifySparkIcebergResult answers job runtime target identity.runId endedAt commit
    publication.stored

/-! ## `upsert_materialization_run` -/

/-- `parse_materialization_timestamp`; `datetime.min` is the bottom. -/
def parseMaterializationTimestamp (env : StreamEnv) (value : String) : WithBot Int :=
  let text := (strip value).toList
  let text := if (text.drop (text.length - 4)).map Char.toUpper = " UTC".toList then
    text.take (text.length - 4) ++ "+00:00".toList else text
  let text := text.flatMap fun c => if c = 'Z' then "+00:00".toList else [c]
  match env.fromIsoFormat (String.ofList text) with
  | some time => time
  | none => ⊥

/-- `materialization_run_sort_key` -/
def materializationRunSortKey (env : StreamEnv) (run : MaterializationRun) :
    WithBot Int ×ₗ String ×ₗ String :=
  toLex (parseMaterializationTimestamp env (orDefault run.icebergCommittedAt run.createdAt),
    toLex (run.icebergSnapshotId, run.runId))

/-- `sorted(runs, key=materialization_run_sort_key, reverse=True)` -/
def newestFirst (env : StreamEnv) (runs : List MaterializationRun) : List MaterializationRun :=
  runs.insertionSort fun a b => materializationRunSortKey env b ≤ materializationRunSortKey env a

/-- The runs that a new one leaves in the list. -/
def survives (next run : MaterializationRun) : Prop :=
  run.runId ≠ next.runId ∧
    (next.kafkaSnapshotId = "" ∨ run.kafkaSnapshotId ≠ next.kafkaSnapshotId) ∧
    (next.icebergSnapshotId = "" ∨ run.icebergSnapshotId ≠ next.icebergSnapshotId)

instance (next run : MaterializationRun) : Decidable (survives next run) :=
  inferInstanceAs (Decidable (_ ∧ _))

def upsertMaterializationRun (env : StreamEnv) (previous : List MaterializationRun)
    (next : MaterializationRun) : List MaterializationRun :=
  if next.runId = "" then newestFirst env previous
  else newestFirst env (next :: previous.filter fun run => survives next run)

/-- `aggregate_materialization_runs(runs)["latestRunId"]` -/
def latestRunId (rt : Runtime) (runs : List MaterializationRun) : Option String :=
  (runs.find? fun run => rt.casefold (strip run.status) = "success").map MaterializationRun.runId

/-! ## `_register_continuous_publication_catalog` -/

structure CatalogEvidence where
  datasetId : String
  materializationMode : String
  catalogCreated : Bool
  catalogSkipped : Bool := false

/-- The first run of the list that has this run id. -/
def existingRun (runs : List MaterializationRun) (runId : String) : Option MaterializationRun :=
  runs.find? fun run => run.runId = runId

def mappingOf (target : IcebergWriterTarget) : TableMapping :=
  ⟨target.catalog, target.namespace_, target.table, "iceberg"⟩

/-- `_spark_materialization_run` -/
def sparkMaterializationRun (publication : StreamPublication) (identity : PublicationIdentity)
    (output : VerifiedOutput) (mode : String) : MaterializationRun where
  runId := identity.runId
  materializationMode := mode
  status := "success"
  rowCount := some publication.stored
  createdAt := output.endedAt
  icebergCommittedAt := output.committedAt
  icebergSnapshotId := output.snapshotId

/-- `dataset_payload_from_spark_result` -/
def datasetPayload (env : StreamEnv) (previous : Option DatasetPayload) (next : MaterializationRun)
    (output : VerifiedOutput) : DatasetPayload :=
  let runs := upsertMaterializationRun env
    (previous.elim [] DatasetPayload.materializationRuns) next
  match previous with
  | some payload =>
      if latestRunId env.toRuntime runs = some next.runId then
        ⟨runs, some (mappingOf output.target)⟩
      else { payload with materializationRuns := runs }
  | none => ⟨runs, some (mappingOf output.target)⟩

/-- The mode of the run that is there, or of a new one. -/
def chosenMode (env : StreamEnv) (catalog : Option DatasetPayload) (runId : String)
    (target : IcebergWriterTarget) : String :=
  let computed :=
    if (catalog.bind DatasetPayload.queryEngineTable) = some (mappingOf target) then "delta"
    else "snapshot"
  let existing := (existingRun (catalog.elim [] DatasetPayload.materializationRuns) runId).elim ""
    fun run => folded env.toRuntime run.materializationMode
  if existing = "delta" ∨ existing = "snapshot" then existing else computed

/-- The catalog after the stage, and what it passes on. -/
def registerCatalog (env : StreamEnv) (job : StreamJob) (publication : StreamPublication)
    (identity : PublicationIdentity) (output : Option VerifiedOutput) (answers : StageAnswers)
    (catalog : Option DatasetPayload) : Except Error (Option DatasetPayload × CatalogEvidence) :=
  match output with
  | none =>
      .ok (catalog, ⟨job.datasetId, "delta", false, true⟩)
  | some output => do
      answers.catalog
      let mode := chosenMode env catalog identity.runId output.target
      match existingRun (catalog.elim [] DatasetPayload.materializationRuns) identity.runId with
      | some _ => pure (catalog, ⟨job.datasetId, mode, false, false⟩)
      | none =>
          let run := sparkMaterializationRun publication identity output mode
          pure (some (datasetPayload env catalog run output), ⟨job.datasetId, mode, true, false⟩)

/-! ## `_publish_continuous_dashboard_revision` -/

/-- `recommended_dashboard_poll_ms` -/
def recommendedDashboardPollMs (triggerIntervalSeconds : Option Int) : Int :=
  max 1000 (min 60000 (triggerIntervalSeconds.elim 30 (max 1) * 500))

/-- What is recorded of a publication; the verified result names no `icebergSnapshotId`. -/
def streamRequest (job : StreamJob) (publication : StreamPublication)
    (identity : PublicationIdentity) (inputs : PublicationInputs) (output : VerifiedOutput)
    (mode : String) : CommitRequest where
  datasetId := job.datasetId
  runId := identity.runId
  storageLocation := output.warehouseLocation
  storageFormat := "iceberg"
  materializationMode := mode
  rowCount := publication.stored
  nextCheckAfterMs := recommendedDashboardPollMs job.triggerIntervalSeconds
  sourceRanges := .list inputs.sourceRanges.documents
  commitKind := .stream
  manifestLocation := some inputs.manifestPath

/-- `_nonnegative_int(existing_run.get("rowCount"), stored)` -/
def runRowCount (run : MaterializationRun) (stored : Nat) : Int :=
  match run.rowCount with
  | some n => if n < 0 then stored else n
  | none => stored

def backfillRequest (job : StreamJob) (publication : StreamPublication)
    (identity : PublicationIdentity) (inputs : PublicationInputs) (output : VerifiedOutput)
    (run : MaterializationRun) : CommitRequest :=
  { streamRequest job publication identity inputs output "snapshot" with
    rowCount := runRowCount run publication.stored
    commitKind := .backfill }

/-- A publication whose run is in the catalog. -/
def publishRevision (env : StreamEnv) (job : StreamJob) (publication : StreamPublication)
    (identity : PublicationIdentity) (inputs : PublicationInputs) (output : VerifiedOutput)
    (evidence : CatalogEvidence) (run : MaterializationRun) (live : Db) : Except Error Db :=
  match commitByRunId live identity.runId with
  | none =>
      if evidence.catalogCreated then
        Prod.fst <$> recordDatasetCommit env.toDeployment live live
          (streamRequest job publication identity inputs output evidence.materializationMode)
      else
        Prod.fst <$> backfillCatalogRevision env.toDeployment live
          (backfillRequest job publication identity inputs output run)
  | some existing =>
      if existing.commitKind = .stream then
        Prod.fst <$> recordDatasetCommit env.toDeployment live live
          (streamRequest job publication identity inputs output evidence.materializationMode)
      else .ok live

def publishDashboard (env : StreamEnv) (job : StreamJob) (publication : StreamPublication)
    (identity : PublicationIdentity) (inputs : PublicationInputs) (output : Option VerifiedOutput)
    (evidence : CatalogEvidence) (answers : StageAnswers) (store : KafkaStore) :
    Except Error Db := do
  answers.dashboard
  match output with
  | none =>
      Prod.fst <$> recordStreamProgress store.live evidence.datasetId
        (.list inputs.sourceRanges.documents)
  | some output =>
      let dataset ← orReject store.catalog
        (.value "Catalog dataset is missing after Continuous materialization.")
      let run ← orReject (existingRun dataset.materializationRuns identity.runId)
        (.value "Catalog materialization run is missing before Dashboard publication.")
      publishRevision env job publication identity inputs output evidence run store.live

/-! ## `execute_continuous_publication` -/

/-- What the stages before the first transaction find out. -/
structure Prepared where
  identity : PublicationIdentity
  inputs : PublicationInputs
  output : Option VerifiedOutput

/-- A stage that may raise. -/
def atStage {α : Type} (stage : PublicationStage) (code : String) (x : Except StageError α) :
    Except StageFailure α :=
  x.mapError (StageFailure.mk stage code)

/-- `_verify_output_stage` -/
def verifyOutputStage (job : StreamJob) (runtime : StreamRuntime) (publication : StreamPublication)
    (identity : PublicationIdentity) (inputs : PublicationInputs) (answers : StageAnswers) :
    Except StageFailure (Option VerifiedOutput) :=
  if publication.stored = 0 then pure none
  else do
    let output ← atStage .output "publication_output_unverified"
      (verifyPublicationOutput job runtime publication identity inputs answers)
    pure (some output)

/-- `_prepare_publication_context`, and the two stages that only verify. -/
def preparePublicationContext (env : StreamEnv) (job : StreamJob) (runtime : StreamRuntime)
    (publication : StreamPublication) (answers : StageAnswers) : Except StageFailure Prepared := do
  let identity ← atStage .output "publication_identity_invalid"
    ((buildPublicationIdentity job publication).mapError StageError.python)
  let inputs ← atStage .output "publication_input_invalid"
    ((preparePublication env job publication identity).mapError StageError.python)
  let output ← verifyOutputStage job runtime publication identity inputs answers
  atStage .manifest "publication_manifest_unavailable" (answers.manifest.mapError StageError.python)
  pure ⟨identity, inputs, output⟩

/-- The stores that the commits leave behind, and the failure of a call that returns `False`. -/
structure Executed where
  commits : List KafkaStore
  failure : Option StageFailure := none

def executeContinuousPublication (env : StreamEnv) (job : StreamJob) (runtime : StreamRuntime)
    (publication : StreamPublication) (answers : StageAnswers) (store : KafkaStore) : Executed :=
  match preparePublicationContext env job runtime publication answers with
  | .error failure => ⟨[], some failure⟩
  | .ok prepared =>
      match registerCatalog env job publication prepared.identity prepared.output answers
          store.catalog with
      | .error e => ⟨[], some ⟨.catalog, "catalog_publication_pending", .python e⟩⟩
      | .ok (catalog, evidence) =>
          let registered : KafkaStore := { store with catalog }
          match publishDashboard env job publication prepared.identity prepared.inputs
              prepared.output evidence answers registered with
          | .error e => ⟨[registered], some ⟨.dashboard, "dashboard_publication_pending", .python e⟩⟩
          | .ok live => ⟨[registered, { registered with live }], none⟩

end AskLake.KafkaPublication

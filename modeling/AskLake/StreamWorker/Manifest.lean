/-
# `AskLake.StreamWorker.Manifest` — the identity of a batch, and its two commits

A batch is known by its source boundary: what it read, for which job and, if the
job runs a Continuous SQL plan, under which plan.  Its rows are appended to the
Iceberg table with the run id of the boundary in a column, and then its manifest
is written.  When the batch is delivered again

    commitIcebergTable     asks the table for the run id, and appends only without it
    validateManifestRetry  asks a manifest for the boundary, and the table for the run id

and both ask through `icebergSourceBoundaryMarker`, which knows the boundaries it
can find by their kinds.
-/
import AskLake.StreamWorker.Batch

namespace AskLake.StreamWorker

open AskLake.Lib AskLake.Kafka AskLake.Python AskLake.ContinuousSql

/-! ## Boundaries -/

inductive BoundaryKind
  | kafkaSnapshot (snapshotId : String)
  | kafkaContinuousBatch
  | kafkaContinuousReplay
  | continuousSqlBatch
  deriving DecidableEq

def BoundaryKind.name : BoundaryKind → String
  | kafkaSnapshot _ => "kafka_snapshot"
  | kafkaContinuousBatch => "kafka_continuous_batch"
  | kafkaContinuousReplay => "kafka_continuous_replay"
  | continuousSqlBatch => "continuous_sql_batch"

structure StaticSnapshot where
  datasetId : String
  runtimeView : String
  schemaFingerprint : String
  snapshotId : String
  deriving DecidableEq

def StaticSnapshot.document (snapshot : StaticSnapshot) : Json :=
  .obj [("datasetId", .str snapshot.datasetId), ("runtimeView", .str snapshot.runtimeView),
    ("schemaFingerprint", .str snapshot.schemaFingerprint),
    ("snapshotId", .str snapshot.snapshotId)]

/-- The part of an identity that a plan adds. -/
structure PlanIdentity where
  fencingTokenHash : String
  planHash : String
  runGeneration : Int
  staticSnapshots : List StaticSnapshot
  deriving DecidableEq

structure SourceBoundary where
  batchId : Int
  checkpointPath : String
  consumerGroupId : String
  jobId : String
  kind : BoundaryKind
  sourceRanges : List KafkaRange
  topic : String
  plan : Option PlanIdentity
  boundaryId : String
  runId : String
  deriving DecidableEq

/-! ## The worker's configuration -/

/-- What the worker uses of a Continuous SQL plan. -/
structure ContinuousSqlPlan where
  planHash : String
  runGeneration : Int
  fencingToken : String
  /-- `prepare_batch_static_bindings`: they are bound when a batch is first
  prepared, and kept under its id -/
  staticBindings : Int → List StaticSnapshot

/-- What becomes of the records of a batch: schema, rules, quality, and the plan. -/
structure Processed (Out : Type) where
  stored : List Out
  quarantinedCount : Nat
  droppedCount : Nat

structure WorkerConfig (Row Out : Type) extends Runtime where
  jobId : String
  topic : String
  consumerGroupId : String
  checkpointPath : String
  plan : Option ContinuousSqlPlan
  ruleFingerprint : String
  runtimeFingerprint : String
  schemaFingerprint : String
  publishedBatchLimit : Nat
  publishedBatchLimit_pos : 0 < publishedBatchLimit
  process : List (Record Row) → Except Error (Processed Out)

section
variable {Row Out : Type}

/-! ## `prepare_batch_identity` -/

/-- `checkpoint_path.rstrip("/")` -/
def rstripSlash (path : String) : String :=
  String.ofList (path.toList.rdropWhile (· = '/'))

def planIdentity (config : WorkerConfig Row Out) (batchId : Int) : Option PlanIdentity :=
  config.plan.map fun plan =>
    { fencingTokenHash := config.sha256 plan.fencingToken
      planHash := plan.planHash
      runGeneration := plan.runGeneration
      staticSnapshots := plan.staticBindings batchId }

def boundaryKind (config : WorkerConfig Row Out) : BoundaryKind :=
  if config.plan.isSome then .continuousSqlBatch else .kafkaContinuousBatch

/-- The document that is hashed. -/
def identityDocument (config : WorkerConfig Row Out) (batchId : Int)
    (sourceRanges : List KafkaRange) : Json :=
  .obj <|
    [("batchId", .int batchId), ("checkpointPath", .str (rstripSlash config.checkpointPath)),
      ("consumerGroupId", .str config.consumerGroupId), ("jobId", .str config.jobId),
      ("kind", .str (boundaryKind config).name),
      ("sourceRanges", .arr (sourceRanges.map KafkaRange.document)),
      ("topic", .str config.topic)] ++
    match planIdentity config batchId with
    | none => []
    | some plan =>
        [("fencingTokenHash", .str plan.fencingTokenHash), ("planHash", .str plan.planHash),
          ("runGeneration", .int plan.runGeneration),
          ("staticSnapshots", .arr (plan.staticSnapshots.map StaticSnapshot.document))]

/-- `boundary_id[:16]` -/
def shortId (boundaryId : String) : String := String.ofList (boundaryId.toList.take 16)

def runIdPrefix (config : WorkerConfig Row Out) : String :=
  match config.plan with
  | some plan =>
      "continuous-sql:" ++ config.jobId ++ ":generation:" ++ Int.repr plan.runGeneration ++ ":batch:"
  | none => "continuous:" ++ config.jobId ++ ":batch:"

def runIdOf (config : WorkerConfig Row Out) (batchId : Int) (boundaryId : String) : String :=
  runIdPrefix config ++ Int.repr batchId ++ ":" ++ shortId boundaryId

def prepareBatchIdentity (config : WorkerConfig Row Out) (batchId : Int)
    (sourceRanges : List KafkaRange) : SourceBoundary :=
  let boundaryId := config.sha256 (Json.dumpsSorted false
    (identityDocument config batchId sourceRanges))
  { batchId
    checkpointPath := rstripSlash config.checkpointPath
    consumerGroupId := config.consumerGroupId
    jobId := config.jobId
    kind := boundaryKind config
    sourceRanges
    topic := config.topic
    plan := planIdentity config batchId
    boundaryId
    runId := runIdOf config batchId boundaryId }

/-- The id of a batch is read off its run id. -/
theorem batchId_of_runId {config : WorkerConfig Row Out} {batchId batchId' : Int}
    {boundaryId boundaryId' : String}
    (h : runIdOf config batchId boundaryId = runIdOf config batchId' boundaryId') :
    batchId = batchId' := by
  have hchars := congrArg String.toList h
  simp only [runIdOf, String.toList_append, List.append_assoc, List.append_cancel_left_eq] at hchars
  refine (Json.reads_int ?_ ?_ hchars).1
  · show stopsAt Json.isIntChar (':' :: _)
    exact rfl
  · show stopsAt Json.isIntChar (':' :: _)
    exact rfl

/-! ## The Iceberg table -/

/-- The rows of the target with their `_asklake_run_id`; `none` before it is
created. -/
abbrev IcebergTable (Out : Type) := Option (List (Out × String))

/-- `iceberg_source_boundary_marker`: the value to look for in the run id column,
`""` where the boundary has none. -/
def icebergSourceBoundaryMarker (boundary : SourceBoundary) : String :=
  match boundary.kind with
  | .kafkaContinuousBatch | .kafkaContinuousReplay => strip boundary.runId
  | .kafkaSnapshot _ | .continuousSqlBatch => ""

/-- `iceberg_source_boundary_exists`.  The rows of the worker have no snapshot id
column, which is what a `kafka_snapshot` is looked for in. -/
def icebergSourceBoundaryExists (table : IcebergTable Out) (boundary : SourceBoundary) : Bool :=
  let marker := icebergSourceBoundaryMarker boundary
  marker ≠ "" && (table.getD []).any fun row => row.2 = marker

inductive CommitOperation
  | create
  | append
  | reuse
  deriving DecidableEq, Repr

structure IcebergCommit where
  operation : CommitOperation
  runId : String
  sourceBoundary : SourceBoundary
  deriving DecidableEq

/-- `commit_iceberg_table`, for an append target: the table after it, and its
result. -/
def commitIcebergTable (table : IcebergTable Out) (rows : List Out) (boundary : SourceBoundary) :
    IcebergTable Out × IcebergCommit :=
  let tagged := rows.map fun row => (row, boundary.runId)
  match table with
  | none => (some tagged, ⟨.create, boundary.runId, boundary⟩)
  | some existing =>
      if icebergSourceBoundaryExists table boundary then
        (table, ⟨.reuse, boundary.runId, boundary⟩)
      else (some (existing ++ tagged), ⟨.append, boundary.runId, boundary⟩)

/-! ## Manifests -/

structure BatchManifest where
  batchId : Int
  runId : String
  sourceRanges : List KafkaRange
  sourceBoundary : SourceBoundary
  consumedCount : Nat
  storedCount : Nat
  quarantinedCount : Nat
  droppedCount : Nat
  ruleFingerprint : String
  runtimeFingerprint : String
  schemaFingerprint : String
  icebergCommit : Option IcebergCommit
  deriving DecidableEq

/-- `published_manifest` -/
def publishedManifest (config : WorkerConfig Row Out) (boundary : SourceBoundary) (total : Nat)
    (processed : Processed Out) (commit : Option IcebergCommit) : BatchManifest where
  batchId := boundary.batchId
  runId := boundary.runId
  sourceRanges := boundary.sourceRanges
  sourceBoundary := boundary
  consumedCount := total
  storedCount := processed.stored.length
  quarantinedCount := processed.quarantinedCount
  droppedCount := processed.droppedCount
  ruleFingerprint := config.ruleFingerprint
  runtimeFingerprint := config.runtimeFingerprint
  schemaFingerprint := config.schemaFingerprint
  icebergCommit := commit

/-- Two fingerprints that are both there, and differ. -/
def fingerprintDiffers (persisted current : String) : Bool :=
  persisted ≠ "" && persisted ≠ current

def validateManifestRetry (config : WorkerConfig Row Out) (table : IcebergTable Out)
    (manifest : BatchManifest) (sourceRanges : List KafkaRange) (total : Nat)
    (boundary : SourceBoundary) : Except Error Unit := do
  let persisted := normalizedSourceRanges manifest.sourceRanges
  rejectIf (manifest.consumedCount ≠ total ∨ (persisted ≠ [] ∧ persisted ≠ sourceRanges) ∨
      fingerprintDiffers manifest.ruleFingerprint config.ruleFingerprint ∨
      fingerprintDiffers manifest.runtimeFingerprint config.runtimeFingerprint ∨
      fingerprintDiffers manifest.schemaFingerprint config.schemaFingerprint)
    (.runtime "Existing batch manifest does not match the current Kafka offset range; checkpoint reuse is unsafe.")
  rejectIf (manifest.sourceBoundary ≠ boundary ∨
      manifest.icebergCommit.map IcebergCommit.sourceBoundary ≠ some boundary)
    (.runtime "Existing batch manifest does not match the current Iceberg source boundary.")
  rejectIf (manifest.runId ≠ boundary.runId)
    (.runtime "Existing batch manifest has a different deterministic Continuous run identity.")
  rejectIf (¬ icebergSourceBoundaryExists table boundary)
    (.runtime "Existing batch manifest references an Iceberg source boundary that is not committed.")

/-- An accepted manifest has the ranges of the batch, if it has any. -/
theorem ranges_of_validateManifestRetry {config : WorkerConfig Row Out} {table : IcebergTable Out}
    {manifest : BatchManifest} {sourceRanges : List KafkaRange} {total : Nat}
    {boundary : SourceBoundary}
    (h : validateManifestRetry config table manifest sourceRanges total boundary = .ok ()) :
    manifest.sourceBoundary = boundary ∧
      (normalizedSourceRanges manifest.sourceRanges = [] ∨
        normalizedSourceRanges manifest.sourceRanges = sourceRanges) := by
  obtain ⟨_, hfirst, h⟩ := bind_eq_ok.mp h
  obtain ⟨_, hsecond, -⟩ := bind_eq_ok.mp h
  have hranges := rejectIf_eq_ok.mp hfirst
  have hboundary := rejectIf_eq_ok.mp hsecond
  push Not at hranges hboundary
  refine ⟨hboundary.1, ?_⟩
  by_cases hnil : normalizedSourceRanges manifest.sourceRanges = []
  · exact Or.inl hnil
  · exact Or.inr (hranges.2.1 hnil)

end

end AskLake.StreamWorker

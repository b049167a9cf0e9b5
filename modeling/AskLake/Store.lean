/-
# `AskLake.Store` — the tables the publication repositories share

One PostgreSQL database.  Tables that are only reached through their primary key
are `Table`s; the revision commits, the recovery operations and the event log
are lists in insertion order, and `insertCommit` and `insertOperation` enforce
their unique keys.

The timestamp columns are left out: no check reads them.
-/
import AskLake.Lib.Table
import AskLake.Kafka.SourceRanges
import AskLake.Realtime.Requests

namespace AskLake

open AskLake.Lib AskLake.Python AskLake.Kafka AskLake.Realtime

/-! ## Rows -/

/-- The JSON columns that hold a source boundary. -/
inductive BoundaryDocument
  | kafka (boundary : SourceBoundary)
  | ingest (boundary : IngestBoundary)
  deriving DecidableEq

instance : Coe SourceBoundary BoundaryDocument := ⟨.kafka⟩

/-- `dataset_freshness` -/
structure Freshness where
  latestRevision : Nat := 0
  latestRunId : Option String := none
  nextCheckAfterMs : Int := 1000
  bindingEpoch : Nat := 0
  activeServingEngine : Option String := none
  activeServingVersionId : Option String := none
  activeArchiveSnapshotId : Option String := none
  latestSourceBoundary : Option BoundaryDocument := none
  latestChecksum : Option String := none
  latestMutationType : Option MutationType := none
  deriving DecidableEq

inductive CommitKind
  | stream
  | replay
  | backfill
  | legacy
  | realtime
  | cutover
  | rollback
  deriving DecidableEq, Repr

def CommitKind.name : CommitKind → String
  | stream => "stream"
  | replay => "replay"
  | backfill => "backfill"
  | legacy => "legacy"
  | realtime => "realtime"
  | cutover => "cutover"
  | rollback => "rollback"

/-- The JSON column `source_ranges`, as its three writers fill it. -/
inductive StoredRanges
  | kafka (ranges : KafkaRanges)
  | boundary (partitions : List PartitionBoundary)
  | ingest (partitions : List IngestPartition)
  deriving DecidableEq

/-- A boundary document has no `startOffset` and no `endOffset`, an ingestion's no `topic`. -/
def StoredRanges.items : StoredRanges → List RangeItem
  | kafka ranges => ranges.documents
  | boundary partitions =>
      partitions.map fun b => .object ⟨b.topic, some b.partition, none, none⟩
  | ingest partitions =>
      partitions.map fun b => .object ⟨"", some b.partition, some b.startOffset, some b.endOffset⟩

/-- `dataset_revision_commits` -/
structure RevisionCommit where
  datasetId : String
  revision : Nat
  runId : String
  storageLocation : String
  storageFormat : String := "parquet"
  materializationMode : String := "delta"
  commitKind : CommitKind := .legacy
  rowCount : Nat := 0
  sourceRanges : StoredRanges := .kafka .empty
  sourceFingerprint : Option String := none
  manifestLocation : Option String := none
  snapshotId : Option String := none
  materializationId : Option String := none
  sourceBoundary : Option BoundaryDocument := none
  servingEngine : Option String := none
  servingVersionId : Option String := none
  bindingEpoch : Nat := 0
  dimensionVersionIds : StrDict := .empty
  mutationType : MutationType := .append
  deriving DecidableEq

structure CursorKey where
  datasetId : String
  topic : String
  partition : Int
  deriving DecidableEq

/-- `dataset_kafka_partition_cursors`, of the one commit kind it is used for -/
structure StreamCursor where
  nextOffset : Int
  updatedRevision : Nat
  deriving DecidableEq

structure CheckpointKey where
  pipelineVersionId : String
  topic : String
  partition : Int
  deriving DecidableEq

/-- `realtime_partition_checkpoints` -/
structure Checkpoint where
  lastObservedOffset : Int := -1
  lastContiguouslyReceivedOffset : Int := -1
  lastAppliedOffset : Int := -1
  leaseGeneration : Nat := 0
  deriving DecidableEq

inductive MaterializationStatus
  | reserved
  | running
  | materialized
  | published
  | failed
  | reconciling
  deriving DecidableEq, Repr

/-- `realtime_materializations` -/
structure Materialization where
  pipelineVersionId : String
  sourceFingerprint : String
  dimensionVersionIds : StrDict := .empty
  leaseGeneration : Nat
  targetRowCount : Option Nat := none
  targetChecksum : Option String := none
  status : MaterializationStatus := .reserved
  publishedRevision : Option Nat := none
  sourceBoundary : SourceBoundary := ⟨[]⟩
  clickhouseQueryId : String := ""
  retryCount : Nat := 0
  lastErrorCode : Option String := none
  deriving DecidableEq

/-- An evidence document, with the two fields that a switch reads first. -/
structure EvidenceDocument where
  checksum : String
  rowCount : Int
  role : String := "hot"
  datasetId : String := ""
  pipelineVersionId : String := ""
  bindingVersionId : String := ""
  sourceBoundary : SourceBoundary := ⟨[]⟩
  dimensionVersionIds : StrDict := .empty
  distinctSourcePositionCount : Nat := 0
  schemaFingerprint : String := ""
  nullCount : Nat := 0
  errorCount : Nat := 0
  numericSums : StrDict := .empty
  sampleHash : String := ""
  deriving DecidableEq

inductive ParityStatus
  | matched
  | mismatch
  deriving DecidableEq, Repr

/-- `realtime_parity_checks` -/
structure ParityCheck where
  datasetId : String
  pipelineVersionId : String
  hotBindingVersionId : String
  archiveBindingVersionId : String
  sourceBoundary : SourceBoundary
  dimensionVersionIds : StrDict := .empty
  hotEvidence : EvidenceDocument
  archiveEvidence : EvidenceDocument
  status : ParityStatus
  mismatchFields : List String := []
  deriving DecidableEq

/-- One entry of the catalog payload's `physicalBindings`: a JSON document, whose
fields are `none` when they are missing. -/
structure PhysicalBinding where
  role : Option String := none
  engine : Option String := none
  status : Option String := none
  bindingEpoch : Option Nat := none
  versionId : Option String := none
  pipelineVersionId : Option String := none
  materializationId : Option String := none
  sourceBoundary : Option SourceBoundary := none
  checksum : Option String := none
  rowCount : Option Nat := none
  dimensionVersionIds : Option StrDict := none
  database : Option String := none
  table : Option String := none
  catalog : Option String := none
  schema : Option String := none
  snapshotId : Option String := none
  deriving DecidableEq

structure ClickhouseTable where
  database : Option String
  table : Option String
  deriving DecidableEq

structure QueryEngineTable where
  catalog : Option String
  schema : Option String
  table : Option String
  deriving DecidableEq

/-- The part of the catalog payload that the serving bindings live in.  An entry
of the list is `none` where it is no object; the list is `none` where the value
is missing or no list. -/
structure CatalogPayload where
  physicalBindings : Option (List (Option PhysicalBinding)) := none
  clickhouseTable : Option ClickhouseTable := none
  queryEngineTable : Option QueryEngineTable := none
  bindingEpoch : Nat := 0
  activeServingVersionId : Option String := none
  icebergSnapshotId : Option String := none
  status : Option String := none
  deriving DecidableEq

/-- `catalog_datasets` -/
structure CatalogDataset where
  status : Option String := some "available"
  payload : Option CatalogPayload := none
  deriving DecidableEq

inductive OperationKind
  | rebuild
  | cutover
  | rollback
  deriving DecidableEq, Repr

inductive OperationStatus
  | planned
  | running
  | ready
  | completed
  | failed
  deriving DecidableEq, Repr

/-- `realtime_recovery_operations` -/
structure RecoveryOperation where
  id : String
  idempotencyKey : String
  datasetId : String
  operationKind : OperationKind
  status : OperationStatus
  parityCheckId : String
  expectedBindingEpoch : Nat
  previousBindingVersionId : Option String := none
  targetBindingVersionId : String
  targetEngine : ServingEngine
  pipelineVersionId : String
  targetBinding : PhysicalBinding
  sourceBoundary : SourceBoundary
  dimensionVersionIds : StrDict
  gateEvidence : Option CutoverGateEvidence := none
  attemptCount : Nat := 0
  resultBindingEpoch : Option Nat := none
  resultRevision : Option Nat := none
  resultEventCursor : Option Nat := none
  requestedBy : String
  reason : String
  correlationId : String
  lastErrorCode : Option String := none
  deriving DecidableEq

/-- `realtime_routing_assignments`, of resource type `dataset` -/
structure RoutingAssignment where
  desiredEngine : ServingEngine
  pipelineVersionId : Option String
  bindingEpoch : Nat := 0
  status : String := "pending"
  assignmentReason : String
  assignedBy : String
  deriving DecidableEq

/-- `realtime_event_log` -/
structure Event where
  id : Nat
  eventType : String
  schemaVersion : Nat
  resourceType : String
  resourceId : String
  aggregateRevision : Int
  correlationId : String
  idempotencyKey : String
  invalidations : List String
  payload : Json

structure Db where
  freshness : Table String Freshness := fun _ => none
  commits : List RevisionCommit := []
  cursors : Table CursorKey StreamCursor := fun _ => none
  catalog : Table String CatalogDataset := fun _ => none
  checkpoints : Table CheckpointKey Checkpoint := fun _ => none
  materializations : Table String Materialization := fun _ => none
  parityChecks : Table String ParityCheck := fun _ => none
  operations : List RecoveryOperation := []
  assignments : Table String RoutingAssignment := fun _ => none
  events : List Event := []
  eventSequence : Nat := 0

/-! ## Unique keys -/

/-- The four unique keys of `dataset_revision_commits`, against one stored row. -/
structure Apart (stored commit : RevisionCommit) : Prop where
  revision : ¬ (stored.datasetId = commit.datasetId ∧ stored.revision = commit.revision)
  runId : stored.runId ≠ commit.runId
  fingerprint : ¬ (stored.datasetId = commit.datasetId ∧ stored.commitKind = commit.commitKind ∧
    commit.sourceFingerprint.isSome ∧ stored.sourceFingerprint = commit.sourceFingerprint)
  materialization : ¬ (commit.materializationId.isSome ∧
    stored.materializationId = commit.materializationId)

instance (stored commit : RevisionCommit) : Decidable (Apart stored commit) :=
  decidable_of_iff
    ((¬ (stored.datasetId = commit.datasetId ∧ stored.revision = commit.revision)) ∧
      stored.runId ≠ commit.runId ∧
      (¬ (stored.datasetId = commit.datasetId ∧ stored.commitKind = commit.commitKind ∧
        commit.sourceFingerprint.isSome ∧
        stored.sourceFingerprint = commit.sourceFingerprint)) ∧
      ¬ (commit.materializationId.isSome ∧ stored.materializationId = commit.materializationId))
    ⟨fun ⟨h₁, h₂, h₃, h₄⟩ => ⟨h₁, h₂, h₃, h₄⟩,
      fun h => ⟨h.revision, h.runId, h.fingerprint, h.materialization⟩⟩

/-- `INSERT INTO dataset_revision_commits` -/
def insertCommit (commits : List RevisionCommit) (commit : RevisionCommit) :
    Except Error (List RevisionCommit) := do
  rejectIf (¬ ∀ stored ∈ commits, Apart stored commit) (.integrity "dataset_revision_commits")
  pure (commits ++ [commit])

theorem insertCommit_eq_ok {commits commits' : List RevisionCommit} {commit : RevisionCommit} :
    insertCommit commits commit = .ok commits' ↔
      (∀ stored ∈ commits, Apart stored commit) ∧ commits' = commits ++ [commit] := by
  rw [insertCommit, bind_eq_ok]
  constructor
  · rintro ⟨_, hreject, hpure⟩
    exact ⟨not_not.mp (rejectIf_eq_ok.mp hreject), (pure_eq_ok.mp hpure).symm⟩
  · rintro ⟨hapart, rfl⟩
    exact ⟨(), rejectIf_eq_ok.mpr (not_not.mpr hapart), rfl⟩

/-- `INSERT INTO realtime_recovery_operations` -/
def insertOperation (operations : List RecoveryOperation) (operation : RecoveryOperation) :
    Except Error (List RecoveryOperation) := do
  rejectIf (∃ stored ∈ operations, stored.id = operation.id)
    (.integrity "pk_realtime_recovery_operations")
  rejectIf (∃ stored ∈ operations, stored.idempotencyKey = operation.idempotencyKey)
    (.integrity "realtime_recovery_operations_idempotency_uq")
  pure (operations ++ [operation])

theorem insertOperation_eq_ok {operations operations' : List RecoveryOperation}
    {operation : RecoveryOperation} :
    insertOperation operations operation = .ok operations' ↔
      (∀ stored ∈ operations, stored.id ≠ operation.id ∧
        stored.idempotencyKey ≠ operation.idempotencyKey) ∧
      operations' = operations ++ [operation] := by
  rw [insertOperation, bind_eq_ok]
  constructor
  · rintro ⟨_, hid, h⟩
    obtain ⟨_, hkey, h⟩ := bind_eq_ok.mp h
    have hid := rejectIf_eq_ok.mp hid
    have hkey := rejectIf_eq_ok.mp hkey
    refine ⟨fun stored hmem => ⟨fun heq => hid ⟨stored, hmem, heq⟩,
      fun heq => hkey ⟨stored, hmem, heq⟩⟩, (pure_eq_ok.mp h).symm⟩
  · rintro ⟨hapart, rfl⟩
    refine ⟨(), rejectIf_eq_ok.mpr ?_, bind_eq_ok.mpr ⟨(), rejectIf_eq_ok.mpr ?_, rfl⟩⟩
    · rintro ⟨stored, hmem, heq⟩
      exact (hapart stored hmem).1 heq
    · rintro ⟨stored, hmem, heq⟩
      exact (hapart stored hmem).2 heq

end AskLake

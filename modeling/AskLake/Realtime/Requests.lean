/-
# `AskLake.Realtime.Requests` — publications and binding switches

The two requests the realtime repositories serve.  Each record holds, as
fields, what its `__post_init__` rejects otherwise; counters that are checked to
be nonnegative are natural numbers.
-/
import AskLake.Realtime.SourceBoundary

namespace AskLake.Realtime

open AskLake.Lib AskLake.Python

inductive MutationType
  | append
  | upsert
  | replace
  | retract
  deriving DecidableEq, Repr

def MutationType.name : MutationType → String
  | append => "append"
  | upsert => "upsert"
  | replace => "replace"
  | retract => "retract"

structure RealtimePublication where
  datasetId : String
  pipelineVersionId : String
  servingVersionId : String
  materializationId : String
  sourceFingerprint : String
  boundary : SourceBoundary
  dimensionVersionIds : StrDict
  leaseGeneration : Nat
  bindingEpoch : Nat
  physicalDatabase : String
  physicalTable : String
  rowCount : Nat
  checksum : String
  mutationType : MutationType
  correlationId : String
  identified : ∀ item ∈ [datasetId, pipelineVersionId, servingVersionId, materializationId,
    sourceFingerprint, checksum, correlationId], blank item = false
  fingerprinted : sourceFingerprint.length = 64
  deriving DecidableEq

/-- `f"realtime-publication:{materialization_id}"` -/
def RealtimePublication.idempotencyKey (p : RealtimePublication) : String :=
  "realtime-publication:" ++ p.materializationId

/-- `f"rt:{materialization_id}"` -/
def RealtimePublication.runId (p : RealtimePublication) : String :=
  "rt:" ++ p.materializationId

structure PublicationResult where
  datasetId : String
  revision : Nat
  eventCursor : Nat
  created : Bool
  deriving DecidableEq, Repr

/-! ## Switching the serving binding -/

inductive SwitchAction
  | cutover
  | rollback
  deriving DecidableEq, Repr

inductive ServingEngine
  | clickhouse
  | trino
  deriving DecidableEq, Repr

def ServingEngine.name : ServingEngine → String
  | clickhouse => "clickhouse"
  | trino => "trino"

/-- The role a binding of this engine is given. -/
def ServingEngine.role : ServingEngine → String
  | clickhouse => "serving"
  | trino => "archive"

structure CutoverGateEvidence where
  deterministicFixtureRows : Int
  lostSourcePositions : Int
  logicalDuplicateCount : Int
  shadowObservationHours : Int
  shadowParityPassed : Bool
  p95SloPassed : Bool
  restartChaosPassed : Bool
  securityPassed : Bool
  rollbackDrillPassed : Bool
  operationsDashboardReady : Bool
  runbookReady : Bool
  deriving DecidableEq

namespace CutoverGateEvidence

def failedGates (gate : CutoverGateEvidence) : List String :=
  let checks : List (String × Bool) :=
    [("deterministicFixture", decide (100000 ≤ gate.deterministicFixtureRows)),
      ("sourcePositionLoss", decide (gate.lostSourcePositions = 0)),
      ("logicalDuplicates", decide (gate.logicalDuplicateCount = 0)),
      ("shadow72Hours", decide (72 ≤ gate.shadowObservationHours)),
      ("shadowParity", gate.shadowParityPassed),
      ("p95Slo", gate.p95SloPassed),
      ("restartChaos", gate.restartChaosPassed),
      ("security", gate.securityPassed),
      ("rollbackDrill", gate.rollbackDrillPassed),
      ("operationsDashboard", gate.operationsDashboardReady),
      ("runbook", gate.runbookReady)]
  (checks.filter fun check => !check.2).map Prod.fst

def approved (gate : CutoverGateEvidence) : Bool := gate.failedGates.isEmpty

end CutoverGateEvidence

/-- `not value`, of an optional string. -/
def absent (value : Option String) : Bool := value.getD "" == ""

structure PhysicalBindingTarget where
  engine : ServingEngine
  versionId : String
  pipelineVersionId : String
  materializationId : String
  boundary : SourceBoundary
  dimensionVersionIds : StrDict
  checksum : String
  rowCount : Nat
  database : Option String := none
  table : Option String := none
  catalog : Option String := none
  schema : Option String := none
  archiveSnapshotId : Option String := none
  identified : ∀ item ∈ [versionId, pipelineVersionId, materializationId, checksum],
    blank item = false
  located : match engine with
    | .clickhouse => absent database = false ∧ absent table = false
    | .trino => absent catalog = false ∧ absent schema = false ∧ absent table = false
  dimensioned : ∀ item ∈ dimensionVersionIds.entries, blank item.1 = false ∧ blank item.2 = false
  deriving DecidableEq

def PhysicalBindingTarget.storageLocation (target : PhysicalBindingTarget) : String :=
  match target.engine with
  | .clickhouse => "clickhouse://" ++ target.database.getD "" ++ "/" ++ target.table.getD ""
  | .trino =>
      "trino://" ++ target.catalog.getD "" ++ "/" ++ target.schema.getD "" ++ "/" ++
        target.table.getD ""

structure BindingSwitchRequest where
  idempotencyKey : String
  action : SwitchAction
  datasetId : String
  expectedBindingEpoch : Nat
  expectedBindingVersionId : String
  target : PhysicalBindingTarget
  parityReportId : String
  requestedBy : String
  reason : String
  correlationId : String
  gate : Option CutoverGateEvidence := none
  identified : ∀ item ∈ [idempotencyKey, datasetId, expectedBindingVersionId, parityReportId,
    requestedBy, correlationId], blank item = false
  bounded : idempotencyKey.length ≤ 256
  audited : 10 ≤ (strip reason).length ∧ reason.length ≤ 2000
  gated : action = .cutover → ∃ g ∈ gate, g.approved = true
  deriving DecidableEq

namespace BindingSwitchRequest

/-- The text an operation id is the digest of. -/
def operationMaterial (request : BindingSwitchRequest) : String :=
  "binding-switch|" ++ request.idempotencyKey

def operationId (rt : Runtime) (request : BindingSwitchRequest) : String :=
  "rtswitch_" ++ rt.sha256 request.operationMaterial

/-- `f"recovery:{operation_id}"`, both the run and the materialization of the
switch's own revision. -/
def recoveryId (rt : Runtime) (request : BindingSwitchRequest) : String :=
  "recovery:" ++ request.operationId rt

end BindingSwitchRequest

structure BindingSwitchResult where
  operationId : String
  datasetId : String
  bindingEpoch : Nat
  revision : Nat
  eventCursor : Nat
  created : Bool
  deriving DecidableEq, Repr

end AskLake.Realtime

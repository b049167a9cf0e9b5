/-
# `AskLake.Realtime.Recovery` — switching the serving binding

`switchBinding` moves a dataset between its ClickHouse serving table and its
Trino archive, in either direction.  Like a publication it looks for its own
earlier operation before and after it locks the freshness row.  Then

    approval     epoch and version of the freshness row, active catalog pointer
    parity       a matched parity check that covers the target
    mutation     operation, catalog binding, commit, freshness, assignment
    event        appended last; its cursor goes back into the operation

`Switched` is the statement about an applied switch the rest uses.
-/
import AskLake.Catalog
import AskLake.Events.Log

namespace AskLake.Realtime

open AskLake.Lib AskLake.Python AskLake.Events

/-! ## A switch that was made before -/

def SwitchAction.operationKind : SwitchAction → OperationKind
  | cutover => .cutover
  | rollback => .rollback

def SwitchAction.commitKind : SwitchAction → CommitKind
  | cutover => .cutover
  | rollback => .rollback

/-- `_operation_by_idempotency` -/
def operationByIdempotency (db : Db) (key : String) : Option RecoveryOperation :=
  db.operations.find? fun operation => operation.idempotencyKey = key

/-- `_existing_switch_result` -/
def existingSwitchResult (rt : Runtime) (operation : RecoveryOperation)
    (request : BindingSwitchRequest) : Except Error BindingSwitchResult := do
  rejectIf
    (operation.id ≠ request.operationId rt ∨
      operation.operationKind ≠ request.action.operationKind ∨
      operation.datasetId ≠ request.datasetId ∨
      operation.targetBindingVersionId ≠ request.target.versionId ∨
      operation.parityCheckId ≠ request.parityReportId ∨
      operation.status ≠ .completed)
    (.value "binding switch idempotency key was reused with different evidence")
  match operation.resultBindingEpoch, operation.resultRevision, operation.resultEventCursor with
  | some epoch, some revision, some cursor =>
      pure ⟨operation.id, operation.datasetId, epoch, revision, cursor, false⟩
  | _, _, _ =>
      .error (.value "binding switch idempotency key was reused with different evidence")

/-! ## The checks of a new switch -/

/-- The approval against the locked freshness row. -/
def checkApproval (freshness : Freshness) (request : BindingSwitchRequest) : Except Error Unit :=
  rejectIf
    (freshness.bindingEpoch ≠ request.expectedBindingEpoch ∨
      freshness.activeServingVersionId ≠ some request.expectedBindingVersionId)
    (.value "Dataset serving binding changed after switch approval")

/-- The approval against the locked catalog row. -/
def checkPointer (freshness : Freshness) (catalog : CatalogDataset)
    (request : BindingSwitchRequest) : Except Error Unit := do
  let current ← orReject
    (activeBinding catalog.bindings (freshness.activeServingEngine.getD ""))
    (.value "Catalog active serving pointer changed after switch approval")
  rejectIf (current.versionId ≠ some request.expectedBindingVersionId)
    (.value "Catalog active serving pointer changed after switch approval")

/-- `_matched_parity` -/
def matchedParity (db : Db) (reportId : String) : Except Error ParityCheck := do
  let parity ← orReject (db.parityChecks reportId)
    (.value "operation requires persisted matched parity evidence")
  rejectIf (parity.status ≠ .matched ∨ parity.mismatchFields ≠ [])
    (.value "operation requires persisted matched parity evidence")
  pure parity

/-- The evidence that covers the target, hot side first. -/
def targetEvidence (parity : ParityCheck) (versionId : String) : Option EvidenceDocument :=
  if versionId = parity.hotBindingVersionId then some parity.hotEvidence
  else if versionId = parity.archiveBindingVersionId then some parity.archiveEvidence
  else none

/-- `_validate_switch_parity` -/
def validateSwitchParity (parity : ParityCheck) (request : BindingSwitchRequest) :
    Except Error Unit := do
  let evidence ← orReject (targetEvidence parity request.target.versionId)
    (.value "switch target is not covered by matched parity evidence")
  rejectIf
    (parity.datasetId ≠ request.datasetId ∨
      parity.pipelineVersionId ≠ request.target.pipelineVersionId ∨
      parity.sourceBoundary ≠ request.target.boundary ∨
      parity.dimensionVersionIds ≠ request.target.dimensionVersionIds ∨
      evidence.checksum ≠ request.target.checksum ∨
      evidence.rowCount ≠ request.target.rowCount)
    (.value "switch target does not match persisted parity evidence")

/-! ## The rows a switch writes -/

/-- `PhysicalBindingTarget.document` -/
def targetBinding (target : PhysicalBindingTarget) (bindingEpoch : Nat) : PhysicalBinding :=
  let document : PhysicalBinding :=
    { role := some target.engine.role
      engine := some target.engine.name
      status := some "active"
      bindingEpoch := some bindingEpoch
      versionId := some target.versionId
      pipelineVersionId := some target.pipelineVersionId
      materializationId := some target.materializationId
      sourceBoundary := some target.boundary
      checksum := some target.checksum
      rowCount := some target.rowCount
      dimensionVersionIds := some target.dimensionVersionIds }
  match target.engine with
  | .clickhouse => { document with database := target.database, table := target.table }
  | .trino =>
      { document with
        catalog := target.catalog, schema := target.schema, table := target.table
        snapshotId := target.archiveSnapshotId }

/-- The catalog row after `_replace_catalog_binding`. -/
def switchCatalog (model : CatalogDataset) (request : BindingSwitchRequest) (epoch : Nat) :
    CatalogDataset :=
  let target := request.target
  let bindings := rebind ["serving", target.engine.role] (targetBinding target epoch) model.bindings
  let payload : CatalogPayload :=
    { datasetModelToPayload model with physicalBindings := some (bindings.map some) }
  { model with
    payload := some (match target.engine with
      | .clickhouse => { payload with clickhouseTable := some ⟨target.database, target.table⟩ }
      | .trino =>
          { payload with queryEngineTable := some ⟨target.catalog, target.schema, target.table⟩ }) }

def switchOperation (rt : Runtime) (request : BindingSwitchRequest) (epoch revision : Nat) :
    RecoveryOperation where
  id := request.operationId rt
  idempotencyKey := request.idempotencyKey
  datasetId := request.datasetId
  operationKind := request.action.operationKind
  status := .completed
  parityCheckId := request.parityReportId
  expectedBindingEpoch := request.expectedBindingEpoch
  previousBindingVersionId := some request.expectedBindingVersionId
  targetBindingVersionId := request.target.versionId
  targetEngine := request.target.engine
  pipelineVersionId := request.target.pipelineVersionId
  targetBinding := targetBinding request.target epoch
  sourceBoundary := request.target.boundary
  dimensionVersionIds := request.target.dimensionVersionIds
  gateEvidence := request.gate
  attemptCount := 1
  resultBindingEpoch := some epoch
  resultRevision := some revision
  requestedBy := request.requestedBy
  reason := request.reason
  correlationId := request.correlationId

def switchCommit (rt : Runtime) (request : BindingSwitchRequest) (epoch revision : Nat)
    (fingerprint : String) : RevisionCommit where
  datasetId := request.datasetId
  revision := revision
  runId := request.recoveryId rt
  storageLocation := request.target.storageLocation
  storageFormat := request.target.engine.name
  materializationMode := "snapshot"
  commitKind := request.action.commitKind
  rowCount := request.target.rowCount
  sourceRanges := .boundary request.target.boundary.partitions
  sourceFingerprint := some fingerprint
  materializationId := some (request.recoveryId rt)
  sourceBoundary := some request.target.boundary
  servingEngine := some request.target.engine.name
  servingVersionId := some request.target.versionId
  bindingEpoch := epoch
  dimensionVersionIds := request.target.dimensionVersionIds
  mutationType := .replace

def switchFreshness (rt : Runtime) (freshness : Freshness) (request : BindingSwitchRequest)
    (epoch : Nat) : Freshness :=
  { freshness with
    latestRevision := freshness.latestRevision + 1
    latestRunId := some (request.recoveryId rt)
    bindingEpoch := epoch
    activeServingEngine := some request.target.engine.name
    activeServingVersionId := some request.target.versionId
    activeArchiveSnapshotId :=
      match request.target.engine with
      | .trino => request.target.archiveSnapshotId
      | .clickhouse => freshness.activeArchiveSnapshotId
    latestSourceBoundary := some request.target.boundary
    latestChecksum := some request.target.checksum
    latestMutationType := some .replace }

/-- `_upsert_assignment`: both branches assign the same columns. -/
def switchAssignment (request : BindingSwitchRequest) (epoch : Nat) : RoutingAssignment where
  desiredEngine := request.target.engine
  pipelineVersionId := some request.target.pipelineVersionId
  bindingEpoch := epoch
  status := "active"
  assignmentReason := String.ofList (request.reason.toList.take 255)
  assignedBy := request.requestedBy

def switchEvent (rt : Runtime) (request : BindingSwitchRequest) (epoch revision : Nat) :
    EventDraft where
  eventType := "dataset.revision.committed"
  resourceType := "dataset"
  resourceId := request.datasetId
  aggregateRevision := revision
  correlationId := request.correlationId
  idempotencyKey := "binding-switch:" ++ request.operationId rt
  invalidations := ["dataset:" ++ request.datasetId]
  payload :=
    [("bindingEpoch", .int epoch),
      ("materializationId", .str request.target.materializationId),
      ("mutationType", .str "replace"),
      ("sourceBoundary", request.target.boundary.document),
      ("servingVersionId", .str request.target.versionId),
      ("pipelineVersionId", .str request.target.pipelineVersionId)]
  schemaVersion := 2

/-- `operation.result_event_cursor = …`, by primary key. -/
def recordEventCursor (operations : List RecoveryOperation) (id : String) (cursor : Nat) :
    List RecoveryOperation :=
  updateWhere (fun operation => operation.id = id)
    (fun operation => { operation with resultEventCursor := some cursor }) operations

/-! ## The transaction -/

/-- `_stage_switch_mutation`, flushed. -/
def stageSwitchMutation (rt : Runtime) (db : Db) (freshness : Freshness) (catalog : CatalogDataset)
    (request : BindingSwitchRequest) : Except Error Db := do
  let epoch := request.expectedBindingEpoch + 1
  let revision := freshness.latestRevision + 1
  let fingerprint ← request.target.boundary.fingerprint rt request.target.pipelineVersionId
  let operations ← insertOperation db.operations (switchOperation rt request epoch revision)
  let commits ← insertCommit db.commits (switchCommit rt request epoch revision fingerprint)
  pure
    { db with
      freshness := db.freshness.put request.datasetId (switchFreshness rt freshness request epoch)
      catalog := db.catalog.put request.datasetId (switchCatalog catalog request epoch)
      operations := operations
      commits := commits
      assignments := db.assignments.put request.datasetId (switchAssignment request epoch) }

/-- The checks a new switch makes before it writes anything. -/
def checkSwitch (db : Db) (freshness : Freshness) (request : BindingSwitchRequest) :
    Except Error CatalogDataset := do
  checkApproval freshness request
  let catalog ← orReject (db.catalog request.datasetId)
    (.value "Catalog Dataset is missing for binding switch")
  checkPointer freshness catalog request
  let parity ← matchedParity db request.parityReportId
  validateSwitchParity parity request
  pure catalog

/-- The part of the transaction after the second look for an existing operation. -/
def switchNew (env : Deployment) (db : Db) (request : BindingSwitchRequest)
    (freshness : Freshness) : Except Error (Db × BindingSwitchResult) := do
  let catalog ← checkSwitch db freshness request
  let staged ← stageSwitchMutation env.toRuntime db freshness catalog request
  let epoch := request.expectedBindingEpoch + 1
  let revision := freshness.latestRevision + 1
  let (db', cursor, created) ← append env staged (switchEvent env.toRuntime request epoch revision)
  rejectIf (created = false)
    (.runtime "new binding switch collided with an existing event identity")
  let operationId := request.operationId env.toRuntime
  pure ({ db' with operations := recordEventCursor db'.operations operationId cursor },
    ⟨operationId, request.datasetId, epoch, revision, cursor, true⟩)

/-- The part of the transaction that holds the freshness lock. -/
def switchLocked (env : Deployment) (db : Db) (request : BindingSwitchRequest) :
    Except Error (Db × BindingSwitchResult) := do
  let freshness ← orReject (db.freshness request.datasetId)
    (.value "Dataset serving binding is not initialized")
  match operationByIdempotency db request.idempotencyKey with
  | some existing =>
      let result ← existingSwitchResult env.toRuntime existing request
      pure (db, result)
  | none => switchNew env db request freshness

/-- `RealtimeRecoveryRepository.switch_binding`: `snapshot` is the store its
first, unlocked look reads. -/
def switchBinding (env : Deployment) (snapshot db : Db) (request : BindingSwitchRequest) :
    Except Error (Db × BindingSwitchResult) :=
  match operationByIdempotency snapshot request.idempotencyKey with
  | some existing => do
      let result ← existingSwitchResult env.toRuntime existing request
      pure (db, result)
  | none => switchLocked env db request

/-! ## What an applied switch has done -/

structure Switched (env : Deployment) (db : Db) (request : BindingSwitchRequest)
    (freshness : Freshness) (db' : Db) (result : BindingSwitchResult) : Prop where
  locked : db.freshness request.datasetId = some freshness
  fresh : operationByIdempotency db request.idempotencyKey = none
  approval : checkApproval freshness request = .ok ()
  catalog : ∃ model, db.catalog request.datasetId = some model ∧
    checkPointer freshness model request = .ok () ∧
    db'.catalog = db.catalog.put request.datasetId
      (switchCatalog model request (request.expectedBindingEpoch + 1))
  parity : ∃ parity, matchedParity db request.parityReportId = .ok parity ∧
    validateSwitchParity parity request = .ok ()
  operations : ∃ operations,
    insertOperation db.operations (switchOperation env.toRuntime request
      (request.expectedBindingEpoch + 1) (freshness.latestRevision + 1)) = .ok operations ∧
    db'.operations = recordEventCursor operations (request.operationId env.toRuntime)
      (db.eventSequence + 1)
  commit : ∃ fingerprint,
    request.target.boundary.fingerprint env.toRuntime request.target.pipelineVersionId
      = .ok fingerprint ∧
    (∀ stored ∈ db.commits, Apart stored (switchCommit env.toRuntime request
      (request.expectedBindingEpoch + 1) (freshness.latestRevision + 1) fingerprint)) ∧
    db'.commits = db.commits ++ [switchCommit env.toRuntime request
      (request.expectedBindingEpoch + 1) (freshness.latestRevision + 1) fingerprint]
  freshness_eq : db'.freshness = db.freshness.put request.datasetId
    (switchFreshness env.toRuntime freshness request (request.expectedBindingEpoch + 1))
  contract : checkDraft env (switchEvent env.toRuntime request (request.expectedBindingEpoch + 1)
    (freshness.latestRevision + 1)) = .ok ()
  events_eq : db'.events = db.events ++
    [(switchEvent env.toRuntime request (request.expectedBindingEpoch + 1)
      (freshness.latestRevision + 1)).row (db.eventSequence + 1)]
  eventSequence_eq : db'.eventSequence = db.eventSequence + 1
  elsewhere : db'.cursors = db.cursors ∧ db'.checkpoints = db.checkpoints ∧
    db'.materializations = db.materializations ∧ db'.parityChecks = db.parityChecks
  result_eq : result = ⟨request.operationId env.toRuntime, request.datasetId,
    request.expectedBindingEpoch + 1, freshness.latestRevision + 1, db.eventSequence + 1, true⟩

section
variable {env : Deployment} {snapshot db db' : Db} {request : BindingSwitchRequest}
  {result : BindingSwitchResult} {freshness : Freshness}

theorem existingSwitchResult_created {rt : Runtime} {operation : RecoveryOperation}
    (h : existingSwitchResult rt operation request = .ok result) : result.created = false := by
  obtain ⟨_, -, h⟩ := bind_eq_ok.mp h
  split at h
  · cases pure_eq_ok.mp h
    rfl
  · exact nomatch h

theorem switchNew_eq_ok (hlocked : db.freshness request.datasetId = some freshness)
    (hfresh : operationByIdempotency db request.idempotencyKey = none)
    (h : switchNew env db request freshness = .ok (db', result)) :
    Switched env db request freshness db' result := by
  obtain ⟨model, hcheck, h⟩ := bind_eq_ok.mp h
  obtain ⟨staged, hstage, h⟩ := bind_eq_ok.mp h
  obtain ⟨⟨db'', cursor, created⟩, happend, h⟩ := bind_eq_ok.mp h
  obtain ⟨_, hcreated, h⟩ := bind_eq_ok.mp h
  have hpair := pure_eq_ok.mp h
  simp only [Prod.mk.injEq] at hpair
  obtain ⟨rfl, rfl⟩ := hpair
  have htrue : created = true := by simpa using rejectIf_eq_ok.mp hcreated
  subst htrue
  obtain ⟨hcontract, -, rfl, rfl⟩ := append_created happend
  -- the checks
  obtain ⟨_, happroval, hcheck⟩ := bind_eq_ok.mp hcheck
  obtain ⟨model', hmodel, hcheck⟩ := bind_eq_ok.mp hcheck
  obtain ⟨_, hpointer, hcheck⟩ := bind_eq_ok.mp hcheck
  obtain ⟨parity, hparity, hcheck⟩ := bind_eq_ok.mp hcheck
  obtain ⟨_, hvalid, hcheck⟩ := bind_eq_ok.mp hcheck
  cases pure_eq_ok.mp hcheck
  -- the staged rows
  obtain ⟨fingerprint, hfingerprint, hstage⟩ := bind_eq_ok.mp hstage
  obtain ⟨operations, hoperations, hstage⟩ := bind_eq_ok.mp hstage
  obtain ⟨commits, hcommits, hstage⟩ := bind_eq_ok.mp hstage
  cases pure_eq_ok.mp hstage
  obtain ⟨hapart, rfl⟩ := insertCommit_eq_ok.mp hcommits
  exact
    { locked := hlocked
      fresh := hfresh
      approval := happroval
      catalog := ⟨model, orReject_eq_ok.mp hmodel, hpointer, rfl⟩
      parity := ⟨parity, hparity, hvalid⟩
      operations := ⟨operations, hoperations, rfl⟩
      commit := ⟨fingerprint, hfingerprint, hapart, rfl⟩
      freshness_eq := rfl
      contract := hcontract
      events_eq := rfl
      eventSequence_eq := rfl
      elsewhere := ⟨rfl, rfl, rfl, rfl⟩
      result_eq := rfl }

/-- A transaction that returns has either found its earlier self, and written
nothing, or switched the binding. -/
theorem switchBinding_cases (h : switchBinding env snapshot db request = .ok (db', result)) :
    (result.created = false ∧ db' = db) ∨
      ∃ freshness, Switched env db request freshness db' result := by
  unfold switchBinding at h
  split at h
  · obtain ⟨found, hfound, h⟩ := bind_eq_ok.mp h
    have hpair := pure_eq_ok.mp h
    simp only [Prod.mk.injEq] at hpair
    obtain ⟨rfl, rfl⟩ := hpair
    exact Or.inl ⟨existingSwitchResult_created hfound, rfl⟩
  · obtain ⟨freshness, hlocked, h⟩ := bind_eq_ok.mp h
    split at h
    · obtain ⟨found, hfound, h⟩ := bind_eq_ok.mp h
      have hpair := pure_eq_ok.mp h
      simp only [Prod.mk.injEq] at hpair
      obtain ⟨rfl, rfl⟩ := hpair
      exact Or.inl ⟨existingSwitchResult_created hfound, rfl⟩
    · rename_i hfresh
      exact Or.inr ⟨freshness, switchNew_eq_ok (orReject_eq_ok.mp hlocked) hfresh h⟩

theorem Switched.created (h : Switched env db request freshness db' result) :
    result.created = true := by
  rw [h.result_eq]

/-- The epoch a switch was approved for is the one it replaces. -/
theorem Switched.approved (h : Switched env db request freshness db' result) :
    freshness.bindingEpoch = request.expectedBindingEpoch ∧
      freshness.activeServingVersionId = some request.expectedBindingVersionId := by
  have happroval := rejectIf_eq_ok.mp h.approval
  simp only [not_or, not_not] at happroval
  exact happroval

end

end AskLake.Realtime

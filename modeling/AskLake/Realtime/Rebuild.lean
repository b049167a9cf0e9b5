/-
# `AskLake.Realtime.Rebuild` — parity reports, and rebuilds of a hot table from its archive

A report compares the evidence of the hot table with that of the archive and is stored once,
under the digest of both.  A rebuild is reserved against a matched report and then goes

    planned ⟶ running ⟶ ready
                ↕
              failed

where `ready` wants a matched report of its own: one whose hot side is the rebuilt table, over
the boundary and the versions that were fixed when the rebuild was reserved.
-/
import AskLake.Realtime.Recovery

namespace AskLake.Realtime

open AskLake.Lib AskLake.Python AskLake.Events

/-! ## Parity reports -/

inductive EvidenceRole
  | hot
  | archive
  deriving DecidableEq, Repr

def EvidenceRole.name : EvidenceRole → String
  | hot => "hot"
  | archive => "archive"

/-- The evidence of one side, as it is once it has been constructed: the sums are decimal texts
in their shortest form. -/
@[ext] structure ParityEvidence where
  role : EvidenceRole
  datasetId : String
  pipelineVersionId : String
  bindingVersionId : String
  boundary : SourceBoundary
  dimensionVersionIds : StrDict
  rowCount : Nat
  checksum : String
  distinctSourcePositionCount : Nat
  schemaFingerprint : String
  nullCount : Nat
  errorCount : Nat
  numericSums : StrDict
  sampleHash : String
  identified : ∀ item ∈ [datasetId, pipelineVersionId, bindingVersionId, checksum,
    schemaFingerprint, sampleHash], blank item = false
  dimensioned : ∀ item ∈ dimensionVersionIds.entries, blank item.1 = false ∧ blank item.2 = false
  summed : ∀ item ∈ numericSums.entries, blank item.1 = false

instance : DecidableEq ParityEvidence := fun a b =>
  decidable_of_iff
    (a.role = b.role ∧ a.datasetId = b.datasetId ∧
      a.pipelineVersionId = b.pipelineVersionId ∧
      a.bindingVersionId = b.bindingVersionId ∧ a.boundary = b.boundary ∧
      a.dimensionVersionIds = b.dimensionVersionIds ∧ a.rowCount = b.rowCount ∧
      a.checksum = b.checksum ∧
      a.distinctSourcePositionCount = b.distinctSourcePositionCount ∧
      a.schemaFingerprint = b.schemaFingerprint ∧ a.nullCount = b.nullCount ∧
      a.errorCount = b.errorCount ∧ a.numericSums = b.numericSums ∧
      a.sampleHash = b.sampleHash)
    ParityEvidence.ext_iff.symm

def ParityEvidence.document (evidence : ParityEvidence) : EvidenceDocument where
  checksum := evidence.checksum
  rowCount := evidence.rowCount
  role := evidence.role.name
  datasetId := evidence.datasetId
  pipelineVersionId := evidence.pipelineVersionId
  bindingVersionId := evidence.bindingVersionId
  sourceBoundary := evidence.boundary
  dimensionVersionIds := evidence.dimensionVersionIds
  distinctSourcePositionCount := evidence.distinctSourcePositionCount
  schemaFingerprint := evidence.schemaFingerprint
  nullCount := evidence.nullCount
  errorCount := evidence.errorCount
  numericSums := evidence.numericSums
  sampleHash := evidence.sampleHash

def strDictJson (dict : StrDict) : Json := .obj (dict.entries.map fun item => (item.1, .str item.2))

/-- The document as it is encoded. -/
def evidenceJson (document : EvidenceDocument) : Json :=
  .obj [("role", .str document.role), ("datasetId", .str document.datasetId),
    ("pipelineVersionId", .str document.pipelineVersionId),
    ("bindingVersionId", .str document.bindingVersionId),
    ("sourceBoundary", document.sourceBoundary.document),
    ("dimensionVersionIds", strDictJson document.dimensionVersionIds),
    ("rowCount", .int document.rowCount), ("checksum", .str document.checksum),
    ("distinctSourcePositionCount", .int document.distinctSourcePositionCount),
    ("schemaFingerprint", .str document.schemaFingerprint),
    ("nullCount", .int document.nullCount), ("errorCount", .int document.errorCount),
    ("numericSums", strDictJson document.numericSums), ("sampleHash", .str document.sampleHash)]

structure ArchiveParityReport where
  reportId : String
  hot : ParityEvidence
  archive : ParityEvidence
  mismatchFields : List String
  deriving DecidableEq

namespace ArchiveParityReport

/-- The names of the fields that are compared, and whether the two sides agree on each. -/
def comparisons (hot archive : ParityEvidence) : List (String × Bool) :=
  [("datasetId", hot.datasetId == archive.datasetId),
    ("pipelineVersionId", hot.pipelineVersionId == archive.pipelineVersionId),
    ("sourceBoundary", decide (hot.boundary = archive.boundary)),
    ("dimensionVersionIds", decide (hot.dimensionVersionIds = archive.dimensionVersionIds)),
    ("rowCount", hot.rowCount == archive.rowCount),
    ("checksum", hot.checksum == archive.checksum),
    ("distinctSourcePositionCount",
      hot.distinctSourcePositionCount == archive.distinctSourcePositionCount),
    ("schemaFingerprint", hot.schemaFingerprint == archive.schemaFingerprint),
    ("nullCount", hot.nullCount == archive.nullCount),
    ("errorCount", hot.errorCount == archive.errorCount),
    ("numericSums", decide (hot.numericSums = archive.numericSums)),
    ("sampleHash", hot.sampleHash == archive.sampleHash)]

def compare (rt : Runtime) (hot archive : ParityEvidence) : Except Error ArchiveParityReport := do
  rejectIf (hot.role ≠ .hot ∨ archive.role ≠ .archive)
    (.value "parity comparison requires hot and archive evidence")
  let encoded := Json.dumpsSorted true
    (.obj [("hot", evidenceJson hot.document), ("archive", evidenceJson archive.document)])
  pure ⟨"rtpar_" ++ rt.sha256 encoded, hot, archive,
    ((comparisons hot archive).filter fun field => !field.2).map Prod.fst⟩

def matched (report : ArchiveParityReport) : Bool := report.mismatchFields.isEmpty

def status (report : ArchiveParityReport) : ParityStatus :=
  if report.matched then .matched else .mismatch

/-- The row a report is stored as. -/
def record (report : ArchiveParityReport) : ParityCheck where
  datasetId := report.hot.datasetId
  pipelineVersionId := report.hot.pipelineVersionId
  hotBindingVersionId := report.hot.bindingVersionId
  archiveBindingVersionId := report.archive.bindingVersionId
  sourceBoundary := report.hot.boundary
  dimensionVersionIds := report.hot.dimensionVersionIds
  hotEvidence := report.hot.document
  archiveEvidence := report.archive.document
  status := report.status
  mismatchFields := report.mismatchFields

end ArchiveParityReport

/-- `_validate_parity_record` -/
def validateParityRecord (model : ParityCheck) (report : ArchiveParityReport) : Except Error Unit :=
  rejectIf
    (model.hotEvidence ≠ report.hot.document ∨
      model.archiveEvidence ≠ report.archive.document ∨
      model.status ≠ report.status ∨ model.mismatchFields ≠ report.mismatchFields)
    (.value "parity report id was reused with different evidence")

/-- `record_parity`: `snapshot` is the store its lookup reads. -/
def recordParity (snapshot db : Db) (report : ArchiveParityReport) :
    Except Error (Db × ParityCheck × Bool) :=
  match snapshot.parityChecks report.reportId with
  | some existing => do
      validateParityRecord existing report
      pure (db, existing, false)
  | none => do
      rejectIf ((db.parityChecks report.reportId).isSome)
        (.integrity "pk_realtime_parity_checks")
      pure ({ db with parityChecks := db.parityChecks.put report.reportId report.record },
        report.record, true)

/-! ## Reserving a rebuild -/

structure RebuildPlan where
  operationId : String
  idempotencyKey : String
  datasetId : String
  pipelineVersionId : String
  shadowBindingVersionId : String
  physicalDatabase : String
  physicalTable : String
  parityReportId : String
  boundary : SourceBoundary
  dimensionVersionIds : StrDict
  deriving DecidableEq

/-- `RebuildPlan.build` -/
def RebuildPlan.build (rt : Runtime) (report : ArchiveParityReport)
    (shadowBindingVersionId physicalDatabase physicalTable : String) :
    Except Error RebuildPlan := do
  rejectIf (report.matched = false)
    (.value "rebuild requires matched hot/archive parity evidence")
  rejectIf (∃ value ∈ [shadowBindingVersionId, physicalDatabase, physicalTable], blank value)
    (.value "rebuild shadow target is incomplete")
  let digest := rt.sha256 ("|".intercalate
    [report.reportId, shadowBindingVersionId, physicalDatabase, physicalTable])
  pure
    { operationId := "rtrebuild_" ++ digest
      idempotencyKey := "rebuild:" ++ digest
      datasetId := report.archive.datasetId
      pipelineVersionId := report.archive.pipelineVersionId
      shadowBindingVersionId := shadowBindingVersionId
      physicalDatabase := physicalDatabase
      physicalTable := physicalTable
      parityReportId := report.reportId
      boundary := report.archive.boundary
      dimensionVersionIds := report.archive.dimensionVersionIds }

/-- The audit fields of `reserve_rebuild`. -/
structure RebuildAudit where
  expectedBindingEpoch : Int
  requestedBy : String
  reason : String
  correlationId : String
  deriving DecidableEq

/-- `_validate_audit` -/
def validateAudit (audit : RebuildAudit) : Except Error Unit := do
  rejectIf (audit.expectedBindingEpoch < 0 ∨ blank audit.requestedBy ∨ blank audit.correlationId)
    (.value "recovery audit identity is invalid")
  rejectIf ((strip audit.reason).length < 10 ∨ 2000 < audit.reason.length)
    (.value "recovery requires an audited reason")

/-- `_validate_rebuild_operation` -/
def validateRebuildOperation (operation : RecoveryOperation) (plan : RebuildPlan) :
    Except Error Unit :=
  rejectIf
    (operation.operationKind ≠ .rebuild ∨ operation.id ≠ plan.operationId ∨
      operation.datasetId ≠ plan.datasetId ∨ operation.parityCheckId ≠ plan.parityReportId ∨
      operation.targetBindingVersionId ≠ plan.shadowBindingVersionId ∨
      operation.sourceBoundary ≠ plan.boundary)
    (.value "rebuild idempotency key was reused with different evidence")

/-- The row a plan is reserved as. -/
def rebuildOperation (plan : RebuildPlan) (audit : RebuildAudit) : RecoveryOperation where
  id := plan.operationId
  idempotencyKey := plan.idempotencyKey
  datasetId := plan.datasetId
  operationKind := .rebuild
  status := .planned
  parityCheckId := plan.parityReportId
  expectedBindingEpoch := audit.expectedBindingEpoch.toNat
  targetBindingVersionId := plan.shadowBindingVersionId
  targetEngine := .clickhouse
  pipelineVersionId := plan.pipelineVersionId
  targetBinding :=
    { role := some "serving"
      engine := some "clickhouse"
      status := some "shadow"
      bindingEpoch := some audit.expectedBindingEpoch.toNat
      versionId := some plan.shadowBindingVersionId
      pipelineVersionId := some plan.pipelineVersionId
      database := some plan.physicalDatabase
      table := some plan.physicalTable
      sourceBoundary := some plan.boundary
      dimensionVersionIds := some plan.dimensionVersionIds }
  sourceBoundary := plan.boundary
  dimensionVersionIds := plan.dimensionVersionIds
  requestedBy := audit.requestedBy
  reason := audit.reason
  correlationId := audit.correlationId

/-- `reserve_rebuild` -/
def reserveRebuild (snapshot db : Db) (plan : RebuildPlan) (audit : RebuildAudit) :
    Except Error (Db × RecoveryOperation × Bool) := do
  validateAudit audit
  match operationByIdempotency snapshot plan.idempotencyKey with
  | some existing =>
      validateRebuildOperation existing plan
      pure (db, existing, false)
  | none =>
      let parity ← matchedParity db plan.parityReportId
      rejectIf
        (parity.datasetId ≠ plan.datasetId ∨ parity.pipelineVersionId ≠ plan.pipelineVersionId ∨
          parity.sourceBoundary ≠ plan.boundary ∨
          parity.dimensionVersionIds ≠ plan.dimensionVersionIds)
        (.value "rebuild plan does not match persisted parity evidence")
      let operations ← insertOperation db.operations (rebuildOperation plan audit)
      pure ({ db with operations := operations }, rebuildOperation plan audit, true)

/-! ## Marking a rebuild -/

structure RebuildCompletionEvidence where
  parityReportId : String
  gapCount : Nat
  overlapCount : Nat
  identified : blank parityReportId = false
  complete : gapCount = 0 ∧ overlapCount = 0
  deriving DecidableEq

/-- `_locked_operation` -/
def lockedOperation (db : Db) (operationId : String) : Except Error RecoveryOperation :=
  orReject (db.operations.find? fun operation => operation.id = operationId)
    (.value "recovery operation does not exist")

/-- What is written to a locked operation, by primary key. -/
def updateOperation (db : Db) (operationId : String) (f : RecoveryOperation → RecoveryOperation) :
    Db :=
  { db with operations := updateWhere (fun operation => operation.id = operationId) f db.operations }

/-- `mark_rebuild_running` -/
def markRebuildRunning (db : Db) (operationId : String) : Except Error (Db × Bool) := do
  let operation ← lockedOperation db operationId
  rejectIf (operation.operationKind ≠ .rebuild) (.value "recovery operation is not a rebuild")
  if operation.status ∈ [.running, .ready, .completed] then
    pure (db, false)
  else do
    rejectIf (operation.status ∉ [.planned, .failed])
      (.value "rebuild cannot start from its current state")
    pure (updateOperation db operationId fun operation =>
      { operation with
        status := .running, attemptCount := operation.attemptCount + 1, lastErrorCode := none },
      true)

/-- `mark_rebuild_ready` -/
def markRebuildReady (db : Db) (operationId : String) (evidence : RebuildCompletionEvidence) :
    Except Error (Db × Bool) := do
  let operation ← lockedOperation db operationId
  rejectIf (operation.operationKind ≠ .rebuild) (.value "recovery operation is not a rebuild")
  if operation.status = .ready ∧ operation.parityCheckId = evidence.parityReportId then
    pure (db, false)
  else do
    rejectIf (operation.status ≠ .running) (.value "only a running rebuild can become ready")
    let parity ← matchedParity db evidence.parityReportId
    rejectIf
      (parity.datasetId ≠ operation.datasetId ∨
        parity.pipelineVersionId ≠ operation.pipelineVersionId ∨
        parity.hotBindingVersionId ≠ operation.targetBindingVersionId ∨
        parity.sourceBoundary ≠ operation.sourceBoundary ∨
        parity.dimensionVersionIds ≠ operation.dimensionVersionIds)
      (.value "rebuilt shadow does not match its fixed boundary and versions")
    pure (updateOperation db operationId fun operation =>
      { operation with parityCheckId := evidence.parityReportId, status := .ready }, true)

/-- `mark_rebuild_failed` -/
def markRebuildFailed (db : Db) (operationId errorCode : String) : Except Error Db := do
  let operation ← lockedOperation db operationId
  rejectIf (operation.operationKind ≠ .rebuild ∨ operation.status ≠ .running)
    (.value "only a running rebuild can fail")
  rejectIf (blank errorCode ∨ 120 < errorCode.length) (.value "rebuild error code is invalid")
  pure (updateOperation db operationId fun operation =>
    { operation with status := .failed, lastErrorCode := some errorCode })

/-! ## The calls, as one request each -/

inductive RecoveryCall
  | recordParity (report : ArchiveParityReport)
  | reserveRebuild (plan : RebuildPlan) (audit : RebuildAudit)
  | markRebuildRunning (operationId : String)
  | markRebuildReady (operationId : String) (evidence : RebuildCompletionEvidence)
  | markRebuildFailed (operationId errorCode : String)

/-- The store after a call, and whether it did something. -/
def runRecovery (snapshot db : Db) : RecoveryCall → Except Error (Db × Bool)
  | .recordParity report => do
      let (db', _, created) ← recordParity snapshot db report
      pure (db', created)
  | .reserveRebuild plan audit => do
      let (db', _, created) ← reserveRebuild snapshot db plan audit
      pure (db', created)
  | .markRebuildRunning operationId => markRebuildRunning db operationId
  | .markRebuildReady operationId evidence => markRebuildReady db operationId evidence
  | .markRebuildFailed operationId errorCode => do
      let db' ← markRebuildFailed db operationId errorCode
      pure (db', true)

/-- A stored report that proves the rebuilt table to be a copy of the archive. -/
structure Proves (parity : ParityCheck) (operation : RecoveryOperation) : Prop where
  status : parity.status = .matched
  mismatchFields : parity.mismatchFields = []
  datasetId : parity.datasetId = operation.datasetId
  pipelineVersionId : parity.pipelineVersionId = operation.pipelineVersionId
  hotBindingVersionId : parity.hotBindingVersionId = operation.targetBindingVersionId
  sourceBoundary : parity.sourceBoundary = operation.sourceBoundary
  dimensionVersionIds : parity.dimensionVersionIds = operation.dimensionVersionIds

/-- What a call may make of the operation it locks. -/
inductive RebuildMove (db : Db) : RecoveryCall → RecoveryOperation → RecoveryOperation → Prop
  | running {operation : RecoveryOperation} :
      operation.operationKind = .rebuild → operation.status ≠ .ready →
      RebuildMove db (.markRebuildRunning operation.id) operation
        { operation with
          status := .running, attemptCount := operation.attemptCount + 1, lastErrorCode := none }
  | ready {operation : RecoveryOperation} {evidence : RebuildCompletionEvidence}
      {parity : ParityCheck} :
      operation.operationKind = .rebuild → operation.status = .running →
      db.parityChecks evidence.parityReportId = some parity → Proves parity operation →
      RebuildMove db (.markRebuildReady operation.id evidence) operation
        { operation with parityCheckId := evidence.parityReportId, status := .ready }
  | failed {operation : RecoveryOperation} {errorCode : String} :
      operation.operationKind = .rebuild → operation.status = .running →
      RebuildMove db (.markRebuildFailed operation.id errorCode) operation
        { operation with status := .failed, lastErrorCode := some errorCode }

/-- What an accepted call has done: nothing, a report more, an operation more, or a move of the
operations with the id it locked. -/
inductive RecoveryStep (db : Db) : RecoveryCall → Bool → Db → Prop
  | nothing {call : RecoveryCall} : RecoveryStep db call false db
  | recorded {report : ArchiveParityReport} :
      db.parityChecks report.reportId = none →
      RecoveryStep db (.recordParity report) true
        { db with parityChecks := db.parityChecks.put report.reportId report.record }
  | reserved {plan : RebuildPlan} {audit : RebuildAudit} {operations : List RecoveryOperation} :
      insertOperation db.operations (rebuildOperation plan audit) = .ok operations →
      RecoveryStep db (.reserveRebuild plan audit) true { db with operations := operations }
  | moved {call : RecoveryCall} {operation : RecoveryOperation}
      {f : RecoveryOperation → RecoveryOperation} :
      db.operations.find? (fun stored => stored.id = operation.id) = some operation →
      RebuildMove db call operation (f operation) →
      RecoveryStep db call true (updateOperation db operation.id f)

section
variable {snapshot db db' : Db} {done : Bool}

theorem matchedParity_eq_ok {reportId : String} {parity : ParityCheck}
    (h : matchedParity db reportId = .ok parity) :
    db.parityChecks reportId = some parity ∧ parity.status = .matched ∧
      parity.mismatchFields = [] := by
  obtain ⟨found, hfound, h⟩ := bind_eq_ok.mp h
  obtain ⟨_, hmatched, h⟩ := bind_eq_ok.mp h
  cases pure_eq_ok.mp h
  have hok := rejectIf_eq_ok.mp hmatched
  rw [not_or, not_not, not_not] at hok
  exact ⟨orReject_eq_ok.mp hfound, hok⟩

theorem lockedOperation_eq_ok {operationId : String} {operation : RecoveryOperation}
    (h : lockedOperation db operationId = .ok operation) :
    operation.id = operationId ∧
      db.operations.find? (fun stored => stored.id = operation.id) = some operation := by
  have hfind := orReject_eq_ok.mp h
  have hid : operation.id = operationId := by simpa using List.find?_some hfind
  exact ⟨hid, hid ▸ hfind⟩

theorem recordParity_step {report : ArchiveParityReport} {model : ParityCheck}
    (h : recordParity snapshot db report = .ok (db', model, done)) :
    RecoveryStep db (.recordParity report) done db' := by
  unfold recordParity at h
  split at h
  · obtain ⟨_, -, h⟩ := bind_eq_ok.mp h
    cases pure_eq_ok.mp h
    exact .nothing
  · obtain ⟨_, hfree, h⟩ := bind_eq_ok.mp h
    cases pure_eq_ok.mp h
    refine .recorded ?_
    simpa using rejectIf_eq_ok.mp hfree

theorem reserveRebuild_step {plan : RebuildPlan} {audit : RebuildAudit}
    {operation : RecoveryOperation}
    (h : reserveRebuild snapshot db plan audit = .ok (db', operation, done)) :
    RecoveryStep db (.reserveRebuild plan audit) done db' := by
  obtain ⟨_, -, h⟩ := bind_eq_ok.mp h
  split at h
  · obtain ⟨_, -, h⟩ := bind_eq_ok.mp h
    cases pure_eq_ok.mp h
    exact .nothing
  · obtain ⟨parity, -, h⟩ := bind_eq_ok.mp h
    obtain ⟨_, -, h⟩ := bind_eq_ok.mp h
    obtain ⟨operations, hinsert, h⟩ := bind_eq_ok.mp h
    cases pure_eq_ok.mp h
    exact .reserved hinsert

theorem markRebuildRunning_step {operationId : String}
    (h : markRebuildRunning db operationId = .ok (db', done)) :
    RecoveryStep db (.markRebuildRunning operationId) done db' := by
  obtain ⟨operation, hlocked, h⟩ := bind_eq_ok.mp h
  obtain ⟨_, hkind, h⟩ := bind_eq_ok.mp h
  obtain ⟨rfl, hfind⟩ := lockedOperation_eq_ok hlocked
  split at h
  · cases pure_eq_ok.mp h
    exact .nothing
  · rename_i hstatus
    obtain ⟨_, -, h⟩ := bind_eq_ok.mp h
    cases pure_eq_ok.mp h
    refine .moved hfind (.running (not_not.mp (rejectIf_eq_ok.mp hkind)) ?_)
    intro hready
    exact hstatus (by rw [hready]; decide)

theorem markRebuildReady_step {operationId : String} {evidence : RebuildCompletionEvidence}
    (h : markRebuildReady db operationId evidence = .ok (db', done)) :
    RecoveryStep db (.markRebuildReady operationId evidence) done db' := by
  obtain ⟨operation, hlocked, h⟩ := bind_eq_ok.mp h
  obtain ⟨_, hkind, h⟩ := bind_eq_ok.mp h
  obtain ⟨rfl, hfind⟩ := lockedOperation_eq_ok hlocked
  split at h
  · cases pure_eq_ok.mp h
    exact .nothing
  · obtain ⟨_, hrunning, h⟩ := bind_eq_ok.mp h
    obtain ⟨parity, hparity, h⟩ := bind_eq_ok.mp h
    obtain ⟨_, hproves, h⟩ := bind_eq_ok.mp h
    cases pure_eq_ok.mp h
    obtain ⟨hstored, hmatched, hmismatch⟩ := matchedParity_eq_ok hparity
    have hsame := rejectIf_eq_ok.mp hproves
    simp only [not_or, not_not] at hsame
    obtain ⟨hdataset, hversion, hbinding, hboundary, hdimensions⟩ := hsame
    refine .moved hfind (.ready (not_not.mp (rejectIf_eq_ok.mp hkind))
      (not_not.mp (rejectIf_eq_ok.mp hrunning)) hstored ?_)
    exact ⟨hmatched, hmismatch, hdataset, hversion, hbinding, hboundary, hdimensions⟩

theorem markRebuildFailed_step {operationId errorCode : String}
    (h : markRebuildFailed db operationId errorCode = .ok db') :
    RecoveryStep db (.markRebuildFailed operationId errorCode) true db' := by
  obtain ⟨operation, hlocked, h⟩ := bind_eq_ok.mp h
  obtain ⟨_, hguard, h⟩ := bind_eq_ok.mp h
  obtain ⟨_, -, h⟩ := bind_eq_ok.mp h
  obtain ⟨rfl, hfind⟩ := lockedOperation_eq_ok hlocked
  cases pure_eq_ok.mp h
  have hok := rejectIf_eq_ok.mp hguard
  simp only [not_or, not_not] at hok
  exact .moved hfind (.failed hok.1 hok.2)

theorem runRecovery_step {call : RecoveryCall} (h : runRecovery snapshot db call = .ok (db', done)) :
    RecoveryStep db call done db' := by
  cases call with
  | recordParity report =>
      obtain ⟨⟨_, _, _⟩, hrun, h⟩ := bind_eq_ok.mp h
      cases pure_eq_ok.mp h
      exact recordParity_step hrun
  | reserveRebuild plan audit =>
      obtain ⟨⟨_, _, _⟩, hrun, h⟩ := bind_eq_ok.mp h
      cases pure_eq_ok.mp h
      exact reserveRebuild_step hrun
  | markRebuildRunning operationId => exact markRebuildRunning_step h
  | markRebuildReady operationId evidence => exact markRebuildReady_step h
  | markRebuildFailed operationId errorCode =>
      obtain ⟨_, hrun, h⟩ := bind_eq_ok.mp h
      cases pure_eq_ok.mp h
      exact markRebuildFailed_step hrun

end

end AskLake.Realtime

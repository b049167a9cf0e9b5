/-
# `AskLake.ContinuousRuntime.Reconciliation` — one pass over a runtime

`reconcileContinuousRuntime` asks the worker for its status, signals a pause or stop
that the API has only written down, and then goes one of two ways.  A Spark worker
reports: the pass decides from the evidence and does what was decided.  A Kafka
Connect worker does not: the pass takes the state of the connector for that of the
runtime.
-/
import AskLake.ContinuousRuntime.Report

namespace AskLake.ContinuousRuntime

open AskLake.Python

namespace ContinuousJob

/-! ## The deferred signal -/

/-- `_terminal_signal_identity` -/
def terminalSignalIdentity (s : ContinuousJob) (action : WorkerAction) : SignalIdentity where
  action
  stateRevision := s.contract.stateRevision
  workerAttemptId := s.fence

/-- `_terminal_signal_already_applied` -/
def terminalSignalAlreadyApplied (s : ContinuousJob) (identity : SignalIdentity) : Bool :=
  s.runtime.metrics.terminalSignal.any fun previous =>
    previous.toSignalIdentity = identity ∧ previous.containerState ∈ goneStates

/-- `_record_terminal_signal` -/
def recordTerminalSignal (s : ContinuousJob) (identity : SignalIdentity) (result : WorkerStatus) :
    ContinuousJob :=
  { s with
    runtime.metrics.terminalSignal := some
      { toSignalIdentity := identity
        containerState := result.container
        requestedAction := optionalString result.requestedAction } }

/-- `"pause" if runtime.status in {"pausing", "paused"} else "stop"` -/
def terminalAction (s : ContinuousJob) : WorkerAction :=
  if s.runtime.status ∈ [PublicStatus.pausing, .paused] then .pause else .stop

/-- A pause or stop is written down, and the worker may be there. -/
def shouldSignal (s : ContinuousJob) (container : String) : Bool :=
  s.runtime.status ∈ [PublicStatus.pausing, .paused, .stopping, .stopped] &&
    container ∈ presentStates && !s.terminalSignalAlreadyApplied
      (s.terminalSignalIdentity s.terminalAction)

/-- The signal itself: the status and container state that the pass goes on with,
or none when the signal has failed. -/
def signalWorker (worker : WorkerGateway) (s : ContinuousJob) (container : String) :
    Option (WorkerStatus × String) × ContinuousJob :=
  let action := s.terminalAction
  let identity := s.terminalSignalIdentity action
  let (result, s) := s.callWorker worker action s.fence
  match result with
  | .ok result =>
      let s := s.recordTerminalSignal identity result
      if result.container ∈ goneStates then (some (result, result.container), s)
      else
        let (status, s) := s.continuousWorkerStatus worker
        (some (status, status.containerState.getD container), s)
  | .error error =>
      let (recovered, s) := s.continuousWorkerStatus worker
      if recovered.container ∈ goneStates ∨
          (optionalString recovered.requestedAction).map Text.text = some action.name then
        (some (recovered, recovered.container), s.recordTerminalSignal identity recovered)
      else
        let contract := s.runtime.metrics.recordRuntimeError
          { stage := .submission
            code := "deferred_worker_" ++ action.name ++ "_failed"
            message := "Continuous worker could not apply the deferred " ++ action.name ++
              " command: " ++ error.message
            retryable := true
            context := { jobId := s.job.id, command := some action.name } }
        (none, (s.withContract contract).withLastError (some error.message))

/-- `_apply_deferred_terminal_signal` -/
def applyDeferredTerminalSignal (worker : WorkerGateway) (s : ContinuousJob)
    (status : WorkerStatus) : Option (WorkerStatus × String) × ContinuousJob :=
  if s.shouldSignal status.container = true then s.signalWorker worker status.container
  else (some (status, status.container), s)

/-! ## What is done of a decision -/

/-- `_runtime_evidence` -/
def runtimeEvidence (s : ContinuousJob) (document : ReportDocument) (status : WorkerStatus)
    (container : String) : RuntimeEvidence where
  desiredState := s.desiredState
  publicStatus := s.runtime.status
  containerState := container
  reportState := document.state
  reportStatus := optionalString document.payload.status
  expectedWorkerAttemptId := s.fence
  observedWorkerAttemptId := optionalString document.payload.workerAttemptId
  requestedAction := optionalString status.requestedAction
  publicationPending := s.runtime.metrics.publication.recoveryPending = some true
  contractInitialized := s.runtime.metrics.initialized
  outputPresent := document.payload.lastBatchWritten
  manifestPresent := document.payload.publishedBatches.map fun batches => !batches.isEmpty
  catalogApplied := s.runtime.metrics.publication.recoveryPending.map (!·)

/-- `metrics["lastReconciliation"]` -/
def recordReconciliation (s : ContinuousJob) (decision : Decision) (container : String)
    (document : ReportDocument) : ContinuousJob :=
  { s with
    runtime.metrics.lastReconciliation := some
      { action := decision.action
        certainty := decision.certainty
        reason := decision.reason
        containerState := container
        reportState := document.state } }

/-- Publications that are recovered from manifests, with the session and the
acknowledgement. -/
def recoverManifests (s : ContinuousJob) (input : PassInput) : ContinuousJob :=
  let (cursor, s) := s.materializeBatch input {} true
  (s.syncSession input {}).writeAck cursor

/-- `_apply_terminal_intent` -/
def applyTerminalIntent (s : ContinuousJob) (terminalStatus : PublicStatus) (input : PassInput) :
    ContinuousJob :=
  let observed := s.runtime.metrics.recordRuntimeObservation
    (observedStateFromEvidence terminalStatus) terminalStatus none
  let s := ((s.withStatus terminalStatus).withContract observed.clearRuntimeError).withLastError none
  let s :=
    if terminalStatus = .paused then s.withJob "paused" "Continuous worker 일시정지됨" none
    else s.withJob "stopped" "Continuous worker 중지됨 · checkpoint 보존" none
  s.recoverManifests input

def terminationPending : String :=
  "Continuous worker termination is pending because the authoritative " ++
    "runner state is unavailable."

/-- `_wait_for_terminal_confirmation` -/
def waitForTerminalConfirmation (s : ContinuousJob) (evidence : RuntimeEvidence)
    (container : String) (input : PassInput) : ContinuousJob :=
  let observed := observedStateFromEvidence s.runtime.status
  let status := derivePublicStatus evidence.desiredState observed
  let s := (s.withStatus status).withContract
    (s.runtime.metrics.recordRuntimeObservation observed status none)
  let s :=
    if container = "unknown" then
      (s.withContract (s.runtime.metrics.recordRuntimeError
        { stage := .reconciliation
          code := "terminal_worker_state_unknown"
          message := terminationPending
          retryable := true
          context :=
            { jobId := s.job.id
              desiredState := some evidence.desiredState
              expectedWorkerAttemptId := evidence.expectedWorkerAttemptId
              observedWorkerAttemptId := evidence.observedWorkerAttemptId } })).withLastError
                (some terminationPending)
    else s
  let s :=
    if evidence.desiredState = .paused then
      s.withJob "running" "Continuous worker 일시정지 완료 확인 중" (some ("일시정지 확인 중", 95))
    else s.withJob "running" "Continuous worker 중지 완료 확인 중" (some ("중지 확인 중", 95))
  s.syncSession input {}

/-- The error of a report of another attempt. -/
def ignoreStaleReport (s : ContinuousJob) (evidence : RuntimeEvidence) : ContinuousJob :=
  s.withContract (s.runtime.metrics.recordRuntimeError
    { stage := .reconciliation
      code := "stale_worker_observation"
      message := "Ignored a Continuous runtime report from a stale worker attempt."
      retryable := false
      context :=
        { jobId := s.job.id
          expectedWorkerAttemptId := evidence.expectedWorkerAttemptId
          observedWorkerAttemptId := evidence.observedWorkerAttemptId } })

/-- `_record_report_error` -/
def recordReportError (s : ContinuousJob) (document : ReportDocument) : ContinuousJob :=
  let invalid := document.state = .invalid
  s.withContract (s.runtime.metrics.recordRuntimeError
    { stage := .report
      code := if invalid then "runtime_report_invalid" else "runtime_report_unreadable"
      message :=
        if invalid then "Continuous runtime report is not valid JSON."
        else "Continuous runtime report could not be read: " ++
          document.error.getD "unknown read error"
      retryable := true
      context := { jobId := s.job.id, line := document.line, column := document.column } })

/-- `_restart_missing_worker` -/
def restartMissingWorker (worker : WorkerGateway) (s : ContinuousJob) : ContinuousJob :=
  let (result, s) := s.callWorker worker .start s.fence
  match result with
  | .error error =>
      s.markFailed ("Continuous worker recovery failed: " ++ error.message) none .submission
        "worker_recovery_failed"
  | .ok result =>
      let contract := (s.runtime.metrics.bindWorkerAttempt result.attempt).recordRuntimeObservation
        .starting .starting result.attempt
      (((s.withStatus .starting).withContract contract).withLastError none).withJob "running"
        "Continuous worker 자동 복구 요청" (some ("Continuous worker 자동 복구 중", 10))

/-- The worker is there, and has not reported. -/
def waitForReport (s : ContinuousJob) (evidence : RuntimeEvidence) (status : WorkerStatus) :
    ContinuousJob :=
  let observed := observedStateFromEvidence s.runtime.status
  let next := derivePublicStatus evidence.desiredState observed
  ((s.withStatus next).withContract (s.runtime.metrics.recordRuntimeObservation observed next
    (optionalString status.workerAttemptId))).withJob "running" "Continuous worker report 대기"
      (some ("Continuous worker 시작 확인 중", 10))

/-- `_recover_without_report` -/
def recoverWithoutReport (s : ContinuousJob) (container : String) (input : PassInput) :
    ContinuousJob :=
  if s.runtime.status ∈ [PublicStatus.paused, .stopped, .failed] ∨
      container ∈ ["exited", "missing"] ∨
        s.runtime.metrics.publication.recoveryPending = some true then
    s.recoverManifests input
  else s

/-- What is done of a decision. -/
def act (worker : WorkerGateway) (s : ContinuousJob) (input : PassInput) (status : WorkerStatus)
    (container : String) (evidence : RuntimeEvidence) (decision : Decision) : ContinuousJob :=
  match decision.action with
  | .applyTerminalIntent => s.applyTerminalIntent (decision.terminalStatus.getD .stopped) input
  | .waitForTerminalConfirmation => s.waitForTerminalConfirmation evidence container input
  | .ignoreStaleReport => s.ignoreStaleReport evidence
  | .recordReportError => s.recordReportError input.document
  | .restartWorker => s.restartMissingWorker worker
  | .waitForReport => s.waitForReport evidence status
  | .recoverPublication => s.recoverWithoutReport container input
  | .applyReport =>
      s.applyContinuousRuntimeReport worker input input.document.payload status
        decision.terminalStatus evidence.contractInitialized

/-- The pass over a Spark worker. -/
def reconcileSpark (worker : WorkerGateway) (s : ContinuousJob) (input : PassInput)
    (status : WorkerStatus) (container : String) : ContinuousJob :=
  let evidence := s.runtimeEvidence input.document status container
  let decision := decideReconciliation evidence
  (s.recordReconciliation decision container input.document).act worker input status container
    evidence decision

/-! ## Kafka Connect -/

/-- `_apply_clickhouse_kafka_ingest_v2_terminal` -/
def applyIngestTerminal (s : ContinuousJob) (terminalStatus : PublicStatus) (input : PassInput) :
    ContinuousJob :=
  let observed := s.runtime.metrics.clearRuntimeError.recordRuntimeObservation
    (observedStateFromEvidence terminalStatus) terminalStatus none
  let s := ((s.withStatus terminalStatus).withContract observed).withLastError none
  let s :=
    if terminalStatus = .paused then
      s.withJob "paused" "Kafka Connect → ClickHouse V2 수집 일시정지됨" none
    else s.withJob "stopped" "Kafka Connect → ClickHouse V2 수집 중지됨" none
  s.syncSession input {}

/-- The state of the connector could not be had. -/
def ingestStatusFailed (s : ContinuousJob) (message : Text) (input : PassInput) : ContinuousJob :=
  let failedCount :=
    if s.runtime.status = .failed then s.runtime.failedCount else s.runtime.failedCount + 1
  let s := (s.withStatus .failed).withContract (s.runtime.metrics.recordRuntimeError
    { stage := .execution
      code := "kafka_connect_clickhouse_v2_status_failed"
      message := message.text
      retryable := true
      context := { jobId := s.job.id } })
  let s := ({ s.withLastError (some message.text) with runtime.failedCount := failedCount }).withJob
    "failed" "Kafka Connect → ClickHouse V2 수집 상태 확인 실패" none
  s.syncSession input {}

/-- The connector is there: its state is the runtime's. -/
def ingestActive (s : ContinuousJob) (status : WorkerStatus) (container : String)
    (input : PassInput) : ContinuousJob :=
  let totalRows := (status.storedCount.getD 0).toNat
  let observed := if container ∈ ["running", "healthy"] then PublicStatus.running else .starting
  let contract := s.runtime.metrics.clearRuntimeError.recordRuntimeObservation
    (observedStateFromEvidence observed) observed (optionalString status.workerAttemptId)
  let s := ((s.withStatus observed).withContract contract).withLastError none
  let s :=
    { s with
      runtime.consumedCount := max s.runtime.consumedCount totalRows
      runtime.storedCount := max s.runtime.storedCount totalRows
      runtime.metrics.clickhouseKafkaIngestV2 := some
        { offsets := status.clickhouseOffsets
          publicationRevision := status.publicationRevision
          storedCount := totalRows } }
  let s :=
    if observed = .running ∧ 0 < totalRows then
      s.withJob "running" "Kafka Connect → ClickHouse V2 수집 중 · Catalog/Dashboard 게시됨"
        (some ("Kafka Connect V2 수집 중", 70))
    else if observed = .running then
      s.withJob "running" "Kafka Connect → ClickHouse V2 첫 offset 대기"
        (some ("Kafka Connect V2 첫 데이터 대기", 20))
    else
      s.withJob "running" "Kafka Connect → ClickHouse V2 수집 시작 확인 중"
        (some ("Kafka Connect V2 시작 확인 중", 10))
  s.syncSession input {}

/-- The action the connector was last asked for, if that ends it. -/
def endingAction (status : WorkerStatus) : Option String :=
  ((optionalString status.requestedAction).map Text.text).filter
    fun action => action ∈ ["pause", "stop", "terminate"]

/-- `_reconcile_clickhouse_kafka_ingest_v2` -/
def reconcileClickhouseKafkaIngestV2 (worker : WorkerGateway) (s : ContinuousJob)
    (input : PassInput) (status : WorkerStatus) (container : String) : ContinuousJob :=
  let gone := container ∈ ["exited", "missing"]
  if gone ∧ (s.runtime.status ∈ [PublicStatus.pausing, .stopping] ∨
      (endingAction status).isSome = true) then
    s.applyIngestTerminal
      (if s.runtime.status = .pausing ∨ endingAction status = some "pause" then .paused
        else .stopped) input
  else if gone ∧ s.runtime.status ∈ [PublicStatus.starting, .running] then
    s.restartMissingWorker worker
  else if container ∈ ["running", "starting", "created", "healthy"] then
    s.ingestActive status container input
  else
    match optionalString status.error with
    | some message => s.ingestStatusFailed message input
    | none => s

/-! ## The pass -/

/-- `reconcile_continuous_runtime` -/
def reconcileContinuousRuntime (worker : WorkerGateway) (s : ContinuousJob) (input : PassInput) :
    ContinuousJob :=
  if s.job.executionMode ≠ "continuous" then s
  else
    let (status, s) := s.continuousWorkerStatus worker
    match s.applyDeferredTerminalSignal worker status with
    | (none, s) => s
    | (some (status, container), s) =>
        if status.worker = some "kafka_connect_clickhouse_v2" then
          s.reconcileClickhouseKafkaIngestV2 worker input status container
        else s.reconcileSpark worker input status container

end ContinuousJob

end AskLake.ContinuousRuntime

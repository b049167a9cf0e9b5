/-
# `AskLake.ContinuousRuntime.Report` — a report, applied to the rows of its job

`applyContinuousRuntimeReport` takes the status, the counters, the progress and the
publications of a report over to the runtime, and then the liveness of the worker:

    a report with a forced status    confirms a pause or stop; its fields count only
                                     if it is of the current attempt
    any other report                 gives what is observed; the status is derived
    the worker is gone, or silent    the runtime has failed

Catalog and Dashboard are outside.  `PassInput.materialize` is the answer of the
publication workflow, with the places of the runtime it may write.
-/
import AskLake.ContinuousSql.Documents
import AskLake.ContinuousRuntime.Runtime

namespace AskLake.ContinuousRuntime

open AskLake.Python AskLake.ContinuousSql

/-! ## What a pass is given -/

/-- What `materialize_continuous_batch` leaves. -/
structure PublicationOutcome where
  /-- the Catalog's cursor, to be acknowledged -/
  cursor : Option Int
  metrics : PublicationMetrics
  lastError : Option String
  /-- the contract's error, if that is written -/
  errorWritten : Option (Option RuntimeError)
  published : List Json

structure PassInput where
  document : ReportDocument
  materialize : ContinuousJob → Report → Bool → PublicationOutcome
  /-- `sync_kafka_continuous_batches`: the batch rows of a session, from the metrics of
  the last batch -/
  syncBatches : RuleMetrics → ProgressMetrics → PublicationMetrics → Session → Report →
    List Json → List Json
  /-- `continuous_heartbeat_is_stale`, for a heartbeat that is there -/
  heartbeatIsStale : Text → Bool
  now : String

/-- A pass in which nothing is published. -/
def quietPass (document : ReportDocument) : PassInput where
  document
  materialize s _ _ :=
    { cursor := none
      metrics := s.runtime.metrics.publication
      lastError := s.runtime.lastError
      errorWritten := none
      published := [] }
  syncBatches _ _ _ _ _ batches := batches
  heartbeatIsStale _ := false
  now := "2026-07-01T00:00:00Z"

/-! ## The session -/

def SessionStatus.ofPublic : PublicStatus → SessionStatus
  | .starting => .starting
  | .running => .running
  | .pausing | .stopping => .stopping
  | .paused | .stopped => .stopped
  | .failed => .failed

def SessionStatus.terminal (status : SessionStatus) : Bool :=
  status ∈ [SessionStatus.stopped, .failed]

/-- A session that goes on, brought up to its runtime. -/
def Session.sync (session : Session) (runtime : KafkaContinuousRuntime) (payload : Report)
    (now : String) : Session :=
  let status := SessionStatus.ofPublic runtime.status
  { session with
    status
    workerAttemptId := ((optionalString payload.workerAttemptId).or
      runtime.metrics.currentWorkerAttemptId).or session.workerAttemptId
    consumedCount := runtime.consumedCount - session.baselineConsumed
    storedCount := runtime.storedCount - session.baselineStored
    quarantinedCount := runtime.quarantinedCount - session.baselineQuarantined
    failedCount := runtime.failedCount - session.baselineFailed
    lastBatchId := runtime.lastBatchId.or session.lastBatchId
    lastFlushAt := runtime.lastFlushAt.or session.lastFlushAt
    lag := runtime.lag
    lastError := runtime.lastError
    endedAt := if status.terminal then some (session.endedAt.getD now) else session.endedAt
    endReason :=
      if status.terminal then
        some (runtime.metrics.currentSessionEndReason.getD
          (if status = .failed then "worker_failed" else "worker_stopped"))
      else session.endReason }

namespace ContinuousJob

/-- `sync_kafka_continuous_session` -/
def syncSession (s : ContinuousJob) (input : PassInput) (payload : Report) : ContinuousJob :=
  match s.session with
  | none => s
  | some session =>
      let session :=
        if session.status.terminal ∧ session.endedAt.isSome then session
        else session.sync s.runtime payload input.now
      { s with
        session := some session
        batches := input.syncBatches s.runtime.metrics.rules s.runtime.metrics.progress
          s.runtime.metrics.publication session payload s.batches }

/-! ## Publications -/

/-- `materialize_continuous_batch`: its cursor, and the rows after it. -/
def materializeBatch (s : ContinuousJob) (input : PassInput) (payload : Report)
    (recoverCompletedManifests : Bool) : Option Int × ContinuousJob :=
  let outcome := input.materialize s payload recoverCompletedManifests
  let contract :=
    match outcome.errorWritten with
    | none => s.runtime.metrics.toContractMetrics
    | some none => s.runtime.metrics.clearRuntimeError
    | some (some error) => s.runtime.metrics.recordRuntimeError error
  (outcome.cursor,
    { (s.withContract contract).withLastError outcome.lastError with
      runtime.metrics.publication := outcome.metrics
      published := s.published ++ outcome.published })

/-- `write_continuous_catalog_ack`, of a cursor that is there. -/
def writeAck (s : ContinuousJob) (cursor : Option Int) : ContinuousJob :=
  { s with catalogAck := cursor.or s.catalogAck }

/-! ## Failure -/

/-- `continuous_failure_identity` -/
def failureIdentity (s : ContinuousJob) (status : WorkerStatus) (reason : String) : String :=
  let attempt := ((((optionalString status.workerAttemptId).or (optionalString status.containerId)).or
    s.runtime.metrics.currentWorkerAttemptId).or (optionalString status.containerName))
  (attempt.elim s.job.id Text.text) ++ ":" ++ reason

/-- `mark_continuous_runtime_failed` -/
def markFailed (s : ContinuousJob) (message : String) (identity : Option String) (stage : ErrorStage)
    (code : String) : ContinuousJob :=
  let alreadyCounted := identity.isSome ∧ s.runtime.metrics.lastFailureIdentity = identity
  let observed := s.runtime.metrics.recordRuntimeObservation .failed .failed none
  let failed := (s.withStatus .failed).withContract (observed.recordRuntimeError
    { stage
      code
      message
      retryable := true
      context := { jobId := s.job.id, failureIdentity := identity } })
  ({ failed.withLastError (some message) with
    runtime.failedCount :=
      if alreadyCounted then s.runtime.failedCount else s.runtime.failedCount + 1
    runtime.metrics.lastFailureIdentity :=
      identity.or s.runtime.metrics.lastFailureIdentity }).withJob "failed"
        "Continuous worker 실패" none

/-! ## The fields of a report -/

/-- A text that replaces the one before it when its value is truthy. -/
def keepText (value : Option String) (previous : Option Text) : Option Text :=
  match value with
  | some text => optionalString (some text)
  | none => previous

def takeRules (rules : RuleMetrics) (payload : Report) : RuleMetrics where
  ruleContractVersion := keepText payload.ruleContractVersion rules.ruleContractVersion
  ruleFingerprint := keepText payload.ruleFingerprint rules.ruleFingerprint
  runtimeFingerprint := keepText payload.runtimeFingerprint rules.runtimeFingerprint
  ruleMetrics := payload.ruleMetrics.or rules.ruleMetrics
  lastRuleResult := payload.lastRuleResult.or rules.lastRuleResult
  lastBatchEvidence := payload.lastBatchEvidence.or rules.lastBatchEvidence

/-- The progress of a report that has one. -/
def takeProgress (progress : ProgressMetrics) (payload : Report) : ProgressMetrics :=
  if payload.lagAvailable then
    { lagAvailable := true
      lag := progress.lag
      maxPartitionLag := payload.maxPartitionLag
      laggingPartitionCount := nonnegativeInt payload.laggingPartitionCount 0
      partitionProgress := payload.partitionProgress.getD (.obj [])
      lastBatchDurationMs := payload.lastBatchDurationMs
      lastBatchInputRows := nonnegativeInt payload.lastBatchInputRows 0
      throughputRowsPerSecond := payload.throughputRowsPerSecond
      replayedCount := max (nonnegativeInt payload.replayedCount 0) progress.replayedCount }
  else progress

def takeLag (runtime : KafkaContinuousRuntime) (payload : Report) : Option Int :=
  if payload.lagAvailable then payload.lag
  else if runtime.lag = none ∧ runtime.metrics.progress.lagAvailable = true then
    runtime.metrics.progress.lag
  else runtime.lag

def takeWindow (payload : Report) : WindowMetrics where
  publicationBacklogCount := nonnegativeInt payload.publicationBacklogCount 0
  publicationWindowLimit := nonnegativeInt payload.publicationWindowLimit 0
  catalogAckBatchId := payload.catalogAckBatchId

def stableSchema : Text := ⟨"stable", by decide, by decide⟩

def takeSchema (schema : SchemaState) (payload : Report) : SchemaState where
  schemaVersion := some (nonnegativeInt payload.schemaVersion (schema.schemaVersion.getD 1))
  schemaFingerprint := (optionalString payload.schemaFingerprint).or schema.schemaFingerprint
  schemaStatus :=
    some (((optionalString payload.schemaStatus).or schema.schemaStatus).getD stableSchema)
  schemaChanges := some ((payload.schemaChanges.or schema.schemaChanges).getD (.arr []))

/-- The counters never go back. -/
def takeReport (runtime : KafkaContinuousRuntime) (payload : Report) : KafkaContinuousRuntime :=
  { runtime with
    heartbeatAt := (optionalString payload.heartbeatAt).or runtime.heartbeatAt
    lastFlushAt := (optionalString payload.lastFlushAt).or runtime.lastFlushAt
    lastBatchId := (optionalString payload.lastBatchId).or runtime.lastBatchId
    lag := takeLag runtime payload
    metrics.rules := takeRules runtime.metrics.rules payload
    metrics.progress := takeProgress runtime.metrics.progress payload
    metrics.window := takeWindow payload
    schemaState := takeSchema runtime.schemaState payload
    consumedCount := max runtime.consumedCount (nonnegativeInt payload.consumedCount 0)
    storedCount := max runtime.storedCount (nonnegativeInt payload.storedCount 0)
    quarantinedCount := max runtime.quarantinedCount (nonnegativeInt payload.quarantinedCount 0)
    failedCount := max runtime.failedCount (nonnegativeInt payload.failedCount 0) }

/-- `runtime.last_error` after a report: an error of the Catalog, which is tried
again, is kept when the worker has none. -/
def lastErrorAfter (s : ContinuousJob) (payload : Report) (forced : Option PublicStatus) :
    Option String :=
  let workerError := optionalString payload.lastError
  let pendingRetry := "Catalog materialization pending retry:".toList.isPrefixOf
    (s.runtime.lastError.getD "").toList
  if forced.isSome then none
  else if workerError.isSome = true ∨ pendingRetry = false then workerError.map Text.text
  else s.runtime.lastError

/-- The worker's error in a report, or its absence. -/
def takeError (s : ContinuousJob) (payload : Report) (workerAttemptId : Option Text)
    (forced : Option PublicStatus) : ContinuousJob :=
  let s := s.withLastError (s.lastErrorAfter payload forced)
  match optionalString payload.lastError with
  | some message =>
      s.withContract (s.runtime.metrics.recordRuntimeError
        { stage := .execution
          code := "worker_reported_failure"
          message := message.text
          retryable := true
          context := { jobId := s.job.id, workerAttemptId } })
  | none =>
      if s.runtime.lastError = none then s.withContract s.runtime.metrics.clearRuntimeError
      else s

/-- The job as its runtime's status shows it. -/
def showJob (s : ContinuousJob) : ContinuousJob :=
  match s.runtime.status with
  | .running =>
      s.withJob "running"
        ("Continuous Spark streaming · " ++ displayCount s.runtime.storedCount ++ "건 적재")
        (some ("Continuous micro-batch 실행 중", 66))
  | .paused => s.withJob "paused" "Continuous worker 일시정지됨" none
  | .stopped => s.withJob "stopped" "Continuous worker 중지됨 · checkpoint 보존" none
  | .failed => s.withJob "failed" "Continuous worker 실패" none
  | .starting | .pausing | .stopping => s

/-! ## The report -/

/-- The payload that counts, and its attempt: a forced status takes nothing from a
report of another attempt. -/
def currentPayload (s : ContinuousJob) (payload : Report) (forced : Option PublicStatus) :
    Report × Option Text :=
  let attempt := optionalString payload.workerAttemptId
  if forced.isSome ∧ s.runtime.metrics.observationIsCurrent attempt = false then ({}, none)
  else (payload, attempt)

/-- The liveness of the worker, after a report. -/
def checkLiveness (worker : WorkerGateway) (s : ContinuousJob) (input : PassInput)
    (status : WorkerStatus) (runtimeStatus : PublicStatus) : ContinuousJob :=
  if runtimeStatus.active = true ∧ status.container ∈ ["exited", "missing"] then
    s.markFailed
      ("Continuous worker container is " ++ status.container ++ " (exitCode=" ++
        status.exitCode.elim "None" Int.repr ++ ").")
      (some (s.failureIdentity status "container_exit")) .execution "worker_container_exited"
  else if runtimeStatus.active = true ∧ s.runtime.heartbeatAt.any input.heartbeatIsStale = true then
    -- `stop_stale_continuous_worker`, whose answer does not matter
    ((s.markFailed "Continuous worker heartbeat expired."
      (some (s.failureIdentity status "heartbeat_expired")) .execution
        "worker_heartbeat_expired").callWorker worker .terminate none).2
  else s

/-- `_apply_continuous_runtime_report`, once the status it reports is known. -/
def applyReportedStatus (worker : WorkerGateway) (s : ContinuousJob) (input : PassInput)
    (payload : Report) (workerAttemptId : Option Text) (status : WorkerStatus)
    (forced : Option PublicStatus) (contractWasInitialized : Bool) (reported : PublicStatus) :
    ContinuousJob :=
  let observed := observedStateFromEvidence reported
  let next :=
    if contractWasInitialized = true ∧ forced = none then derivePublicStatus s.desiredState observed
    else reported
  let contract := s.runtime.metrics.recordRuntimeObservation observed next workerAttemptId
  let s := (s.withContract contract).withStatus next
  let s := { s with runtime := takeReport s.runtime payload }
  let s := s.takeError payload workerAttemptId forced
  let terminalRecovery := next ∈ [PublicStatus.paused, .stopped, .failed] ∨
    status.container ∈ ["exited", "missing"] ∨
      s.runtime.metrics.publication.recoveryPending = some true
  let (cursor, s) := s.materializeBatch input payload terminalRecovery
  (((s.checkLiveness worker input status next).showJob).syncSession input payload).writeAck cursor

/-- `_apply_continuous_runtime_report` -/
def applyContinuousRuntimeReport (worker : WorkerGateway) (s : ContinuousJob) (input : PassInput)
    (payload : Report) (status : WorkerStatus) (forced : Option PublicStatus)
    (contractWasInitialized : Bool) : ContinuousJob :=
  let (payload, attempt) := s.currentPayload payload forced
  match forced.or (payload.status.elim (some s.runtime.status) PublicStatus.ofValue?) with
  | none => s
  | some reported =>
      s.applyReportedStatus worker input payload attempt status forced contractWasInitialized
        reported

end ContinuousJob

end AskLake.ContinuousRuntime

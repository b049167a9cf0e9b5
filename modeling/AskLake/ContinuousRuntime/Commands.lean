/-
# `AskLake.ContinuousRuntime.Commands` — start, pause, resume and stop

A command writes down what is wanted, commits it, and only then calls the worker:

    refused                        the rows stay as they are
    reserved, and committed        the desired state, a revision, a start's new fence
    the worker answers             the fence of its answer is bound, if it has one
    the answer of a start is lost  a worker that is there is taken for the started one
    it fails                       the runtime has failed; what is wanted stays

A stop of a runtime that is stopping or stopped is answered, and writes nothing.
-/
import AskLake.ContinuousRuntime.Reconciliation

namespace AskLake.ContinuousRuntime

open AskLake.Python

/-! ## What a command is given, and answers -/

structure CommandInput where
  /-- the API calls the worker itself, and leaves it to no control plane -/
  dispatchWorker : Bool
  /-- `require_no_active_maintenance` -/
  maintenance : Option ApiError := none
  /-- `has_pending_replay` -/
  pendingReplay : Bool := false
  /-- `find_conflicting_kafka_continuous_runtime`: its job, and its status -/
  conflict : Option (String × PublicStatus) := none
  /-- `find_conflicting_kafka_snapshot`: its id, and its job -/
  snapshotConflict : Option (String × String) := none
  sessionId : String := ""
  /-- `start-` and a new uuid -/
  requestedAttemptId : Text
  /-- `persisted_stream_partition_cursors` -/
  partitionCursors : Json := .arr []
  now : String := ""

inductive WorkerResult
  | answered (status : WorkerStatus) (submissionRecovered : Bool)
  | deferred (worker : String)
  | idempotent (alreadyRequested alreadyTerminal : Bool)

structure CommandResponse where
  action : String
  apiPath : String
  controlPlaneOnly : Bool
  runtimeStatus : PublicStatus
  worker : String
  workerResult : WorkerResult

/-- `CONTINUOUS_ACTION_BY_COMMAND` -/
def Command.action : Command → String
  | startContinuous => "etl.continuous.start_requested"
  | pauseContinuous => "etl.continuous.pause_requested"
  | resumeContinuous => "etl.continuous.resume_requested"
  | stopContinuous => "etl.continuous.stop_requested"

/-- `worker_kind` -/
def EtlJob.workerKind (job : EtlJob) : String :=
  if job.ingestV2 then "kafka_connect_clickhouse_v2" else "spark_structured_streaming"

namespace WorkerResult

/-- `worker_result.get("worker")` -/
def worker : WorkerResult → Option String
  | answered status _ => status.worker
  | deferred worker => some worker
  | idempotent _ _ => none

/-- The attempt that the answer names. -/
def attempt : WorkerResult → Option Text
  | answered status _ => status.attempt
  | deferred _ => none
  | idempotent _ _ => none

end WorkerResult

namespace ContinuousJob

def respond (s : ContinuousJob) (command : Command) (input : CommandInput) (result : WorkerResult) :
    CommandResponse where
  action := command.action
  apiPath := "/api/etl/jobs/" ++ s.job.id ++ "/commands"
  controlPlaneOnly := !input.dispatchWorker
  runtimeStatus := s.runtime.status
  worker := result.worker.getD "spark_structured_streaming"
  workerResult := result

/-! ## Refusals -/

/-- `_require_allowed_transition` -/
def transitionError (s : ContinuousJob) (transition : CommandTransition) (verb : String) :
    Option ApiError :=
  if transition.allowed then none
  else if transition.rejection = some .alreadyActive then
    some
      { code := "CONFLICT"
        message := "Continuous Job is already active: " ++ s.job.id
        statusCode := 409 }
  else
    some
      { code := "INVALID_JOB_STATE"
        message := "Continuous Job cannot " ++ verb ++ " from: " ++ s.runtime.status.value
        statusCode := 422 }

/-- `_require_consumer_identity_available` -/
def identityError (input : CommandInput) : Option ApiError :=
  match input.conflict, input.snapshotConflict with
  | some (jobId, status), _ =>
      some
        { code := "CONFLICT"
          message := "Continuous consumer identity is already active on Job: " ++ jobId
          statusCode := 409
          details := [("activeJobId", jobId), ("runtimeStatus", status.value)] }
  | none, some (snapshotId, jobId) =>
      some
        { code := "CONFLICT"
          message := "Kafka snapshot is already active: " ++ snapshotId
          statusCode := 409
          details := [("activeSnapshotId", snapshotId), ("activeJobId", jobId)] }
  | none, none => none

/-- What forbids a start, in the order in which it is asked. -/
def startError (s : ContinuousJob) (command : Command) (input : CommandInput) : Option ApiError :=
  let replay : ApiError :=
    { code := "CONFLICT"
      message := "Continuous Job cannot start until the committed Kafka replay is finalized."
      statusCode := 409
      details := [("jobId", s.job.id), ("reason", "replay_catalog_pending")] }
  ((input.maintenance.or (if input.pendingReplay then some replay else none)).or
    (s.transitionError (commandTransition s.runtime.status command) "start")).or
      (identityError input)

/-! ## Starting -/

/-- The committed intent of a start. -/
def reserveStart (s : ContinuousJob) (command : Command) (input : CommandInput) : ContinuousJob :=
  let transition := commandTransition s.runtime.status command
  let session : Session :=
    { sessionId := input.sessionId
      status := .starting
      workerAttemptId := none
      baselineConsumed := s.runtime.consumedCount
      baselineStored := s.runtime.storedCount
      baselineQuarantined := s.runtime.quarantinedCount
      baselineFailed := s.runtime.failedCount
      baselineBatchId := s.runtime.lastBatchId
      consumedCount := 0
      storedCount := 0
      quarantinedCount := 0
      failedCount := 0
      lastBatchId := none
      lastFlushAt := none
      lag := none
      lastError := none
      endedAt := none
      endReason := none }
  let contract := s.runtime.metrics.recordRuntimeCommand transition (some input.requestedAttemptId)
  let s :=
    { s with
      session := some session
      runtime.metrics.currentSessionId := some input.sessionId
      runtime.metrics.currentSessionEndReason := none
      runtime.metrics.publication.streamPartitionCursors := input.partitionCursors }
  ((s.withContract contract).withStatus transition.nextStatus).withJob "running"
    "Continuous Spark worker 시작 요청" (some ("Continuous worker 시작 요청", 5))

/-- `_recover_lost_start_response`: a worker that is there, whichever it is. -/
def recoverLostStartResponse (worker : WorkerGateway) (s : ContinuousJob) :
    Option WorkerStatus × ContinuousJob :=
  let (result, s) := s.callWorker worker .status none
  match result with
  | .error _ => (none, s)
  | .ok observed =>
      if (observed.containerState.getD "").toLower ∈
          ["created", "healthy", "running", "starting", "submitted", "waiting"] then
        (some observed, s)
      else (none, s)

/-- `_dispatch_start`, but for the record of a failure. -/
def dispatchStart (worker : WorkerGateway) (s : ContinuousJob) (input : CommandInput) :
    Except ApiError WorkerResult × ContinuousJob :=
  if input.dispatchWorker then
    let (result, s) := s.callWorker worker .start s.fence
    match result with
    | .ok status => (.ok (.answered status false), s)
    | .error error =>
        let (recovered, s) := s.recoverLostStartResponse worker
        match recovered with
        | some status => (.ok (.answered status true), s)
        | none => (.error error, s)
  else (.ok (.deferred s.job.workerKind), s)

/-- `_record_start_failure` -/
def recordStartFailure (s : ContinuousJob) (command : Command) (error : ApiError)
    (now : String) : ContinuousJob :=
  let observed := s.runtime.metrics.recordRuntimeObservation .failed .failed none
  let s := ((s.withStatus .failed).withContract (observed.recordRuntimeError
    { stage := .submission
      code := "continuous_worker_start_failed"
      message := error.message
      retryable := true
      context := { jobId := s.job.id, command := some command.name } })).withLastError
        (some error.message)
  { s with
    runtime.failedCount := s.runtime.failedCount + 1
    session := s.session.map fun session =>
      { session with
        status := .failed
        endedAt := some (session.endedAt.getD now)
        endReason := some "start_failed"
        failedCount := max session.failedCount 1
        lastError := some error.message }
    job.status := "failed"
    job.lastState := "Continuous worker 시작 실패" }

/-- The answer of a start is bound. -/
def bindStart (s : ContinuousJob) (result : WorkerResult) (input : CommandInput) : ContinuousJob :=
  let attempt := result.attempt.getD input.requestedAttemptId
  let s :=
    if result.worker = some "kafka_connect_clickhouse_v2" then
      s.withJob s.job.status "Kafka Connect → ClickHouse V2 수집 시작 요청"
        (some ("Kafka Connect V2 시작 요청", 5))
    else s
  let contract := (s.runtime.metrics.bindWorkerAttempt (some attempt)).recordRuntimeObservation
    .starting s.runtime.status (some attempt)
  { (s.withContract contract).withLastError none with
    session := s.session.map fun session => { session with workerAttemptId := some attempt } }

def startCommand (worker : WorkerGateway) (s : ContinuousJob) (command : Command)
    (input : CommandInput) : Except ApiError CommandResponse × ContinuousJob :=
  match s.startError command input with
  | some error => (.error error, s)
  | none =>
      let (result, s) := (s.reserveStart command input).dispatchStart worker input
      match result with
      | .error error => (.error error, s.recordStartFailure command error input.now)
      | .ok result =>
          let s := s.bindStart result input
          (.ok (s.respond command input result), s)

/-! ## Pausing and stopping -/

/-- `mark_kafka_continuous_session_stopping` -/
def markSessionStopping (s : ContinuousJob) (reason : String) : ContinuousJob :=
  { s with
    runtime.metrics.currentSessionEndReason := some reason
    session := s.session.map fun session =>
      if session.status.terminal then session
      else { session with status := .stopping, endReason := some reason } }

/-- The committed intent of a pause or stop. -/
def reserveTerminal (s : ContinuousJob) (command : Command) : ContinuousJob :=
  let transition := commandTransition s.runtime.status command
  let contract := s.runtime.metrics.recordRuntimeCommand transition none
  let s := (s.withStatus transition.nextStatus).withContract contract
  if command = .pauseContinuous then
    (s.markSessionStopping "paused").withJob "running" "Continuous worker 마이크로배치 종료 대기"
      (some ("일시정지 중", 95))
  else
    (s.markSessionStopping "stopped").withJob "running" "Continuous worker 중지 요청"
      (some ("중지 중", 95))

/-- `_dispatch_terminal` -/
def dispatchTerminal (worker : WorkerGateway) (s : ContinuousJob) (command : Command)
    (action : WorkerAction) (input : CommandInput) :
    Except ApiError WorkerResult × ContinuousJob :=
  if input.dispatchWorker then
    let (result, s) := s.callWorker worker action s.fence
    match result with
    | .ok status => (.ok (.answered status false), s)
    | .error error =>
        let contract := s.runtime.metrics.recordRuntimeError
          { stage := .submission
            code := "continuous_worker_" ++ action.name ++ "_unknown"
            message := error.message
            retryable := true
            context := { jobId := s.job.id, command := some command.name } }
        (.error error, (s.withContract contract).withLastError (some error.message))
  else (.ok (.deferred s.job.workerKind), s)

def terminalCommand (worker : WorkerGateway) (s : ContinuousJob) (command : Command)
    (input : CommandInput) : Except ApiError CommandResponse × ContinuousJob :=
  let action := if command = .pauseContinuous then WorkerAction.pause else .stop
  match s.transitionError (commandTransition s.runtime.status command) action.name with
  | some error => (.error error, s)
  | none =>
      let (result, s) := (s.reserveTerminal command).dispatchTerminal worker command action input
      match result with
      | .error error => (.error error, s)
      | .ok result =>
          let s := s.withContract
            (s.runtime.metrics.recordRuntimeObservation .stopping s.runtime.status none)
          (.ok (s.respond command input result), s)

/-- A stop that is on its way, or done. -/
def alreadyStopping (s : ContinuousJob) (command : Command) : Bool :=
  command = .stopContinuous && s.runtime.status ∈ [PublicStatus.stopping, .stopped]

/-- `execute_continuous_command` -/
def executeContinuousCommand (worker : WorkerGateway) (s : ContinuousJob) (name : String)
    (input : CommandInput) : Except ApiError CommandResponse × ContinuousJob :=
  match Command.ofName? name with
  | none =>
      (.error
        { code := "VALIDATION_ERROR"
          message := "Unsupported Continuous command: " ++ name
          statusCode := 400 }, s)
  | some command =>
      if s.job.executionMode ≠ "continuous" ∨ s.job.isKafka = false then
        (.error
          { code := "INVALID_JOB_STATE"
            message :=
              "Continuous commands require a Kafka Job created with executionMode=continuous."
            statusCode := 422 }, s)
      else if s.alreadyStopping command = true then
        (.ok
          { s.respond command input (.idempotent (s.runtime.status = .stopping)
              (s.runtime.status = .stopped)) with worker := s.job.workerKind }, s)
      else if command = .startContinuous ∨ command = .resumeContinuous then
        s.startCommand worker command input
      else s.terminalCommand worker command input

end ContinuousJob

end AskLake.ContinuousRuntime

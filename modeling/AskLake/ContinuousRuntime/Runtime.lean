/-
# `AskLake.ContinuousRuntime.Runtime` — a job's rows, and the calls to its worker

What a command or a reconcile pass reads and writes of one job: the job, its
runtime with the contract in the metrics, the session of the current worker, and
what has been published for it.

The worker is outside.  Its answers are given for a whole run: `worker n action` is
the answer to the `n`-th call if that asks for `action`.  Each call is kept with the
fence that it carried and with what was wanted when it was made.
-/
import AskLake.ContinuousRuntime.Evidence

namespace AskLake.ContinuousRuntime

open AskLake.Python

/-! ## Rows -/

structure EtlJob where
  id : String
  executionMode : String
  /-- `is_kafka_job` -/
  isKafka : Bool
  /-- `clickhouse_kafka_ingest_v2_enabled` -/
  ingestV2 : Bool
  status : String
  lastState : String
  progress : Option (String × Nat)
  deriving DecidableEq

/-- What the metrics keep of the last pass. -/
structure LastReconciliation where
  action : ReconciliationAction
  certainty : Certainty
  reason : String
  containerState : String
  reportState : DocumentState
  deriving DecidableEq

inductive WorkerAction
  | start
  | status
  | pause
  | stop
  | terminate
  deriving DecidableEq, Repr

def WorkerAction.name : WorkerAction → String
  | start => "start"
  | status => "status"
  | pause => "pause"
  | stop => "stop"
  | terminate => "terminate"

/-- Which pause or stop has been signalled. -/
structure SignalIdentity where
  action : WorkerAction
  stateRevision : Nat
  workerAttemptId : Option Text
  deriving DecidableEq

structure TerminalSignal extends SignalIdentity where
  containerState : String
  requestedAction : Option Text
  deriving DecidableEq

/-- What the metrics keep of the rules. -/
structure RuleMetrics where
  ruleContractVersion : Option Text
  ruleFingerprint : Option Text
  runtimeFingerprint : Option Text
  ruleMetrics : Option Json
  lastRuleResult : Option Json
  lastBatchEvidence : Option Json

/-- What the metrics keep of the worker's progress. -/
structure ProgressMetrics where
  lagAvailable : Bool
  lag : Option Int
  maxPartitionLag : Option Int
  laggingPartitionCount : Nat
  partitionProgress : Json
  lastBatchDurationMs : Option Int
  lastBatchInputRows : Nat
  throughputRowsPerSecond : Json
  replayedCount : Nat

/-- What the metrics keep of the worker's publication window. -/
structure WindowMetrics where
  publicationBacklogCount : Nat
  publicationWindowLimit : Nat
  catalogAckBatchId : Option Int

/-- What the metrics keep of the Catalog's side. -/
structure PublicationMetrics where
  catalogBatchCursor : Option Int
  recoveryPending : Option Bool
  streamPartitionCursors : Json
  workflow : Json

/-- `clickhouseKafkaIngestV2` in the metrics -/
structure IngestMetrics where
  offsets : List Json
  publicationRevision : Option Int
  storedCount : Nat

structure RuntimeMetrics extends ContractMetrics where
  terminalSignal : Option TerminalSignal
  lastReconciliation : Option LastReconciliation
  lastFailureIdentity : Option String
  currentSessionId : Option String
  currentSessionEndReason : Option String
  rules : RuleMetrics
  progress : ProgressMetrics
  window : WindowMetrics
  publication : PublicationMetrics
  clickhouseKafkaIngestV2 : Option IngestMetrics

structure SchemaState where
  schemaVersion : Option Nat
  schemaFingerprint : Option Text
  schemaStatus : Option Text
  schemaChanges : Option Json

/-- `KafkaContinuousRuntimeModel` -/
structure KafkaContinuousRuntime where
  broker : String
  topic : String
  consumerGroupId : String
  status : PublicStatus
  metrics : RuntimeMetrics
  schemaState : SchemaState
  consumedCount : Nat
  storedCount : Nat
  quarantinedCount : Nat
  failedCount : Nat
  lag : Option Int
  heartbeatAt : Option Text
  lastFlushAt : Option Text
  lastBatchId : Option Text
  lastError : Option String

/-- Who reads the topic: the consumer group on its broker. -/
structure ConsumerIdentity where
  broker : String
  topic : String
  consumerGroupId : String
  deriving DecidableEq

/-- `(runtime.broker, runtime.topic, runtime.consumer_group_id)` -/
def KafkaContinuousRuntime.identity (runtime : KafkaContinuousRuntime) : ConsumerIdentity where
  broker := runtime.broker
  topic := runtime.topic
  consumerGroupId := runtime.consumerGroupId

inductive SessionStatus
  | starting
  | running
  | stopping
  | stopped
  | failed
  deriving DecidableEq, Repr

/-- `KafkaContinuousSessionModel` -/
structure Session where
  sessionId : String
  status : SessionStatus
  workerAttemptId : Option Text
  baselineConsumed : Nat
  baselineStored : Nat
  baselineQuarantined : Nat
  baselineFailed : Nat
  baselineBatchId : Option Text
  consumedCount : Nat
  storedCount : Nat
  quarantinedCount : Nat
  failedCount : Nat
  lastBatchId : Option Text
  lastFlushAt : Option Text
  lag : Option Int
  lastError : Option String
  endedAt : Option String
  endReason : Option String

/-! ## The worker's side -/

structure ApiError where
  code : String
  message : String
  statusCode : Nat
  details : List (String × String) := []
  deriving DecidableEq

/-- A call to the worker's gateway. -/
structure WorkerCall where
  action : WorkerAction
  /-- `{"workerAttemptId": …}` -/
  options : Option Text
  /-- what the contract wanted when the call was made -/
  desiredState : Option DesiredState
  deriving DecidableEq

/-- The answers of the worker's gateway, call by call. -/
abbrev WorkerGateway := Nat → WorkerAction → Except ApiError WorkerStatus

/-- All that a command or a pass reads and writes of one job. -/
structure ContinuousJob where
  job : EtlJob
  runtime : KafkaContinuousRuntime
  session : Option Session
  /-- the publications that are in the Catalog -/
  published : List Json
  /-- the batch rows of the sessions -/
  batches : List Json
  /-- the acknowledgement document -/
  catalogAck : Option Int
  calls : List WorkerCall

namespace ContinuousJob

def contract (s : ContinuousJob) : Contract := s.runtime.metrics.runtimeContract

/-- The fence that is in force. -/
def fence (s : ContinuousJob) : Option Text := s.runtime.metrics.fencingToken

/-- What is wanted of the runtime. -/
def desiredState (s : ContinuousJob) : DesiredState :=
  s.runtime.metrics.desiredState s.runtime.status

/-- Write the contract part of the metrics. -/
def withContract (s : ContinuousJob) (metrics : ContractMetrics) : ContinuousJob :=
  { s with runtime.metrics.toContractMetrics := metrics }

def withStatus (s : ContinuousJob) (status : PublicStatus) : ContinuousJob :=
  { s with runtime.status := status }

def withLastError (s : ContinuousJob) (lastError : Option String) : ContinuousJob :=
  { s with runtime.lastError := lastError }

def withJob (s : ContinuousJob) (status lastState : String) (progress : Option (String × Nat)) :
    ContinuousJob :=
  { s with job := { s.job with status, lastState, progress } }

/-- `worker.command(job, runtime, action, options)` -/
def callWorker (worker : WorkerGateway) (s : ContinuousJob) (action : WorkerAction)
    (options : Option Text) : Except ApiError WorkerStatus × ContinuousJob :=
  (worker s.calls.length action,
    { s with calls := s.calls ++ [⟨action, options, s.contract.desiredState⟩] })

/-- `continuous_worker_status` -/
def continuousWorkerStatus (worker : WorkerGateway) (s : ContinuousJob) :
    WorkerStatus × ContinuousJob :=
  let (result, s) := s.callWorker worker .status none
  match result with
  | .ok status => (status, s)
  | .error error =>
      if s.job.ingestV2 then
        ({ containerState := some "failed"
           error := some error.message
           worker := some "kafka_connect_clickhouse_v2" }, s)
      else ({ containerState := some "unknown", error := some error.message }, s)

end ContinuousJob

/-- `nonnegative_int` -/
def nonnegativeInt (value : Option Int) (fallback : Nat) : Nat :=
  match value with
  | some n => if 0 ≤ n then n.toNat else fallback
  | none => fallback

/-- `str(worker_status.get("containerState") or "unknown")` -/
def WorkerStatus.container (status : WorkerStatus) : String :=
  status.containerState.getD "unknown"

/-- `_optional_string(result.get("workerAttemptId") or result.get("containerId"))` -/
def WorkerStatus.attempt (status : WorkerStatus) : Option Text :=
  optionalString (status.workerAttemptId.or status.containerId)

/-! ## A new runtime -/

/-- `continuous_runtime_from_job`, of the identity that the job's source names. -/
def continuousRuntimeFromJob (identity : ConsumerIdentity) : KafkaContinuousRuntime where
  broker := identity.broker
  topic := identity.topic
  consumerGroupId := identity.consumerGroupId
  status := .stopped
  metrics :=
    { ContractMetrics.recordRuntimeObservation ⟨.empty, none⟩ .stopped .stopped none with
      terminalSignal := none
      lastReconciliation := none
      lastFailureIdentity := none
      currentSessionId := none
      currentSessionEndReason := none
      rules := ⟨none, none, none, none, none, none⟩
      progress := ⟨false, none, none, 0, .obj [], none, 0, .null, 0⟩
      window := ⟨0, 0, none⟩
      publication := ⟨none, none, .arr [], .null⟩
      clickhouseKafkaIngestV2 := none }
  schemaState := ⟨none, none, none, none⟩
  consumedCount := 0
  storedCount := 0
  quarantinedCount := 0
  failedCount := 0
  lag := none
  heartbeatAt := none
  lastFlushAt := none
  lastBatchId := none
  lastError := none

/-- A job whose runtime is new. -/
def ContinuousJob.new (job : EtlJob) (identity : ConsumerIdentity) : ContinuousJob where
  job
  runtime := continuousRuntimeFromJob identity
  session := none
  published := []
  batches := []
  catalogAck := none
  calls := []

/-- A Kafka job that Spark runs. -/
def ordersJob : EtlJob where
  id := "JOB-ORDERS"
  executionMode := "continuous"
  isKafka := true
  ingestV2 := false
  status := "stopped"
  lastState := ""
  progress := none

def ordersIdentity : ConsumerIdentity where
  broker := "127.0.0.1:19092"
  topic := "orders.raw"
  consumerGroupId := "asklake-stream-job-orders"

def ordersRuntime : ContinuousJob := .new ordersJob ordersIdentity

/-- The attempt of the first start. -/
def firstAttempt : Text := ⟨"start-1", by decide, by decide⟩

def secondAttempt : Text := ⟨"start-2", by decide, by decide⟩

def thirdAttempt : Text := ⟨"start-3", by decide, by decide⟩

end AskLake.ContinuousRuntime

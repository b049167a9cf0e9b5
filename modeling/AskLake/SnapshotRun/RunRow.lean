/-
# `AskLake.SnapshotRun.RunRow` — the row of a finite run, and what is written to it

A run that Airflow drives keeps what is known of it in one JSON column, `task_states`:

    sparkExecution        the attempt that may store a Spark result, and since when
    sparkResult           what Spark reported
    catalogResult         whether that was published to the Catalog
    airflowReservation    how the submission went
    …                     one entry for each task instance

The task ids of the DAG are none of the four names, so that the column is a record here.
Each function below is what one transaction assigns, given the row as it reads it.
-/
import AskLake.Materialization.Projection
import AskLake.Lib.Dict

namespace AskLake.SnapshotRun

open AskLake.Lib AskLake.Python AskLake.Materialization

/-! ## Documents -/

/-- `dict[str, Any]` -/
abbrev Manifest := List (String × Value)

/-- `manifest.get(key)` -/
def Manifest.get (manifest : Manifest) (key : String) : Value := (Value.obj manifest).get key

/-- `{**manifest, key: value}` -/
def Manifest.put (manifest : Manifest) (key : String) (value : Value) : Manifest :=
  upsert key value (fun _ => value) manifest

/-- `isinstance(manifest, dict) and manifest.get("status") == "success"` -/
def Manifest.successful (manifest : Manifest) : Bool := (manifest.get "status").isText "success"

theorem Manifest.get_put (manifest : Manifest) (key other : String) (value : Value) :
    (manifest.put key value).get other = if other = key then value else manifest.get other := by
  rw [Manifest.get, Value.get, Manifest.put, lookup_upsert]
  split
  · cases (List.lookup key manifest) with
    | none => rfl
    | some old => rfl
  · rfl

@[simp] theorem Manifest.get_put_self (manifest : Manifest) (key : String) (value : Value) :
    (manifest.put key value).get key = value := by
  rw [Manifest.get_put, if_pos rfl]

theorem Manifest.get_put_ne (manifest : Manifest) {key other : String} (h : other ≠ key)
    (value : Value) : (manifest.put key value).get other = manifest.get other := by
  rw [Manifest.get_put, if_neg h]

/-- The characters at which `str.splitlines` splits. -/
def isLineBreak (c : Char) : Bool :=
  let n := c.toNat
  (10 ≤ n && n ≤ 13) || (28 ≤ n && n ≤ 30) || n == 0x85 || n == 0x2028 || n == 0x2029

/-- `compact_storage_text` -/
def compactStorageText (text : String) (limit : Nat) : String :=
  let lines := ((text.toList.splitOnP isLineBreak).map fun line => strip (String.ofList line)).filter
    (· ≠ "")
  let compact := if lines = [] then "-" else " | ".intercalate lines
  if compact.toList.length ≤ limit then compact
  else String.ofList (compact.toList.take (limit - 32)) ++ " ... [truncated " ++
    toString compact.toList.length ++ " chars]"

/-! ## The row -/

inductive RunStatus
  | queued
  | running
  | success
  | failed
  | canceled
  deriving DecidableEq

/-- `TERMINAL_RUN_STATUSES` -/
def RunStatus.terminal : RunStatus → Bool
  | .queued | .running => false
  | .success | .failed | .canceled => true

inductive StepStatus
  | pending
  | running
  | success
  | failed
  | blocked
  deriving DecidableEq

/-- `normalize_airflow_state` -/
def normalizeAirflowState (host : Host) (state : Option String) : String :=
  host.lower (strip (state.getD ""))

/-- `airflow_run_status` -/
def airflowRunStatus (host : Host) (state : Option String) : RunStatus :=
  let state := normalizeAirflowState host state
  if state ∈ ["queued", "scheduled", "deferred", "up_for_retry"] then .queued
  else if state = "success" then .success
  else if state ∈ ["failed", "upstream_failed", "skipped", "removed"] then .failed
  else .running

/-- `airflow_step_status` -/
def airflowStepStatus (host : Host) (state : Option String) : StepStatus :=
  let state := normalizeAirflowState host state
  if state = "running" then .running
  else if state = "success" then .success
  else if state ∈ ["failed", "upstream_failed"] then .failed
  else if state ∈ ["skipped", "removed"] then .blocked
  else .pending

inductive ExecutionStatus
  | running
  | success
  | failed
  deriving DecidableEq

/-- `sparkExecution` -/
structure SparkExecution where
  attemptId : String
  ownerId : String
  startedAt : Int
  status : ExecutionStatus
  error : Option String := none
  deriving DecidableEq

/-- What the Catalog transaction records of the published files. -/
structure PhysicalEvidence where
  dataFileCount : Int
  icebergSnapshotId : Option Text
  parquetObjectCount : Int
  storageLocation : Value
  storageSizeBytes : Int

/-- `catalogResult` -/
inductive CatalogResult
  | success (datasetId runId : String) (evidence : PhysicalEvidence)
  | failed (datasetId runId error : String)

inductive ReservationStatus
  | queued
  | failed
  | unknown
  | missing
  deriving DecidableEq

/-- `airflowReservation` -/
structure AirflowReservation where
  status : ReservationStatus
  error : Option String := none
  missingCount : Option Nat := none
  deriving DecidableEq

structure TaskState where
  taskId : String
  airflowState : Option String
  status : StepStatus
  deriving DecidableEq

/-- `task_states` -/
structure TaskStates where
  tasks : List TaskState := []
  sparkExecution : Option SparkExecution := none
  sparkResult : Option Manifest := none
  catalogResult : Option CatalogResult := none
  airflowReservation : Option AirflowReservation := none

/-- A row of `etl_runs`. -/
structure RunRow where
  runId : String
  jobId : String
  status : RunStatus
  outputPath : Value
  failedStage : String
  errorSummary : String
  airflowDagId : String
  airflowDagRunId : String
  airflowState : Option String
  taskStates : TaskStates
  syncError : Option String

/-- A successful Spark result is stored. -/
def TaskStates.succeeded (states : TaskStates) : Bool := states.sparkResult.any Manifest.successful

def RunRow.succeeded (row : RunRow) : Bool := row.taskStates.succeeded

/-! ## Spark -/

/-- What the lease of an execution is computed from: `ASKLAKE_SPARK_RUN_TIMEOUT_SECONDS` and
`ASKLAKE_SPARK_EXECUTION_LEASE_SECONDS`. -/
structure LeaseSettings where
  runTimeoutSeconds : Int
  executionLeaseSeconds : Int

/-- `spark_execution_lease_seconds` -/
def LeaseSettings.leaseSeconds (settings : LeaseSettings) : Int :=
  max (max 1 settings.runTimeoutSeconds + 60) settings.executionLeaseSeconds

/-- `spark_execution_lease_is_active`, in the process `owner` -/
def sparkExecutionLeaseIsActive (settings : LeaseSettings) (owner : String) (now : Int)
    (execution : Option SparkExecution) : Bool :=
  execution.any fun execution =>
    execution.status = .running && execution.ownerId = owner &&
      decide (now < execution.startedAt + settings.leaseSeconds)

/-- A request of the DAG, under the path of the run. -/
structure SparkRequest where
  jobId : String
  owner : String
  attemptId : String
  now : Int

inductive SparkClaim
  /-- `AIRFLOW_RUN_MISMATCH` -/
  | mismatch
  | stored (result : Manifest)
  /-- `SPARK_RUN_ALREADY_EXECUTING` -/
  | alreadyExecuting
  | claimed (row : RunRow)

/-- `execute_airflow_spark_run`, up to the commit before Spark is called -/
def RunRow.claim (settings : LeaseSettings) (request : SparkRequest) (row : RunRow) : SparkClaim :=
  if row.jobId ≠ request.jobId ∨ row.airflowDagRunId ≠ row.runId then .mismatch
  else if row.succeeded then .stored (row.taskStates.sparkResult.getD [])
  else if sparkExecutionLeaseIsActive settings request.owner request.now
      row.taskStates.sparkExecution then .alreadyExecuting
  else .claimed { row with taskStates := { row.taskStates with
    sparkExecution := some {
      attemptId := request.attemptId
      ownerId := request.owner
      startedAt := request.now
      status := .running } } }

/-- The keys of a result that `spark_result_manifest` keeps. -/
def manifestKeys : List String :=
  ["durationMs", "endedAt", "error", "failedStage", "format", "inputBytes", "inputFileCount",
    "inputRows", "outputFileCount", "icebergCommit", "outputPath", "outputRows", "quality", "schema",
    "sourceCollection", "sourcePath", "sparkExitCode", "startedAt", "status", "warehouseLocation"]

/-- `spark_result_manifest` -/
def sparkResultManifest (host : Host) (result : Manifest) (runId : String) : Manifest :=
  let kept : Manifest := manifestKeys.filterMap fun key =>
    match result.get key with
    | .null => none
    | value => some (key, value)
  let manifest :=
    kept.put "runId" (.str (host.text ((result.get "runId").orElse (.str runId))))
  if (manifest.get "error").truthy then
    manifest.put "error" (.str (compactStorageText (host.textOf (manifest.get "error")) 1800))
  else manifest

/-- `spark_failed_stage` -/
def sparkFailedStage (host : Host) (result : Manifest) : String :=
  compactStorageText (host.text ((result.get "failedStage").orElse (.str "Spark ETL"))) 500

/-- `spark_error_summary` -/
def sparkErrorSummary (host : Host) (result : Manifest) : String :=
  compactStorageText (host.text ((((result.get "error").orElse (result.get "stderr")).orElse
    (result.get "stdout")).orElse (.str "Spark job failed."))) 1800

/-- `execution` is the one of the attempt. -/
def TaskStates.ofAttempt (states : TaskStates) (attemptId : String) : Option SparkExecution :=
  states.sparkExecution.filter fun execution => execution.attemptId = attemptId

/-- `execute_airflow_spark_run`, after Spark has returned; `none` where the lease has changed -/
def RunRow.storeResult (host : Host) (attemptId : String) (manifest : Manifest) (row : RunRow) :
    Option RunRow :=
  (row.taskStates.ofAttempt attemptId).map fun execution =>
    { row with
      outputPath := (manifest.get "outputPath").orElse row.outputPath
      failedStage := if manifest.successful then "-" else sparkFailedStage host manifest
      errorSummary := if manifest.successful then "-" else sparkErrorSummary host manifest
      taskStates := { row.taskStates with
        sparkExecution := some { execution with
          status := if manifest.successful then .success else .failed }
        sparkResult := some manifest } }

/-- `finalize_spark_execution_attempt`; `none` where it rolls back -/
def RunRow.failAttempt (attemptId error : String) (row : RunRow) : Option RunRow :=
  (row.taskStates.ofAttempt attemptId).map fun execution =>
    { row with taskStates := { row.taskStates with
        sparkExecution := some { execution with error := some error, status := .failed } } }

theorem TaskStates.ofAttempt_eq_some {states : TaskStates} {attemptId : String}
    {execution : SparkExecution} : states.ofAttempt attemptId = some execution ↔
      states.sparkExecution = some execution ∧ execution.attemptId = attemptId := by
  rw [TaskStates.ofAttempt, Option.filter_eq_some_iff, decide_eq_true_eq]

end AskLake.SnapshotRun

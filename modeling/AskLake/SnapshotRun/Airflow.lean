/-
# `AskLake.SnapshotRun.Airflow` — submission, polling and repair of a run

    queued    the row is reserved, and Airflow is called
    running   Airflow has the DAG run
    …         what Airflow says of it, poll by poll

The answer to the submission and every poll are written to a row that was locked and read
again; the repair of a success is not.
-/
import AskLake.SnapshotRun.RunRow

namespace AskLake.SnapshotRun

open AskLake.Lib AskLake.Python AskLake.Materialization

/-- An `ApiError` of the Airflow client; `airflowStatus` is `int(details["airflowStatus"])`. -/
structure AirflowError where
  message : String
  airflowStatus : Option Int := none
  deriving DecidableEq

structure DagRun where
  dagId : String
  dagRunId : String
  state : Option String
  deriving DecidableEq

structure TaskInstance where
  taskId : String
  state : Option String
  deriving DecidableEq

/-- What the row of a run is reserved and submitted for. -/
structure SnapshotJob where
  id : String
  datasetId : String
  target : String
  targetPath : Value
  icebergTarget : Bool

/-! ## Submission -/

/-- `run_from_airflow_submit` -/
def runFromAirflowSubmit (host : Host) (job : SnapshotJob) (runId : String) (dagRun : DagRun) :
    RunRow where
  runId := runId
  jobId := job.id
  status := airflowRunStatus host dagRun.state
  outputPath := job.targetPath
  failedStage := "-"
  errorSummary := "-"
  airflowDagId := dagRun.dagId
  airflowDagRunId := dagRun.dagRunId
  airflowState := dagRun.state
  taskStates := {}
  syncError := none

/-- `airflow_run_reservation` -/
def airflowRunReservation (host : Host) (job : SnapshotJob) (runId dagId : String) : RunRow :=
  { runFromAirflowSubmit host job runId ⟨dagId, runId, some "queued"⟩ with
    status := .queued
    taskStates := { airflowReservation := some { status := .queued } } }

/-- What Airflow answers to `trigger_dag_run` and, should that fail, to `get_dag_run`. -/
structure SubmissionAnswers where
  trigger : Except AirflowError DagRun
  lookup : Except AirflowError DagRun

def airflowRunMismatch (message : String) : AirflowError := { message }

/-- `submit_airflow_job_run` -/
def submitAirflowJobRun (host : Host) (job : SnapshotJob) (runId : String)
    (trigger : Except AirflowError DagRun) : Except AirflowError RunRow := do
  let dagRun ← trigger
  rejectIf (dagRun.dagRunId = "" ∨ dagRun.dagRunId ≠ runId)
    (airflowRunMismatch "Airflow DAG Run response did not match the reserved run.")
  return runFromAirflowSubmit host job runId dagRun

/-- `submit_or_reconcile_airflow_job_run` -/
def submitOrReconcileAirflowJobRun (host : Host) (job : SnapshotJob) (runId : String)
    (answers : SubmissionAnswers) : Except AirflowError RunRow :=
  match submitAirflowJobRun host job runId answers.trigger with
  | .ok submitted => .ok submitted
  | .error triggerError =>
      match answers.lookup with
      | .error _ => .error triggerError
      | .ok dagRun =>
          if dagRun.dagRunId = "" ∨ dagRun.dagRunId ≠ runId then
            .error (airflowRunMismatch "Airflow reconciliation did not match the reserved run.")
          else .ok (runFromAirflowSubmit host job runId dagRun)

/-- `apply_airflow_result_to_reserved_run`, of one run and job -/
def RunRow.applyAirflowResult (row submitted : RunRow) : RunRow :=
  let row := { row with
    airflowDagId := submitted.airflowDagId
    airflowDagRunId := submitted.airflowDagRunId }
  if (row.status = .queued ∨ submitted.status.terminal) ∧ ¬ row.status.terminal then
    { row with
      status := submitted.status
      outputPath := submitted.outputPath
      failedStage := submitted.failedStage
      errorSummary := submitted.errorSummary
      airflowState := submitted.airflowState
      syncError := submitted.syncError }
  else row

/-- `airflow_submission_error_is_definitive` -/
def AirflowError.definitive (error : AirflowError) : Bool :=
  error.airflowStatus.getD 0 ∈ [(400 : Int), 401, 403, 404, 405, 422]

/-- `mark_airflow_submission_unknown` -/
def RunRow.markSubmissionUnknown (error : AirflowError) (row : RunRow) : RunRow :=
  let reason := compactStorageText error.message 1000
  let definitive := error.definitive
  let marked := { row with
    syncError := some reason
    taskStates := { row.taskStates with
      airflowReservation := some {
        status := if definitive && row.status = .queued then .failed else .unknown
        error := some reason } } }
  if row.status ≠ .queued then marked
  else if definitive then
    { marked with
      status := .failed
      airflowState := some "failed"
      failedStage := "Airflow submission"
      errorSummary := reason }
  else { marked with status := .queued, airflowState := some "queued" }

/-- The transaction of `command_job` that ends a submission. -/
def RunRow.answerSubmission (host : Host) (job : SnapshotJob) (answers : SubmissionAnswers)
    (row : RunRow) : RunRow :=
  match submitOrReconcileAirflowJobRun host job row.runId answers with
  | .ok submitted => row.applyAirflowResult submitted
  | .error error => row.markSubmissionUnknown error

/-! ## Polls -/

/-- `AIRFLOW_MISSING_RUN_FAILURE_LIMIT` -/
def airflowMissingRunFailureLimit : Nat := 3

def repeatedlyMissing : String :=
  "Reserved Airflow DAG Run was not found after repeated reconciliation."

/-- `airflow_status == status.HTTP_404_NOT_FOUND` -/
def AirflowError.missing (error : AirflowError) : Bool := error.airflowStatus.getD 0 = 404

/-- `record_airflow_sync_error` -/
def RunRow.recordSyncError (error : AirflowError) (row : RunRow) : RunRow :=
  let noted := { row with syncError := some error.message }
  if ¬ error.missing then noted
  else
    let reservation := row.taskStates.airflowReservation.getD { status := .missing }
    let missingCount := reservation.missingCount.getD 0 + 1
    let counted := { noted with
      taskStates := { row.taskStates with
        airflowReservation := some { reservation with
          missingCount := some missingCount, status := .missing } } }
    if missingCount < airflowMissingRunFailureLimit then counted
    else
      { counted with
        status := .failed
        airflowState := some "failed"
        failedStage := "Airflow submission"
        errorSummary := repeatedlyMissing }

/-- `task_state_snapshot` -/
def taskStateSnapshot (host : Host) (tasks : List TaskInstance) : List TaskState :=
  (tasks.filter fun task => task.taskId ≠ "").map fun task =>
    { taskId := task.taskId
      airflowState := task.state
      status := airflowStepStatus host task.state }

/-- `first_problem_task` -/
def firstProblemTask (host : Host) (tasks : List TaskInstance) : Option TaskInstance :=
  tasks.find? fun task =>
    airflowStepStatus host task.state = .failed || airflowStepStatus host task.state = .blocked

/-- `AIRFLOW_TASK_TITLES` -/
def airflowTaskTitles : List (String × String) :=
  [("receive_asklake_run", "1. Airflow DAG Run 접수"),
    ("validate_spark_request", "2. Spark 실행 요청 검증"),
    ("spark_process_write", "3. Spark 처리/품질/Parquet 적재"),
    ("publish_run_result", "4. Spark 실행 결과 확정")]

/-- `task_title`; `title` is `str.title` -/
def taskTitle (title : String → String) (taskId : String) : String :=
  (valueAt airflowTaskTitles taskId).getD
    (title (strip (String.ofList (((if taskId = "" then "Airflow task" else taskId).toList).map
      fun c => if c = '_' then ' ' else c))))

/-- The runs of a dataset's payload, `none` where there is no dataset. -/
abbrev History := Option (List Run)

/-- `item` is the run, successfully materialized. -/
def materializes (host : ProjectionHost) (runId : String) (item : Run) : Bool :=
  runIdOf host item = runId && (item.get "status").isText "success"

/-- `airflow_run_has_materialization` -/
def hasMaterialization (host : ProjectionHost) (runId : String) (dataset : History) : Bool :=
  (dataset.getD []).any (materializes host runId)

/-- `mark_airflow_catalog_reconciliation_failure` -/
def RunRow.markCatalogFailure (error : String) (row : RunRow) : RunRow :=
  { row with
    status := .failed
    failedStage := "Catalog reconciliation"
    errorSummary := if error = "" then "Catalog reconciliation failed." else error }

/-- `mark_airflow_success_without_catalog_reconciliation` -/
def RunRow.markUnreconciled (row : RunRow) : RunRow :=
  { row with
    status := .failed
    failedStage := "Catalog reconciliation"
    errorSummary := "Airflow completed without a successful Catalog reconciliation." }

/-- What a poll learns. -/
inductive PollAnswer
  /-- `get_dag_run` failed -/
  | unavailable (error : AirflowError)
  /-- `list_task_instances` failed -/
  | tasksUnavailable (error : AirflowError)
  | dagRun (dagRun : DagRun) (tasks : List TaskInstance)

/-- How often the answer says that the run is missing. -/
def PollAnswer.misses : PollAnswer → Nat
  | .unavailable error => if error.missing then 1 else 0
  | _ => 0

/-- Why a run failed, as `sync_airflow_run` tells it. -/
def RunRow.explainFailure (host : ProjectionHost) (title : String → String)
    (tasks : List TaskInstance) (row : RunRow) : RunRow :=
  match row.taskStates.catalogResult with
  | some (.failed _ _ error) => row.markCatalogFailure error
  | _ =>
      let sparkResult := row.taskStates.sparkResult.getD []
      if ((sparkResult.get "failedStage").orElse (sparkResult.get "error")).truthy then
        { row with
          failedStage := host.text ((sparkResult.get "failedStage").orElse (.str "Spark ETL"))
          errorSummary :=
            host.text ((sparkResult.get "error").orElse (.str "Spark execution failed.")) }
      else
        match firstProblemTask host.toHost tasks with
        | some task =>
            { row with
              failedStage := taskTitle title task.taskId
              errorSummary := "Airflow task failed: " ++ task.taskId }
        | none =>
            { row with
              failedStage := "Airflow DAG Run"
              errorSummary := "Airflow DAG Run failed." }

/-- What a success of Airflow comes to. -/
def RunRow.confirmSuccess (host : ProjectionHost) (dataset : History) (row : RunRow) : RunRow :=
  match row.taskStates.catalogResult with
  | some (.failed _ _ error) => row.markCatalogFailure error
  | some (.success ..) => { row with failedStage := "-", errorSummary := "-" }
  | none =>
      if hasMaterialization host row.runId dataset then
        { row with failedStage := "-", errorSummary := "-" }
      else row.markUnreconciled

/-- What is assigned of the answer, whatever it is. -/
def RunRow.assignDagRun (host : Host) (dagRun : DagRun) (tasks : List TaskInstance)
    (row : RunRow) : RunRow :=
  { row with
    status := airflowRunStatus host dagRun.state
    airflowDagId := if dagRun.dagId = "" then row.airflowDagId else dagRun.dagId
    airflowDagRunId := if dagRun.dagRunId = "" then row.airflowDagRunId else dagRun.dagRunId
    airflowState := dagRun.state
    taskStates := { row.taskStates with tasks := taskStateSnapshot host tasks }
    syncError := none }

/-- `sync_airflow_run`, after Airflow has answered: the row is locked and read again, the
dataset is the one that was read before -/
def RunRow.poll (host : ProjectionHost) (title : String → String) (dataset : History)
    (answer : PollAnswer) (row : RunRow) : RunRow :=
  match answer with
  | .unavailable error => row.recordSyncError error
  | .tasksUnavailable error => { row with syncError := some error.message }
  | .dagRun dagRun tasks =>
      let polled := row.assignDagRun host.toHost dagRun tasks
      match polled.status with
      | .failed => polled.explainFailure host title tasks
      | .success => polled.confirmSuccess host dataset
      | _ => polled

/-! ## Repair -/

/-- `repair_incomplete_airflow_successes`, of one run: the row that it leaves in the session,
where it changes it -/
def RunRow.repair (host : ProjectionHost) (dataset : History) (row : RunRow) : Option RunRow :=
  if row.status ≠ .success ∨ row.airflowDagRunId = "" then none
  else
    match row.taskStates.catalogResult with
    | some (.failed _ _ error) => some (row.markCatalogFailure error)
    | some (.success ..) => none
    | none => if hasMaterialization host row.runId dataset then none else some row.markUnreconciled

/-- A flush writes the columns that the session has changed. -/
def RunRow.flushRepair (repaired row : RunRow) : RunRow :=
  { row with
    status := repaired.status
    failedStage := repaired.failedStage
    errorSummary := repaired.errorSummary }

/-- The statuses of which a list of active runs is made. -/
def RunRow.active (row : RunRow) : Bool :=
  (row.status = .queued || row.status = .running) && row.airflowDagRunId ≠ ""

/-! ## What Airflow's answers leave alone -/

/-- The documents of Spark and of the Catalog. -/
def TaskStates.evidence (states : TaskStates) :
    Option SparkExecution × Option Manifest × Option CatalogResult :=
  (states.sparkExecution, states.sparkResult, states.catalogResult)

theorem explainFailure_taskStates (host : ProjectionHost) (title : String → String)
    (tasks : List TaskInstance) (row : RunRow) :
    (row.explainFailure host title tasks).taskStates = row.taskStates := by
  unfold RunRow.explainFailure
  split
  · rfl
  · dsimp only
    split
    · rfl
    · split <;> rfl

theorem confirmSuccess_taskStates (host : ProjectionHost) (dataset : History) (row : RunRow) :
    (row.confirmSuccess host dataset).taskStates = row.taskStates := by
  unfold RunRow.confirmSuccess
  split
  · rfl
  · rfl
  · split <;> rfl

theorem recordSyncError_evidence (error : AirflowError) (row : RunRow) :
    (row.recordSyncError error).taskStates.evidence = row.taskStates.evidence := by
  unfold RunRow.recordSyncError
  dsimp only
  split
  · rfl
  · split <;> rfl

theorem poll_evidence (host : ProjectionHost) (title : String → String) (dataset : History)
    (answer : PollAnswer) (row : RunRow) :
    (row.poll host title dataset answer).taskStates.evidence = row.taskStates.evidence := by
  cases answer with
  | unavailable error => exact recordSyncError_evidence error row
  | tasksUnavailable error => rfl
  | dagRun dagRun tasks =>
      unfold RunRow.poll
      dsimp only
      split
      · rw [explainFailure_taskStates]
        rfl
      · rw [confirmSuccess_taskStates]
        rfl
      · rfl

theorem applyAirflowResult_taskStates (row submitted : RunRow) :
    (row.applyAirflowResult submitted).taskStates = row.taskStates := by
  unfold RunRow.applyAirflowResult
  dsimp only
  split <;> rfl

theorem markSubmissionUnknown_evidence (error : AirflowError) (row : RunRow) :
    (row.markSubmissionUnknown error).taskStates.evidence = row.taskStates.evidence := by
  unfold RunRow.markSubmissionUnknown
  dsimp only
  split
  · rfl
  · split <;> rfl

theorem answerSubmission_evidence (host : Host) (job : SnapshotJob) (answers : SubmissionAnswers)
    (row : RunRow) :
    (row.answerSubmission host job answers).taskStates.evidence = row.taskStates.evidence := by
  unfold RunRow.answerSubmission
  split
  · rw [applyAirflowResult_taskStates]
  · exact markSubmissionUnknown_evidence _ row

end AskLake.SnapshotRun

/-
# `AskLake.Trino.SqlJob` — the runs of a SQL job, up to the catalog

A run of a SQL job writes a table of its own.  Its pages are collected as those of a query
are, and then the run is finalized:

    finalizing     the job is read
    describing     the table is described, if Trino says that it is written
    cataloguing    the catalog's payload is read
    publishing     job, run and catalog are committed
    dropping       or else the table is dropped
    discarding     and job and run are committed
    concluding     the payload is saved, finalized

A collector that has saved a last page goes on to this; so does one that claims a run which
has ended and is not finalized, so does a cancel request, and so does a submission that
Trino has answered for good.  Anything may happen between two steps of a worker, and any
worker may stop for ever.
-/
import AskLake.Lib.Run
import AskLake.Trino.Collector
import Mathlib.Data.List.Sort

namespace AskLake.Trino

open AskLake.Lib AskLake.Python

/-! ## What the job keeps -/

/-- The status of a run in `etl_runs`. -/
inductive EtlRunStatus
  | queued
  | running
  | success
  | failed
  | canceled
  deriving DecidableEq

/-- `etl_run_status` -/
def etlRunStatus : RunStatus → EtlRunStatus
  | .queued => .queued
  | .running => .running
  | .succeeded => .success
  | .failed => .failed
  | .cancelled => .canceled

inductive RefreshStatus
  | running
  | dashboardReady
  | failed
  deriving DecidableEq

/-- `continuous_config["revisionRefresh"]` -/
structure RefreshState where
  status : Option RefreshStatus := none
  latestSourceRevision : Int := 0
  processingSourceRevision : Option Int := none
  publishedSourceRevision : Int := 0
  deriving DecidableEq

/-- `_apply_auto_refresh_result`, of a run that was submitted with a source revision. -/
def applyAutoRefreshResult (refresh : Option RefreshState) (sourceRevision : Int)
    (succeeded : Bool) : RefreshState :=
  let state := refresh.getD {}
  { status := some (if succeeded then .dashboardReady else .failed)
    latestSourceRevision := max state.latestSourceRevision sourceRevision
    processingSourceRevision := none
    publishedSourceRevision :=
      if succeeded then max state.publishedSourceRevision sourceRevision
      else state.publishedSourceRevision }

/-- An entry of `materializationRuns`. -/
structure MaterializationRun where
  runId : String
  status : String
  createdAt : Int
  icebergSnapshotId : String := ""
  deriving DecidableEq

/-- `materialization_run_sort_key(a) >= materialization_run_sort_key(b)` -/
def MaterializationRun.NewerOrSame (a b : MaterializationRun) : Prop :=
  b.createdAt < a.createdAt ∨ a.createdAt = b.createdAt ∧
    (b.icebergSnapshotId < a.icebergSnapshotId ∨ a.icebergSnapshotId = b.icebergSnapshotId ∧
      b.runId ≤ a.runId)

instance : DecidableRel MaterializationRun.NewerOrSame := fun _ _ =>
  inferInstanceAs (Decidable (_ ∨ _ ∧ (_ ∨ _ ∧ _)))

/-- `upsert_materialization_run`, of a run without a snapshot. -/
def upsertMaterializationRun (previous : List MaterializationRun) (next : MaterializationRun) :
    List MaterializationRun :=
  (next :: previous.filter (·.runId ≠ next.runId)).insertionSort MaterializationRun.NewerOrSame

/-- The catalog's payload of the job's dataset. -/
structure JobDataset where
  queryEngineTable : Option String := none
  sourceRunId : Option String := none
  materializationRuns : List MaterializationRun := []
  deriving DecidableEq

/-- `_catalog_payload` -/
def JobDataset.withRun (existing : JobDataset) (runId target : String) (endedAt : Int) :
    JobDataset where
  queryEngineTable := some target
  sourceRunId := some runId
  materializationRuns := upsertMaterializationRun existing.materializationRuns
    { runId, status := "success", createdAt := endedAt }

/-- The Iceberg tables, the catalog's payload, and the job's refresh state. -/
structure JobStore where
  tables : List String := []
  catalog : Option JobDataset := none
  refresh : Option RefreshState := none
  deriving DecidableEq

/-- The commit of what a run has come to, over the refresh state that was `read`; a run that
was submitted without a source revision assigns nothing. -/
def JobStore.recordRefresh (store : JobStore) (read : Option RefreshState)
    (sourceRevision : Option Int) (succeeded : Bool) : JobStore :=
  { store with
    refresh := sourceRevision.elim store.refresh fun sourceRevision =>
      some (applyAutoRefreshResult read sourceRevision succeeded) }

/-- `DROP TABLE IF EXISTS` -/
def JobStore.drop (store : JobStore) (target : String) : JobStore :=
  { store with tables := store.tables.filter (· ≠ target) }

/-! ## Runs -/

/-- A run: its rows in `etl_runs` and `sql_runs`, and of its payload the parts that never
change.  The last three are history variables: what the last worker to decide on the run has
decided, whether that has been committed, and whether the catalog has been saved with it. -/
structure JobRun where
  runId : String
  target : String
  sourceRevision : Option Int
  row : RunRow
  etlStatus : EtlRunStatus
  verdict : Option RunStatus := none
  concluded : Bool := false
  published : Bool := false
  deriving DecidableEq

/-- The payload with what a page says. -/
def RunPayload.withPage (payload : RunPayload) (page : TrinoClientPage String) : RunPayload :=
  { payload with
    error := page.error
    status := page.trinoStatus
    trinoNextUri := page.nextUri.map Text.text }

/-- Trino has started a statement. -/
def goldStarted : TrinoClientPage String where
  rows := []
  nextUri := optionalString (some "https://trino/v1/statement/q/1")
  state := .other

/-- It is done. -/
def goldFinished : TrinoClientPage String where
  rows := ["42"]
  nextUri := none
  state := .finished

/-- The payload that a cancel request saves. -/
def RunPayload.cancelled (payload : RunPayload) : RunPayload :=
  { payload with status := .cancelled, trinoNextUri := none }

/-- The payload that ends a finalization. -/
def RunPayload.conclude (payload : RunPayload) (final : RunStatus) : RunPayload :=
  { payload with finalized := true, status := final, trinoNextUri := none }

/-- `save_run_payload`, which asks for no lease. -/
def RunRow.savePayload (row : RunRow) (payload : RunPayload) : RunRow :=
  { row with
    payload
    datasetId := ((truthy payload.datasetId).or (truthy (some payload.baseDatasetId))).getD ""
    query := payload.query
    collectorNextUri := optionalString payload.trinoNextUri
    collectorOwner := if payload.ends then none else row.collectorOwner
    collectorLeaseExpiresAt := if payload.ends then none else row.collectorLeaseExpiresAt }

/-! ## Workers -/

/-- Where a collector or a request stands. -/
inductive JobStage
  | entering
  | top (payload : RunPayload)
  | fetching (payload : RunPayload)
  | fetched (payload : RunPayload) (page : TrinoClientPage String)
  | saving (updated : RunPayload)
  | saved (updated : RunPayload)
  | progressed (updated : RunPayload)
  | cancelling (payload : RunPayload)
  | cancelled (payload : RunPayload)
  | finalizing (payload : RunPayload)
  | describing (payload : RunPayload) (refresh : Option RefreshState)
  | cataloguing (payload : RunPayload) (refresh : Option RefreshState)
  | publishing (payload : RunPayload) (refresh : Option RefreshState) (existing : JobDataset)
  | dropping (payload : RunPayload) (refresh : Option RefreshState) (final : RunStatus)
  | discarding (payload : RunPayload) (refresh : Option RefreshState) (final : RunStatus)
  | concluding (payload : RunPayload) (final : RunStatus)
  | releasing
  | retrying
  | committing (call : RowCall) (read : RunRow) (next : JobStage)
  | done
  deriving DecidableEq

/-- A collector at work on a run, or a request, which has no lease. -/
structure JobWorker where
  run : Nat
  workerId : String := ""
  generation : Nat := 0
  pagesCollected : Nat := 0
  stage : JobStage
  deriving DecidableEq

/-- What a worker meets in one step. -/
inductive JobInput
  | proceed (now : Int)
  | page (page : TrinoClientPage String)
  /-- what is called fails: the fetch, the describe, the drop -/
  | fail (now : Int)
  deriving DecidableEq

namespace JobInput

def now : JobInput → Int
  | proceed now | fail now => now
  | page _ => 0

def fails : JobInput → Bool
  | fail _ => true
  | proceed _ | page _ => false

end JobInput

namespace JobWorker

variable (settings : CollectorSettings) (store : JobStore) (run : JobRun) (worker : JobWorker)
  (input : JobInput)

/-- A collector's call of the repository. -/
def call (write : CollectorWrite) (next otherwise : JobStage) : JobStage :=
  if (RowCall.collect worker.workerId worker.generation write).admits run.row then
    .committing (.collect worker.workerId worker.generation write) run.row next
  else otherwise

def renew (next : JobStage) : JobStage :=
  worker.call run (.renew settings.leaseSeconds input.now) next .done

/-- `collect_claimed_run`, of the payload that it reads at its start. -/
def enter (payload : RunPayload) : JobStage :=
  if payload.engine ≠ "trino-job-materialization" then .retrying
  else if payload.status.terminal && !payload.finalized then .finalizing payload
  else .top payload

/-- The payload is read again after a page. -/
def reenter (payload : RunPayload) : JobStage :=
  if payload.engine ≠ "trino-job-materialization" then .retrying
  else if settings.pagesPerLease ≤ worker.pagesCollected + 1 then .releasing
  else .top payload

/-- A describe finds the table. -/
def finds : Bool := !input.fails && run.target ∈ store.tables

/-- The run with what a commit of it leaves. -/
def commitRun (call : RowCall) (read : RunRow) : JobRun :=
  { run with
    row := call.commit read run.row
    verdict := if call matches .cancel _ then some .cancelled else run.verdict }

/-- One step of `collect_claimed_run`, of `cancel` or of `_finalize`. -/
def advance : JobStore × JobRun × JobStage :=
  match worker.stage with
  | .entering => (store, run, enter run.row.payload)
  | .top payload =>
      (store, run, if payload.status.terminal || (optionalString payload.trinoNextUri).isNone then
          .releasing
        else worker.renew settings run input (.fetching payload))
  | .fetching payload =>
      (store, run, match input with
        | .page page => .fetched payload page
        | .fail _ => .retrying
        | .proceed _ => .fetching payload)
  | .fetched payload page =>
      (store, run, worker.renew settings run input (.saving (payload.withPage page)))
  | .saving updated => (store, run, worker.call run (.save updated) (.saved updated) .done)
  -- `_apply_progress`, which asks for no lease
  | .saved updated =>
      (store, { run with etlStatus := etlRunStatus updated.status }, .progressed updated)
  | .progressed updated =>
      (store, run, if updated.status.terminal then .finalizing updated
        else worker.reenter settings run.row.payload)
  | .cancelling payload =>
      (store, run, if (RowCall.cancel payload.cancelled).admits run.row then
          .committing (.cancel payload.cancelled) run.row (.cancelled payload.cancelled)
        else .done)
  | .cancelled payload =>
      (if input.fails then store else store.drop run.target, run, .finalizing payload)
  | .finalizing payload =>
      if payload.status = .succeeded then (store, run, .describing payload store.refresh)
      else (store, { run with verdict := some payload.status },
        .dropping payload store.refresh payload.status)
  | .describing payload refresh =>
      if finds store run input then
        (store, { run with verdict := some .succeeded }, .cataloguing payload refresh)
      else (store, { run with verdict := some .failed }, .dropping payload refresh .failed)
  | .cataloguing payload refresh =>
      (store, run, .publishing payload refresh (store.catalog.getD {}))
  | .publishing payload refresh existing =>
      ({ store.recordRefresh refresh run.sourceRevision true with
          catalog := some (existing.withRun run.runId run.target input.now) },
        { run with etlStatus := .success, concluded := true, published := true },
        .concluding payload .succeeded)
  | .dropping payload refresh final =>
      (if input.fails then store else store.drop run.target, run,
        .discarding payload refresh final)
  | .discarding payload refresh final =>
      (store.recordRefresh refresh run.sourceRevision false,
        { run with etlStatus := etlRunStatus final, concluded := true },
        .concluding payload final)
  | .concluding payload final =>
      (store, { run with row := run.row.savePayload (payload.conclude final) }, .done)
  | .releasing => (store, run, worker.call run .release .done .done)
  | .retrying => (store, run, worker.call run (.retry input.now) .done .done)
  | .committing call read next => (store, commitRun run call read, next)
  | .done => (store, run, .done)

/-- The pages that a collector has gone through since its claim. -/
def collected : Nat :=
  match worker.stage with
  | .progressed _ => worker.pagesCollected + 1
  | _ => worker.pagesCollected

end JobWorker

/-! ## The system -/

/-- A submission that has found no active run, and waits for Trino's first page. -/
structure JobSubmission where
  runId : String
  target : String
  statement : String
  sourceRevision : Option Int := none
  deriving DecidableEq

/-- A SQL job: what it keeps, its runs in the order of their submission, and who is at work. -/
structure SqlJob extends JobStore where
  runs : List JobRun := []
  submissions : List JobSubmission := []
  workers : List JobWorker := []
  deriving DecidableEq

structure SqlJobSettings extends CollectorSettings where
  baseDatasetId : String
  datasetId : String
  deriving DecidableEq

inductive JobEvent
  /-- `submit`, up to its call of Trino -/
  | submit (submission : JobSubmission)
  /-- and after it -/
  | accept (k : Nat) (page : TrinoClientPage String)
  | refuse (k : Nat)
  /-- Trino has written the table of a run -/
  | write (run : Nat)
  | claim (run : Nat) (workerId : String) (now : Int)
  /-- `cancel`, which has found the run active -/
  | cancel (run : Nat)
  | act (k : Nat) (input : JobInput)
  | crash (k : Nat)
  /-- `_sync_job`, up to its call of `submit` -/
  | refresh (latestRevision : Int)
  /-- `_sync_job`, where `submit` has failed -/
  | refreshFailed
  deriving DecidableEq

namespace SqlJob

/-- `get_active_trino_job_run_payload` finds a run. -/
def hasActiveRun (s : SqlJob) : Bool := s.runs.any fun run => !run.row.payload.status.terminal

variable (settings : SqlJobSettings)

/-- The run that a submission saves. -/
def submittedRun (submission : JobSubmission) (page : TrinoClientPage String) : JobRun where
  runId := submission.runId
  target := submission.target
  sourceRevision := submission.sourceRevision
  row := {
    payload := {
      engine := "trino-job-materialization"
      baseDatasetId := settings.baseDatasetId
      query := submission.statement
      status := page.trinoStatus
      error := page.error
      trinoNextUri := page.nextUri.map Text.text
      datasetId := some settings.datasetId }
    datasetId := settings.datasetId
    query := submission.statement
    collectorNextUri := optionalString (page.nextUri.map Text.text) }
  etlStatus := etlRunStatus page.trinoStatus

/-- The commit of a submission; a run id that there is already breaks the key of `etl_runs`. -/
def accept (s : SqlJob) (submission : JobSubmission) (page : TrinoClientPage String) : SqlJob :=
  if s.runs.any (·.runId = submission.runId) then s
  else
    let run := submittedRun settings submission page
    { s with
      runs := s.runs ++ [run]
      workers := if page.trinoStatus.terminal then
          s.workers ++ [{ run := s.runs.length, stage := .finalizing run.row.payload }]
        else s.workers }

/-- A worker's step. -/
def act (s : SqlJob) (k : Nat) (worker : JobWorker) (run : JobRun) (input : JobInput) : SqlJob :=
  let next := worker.advance settings.toCollectorSettings s.toJobStore run input
  { toJobStore := next.1
    runs := s.runs.set worker.run next.2.1
    submissions := s.submissions
    workers := s.workers.set k { worker with
      pagesCollected := worker.collected
      stage := next.2.2 } }

def step (s : SqlJob) : JobEvent → SqlJob
  | .submit submission =>
      if s.hasActiveRun then s else { s with submissions := s.submissions ++ [submission] }
  | .accept k page => (s.submissions[k]?).elim s fun submission =>
      accept settings { s with submissions := s.submissions.eraseIdx k } submission page
  | .refuse k => { s with submissions := s.submissions.eraseIdx k }
  | .write i => (s.runs[i]?).elim s fun run => { s with tables := run.target :: s.tables }
  | .claim i workerId now => (s.runs[i]?).elim s fun run =>
      match run.row.claim workerId settings.leaseSeconds now with
      | none => s
      | some row =>
          { s with
            runs := s.runs.set i { run with row }
            workers := s.workers ++
              [{ run := i, workerId, generation := row.collectorGeneration, stage := .entering }] }
  | .cancel i => (s.runs[i]?).elim s fun run =>
      if run.row.payload.status.terminal then s
      else { s with workers := s.workers ++ [{ run := i, stage := .cancelling run.row.payload }] }
  | .act k input => (s.workers[k]?).elim s fun worker =>
      (s.runs[worker.run]?).elim s fun run => s.act settings k worker run input
  | .crash k => (s.workers[k]?).elim s fun worker =>
      { s with workers := s.workers.set k { worker with stage := .done } }
  | .refresh latestRevision =>
      let state := s.refresh.getD {}
      if s.hasActiveRun || latestRevision ≤ 0 || latestRevision ≤ state.publishedSourceRevision then s
      else { s with refresh := some { state with
        status := some .running
        latestSourceRevision := latestRevision
        processingSourceRevision := some latestRevision } }
  | .refreshFailed => { s with refresh := some { s.refresh.getD {} with
      status := some .failed
      processingSourceRevision := none } }

end SqlJob

end AskLake.Trino

/-
# `AskLake.Trino.RunWork` — the work on a run, for each of the three engines

Queries, materializations and SQL jobs share the row of a run, the claim and the lease.  A
collector takes the pages of any of them in the same way, and ends in different ones:

    query            the last page's payload is the end
    materialization  the dataset is registered, and the payload saved with how that went
    SQL job          the run is finalized, and the payload saved as such

What the last two do after the last page is one step here (`closing`); what they write
besides the run's row is in its own modules.
-/
import AskLake.Trino.SqlJob
import AskLake.Trino.TerminalRuns

namespace AskLake.Trino

open AskLake.Lib AskLake.Python

/-! ## Engines and payloads -/

inductive RunEngine
  | query
  | materialization
  | sqlJob
  deriving DecidableEq

def RunEngine.name : RunEngine → String
  | query => "trino"
  | materialization => "trino-materialization"
  | sqlJob => "trino-job-materialization"

namespace RunPayload

/-- There is work left: pages, a registration, or a finalization. -/
def unfinished (payload : RunPayload) : Bool :=
  !payload.status.terminal ||
    payload.engine = "trino-materialization" && payload.queryEngineStatus = some "pending" ||
    payload.engine = "trino-job-materialization" && !payload.finalized

/-- The payload that a collector saves for a page. -/
def collected (engine : RunEngine) (payload : RunPayload) (page : TrinoClientPage String) :
    RunPayload :=
  match engine with
  | .query => (payload.toRunResponse.applyTrinoPage page).payload page.nextUri
  | .materialization =>
      { payload with status := page.trinoStatus, trinoNextUri := page.nextUri.map Text.text }
  | .sqlJob => payload.withPage page

/-- The payload that is saved for a page which could not be stored. -/
def unstored (payload : RunPayload) (page : TrinoClientPage String) (now : Int) : RunPayload :=
  ((payload.toRunResponse.applyTrinoPage page).persistenceFailed now).payload page.nextUri

/-- The payload of a query with the same status and next URI. -/
def reported (payload : RunPayload) (response : RunResponse) : RunPayload :=
  { response with engine := "trino", status := payload.status }
    |>.payload (optionalString payload.trinoNextUri)

/-- `_sync_catalog_registration` has something to do. -/
def registrationDue (payload : RunPayload) : Bool :=
  payload.status.terminal && payload.queryEngineStatus ≠
    some (if payload.status = .succeeded then "available" else "registration_failed")

/-- The payload that `_sync_catalog_registration` saves. -/
def registered (payload : RunPayload) (found : Bool) : RunPayload :=
  { payload with
    queryEngineStatus := some
      (if payload.status = .succeeded && found then "available" else "registration_failed") }

end RunPayload

/-! ## Workers -/

inductive WorkStage
  | entering
  | top (payload : RunPayload)
  | starting (payload : RunPayload)
  | fetching (payload : RunPayload)
  | fetched (payload : RunPayload) (page : TrinoClientPage String)
  | applying (payload : RunPayload) (page : TrinoClientPage String)
  | saving (updated : RunPayload)
  | saved (updated : RunPayload)
  | closing (payload : RunPayload)
  | recording (payload : RunPayload)
  | cancelling (payload : RunPayload)
  | releasing
  | retrying
  | committing (call : RowCall) (read : RunRow) (next : WorkStage)
  | done
  deriving DecidableEq

/-- A collector at work on the run, or a request, which has no lease. -/
structure RunWorker where
  workerId : String := ""
  generation : Nat := 0
  pagesCollected : Nat := 0
  stage : WorkStage := .entering
  deriving DecidableEq

/-- What a worker meets in one step. -/
inductive WorkInput
  | proceed (now : Int)
  | page (page : TrinoClientPage String)
  /-- the query's info, as it is sampled -/
  | observe (outputRows : Option Nat) (now : Int)
  /-- what is called says no: the lease is lost, the table is not found -/
  | refuse (now : Int)
  /-- what is called fails -/
  | fail (now : Int)
  deriving DecidableEq

def WorkInput.now : WorkInput → Int
  | proceed now | observe _ now | refuse now | fail now => now
  | page _ => 0

/-- The call of a cancel request; materializations have none. -/
def RunEngine.cancelCall (engine : RunEngine) (payload : RunPayload) : Option RowCall :=
  match engine with
  | .query => lifecycleCancel payload
  | .materialization => none
  | .sqlJob => some (.cancel payload.cancelled)

namespace RunWorker

variable (settings : CollectorSettings) (engine : RunEngine) (row : RunRow) (worker : RunWorker)
  (input : WorkInput)

/-- A collector's call of the repository. -/
def call (write : CollectorWrite) (next otherwise : WorkStage) : WorkStage :=
  if (RowCall.collect worker.workerId worker.generation write).admits row then
    .committing (.collect worker.workerId worker.generation write) row next
  else otherwise

def renew (next : WorkStage) : WorkStage :=
  worker.call row (.renew settings.leaseSeconds input.now) next .done

/-- `save_collector_run_payload` -/
def save (payload : RunPayload) (next : WorkStage) : WorkStage :=
  worker.call row (.save payload) next .done

/-- `collect_claimed_run`, at its start. -/
def enter : WorkStage :=
  if row.payload.engine ≠ engine.name then .retrying
  else if engine = .sqlJob && row.payload.status.terminal && !row.payload.finalized then
    .closing row.payload
  else .top row.payload

/-- After a page that is not the last: the next URI is read again, and of a SQL job all. -/
def reenter (updated : RunPayload) : WorkStage :=
  if row.payload.engine ≠ engine.name then .retrying
  else if settings.pagesPerLease ≤ worker.pagesCollected + 1 then .releasing
  else .top (if engine = .sqlJob then row.payload
    else { updated with trinoNextUri := row.payload.trinoNextUri })

/-- The page is waited for; only a query's collector is heard of meanwhile. -/
def await (payload : RunPayload) : WorkStage :=
  match engine, input with
  | _, .page page => .fetched payload page
  | _, .fail _ => .retrying
  | .query, .proceed _ => worker.renew settings row input (.fetching payload)
  | .query, .observe outputRows _ =>
      let sampled := payload.reported (payload.toRunResponse.applyQueryInfo outputRows)
      worker.save row sampled (.fetching sampled)
  | _, _ => .fetching payload

/-- The page is applied; a query's is stored as well. -/
def apply (payload : RunPayload) (page : TrinoClientPage String) : WorkStage :=
  match engine, input with
  | .query, .refuse _ => .done
  | .query, .fail now => .saving (payload.unstored page now)
  | _, _ => .saving (payload.collected engine page)

/-- What is left to do after the last page, up to its last save. -/
def close (payload : RunPayload) : WorkStage :=
  match engine, input with
  | .query, _ => .done
  | .materialization, .fail _ => if payload.registrationDue then .retrying else .done
  | .materialization, .refuse _ =>
      if payload.registrationDue then .recording (payload.registered false) else .done
  | .materialization, _ =>
      if payload.registrationDue then .recording (payload.registered true) else .done
  | .sqlJob, .fail _ => .retrying
  | .sqlJob, .refuse _ => .recording (payload.conclude
      (if payload.status = .succeeded then .failed else payload.status))
  | .sqlJob, _ => .recording (payload.conclude payload.status)

/-- `cancel_trino_run_payload`, and what a SQL job's cancel goes on to. -/
def cancel (payload : RunPayload) : WorkStage :=
  match engine.cancelCall payload with
  | some (.cancel cancelled) =>
      if (RowCall.cancel cancelled).admits row then
        .committing (.cancel cancelled) row
          (if engine = .sqlJob then .closing cancelled else .done)
      else .done
  | _ => .done

/-- One step of a worker. -/
def advance : RunRow × WorkStage :=
  match worker.stage with
  | .entering => (row, enter engine row)
  | .top payload =>
      (row, if payload.status.terminal || (optionalString payload.trinoNextUri).isNone then
          .releasing
        else worker.renew settings row input
          (if engine = .query then .starting payload else .fetching payload))
  | .starting payload =>
      (row, if (payload.result.bind RunResult.collectionStartedAt).isSome then .fetching payload
        else
          let timed :=
            payload.reported (payload.toRunResponse.withResultCollectionTiming input.now)
          worker.save row timed (.fetching timed))
  | .fetching payload => (row, worker.await settings engine row input payload)
  | .fetched payload page => (row, worker.renew settings row input (.applying payload page))
  | .applying payload page => (row, apply engine input payload page)
  | .saving updated => (row, worker.save row updated (.saved updated))
  | .saved updated =>
      (row, if updated.status.terminal then (if engine = .query then .done else .closing updated)
        else worker.reenter settings engine row updated)
  | .closing payload => (row, close engine input payload)
  | .recording payload => (row.savePayload payload, .done)
  | .cancelling payload => (row, cancel engine row payload)
  | .releasing => (row, worker.call row .release .done .done)
  | .retrying => (row, worker.call row (.retry input.now) .done .done)
  | .committing call read next => (call.commit read row, next)
  | .done => (row, .done)

/-- The pages that a collector has gone through since its claim. -/
def collected : Nat :=
  match worker.stage with
  | .saved _ => worker.pagesCollected + 1
  | _ => worker.pagesCollected

end RunWorker

/-! ## The system -/

/-- The row of a run, and who is at work on it. -/
structure RunWork where
  row : RunRow
  workers : List RunWorker := []
  deriving DecidableEq

inductive WorkEvent
  | claim (workerId : String) (now : Int)
  | cancel
  /-- `TrinoMaterializationService.refresh`, which a user's look at the run calls -/
  | refresh
  | act (k : Nat) (input : WorkInput)
  | crash (k : Nat)
  deriving DecidableEq

namespace RunWork

variable (settings : CollectorSettings) (engine : RunEngine)

def act (s : RunWork) (k : Nat) (worker : RunWorker) (input : WorkInput) : RunWork :=
  let next := worker.advance settings engine s.row input
  { row := next.1
    workers := s.workers.set k { worker with
      pagesCollected := worker.collected
      stage := next.2 } }

def step (s : RunWork) : WorkEvent → RunWork
  | .claim workerId now =>
      match s.row.claim workerId settings.leaseSeconds now with
      | none => s
      | some row =>
          { row, workers := s.workers ++ [{ workerId, generation := row.collectorGeneration }] }
  | .cancel =>
      if s.row.payload.status.terminal then s
      else { s with workers := s.workers ++ [{ stage := .cancelling s.row.payload }] }
  | .refresh =>
      if engine = .materialization && s.row.payload.status.terminal then
        { s with workers := s.workers ++ [{ stage := .closing s.row.payload }] }
      else s
  | .act k input => (s.workers[k]?).elim s fun worker => s.act settings engine k worker input
  | .crash k => (s.workers[k]?).elim s fun worker =>
      { s with workers := s.workers.set k { worker with stage := .done } }

/-- The payload that a submission saves for Trino's first page; that of a materialization
which is over with it has been registered. -/
def firstPayload (baseDatasetId query : String) (datasetId : Option String)
    (page : TrinoClientPage String) (found : Bool) : RunPayload :=
  let payload : RunPayload := {
    engine := engine.name
    baseDatasetId
    query
    status := page.trinoStatus
    error := page.error
    trinoNextUri := page.nextUri.map Text.text
    datasetId
    queryEngineStatus := if engine = .materialization then some "pending" else none }
  if engine = .materialization && page.trinoStatus.terminal then payload.registered found
  else payload

/-- What a submission leaves that is completed. -/
def submitted (baseDatasetId query : String) (datasetId : Option String)
    (page : TrinoClientPage String) (found : Bool) : RunWork :=
  let payload := firstPayload engine baseDatasetId query datasetId page found
  { row := {
      payload
      datasetId := datasetId.getD baseDatasetId
      query
      collectorNextUri := optionalString payload.trinoNextUri }
    workers :=
      if engine = .sqlJob && page.trinoStatus.terminal then [{ stage := .closing payload }]
      else [] }

end RunWork

end AskLake.Trino

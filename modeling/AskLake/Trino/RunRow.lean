/-
# `AskLake.Trino.RunRow` — the row of a query run, and who may write it

A run is one row of `sql_runs`.  Its payload is what the API shows; the collector columns
say who collects it, in which generation, and where it goes on:

    claim      locks the row, reads it, and takes it: one generation more
    a call     reads the row, checks it, and commits later what it assigned

A call writes the columns that it assigned over whatever the row is by then: `admits` is
its check of the row that it reads, and `commit` what its commit does to a later one.
-/
import AskLake.Python.Basic

namespace AskLake.Trino

open AskLake.Python

/-! ## Payloads -/

/-- `TrinoQueryRunStatus` -/
inductive RunStatus
  | queued
  | running
  | succeeded
  | failed
  | cancelled
  deriving DecidableEq

namespace RunStatus

/-- `status in {"succeeded", "failed", "cancelled"}` -/
def terminal : RunStatus → Bool
  | queued | running => false
  | succeeded | failed | cancelled => true

end RunStatus

/-- `TrinoQueryRunResult`, without its timings but for the first. -/
structure RunResult where
  columns : List String := []
  collectionStartedAt : Option Int := none
  availablePageCount : Option Nat := none
  collectedRowCount : Option Nat := none
  expectedRowCount : Option Nat := none
  pageCount : Option Nat := none
  rowCount : Option Nat := none
  storage : Option String := none
  storageStatus : Option String := none
  deriving DecidableEq

/-- `TrinoQueryRunResponse`; of its statistics, the output rows. -/
structure RunResponse where
  engine : String := "trino"
  baseDatasetId : String
  query : String
  status : RunStatus
  error : Option String := none
  outputRows : Option Nat := none
  result : Option RunResult := none
  deriving DecidableEq

/-- The payload of a run: the response, and what is kept beside it. -/
structure RunPayload extends RunResponse where
  trinoNextUri : Option String
  datasetId : Option String := none
  finalized : Bool := false
  queryEngineStatus : Option String := none
  deriving DecidableEq

/-- `payload.get(a) or ...`: a value that says something. -/
def truthy (value : Option String) : Option String := value.filter (· ≠ "")

/-! ## The row -/

/-- `SqlRunModel`; the times are in microseconds. -/
structure RunRow where
  payload : RunPayload
  datasetId : String
  query : String
  collectorOwner : Option String := none
  collectorLeaseExpiresAt : Option Int := none
  collectorNextUri : Option Text := none
  collectorGeneration : Nat := 0
  collectorAttemptCount : Nat := 0
  collectorNextAttemptAt : Option Int := none
  deriving DecidableEq

namespace RunRow

/-- A SQL job that Trino is done with and that nobody has finished up. -/
def terminalSqlJob (row : RunRow) : Bool :=
  row.payload.engine = "trino-job-materialization" && row.payload.status.terminal &&
    !row.payload.finalized

/-- The row is found by `claim_next_trino_run`. -/
def claimable (row : RunRow) (now : Int) : Bool :=
  row.payload.engine ∈ ["trino", "trino-materialization", "trino-job-materialization"] &&
    (row.collectorNextUri.isSome && !row.payload.status.terminal || row.terminalSqlJob) &&
    row.collectorLeaseExpiresAt.all (· < now) && row.collectorNextAttemptAt.all (· ≤ now)

/-- `claim_next_trino_run`, which locks the row while it reads. -/
def claim (row : RunRow) (workerId : String) (leaseSeconds now : Int) : Option RunRow :=
  if row.claimable now then
    if row.collectorNextUri.isNone && !row.terminalSqlJob then none
    else some { row with
      collectorGeneration := row.collectorGeneration + 1
      collectorOwner := some workerId
      collectorLeaseExpiresAt := some (now + leaseSeconds * 1000000)
      collectorNextAttemptAt := none }
  else none

/-- The row is the worker's, in this generation. -/
def ownedBy (row : RunRow) (workerId : String) (generation : Nat) : Bool :=
  row.collectorOwner = some workerId && row.collectorGeneration = generation

end RunRow

/-! ## Calls -/

/-- What a collector writes under its generation. -/
inductive CollectorWrite
  /-- `renew_trino_collector_lease` -/
  | renew (leaseSeconds now : Int)
  /-- `release_trino_collector_lease` -/
  | release
  /-- `save_collector_run_payload` -/
  | save (payload : RunPayload)
  /-- `schedule_collector_retry` -/
  | retry (now : Int)
  deriving DecidableEq

/-- The calls that read the row and commit later. -/
inductive RowCall
  | collect (workerId : String) (generation : Nat) (write : CollectorWrite)
  /-- `cancel_trino_run_payload` -/
  | cancel (payload : RunPayload)
  deriving DecidableEq

/-- `(5, 15, 60, 300)[min(attempt - 1, 3)]` -/
def backoffSeconds (attempt : Nat) : Int := [5, 15, 60, 300].getD (min (attempt - 1) 3) 300

/-- A saved payload that nobody goes on with. -/
def RunPayload.ends (payload : RunPayload) : Bool :=
  payload.status.terminal || (optionalString payload.trinoNextUri).isNone

/-- The columns that a collector assigned, from the row `read`, over another one. -/
def CollectorWrite.commit (read row : RunRow) : CollectorWrite → RunRow
  | renew leaseSeconds now =>
      { row with collectorLeaseExpiresAt := some (now + leaseSeconds * 1000000) }
  | release => { row with collectorOwner := none, collectorLeaseExpiresAt := none }
  | save payload =>
      { row with
        payload
        datasetId := ((truthy payload.datasetId).or (truthy (some payload.baseDatasetId))).getD
          read.datasetId
        query := (truthy (some payload.query)).getD read.query
        collectorNextUri := optionalString payload.trinoNextUri
        collectorAttemptCount := 0
        collectorNextAttemptAt := none
        collectorOwner := if payload.ends then none else row.collectorOwner
        collectorLeaseExpiresAt := if payload.ends then none else row.collectorLeaseExpiresAt }
  | retry now =>
      { row with
        collectorAttemptCount := read.collectorAttemptCount + 1
        collectorNextAttemptAt :=
          some (now + backoffSeconds (read.collectorAttemptCount + 1) * 1000000)
        collectorOwner := none
        collectorLeaseExpiresAt := none }

/-- The write gives the lease up. -/
def CollectorWrite.dropsLease : CollectorWrite → Bool
  | renew .. => false
  | release | retry .. => true
  | save payload => payload.ends

namespace RowCall

/-- The call goes on with the row that it has read. -/
def admits (row : RunRow) : RowCall → Bool
  | collect workerId generation (.save _) =>
      row.ownedBy workerId generation && !row.payload.status.terminal
  | collect workerId generation _ => row.ownedBy workerId generation
  | cancel _ => !row.payload.status.terminal

/-- What the commit of a call that has read `read` leaves of the row. -/
def commit (read row : RunRow) : RowCall → RunRow
  | collect _ _ write => write.commit read row
  | cancel payload =>
      { row with
        payload
        collectorGeneration := read.collectorGeneration + 1
        collectorOwner := none
        collectorLeaseExpiresAt := none
        collectorNextUri := none
        collectorNextAttemptAt := none }

/-- The call gives the lease up, or takes it away. -/
def dropsLease : RowCall → Bool
  | collect _ _ write => write.dropsLease
  | cancel _ => true

end RowCall

/-! ## What a commit leaves -/

section
variable {read row next : RunRow} {write : CollectorWrite} {workerId : String} {generation : Nat}
  {leaseSeconds now : Int}

theorem CollectorWrite.commit_generation :
    (write.commit read row).collectorGeneration = row.collectorGeneration := by
  cases write with
  | renew => rfl
  | release => rfl
  | save => rfl
  | retry => rfl

theorem CollectorWrite.commit_owner : (write.commit read row).collectorOwner =
    if write.dropsLease then none else row.collectorOwner := by
  cases write with
  | renew => rfl
  | release => rfl
  | save => rfl
  | retry => rfl

theorem RowCall.ownedBy_of_admits (h : (collect workerId generation write).admits row = true) :
    row.ownedBy workerId generation = true := by
  cases write with
  | renew => exact h
  | release => exact h
  | save payload => exact (Bool.and_eq_true_iff.mp h).1
  | retry => exact h

theorem RunRow.ownedBy_iff : row.ownedBy workerId generation = true ↔
    row.collectorOwner = some workerId ∧ row.collectorGeneration = generation := by
  simp [ownedBy]

/-- What a claim finds and leaves. -/
theorem RunRow.claim_eq_some (h : row.claim workerId leaseSeconds now = some next) :
    row.claimable now = true ∧ next = { row with
      collectorGeneration := row.collectorGeneration + 1
      collectorOwner := some workerId
      collectorLeaseExpiresAt := some (now + leaseSeconds * 1000000)
      collectorNextAttemptAt := none } := by
  rw [claim] at h
  split at h
  · next hclaimable =>
      split at h
      · exact nomatch h
      · exact ⟨hclaimable, (Option.some.inj h).symm⟩
  · exact nomatch h

end

end AskLake.Trino

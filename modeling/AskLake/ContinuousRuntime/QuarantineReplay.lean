/-
# `AskLake.ContinuousRuntime.QuarantineReplay` — replays of quarantined rows

A replay runs on Spark and leaves a result.  The control plane then has two things to
bring up to date, the Catalog and the counters of the runtime, and the row of the run
says how far it came:

    finish       the result is in the row            catalogApplied, countersApplied = False
    materialize  the Catalog has the rows
    counters     the runtime has counted them        both True, one commit with the runtime

A pass that dies in between leaves its row behind.  `readPending` is where
`reconcile_pending_continuous_replay_catalog` picks it up; the result may have to be
recovered from the worker's file or from the manifest first.

Every commit of the source is one call of `ReplayWorld.step`, so calls of different
passes may come in any order, and `crash` may come between any two.
-/
import AskLake.ContinuousRuntime.Report
import AskLake.Lib.Table

namespace AskLake.ContinuousRuntime

open AskLake.Lib AskLake.Python AskLake.ContinuousSql

/-! ## The rows of the runs -/

/-- `run.result`, as far as it is read.  The flags are `none` before the control plane
has set them. -/
structure ReplayResult where
  runId : Option String := none
  storedCount : Option Int := none
  outputPath : Option String := none
  manifestPath : Option String := none
  catalogApplied : Option Bool := none
  countersApplied : Option Bool := none
  /-- the `reason` of `replayManifestRecovery` -/
  replayManifestRecovery : Option String := none
  deriving DecidableEq

inductive MaintenanceStatus
  | running
  | failed
  | success
  deriving DecidableEq, Repr

/-- `KafkaContinuousMaintenanceRunModel`, of kind `quarantine_replay` -/
structure MaintenanceRun where
  status : MaintenanceStatus
  result : Option ReplayResult
  lastError : Option String
  deriving DecidableEq

namespace ReplayResult

/-- `nonnegative_int(result.get("storedCount"), 0)` -/
def storedRows (result : ReplayResult) : Nat := nonnegativeInt result.storedCount 0

/-- `continuous_replay_result_is_durable` -/
def IsDurable (result : ReplayResult) : Prop :=
  0 < result.storedRows ∧ (optionalString result.outputPath).isSome = true ∧
    (optionalString result.manifestPath).isSome = true

instance (result : ReplayResult) : Decidable result.IsDurable :=
  inferInstanceAs (Decidable (_ ∧ _ ∧ _))

/-- `result.setdefault("catalogApplied", False)`, and the same for the counters -/
def withDefaults (result : ReplayResult) : ReplayResult :=
  { result with
    catalogApplied := some (result.catalogApplied.getD false)
    countersApplied := some (result.countersApplied.getD false) }

/-- The flags a recovered result takes over from the row. -/
def withFlagsOf (result current : ReplayResult) : ReplayResult :=
  { result with
    catalogApplied := current.catalogApplied.or result.catalogApplied
    countersApplied := current.countersApplied.or result.countersApplied }

/-- The result is that of another run. -/
def ForeignTo (result : ReplayResult) (runId : Text) : Prop :=
  (optionalString result.runId).isSome = true ∧ optionalString result.runId ≠ some runId

instance (result : ReplayResult) (runId : Text) : Decidable (result.ForeignTo runId) :=
  inferInstanceAs (Decidable (_ ∧ _))

end ReplayResult

/-! ## Recovery of a result -/

inductive RecoveryState
  | found
  | missing
  | unavailable (reason : String)
  deriving DecidableEq

/-- What is outside of the row: the worker's result file, and the answer of
`read_continuous_replay_manifest`. -/
structure ReplayEvidence where
  localResult : Option ReplayResult
  manifestState : RecoveryState
  manifestResult : ReplayResult

/-- `recover_continuous_replay_result` after the row and the file gave nothing -/
def ReplayEvidence.fromManifest (evidence : ReplayEvidence) (current : ReplayResult) :
    RecoveryState × ReplayResult :=
  match evidence.manifestState with
  | .found => (.found, evidence.manifestResult.withFlagsOf current)
  | state => (state, current)

/-- `recover_continuous_replay_result` -/
def recoverContinuousReplayResult (runId : Text) (evidence : ReplayEvidence)
    (current : Option ReplayResult) : RecoveryState × ReplayResult :=
  let current := current.getD {}
  if current.ForeignTo runId then
    (.unavailable "Stored replay result has a different run identity.", current)
  else
    let current := { current with runId := some runId.text }
    if current.IsDurable then (.found, current)
    else match evidence.localResult with
      | some candidate =>
          if candidate.ForeignTo runId then
            (.unavailable "Local replay result has a different run identity.", current)
          else
            let recovered := { candidate with runId := some runId.text }
            if recovered.IsDurable then (.found, recovered.withFlagsOf current)
            else evidence.fromManifest current
      | none => evidence.fromManifest current

/-! ## The counters -/

/-- `apply_continuous_replay_runtime_counters` -/
def applyContinuousReplayRuntimeCounters (runtime : KafkaContinuousRuntime)
    (result : ReplayResult) : KafkaContinuousRuntime × ReplayResult :=
  if result.countersApplied = some true then (runtime, result)
  else
    ({ runtime with
        storedCount := runtime.storedCount + result.storedRows
        metrics.progress.replayedCount :=
          runtime.metrics.progress.replayedCount + result.storedRows },
      { result with countersApplied := some true })

/-! ## The rows a pass writes -/

/-- The first commit after a worker that returned: the result is kept before the Catalog
is touched. -/
def finishedRun (result : ReplayResult) : MaintenanceRun :=
  let applied := decide (result.storedRows = 0)
  { status := if applied then .success else .failed
    result := some { result with catalogApplied := some applied, countersApplied := some applied }
    lastError := if applied then none else some "Replay Catalog materialization is pending retry." }

/-- A run whose worker raised, or was lost: what can be recovered is kept for a retry. -/
def failedRun (runId : Text) (evidence : ReplayEvidence) (current : Option ReplayResult)
    (pendingRetry otherwise : String) : MaintenanceRun :=
  match recoverContinuousReplayResult runId evidence current with
  | (.found, result) =>
      if result.IsDurable then
        { status := .failed, result := some result.withDefaults, lastError := some pendingRetry }
      else { status := .failed, result := some {}, lastError := some otherwise }
  | (.unavailable reason, result) =>
      { status := .failed
        result := some { result with replayManifestRecovery := some reason }
        lastError := some "Replay manifest recovery is pending before the stream can restart." }
  | (.missing, _) => { status := .failed, result := some {}, lastError := some otherwise }

/-- What `reconcile_pending_continuous_replay_catalog` makes of one row. -/
inductive PendingReplay
  /-- `continue`, and the row stays -/
  | skipped
  /-- `continue`, with another row -/
  | kept (run : MaintenanceRun)
  /-- the result is durable and not applied -/
  | pending (result : ReplayResult)

/-- `reconcile_pending_continuous_replay_catalog`, up to the locks -/
def readPending (runId : Text) (evidence : ReplayEvidence) (run : MaintenanceRun) : PendingReplay :=
  if run.status = .running then .skipped
  else
    let current := run.result.getD {}
    if current.catalogApplied = some true ∧ current.countersApplied = some true then .skipped
    else match recoverContinuousReplayResult runId evidence run.result with
      | (.missing, result) =>
          if current.replayManifestRecovery.isSome then
            .kept { run with result := some { result with replayManifestRecovery := none } }
          else .skipped
      | (.unavailable reason, result) =>
          .kept { run with
            result := some { result with replayManifestRecovery := some reason }
            lastError := some
              "Replay manifest recovery is pending before the stream can restart." }
      | (.found, result) =>
          if result.IsDurable then
            .pending { result with replayManifestRecovery := none }.withDefaults
          else .skipped

/-! ## Passes over the runs -/

/-- Where a pass of the control plane is, with its own copy of the result. -/
inductive ReplayPass
  /-- the worker runs -/
  | executing (runId : Text)
  /-- before the Catalog; `own` is the pass that ran the worker, not a retry -/
  | pending (runId : Text) (result : ReplayResult) (own : Bool)
  /-- before the counters -/
  | cataloged (runId : Text) (result : ReplayResult) (own : Bool)
  /-- before the last save of the pass that ran the worker -/
  | closing (runId : Text) (result : ReplayResult)

/-- The answer of `materialize_continuous_replay`. -/
inductive CatalogOutcome
  | applied
  /-- `False`; `committed` if what the pass had changed before is committed all the same -/
  | refused (reason : String) (committed : Bool)

/-- The runtime of a job, the rows of its replays, and the passes at work on them. -/
structure ReplayWorld where
  runtime : KafkaContinuousRuntime
  runs : Table Text MaintenanceRun
  passes : Table Nat ReplayPass
  /-- the values of `replayedCount` that workers were started with -/
  handed : List Nat
  /-- the largest stream count reported so far -/
  stream : Nat
  /-- the increments made so far, in the order of their commits -/
  counted : List (Text × Nat)

namespace ReplayWorld

/-- A job whose runtime is new. -/
def new (identity : ConsumerIdentity) : ReplayWorld where
  runtime := continuousRuntimeFromJob identity
  runs _ := none
  passes _ := none
  handed := [0]
  stream := 0
  counted := []

/-- The pass goes on to its next commit, or ends. -/
def setPass (w : ReplayWorld) (p : Nat) (pass : Option ReplayPass) : ReplayWorld :=
  { w with passes := Function.update w.passes p pass }

def setRun (w : ReplayWorld) (runId : Text) (run : MaintenanceRun) : ReplayWorld :=
  { w with runs := w.runs.put runId run }

theorem setPass_passes (w : ReplayWorld) (p q : Nat) (pass : Option ReplayPass) :
    (w.setPass p pass).passes q = if q = p then pass else w.passes q :=
  Function.update_apply ..

theorem setRun_runs (w : ReplayWorld) (runId other : Text) (run : MaintenanceRun) :
    (w.setRun runId run).runs other = if other = runId then some run else w.runs other :=
  Table.put_apply ..

/-- The row, if it is there, with the pass's copy of the result. -/
def setResult (w : ReplayWorld) (runId : Text) (result : ReplayResult)
    (change : MaintenanceRun → MaintenanceRun) : ReplayWorld :=
  match w.runs runId with
  | some run => w.setRun runId { change run with result := some result }
  | none => w

def setLastError (w : ReplayWorld) (reason : String) : ReplayWorld :=
  { w with runtime.lastError := some reason }

/-- The commit of the counters, which is one with the row of the run. -/
def applyCounters (w : ReplayWorld) (runId : Text) (result : ReplayResult) : ReplayWorld :=
  let (runtime, result) := applyContinuousReplayRuntimeCounters w.runtime result
  { w with runtime }.setRun runId
    { status := .success, result := some result, lastError := none }

/-- The increments, with the one a pass is about to make. -/
def countedAfter (w : ReplayWorld) (runId : Text) (result : ReplayResult) : List (Text × Nat) :=
  if result.countersApplied = some true then w.counted
  else w.counted ++ [(runId, result.storedRows)]

end ReplayWorld

/-- What happens to a world: one commit each, or the end of a pass. -/
inductive ReplayCall
  /-- `execute_kafka_continuous_maintenance`, up to the worker -/
  | submit (p : Nat) (runId : Text)
  /-- the worker returned -/
  | finish (p : Nat) (result : ReplayResult)
  /-- the worker raised -/
  | fail (p : Nat) (evidence : ReplayEvidence) (message : String)
  /-- `reconcile_stale_continuous_maintenance_runs` -/
  | stale (runId : Text) (evidence : ReplayEvidence) (runnerEnded : Bool)
  /-- `reconcile_pending_continuous_replay_catalog` reads a row -/
  | read (p : Nat) (runId : Text) (evidence : ReplayEvidence)
  | materialize (p : Nat) (outcome : CatalogOutcome)
  | counters (p : Nat)
  /-- the last save of `execute_kafka_continuous_maintenance` -/
  | save (p : Nat)
  | crash (p : Nat)
  /-- a worker is given `initialMetrics` -/
  | startWorker
  /-- the counters of `_apply_continuous_runtime_report` -/
  | report (payload : Report)

namespace ReplayWorld

def finish (w : ReplayWorld) (p : Nat) (result : ReplayResult) : ReplayWorld :=
  match w.passes p with
  | some (.executing runId) =>
      let run := finishedRun result
      let next := if result.storedRows = 0 then none
        else run.result.map fun result => ReplayPass.pending runId result true
      (w.setRun runId run).setPass p next
  | _ => w

def fail (w : ReplayWorld) (p : Nat) (evidence : ReplayEvidence) (message : String) :
    ReplayWorld :=
  match w.passes p with
  | some (.executing runId) =>
      (w.setRun runId (failedRun runId evidence none
        "Replay Catalog materialization is pending retry after worker result recovery."
        message)).setPass p none
  | _ => w

def stale (w : ReplayWorld) (runId : Text) (evidence : ReplayEvidence) (runnerEnded : Bool) :
    ReplayWorld :=
  match w.runs runId with
  | some run =>
      if run.status = .running then
        w.setRun runId (failedRun runId evidence run.result
          "Replay Catalog materialization is pending retry after maintenance recovery."
          (if runnerEnded then
            "Continuous maintenance runner ended before control-plane finalization."
          else "Continuous maintenance lease expired before completion."))
      else w
  | none => w

def read (w : ReplayWorld) (p : Nat) (runId : Text) (evidence : ReplayEvidence) : ReplayWorld :=
  match w.passes p, w.runs runId with
  | none, some run =>
      match readPending runId evidence run with
      | .skipped => w
      | .kept run => w.setRun runId run
      | .pending result => w.setPass p (some (.pending runId result false))
  | _, _ => w

/-- The Catalog's commit takes the row along; the flag follows with the counters.  A
refusal ends a retry, and the pass that ran the worker keeps it in the row. -/
def materialize (w : ReplayWorld) (p : Nat) (outcome : CatalogOutcome) : ReplayWorld :=
  match w.passes p with
  | some (.pending runId result own) =>
      if result.catalogApplied = some true then w.setPass p (some (.cataloged runId result own))
      else match outcome with
        | .applied =>
            (if own then w else w.setResult runId result id).setPass p
              (some (.cataloged runId { result with catalogApplied := some true } own))
        | .refused reason committed =>
            if own then
              ((w.setLastError reason).setResult runId result fun run =>
                { run with lastError := some reason }).setPass p (some (.closing runId result))
            else if committed then
              ((w.setLastError reason).setResult runId result id).setPass p none
            else w.setPass p none
  | _ => w

def counters (w : ReplayWorld) (p : Nat) : ReplayWorld :=
  match w.passes p with
  | some (.cataloged runId result own) =>
      let next := if own then
          some (ReplayPass.closing runId (applyContinuousReplayRuntimeCounters w.runtime result).2)
        else none
      { w.applyCounters runId result with counted := w.countedAfter runId result }.setPass p next
  | _ => w

def save (w : ReplayWorld) (p : Nat) : ReplayWorld :=
  match w.passes p with
  | some (.closing runId result) =>
      (w.setResult runId result fun run =>
        if run.status = .failed then run
        else { run with status := .success, lastError := none }).setPass p none
  | _ => w

def step (w : ReplayWorld) : ReplayCall → ReplayWorld
  | .submit p runId =>
      match w.passes p, w.runs runId with
      | none, none =>
          (w.setRun runId { status := .running, result := none, lastError := none }).setPass p
            (some (.executing runId))
      | _, _ => w
  | .finish p result => w.finish p result
  | .fail p evidence message => w.fail p evidence message
  | .stale runId evidence runnerEnded => w.stale runId evidence runnerEnded
  | .read p runId evidence => w.read p runId evidence
  | .materialize p outcome => w.materialize p outcome
  | .counters p => w.counters p
  | .save p => w.save p
  | .crash p => w.setPass p none
  | .startWorker => { w with handed := w.runtime.metrics.progress.replayedCount :: w.handed }
  | .report payload =>
      { w with
        runtime := ContinuousJob.takeReport w.runtime payload
        stream := max w.stream (nonnegativeInt payload.storedCount 0) }

end ReplayWorld

end AskLake.ContinuousRuntime

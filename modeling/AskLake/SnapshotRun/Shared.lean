/-
# `AskLake.SnapshotRun.Shared` — the requests that work on one run

The row of a run and the history of its dataset are shared by

    the submission         answered once
    Spark requests         claim k, …, result k or raise k
    Catalog requests       reconcile, …, publish k or giveUp k and recordFailure k
    polls                  sync, …, poll k
    other publications     of other runs, to the same dataset

in any order, each request with what it has read so far.  A request may be dropped at any
time: its process dies, or an error rolls it back.
-/
import AskLake.SnapshotRun.Reconciliation
import AskLake.Lib.Run

namespace AskLake.SnapshotRun

open AskLake.Lib AskLake.Python AskLake.Materialization
open AskLake.SourceWindow (SourceHost)

/-- The deployment, and the job of the run. -/
structure Service where
  host : SourceHost
  /-- `str.title` -/
  title : String → String
  lease : LeaseSettings
  job : SnapshotJob

/-- A Spark call that has not come back. -/
structure Attempt where
  attemptId : String
  owner : String
  deriving DecidableEq

/-- A Catalog request: the column as it was read last, the result as it was read first, and
the message of the failure that it is about to record. -/
structure ReconcileCall where
  view : TaskStates
  sparkResult : Manifest
  retried : Bool := false
  failing : Option String := none

/-- A poll: the row and the dataset as they were listed. -/
structure SyncCall where
  view : RunRow
  dataset : History

/-- `granted`, `results`, `published`, `answered` and `misses` are history variables: the
attempts that were granted and the results that were stored, newest first; whether a Catalog
transaction was committed; whether the submission was answered with a success; and how many
polls were answered with 404. -/
structure Shared where
  row : RunRow
  dataset : History := none
  submitting : Bool := true
  attempts : List Attempt := []
  reconciles : List ReconcileCall := []
  syncs : List SyncCall := []
  granted : List String := []
  results : List Manifest := []
  published : Bool := false
  answered : Bool := false
  misses : Nat := 0

inductive Event
  | answerSubmission (answers : SubmissionAnswers)
  | claim (request : SparkRequest)
  | result (k : Nat) (result : Manifest)
  | raise (k : Nat) (error : String)
  | dropAttempt (k : Nat)
  | reconcile
  | publish (k : Nat) (nameTaken : Bool) (storageSize : Int) (now : String) (verified : Verified)
  | conflict (k : Nat)
  | giveUp (k : Nat) (message : String)
  | recordFailure (k : Nat)
  | dropReconcile (k : Nat)
  | sync
  | poll (k : Nat) (answer : PollAnswer)
  | dropSync (k : Nat)
  | publishOther (run : Run)

namespace Shared

variable (service : Service)

/-! ## Spark requests -/

def claim (s : Shared) (request : SparkRequest) : Shared :=
  match s.row.claim service.lease request with
  | .claimed row =>
      { s with
        row
        attempts := s.attempts ++ [⟨request.attemptId, request.owner⟩]
        granted := request.attemptId :: s.granted }
  | _ => s

/-- Spark has returned to the `k`-th request. -/
def result (s : Shared) (k : Nat) (result : Manifest) : Shared :=
  match s.attempts[k]? with
  | none => s
  | some attempt =>
      let manifest := sparkResultManifest service.host.toHost result s.row.runId
      match s.row.storeResult service.host.toHost attempt.attemptId manifest with
      | none => { s with attempts := s.attempts.eraseIdx k }
      | some row =>
          { s with row, attempts := s.attempts.eraseIdx k, results := manifest :: s.results }

/-- The `k`-th call of Spark has raised. -/
def raise (s : Shared) (k : Nat) (error : String) : Shared :=
  match s.attempts[k]? with
  | none => s
  | some attempt =>
      { s with
        row := (s.row.failAttempt attempt.attemptId (compactStorageText error 1000)).getD s.row
        attempts := s.attempts.eraseIdx k }

/-! ## Catalog requests -/

def reconcile (s : Shared) : Shared :=
  match s.row.startReconcile service.host.toHost service.job s.dataset with
  | .verify sparkResult =>
      { s with reconciles := s.reconciles ++ [⟨s.row.taskStates, sparkResult, false, none⟩] }
  | .fail message =>
      { s with reconciles := s.reconciles ++ [⟨s.row.taskStates, [], false, some message⟩] }
  | _ => s

/-- The `k`-th request commits; where its transaction raises, it has still to give up. -/
def publish (s : Shared) (k : Nat) (nameTaken : Bool) (storageSize : Int) (now : String)
    (verified : Verified) : Shared :=
  match s.reconciles[k]? with
  | none => s
  | some call =>
      if call.failing.isSome ∨ ¬ verified.suits service.job then s
      else
        match commitCatalog service.host service.job nameTaken storageSize now verified
            call.sparkResult s.dataset with
        | .error _ => s
        | .ok commit =>
            { s with
              row := { s.row with
                taskStates := call.view.publish service.job s.row.runId commit }
              dataset := some commit.history
              reconciles := s.reconciles.eraseIdx k
              published := true }

/-- `IntegrityError`: the first one is rolled back, and the row read again. -/
def conflict (s : Shared) (k : Nat) : Shared :=
  match s.reconciles[k]? with
  | none => s
  | some call =>
      if call.retried ∨ call.failing.isSome then s
      else
        let again := { call with view := s.row.taskStates, retried := true }
        { s with reconciles := s.reconciles.set k again }

/-- `persist_catalog_reconciliation_failure` reads the row again. -/
def giveUp (s : Shared) (k : Nat) (message : String) : Shared :=
  match s.reconciles[k]? with
  | none => s
  | some call =>
      if call.failing.isSome then s
      else
        let failing := { call with view := s.row.taskStates, failing := some message }
        { s with reconciles := s.reconciles.set k failing }

def recordFailure (s : Shared) (k : Nat) : Shared :=
  match s.reconciles[k]? with
  | none => s
  | some call =>
      match call.failing with
      | none => s
      | some message =>
          { s with
            row := s.row.recordFailure service.job message call.view
            reconciles := s.reconciles.eraseIdx k }

/-! ## Polls -/

/-- Where the run was active, it is locked and read again; where it was not, the repair of what
was read is flushed. -/
def poll (s : Shared) (k : Nat) (answer : PollAnswer) : Shared :=
  match s.syncs[k]? with
  | none => s
  | some call =>
      let host := service.host.toProjectionHost
      if call.view.active then
        { s with
          row := s.row.poll host service.title call.dataset answer
          syncs := s.syncs.eraseIdx k
          misses := s.misses + answer.misses }
      else
        { s with
          row := (call.view.repair host call.dataset).elim s.row (·.flushRepair s.row)
          syncs := s.syncs.eraseIdx k }

def answerSubmission (s : Shared) (answers : SubmissionAnswers) : Shared :=
  if s.submitting then
    let row := s.row.answerSubmission service.host.toHost service.job answers
    { s with
      row
      submitting := false
      answered := s.answered || (s.row.status ≠ .success && row.status = .success) }
  else s

/-- Another run is published to the dataset. -/
def publishOther (s : Shared) (run : Run) : Shared :=
  match upsertMaterializationRun service.host.toProjectionHost (stored (s.dataset.getD [])) run with
  | .ok history => { s with dataset := some history }
  | .error _ => s

def step (s : Shared) : Event → Shared
  | .answerSubmission answers => s.answerSubmission service answers
  | .claim request => s.claim service request
  | .result k result => s.result service k result
  | .raise k error => s.raise k error
  | .dropAttempt k => { s with attempts := s.attempts.eraseIdx k }
  | .reconcile => s.reconcile service
  | .publish k nameTaken storageSize now verified =>
      s.publish service k nameTaken storageSize now verified
  | .conflict k => s.conflict k
  | .giveUp k message => s.giveUp k message
  | .recordFailure k => s.recordFailure service k
  | .dropReconcile k => { s with reconciles := s.reconciles.eraseIdx k }
  | .sync => { s with syncs := s.syncs ++ [⟨s.row, s.dataset⟩] }
  | .poll k answer => s.poll service k answer
  | .dropSync k => { s with syncs := s.syncs.eraseIdx k }
  | .publishOther run => s.publishOther service run

/-! ## What an event is to the run -/

/-- The request that the event makes. -/
def claiming : Event → Option SparkRequest
  | .claim request => some request
  | _ => none

/-- The attempt whose result the event stores. -/
def storing (s : Shared) : Event → Option String
  | .result k _ => (s.attempts[k]?).bind fun attempt =>
      (s.row.taskStates.ofAttempt attempt.attemptId).map fun _ => attempt.attemptId
  | _ => none

/-- Airflow answers a poll of a run that was listed as active. -/
def polled (s : Shared) : Event → Option DagRun
  | .poll k (.dagRun dagRun _) => if (s.syncs[k]?).any (·.view.active) then some dagRun else none
  | _ => none

/-- Airflow does not know the run. -/
def missed (s : Shared) : Event → Bool
  | .poll k (.unavailable error) => (s.syncs[k]?).any (·.view.active) && error.missing
  | _ => false

/-! ## What an event changes -/

/-- The events that change something, each with what is known where it does. -/
inductive Effect (s : Shared) : Event → Shared → Prop
  | answered (answers : SubmissionAnswers) : Effect s (.answerSubmission answers) { s with
      row := s.row.answerSubmission service.host.toHost service.job answers
      submitting := false
      answered := s.answered || (s.row.status ≠ .success &&
        (s.row.answerSubmission service.host.toHost service.job answers).status = .success) }
  | claimed {request : SparkRequest} {row : RunRow}
      (h : s.row.claim service.lease request = .claimed row) : Effect s (.claim request) { s with
      row
      attempts := s.attempts ++ [⟨request.attemptId, request.owner⟩]
      granted := request.attemptId :: s.granted }
  | stored {k : Nat} {result : Manifest} {attempt : Attempt} {row : RunRow}
      (hk : s.attempts[k]? = some attempt)
      (h : s.row.storeResult service.host.toHost attempt.attemptId
        (sparkResultManifest service.host.toHost result s.row.runId) = some row) :
      Effect s (.result k result) { s with
      row
      attempts := s.attempts.eraseIdx k
      results := sparkResultManifest service.host.toHost result s.row.runId :: s.results }
  | raised {k : Nat} {error : String} {attempt : Attempt} (hk : s.attempts[k]? = some attempt) :
      Effect s (.raise k error) { s with
      row := (s.row.failAttempt attempt.attemptId (compactStorageText error 1000)).getD s.row
      attempts := s.attempts.eraseIdx k }
  /-- The attempt is over, and stored nothing. -/
  | lost {event : Event} (k : Nat) (h : s.storing event = none) :
      Effect s event { s with attempts := s.attempts.eraseIdx k }
  | opened {call : ReconcileCall} (hview : call.view = s.row.taskStates)
      (h : (s.row.startReconcile service.host.toHost service.job s.dataset =
          .verify call.sparkResult) ∨ ∃ message, call.failing = some message ∧
        s.row.startReconcile service.host.toHost service.job s.dataset = .fail message) :
      Effect s .reconcile { s with reconciles := s.reconciles ++ [call] }
  | published {k : Nat} {nameTaken : Bool} {storageSize : Int} {now : String}
      {verified : Verified} {call : ReconcileCall} {commit : CatalogCommit}
      (hk : s.reconciles[k]? = some call) (hfailing : call.failing = none)
      (h : commitCatalog service.host service.job nameTaken storageSize now verified
        call.sparkResult s.dataset = .ok commit) :
      Effect s (.publish k nameTaken storageSize now verified) { s with
      row := { s.row with taskStates := call.view.publish service.job s.row.runId commit }
      dataset := some commit.history
      reconciles := s.reconciles.eraseIdx k
      published := true }
  /-- A request reads the row again. -/
  | reread {event : Event} {k : Nat} {call again : ReconcileCall}
      (hk : s.reconciles[k]? = some call) (hview : again.view = s.row.taskStates)
      (hresult : again.sparkResult = call.sparkResult)
      (hfailing : again.failing = none → call.failing = none) :
      Effect s event { s with reconciles := s.reconciles.set k again }
  | failed {k : Nat} {call : ReconcileCall} {message : String}
      (hk : s.reconciles[k]? = some call) (hfailing : call.failing = some message) :
      Effect s (.recordFailure k) { s with
      row := s.row.recordFailure service.job message call.view
      reconciles := s.reconciles.eraseIdx k }
  | dropped (k : Nat) : Effect s (.dropReconcile k) { s with reconciles := s.reconciles.eraseIdx k }
  | listed : Effect s .sync { s with syncs := s.syncs ++ [⟨s.row, s.dataset⟩] }
  | polled {k : Nat} {answer : PollAnswer} {call : SyncCall} (hk : s.syncs[k]? = some call)
      (hactive : call.view.active = true) : Effect s (.poll k answer) { s with
      row := s.row.poll service.host.toProjectionHost service.title call.dataset answer
      syncs := s.syncs.eraseIdx k
      misses := s.misses + answer.misses }
  | repaired {k : Nat} {answer : PollAnswer} {call : SyncCall} {repaired : RunRow}
      (hk : s.syncs[k]? = some call)
      (h : call.view.repair service.host.toProjectionHost call.dataset = some repaired) :
      Effect s (.poll k answer) { s with
      row := repaired.flushRepair s.row
      syncs := s.syncs.eraseIdx k }
  /-- The poll is over, and has written nothing. -/
  | unlisted {event : Event} (k : Nat) (h : s.polled event = none) (hmissed : s.missed event = false) :
      Effect s event { s with syncs := s.syncs.eraseIdx k }
  | other {run : Run} {history : List Run}
      (h : upsertMaterializationRun service.host.toProjectionHost (stored (s.dataset.getD [])) run =
        .ok history) :
      Effect s (.publishOther run) { s with dataset := some history }

theorem effect_step (s : Shared) (event : Event) :
    s.step service event = s ∨ Effect service s event (s.step service event) := by
  cases event with
  | answerSubmission answers =>
      unfold Shared.step Shared.answerSubmission
      dsimp only
      split
      · exact Or.inr (.answered answers)
      · exact Or.inl rfl
  | claim request =>
      unfold Shared.step Shared.claim
      dsimp only
      split
      · rename_i row h
        exact Or.inr (.claimed h)
      · exact Or.inl rfl
  | result k result =>
      unfold Shared.step Shared.result
      dsimp only
      split
      · exact Or.inl rfl
      · rename_i attempt hk
        split
        · rename_i h
          refine Or.inr (.lost k ?_)
          simp only [RunRow.storeResult, Option.map_eq_none_iff] at h
          simp [storing, hk, h]
        · rename_i row h
          exact Or.inr (.stored hk h)
  | raise k error =>
      unfold Shared.step Shared.raise
      dsimp only
      split
      · exact Or.inl rfl
      · rename_i attempt hk
        exact Or.inr (.raised hk)
  | dropAttempt k => exact Or.inr (.lost k rfl)
  | reconcile =>
      unfold Shared.step Shared.reconcile
      dsimp only
      split
      · rename_i h
        exact Or.inr (.opened rfl (Or.inl h))
      · rename_i message h
        exact Or.inr (.opened rfl (Or.inr ⟨message, rfl, h⟩))
      · exact Or.inl rfl
  | publish k nameTaken storageSize now verified =>
      unfold Shared.step Shared.publish
      dsimp only
      split
      · exact Or.inl rfl
      · rename_i call hk
        split
        · exact Or.inl rfl
        · rename_i hopen
          split
          · exact Or.inl rfl
          · rename_i commit h
            refine Or.inr (.published hk ?_ h)
            simpa using fun hfailing => hopen (Or.inl hfailing)
  | conflict k =>
      unfold Shared.step Shared.conflict
      dsimp only
      split
      · exact Or.inl rfl
      · rename_i call hk
        split
        · exact Or.inl rfl
        · exact Or.inr (.reread hk rfl rfl id)
  | giveUp k message =>
      unfold Shared.step Shared.giveUp
      dsimp only
      split
      · exact Or.inl rfl
      · rename_i call hk
        split
        · exact Or.inl rfl
        · exact Or.inr (.reread hk rfl rfl (by simp))
  | recordFailure k =>
      unfold Shared.step Shared.recordFailure
      dsimp only
      split
      · exact Or.inl rfl
      · rename_i call hk
        split
        · exact Or.inl rfl
        · rename_i message hfailing
          exact Or.inr (.failed hk hfailing)
  | dropReconcile k => exact Or.inr (.dropped k)
  | sync => exact Or.inr .listed
  | poll k answer =>
      unfold Shared.step Shared.poll
      dsimp only
      split
      · exact Or.inl rfl
      · rename_i call hk
        split
        · rename_i hactive
          exact Or.inr (.polled hk hactive)
        · rename_i hactive
          cases h : call.view.repair service.host.toProjectionHost call.dataset with
          | none =>
              refine Or.inr (.unlisted k ?_ ?_)
              · cases answer <;> simp [polled, hk, hactive]
              · cases answer <;> simp [missed, hk, hactive]
          | some repaired => exact Or.inr (.repaired hk h)
  | dropSync k => exact Or.inr (.unlisted k rfl rfl)
  | publishOther run =>
      unfold Shared.step Shared.publishOther
      dsimp only
      split
      · rename_i history h
        exact Or.inr (.other h)
      · exact Or.inl rfl

end Shared

end AskLake.SnapshotRun

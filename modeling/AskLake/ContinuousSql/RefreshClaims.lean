/-
# `AskLake.ContinuousSql.RefreshClaims` — workers that refresh one job

Several workers may reconcile one job, and each publishes the revision it has pinned under
a claim in the job's row:

    pin      inputs at revision r; are they published already?
      yes    complete r, without a claim
      no     claim r, stage a batch, publish it, complete r or fail r

The row names a claim by its revision and its time only, and a completion or a failure asks
for the revision alone.  So a worker releases another's claim, on the same revision, and
nothing else does: the claims are exclusive in just those runs where no worker completes or
fails a revision that another one has an unexpired claim on.
-/
import AskLake.ContinuousSql.Publication
import AskLake.Lib.Run

namespace AskLake.ContinuousSql

open AskLake.Lib

/-! ## The row -/

/-- The refresh columns of `continuous_sql_jobs`; the time is in microseconds. -/
structure RefreshState where
  latestSourceRevision : Int := 0
  processingSourceRevision : Option Int := none
  publishedSourceRevision : Int := 0
  refreshStatus : String := "idle"
  refreshClaimedAt : Option Int := none
  refreshLastError : Option String := none
  deriving DecidableEq

/-- `claim_revision_refresh`, where it updates the row. -/
def claimRevisionRefresh (row : RefreshState) (desiredState : String) (sourceRevision now : Int)
    (staleAfterSeconds : Int) : Option RefreshState :=
  if desiredState = "running" ∧ row.publishedSourceRevision < sourceRevision ∧
      (row.processingSourceRevision = none ∨
        row.refreshClaimedAt.any (· < now - staleAfterSeconds * 1000000) = true) then
    some { row with
      latestSourceRevision := sourceRevision
      processingSourceRevision := some sourceRevision
      refreshStatus := "running"
      refreshClaimedAt := some now
      refreshLastError := none }
  else none

/-- `complete_revision_refresh` -/
def completeRevisionRefresh (row : RefreshState) (sourceRevision : Int) : RefreshState :=
  if row.publishedSourceRevision ≤ sourceRevision ∧
      (row.processingSourceRevision = some sourceRevision ∨
        row.processingSourceRevision = none) then
    { latestSourceRevision := sourceRevision
      processingSourceRevision := none
      publishedSourceRevision := sourceRevision
      refreshStatus := "dashboard_ready"
      refreshClaimedAt := none
      refreshLastError := none }
  else row

/-- `fail_revision_refresh` -/
def failRevisionRefresh (row : RefreshState) (sourceRevision : Int) (message : String) :
    RefreshState :=
  if row.processingSourceRevision = some sourceRevision then
    { row with
      processingSourceRevision := none
      refreshStatus := "failed"
      refreshClaimedAt := none
      refreshLastError := some (message.take 2000).toString }
  else row

/-! ## A pass -/

/-- `continuous_sql_dependencies` -/
structure Dependency where
  inputDatasetId : String
  childJobId : Option String
  inputType : String
  required : Bool
  deriving DecidableEq

structure PinnedRevisionInput where
  datasetId : String
  revision : Int
  snapshotId : String
  deriving DecidableEq

/-- An item of `inputSnapshots`; a static input has no revision. -/
structure InputSnapshot where
  datasetId : String
  revision : Option Int
  snapshotId : String
  deriving DecidableEq

/-- What a pass works on: the run's generation and static snapshots, and the inputs that it
has pinned. -/
structure RefreshPass where
  generation : Nat
  staticBindings : List (String × String)
  pinned : List PinnedRevisionInput
  deriving DecidableEq

/-- `_input_snapshots`: one item for each dependency, or a `KeyError`. -/
def RefreshPass.inputSnapshots (pass : RefreshPass) (dependencies : List Dependency) :
    Option (List InputSnapshot) :=
  dependencies.mapM fun dependency =>
    if dependency.inputType = "static" then
      (pass.staticBindings.lookup dependency.inputDatasetId).map fun snapshotId =>
        ⟨dependency.inputDatasetId, none, snapshotId⟩
    else
      (pass.pinned.reverse.find? fun item => item.datasetId = dependency.inputDatasetId).map
        fun item => ⟨item.datasetId, some item.revision, item.snapshotId⟩

/-- The largest revision that is pinned of a realtime input. -/
def RefreshPass.sourceRevision (pass : RefreshPass) (dependencies : List Dependency) : Int :=
  ((pass.pinned.filter fun item => dependencies.any fun dependency =>
    dependency.inputType = "realtime" && dependency.inputDatasetId = item.datasetId).map
      PinnedRevisionInput.revision).foldl max 0

/-! ## Batches -/

/-- `continuous_sql_batches` of the job, as far as a refresh reads it. -/
structure RefreshBatch where
  generation : Nat
  batchId : Nat
  stage : Stage
  inputSnapshots : List InputSnapshot
  deriving DecidableEq

/-- `ORDER BY generation DESC, batch_id DESC LIMIT 1` -/
def latestBatch (batches : List RefreshBatch) : Option RefreshBatch :=
  latestRow (fun batch other => batch.generation < other.generation ||
    (batch.generation = other.generation && batch.batchId < other.batchId)) batches

/-- `_already_applied` -/
def alreadyApplied (batches : List RefreshBatch) (generation : Nat)
    (inputSnapshots : List InputSnapshot) : Bool :=
  (latestBatch batches).any fun batch =>
    batch.generation = generation && batch.stage = .dashboardReady &&
      batch.inputSnapshots = inputSnapshots

/-- `next_batch_id` -/
def nextBatchId (batches : List RefreshBatch) (generation : Nat) : Nat :=
  (((batches.filter fun batch => batch.generation = generation).map
    RefreshBatch.batchId).max?).elim 0 (· + 1)

/-- `get_batch` -/
def findBatch (batches : List RefreshBatch) (generation batchId : Nat) : Option RefreshBatch :=
  batches.find? fun batch => batch.generation = generation && batch.batchId = batchId

/-- The stage of a batch moves, until the batch is on the dashboard. -/
def RefreshBatch.move (generation batchId : Nat) (stage : Stage) (batch : RefreshBatch) :
    RefreshBatch :=
  if batch.generation = generation ∧ batch.batchId = batchId ∧ batch.stage ≠ .dashboardReady then
    { batch with stage }
  else batch

/-! ## Workers -/

/-- What a worker is at: its revision, its inputs, and from the claim on the time of it. -/
inductive Refreshing
  | idle
  | checked (revision : Int) (pass : RefreshPass) (inputs : List InputSnapshot) (applied : Bool)
  | claimed (revision : Int) (pass : RefreshPass) (inputs : List InputSnapshot) (claimedAt : Int)
  | built (revision : Int) (pass : RefreshPass) (inputs : List InputSnapshot) (claimedAt : Int)
      (batchId : Nat)
  | staged (revision : Int) (pass : RefreshPass) (inputs : List InputSnapshot) (claimedAt : Int)
      (batchId : Nat)
  | ready (revision : Int) (pass : RefreshPass) (inputs : List InputSnapshot) (claimedAt : Int)
  | raising (revision : Int) (claimedAt : Int) (message : String)
  | gone (claim : Option (Int × Int))
  deriving DecidableEq

/-- The revision and the time of the claim that a worker has taken and not ended; a worker
that is gone leaves its claim. -/
def Refreshing.claim : Refreshing → Option (Int × Int)
  | idle => none
  | checked .. => none
  | claimed revision _ _ claimedAt => some (revision, claimedAt)
  | built revision _ _ claimedAt _ => some (revision, claimedAt)
  | staged revision _ _ claimedAt _ => some (revision, claimedAt)
  | ready revision _ _ claimedAt => some (revision, claimedAt)
  | raising revision claimedAt _ => some (revision, claimedAt)
  | gone claim => claim

/-- The revision that a worker completes or fails with its next statement. -/
def Refreshing.ends : Refreshing → Option Int
  | idle => none
  | checked revision _ _ applied => if applied then some revision else none
  | claimed .. => none
  | built .. => none
  | staged .. => none
  | ready revision .. => some revision
  | raising revision .. => some revision
  | gone _ => none

/-- The inputs that a worker has pinned. -/
def Refreshing.inputs : Refreshing → Option (RefreshPass × List InputSnapshot)
  | idle => none
  | checked _ pass inputs _ => some (pass, inputs)
  | claimed _ pass inputs _ => some (pass, inputs)
  | built _ pass inputs _ _ => some (pass, inputs)
  | staged _ pass inputs _ _ => some (pass, inputs)
  | ready _ pass inputs _ => some (pass, inputs)
  | raising .. => none
  | gone _ => none

/-- The job's row, its batches, and what each worker is at. -/
structure Refresh where
  desiredState : String
  row : RefreshState
  batches : List RefreshBatch
  worker : Nat → Refreshing
  clock : Int

namespace Refresh

/-- A job that nobody has refreshed. -/
def start : Refresh := ⟨"stopped", {}, [], fun _ => .idle, 0⟩

def setWorker (s : Refresh) (w : Nat) (at_ : Refreshing) : Refresh :=
  { s with worker := Function.update s.worker w at_ }

end Refresh

/-- What happens: a command sets the desired state; a worker pins its inputs, makes its next
statement on the row, takes its batch's number, stages the batch (where the other evidence of
a batch of that number is the `same` or not), has it published up to some stage, meets an
error, or is gone. -/
inductive RefreshAction
  | desire (state : String)
  | pin (pass : RefreshPass)
  | proceed
  | build
  | stage (same : Bool)
  | publish (stage : Stage) (message : String)
  | raise (message : String)
  | die
  deriving DecidableEq

structure RefreshCall where
  now : Int
  worker : Nat
  action : RefreshAction
  deriving DecidableEq

namespace Refresh

variable (dependencies : List Dependency) (staleAfterSeconds : Int)

/-- A pass starts: with a revision to publish, and unless its inputs are there already. -/
def pin (s : Refresh) (w : Nat) (pass : RefreshPass) : Refresh :=
  match s.worker w, pass.inputSnapshots dependencies with
  | .idle, some inputs =>
      if pass.sourceRevision dependencies ≤ 0 then s
      else s.setWorker w (.checked (pass.sourceRevision dependencies) pass inputs
        (alreadyApplied s.batches pass.generation inputs))
  | _, _ => s

/-- The worker's next statement on the row. -/
def proceed (s : Refresh) (w : Nat) (now : Int) : Refresh :=
  match s.worker w with
  | .checked revision pass inputs applied =>
      if applied then { s.setWorker w .idle with row := completeRevisionRefresh s.row revision }
      else
        match claimRevisionRefresh s.row s.desiredState revision now staleAfterSeconds with
        | none => s.setWorker w .idle
        | some row => { s.setWorker w (.claimed revision pass inputs now) with row }
  | .ready revision _ _ _ =>
      { s.setWorker w .idle with row := completeRevisionRefresh s.row revision }
  | .raising revision _ message =>
      { s.setWorker w .idle with row := failRevisionRefresh s.row revision message }
  | _ => s

def build (s : Refresh) (w : Nat) : Refresh :=
  match s.worker w with
  | .claimed revision pass inputs claimedAt =>
      s.setWorker w (.built revision pass inputs claimedAt (nextBatchId s.batches pass.generation))
  | _ => s

/-- `stage_batch`: a batch of that number is another one, or this one again. -/
def stage (s : Refresh) (w : Nat) (same : Bool) : Refresh :=
  match s.worker w with
  | .built revision pass inputs claimedAt batchId =>
      match findBatch s.batches pass.generation batchId with
      | none =>
          { s.setWorker w (.staged revision pass inputs claimedAt batchId) with
            batches := s.batches ++ [⟨pass.generation, batchId, .outputCommitted, inputs⟩] }
      | some batch =>
          if same ∧ batch.inputSnapshots = inputs then
            s.setWorker w (if batch.stage = .dashboardReady then
              .ready revision pass inputs claimedAt
            else .staged revision pass inputs claimedAt batchId)
          else
            s.setWorker w (.raising revision claimedAt
              "Continuous SQL batch identity was reused with different lineage evidence")
  | _ => s

/-- The rest of `reconcile_manifest`, which the batch leaves at some stage. -/
def publish (s : Refresh) (w : Nat) (stage : Stage) (message : String) : Refresh :=
  match s.worker w with
  | .staged revision pass inputs claimedAt batchId =>
      let batches := s.batches.map (RefreshBatch.move pass.generation batchId stage)
      { s.setWorker w (if (findBatch batches pass.generation batchId).any fun batch =>
            batch.stage = .dashboardReady
          then .ready revision pass inputs claimedAt
          else .raising revision claimedAt message) with batches }
  | _ => s

/-- An exception inside the pass's `try`. -/
def raise (s : Refresh) (w : Nat) (message : String) : Refresh :=
  match s.worker w with
  | .claimed revision _ _ claimedAt => s.setWorker w (.raising revision claimedAt message)
  | .built revision _ _ claimedAt _ => s.setWorker w (.raising revision claimedAt message)
  | .staged revision _ _ claimedAt _ => s.setWorker w (.raising revision claimedAt message)
  | _ => s

def act (s : Refresh) (w : Nat) (now : Int) : RefreshAction → Refresh
  | .desire state => { s with desiredState := state }
  | .pin pass => s.pin dependencies w pass
  | .proceed => s.proceed staleAfterSeconds w now
  | .build => s.build w
  | .stage same => s.stage w same
  | .publish stage message => s.publish w stage message
  | .raise message => s.raise w message
  | .die => s.setWorker w (.gone (s.worker w).claim)

def step (s : Refresh) (call : RefreshCall) : Refresh :=
  { s.act dependencies staleAfterSeconds call.worker call.now call.action with clock := call.now }

/-! ## The law, and when it holds -/

/-- The worker has a claim that is not stale. -/
def Held (s : Refresh) (w : Nat) (now : Int) : Prop :=
  ∃ revision claimedAt, (s.worker w).claim = some (revision, claimedAt) ∧
    now ≤ claimedAt + staleAfterSeconds * 1000000

/-- What a call may do: the published revision does not go back; while another worker's claim
is unexpired the row stays as it is and the claim is refused; and a revision is published by
a worker that pinned inputs at it, which a batch has brought to the dashboard. -/
structure Lawful (s : Refresh) (call : RefreshCall) : Prop where
  published_le : s.row.publishedSourceRevision ≤
    (s.step dependencies staleAfterSeconds call).row.publishedSourceRevision
  exclusive : ∀ w, w ≠ call.worker → s.Held staleAfterSeconds w call.now →
    (s.step dependencies staleAfterSeconds call).row = s.row ∧
    ∀ claim, ((s.step dependencies staleAfterSeconds call).worker call.worker).claim = some claim →
      (s.worker call.worker).claim = some claim
  dashboard_ready : s.row.publishedSourceRevision <
      (s.step dependencies staleAfterSeconds call).row.publishedSourceRevision →
    ∃ pass inputs, (s.worker call.worker).inputs = some (pass, inputs) ∧
      pass.inputSnapshots dependencies = some inputs ∧
      pass.sourceRevision dependencies =
        (s.step dependencies staleAfterSeconds call).row.publishedSourceRevision ∧
      ∃ batch ∈ s.batches, batch.stage = .dashboardReady ∧ batch.inputSnapshots = inputs

/-- Nobody completes or fails a revision that another worker has an unexpired claim on. -/
def Unclaimed (s : Refresh) (call : RefreshCall) : Prop :=
  call.action = .proceed → ∀ revision, (s.worker call.worker).ends = some revision →
    ∀ w, w ≠ call.worker → ∀ claimedAt, (s.worker w).claim = some (revision, claimedAt) →
      claimedAt + staleAfterSeconds * 1000000 < call.now

/-! ## The claims -/

/-- An unexpired claim is the row's, and there is one at a time. -/
structure ClaimsKept (s : Refresh) : Prop where
  past : ∀ w revision claimedAt, (s.worker w).claim = some (revision, claimedAt) →
    claimedAt ≤ s.clock
  held : ∀ w revision claimedAt, (s.worker w).claim = some (revision, claimedAt) →
    s.clock ≤ claimedAt + staleAfterSeconds * 1000000 →
    s.row.processingSourceRevision = some revision ∧ s.row.refreshClaimedAt = some claimedAt
  alone : ∀ w w', s.Held staleAfterSeconds w s.clock → s.Held staleAfterSeconds w' s.clock → w = w'
  ahead : ∀ revision, s.row.processingSourceRevision = some revision →
    s.row.publishedSourceRevision < revision

variable {dependencies : List Dependency} {staleAfterSeconds : Int}

theorem claimsKept_start : start.ClaimsKept staleAfterSeconds where
  past _ _ _ h := nomatch h
  held _ _ _ h := nomatch h
  alone _ _ h := by
    obtain ⟨_, _, h, -⟩ := h
    exact nomatch h
  ahead _ h := nomatch h

/-- Where no claim is new, and the row of one that lives on stays. -/
theorem ClaimsKept.of_fewer {s s' : Refresh} (hs : s.ClaimsKept staleAfterSeconds)
    (hclock : s.clock ≤ s'.clock)
    (hclaims : ∀ w claim, (s'.worker w).claim = some claim → (s.worker w).claim = some claim)
    (hrow : ∀ w, s'.Held staleAfterSeconds w s'.clock → s'.row = s.row)
    (hahead : ∀ revision, s'.row.processingSourceRevision = some revision →
      s'.row.publishedSourceRevision < revision) : s'.ClaimsKept staleAfterSeconds where
  past w revision claimedAt h := by
    have := hs.past w revision claimedAt (hclaims w _ h)
    omega
  held w revision claimedAt h hlive := by
    rw [hrow w ⟨revision, claimedAt, h, hlive⟩]
    exact hs.held w revision claimedAt (hclaims w _ h) (by omega)
  alone w w' h h' := by
    have hheld : ∀ w, s'.Held staleAfterSeconds w s'.clock → s.Held staleAfterSeconds w s.clock := by
      intro w hw
      obtain ⟨revision, claimedAt, hclaim, hlive⟩ := hw
      exact ⟨revision, claimedAt, hclaims w _ hclaim, by omega⟩
    exact hs.alone w w' (hheld w h) (hheld w' h')
  ahead := hahead

/-- A claim is refused while another one is unexpired. -/
theorem ClaimsKept.refused {s : Refresh} (hs : s.ClaimsKept staleAfterSeconds) {w : Nat}
    {now : Int} (hclock : s.clock ≤ now) (hheld : s.Held staleAfterSeconds w now)
    (sourceRevision : Int) :
    claimRevisionRefresh s.row s.desiredState sourceRevision now staleAfterSeconds = none := by
  obtain ⟨revision, claimedAt, hclaim, hlive⟩ := hheld
  obtain ⟨hprocessing, hat⟩ := hs.held w revision claimedAt hclaim (by omega)
  rw [claimRevisionRefresh, if_neg]
  rintro ⟨-, -, hnone | hstale⟩
  · exact nomatch hprocessing.symm.trans hnone
  · rw [hat] at hstale
    have : claimedAt < now - staleAfterSeconds * 1000000 := by simpa using hstale
    omega

/-- No worker has a claim that it had not. -/
def Fewer (s s' : Refresh) : Prop :=
  ∀ w claim, (s'.worker w).claim = some claim → (s.worker w).claim = some claim

theorem Fewer.refl (s : Refresh) : Fewer s s := fun _ _ h => h

@[simp] theorem worker_setWorker_self (s : Refresh) (w : Nat) (at_ : Refreshing) :
    (s.setWorker w at_).worker w = at_ := by
  simp [setWorker]

theorem worker_setWorker_ne (s : Refresh) {w w' : Nat} (at_ : Refreshing) (h : w' ≠ w) :
    (s.setWorker w at_).worker w' = s.worker w' := by
  simp [setWorker, h]

/-- A worker that keeps its claim, or drops it. -/
theorem fewer_of {s s' : Refresh} {w : Nat} {at_ : Refreshing}
    (hworker : s'.worker = (s.setWorker w at_).worker)
    (h : ∀ claim, at_.claim = some claim → (s.worker w).claim = some claim) : Fewer s s' := by
  intro w' claim hclaim
  rw [hworker] at hclaim
  by_cases hw : w' = w
  · subst hw
    rw [worker_setWorker_self] at hclaim
    exact h claim hclaim
  · rwa [worker_setWorker_ne s at_ hw] at hclaim

/-- Only a statement on the row writes it, or takes a claim. -/
theorem act_of_ne {s : Refresh} {w : Nat} {now : Int} {action : RefreshAction}
    (h : action ≠ .proceed) :
    (s.act dependencies staleAfterSeconds w now action).row = s.row ∧
      Fewer s (s.act dependencies staleAfterSeconds w now action) := by
  cases action with
  | proceed => exact absurd rfl h
  | desire state => exact ⟨rfl, .refl s⟩
  | pin pass =>
      simp only [act, pin]
      split
      · split
        · exact ⟨rfl, .refl s⟩
        · exact ⟨rfl, fewer_of rfl fun _ h => nomatch h⟩
      · exact ⟨rfl, .refl s⟩
  | build =>
      simp only [act, build]
      split
      · rename_i hworker
        exact ⟨rfl, fewer_of rfl fun _ h => by rwa [hworker]⟩
      · exact ⟨rfl, .refl s⟩
  | stage same =>
      simp only [act, stage]
      split
      · rename_i hworker
        split
        · exact ⟨rfl, fewer_of rfl fun _ h => by rwa [hworker]⟩
        · split
          · refine ⟨rfl, fewer_of rfl fun _ h => ?_⟩
            rw [hworker]
            split at h
            · exact h
            · exact h
          · exact ⟨rfl, fewer_of rfl fun _ h => by rwa [hworker]⟩
      · exact ⟨rfl, .refl s⟩
  | publish stage message =>
      simp only [act, publish]
      split
      · rename_i hworker
        refine ⟨rfl, fewer_of rfl fun _ h => ?_⟩
        rw [hworker]
        split at h
        · exact h
        · exact h
      · exact ⟨rfl, .refl s⟩
  | raise message =>
      simp only [act, raise]
      split
      · rename_i hworker
        exact ⟨rfl, fewer_of rfl fun _ h => by rwa [hworker]⟩
      · rename_i hworker
        exact ⟨rfl, fewer_of rfl fun _ h => by rwa [hworker]⟩
      · rename_i hworker
        exact ⟨rfl, fewer_of rfl fun _ h => by rwa [hworker]⟩
      · exact ⟨rfl, .refl s⟩
  | die => exact ⟨rfl, fewer_of rfl fun _ h => h⟩

/-- What the worker's next statement does: nothing; a completion or a failure of the revision
that it ends; a claim that is refused; or a claim. -/
theorem proceed_cases (s : Refresh) (w : Nat) (now : Int) :
    s.proceed staleAfterSeconds w now = s ∧ (s.worker w).ends = none ∨
    (∃ revision pass inputs, (s.worker w).ends = some revision ∧
      (s.worker w).inputs = some (pass, inputs) ∧
      s.proceed staleAfterSeconds w now =
        { s.setWorker w .idle with row := completeRevisionRefresh s.row revision }) ∨
    (∃ revision message, (s.worker w).ends = some revision ∧
      s.proceed staleAfterSeconds w now =
        { s.setWorker w .idle with row := failRevisionRefresh s.row revision message }) ∨
    ((s.worker w).ends = none ∧ s.proceed staleAfterSeconds w now = s.setWorker w .idle) ∨
    ∃ revision pass inputs row, s.worker w = .checked revision pass inputs false ∧
      claimRevisionRefresh s.row s.desiredState revision now staleAfterSeconds = some row ∧
      s.proceed staleAfterSeconds w now =
        { s.setWorker w (.claimed revision pass inputs now) with row } := by
  cases hworker : s.worker w with
  | idle => exact Or.inl ⟨by simp only [proceed, hworker], rfl⟩
  | claimed revision pass inputs claimedAt => exact Or.inl ⟨by simp only [proceed, hworker], rfl⟩
  | built revision pass inputs claimedAt batchId =>
      exact Or.inl ⟨by simp only [proceed, hworker], rfl⟩
  | staged revision pass inputs claimedAt batchId =>
      exact Or.inl ⟨by simp only [proceed, hworker], rfl⟩
  | gone claim => exact Or.inl ⟨by simp only [proceed, hworker], rfl⟩
  | ready revision pass inputs claimedAt =>
      exact Or.inr (Or.inl ⟨revision, pass, inputs, rfl, rfl, by simp only [proceed, hworker]⟩)
  | raising revision claimedAt message =>
      exact Or.inr (Or.inr (Or.inl ⟨revision, message, rfl, by simp only [proceed, hworker]⟩))
  | checked revision pass inputs applied =>
      cases applied with
      | true =>
          exact Or.inr (Or.inl ⟨revision, pass, inputs, rfl, rfl, by
            simp only [proceed, hworker, if_true]⟩)
      | false =>
          right; right; right
          cases hclaim : claimRevisionRefresh s.row s.desiredState revision now
            staleAfterSeconds with
          | none =>
              exact Or.inl ⟨rfl, by simp only [proceed, hworker, hclaim]; rfl⟩
          | some row =>
              exact Or.inr ⟨revision, pass, inputs, row, rfl, hclaim, by
                simp only [proceed, hworker, hclaim]; rfl⟩

end Refresh

/-! ## The statements on the row -/

theorem claim_row {row row' : RefreshState} {desiredState : String}
    {sourceRevision now staleAfterSeconds : Int}
    (h : claimRevisionRefresh row desiredState sourceRevision now staleAfterSeconds = some row') :
    row'.processingSourceRevision = some sourceRevision ∧ row'.refreshClaimedAt = some now ∧
      row'.publishedSourceRevision = row.publishedSourceRevision ∧
      row.publishedSourceRevision < sourceRevision := by
  unfold claimRevisionRefresh at h
  split at h
  · rename_i hadmitted
    obtain ⟨⟩ := h
    exact ⟨rfl, rfl, rfl, hadmitted.2.1⟩
  · exact nomatch h

/-- A row that processes another revision is not completed. -/
theorem complete_other {row : RefreshState} {revision other : Int}
    (h : row.processingSourceRevision = some other) (hne : other ≠ revision) :
    completeRevisionRefresh row revision = row := by
  simp [completeRevisionRefresh, h, hne]

theorem fail_other {row : RefreshState} {revision other : Int} {message : String}
    (h : row.processingSourceRevision = some other) (hne : other ≠ revision) :
    failRevisionRefresh row revision message = row := by
  simp [failRevisionRefresh, h, hne]

/-- A completion is of the row as it was, or leaves no revision in process. -/
theorem complete_cases (row : RefreshState) (revision : Int) :
    completeRevisionRefresh row revision = row ∨
      ((completeRevisionRefresh row revision).processingSourceRevision = none ∧
        row.publishedSourceRevision ≤ revision ∧
        (completeRevisionRefresh row revision).publishedSourceRevision = revision) := by
  unfold completeRevisionRefresh
  split
  · rename_i h
    exact Or.inr ⟨rfl, h.1, rfl⟩
  · exact Or.inl rfl

theorem fail_cases (row : RefreshState) (revision : Int) (message : String) :
    failRevisionRefresh row revision message = row ∨
      ((failRevisionRefresh row revision message).processingSourceRevision = none ∧
        (failRevisionRefresh row revision message).publishedSourceRevision =
          row.publishedSourceRevision) := by
  unfold failRevisionRefresh
  split
  · exact Or.inr ⟨rfl, rfl⟩
  · exact Or.inl rfl

/-- The row's own revision is completed. -/
theorem complete_self {row : RefreshState} {revision : Int}
    (h : row.processingSourceRevision = some revision)
    (hahead : row.publishedSourceRevision < revision) :
    (completeRevisionRefresh row revision).processingSourceRevision = none := by
  rw [completeRevisionRefresh, if_pos ⟨by omega, Or.inl h⟩]

theorem fail_self {row : RefreshState} {revision : Int} {message : String}
    (h : row.processingSourceRevision = some revision) :
    (failRevisionRefresh row revision message).processingSourceRevision = none := by
  rw [failRevisionRefresh, if_pos h]

namespace Refresh

variable {dependencies : List Dependency} {staleAfterSeconds : Int}

/-- A revision that is ended and that nobody else has claimed is not one that lives on. -/
theorem Unclaimed.ne {s : Refresh} {call : RefreshCall} (h : s.Unclaimed staleAfterSeconds call)
    (hproceed : call.action = .proceed) {revision : Int}
    (hends : (s.worker call.worker).ends = some revision) {w : Nat} (hw : w ≠ call.worker)
    {other claimedAt : Int} (hclaim : (s.worker w).claim = some (other, claimedAt))
    (hlive : call.now ≤ claimedAt + staleAfterSeconds * 1000000) : other ≠ revision := by
  rintro rfl
  have := h hproceed other hends w hw claimedAt hclaim
  omega

theorem ClaimsKept.processing {s : Refresh} (hs : s.ClaimsKept staleAfterSeconds) {w : Nat}
    {now revision claimedAt : Int} (hclock : s.clock ≤ now)
    (hclaim : (s.worker w).claim = some (revision, claimedAt))
    (hlive : now ≤ claimedAt + staleAfterSeconds * 1000000) :
    s.row.processingSourceRevision = some revision :=
  (hs.held w revision claimedAt hclaim (by omega)).1

/-- The claims that live on leave the row to a worker that ends another revision. -/
theorem ClaimsKept.ended {s : Refresh} (hs : s.ClaimsKept staleAfterSeconds) {call : RefreshCall}
    (hclock : s.clock ≤ call.now) (h : s.Unclaimed staleAfterSeconds call)
    (hproceed : call.action = .proceed) {revision : Int}
    (hends : (s.worker call.worker).ends = some revision) {row : RefreshState}
    (hother : ∀ other, s.row.processingSourceRevision = some other → other ≠ revision →
      row = s.row)
    (hnone : row = s.row ∨ row.processingSourceRevision = none) :
    ({ s.setWorker call.worker .idle with row, clock := call.now } : Refresh).ClaimsKept
      staleAfterSeconds := by
  have hfewer : Fewer s { s.setWorker call.worker .idle with row, clock := call.now } :=
    fewer_of rfl fun _ h => nomatch h
  refine hs.of_fewer hclock hfewer ?_ ?_
  · rintro w ⟨other, claimedAt, hclaim, hlive⟩
    have hw : w ≠ call.worker := by
      rintro rfl
      simp [setWorker, Refreshing.claim] at hclaim
    have hbefore := hfewer w _ hclaim
    exact hother other (hs.processing hclock hbefore hlive)
      (h.ne hproceed hends hw hbefore hlive)
  · intro other hprocessing
    rcases hnone with hrow | hrow
    · subst hrow
      exact hs.ahead other hprocessing
    · exact nomatch hrow.symm.trans hprocessing

/-- A claim that is taken is the only one. -/
theorem ClaimsKept.taken {s : Refresh} (hs : s.ClaimsKept staleAfterSeconds) {call : RefreshCall}
    (hclock : s.clock ≤ call.now) {revision : Int} {pass : RefreshPass}
    {inputs : List InputSnapshot} {row : RefreshState}
    (hclaim : claimRevisionRefresh s.row s.desiredState revision call.now staleAfterSeconds =
      some row) :
    ({ s.setWorker call.worker (.claimed revision pass inputs call.now) with
        row, clock := call.now } : Refresh).ClaimsKept staleAfterSeconds := by
  obtain ⟨hprocessing, hat, hpublished, hahead⟩ := claim_row hclaim
  have hbefore : ∀ w, w ≠ call.worker → ({ s.setWorker call.worker
      (.claimed revision pass inputs call.now) with row, clock := call.now } : Refresh).worker w =
        s.worker w := fun w hw => worker_setWorker_ne s _ hw
  have hself : ({ s.setWorker call.worker (.claimed revision pass inputs call.now) with
      row, clock := call.now } : Refresh).worker call.worker =
        .claimed revision pass inputs call.now := worker_setWorker_self s _ _
  have halone : ∀ w, ({ s.setWorker call.worker (.claimed revision pass inputs call.now) with
      row, clock := call.now } : Refresh).Held staleAfterSeconds w call.now → w = call.worker := by
    intro w hheld
    by_contra hw
    rw [Held, hbefore w hw] at hheld
    exact nomatch (hs.refused hclock hheld revision).symm.trans hclaim
  constructor
  · intro w revision' claimedAt h
    by_cases hw : w = call.worker
    · subst hw
      rw [hself] at h
      obtain ⟨⟩ := h
      exact Int.le_refl _
    · rw [hbefore w hw] at h
      exact Int.le_trans (hs.past w revision' claimedAt h) hclock
  · intro w revision' claimedAt h hlive
    obtain rfl := halone w ⟨revision', claimedAt, h, hlive⟩
    rw [hself] at h
    obtain ⟨⟩ := h
    exact ⟨hprocessing, hat⟩
  · intro w w' h h'
    rw [halone w h, halone w' h']
  · intro revision' h
    obtain ⟨⟩ := hprocessing.symm.trans h
    show row.publishedSourceRevision < _
    omega

theorem ClaimsKept.step {s : Refresh} (hs : s.ClaimsKept staleAfterSeconds) {call : RefreshCall}
    (hclock : s.clock ≤ call.now) (h : s.Unclaimed staleAfterSeconds call) :
    (s.step dependencies staleAfterSeconds call).ClaimsKept staleAfterSeconds := by
  by_cases hproceed : call.action = .proceed
  · have hstep : s.step dependencies staleAfterSeconds call =
        { s.proceed staleAfterSeconds call.worker call.now with clock := call.now } := by
      rw [Refresh.step, hproceed]
      rfl
    rw [hstep]
    rcases proceed_cases s call.worker call.now with ⟨hsame, -⟩ |
      ⟨revision, pass, inputs, hends, -, hcomplete⟩ | ⟨revision, message, hends, hfail⟩ |
      ⟨-, hrefused⟩ | ⟨revision, pass, inputs, row, -, hclaim, htaken⟩
    · rw [hsame]
      exact hs.of_fewer hclock (fun _ _ h => h) (fun _ _ => rfl) hs.ahead
    · rw [hcomplete]
      exact hs.ended hclock h hproceed hends (fun _ hrow hne => complete_other hrow hne)
        ((complete_cases s.row revision).imp_right And.left)
    · rw [hfail]
      exact hs.ended hclock h hproceed hends (fun _ hrow hne => fail_other hrow hne)
        ((fail_cases s.row revision message).imp_right And.left)
    · rw [hrefused]
      exact hs.of_fewer hclock (fewer_of rfl fun _ h => nomatch h) (fun _ _ => rfl) hs.ahead
    · rw [htaken]
      exact hs.taken hclock hclaim
  · obtain ⟨hrow, hfewer⟩ := @act_of_ne dependencies staleAfterSeconds s call.worker call.now _ hproceed
    refine hs.of_fewer hclock hfewer (fun _ _ => hrow) ?_
    show ∀ revision, (s.act _ _ _ _ _).row.processingSourceRevision = some revision →
      (s.act _ _ _ _ _).row.publishedSourceRevision < revision
    rw [hrow]
    exact hs.ahead

end Refresh

/-! ## The publications -/

/-- A batch of these inputs is on the dashboard. -/
def Published (batches : List RefreshBatch) (inputs : List InputSnapshot) : Prop :=
  ∃ batch ∈ batches, batch.stage = .dashboardReady ∧ batch.inputSnapshots = inputs

/-- Batches keep their number and inputs, and one that is on the dashboard stays there. -/
structure Grows (batches batches' : List RefreshBatch) : Prop where
  find : ∀ generation batchId batch, findBatch batches generation batchId = some batch →
    ∃ batch', findBatch batches' generation batchId = some batch' ∧
      batch'.inputSnapshots = batch.inputSnapshots
  published : ∀ inputs, Published batches inputs → Published batches' inputs

theorem Grows.refl (batches : List RefreshBatch) : Grows batches batches :=
  ⟨fun _ _ batch h => ⟨batch, h, rfl⟩, fun _ h => h⟩

theorem grows_append (batches more : List RefreshBatch) : Grows batches (batches ++ more) where
  find _ _ batch h := ⟨batch, by rw [findBatch, List.find?_append, ← findBatch, h]; rfl, rfl⟩
  published _ h := by
    obtain ⟨batch, hbatch, hready⟩ := h
    exact ⟨batch, List.mem_append_left _ hbatch, hready⟩

section
variable {generation batchId : Nat} {stage : Stage}

theorem move_key (batch : RefreshBatch) :
    (batch.move generation batchId stage).generation = batch.generation ∧
      (batch.move generation batchId stage).batchId = batch.batchId ∧
      (batch.move generation batchId stage).inputSnapshots = batch.inputSnapshots := by
  unfold RefreshBatch.move
  split
  · exact ⟨rfl, rfl, rfl⟩
  · exact ⟨rfl, rfl, rfl⟩

theorem move_ready {batch : RefreshBatch} (h : batch.stage = .dashboardReady) :
    batch.move generation batchId stage = batch := by
  rw [RefreshBatch.move, if_neg fun hmove => hmove.2.2 h]

theorem grows_move (batches : List RefreshBatch) :
    Grows batches (batches.map (RefreshBatch.move generation batchId stage)) where
  find generation' batchId' batch h := by
    refine ⟨batch.move generation batchId stage, ?_, (move_key batch).2.2⟩
    rw [findBatch, List.find?_map]
    have hkey : ((fun batch : RefreshBatch => (batch.generation = generation' &&
        batch.batchId = batchId' : Bool)) ∘ RefreshBatch.move generation batchId stage) =
        fun batch => (batch.generation = generation' && batch.batchId = batchId' : Bool) := by
      funext batch
      simp only [Function.comp_def, (move_key batch).1, (move_key batch).2.1]
    rw [hkey, ← findBatch, h]
    rfl
  published inputs h := by
    obtain ⟨batch, hbatch, hready, hinputs⟩ := h
    refine ⟨batch, ?_, hready, hinputs⟩
    rw [← @move_ready generation batchId stage batch hready]
    exact List.mem_map_of_mem hbatch

end

/-- What is found applied is on the dashboard. -/
theorem published_of_alreadyApplied {batches : List RefreshBatch} {generation : Nat}
    {inputs : List InputSnapshot} (h : alreadyApplied batches generation inputs = true) :
    Published batches inputs := by
  unfold alreadyApplied at h
  cases hlatest : latestBatch batches with
  | none =>
      rw [hlatest] at h
      exact nomatch h
  | some batch =>
      rw [hlatest] at h
      simp only [Option.any_some, Bool.and_eq_true, decide_eq_true_eq] at h
      exact ⟨batch, mem_of_latestRow hlatest, h.1.2, h.2⟩

/-- What a worker has established of its inputs. -/
def Refreshing.Evident (dependencies : List Dependency) (batches : List RefreshBatch) :
    Refreshing → Prop
  | idle => True
  | checked revision pass inputs applied =>
      pass.inputSnapshots dependencies = some inputs ∧ pass.sourceRevision dependencies = revision ∧
        (applied = true → Published batches inputs)
  | claimed revision pass inputs _ =>
      pass.inputSnapshots dependencies = some inputs ∧ pass.sourceRevision dependencies = revision
  | built revision pass inputs _ _ =>
      pass.inputSnapshots dependencies = some inputs ∧ pass.sourceRevision dependencies = revision
  | staged revision pass inputs _ batchId =>
      pass.inputSnapshots dependencies = some inputs ∧ pass.sourceRevision dependencies = revision ∧
        ∃ batch, findBatch batches pass.generation batchId = some batch ∧
          batch.inputSnapshots = inputs
  | ready revision pass inputs _ =>
      pass.inputSnapshots dependencies = some inputs ∧ pass.sourceRevision dependencies = revision ∧
        Published batches inputs
  | raising .. => True
  | gone _ => True

theorem Refreshing.Evident.grow {dependencies : List Dependency}
    {batches batches' : List RefreshBatch} {at_ : Refreshing}
    (h : at_.Evident dependencies batches) (hgrows : Grows batches batches') :
    at_.Evident dependencies batches' := by
  cases at_ with
  | idle => trivial
  | checked revision pass inputs applied =>
      exact ⟨h.1, h.2.1, fun happlied => hgrows.published _ (h.2.2 happlied)⟩
  | claimed revision pass inputs claimedAt => exact h
  | built revision pass inputs claimedAt batchId => exact h
  | staged revision pass inputs claimedAt batchId =>
      obtain ⟨hinputs, hrevision, batch, hbatch, hsame⟩ := h
      obtain ⟨batch', hbatch', hsame'⟩ := hgrows.find _ _ _ hbatch
      exact ⟨hinputs, hrevision, batch', hbatch', hsame'.trans hsame⟩
  | ready revision pass inputs claimedAt => exact ⟨h.1, h.2.1, hgrows.published _ h.2.2⟩
  | raising revision claimedAt message => trivial
  | gone claim => trivial

namespace Refresh

variable {dependencies : List Dependency} {staleAfterSeconds : Int}

/-- Every worker's inputs are as it has established. -/
def Evident (dependencies : List Dependency) (s : Refresh) : Prop :=
  ∀ w, (s.worker w).Evident dependencies s.batches

theorem Evident.set {s s' : Refresh} (hs : s.Evident dependencies) {w : Nat} {at_ : Refreshing}
    (hgrows : Grows s.batches s'.batches) (hworker : s'.worker = (s.setWorker w at_).worker)
    (h : at_.Evident dependencies s'.batches) : s'.Evident dependencies := by
  intro w'
  rw [hworker]
  by_cases hw : w' = w
  · subst hw
    rwa [worker_setWorker_self]
  · rw [worker_setWorker_ne s at_ hw]
    exact (hs w').grow hgrows

theorem Evident.proceed {s : Refresh} (hs : s.Evident dependencies) (w : Nat) (now : Int) :
    (s.proceed staleAfterSeconds w now).Evident dependencies := by
  rcases proceed_cases s w now with ⟨hsame, -⟩ | ⟨_, _, _, -, -, h⟩ | ⟨_, _, -, h⟩ | ⟨-, h⟩ |
    ⟨revision, pass, inputs, row, hworker, -, h⟩
  · rw [hsame]
    exact hs
  · rw [h]
    exact hs.set (.refl _) rfl trivial
  · rw [h]
    exact hs.set (.refl _) rfl trivial
  · rw [h]
    exact hs.set (.refl _) rfl trivial
  · rw [h]
    have hw := hs w
    rw [hworker] at hw
    exact hs.set (.refl _) rfl ⟨hw.1, hw.2.1⟩

theorem Evident.stage {s : Refresh} (hs : s.Evident dependencies) (w : Nat) (same : Bool) :
    (s.stage w same).Evident dependencies := by
  have hw := hs w
  unfold Refresh.stage
  split
  · rename_i revision pass inputs claimedAt batchId hworker
    rw [hworker] at hw
    split
    · rename_i hfind
      refine hs.set (grows_append _ _) rfl
        ⟨hw.1, hw.2, ⟨pass.generation, batchId, .outputCommitted, inputs⟩, ?_, rfl⟩
      rw [findBatch, List.find?_append, ← findBatch, hfind]
      simp
    · rename_i batch hfind
      split
      · rename_i hsame
        refine hs.set (.refl _) rfl ?_
        split
        · rename_i hready
          exact ⟨hw.1, hw.2, batch, List.mem_of_find?_eq_some hfind, hready, hsame.2⟩
        · exact ⟨hw.1, hw.2, batch, hfind, hsame.2⟩
      · exact hs.set (.refl _) rfl trivial
  · exact hs

theorem Evident.publish {s : Refresh} (hs : s.Evident dependencies) (w : Nat) (stage : Stage)
    (message : String) : (s.publish w stage message).Evident dependencies := by
  have hw := hs w
  unfold Refresh.publish
  split
  · rename_i revision pass inputs claimedAt batchId hworker
    rw [hworker] at hw
    obtain ⟨hinputs, hrevision, batch, hbatch, hsame⟩ := hw
    have hgrows := @grows_move pass.generation batchId stage s.batches
    refine hs.set hgrows rfl ?_
    split
    · rename_i hready
      obtain ⟨batch', hbatch', hsame'⟩ := hgrows.find _ _ _ hbatch
      rw [hbatch'] at hready
      exact ⟨hinputs, hrevision, batch', List.mem_of_find?_eq_some hbatch', by simpa using hready,
        hsame'.trans hsame⟩
    · trivial
  · exact hs

theorem Evident.step {s : Refresh} (hs : s.Evident dependencies) (call : RefreshCall) :
    (s.step dependencies staleAfterSeconds call).Evident dependencies := by
  have hact : (s.act dependencies staleAfterSeconds call.worker call.now call.action).Evident
      dependencies := by
    have hw := hs call.worker
    cases call.action with
    | desire state => exact hs
    | pin pass =>
        simp only [act, pin]
        split
        · rename_i inputs _ hinputs
          split
          · exact hs
          · exact hs.set (.refl _) rfl ⟨hinputs, rfl, fun h => published_of_alreadyApplied h⟩
        · exact hs
    | proceed => exact hs.proceed call.worker call.now
    | build =>
        simp only [act, build]
        split
        · rename_i hworker
          rw [hworker] at hw
          exact hs.set (.refl _) rfl hw
        · exact hs
    | stage same => exact hs.stage call.worker same
    | publish stage message => exact hs.publish call.worker stage message
    | raise message =>
        simp only [act, raise]
        split
        · exact hs.set (.refl _) rfl trivial
        · exact hs.set (.refl _) rfl trivial
        · exact hs.set (.refl _) rfl trivial
        · exact hs
    | die => exact hs.set (.refl _) rfl trivial
  exact hact

/-! ## Exclusive claims -/

/-- What a worker completes has been published. -/
theorem Evident.published {s : Refresh} (hs : s.Evident dependencies) {w : Nat} {revision : Int}
    {pass : RefreshPass} {inputs : List InputSnapshot} (hends : (s.worker w).ends = some revision)
    (hinputs : (s.worker w).inputs = some (pass, inputs)) :
    pass.inputSnapshots dependencies = some inputs ∧ pass.sourceRevision dependencies = revision ∧
      Published s.batches inputs := by
  have hw := hs w
  cases hworker : s.worker w with
  | checked revision' pass' inputs' applied =>
      rw [hworker] at hw hends hinputs
      obtain ⟨⟩ := hinputs
      cases applied with
      | true =>
          obtain ⟨⟩ := hends
          exact ⟨hw.1, hw.2.1, hw.2.2 rfl⟩
      | false => exact nomatch hends
  | ready revision' pass' inputs' claimedAt =>
      rw [hworker] at hw hends hinputs
      obtain ⟨⟩ := hinputs
      obtain ⟨⟩ := hends
      exact hw
  | idle => exact nomatch hworker ▸ hends
  | claimed _ _ _ _ => exact nomatch hworker ▸ hends
  | built _ _ _ _ _ => exact nomatch hworker ▸ hends
  | staged _ _ _ _ _ => exact nomatch hworker ▸ hends
  | raising _ _ _ => exact nomatch hworker ▸ hinputs
  | gone _ => exact nomatch hworker ▸ hends

/-- A call that leaves the row, and takes no claim, is lawful. -/
theorem Lawful.of_row {s : Refresh} {call : RefreshCall}
    (hrow : (s.step dependencies staleAfterSeconds call).row = s.row)
    (hfewer : Fewer s (s.step dependencies staleAfterSeconds call)) :
    s.Lawful dependencies staleAfterSeconds call where
  published_le := by rw [hrow]
  exclusive _ _ _ := ⟨hrow, hfewer call.worker⟩
  dashboard_ready h := by
    rw [hrow] at h
    omega

theorem lawful_of_unclaimed {s : Refresh} {call : RefreshCall}
    (hs : s.ClaimsKept staleAfterSeconds) (hevident : s.Evident dependencies)
    (hclock : s.clock ≤ call.now) (h : s.Unclaimed staleAfterSeconds call) :
    s.Lawful dependencies staleAfterSeconds call := by
  by_cases hproceed : call.action = .proceed
  · have hstep : s.step dependencies staleAfterSeconds call =
        { s.proceed staleAfterSeconds call.worker call.now with clock := call.now } := by
      rw [step, hproceed]
      rfl
    rcases proceed_cases s call.worker call.now with ⟨hsame, -⟩ |
      ⟨revision, pass, inputs, hends, hinputs, hcomplete⟩ | ⟨revision, message, hends, hfail⟩ |
      ⟨-, hrefused⟩ | ⟨revision, pass, inputs, row, hworker, hclaim, htaken⟩
    · rw [hsame] at hstep
      exact .of_row (by rw [hstep]) (by rw [hstep]; exact fun _ _ h => h)
    · rw [hcomplete] at hstep
      have hfewer : Fewer s (s.step dependencies staleAfterSeconds call) := by
        rw [hstep]
        exact fewer_of rfl fun _ h => nomatch h
      have hrow : (s.step dependencies staleAfterSeconds call).row =
          completeRevisionRefresh s.row revision := by rw [hstep]
      obtain ⟨hsnapshots, hrevision, hpublished⟩ := hevident.published hends hinputs
      constructor
      · rw [hrow]
        rcases complete_cases s.row revision with hsame | ⟨-, hle, hnew⟩
        · rw [hsame]
        · rw [hnew]
          exact hle
      · rintro w hw ⟨other, claimedAt, hclaim, hlive⟩
        refine ⟨?_, hfewer call.worker⟩
        rw [hrow]
        exact complete_other (hs.processing hclock hclaim hlive)
          (h.ne hproceed hends hw hclaim hlive)
      · intro hlt
        rw [hrow] at hlt ⊢
        rcases complete_cases s.row revision with hsame | ⟨-, -, hnew⟩
        · rw [hsame] at hlt
          omega
        · exact ⟨pass, inputs, hinputs, hsnapshots, hrevision.trans hnew.symm, hpublished⟩
    · rw [hfail] at hstep
      have hfewer : Fewer s (s.step dependencies staleAfterSeconds call) := by
        rw [hstep]
        exact fewer_of rfl fun _ h => nomatch h
      have hrow : (s.step dependencies staleAfterSeconds call).row =
          failRevisionRefresh s.row revision message := by rw [hstep]
      have hpublished : (failRevisionRefresh s.row revision message).publishedSourceRevision =
          s.row.publishedSourceRevision := by
        rcases fail_cases s.row revision message with hsame | ⟨-, hsame⟩
        · rw [hsame]
        · exact hsame
      constructor
      · rw [hrow, hpublished]
      · rintro w hw ⟨other, claimedAt, hclaim, hlive⟩
        refine ⟨?_, hfewer call.worker⟩
        rw [hrow]
        exact fail_other (hs.processing hclock hclaim hlive)
          (h.ne hproceed hends hw hclaim hlive)
      · intro hlt
        rw [hrow, hpublished] at hlt
        omega
    · rw [hrefused] at hstep
      exact .of_row (by rw [hstep]; rfl)
        (by rw [hstep]; exact fewer_of rfl fun _ h => nomatch h)
    · rw [htaken] at hstep
      have hrow : (s.step dependencies staleAfterSeconds call).row = row := by rw [hstep]
      obtain ⟨-, -, hpublished, -⟩ := claim_row hclaim
      constructor
      · rw [hrow, hpublished]
      · intro w hw hheld
        exact nomatch (hs.refused hclock hheld revision).symm.trans hclaim
      · intro hlt
        rw [hrow, hpublished] at hlt
        omega
  · obtain ⟨hrow, hfewer⟩ :=
      @act_of_ne dependencies staleAfterSeconds s call.worker call.now _ hproceed
    exact .of_row hrow hfewer

/-- A worker that ends the revision of another's unexpired claim takes it from the row. -/
theorem unclaimed_of_lawful {s : Refresh} {call : RefreshCall}
    (hs : s.ClaimsKept staleAfterSeconds) (hclock : s.clock ≤ call.now)
    (h : s.Lawful dependencies staleAfterSeconds call) : s.Unclaimed staleAfterSeconds call := by
  intro hproceed revision hends w hw claimedAt hclaim
  by_contra hlate
  have hlive : call.now ≤ claimedAt + staleAfterSeconds * 1000000 := by omega
  have hprocessing := hs.processing hclock hclaim hlive
  obtain ⟨hrow, -⟩ := h.exclusive w hw ⟨revision, claimedAt, hclaim, hlive⟩
  rw [← hrow] at hprocessing
  have hstep : s.step dependencies staleAfterSeconds call =
      { s.proceed staleAfterSeconds call.worker call.now with clock := call.now } := by
    rw [step, hproceed]
    rfl
  rw [hrow] at hprocessing
  rcases proceed_cases s call.worker call.now with ⟨-, hnone⟩ |
    ⟨revision', pass, inputs, hends', -, hcomplete⟩ | ⟨revision', message, hends', hfail⟩ |
    ⟨hnone, -⟩ | ⟨_, _, _, _, hworker, -⟩
  · exact nomatch hends.symm.trans hnone
  · obtain ⟨⟩ := hends.symm.trans hends'
    rw [hstep, hcomplete] at hrow
    have hgone := complete_self hprocessing (hs.ahead revision hprocessing)
    exact nomatch hgone.symm.trans ((congrArg RefreshState.processingSourceRevision hrow).trans
      hprocessing)
  · obtain ⟨⟩ := hends.symm.trans hends'
    rw [hstep, hfail] at hrow
    have hgone := @fail_self s.row revision message hprocessing
    exact nomatch hgone.symm.trans ((congrArg RefreshState.processingSourceRevision hrow).trans
      hprocessing)
  · exact nomatch hends.symm.trans hnone
  · rw [hworker] at hends
    exact nomatch hends

/-- Exclusive claims: with a clock that does not go back, the runs whose every call is lawful
are those in which nobody completes or fails a revision that another worker has an unexpired
claim on. -/
theorem exclusive_claims (dependencies : List Dependency) (staleAfterSeconds : Int)
    (calls : List RefreshCall) :
    Along (fun s call => s.clock ≤ call.now ∧ s.Lawful dependencies staleAfterSeconds call)
      (step dependencies staleAfterSeconds) start calls ↔
    Along (fun s call => s.clock ≤ call.now ∧ s.Unclaimed staleAfterSeconds call)
      (step dependencies staleAfterSeconds) start calls := by
  refine along_iff_along
    (Q := fun s => s.ClaimsKept staleAfterSeconds ∧ s.Evident dependencies) ?_ ?_
    ⟨claimsKept_start, fun _ => trivial⟩
  · rintro s call ⟨hs, hevident⟩
    constructor
    · rintro ⟨hclock, h⟩
      exact ⟨hclock, unclaimed_of_lawful hs hclock h⟩
    · rintro ⟨hclock, h⟩
      exact ⟨hclock, lawful_of_unclaimed hs hevident hclock h⟩
  · rintro s call ⟨hs, hevident⟩ ⟨hclock, h⟩
    exact ⟨hs.step hclock (unclaimed_of_lawful hs hclock h), hevident.step call⟩

/-! ## A worker that outlives its claim -/

/-- The job reads one realtime dataset. -/
def ordersDependencies : List Dependency := [⟨"orders", some "orders-stream", "realtime", true⟩]

def ordersPass : RefreshPass := ⟨1, [], [⟨"orders", 19, "snap-19"⟩]⟩

/-- Two workers pin revision 19.  The first is still at its transform when its claim has run
out, and the second takes over; then the first fails, and a third claims beside the second. -/
def outlivedClaim : List RefreshCall :=
  [⟨0, 0, .desire "running"⟩,
    ⟨0, 1, .pin ordersPass⟩, ⟨1, 1, .proceed⟩,
    ⟨901000000, 2, .pin ordersPass⟩, ⟨901000001, 2, .proceed⟩,
    ⟨902000000, 1, .raise "the query timed out"⟩, ⟨902000001, 1, .proceed⟩,
    ⟨902000002, 3, .pin ordersPass⟩, ⟨902000003, 3, .proceed⟩]

/-- The first worker's failure releases the second's claim, a second after it was taken, and
the third worker is given one. -/
theorem outlived_claim_released :
    Along (fun s call => s.clock ≤ call.now) (step ordersDependencies 900) start outlivedClaim ∧
    ¬ Along (fun s call => s.clock ≤ call.now ∧ s.Lawful ordersDependencies 900 call)
      (step ordersDependencies 900) start outlivedClaim := by
  refine ⟨by decide +kernel, fun h => ?_⟩
  have hfail := (@along_append _ _ _ _ _ (outlivedClaim.take 6) (outlivedClaim.drop 6)).mp h
  obtain ⟨⟨-, hlawful⟩, -⟩ := hfail.2
  have hheld : (play (step ordersDependencies 900) start (outlivedClaim.take 6)).Held 900 2
      902000001 := ⟨19, 901000001, by decide +kernel, by decide⟩
  obtain ⟨hrow, -⟩ := hlawful.exclusive 2 (by decide) hheld
  exact absurd hrow (by decide +kernel)

end Refresh

end AskLake.ContinuousSql

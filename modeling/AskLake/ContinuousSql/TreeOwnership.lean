/-
# `AskLake.ContinuousSql.TreeOwnership` — a running job and its execution tree

A job that reads dataset revisions runs under an execution tree that has locked the job and
its children.  A command or a reconcile pass ends with the tree's status:

    no active tree         nothing
    the job has ended      release the locks, and the tree ends
    else                   renew the locks; if some are lost, the job fails and the tree ends

Other trees take over locks that have expired.  A pass first sets the job to running, and to
nothing else where its refresh meets an error, so that a job whose tree has ended is running
again after the next pass.  Where a pass meets an active tree, it leaves the job running only
as the owner of all its locks.
-/
import Mathlib.Data.List.Sort
import AskLake.ContinuousSql.TreeLocks

namespace AskLake.ContinuousSql

open AskLake.Lib

/-! ## Rows -/

inductive SqlDesired
  | running
  | paused
  | stopped
  deriving DecidableEq

/-- `observed_state` of a job, and `status` of a tree run. -/
inductive SqlStatus
  | starting
  | running
  | recovering
  | pausing
  | paused
  | stopping
  | stopped
  | failed
  deriving DecidableEq

/-- The statuses that `active_tree_run` asks for. -/
def SqlStatus.active : SqlStatus → Bool
  | starting | running | recovering | pausing | paused | stopping => true
  | stopped | failed => false

def SqlDesired.status : SqlDesired → SqlStatus
  | running => .running
  | paused => .paused
  | stopped => .stopped

/-- `continuous_sql_tree_runs` -/
structure SqlTreeRun extends TreeRun where
  continuousSqlRunId : String
  generation : Nat
  status : SqlStatus
  lastErrorCode : Option String
  deriving DecidableEq

/-- A job with its child jobs, which its dependencies name. -/
structure TreeJob where
  id : String
  children : List String
  leaseSeconds : Int
  /-- `uq_continuous_sql_tree_node_job` -/
  nodup : (id :: children).Nodup

/-- The jobs to lock: `sorted([job.id, *child_ids])`. -/
def TreeJob.nodes (job : TreeJob) : List String :=
  (job.id :: job.children).insertionSort (· ≤ ·)

/-- The job's row, its tree runs, and the whole lock table. -/
structure OwnedJob where
  desiredState : SqlDesired
  observedState : SqlStatus
  activeRunId : Option String
  lastErrorCode : Option String
  trees : List SqlTreeRun
  locks : List TreeJobLock
  deriving DecidableEq

namespace OwnedJob

/-- A job that has never run. -/
def start : OwnedJob := ⟨.stopped, .stopped, none, none, [], []⟩

/-- `active_tree_run` -/
def activeTreeRun (s : OwnedJob) : Option SqlTreeRun :=
  latestRow (fun tree other => tree.generation < other.generation)
    (s.trees.filter fun tree => tree.status.active)

/-- `next_tree_generation` -/
def nextTreeGeneration (s : OwnedJob) : Nat := (s.trees.map SqlTreeRun.generation).foldl max 0 + 1

/-- An assignment to a tree run's row. -/
def setTree (s : OwnedJob) (treeRunId : String) (status : SqlStatus)
    (lastErrorCode : Option String) : OwnedJob :=
  { s with
    trees := s.trees.map fun tree =>
      if tree.treeRunId = treeRunId then { tree with status, lastErrorCode } else tree }

/-- `release_tree_locks` -/
def release (s : OwnedJob) (tree : SqlTreeRun) (status : SqlStatus) (endedAt : String)
    (lastErrorCode : Option String) : OwnedJob :=
  { s.setTree tree.treeRunId status lastErrorCode with
    locks := overlay TreeJobLock.jobId (releaseTreeLocks s.locks tree.toTreeRun endedAt) s.locks }

/-- `renew_tree_locks` -/
def renew (s : OwnedJob) (tree : SqlTreeRun) (now leaseSeconds : Int) : OwnedJob :=
  { s with
    locks := overlay TreeJobLock.jobId (renewTreeLocks s.locks tree.toTreeRun now leaseSeconds)
      s.locks }

/-- `_sync_execution_tree_status` -/
def sync (job : TreeJob) (s : OwnedJob) (now : Int) (endedAt : String) : OwnedJob :=
  match s.activeTreeRun with
  | none => s
  | some tree =>
      if s.observedState.active then
        if renewed s.locks tree.toTreeRun then
          (s.renew tree now job.leaseSeconds).setTree tree.treeRunId s.observedState
            tree.lastErrorCode
        else
          ({ s.renew tree now job.leaseSeconds with
              observedState := .failed
              lastErrorCode := some "CONTINUOUS_SQL_DEPENDENCY_CONFLICT" } : OwnedJob).release tree
            .failed endedAt (some "CONTINUOUS_SQL_DEPENDENCY_CONFLICT")
      else s.release tree s.observedState endedAt s.lastErrorCode

end OwnedJob

/-! ## Commands -/

inductive SqlCommand
  | start
  | pause
  | resume
  | stop
  | recover
  deriving DecidableEq

/-- What a start finds: whether the child jobs are there and idle, the ids it draws, and the
time at which each lock is asked for. -/
structure SqlStart where
  childrenIdle : Bool
  runId : String
  treeRunId : String
  fencingToken : String
  acquiredAt : String → Int

/-- The locks of a tree, one after the other. -/
def acquireAll (tree : TreeRun) (leaseSeconds : Int) (acquiredAt : String → Int) :
    List TreeJobLock → List String → Option (List TreeJobLock)
  | locks, [] => some locks
  | locks, jobId :: rest =>
      match acquireTreeJobLock locks tree jobId (acquiredAt jobId) leaseSeconds with
      | none => none
      | some row =>
          acquireAll tree leaseSeconds acquiredAt (overlay TreeJobLock.jobId [row] locks) rest

namespace OwnedJob

/-- `_new_run` and `_acquire_execution_tree`; `none` is rolled back.  A tree run's id is new to
`continuous_sql_tree_runs`, which the lock rows refer to. -/
def newRun (job : TreeJob) (s : OwnedJob) (observedState : SqlStatus) (input : SqlStart) :
    Option OwnedJob :=
  let tree : TreeRun := ⟨input.treeRunId, job.id, input.fencingToken, job.nodes⟩
  if input.childrenIdle = false ∨ s.trees.any (·.treeRunId = input.treeRunId) = true ∨
      s.locks.any (·.treeRunId = input.treeRunId) = true then none
  else
    (acquireAll tree job.leaseSeconds input.acquiredAt s.locks job.nodes).map fun locks =>
      { desiredState := .running
        observedState
        activeRunId := some input.runId
        lastErrorCode := none
        trees := s.trees ++ [⟨tree, input.runId, s.nextTreeGeneration, .starting, none⟩]
        locks }

/-- `_transition_command`, with the tree of a start; `none` is refused. -/
def transition (job : TreeJob) (s : OwnedJob) (input : SqlStart) : SqlCommand → Option OwnedJob
  | .start =>
      if s.desiredState = .stopped ∧ (s.observedState = .stopped ∨ s.observedState = .failed) then
        s.newRun job .starting input
      else none
  | .recover =>
      if s.desiredState = .running ∧ (s.observedState = .failed ∨ s.observedState = .stopped) then
        s.newRun job .recovering input
      else none
  | .pause =>
      if s.desiredState = .paused ∧ (s.observedState = .paused ∨ s.observedState = .pausing) then
        some s
      else if s.desiredState = .running ∧ (s.observedState = .starting ∨
          s.observedState = .running ∨ s.observedState = .recovering) then
        some { s with desiredState := .paused, observedState := .pausing }
      else none
  | .resume =>
      if s.desiredState = .paused ∧ (s.observedState = .paused ∨ s.observedState = .failed) ∧
          s.activeRunId.isSome then
        some { s with desiredState := .running, observedState := .starting }
      else none
  | .stop =>
      if s.desiredState = .stopped ∧ s.observedState = .stopped then some s
      else some { s with desiredState := .stopped, observedState := .stopping }

/-- `_complete_command`: the status that the worker's container stands for. -/
def completedStatus (containerState : String) : SqlCommand → SqlStatus
  | .start | .resume | .recover =>
      if containerState = "failed" then .failed
      else if containerState = "running" then .running else .starting
  | .pause =>
      if containerState = "exited" ∨ containerState = "not_running" then .paused else .pausing
  | .stop =>
      if containerState = "exited" ∨ containerState = "not_running" ∨ containerState = "missing"
      then .stopped else .stopping

/-- The error of a container that has failed to start; another one that starts clears it. -/
def completedError (s : OwnedJob) (containerState : String) (reported : Option String) :
    SqlCommand → Option String
  | .start | .resume | .recover =>
      if containerState = "failed" then
        some (reported.getD "CLICKHOUSE_CONTINUOUS_SQL_FAILED")
      else none
  | .pause | .stop => s.lastErrorCode

/-! ## A pass -/

end OwnedJob

/-- How the refresh of a pass ends. -/
inductive RunnerResult
  | done
  | apiError (code : String)
  | raised
  deriving DecidableEq

namespace OwnedJob

/-- `pin_inputs` asks for the active tree of the run before anything else. -/
def runnerResult (s : OwnedJob) (runId : String) (result : RunnerResult) : RunnerResult :=
  match s.activeTreeRun with
  | none => .apiError "CONTINUOUS_SQL_DEPENDENCY_UNAVAILABLE"
  | some tree =>
      if tree.continuousSqlRunId = runId then result
      else .apiError "CONTINUOUS_SQL_DEPENDENCY_UNAVAILABLE"

/-- The job's row after the refresh; `none` where the pass itself raises. -/
def refreshed (s : OwnedJob) (runId : String) (result : RunnerResult) : Option OwnedJob :=
  if s.desiredState = .running then
    match s.runnerResult runId result with
    | .done => some { s with observedState := .running, lastErrorCode := none }
    | .apiError code =>
        if code = "CONTINUOUS_SQL_INPUT_REVISION_PENDING" then
          some { s with observedState := .starting, lastErrorCode := none }
        else some { s with observedState := .running, lastErrorCode := some code }
    | .raised => none
  else some { s with observedState := s.desiredState.status, lastErrorCode := none }

/-- The row of a job that has never run, by the state of its container. -/
def withoutRun (s : OwnedJob) (containerState : String) : OwnedJob :=
  if containerState = "exited" ∨ containerState = "missing" ∨ containerState = "not_running" then
    match s.desiredState with
    | .paused => { s with observedState := .paused }
    | .stopped => { s with observedState := .stopped }
    | .running =>
        { s with observedState := .failed, lastErrorCode := some "CONTINUOUS_SQL_WORKER_MISSING" }
  else s

/-- `ContinuousSqlService.reconcile`; `gateway` is asked for a job without a run. -/
def reconcile (job : TreeJob) (s : OwnedJob) (result : RunnerResult)
    (gateway : Except String String) (now : Int) (endedAt : String) : OwnedJob :=
  match s.activeRunId with
  | none =>
      match gateway with
      | .error code => { s with lastErrorCode := some code }
      | .ok containerState => (s.withoutRun containerState).sync job now endedAt
  | some runId =>
      match s.refreshed runId result with
      | none => s
      | some refreshed => refreshed.sync job now endedAt

end OwnedJob

/-! ## Runs -/

/-- What happens to the job: a command, the end of one, a pass; and to its locks: another
tree run acquires, renews or releases. -/
inductive OwnedEvent
  | command (name : SqlCommand) (input : SqlStart) (now : Int) (endedAt : String)
  | complete (name : SqlCommand) (containerState : String) (reported : Option String) (now : Int)
      (endedAt : String)
  | fail (code : String) (now : Int) (endedAt : String)
  | reconcile (result : RunnerResult) (gateway : Except String String) (now : Int)
      (endedAt : String)
  | acquireOther (tree : TreeRun) (jobId : String) (now : Int)
  | renewOther (tree : TreeRun) (now : Int)
  | releaseOther (tree : TreeRun) (endedAt : String)

namespace OwnedJob

/-- The tree run is one of another job. -/
def isOther (s : OwnedJob) (tree : TreeRun) : Bool :=
  s.trees.all fun own => own.treeRunId ≠ tree.treeRunId

/-- What another tree run writes. -/
def written (s : OwnedJob) (tree : TreeRun) (rows : List TreeJobLock) : OwnedJob :=
  if s.isOther tree then { s with locks := overlay TreeJobLock.jobId rows s.locks } else s

def step (job : TreeJob) (s : OwnedJob) : OwnedEvent → OwnedJob
  | .command name input now endedAt =>
      match s.transition job input name with
      | none => s
      | some moved => moved.sync job now endedAt
  | .complete name containerState reported now endedAt =>
      ({ s with
          observedState := completedStatus containerState name
          lastErrorCode := s.completedError containerState reported name } : OwnedJob).sync job now
        endedAt
  | .fail code now endedAt =>
      ({ s with observedState := .failed, lastErrorCode := some code } : OwnedJob).sync job now
        endedAt
  | .reconcile result gateway now endedAt => s.reconcile job result gateway now endedAt
  | .acquireOther tree jobId now =>
      s.written tree (acquireTreeJobLock s.locks tree jobId now job.leaseSeconds).toList
  | .renewOther tree now => s.written tree (renewTreeLocks s.locks tree now job.leaseSeconds)
  | .releaseOther tree endedAt => s.written tree (releaseTreeLocks s.locks tree endedAt)

/-! ## The law, and when it holds -/

/-- An active tree of the active run has an active lock, under its own token, on the job and
on every child job. -/
def Owned (job : TreeJob) (s : OwnedJob) : Prop :=
  ∃ tree ∈ s.trees, tree.status.active = true ∧ some tree.continuousSqlRunId = s.activeRunId ∧
    ∀ jobId ∈ job.id :: job.children, ∃ row ∈ s.locks, row.jobId = jobId ∧
      row.treeRunId = tree.treeRunId ∧ row.fencingToken = tree.fencingToken ∧ row.active = true

/-- A pass raises itself, and leaves nothing. -/
def raises (s : OwnedJob) (result : RunnerResult) : Bool :=
  s.activeRunId.any fun runId => (s.refreshed runId result).isNone

/-- No running without ownership: a pass that leaves the job running leaves it as the owner of
its locks. -/
def Lawful (job : TreeJob) (s : OwnedJob) : OwnedEvent → Prop
  | .reconcile result gateway now endedAt =>
      s.raises result = false →
      ((s.reconcile job result gateway now endedAt).observedState = .starting ∨
        (s.reconcile job result gateway now endedAt).observedState = .running) →
      (s.reconcile job result gateway now endedAt).desiredState = .running →
      (s.reconcile job result gateway now endedAt).Owned job
  | _ => True

/-- A pass over a job that is to run meets an active tree run of it. -/
def MeetsTree (s : OwnedJob) : OwnedEvent → Prop
  | .reconcile .. => s.desiredState = .running → ∃ tree ∈ s.trees, tree.status.active = true
  | _ => True

/-! ## What every event keeps -/

/-- The locks of the job's tree runs are on its nodes, and the job itself is not locked by the
tree of an earlier run. -/
structure Sound (job : TreeJob) (s : OwnedJob) : Prop where
  keyed : (s.locks.map TreeJobLock.jobId).Nodup
  nodes : ∀ tree ∈ s.trees, tree.nodes = job.nodes
  issued : ∀ tree ∈ s.trees, ∀ row ∈ s.locks, row.treeRunId = tree.treeRunId →
    row.jobId ∈ job.nodes
  earlier : ∀ tree ∈ s.trees, some tree.continuousSqlRunId ≠ s.activeRunId →
    ∀ row ∈ s.locks, row.jobId = job.id → row.treeRunId ≠ tree.treeRunId
  run : s.desiredState = .running → s.activeRunId.isSome

variable {job : TreeJob} {s s' : OwnedJob}

theorem sound_start : start.Sound job where
  keyed := List.nodup_nil
  nodes _ h := nomatch h
  issued _ h := nomatch h
  earlier _ h := nomatch h
  run h := nomatch h

/-- The same tree runs but for their status, and the same locks but for their leases. -/
structure Rewritten (s s' : OwnedJob) : Prop where
  keyed : (s'.locks.map TreeJobLock.jobId).Nodup
  locks : ∀ row ∈ s'.locks, ∃ row' ∈ s.locks, row'.jobId = row.jobId ∧
    row'.treeRunId = row.treeRunId
  trees : ∀ tree ∈ s'.trees, ∃ tree' ∈ s.trees, tree'.toTreeRun = tree.toTreeRun ∧
    tree'.continuousSqlRunId = tree.continuousSqlRunId
  activeRunId : s'.activeRunId = s.activeRunId
  desiredState : s'.desiredState = s.desiredState

theorem Rewritten.refl (h : (s.locks.map TreeJobLock.jobId).Nodup) : Rewritten s s :=
  ⟨h, fun row hrow => ⟨row, hrow, rfl, rfl⟩, fun tree htree => ⟨tree, htree, rfl, rfl⟩, rfl, rfl⟩

/-- Only the tree runs, the locks, the desired state and the run count. -/
theorem Rewritten.congr {t' : OwnedJob} (h : Rewritten s s') (htrees : t'.trees = s'.trees)
    (hlocks : t'.locks = s'.locks) (hrun : t'.activeRunId = s'.activeRunId)
    (hdesired : t'.desiredState = s'.desiredState) : Rewritten s t' := by
  obtain ⟨hkeyed, hrows, hruns, hactive, hstate⟩ := h
  refine ⟨?_, ?_, ?_, hrun.trans hactive, hdesired.trans hstate⟩
  · rwa [hlocks]
  · rwa [hlocks]
  · rwa [htrees]

theorem Sound.rewritten (hs : s.Sound job) (h : Rewritten s s') : s'.Sound job where
  keyed := h.keyed
  nodes tree htree := by
    obtain ⟨tree', htree', hsame, -⟩ := h.trees tree htree
    rw [← hsame]
    exact hs.nodes tree' htree'
  issued tree htree row hrow hid := by
    obtain ⟨tree', htree', hsame, -⟩ := h.trees tree htree
    obtain ⟨row', hrow', hjob, hid'⟩ := h.locks row hrow
    rw [← hjob]
    exact hs.issued tree' htree' row' hrow' (by rw [hid', hid, hsame])
  earlier tree htree hrun row hrow hjob := by
    obtain ⟨tree', htree', hsame, hrun'⟩ := h.trees tree htree
    obtain ⟨row', hrow', hjob', hid'⟩ := h.locks row hrow
    rw [← hid', ← hsame]
    exact hs.earlier tree' htree' (by rwa [hrun', ← h.activeRunId]) row' hrow' (hjob'.trans hjob)
  run hdesired := by
    rw [h.activeRunId]
    exact hs.run (h.desiredState ▸ hdesired)

/-- Writing over rows that an update rewrites. -/
theorem rewrites_overlay {tree : TreeRun} {locks rows : List TreeJobLock}
    (hlocks : (locks.map TreeJobLock.jobId).Nodup) (h : Rewrites tree locks rows) :
    ((overlay TreeJobLock.jobId rows locks).map TreeJobLock.jobId).Nodup ∧
    ∀ row ∈ overlay TreeJobLock.jobId rows locks, ∃ row' ∈ locks, row'.jobId = row.jobId ∧
      row'.treeRunId = row.treeRunId := by
  refine ⟨nodup_overlay h.nodup hlocks, fun row hrow => ?_⟩
  rcases mem_overlay.mp hrow with hnew | ⟨hold, -⟩
  · obtain ⟨row', hrow', hjob, hid', hid, -⟩ := h.source row hnew
    exact ⟨row', hrow', hjob, hid'.trans hid.symm⟩
  · exact ⟨row, hold, rfl, rfl⟩

theorem rewritten_setTree (h : (s.locks.map TreeJobLock.jobId).Nodup) (treeRunId : String)
    (status : SqlStatus) (lastErrorCode : Option String) :
    Rewritten s (s.setTree treeRunId status lastErrorCode) where
  keyed := h
  locks row hrow := ⟨row, hrow, rfl, rfl⟩
  trees tree htree := by
    obtain ⟨tree', htree', rfl⟩ := List.mem_map.mp htree
    refine ⟨tree', htree', ?_⟩
    split
    · exact ⟨rfl, rfl⟩
    · exact ⟨rfl, rfl⟩
  activeRunId := rfl
  desiredState := rfl

theorem Rewritten.trans {s'' : OwnedJob} (h : Rewritten s s') (h' : Rewritten s' s'') :
    Rewritten s s'' where
  keyed := h'.keyed
  locks row hrow := by
    obtain ⟨row', hrow', hjob', hid'⟩ := h'.locks row hrow
    obtain ⟨row'', hrow'', hjob, hid⟩ := h.locks row' hrow'
    exact ⟨row'', hrow'', hjob.trans hjob', hid.trans hid'⟩
  trees tree htree := by
    obtain ⟨tree', htree', hsame', hrun'⟩ := h'.trees tree htree
    obtain ⟨tree'', htree'', hsame, hrun⟩ := h.trees tree' htree'
    exact ⟨tree'', htree'', hsame.trans hsame', hrun.trans hrun'⟩
  activeRunId := h'.activeRunId.trans h.activeRunId
  desiredState := h'.desiredState.trans h.desiredState

theorem rewritten_renew (h : (s.locks.map TreeJobLock.jobId).Nodup) (tree : SqlTreeRun)
    (now leaseSeconds : Int) : Rewritten s (s.renew tree now leaseSeconds) :=
  have hrows := rewrites_overlay h (@rewrites_renew leaseSeconds now tree.toTreeRun s.locks h)
  ⟨hrows.1, hrows.2, fun tree htree => ⟨tree, htree, rfl, rfl⟩, rfl, rfl⟩

theorem rewritten_release (h : (s.locks.map TreeJobLock.jobId).Nodup) (tree : SqlTreeRun)
    (status : SqlStatus) (endedAt : String) (lastErrorCode : Option String) :
    Rewritten s (s.release tree status endedAt lastErrorCode) :=
  have hrows := rewrites_overlay h (@rewrites_release tree.toTreeRun s.locks endedAt h)
  have htrees := rewritten_setTree h tree.treeRunId status lastErrorCode
  ⟨hrows.1, hrows.2, htrees.trees, rfl, rfl⟩

/-- The end of a command or a pass. -/
theorem rewritten_sync (h : (s.locks.map TreeJobLock.jobId).Nodup) (now : Int) (endedAt : String) :
    Rewritten s (s.sync job now endedAt) := by
  unfold sync
  cases s.activeTreeRun with
  | none => exact .refl h
  | some tree =>
      have hrenew := rewritten_renew h tree now job.leaseSeconds
      by_cases hactive : s.observedState.active = true
      · by_cases hrenewed : renewed s.locks tree.toTreeRun = true
        · simp only [if_pos hactive, if_pos hrenewed]
          exact hrenew.trans (rewritten_setTree hrenew.keyed _ _ _)
        · simp only [if_pos hactive, if_neg hrenewed]
          refine hrenew.trans ?_
          exact (rewritten_release hrenew.keyed tree .failed endedAt _).congr rfl rfl rfl rfl
      · simp only [if_neg hactive]
        exact rewritten_release h tree _ endedAt _

theorem Sound.sync (hs : s.Sound job) (now : Int) (endedAt : String) :
    (s.sync job now endedAt).Sound job :=
  hs.rewritten (rewritten_sync hs.keyed now endedAt)

/-- The job's own columns. -/
theorem Sound.observed (hs : s.Sound job) (observedState : SqlStatus)
    (lastErrorCode : Option String) :
    ({ s with observedState, lastErrorCode } : OwnedJob).Sound job :=
  ⟨hs.keyed, hs.nodes, hs.issued, hs.earlier, hs.run⟩

/-! ## A start -/

/-- What the acquisition of a list of locks leaves: the rows of these jobs are the tree's, and
the others are as they were. -/
theorem acquireAll_rows {tree : TreeRun} {leaseSeconds : Int} {acquiredAt : String → Int} :
    ∀ {nodes : List String} {locks locks' : List TreeJobLock},
      (locks.map TreeJobLock.jobId).Nodup →
      acquireAll tree leaseSeconds acquiredAt locks nodes = some locks' →
      (locks'.map TreeJobLock.jobId).Nodup ∧
      (∀ row ∈ locks', (row ∈ locks ∧ row.jobId ∉ nodes) ∨
        (row.treeRunId = tree.treeRunId ∧ row.jobId ∈ nodes)) := by
  intro nodes
  induction nodes with
  | nil =>
      rintro locks _ hlocks ⟨⟩
      exact ⟨hlocks, fun row hrow => Or.inl ⟨hrow, List.not_mem_nil⟩⟩
  | cons jobId rest ih =>
      intro locks locks' hlocks h
      unfold acquireAll at h
      cases hrow : acquireTreeJobLock locks tree jobId (acquiredAt jobId) leaseSeconds with
      | none =>
          rw [hrow] at h
          exact nomatch h
      | some row =>
          rw [hrow] at h
          obtain ⟨generation, expiresAt, rfl, -⟩ := acquire_row hrow
          have hkeyed := @nodup_overlay _ _ _ TreeJobLock.jobId
            [tree.lock jobId generation expiresAt] locks (List.nodup_singleton _) hlocks
          obtain ⟨hnodup, hrows⟩ := ih hkeyed h
          refine ⟨hnodup, fun row hmem => ?_⟩
          rcases hrows row hmem with ⟨hbefore, hrest⟩ | ⟨hid, hrest⟩
          · rcases mem_overlay.mp hbefore with hnew | ⟨hold, hother⟩
            · obtain rfl := List.mem_singleton.mp hnew
              exact Or.inr ⟨rfl, List.mem_cons_self⟩
            · refine Or.inl ⟨hold, fun hmem => ?_⟩
              rcases List.mem_cons.mp hmem with hjob | hmem
              · exact hother _ (List.mem_singleton.mpr rfl) hjob.symm
              · exact hrest hmem
          · exact Or.inr ⟨hid, List.mem_cons_of_mem _ hrest⟩

theorem mem_nodes {jobId : String} : jobId ∈ job.nodes ↔ jobId ∈ job.id :: job.children :=
  (List.perm_insertionSort (· ≤ ·) (job.id :: job.children)).mem_iff

theorem nodup_nodes (job : TreeJob) : job.nodes.Nodup :=
  (List.perm_insertionSort (· ≤ ·) (job.id :: job.children)).nodup_iff.mpr job.nodup

theorem Sound.newRun (hs : s.Sound job) {observedState : SqlStatus} {input : SqlStart}
    (h : s.newRun job observedState input = some s') : s'.Sound job := by
  unfold OwnedJob.newRun at h
  simp only at h
  split at h
  · exact nomatch h
  · rename_i hfresh
    obtain ⟨locks, hlocks, rfl⟩ := Option.map_eq_some_iff.mp h
    obtain ⟨hkeyed, hrows⟩ := acquireAll_rows hs.keyed hlocks
    have htree : ∀ tree ∈ s.trees, tree.treeRunId ≠ input.treeRunId := by
      intro tree hmem hid
      exact hfresh (Or.inr (Or.inl (List.any_eq_true.mpr ⟨tree, hmem, by simpa using hid⟩)))
    have hlock : ∀ row ∈ s.locks, row.treeRunId ≠ input.treeRunId := by
      intro row hmem hid
      exact hfresh (Or.inr (Or.inr (List.any_eq_true.mpr ⟨row, hmem, by simpa using hid⟩)))
    constructor
    · exact hkeyed
    · intro tree hmem
      rcases List.mem_append.mp hmem with hold | hnew
      · exact hs.nodes tree hold
      · obtain rfl := List.mem_singleton.mp hnew
        rfl
    · intro tree hmem row hrow hid
      rcases hrows row hrow with ⟨hbefore, -⟩ | ⟨-, hnode⟩
      · rcases List.mem_append.mp hmem with hold | hnew
        · exact hs.issued tree hold row hbefore hid
        · obtain rfl := List.mem_singleton.mp hnew
          exact absurd hid (hlock row hbefore)
      · exact hnode
    · intro tree hmem hrun row hrow hjob hid
      have hown : row.treeRunId = input.treeRunId := by
        rcases hrows row hrow with ⟨-, hother⟩ | ⟨hown, -⟩
        · exact absurd (mem_nodes.mpr (hjob ▸ List.mem_cons_self)) hother
        · exact hown
      rcases List.mem_append.mp hmem with hold | hnew
      · exact htree tree hold (hid.symm.trans hown)
      · obtain rfl := List.mem_singleton.mp hnew
        exact hrun rfl
    · intro _
      rfl

theorem Sound.transition (hs : s.Sound job) {input : SqlStart} {name : SqlCommand}
    (h : s.transition job input name = some s') : s'.Sound job := by
  cases name with
  | start =>
      simp only [OwnedJob.transition] at h
      split at h
      · exact hs.newRun h
      · exact nomatch h
  | recover =>
      simp only [OwnedJob.transition] at h
      split at h
      · exact hs.newRun h
      · exact nomatch h
  | pause =>
      simp only [OwnedJob.transition] at h
      split at h
      · obtain ⟨⟩ := h
        exact hs
      · split at h
        · obtain ⟨⟩ := h
          exact ⟨hs.keyed, hs.nodes, hs.issued, hs.earlier, fun h => nomatch h⟩
        · exact nomatch h
  | resume =>
      simp only [OwnedJob.transition] at h
      split at h
      · rename_i hallowed
        obtain ⟨⟩ := h
        exact ⟨hs.keyed, hs.nodes, hs.issued, hs.earlier, fun _ => hallowed.2.2⟩
      · exact nomatch h
  | stop =>
      simp only [OwnedJob.transition] at h
      split at h
      · obtain ⟨⟩ := h
        exact hs
      · obtain ⟨⟩ := h
        exact ⟨hs.keyed, hs.nodes, hs.issued, hs.earlier, fun h => nomatch h⟩

/-- What the tree runs of other jobs write is theirs. -/
theorem Sound.written (hs : s.Sound job) {tree : TreeRun} {rows : List TreeJobLock}
    (hnodup : (rows.map TreeJobLock.jobId).Nodup)
    (hrows : ∀ row ∈ rows, row.treeRunId = tree.treeRunId) : (s.written tree rows).Sound job := by
  unfold OwnedJob.written
  split
  · rename_i hother
    have hne : ∀ own ∈ s.trees, tree.treeRunId ≠ own.treeRunId := by
      intro own hown heq
      have := List.all_eq_true.mp hother own hown
      simp [heq] at this
    refine ⟨nodup_overlay hnodup hs.keyed, hs.nodes, ?_, ?_, hs.run⟩
    · intro own hown row hrow hid
      rcases mem_overlay.mp hrow with hnew | ⟨hold, -⟩
      · exact absurd ((hrows row hnew).symm.trans hid) (hne own hown)
      · exact hs.issued own hown row hold hid
    · intro own hown hrun row hrow hjob hid
      rcases mem_overlay.mp hrow with hnew | ⟨hold, -⟩
      · exact absurd ((hrows row hnew).symm.trans hid) (hne own hown)
      · exact hs.earlier own hown hrun row hold hjob hid
  · exact hs

theorem Rewrites.treeRunId {tree : TreeRun} {locks rows : List TreeJobLock}
    (h : Rewrites tree locks rows) {row : TreeJobLock} (hrow : row ∈ rows) :
    row.treeRunId = tree.treeRunId := by
  obtain ⟨-, -, -, -, hid, -⟩ := h.source row hrow
  exact hid

/-- A refresh writes the job's own columns; of a job that is to run it says that it starts or
runs, whatever the error. -/
theorem refreshed_eq {runId : String} {result : RunnerResult}
    (h : s.refreshed runId result = some s') :
    ∃ observedState lastErrorCode, s' = { s with observedState, lastErrorCode } ∧
      (s.desiredState = .running → observedState = .starting ∨ observedState = .running) := by
  unfold refreshed at h
  split at h
  · cases hresult : s.runnerResult runId result with
    | done =>
        simp only [hresult] at h
        obtain ⟨⟩ := h
        exact ⟨.running, none, rfl, fun _ => Or.inr rfl⟩
    | apiError code =>
        simp only [hresult] at h
        split at h
        · obtain ⟨⟩ := h
          exact ⟨.starting, none, rfl, fun _ => Or.inl rfl⟩
        · obtain ⟨⟩ := h
          exact ⟨.running, some code, rfl, fun _ => Or.inr rfl⟩
    | raised =>
        simp only [hresult] at h
        exact nomatch h
  · rename_i hdesired
    obtain ⟨⟩ := h
    exact ⟨_, none, rfl, fun h => absurd h hdesired⟩

theorem withoutRun_eq (s : OwnedJob) (containerState : String) :
    ∃ observedState lastErrorCode,
      s.withoutRun containerState = { s with observedState, lastErrorCode } := by
  unfold withoutRun
  split
  · split
    · exact ⟨_, _, rfl⟩
    · exact ⟨_, _, rfl⟩
    · exact ⟨_, _, rfl⟩
  · exact ⟨_, _, rfl⟩

theorem rewritten_reconcile (h : (s.locks.map TreeJobLock.jobId).Nodup) (result : RunnerResult)
    (gateway : Except String String) (now : Int) (endedAt : String) :
    Rewritten s (s.reconcile job result gateway now endedAt) := by
  have hsync : ∀ observedState lastErrorCode,
      Rewritten s (({ s with observedState, lastErrorCode } : OwnedJob).sync job now endedAt) := by
    intro observedState lastErrorCode
    have hsame : Rewritten s { s with observedState, lastErrorCode } :=
      (Rewritten.refl h).congr rfl rfl rfl rfl
    exact hsame.trans (rewritten_sync hsame.keyed now endedAt)
  unfold OwnedJob.reconcile
  split
  · split
    · exact (Rewritten.refl h).congr rfl rfl rfl rfl
    · rename_i containerState
      obtain ⟨observedState, lastErrorCode, hsame⟩ := s.withoutRun_eq containerState
      rw [hsame]
      exact hsync observedState lastErrorCode
  · split
    · exact .refl h
    · rename_i hrefreshed
      obtain ⟨observedState, lastErrorCode, rfl, -⟩ := refreshed_eq hrefreshed
      exact hsync observedState lastErrorCode

theorem Sound.step (hs : s.Sound job) (event : OwnedEvent) : (s.step job event).Sound job := by
  cases event with
  | command name input now endedAt =>
      simp only [OwnedJob.step]
      split
      · exact hs
      · rename_i htransition
        exact (hs.transition htransition).sync now endedAt
  | complete name containerState reported now endedAt => exact (hs.observed _ _).sync now endedAt
  | fail code now endedAt => exact (hs.observed _ _).sync now endedAt
  | reconcile result gateway now endedAt =>
      exact hs.rewritten (rewritten_reconcile hs.keyed result gateway now endedAt)
  | acquireOther tree jobId now =>
      cases hrow : acquireTreeJobLock s.locks tree jobId now job.leaseSeconds with
      | none =>
          simp only [OwnedJob.step, hrow]
          exact hs.written List.nodup_nil fun _ h => nomatch h
      | some row =>
          obtain ⟨generation, expiresAt, rfl, -⟩ := acquire_row hrow
          simp only [OwnedJob.step, hrow]
          refine hs.written (List.nodup_singleton _) fun row hmem => ?_
          obtain rfl := List.mem_singleton.mp hmem
          rfl
  | renewOther tree now =>
      have hrows := @rewrites_renew job.leaseSeconds now tree s.locks hs.keyed
      exact hs.written hrows.nodup fun _ h => Rewrites.treeRunId hrows h
  | releaseOther tree endedAt =>
      have hrows := @rewrites_release tree s.locks endedAt hs.keyed
      exact hs.written hrows.nodup fun _ h => Rewrites.treeRunId hrows h

/-! ## No running without ownership -/

theorem activeTreeRun_isSome (h : ∃ tree ∈ s.trees, tree.status.active = true) :
    ∃ tree ∈ s.trees, tree.status.active = true ∧ s.activeTreeRun = some tree := by
  obtain ⟨tree, hmem, hactive⟩ := h
  have hfilter : tree ∈ s.trees.filter fun tree => tree.status.active :=
    List.mem_filter.mpr ⟨hmem, hactive⟩
  cases htree : s.activeTreeRun with
  | none =>
      rw [latestRow_eq_none htree] at hfilter
      exact nomatch hfilter
  | some tree' =>
      obtain ⟨hmem', hactive'⟩ := List.mem_filter.mp (mem_of_latestRow htree)
      exact ⟨tree', hmem', hactive', rfl⟩

theorem activeTreeRun_eq_none (h : ¬∃ tree ∈ s.trees, tree.status.active = true) :
    s.activeTreeRun = none := by
  cases htree : s.activeTreeRun with
  | none => rfl
  | some tree =>
      obtain ⟨hmem, hactive⟩ := List.mem_filter.mp (mem_of_latestRow htree)
      exact absurd ⟨tree, hmem, hactive⟩ h

/-- A tree that has all its locks is that of the active run. -/
theorem Sound.run_of_renewed (hs : s.Sound job) {tree : SqlTreeRun} (htree : tree ∈ s.trees)
    (hall : ∀ jobId ∈ job.nodes, ∃ row ∈ s.locks, row.jobId = jobId ∧ tree.owns row = true) :
    some tree.continuousSqlRunId = s.activeRunId := by
  by_contra hrun
  obtain ⟨row, hrow, hjob, howns⟩ := hall job.id (mem_nodes.mpr List.mem_cons_self)
  exact hs.earlier tree htree hrun row hrow hjob (owns_iff.mp howns).1

/-- After its renewal the tree owns the job and its children. -/
theorem Sound.owned_of_renewed (hs : s.Sound job) {tree : SqlTreeRun} (htree : tree ∈ s.trees)
    (hactive : s.observedState.active = true) (hrenewed : renewed s.locks tree.toTreeRun = true)
    (now : Int) (lastErrorCode : Option String) :
    ((s.renew tree now job.leaseSeconds).setTree tree.treeRunId s.observedState
      lastErrorCode).Owned job := by
  have hnodes := hs.nodes tree htree
  rw [renewed_iff hs.keyed (hnodes ▸ nodup_nodes job) fun row hrow howns =>
    hnodes ▸ hs.issued tree htree row hrow (owns_iff.mp howns).1] at hrenewed
  rw [hnodes] at hrenewed
  refine ⟨{ tree with status := s.observedState, lastErrorCode }, ?_, hactive,
    @Sound.run_of_renewed _ _ hs tree htree hrenewed, fun jobId hjob => ?_⟩
  · exact List.mem_map.mpr ⟨tree, htree, if_pos rfl⟩
  · obtain ⟨row, hrow, hjobRow, howns⟩ := hrenewed jobId (mem_nodes.mpr hjob)
    refine ⟨{ row with leaseExpiresAt := now + job.leaseSeconds * 1000000 }, ?_, hjobRow,
      owns_iff.mp howns⟩
    refine mem_overlay.mpr (Or.inl (List.mem_map.mpr ⟨row, ?_, rfl⟩))
    exact List.mem_filter.mpr ⟨hrow, howns⟩

theorem sync_none (h : s.activeTreeRun = none) (now : Int) (endedAt : String) :
    s.sync job now endedAt = s := by
  rw [sync, h]

/-- Under an active tree a job that goes on is renewed, or fails. -/
theorem sync_active {tree : SqlTreeRun} (h : s.activeTreeRun = some tree)
    (hactive : s.observedState.active = true) (now : Int) (endedAt : String) :
    (renewed s.locks tree.toTreeRun = true ∧ s.sync job now endedAt =
      (s.renew tree now job.leaseSeconds).setTree tree.treeRunId s.observedState
        tree.lastErrorCode) ∨
    (s.sync job now endedAt).observedState = .failed := by
  unfold sync
  rw [h]
  by_cases hrenewed : renewed s.locks tree.toTreeRun = true
  · exact Or.inl ⟨hrenewed, by simp only [if_pos hactive, if_pos hrenewed]⟩
  · right
    simp only [if_pos hactive, if_neg hrenewed]
    rfl

theorem reconcile_of_refreshed {runId : String} (hrun : s.activeRunId = some runId)
    {result : RunnerResult} (h : s.refreshed runId result = some s')
    (gateway : Except String String) (now : Int) (endedAt : String) :
    s.reconcile job result gateway now endedAt = s'.sync job now endedAt := by
  simp only [OwnedJob.reconcile, hrun, h]

/-- A pass that meets an active tree leaves the job running as the owner of its locks. -/
theorem Sound.lawful_of_meetsTree (hs : s.Sound job) {event : OwnedEvent}
    (h : s.MeetsTree event) : s.Lawful job event := by
  cases event with
  | reconcile result gateway now endedAt =>
      intro hraises hobserved hdesired
      rw [(rewritten_reconcile hs.keyed result gateway now endedAt).desiredState] at hdesired
      obtain ⟨runId, hrun⟩ := Option.isSome_iff_exists.mp (hs.run hdesired)
      cases hrefreshed : s.refreshed runId result with
      | none =>
          rw [raises, hrun, Option.any_some, hrefreshed] at hraises
          exact nomatch hraises
      | some t =>
          rw [reconcile_of_refreshed hrun hrefreshed] at hobserved ⊢
          obtain ⟨observedState, lastErrorCode, rfl, hstarts⟩ := refreshed_eq hrefreshed
          have ht := hs.observed observedState lastErrorCode
          obtain ⟨tree, htree, -, htreeRun⟩ := activeTreeRun_isSome (h hdesired)
          have hactive : observedState.active = true := by
            rcases hstarts hdesired with rfl | rfl
            · rfl
            · rfl
          rcases @sync_active job { s with observedState, lastErrorCode } tree htreeRun hactive now
            endedAt with ⟨hrenewed, hsync⟩ | hfailed
          · rw [hsync]
            exact ht.owned_of_renewed htree hactive hrenewed now _
          · rw [hfailed] at hobserved
            rcases hobserved with h | h
            · exact nomatch h
            · exact nomatch h
  | command | complete | fail | acquireOther | renewOther | releaseOther => trivial

/-- A pass over a job without a tree has it running again. -/
theorem Sound.meetsTree_of_lawful (hs : s.Sound job) {event : OwnedEvent}
    (h : s.Lawful job event) : s.MeetsTree event := by
  cases event with
  | reconcile result gateway now endedAt =>
      intro hdesired
      by_contra hnone
      obtain ⟨runId, hrun⟩ := Option.isSome_iff_exists.mp (hs.run hdesired)
      have htree : s.activeTreeRun = none := activeTreeRun_eq_none hnone
      have hrefreshed : s.refreshed runId result = some { s with
          observedState := .running
          lastErrorCode := some "CONTINUOUS_SQL_DEPENDENCY_UNAVAILABLE" } := by
        rw [refreshed, if_pos hdesired, runnerResult, htree]
        rfl
      have hpass : s.reconcile job result gateway now endedAt = { s with
          observedState := .running
          lastErrorCode := some "CONTINUOUS_SQL_DEPENDENCY_UNAVAILABLE" } := by
        rw [reconcile_of_refreshed hrun hrefreshed]
        exact @sync_none job { s with
          observedState := .running
          lastErrorCode := some "CONTINUOUS_SQL_DEPENDENCY_UNAVAILABLE" } htree now endedAt
      have hraises : s.raises result = false := by
        rw [raises, hrun, Option.any_some, hrefreshed]
        rfl
      have howned := h hraises (by rw [hpass]; exact Or.inr rfl) (by rw [hpass]; exact hdesired)
      rw [hpass] at howned
      obtain ⟨tree, hmem, hactive, -⟩ := howned
      exact hnone ⟨tree, hmem, hactive⟩
  | command | complete | fail | acquireOther | renewOther | releaseOther => trivial

/-- No running without ownership: from a job that has never run, the runs in which every pass
that leaves the job running leaves it as the owner of its locks are those in which every pass
over a job that is to run meets an active tree of it. -/
theorem running_owns_its_locks (job : TreeJob) (events : List OwnedEvent) :
    Along (Lawful job) (step job) start events ↔ Along MeetsTree (step job) start events :=
  along_iff_along (Q := Sound job)
    (fun _ _ hs => ⟨hs.meetsTree_of_lawful, hs.lawful_of_meetsTree⟩)
    (fun _ event hs _ => hs.step event) sound_start

/-! ## A tree that is lost -/

def ordersTree : TreeJob := ⟨"sql-orders", ["orders-stream"], 60, by decide⟩

/-- Another parent's tree. -/
def salesTree : TreeRun := ⟨"tree-sales", "sql-sales", "token-sales", ["orders-stream", "sql-sales"]⟩

/-- The job starts and runs; its lease runs out and another tree takes the child job; the next
pass finds the lock lost, and the one after it comes by. -/
def lostTree : List OwnedEvent :=
  [.command .start ⟨true, "run-1", "tree-orders", "token-orders", fun _ => 0⟩ 0 "t0",
    .complete .start "running" none 1 "t0",
    .acquireOther salesTree "orders-stream" 60000001,
    .reconcile .done (.ok "exited") 60000002 "t1",
    .reconcile .done (.ok "exited") 60000003 "t2"]

/-- The pass that finds the lock lost fails the job and ends its tree; the next pass has the
job running again, without a tree. -/
theorem lost_tree_running_again :
    (play (step ordersTree) start (lostTree.take 4)).observedState = .failed ∧
    (play (step ordersTree) start lostTree).observedState = .running ∧
    ¬ Along (Lawful ordersTree) (step ordersTree) start lostTree := by
  refine ⟨by decide +kernel, by decide +kernel, fun h => ?_⟩
  have hpass := (@along_append _ _ _ _ _ (lostTree.take 4) (lostTree.drop 4)).mp h
  obtain ⟨tree, hmem, hactive, -⟩ := hpass.2.1 (by decide +kernel) (by decide +kernel)
    (by decide +kernel)
  have hended : ∀ tree ∈ (play (step ordersTree) start lostTree).trees,
      tree.status.active = false := by decide +kernel
  exact absurd hactive (by rw [hended tree hmem]; decide)

end OwnedJob

end AskLake.ContinuousSql

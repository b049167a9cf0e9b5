/-
# `AskLake.KafkaPublication.WorkflowRecord` — what the record of a publication says

The log is read from its newest event on.  `currentEvents` are the events of the newest key,

    e₁ e₂ … eₙ | d …        keys   k k … k | l …

and the record should be theirs: of each stage how often it was started and what became of it
last.  A call adds its events on top.  Only a rollback can take a record away, and only the
rollback of a call that has no identity does.
-/
import AskLake.KafkaPublication.Workflow
import AskLake.KafkaPublication.SamePublication

namespace AskLake.KafkaPublication.Workflow

open AskLake.Lib AskLake.Python
open AskLake.KafkaPublication.Identity (PublicationHost)

/-! ## The record that a log calls for -/

/-- The events of the consecutive calls with the newest key. -/
def currentEvents : List StageEvent → List StageEvent
  | [] => []
  | event :: log => event :: log.takeWhile fun earlier => earlier.key = event.key

/-- How often `stage` was started. -/
def startsOf (events : List StageEvent) (stage : PublicationStage) : Nat :=
  events.countP fun event => event.stage = stage ∧ event.change = .started

def lastOf (events : List StageEvent) (stage : PublicationStage) : Option StageEvent :=
  events.find? fun event => event.stage = stage

def stateOf (events : List StageEvent) (stage : PublicationStage) : Option StageState :=
  (lastOf events stage).map fun event =>
    { attempts := startsOf events stage
      status := event.change.status
      errorCode := event.change.errorCode
      message := event.change.message }

/-- `workflow` tells what happened in `events`, the newest of which is `event`. -/
structure Tells (workflow : PublicationWorkflow) (event : StageEvent)
    (events : List StageEvent) : Prop where
  identity : workflow.identity = event.identity
  stages : ∀ stage, workflow.stages stage = stateOf events stage
  completed : workflow.status = .completed ↔
    ∀ stage, ∃ last, lastOf events stage = some last ∧
      (last.change.status = .succeeded ∨ last.change.status = .skipped)
  partialFailure : workflow.status = .partialFailure ↔
    ∃ stage last, lastOf events stage = some last ∧ last.change.status = .failed

/-- The record is the one that the log calls for. -/
def Recorded (s : StagedRuntime) : Prop :=
  match s.log with
  | [] => s.runtime.workflow = none
  | event :: log => ∃ workflow, s.runtime.workflow = some workflow ∧
      Tells workflow event (currentEvents (event :: log))

/-! ## The status of the stages -/

theorem mem_allStages (stage : PublicationStage) : stage ∈ allStages := by
  cases stage <;> decide

theorem stageStatus_terminal {status : StageStatus} :
    status.terminal = true ↔ status = .succeeded ∨ status = .skipped := by
  cases status <;> simp [StageStatus.terminal]

theorem workflowStatus_partialFailure {stages : Table PublicationStage StageState} :
    workflowStatus stages = .partialFailure ↔
      ∃ stage state, stages stage = some state ∧ state.status = .failed := by
  have hany : (allStages.any fun stage => (stages stage).any fun state => state.status == .failed)
      = true ↔ ∃ stage state, stages stage = some state ∧ state.status = .failed := by
    simp [List.any_eq_true, mem_allStages, Option.any_eq_true]
  rw [← hany, workflowStatus]
  split
  · next h => exact ⟨fun _ => h, fun _ => rfl⟩
  · next h =>
    refine ⟨fun hs => ?_, fun hs => absurd hs h⟩
    split at hs <;> cases hs

theorem workflowStatus_completed {stages : Table PublicationStage StageState} :
    workflowStatus stages = .completed ↔
      ∀ stage, ∃ state, stages stage = some state ∧
        (state.status = .succeeded ∨ state.status = .skipped) := by
  have hall : (allStages.all fun stage => (stages stage).any fun state => state.status.terminal)
      = true ↔ ∀ stage, ∃ state, stages stage = some state ∧
        (state.status = .succeeded ∨ state.status = .skipped) := by
    simp [List.all_eq_true, mem_allStages, Option.any_eq_true, stageStatus_terminal]
  rw [← hall, workflowStatus]
  split
  · next h =>
    refine ⟨fun hs => (by cases hs), fun hs => ?_⟩
    obtain ⟨stage, -, hfailed⟩ := List.any_eq_true.mp h
    obtain ⟨state, hstate, hterminal⟩ := hall.mp hs stage
    rw [hstate, Option.any_some, beq_iff_eq] at hfailed
    rcases hterminal with h | h
    · rw [h] at hfailed; cases hfailed
    · rw [h] at hfailed; cases hfailed
  · split
    · next h => exact ⟨fun _ => h, fun _ => rfl⟩
    · next h => exact ⟨fun hs => by (cases hs), fun hs => absurd hs h⟩

/-! ## The record after one more event -/

theorem startsOf_cons (event : StageEvent) (events : List StageEvent) (stage : PublicationStage) :
    startsOf (event :: events) stage =
      startsOf events stage + if event.stage = stage ∧ event.change = .started then 1 else 0 := by
  rw [startsOf, List.countP_cons]
  simp [startsOf]

theorem lastOf_cons (event : StageEvent) (events : List StageEvent) (stage : PublicationStage) :
    lastOf (event :: events) stage =
      if event.stage = stage then some event else lastOf events stage := by
  rw [lastOf, List.find?_cons]
  by_cases h : event.stage = stage
  · simp [h]
  · simp [h, lastOf]

/-- A stage that has no last event was never started. -/
theorem startsOf_of_lastOf {events : List StageEvent} {stage : PublicationStage}
    (h : lastOf events stage = none) : startsOf events stage = 0 := by
  rw [startsOf, List.countP_eq_zero]
  intro event hevent hstarted
  have hne := List.find?_eq_none.mp h event hevent
  exact hne (decide_eq_true (of_decide_eq_true hstarted).1)

theorem attempts_stateOf (events : List StageEvent) (stage : PublicationStage) :
    (stateOf events stage).elim 0 StageState.attempts = startsOf events stage := by
  rw [stateOf]
  cases h : lastOf events stage with
  | none => exact (startsOf_of_lastOf h).symm
  | some event => rfl

theorem status_running {change : StageChange} : change.status = .running ↔ change = .started := by
  cases change <;> simp [StageChange.status]

/-- The record of `events`, with `event` on top of them. -/
theorem recordStage_stages {stages : Table PublicationStage StageState} {events : List StageEvent}
    (h : ∀ stage, stages stage = stateOf events stage) (event : StageEvent)
    (stage : PublicationStage) :
    Table.put stages event.stage
        { attempts := (stages event.stage).elim 0 StageState.attempts +
            if event.change.status = .running then 1 else 0
          status := event.change.status
          errorCode := event.change.errorCode
          message := event.change.message } stage =
      stateOf (event :: events) stage := by
  rw [Table.put_apply, stateOf, lastOf_cons, startsOf_cons]
  by_cases hstage : stage = event.stage
  · subst hstage
    simp only [if_true, Option.map_some, true_and]
    rw [h, attempts_stateOf]
    simp only [status_running]
  · have hne : event.stage ≠ stage := fun heq => hstage heq.symm
    simp only [if_neg hstage, hne, false_and, if_false, Nat.add_zero]
    rw [h, stateOf]

theorem tells_of_stages {workflow : PublicationWorkflow} {event : StageEvent}
    {events : List StageEvent} (hidentity : workflow.identity = event.identity)
    (hstages : ∀ stage, workflow.stages stage = stateOf events stage)
    (hstatus : workflow.status = workflowStatus workflow.stages) :
    Tells workflow event events := by
  have hstate : ∀ stage (p : StageStatus → Prop),
      (∃ state, workflow.stages stage = some state ∧ p state.status) ↔
        ∃ last, lastOf events stage = some last ∧ p last.change.status := by
    intro stage p
    rw [hstages, stateOf]
    cases lastOf events stage <;> simp
  refine ⟨hidentity, hstages, ?_, ?_⟩
  · rw [hstatus, workflowStatus_completed]
    exact forall_congr' fun stage => hstate stage fun status =>
      status = .succeeded ∨ status = .skipped
  · rw [hstatus, workflowStatus_partialFailure]
    exact exists_congr fun stage => hstate stage (· = .failed)

/-- A record is told by its events. -/
theorem Tells.unique {workflow other : PublicationWorkflow} {event : StageEvent}
    {events : List StageEvent} (h : Tells workflow event events) (h' : Tells other event events) :
    workflow = other := by
  have hstages : workflow.stages = other.stages :=
    funext fun stage => (h.stages stage).trans (h'.stages stage).symm
  have hcompleted := h.completed.trans h'.completed.symm
  have hpartial := h.partialFailure.trans h'.partialFailure.symm
  have hstatus : workflow.status = other.status := by
    revert hcompleted hpartial
    cases workflow.status <;> cases other.status <;> simp
  obtain ⟨identity, stages, status⟩ := workflow
  obtain ⟨identity', stages', status'⟩ := other
  obtain rfl : identity = event.identity := h.identity
  obtain rfl : identity' = event.identity := h'.identity
  obtain rfl : stages = stages' := hstages
  obtain rfl : status = status' := hstatus
  rfl

/-! ## What keeps the record -/

/-- The record is right, and nothing of it was committed before there was any. -/
structure Held (s : StagedRuntime) : Prop where
  recorded : Recorded s
  fresh : s.log = [] → s.committed.workflow = none

theorem Recorded.of_same {s s' : StagedRuntime} (h : Recorded s)
    (hworkflow : s'.runtime.workflow = s.runtime.workflow) (hlog : s'.log = s.log) :
    Recorded s' := by
  rw [Recorded, hlog, hworkflow]
  exact h

theorem Recorded.workflow_none {s : StagedRuntime} (h : Recorded s)
    (hnone : s.runtime.workflow = none) : s.log = [] := by
  rw [Recorded] at h
  split at h
  · assumption
  · obtain ⟨workflow, hsome, -⟩ := h
    rw [hnone] at hsome
    cases hsome

/-- Two states with one log and a right record have the same record. -/
theorem Recorded.unique {s s' : StagedRuntime} (h : Recorded s) (h' : Recorded s')
    (hlog : s'.log = s.log) : s'.runtime.workflow = s.runtime.workflow := by
  rw [Recorded, hlog] at h'
  rw [Recorded] at h
  cases hl : s.log with
  | nil =>
      rw [hl] at h h'
      exact h'.trans h.symm
  | cons event log =>
      rw [hl] at h h'
      obtain ⟨workflow, hw, htells⟩ := h
      obtain ⟨workflow', hw', htells'⟩ := h'
      rw [hw, hw', htells.unique htells']

/-- The events that the record is about, with one more on top. -/
theorem currentEvents_cons (event earlier : StageEvent) (log : List StageEvent) :
    currentEvents (event :: earlier :: log) =
      if earlier.key = event.key then event :: currentEvents (earlier :: log) else [event] := by
  rw [currentEvents, List.takeWhile_cons]
  by_cases h : earlier.key = event.key
  · simp [h, currentEvents]
  · simp [h]

theorem recorded_record {s : StagedRuntime} (h : Recorded s) (event : StageEvent) :
    Recorded (s.record event) := by
  have hfresh : ∀ stages : Table PublicationStage StageState, stages = (fun _ => none) →
      ∀ stage, stages stage = stateOf [] stage := by
    rintro _ rfl stage
    rfl
  rw [Recorded] at h
  refine ⟨_, rfl, ?_⟩
  show Tells _ event (currentEvents (event :: s.log))
  cases hl : s.log with
  | nil =>
      rw [hl] at h
      refine tells_of_stages rfl (recordStage_stages (hfresh _ ?_) event) rfl
      rw [h]
      rfl
  | cons earlier log =>
      rw [hl] at h
      obtain ⟨workflow, hw, htells⟩ := h
      rw [currentEvents_cons]
      by_cases hkey : earlier.key = event.key
      · rw [if_pos hkey]
        refine tells_of_stages rfl (recordStage_stages (fun stage => ?_) event) rfl
        have hsame : workflow.identity.idempotencyKey = event.key := by
          rw [htells.identity]
          exact hkey
        rw [hw, Option.filter_some, if_pos (decide_eq_true hsame)]
        exact htells.stages stage
      · rw [if_neg hkey]
        refine tells_of_stages rfl (recordStage_stages (hfresh _ ?_) event) rfl
        have hother : ¬ workflow.identity.idempotencyKey = event.key := by
          rw [htells.identity]
          exact hkey
        rw [hw, Option.filter_some, if_neg (by simpa using hother)]
        rfl

namespace Held

variable {s : StagedRuntime}

theorem record (h : Held s) (event : StageEvent) : Held (s.record event) :=
  ⟨recorded_record h.recorded event, fun hlog => by cases hlog⟩

theorem commit (h : Held s) : Held s.commit := by
  refine ⟨h.recorded.of_same rfl rfl, fun hlog => ?_⟩
  have hrecorded := h.recorded
  rw [Recorded, show s.log = [] from hlog] at hrecorded
  exact hrecorded

theorem afterHook {α : Type} (h : Held s) (hook : HookAnswer α) : Held (s.afterHook hook) := by
  rw [StagedRuntime.afterHook]
  split
  · exact h.commit
  · exact h

/-- The rollback that takes the record along. -/
theorem rollbackPreservingWorkflow (h : Held s) : Held s.rollbackPreservingWorkflow := by
  rw [StagedRuntime.rollbackPreservingWorkflow]
  split
  · next hnone =>
    have hlog := h.recorded.workflow_none hnone
    refine ⟨h.recorded.of_same ?_ rfl, h.fresh⟩
    rw [hnone]
    exact h.fresh hlog
  · next workflow hsome => exact ⟨h.recorded.of_same hsome.symm rfl, h.fresh⟩

theorem recordStageFailure (h : Held s) (identity : Identity.PublicationIdentity)
    (stage : PublicationStage) (code message : String) :
    Held (s.recordStageFailure identity stage code message) :=
  ⟨(h.record _).recorded.of_same rfl rfl, fun hlog => by cases hlog⟩

theorem clearPublicationError (h : Held s) : Held s.clearPublicationError := by
  rw [StagedRuntime.clearPublicationError]
  split
  · exact ⟨h.recorded.of_same rfl rfl, h.fresh⟩
  · exact h

theorem runStage {α : Type} (h : Held s) (identity : Identity.PublicationIdentity)
    (stage : PublicationStage) (code : String) (compactError : Error → String)
    (hook : HookAnswer α) (finished : α → StageChange) :
    Held (s.runStage identity stage code compactError hook finished).1 := by
  have hstarted := (h.record ⟨identity, stage, .started⟩).afterHook hook
  rw [StagedRuntime.runStage]
  split
  · exact hstarted.record _
  · exact hstarted.rollbackPreservingWorkflow.recordStageFailure ..

theorem verifyOutputStage (h : Held s) (identity : Identity.PublicationIdentity)
    (storedCount : Nat) (hooks : PublicationHooks) :
    Held (s.verifyOutputStage identity storedCount hooks).1 := by
  rw [StagedRuntime.verifyOutputStage]
  split
  · exact h.record _
  · exact h.runStage ..

theorem thenStage {before : StagedRuntime × Bool} {f : StagedRuntime → StagedRuntime × Bool}
    (h : Held before.1) (hstage : ∀ {s}, Held s → Held (f s).1) :
    Held (StagedRuntime.thenStage before f).1 := by
  rw [StagedRuntime.thenStage]
  split
  · exact hstage h
  · exact h

/-- A call with an identity keeps the record. -/
theorem executeStages (h : Held s) (identity : Identity.PublicationIdentity) (storedCount : Nat)
    (hooks : PublicationHooks) : Held (s.executeStages identity storedCount hooks).1 := by
  have hprepared := h.afterHook hooks.prepare
  rw [StagedRuntime.executeStages]
  split
  · exact hprepared.rollbackPreservingWorkflow.recordStageFailure ..
  · have hstaged := ((hprepared.verifyOutputStage identity storedCount hooks).thenStage
      (f := fun s => s.verifyManifestStage identity hooks) fun h => h.runStage ..).thenStage
      (f := fun s => s.registerCatalogStage identity hooks) fun h => h.runStage ..
    have hstaged := hstaged.thenStage
      (f := fun s => s.publishDashboardStage identity hooks) fun h => h.runStage ..
    dsimp only
    split
    · have hupdated := hstaged.afterHook hooks.updateJobStats
      split
      · exact hupdated
      · exact hupdated.clearPublicationError
    · exact hstaged

end Held

/-! ## Runs of calls -/

inductive Call
  | execute (publication : Value) (hooks : PublicationHooks)
  /-- The caller commits. -/
  | commit

/-- One step on the runtime of `jobId`. -/
def StagedRuntime.step (host : PublicationHost) (jobId : String) (s : StagedRuntime) :
    Call → StagedRuntime
  | .execute publication hooks => (s.executeContinuousPublication host jobId publication hooks).1
  | .commit => s.commit

/-- A call without an identity meets a record that has been committed. -/
def Settled (host : PublicationHost) (jobId : String) (s : StagedRuntime) : Call → Prop
  | .execute publication _ =>
      (Identity.buildPublicationIdentity host jobId publication).toOption = none →
        s.committed.workflow = s.runtime.workflow
  | .commit => True

theorem held_step {host : PublicationHost} {jobId : String} {s : StagedRuntime} (h : Held s)
    {call : Call} (hsettled : Settled host jobId s call) : Held (s.step host jobId call) := by
  cases call with
  | commit => exact h.commit
  | execute publication hooks =>
      simp only [StagedRuntime.step, StagedRuntime.executeContinuousPublication]
      rw [Settled] at hsettled
      split
      · next e hidentity =>
        rw [hidentity] at hsettled
        exact ⟨h.recorded.of_same (hsettled rfl) rfl, h.fresh⟩
      · exact h.executeStages ..

/-- The record stays right exactly if it is not taken away. -/
theorem recorded_step_iff {host : PublicationHost} {jobId : String} {s : StagedRuntime}
    (h : Held s) (call : Call) :
    Recorded (s.step host jobId call) ↔ Settled host jobId s call := by
  refine ⟨fun hrecorded => ?_, fun hsettled => (held_step h hsettled).recorded⟩
  cases call with
  | commit => trivial
  | execute publication hooks =>
      intro hnone
      simp only [StagedRuntime.step, StagedRuntime.executeContinuousPublication] at hrecorded
      split at hrecorded
      · exact h.recorded.unique hrecorded rfl
      · next identity hidentity =>
        rw [hidentity] at hnone
        cases hnone

/-! ## What one call does -/

/-- The stages in their order. -/
def position : PublicationStage → Nat
  | .output => 0
  | .manifest => 1
  | .catalog => 2
  | .dashboard => 3

/-- The error codes a stage can fail with. -/
def failureCodes : PublicationStage → List String
  | .output => ["publication_input_invalid", "publication_output_unverified"]
  | .manifest => ["publication_manifest_unavailable"]
  | .catalog => ["catalog_publication_pending"]
  | .dashboard => ["dashboard_publication_pending"]

/-- The record has the identity and the outcome of the newest event. -/
def Shown (s : StagedRuntime) : Prop :=
  ∀ event log, s.log = event :: log → ∃ workflow attempts, s.runtime.workflow = some workflow ∧
    workflow.identity = event.identity ∧ workflow.stages event.stage = some
      ⟨attempts, event.change.status, event.change.errorCode, event.change.message⟩

/-- From `log` on, `events` (newest first) happened to the stages between `first` and `last`,
each after those before it and none after a failure; the newest one is the failure, unless
everything passed. -/
structure Told (identity : Identity.PublicationIdentity) (first last : Nat)
    (log : List StageEvent) (s : StagedRuntime) (passed : Prop) (events : List StageEvent) :
    Prop where
  log : s.log = events ++ log
  some : events ≠ []
  mine : ∀ event ∈ events, event.identity = identity ∧
    first ≤ position event.stage ∧ position event.stage < last
  ordered : events.Pairwise fun later earlier =>
    position earlier.stage ≤ position later.stage ∧ earlier.change.status ≠ .failed
  passes : passed → ∀ event ∈ events, event.change.status ≠ .failed
  fails : ¬ passed → ∃ stage code message earlier,
    events = ⟨identity, stage, .failed code message⟩ :: earlier ∧ code ∈ failureCodes stage
  shown : Shown s

theorem shown_record (s : StagedRuntime) (event : StageEvent) : Shown (s.record event) := by
  rintro newest log heq
  obtain rfl : event = newest := (List.cons.inj heq).1
  exact ⟨_, _, rfl, rfl, Table.put_self ..⟩

theorem Shown.of_same {s s' : StagedRuntime} (h : Shown s)
    (hworkflow : s'.runtime.workflow = s.runtime.workflow) (hlog : s'.log = s.log) :
    Shown s' := by
  rw [Shown, hlog, hworkflow]
  exact h

namespace Told

variable {identity : Identity.PublicationIdentity} {first middle last : Nat}
  {log events more : List StageEvent} {s s' : StagedRuntime} {passed passed' : Prop}

theorem of_same (h : Told identity first last log s passed events) (hpassed : passed ↔ passed')
    (hworkflow : s'.runtime.workflow = s.runtime.workflow) (hlog : s'.log = s.log) :
    Told identity first last log s' passed' events :=
  ⟨hlog.trans h.log, h.some, h.mine, h.ordered, fun hp => h.passes (hpassed.mpr hp),
    fun hp => h.fails fun hq => hp (hpassed.mp hq), h.shown.of_same hworkflow hlog⟩

theorem widen (h : Told identity first middle log s passed events) (hle : middle ≤ last) :
    Told identity first last log s passed events :=
  { h with mine := fun event hevent =>
      let ⟨hid, hfirst, hlast⟩ := h.mine event hevent
      ⟨hid, hfirst, hlast.trans_le hle⟩ }

/-- One stretch after another that passed. -/
theorem append (h : Told identity first middle log s passed events) (hp : passed)
    (h' : Told identity middle last s.log s' passed' more) (hle : first ≤ middle)
    (hle' : middle ≤ last) : Told identity first last log s' passed' (more ++ events) := by
  refine ⟨?_, ?_, ?_, ?_, ?_, ?_, h'.shown⟩
  · rw [h'.log, h.log, List.append_assoc]
  · intro hnil
    exact h.some (List.append_eq_nil_iff.mp hnil).2
  · intro event hevent
    rcases List.mem_append.mp hevent with hmem | hmem
    · obtain ⟨hid, hfirst, hlast⟩ := h'.mine event hmem
      exact ⟨hid, by omega, hlast⟩
    · obtain ⟨hid, hfirst, hlast⟩ := h.mine event hmem
      exact ⟨hid, hfirst, by omega⟩
  · refine List.pairwise_append.mpr ⟨h'.ordered, h.ordered, fun later hlater earlier hearlier => ?_⟩
    have hfrom := (h'.mine later hlater).2.1
    have hupto := (h.mine earlier hearlier).2.2
    exact ⟨by omega, h.passes hp earlier hearlier⟩
  · intro hpassed event hevent
    rcases List.mem_append.mp hevent with hmem | hmem
    · exact h'.passes hpassed event hmem
    · exact h.passes hp event hmem
  · intro hfailed
    obtain ⟨stage, code, message, earlier, hmore, hcode⟩ := h'.fails hfailed
    exact ⟨stage, code, message, earlier ++ events, by rw [hmore]; rfl, hcode⟩

end Told

theorem log_afterHook {α : Type} (s : StagedRuntime) (hook : HookAnswer α) :
    (s.afterHook hook).log = s.log ∧ (s.afterHook hook).runtime = s.runtime := by
  rw [StagedRuntime.afterHook]
  split
  · exact ⟨rfl, rfl⟩
  · exact ⟨rfl, rfl⟩

theorem log_rollbackPreservingWorkflow (s : StagedRuntime) :
    s.rollbackPreservingWorkflow.log = s.log := by
  rw [StagedRuntime.rollbackPreservingWorkflow]
  split
  · rfl
  · rfl

/-- A stage to which `changes` happened, newest first. -/
theorem told_stage (identity : Identity.PublicationIdentity) (stage : PublicationStage)
    (changes : List StageChange) {log : List StageEvent} {s : StagedRuntime} {passed : Prop}
    (hlog : s.log = changes.map (⟨identity, stage, ·⟩) ++ log) (hsome : changes ≠ [])
    (hearlier : ∀ change ∈ changes.tail, change.status ≠ .failed)
    (hpasses : passed → ∀ change ∈ changes, change.status ≠ .failed)
    (hfails : ¬ passed → ∃ code message, changes.head? = some (.failed code message) ∧
      code ∈ failureCodes stage) (hshown : Shown s) :
    ∃ events, Told identity (position stage) (position stage + 1) log s passed events := by
  refine ⟨_, hlog, fun hnil => hsome (List.map_eq_nil_iff.mp hnil), ?_, ?_, ?_, ?_, hshown⟩
  · intro event hevent
    obtain ⟨change, -, rfl⟩ := List.mem_map.mp hevent
    exact ⟨rfl, le_refl _, Nat.lt_succ_self _⟩
  · cases changes with
    | nil => exact absurd rfl hsome
    | cons newest earlier =>
        refine List.pairwise_cons.mpr ⟨?_, List.pairwise_of_forall_mem_list ?_⟩
        · intro event hevent
          obtain ⟨change, hchange, rfl⟩ := List.mem_map.mp hevent
          exact ⟨le_refl _, hearlier change hchange⟩
        · intro later hlater event hevent
          obtain ⟨change, -, rfl⟩ := List.mem_map.mp hlater
          obtain ⟨change', hchange', rfl⟩ := List.mem_map.mp hevent
          exact ⟨le_refl _, hearlier change' hchange'⟩
  · intro hp event hevent
    obtain ⟨change, hchange, rfl⟩ := List.mem_map.mp hevent
    exact hpasses hp change hchange
  · intro hp
    obtain ⟨code, message, hhead, hcode⟩ := hfails hp
    obtain ⟨earlier, rfl⟩ := List.head?_eq_some_iff.mp hhead
    exact ⟨stage, code, message, _, rfl, hcode⟩

theorem shown_recordStageFailure (s : StagedRuntime) (identity : Identity.PublicationIdentity)
    (stage : PublicationStage) (code message : String) :
    Shown (s.recordStageFailure identity stage code message) :=
  (shown_record s ⟨identity, stage, .failed code message⟩).of_same rfl rfl

theorem told_runStage {α : Type} (s : StagedRuntime) (identity : Identity.PublicationIdentity)
    (stage : PublicationStage) {code : String} (hcode : code ∈ failureCodes stage)
    (compactError : Error → String) (hook : HookAnswer α) {finished : α → StageChange}
    (hfinished : ∀ a, (finished a).status ≠ .failed) :
    ∃ events, Told identity (position stage) (position stage + 1) s.log
      (s.runStage identity stage code compactError hook finished).1
      ((s.runStage identity stage code compactError hook finished).2 = true) events := by
  obtain ⟨hlog, -⟩ := log_afterHook (s.record ⟨identity, stage, .started⟩) hook
  have hstarted : StageChange.started.status ≠ .failed := by decide
  rw [StagedRuntime.runStage]
  split
  · next a hresult =>
    refine told_stage identity stage [finished a, .started] ?_ (by simp) (by simpa using hstarted)
      (fun _ => ?_) (fun h => absurd rfl h) (shown_record _ _)
    · show _ :: StagedRuntime.log _ = _
      rw [hlog]
      rfl
    · simpa using ⟨hfinished a, hstarted⟩
  · next e hresult =>
    refine told_stage identity stage [.failed code (compactError e), .started] ?_ (by simp)
      (by simpa using hstarted) (fun h => by cases h) (fun _ => ⟨code, compactError e, rfl, hcode⟩)
      (shown_recordStageFailure _ _ _ _ _)
    show _ :: StagedRuntime.log _ = _
    rw [log_rollbackPreservingWorkflow, hlog]
    rfl

theorem told_verifyOutputStage (s : StagedRuntime) (identity : Identity.PublicationIdentity)
    (storedCount : Nat) (hooks : PublicationHooks) :
    ∃ events, Told identity 0 1 s.log (s.verifyOutputStage identity storedCount hooks).1
      ((s.verifyOutputStage identity storedCount hooks).2 = true) events := by
  have hskipped : StageChange.skipped.status ≠ .failed := by decide
  rw [StagedRuntime.verifyOutputStage]
  split
  · refine told_stage identity .output [.skipped] rfl (by simp) (by simp) (fun _ => ?_)
      (fun h => absurd rfl h) (shown_record _ _)
    simpa using hskipped
  · exact told_runStage s identity .output (by simp [failureCodes]) _ _ fun _ => by decide

theorem told_thenStage {identity : Identity.PublicationIdentity} {log : List StageEvent}
    {before : StagedRuntime × Bool} (stage : PublicationStage)
    (f : StagedRuntime → StagedRuntime × Bool)
    (h : ∃ events, Told identity 0 (position stage) log before.1 (before.2 = true) events)
    (hstage : ∀ s, ∃ events, Told identity (position stage) (position stage + 1) s.log (f s).1
      ((f s).2 = true) events) :
    ∃ events, Told identity 0 (position stage + 1) log (StagedRuntime.thenStage before f).1
      ((StagedRuntime.thenStage before f).2 = true) events := by
  obtain ⟨events, h⟩ := h
  rw [StagedRuntime.thenStage]
  split
  · next hpassed =>
    obtain ⟨more, h'⟩ := hstage before.1
    exact ⟨_, h.append hpassed h' (Nat.zero_le _) (Nat.le_succ _)⟩
  · exact ⟨events, h.widen (Nat.le_succ _)⟩

theorem workflow_clearPublicationError (s : StagedRuntime) :
    s.clearPublicationError.runtime.workflow = s.runtime.workflow ∧
      s.clearPublicationError.log = s.log := by
  rw [StagedRuntime.clearPublicationError]
  split
  · exact ⟨rfl, rfl⟩
  · exact ⟨rfl, rfl⟩

/-- A call with an identity goes through the stages in order and stops at a failure, which it
records. -/
theorem told_executeStages (s : StagedRuntime) (identity : Identity.PublicationIdentity)
    (storedCount : Nat) (hooks : PublicationHooks) :
    ∃ events, Told identity 0 4 s.log (s.executeStages identity storedCount hooks).1
      ((s.executeStages identity storedCount hooks).2 ≠ .ok false) events := by
  obtain ⟨hlog, -⟩ := log_afterHook s hooks.prepare
  rw [StagedRuntime.executeStages]
  split
  · next e hresult =>
    have hfailed : ((s.afterHook hooks.prepare).rollbackPreservingWorkflow.recordStageFailure
        identity .output "publication_input_invalid" (hooks.compactError e)).log =
        ⟨identity, .output, .failed "publication_input_invalid" (hooks.compactError e)⟩ ::
          s.log := by
      show _ :: StagedRuntime.log _ = _
      rw [log_rollbackPreservingWorkflow, hlog]
    obtain ⟨events, h⟩ := told_stage identity .output [.failed _ _] hfailed (by simp) (by simp)
      (fun h => (h : False).elim) (fun _ => ⟨_, _, rfl, by simp [failureCodes]⟩)
      (shown_recordStageFailure _ _ _ _ _)
    exact ⟨events, (h.widen (by decide)).of_same (by simp) rfl rfl⟩
  · have hstaged := told_verifyOutputStage (s.afterHook hooks.prepare) identity storedCount hooks
    rw [hlog] at hstaged
    have hstaged := told_thenStage .manifest (fun s => s.verifyManifestStage identity hooks)
      hstaged fun s => told_runStage s identity _ (by simp [failureCodes]) _ _ fun _ => by decide
    have hstaged := told_thenStage .catalog (fun s => s.registerCatalogStage identity hooks)
      hstaged fun s => told_runStage s identity _ (by simp [failureCodes]) _ _
        fun skipped => by cases skipped <;> decide
    obtain ⟨events, h⟩ := told_thenStage .dashboard
      (fun s => s.publishDashboardStage identity hooks) hstaged
      fun s => told_runStage s identity _ (by simp [failureCodes]) _ _ fun _ => by decide
    refine ⟨events, ?_⟩
    dsimp only
    split
    · next hpassed =>
      obtain ⟨hupdated, hruntime⟩ := log_afterHook (StagedRuntime.thenStage _ _).1
        hooks.updateJobStats
      split
      · exact h.of_same (by simp [hpassed]) (congrArg RuntimeRow.workflow hruntime) hupdated
      · obtain ⟨hworkflow, hcleared⟩ := workflow_clearPublicationError
          ((StagedRuntime.thenStage _ _).1.afterHook hooks.updateJobStats)
        exact h.of_same (by simp [hpassed])
          (hworkflow.trans (congrArg RuntimeRow.workflow hruntime)) (hcleared.trans hupdated)
    · next hpassed => exact h.of_same (by simp [hpassed]) rfl rfl

/-! ## Every run -/

theorem held_start : Held .start := ⟨rfl, fun _ => rfl⟩

/-- In every run of calls the record is that of the log after each of them, exactly if every
call without an identity meets a committed record.  A call with an identity goes through the
stages in order, stops at the first failure and leaves it in the record. -/
theorem publication_record_survives_iff (host : PublicationHost) (jobId : String) :
    (∀ calls, Always Recorded (StagedRuntime.step host jobId) .start calls ↔
      Along (Settled host jobId) (StagedRuntime.step host jobId) .start calls) ∧
    ∀ (s : StagedRuntime) publication hooks identity,
      Identity.buildPublicationIdentity host jobId publication = .ok identity →
      ∃ events, Told identity 0 4 s.log
        (s.executeContinuousPublication host jobId publication hooks).1
        ((s.executeContinuousPublication host jobId publication hooks).2 ≠ .ok false) events := by
  refine ⟨fun calls => ?_, fun s publication hooks identity hidentity => ?_⟩
  · have hrun : Along (fun _ _ => True) (StagedRuntime.step host jobId) .start calls :=
      along_of_forall fun _ _ => trivial
    exact always_iff_along_of (fun s call h _ _ => recorded_step_iff h call)
      (fun s call h _ _ hsettled => held_step h hsettled) held_start held_start.recorded hrun
  · rw [StagedRuntime.executeContinuousPublication, hidentity]
    exact told_executeStages ..

/-! ## A record that is lost -/

def plainHost : PublicationHost :=
  { Identity.shownHost with sha256 := fun _ => "digest" }

def batchOf (batchId : Int) : Value :=
  .obj [("batchId", .int batchId), ("runId", .str "continuous:job-1:batch:3:a"),
    ("storedCount", .int 5)]

/-- No identity can be built of it. -/
def unidentified : Value := .obj []

def returning : PublicationHooks where
  prepare := ⟨false, .ok ()⟩
  verifyOutput := ⟨false, .ok ()⟩
  verifyManifest := ⟨false, .ok ()⟩
  registerCatalog := ⟨false, .ok false⟩
  publishDashboard := ⟨false, .ok ()⟩
  updateJobStats := ⟨false, .ok ()⟩
  compactError _ := "refused"

/-- The output is refused, and nothing is committed. -/
def refusing : PublicationHooks :=
  { returning with verifyOutput := ⟨false, .error (.runtime "output unavailable")⟩ }

/-- The output of one batch is tried twice; the call between has no identity. -/
def lostRun : List Call :=
  [.execute (batchOf 3) refusing, .execute unidentified returning,
    .execute (batchOf 3) refusing]

def outputAttempts (s : StagedRuntime) : Option Nat :=
  s.runtime.workflow.bind fun workflow => (workflow.stages .output).map StageState.attempts

def startedOutputs (s : StagedRuntime) : Nat := startsOf (currentEvents s.log) .output

theorem record_lost_without_identity :
    outputAttempts (play (StagedRuntime.step plainHost "job-1") .start lostRun) = some 1 ∧
      startedOutputs (play (StagedRuntime.step plainHost "job-1") .start lostRun) = 2 ∧
      ¬ Always Recorded (StagedRuntime.step plainHost "job-1") .start lostRun := by
  have hlost : (StagedRuntime.start.step plainHost "job-1"
      (.execute (batchOf 3) refusing)).log ≠ [] ∧
      ((StagedRuntime.start.step plainHost "job-1" (.execute (batchOf 3) refusing)).step
        plainHost "job-1" (.execute unidentified returning)).log =
        (StagedRuntime.start.step plainHost "job-1"
          (.execute (batchOf 3) refusing)).log ∧
      ((StagedRuntime.start.step plainHost "job-1" (.execute (batchOf 3) refusing)).step
        plainHost "job-1" (.execute unidentified returning)).runtime.workflow.isNone =
        true := by decide +kernel
  refine ⟨by decide +kernel, by decide +kernel, fun h => hlost.1 ?_⟩
  have hrecorded : Recorded _ := h.2.2.head
  exact hlost.2.1.symm.trans (hrecorded.workflow_none (Option.isNone_iff_eq_none.mp hlost.2.2))

/-- The caller commits before the call that has no identity. -/
def committedRun : List Call :=
  [.execute (batchOf 3) refusing, .commit, .execute unidentified returning,
    .execute (batchOf 3) returning]

theorem publication_record_survives_committedRun :
    Always Recorded (StagedRuntime.step plainHost "job-1") .start committedRun ∧
      (Identity.buildPublicationIdentity plainHost "job-1" (batchOf 3)).toOption.isSome =
        true ∧
      ∀ identity, Identity.buildPublicationIdentity plainHost "job-1" (batchOf 3) =
        .ok identity →
        ∃ events, Told identity 0 4 []
          (StagedRuntime.start.executeContinuousPublication plainHost "job-1" (batchOf 3)
            refusing).1
          ((StagedRuntime.start.executeContinuousPublication plainHost "job-1"
            (batchOf 3) refusing).2 ≠ .ok false) events := by
  refine ⟨((publication_record_survives_iff _ _).1 _).mpr ?_, by decide +kernel, fun identity h =>
    (publication_record_survives_iff _ _).2 .start (batchOf 3) refusing identity h⟩
  have hidentified : (Identity.buildPublicationIdentity plainHost "job-1"
      (batchOf 3)).toOption ≠ none := by decide +kernel
  exact ⟨fun h => absurd h hidentified, trivial, fun _ => rfl, fun h => absurd h hidentified,
    trivial⟩

end AskLake.KafkaPublication.Workflow

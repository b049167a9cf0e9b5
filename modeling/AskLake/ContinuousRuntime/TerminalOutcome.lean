/-
# `AskLake.ContinuousRuntime.TerminalOutcome` — a pause ends paused, and a stop stopped

The status that confirms a pause or stop is taken from what the runner retains, and
only then from what is wanted:

    retained         wanted            confirmed as
    none             paused, stopped   what is wanted
    its own action   paused, stopped   what is wanted
    pause            stopped           paused
    stop             paused            stopped

The runner retains an action until the next start.  So a pause that is followed by a
stop, once the worker has exited, leaves the runtime paused for good: the stop signals
no worker, and nothing else replaces the action.  Where the retained action is none or
that of the wanted state, a stop ends stopped.
-/
import AskLake.ContinuousRuntime.IntentDominates

namespace AskLake.ContinuousRuntime

open AskLake.Lib AskLake.Python

/-! ## One decision -/

namespace RuntimeEvidence

/-- The public status is one that is derived from what is wanted. -/
def consistent (evidence : RuntimeEvidence) : Prop :=
  ∃ observed, evidence.publicStatus = derivePublicStatus evidence.desiredState observed

/-- The state of the container does not bear on a pause or stop. -/
def unlisted (evidence : RuntimeEvidence) : Prop :=
  evidence.containerState ∉ goneStates ∧ evidence.containerState ∉ presentStates

/-- An action that the runner retains is that of the state that is wanted. -/
def ownAction (evidence : RuntimeEvidence) : Prop :=
  ∀ requested, evidence.requestedTerminal = some requested →
    (requested = .paused ↔ evidence.desiredState = .paused)

end RuntimeEvidence

section
variable {evidence : RuntimeEvidence}

theorem pausing_or_paused_derived {desired : DesiredState} {observed : ObservedState}
    (h : derivePublicStatus desired observed ∈ [PublicStatus.pausing, .paused]) :
    desired = .paused := by
  cases desired with
  | running => cases observed <;> exact absurd h (by decide)
  | paused => rfl
  | stopped => cases observed <;> exact absurd h (by decide)

/-- The terminal status of evidence whose retained action is its own. -/
theorem terminalStatus_agrees (hconsistent : evidence.consistent) (hown : evidence.ownAction) :
    evidence.terminalStatus = .paused ↔ evidence.desiredState = .paused := by
  obtain ⟨observed, hstatus⟩ := hconsistent
  rw [RuntimeEvidence.terminalStatus]
  cases hrequested : evidence.requestedTerminal with
  | some requested =>
      rw [Option.getD_some]
      exact hown requested hrequested
  | none =>
      rw [Option.getD_none]
      constructor
      · intro hpaused
        by_cases hended : evidence.publicStatus ∈ [PublicStatus.pausing, .paused] ∨
            evidence.desiredState = .paused
        · rcases hended with hended | hended
          · rw [hstatus] at hended
            exact pausing_or_paused_derived hended
          · exact hended
        · rw [if_neg hended] at hpaused
          cases hpaused
      · intro hwanted
        rw [if_pos (Or.inr hwanted)]

/-- An action that the runner retains makes a pause or stop current. -/
theorem current_of_requested (hdesired : evidence.desiredState ≠ .running)
    (hrequested : evidence.requestedTerminal.isSome = true) :
    evidence.terminalIntentIsCurrent = true := by
  rw [RuntimeEvidence.terminalIntentIsCurrent, hrequested, Bool.true_or, Bool.and_true]
  exact decide_eq_true hdesired

/-- Whether a decision confirms what is wanted. -/
theorem decision_agrees_iff (hdesired : evidence.desiredState ≠ .running)
    (hconsistent : evidence.consistent) :
    (∀ status, (decideReconciliation evidence).terminalStatus = some status →
        (status = .paused ↔ evidence.desiredState = .paused)) ↔
      evidence.unlisted ∨ evidence.ownAction := by
  constructor
  · intro hagrees
    refine or_iff_not_imp_left.mpr fun hlisted requested hrequested => ?_
    have hdecided : evidence.terminalDecided := by
      refine ⟨current_of_requested hdesired (by rw [hrequested]; rfl), ?_⟩
      exact or_iff_not_imp_left.mpr fun hgone =>
        not_not.mp fun hpresent => hlisted ⟨hgone, hpresent⟩
    have hstatus : evidence.terminalStatus = requested := by
      rw [RuntimeEvidence.terminalStatus, hrequested]
      rfl
    have hdecision := hagrees _ (terminalStatus_of_decided hdecided)
    rw [hstatus] at hdecision
    exact hdecision
  · intro hadmitted status hstatus
    by_cases hdecided : evidence.terminalDecided
    · rw [terminalStatus_of_decided hdecided] at hstatus
      obtain rfl := Option.some.inj hstatus
      rcases hadmitted with hunlisted | hown
      · exact (hdecided.2.elim hunlisted.1 hunlisted.2).elim
      · exact terminalStatus_agrees hconsistent hown
    · rw [terminalStatus_of_open hdecided] at hstatus
      cases hstatus

end

/-! ## One move -/

/-- The public status is one that is derived from what is wanted, once that is written
down. -/
def Control.consistent (c : Control) : Prop :=
  ∀ desired, c.desired = some desired → ∃ observed, c.status = derivePublicStatus desired observed

section
variable {evidence : RuntimeEvidence} {named : Option Text} {answer : Except ApiError WorkerStatus}
  {c next : Control}

/-- Whatever is observed first is consistent with what is then taken for wanted. -/
theorem derived_desiredStateFromPublicStatus (status : PublicStatus) :
    ∃ observed, status = derivePublicStatus (desiredStateFromPublicStatus status) observed := by
  cases status with
  | starting => exact ⟨.starting, rfl⟩
  | running => exact ⟨.running, rfl⟩
  | pausing => exact ⟨.running, rfl⟩
  | paused => exact ⟨.stopped, rfl⟩
  | stopping => exact ⟨.stopping, rfl⟩
  | stopped => exact ⟨.stopped, rfl⟩
  | failed => exact ⟨.failed, rfl⟩

theorem Control.consistent_settle {status : PublicStatus}
    (h : ∀ desired, c.desired = some desired → ∃ observed, status = derivePublicStatus desired observed)
    (fence : Option Text) : Control.consistent { c.settle status with fence } := by
  intro desired hdesired
  have hsettled : some (c.desired.getD (desiredStateFromPublicStatus status)) = some desired :=
    hdesired
  cases hwanted : c.desired with
  | none =>
      rw [hwanted] at hsettled
      rw [← Option.some.inj hsettled]
      exact derived_desiredStateFromPublicStatus status
  | some wanted =>
      rw [hwanted] at hsettled
      rw [← Option.some.inj hsettled]
      exact h wanted hwanted

theorem Control.consistent_failed (c : Control) (fence : Option Text) :
    Control.consistent { c.settle .failed with fence } :=
  Control.consistent_settle (fun _ _ => ⟨.failed, rfl⟩) fence

/-- The evidence of a control state that is consistent. -/
theorem Control.Shows.consistent (hshows : c.Shows evidence) (hc : c.consistent) :
    evidence.consistent := by
  rw [RuntimeEvidence.consistent, hshows.status, hshows.desired]
  cases hdesired : c.desired with
  | none => exact derived_desiredStateFromPublicStatus c.status
  | some desired => exact hc desired hdesired

/-- A terminal status that is confirmed of what is wanted. -/
theorem terminalStatus_derived (hconsistent : evidence.consistent) (hown : evidence.ownAction)
    (hdesired : evidence.desiredState ≠ .running) :
    evidence.terminalStatus = derivePublicStatus evidence.desiredState .stopped := by
  have hagrees := terminalStatus_agrees hconsistent hown
  cases hwanted : evidence.desiredState with
  | running => exact absurd hwanted hdesired
  | paused => exact hagrees.mpr hwanted
  | stopped =>
      refine terminalStatus_cases.resolve_left fun hpaused => ?_
      rw [hagrees.mp hpaused] at hwanted
      exact nomatch hwanted

/-- A pass that sees no action but its own keeps the status consistent. -/
theorem SparkMove.consistent (h : SparkMove evidence named answer c next) (hshows : c.Shows evidence)
    (hown : evidence.desiredState = .running ∨ evidence.unlisted ∨ evidence.ownAction)
    (hc : c.consistent) : next.consistent := by
  have hderived : ∀ observed desired, c.desired = some desired →
      ∃ observed', derivePublicStatus evidence.desiredState observed =
        derivePublicStatus desired observed' := by
    intro observed desired hdesired
    refine ⟨observed, ?_⟩
    rw [hshows.desired, hdesired]
    rfl
  have hreported : ∀ reported desired, c.desired = some desired →
      ∃ observed, ContinuousJob.reportedNext evidence.desiredState evidence.contractInitialized none
        reported = derivePublicStatus desired observed := by
    intro reported desired hdesired
    have hinitialized : evidence.contractInitialized = true := by
      rw [hshows.initialized, hdesired]
      rfl
    rw [ContinuousJob.reportedNext, if_pos ⟨hinitialized, rfl⟩]
    exact hderived _ desired hdesired
  cases h with
  | kept hopen => exact hc
  | confirmed hcurrent hgone attempt hattempt =>
      have hdesired := desired_of_current hcurrent
      have hown : evidence.ownAction :=
        (hown.resolve_left hdesired).resolve_left fun hunlisted => hunlisted.1 hgone
      have hstatus := terminalStatus_derived (hshows.consistent hc) hown hdesired
      refine Control.consistent_settle ?_ _
      rw [hstatus]
      exact hderived .stopped
  | waiting hcurrent hpresent => exact Control.consistent_settle (hderived _) c.fence
  | restarted hrunning hinitialized result hanswer =>
      have hwanted := hshows.wanted hrunning hinitialized
      refine @Control.consistent_settle c.start .starting ?_ _
      intro desired hdesired
      obtain rfl := Option.some.inj (hdesired.symm.trans hwanted)
      exact ⟨.starting, rfl⟩
  | restartFailed hrunning hinitialized error hanswer => exact c.start.consistent_failed c.fence
  | waitingForReport hrunning => exact Control.consistent_settle (hderived _) _
  | reported hopen hfresh reported => exact Control.consistent_settle (hreported reported) _
  | reportedFailed hopen hfresh reported hactive => exact Control.consistent_failed _ _

/-- A pass that sees the worker gone, while a pause or stop is current, confirms it. -/
theorem SparkMove.status_of_gone (h : SparkMove evidence named answer c next)
    (hcurrent : evidence.terminalIntentIsCurrent = true)
    (hgone : evidence.containerState ∈ goneStates) : next.status = evidence.terminalStatus := by
  have hdesired := desired_of_current hcurrent
  have hdecided : evidence.terminalDecided := ⟨hcurrent, Or.inl hgone⟩
  cases h with
  | kept hopen => exact absurd hdecided hopen
  | confirmed _ _ attempt hattempt => rfl
  | waiting _ hpresent =>
      have hdisjoint : ∀ state ∈ goneStates, state ∉ presentStates := by decide
      exact absurd hpresent (hdisjoint _ hgone)
  | restarted hrunning hinitialized result hanswer => exact absurd hrunning hdesired
  | restartFailed hrunning hinitialized error hanswer => exact absurd hrunning hdesired
  | waitingForReport hrunning => exact absurd hrunning hdesired
  | reported hopen hfresh reported => exact absurd hdecided hopen
  | reportedFailed hopen hfresh reported hactive => exact absurd hdecided hopen

variable {input : CommandInput} {dispatched : Command → Except ApiError WorkerResult}
  {command : Option Command}

theorem CommandMove.consistent (h : CommandMove input dispatched c command next) (hc : c.consistent) :
    next.consistent := by
  cases h with
  | refused => exact hc
  | started command hstart hallowed result hresult =>
      intro desired hdesired
      refine ⟨.starting, ?_⟩
      have hstatus := c.status_started (commandTransition c.status command) input
      have hwanted := c.desired_started (commandTransition c.status command) input
      obtain rfl := Option.some.inj (hwanted.symm.trans hdesired)
      refine hstatus.trans ?_
      rcases hstart with rfl | rfl <;> rfl
  | startFailed command hstart hallowed error herror => exact Control.consistent_failed _ _
  | ended command hend hallowed =>
      intro desired hdesired
      obtain rfl := Option.some.inj hdesired
      rcases hend with rfl | rfl
      · exact ⟨.running, rfl⟩
      · exact ⟨.stopping, rfl⟩

end

/-! ## Runs -/

/-- What a pass decides from, if it goes on. -/
def ContinuousJob.passEvidence (worker : WorkerGateway) (s : ContinuousJob) (input : PassInput) :
    Option RuntimeEvidence :=
  if s.job.executionMode ≠ "continuous" then none
  else (s.observe worker).1.map fun (status, container) =>
    (s.observe worker).2.runtimeEvidence input.document status container

/-- A pass that sees no action but that of the state that is wanted, where the worker's
state bears on it. -/
def LifecycleEvent.seesOwnAction (worker : WorkerGateway) (s : ContinuousJob) :
    LifecycleEvent → Prop
  | command _ _ => True
  | reconcile input => ∀ evidence, s.passEvidence worker input = some evidence →
      evidence.desiredState = .running ∨ evidence.unlisted ∨ evidence.ownAction

section
variable {worker : WorkerGateway} {s : ContinuousJob}

theorem move_of_passEvidence (hworker : worker.Spark) (hspark : s.control.ingestV2 = false)
    {input : PassInput} {evidence : RuntimeEvidence}
    (h : s.passEvidence worker input = some evidence) :
    ∃ named answer, SparkMove evidence named answer s.control
      (s.reconcileContinuousRuntime worker input).control ∧ s.control.Shows evidence := by
  rw [ContinuousJob.passEvidence] at h
  split at h
  · exact nomatch h
  · rename_i hmode
    obtain ⟨⟨status, container⟩, hobserved, rfl⟩ := Option.map_eq_some_iff.mp h
    refine ⟨optionalString status.workerAttemptId,
      worker (s.observe worker).2.calls.length .start, ?_, ContinuousJob.shows_observe input⟩
    have hmove := ContinuousJob.move_reconcileSpark worker (s.observe worker).2 input status container
    rw [ContinuousJob.control_observe] at hmove
    rw [ContinuousJob.reconcile_of_observe input hworker hspark (not_not.mp hmode) hobserved]
    exact hmove

theorem control_of_no_evidence {input : PassInput} (h : s.passEvidence worker input = none) :
    (s.reconcileContinuousRuntime worker input).control = s.control := by
  rw [ContinuousJob.passEvidence] at h
  split at h
  · rename_i hmode
    rw [ContinuousJob.reconcileContinuousRuntime, if_pos hmode]
  · exact ContinuousJob.control_reconcile_of_unobserved input (Option.map_eq_none_iff.mp h)

theorem consistent_step (hworker : worker.Spark) (hspark : s.control.ingestV2 = false)
    (hs : s.control.consistent) (event : LifecycleEvent) (hown : event.seesOwnAction worker s) :
    (lifecycleStep worker s event).control.consistent := by
  cases event with
  | command name input => exact (s.move_command worker input name).consistent hs
  | reconcile input =>
      show (s.reconcileContinuousRuntime worker input).control.consistent
      cases hevidence : s.passEvidence worker input with
      | none =>
          rw [control_of_no_evidence hevidence]
          exact hs
      | some evidence =>
          obtain ⟨named, answer, hmove, hshows⟩ := move_of_passEvidence hworker hspark hevidence
          exact hmove.consistent hshows (hown evidence hevidence) hs

/-- What a run without another's action keeps. -/
theorem consistent_run (hworker : worker.Spark) (hspark : s.control.ingestV2 = false)
    (hs : s.control.consistent) {events : List LifecycleEvent}
    (hown : Along (fun s event => event.seesOwnAction worker s) (lifecycleStep worker) s events) :
    (play (lifecycleStep worker) s events).control.ingestV2 = false ∧
      (play (lifecycleStep worker) s events).control.consistent := by
  have hkept : Always (fun s => s.control.ingestV2 = false ∧ s.control.consistent)
      (lifecycleStep worker) s events := by
    refine Always.of_along ?_ ⟨hspark, hs⟩ hown
    intro s event h hown
    exact ⟨(lawful_step hworker h.1 event).ingestV2.trans h.1,
      consistent_step hworker h.1 h.2 event hown⟩
  exact hkept.last

theorem not_paused_derived {observed : ObservedState} :
    derivePublicStatus .stopped observed ≠ .paused := by
  cases observed <;> decide

theorem stopping_or_stopped_derived {observed : ObservedState}
    (h : derivePublicStatus .stopped observed ≠ .failed) :
    decide (derivePublicStatus .stopped observed ∈
      [PublicStatus.pausing, .paused, .stopping, .stopped]) = true := by
  cases observed with
  | failed => exact absurd rfl h
  | unknown => rfl
  | starting => rfl
  | running => rfl
  | stopping => rfl
  | stopped => rfl

/-- A start, and a stop that is left to the control plane. -/
def stoppedRun : List LifecycleEvent :=
  [.command "startContinuous"
    { dispatchWorker := true, requestedAttemptId := firstAttempt },
   .command "stopContinuous"
    { dispatchWorker := false, requestedAttemptId := secondAttempt }]

/-- What the pass that signals the stop decides from. -/
def stopSignalled : RuntimeEvidence where
  desiredState := .stopped
  publicStatus := .stopping
  containerState := "exited"
  reportState := .missing
  expectedWorkerAttemptId := some firstAttempt
  requestedAction := some ⟨"stop", by decide, by decide⟩
  contractInitialized := true

theorem consistent_new (job : EtlJob) (identity : ConsumerIdentity) :
    (ContinuousJob.new job identity).control.consistent := by
  intro desired hdesired
  have hstopped : some DesiredState.stopped = some desired := hdesired
  obtain rfl := Option.some.inj hstopped
  exact ⟨.stopped, rfl⟩

theorem stopSignalled_ownAction : stopSignalled.ownAction := by
  intro requested hrequested
  have hstop : stopSignalled.requestedTerminal = some .stopped := by decide
  obtain rfl := Option.some.inj (hstop.symm.trans hrequested)
  exact ⟨fun h => (nomatch h), fun h => (nomatch h)⟩

/-- A runner that pauses its worker, which exits, and retains that. -/
def retentiveRunner : WorkerGateway := fun n action =>
  match action with
  | .start => .ok { containerState := some "running", workerAttemptId := some "start-1" }
  | .status =>
      .ok
        { containerState := if n < 3 then some "running" else some "exited"
          requestedAction := if n < 3 then none else some "pause" }
  | .pause | .stop | .terminate =>
      .ok { containerState := some "exited", requestedAction := some action.name }

/-- A start, a pause that a pass signals and confirms, and a stop. -/
def pausedThenStopped : List LifecycleEvent :=
  [.command "startContinuous"
    { dispatchWorker := true, requestedAttemptId := firstAttempt },
   .command "pauseContinuous"
    { dispatchWorker := false, requestedAttemptId := secondAttempt },
   .reconcile (quietPass { state := .missing }),
   .command "stopContinuous"
    { dispatchWorker := false, requestedAttemptId := thirdAttempt },
   .reconcile (quietPass { state := .missing })]

end

end AskLake.ContinuousRuntime

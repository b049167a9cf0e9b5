/-
# `AskLake.ContinuousRuntime.FenceFreshness` — the attempts that a start leaves behind

A start reserves an attempt of its own, and the reports of the attempts before it are
then stale.  But the fence is the name that the worker's answers give it:

    a start                 the attempt of the answer, or of the status that stands
                            in for a lost one
    a worker that is gone   the attempt of the answer to a start
    no report yet           the attempt of the status

and nothing asks whether that name is an old one.  Where none of them names an attempt
that was current before the last start, the fence stays fresh, and nothing that a report
of such an attempt says is applied; where one does, the fence is that attempt's again.
-/
import AskLake.ContinuousRuntime.StaleReports

namespace AskLake.ContinuousRuntime

open AskLake.Lib AskLake.Python

/-! ## The attempt that an event binds -/

/-- The attempt that a pass binds, if it decides to start a worker again or to wait for
its report. -/
def passBinds (evidence : RuntimeEvidence) (named : Option Text)
    (answer : Except ApiError WorkerStatus) : Option Text :=
  match (decideReconciliation evidence).action with
  | .restartWorker => answer.toOption.bind WorkerStatus.attempt
  | .waitForReport => named
  | .applyReport | .applyTerminalIntent | .ignoreStaleReport | .recoverPublication
  | .waitForTerminalConfirmation | .recordReportError => none

/-- The attempt that a start binds: that of its answer, or else the one that it asked
for. -/
def startBinds (input : CommandInput) (dispatched : Except ApiError WorkerResult) : Text :=
  (dispatched.toOption.bind WorkerResult.attempt).getD input.requestedAttemptId

/-- A start or resume is accepted. -/
def LifecycleEvent.starts (s : ContinuousJob) (event : LifecycleEvent) : Bool :=
  (event.accepted s).any fun command => command.desiredState = .running

/-- The attempt that an event binds. -/
def LifecycleEvent.binds (worker : WorkerGateway) (s : ContinuousJob) :
    LifecycleEvent → Option Text
  | command name input =>
      ((s.accepted name input).filter fun command => command.desiredState = .running).map
        fun command => startBinds input (s.dispatched worker input command)
  | reconcile input =>
      if s.job.executionMode ≠ "continuous" then none
      else (s.observe worker).1.bind fun (status, container) =>
        passBinds ((s.observe worker).2.runtimeEvidence input.document status container)
          (optionalString status.workerAttemptId) (worker (s.observe worker).2.calls.length .start)

/-! ## What an event does to the fence -/

namespace ContinuousJob

section
variable {worker : WorkerGateway} {s : ContinuousJob} {fence : Text}

/-- A report that is not stale is of the attempt whose reports count, if it names one. -/
theorem observed_or_fence {evidence : RuntimeEvidence} (hfresh : evidence.staleReport = false)
    (hexpected : evidence.expectedWorkerAttemptId = some fence) :
    evidence.observedWorkerAttemptId.or (some fence) = some fence := by
  unfold RuntimeEvidence.staleReport at hfresh
  rw [hexpected] at hfresh
  cases hobserved : evidence.observedWorkerAttemptId with
  | none => rfl
  | some observed =>
      rw [hobserved] at hfresh
      have hdecided : decide (observed ≠ fence) = false := hfresh
      have hsame : observed = fence := not_not.mp (of_decide_eq_false hdecided)
      rw [hsame]
      rfl

/-- The fence after what is done of a decision: no report binds it. -/
theorem fence_act {evidence : RuntimeEvidence} (input : PassInput) (status : WorkerStatus)
    (container : String) (hfence : s.fence = some fence)
    (hforced : ∀ terminal, (s.currentPayload input.document.payload (some terminal)).2.or
      (some fence) = some fence)
    (hreport : (decideReconciliation evidence).action = .applyReport →
      (decideReconciliation evidence).terminalStatus = none →
        (optionalString input.document.payload.workerAttemptId).or (some fence) = some fence) :
    (s.act worker input status container evidence (decideReconciliation evidence)).fence =
      (passBinds evidence (optionalString status.workerAttemptId)
        (worker s.calls.length .start)).or (some fence) := by
  rw [act, passBinds]
  cases haction : (decideReconciliation evidence).action with
  | applyTerminalIntent =>
      have hcontrol := s.control_applyTerminalIntent input
        ((decideReconciliation evidence).terminalStatus.getD .stopped)
      exact (congrArg Control.fence hcontrol).trans hfence
  | waitForTerminalConfirmation =>
      have hcontrol := s.control_waitForTerminalConfirmation input evidence container
      exact (congrArg Control.fence hcontrol).trans hfence
  | ignoreStaleReport => exact hfence
  | recordReportError => exact hfence
  | recoverPublication =>
      have hcontrol := s.control_recoverWithoutReport input container
      exact (congrArg Control.fence hcontrol).trans hfence
  | restartWorker =>
      cases hanswer : worker s.calls.length .start with
      | error error =>
          have hcontrol := s.control_restartMissingWorker_error worker hanswer
          exact (congrArg Control.fence hcontrol).trans hfence
      | ok result =>
          have hcontrol := s.control_restartMissingWorker worker hanswer
          exact (congrArg Control.fence hcontrol).trans (congrArg (Option.or result.attempt) hfence)
  | waitForReport =>
      have hcontrol := s.control_waitForReport evidence status
      exact (congrArg Control.fence hcontrol).trans
        (congrArg (Option.or (optionalString status.workerAttemptId)) hfence)
  | applyReport =>
      show (s.applyContinuousRuntimeReport worker input input.document.payload status
        (decideReconciliation evidence).terminalStatus evidence.contractInitialized).fence = some fence
      cases hterminal : (decideReconciliation evidence).terminalStatus with
      | some terminal =>
          have hinactive := inactive_of_terminalStatus hterminal
          have hcontrol := s.control_applyForcedReport worker input input.document.payload status
            evidence.contractInitialized hinactive
          refine (congrArg Control.fence hcontrol).trans ?_
          show (s.currentPayload input.document.payload (some terminal)).2.or s.fence = some fence
          rw [hfence]
          exact hforced terminal
      | none =>
          rcases s.control_applyContinuousRuntimeReport worker input input.document.payload status
            evidence.contractInitialized with hkept | ⟨_, next, -, -, hcontrol | ⟨-, hcontrol⟩⟩
          · exact (congrArg Control.fence hkept).trans hfence
          · refine (congrArg Control.fence hcontrol).trans ?_
            show (optionalString input.document.payload.workerAttemptId).or s.fence = some fence
            rw [hfence]
            exact hreport haction hterminal
          · refine (congrArg Control.fence hcontrol).trans ?_
            show (optionalString input.document.payload.workerAttemptId).or s.fence = some fence
            rw [hfence]
            exact hreport haction hterminal

/-- The fence after a pass over a Spark worker. -/
theorem fence_reconcileSpark (hfence : s.fence = some fence) (input : PassInput)
    (status : WorkerStatus) (container : String) :
    (s.reconcileSpark worker input status container).fence =
      (passBinds (s.runtimeEvidence input.document status container)
        (optionalString status.workerAttemptId) (worker s.calls.length .start)).or (some fence) := by
  obtain ⟨evidence, hevidence⟩ : ∃ evidence, evidence =
      s.runtimeEvidence input.document status container := ⟨_, rfl⟩
  have hexpected : evidence.expectedWorkerAttemptId = some fence := by
    rw [hevidence]
    exact hfence
  rw [reconcileSpark]
  simp only [← hevidence]
  refine @fence_act worker (s.recordReconciliation _ container input.document) fence evidence input
    status container hfence ?_ ?_
  · intro terminal
    have hattempt := s.currentPayload_attempt input status container terminal
    rw [← hevidence] at hattempt
    show (s.currentPayload input.document.payload (some terminal)).2.or (some fence) = some fence
    rcases hattempt with hnone | ⟨hobserved, hfresh⟩
    · rw [hnone]
      rfl
    · rw [hobserved]
      exact observed_or_fence hfresh hexpected
  · intro haction hterminal
    have hopen : ¬ evidence.terminalDecided := fun hdecided => by
      rw [terminalStatus_of_decided hdecided] at hterminal
      cases hterminal
    rw [decide_of_open hopen] at haction
    have hwarranted := @warranted_decideFromReport evidence
    rw [haction] at hwarranted
    have hobserved : evidence.observedWorkerAttemptId =
        optionalString input.document.payload.workerAttemptId := by
      rw [hevidence]
      rfl
    rw [← hobserved]
    exact observed_or_fence hwarranted.1 hexpected

/-- The fence after an event: the attempt that it binds, or else the one before. -/
theorem fence_step (hworker : worker.Spark) (hspark : s.control.ingestV2 = false)
    (event : LifecycleEvent) (h : event.starts s = true ∨ s.fence = some fence) :
    (lifecycleStep worker s event).fence = (event.binds worker s).or s.fence := by
  cases event with
  | command name input =>
      have hmove := s.move_command worker input name
      show (s.executeContinuousCommand worker name input).2.control.fence = _
      rw [LifecycleEvent.binds]
      generalize s.accepted name input = command at hmove ⊢
      generalize (s.executeContinuousCommand worker name input).2.control = next at hmove ⊢
      cases hmove with
      | refused => rfl
      | started command hstart hallowed result hresult =>
          have hrunning : command.desiredState = .running := by
            rcases hstart with rfl | rfl <;> rfl
          rw [Option.filter_some, if_pos (decide_eq_true hrunning)]
          show some _ = some (startBinds input (s.dispatched worker input command))
          rw [startBinds, hresult]
          rfl
      | startFailed command hstart hallowed error herror =>
          have hrunning : command.desiredState = .running := by
            rcases hstart with rfl | rfl <;> rfl
          rw [Option.filter_some, if_pos (decide_eq_true hrunning)]
          show _ = some (startBinds input (s.dispatched worker input command))
          rw [startBinds, herror]
          exact s.control.fence_started (commandTransition s.control.status command) input
      | ended command hend hallowed =>
          have hnot : command.desiredState ≠ .running := by
            rcases hend with rfl | rfl <;> decide
          rw [Option.filter_some, if_neg (fun hrunning => hnot (of_decide_eq_true hrunning))]
          rfl
  | reconcile input =>
      have hfence := h.resolve_left Bool.false_ne_true
      show (s.reconcileContinuousRuntime worker input).fence = _
      rw [LifecycleEvent.binds]
      by_cases hmode : s.job.executionMode = "continuous"
      · rw [if_neg (not_not_intro hmode)]
        cases hobserved : (s.observe worker).1 with
        | none => exact congrArg Control.fence (control_reconcile_of_unobserved input hobserved)
        | some observed =>
            obtain ⟨status, container⟩ := observed
            have hkept : (s.observe worker).2.fence = some fence :=
              (congrArg Control.fence (s.control_observe worker)).trans hfence
            rw [reconcile_of_observe input hworker hspark hmode hobserved, hfence]
            exact fence_reconcileSpark hkept input status container
      · rw [if_pos hmode, reconcileContinuousRuntime, if_pos hmode]
        rfl

end

end ContinuousJob

/-! ## Runs -/

/-- A run, with the attempts that have been current: all of them, and those that were
before the last accepted start. -/
structure FencedJob where
  rows : ContinuousJob
  past : List Text
  retired : List Text

def FencedJob.of (s : ContinuousJob) : FencedJob := ⟨s, s.fence.toList, []⟩

/-- The attempt that a start reserves. -/
def LifecycleEvent.reserves : LifecycleEvent → Option Text
  | command _ input => some input.requestedAttemptId
  | reconcile _ => none

namespace FencedJob

/-- The attempts that are retired once the event is through. -/
def retiredAfter (t : FencedJob) (event : LifecycleEvent) : List Text :=
  if event.starts t.rows then t.past else t.retired

def step (worker : WorkerGateway) (t : FencedJob) (event : LifecycleEvent) : FencedJob where
  rows := lifecycleStep worker t.rows event
  past := t.past ++ (if event.starts t.rows then event.reserves.toList else []) ++
    (lifecycleStep worker t.rows event).fence.toList
  retired := t.retiredAfter event

/-- The fence is no attempt that was current before the last accepted start. -/
def fresh (t : FencedJob) : Prop := ∀ attempt ∈ t.rows.fence, attempt ∉ t.retired

/-- What the event binds is no attempt that was current before the last accepted start. -/
def bindsFresh (worker : WorkerGateway) (t : FencedJob) (event : LifecycleEvent) : Prop :=
  ∀ attempt ∈ event.binds worker t.rows, attempt ∉ t.retiredAfter event

instance (worker : WorkerGateway) (t : FencedJob) (event : LifecycleEvent) :
    Decidable (t.bindsFresh worker event) :=
  inferInstanceAs (Decidable (∀ attempt ∈ event.binds worker t.rows, _))

/-- A report names an attempt that was current before the last accepted start. -/
def names (t : FencedJob) (document : ReportDocument) : Prop :=
  document.state = .found ∧
    ∃ attempt ∈ optionalString document.payload.workerAttemptId, attempt ∈ t.retired

section
variable {worker : WorkerGateway} {t : FencedJob}

/-- Where a start has been accepted, there is a fence. -/
def fenced (t : FencedJob) : Prop :=
  t.rows.control.ingestV2 = false ∧ (t.rows.fence.isSome = true ∨ t.retired = [])

theorem binds_of_starts {event : LifecycleEvent} {s : ContinuousJob} (h : event.starts s = true) :
    (event.binds worker s).isSome = true := by
  cases event with
  | reconcile input => exact nomatch h
  | command name input =>
      have hany : (s.accepted name input).any (fun command => command.desiredState = .running) =
          true := h
      rw [LifecycleEvent.binds]
      cases haccepted : s.accepted name input with
      | none =>
          rw [haccepted] at hany
          exact nomatch hany
      | some command =>
          rw [haccepted, Option.any_some] at hany
          rw [Option.filter_some, if_pos hany]
          rfl

theorem fenced_step (hworker : worker.Spark) (ht : t.fenced) (event : LifecycleEvent) :
    (t.step worker event).fenced := by
  refine ⟨(lawful_step hworker ht.1 event).ingestV2.trans ht.1, ?_⟩
  by_cases hstarts : event.starts t.rows = true
  · refine Or.inl ?_
    show (lifecycleStep worker t.rows event).fence.isSome = true
    obtain ⟨attempt, hbinds⟩ := Option.isSome_iff_exists.mp (binds_of_starts hstarts)
    rw [@ContinuousJob.fence_step worker t.rows attempt hworker ht.1 event (Or.inl hstarts), hbinds]
    rfl
  · rcases ht.2 with hsome | hnone
    · refine Or.inl ?_
      show (lifecycleStep worker t.rows event).fence.isSome = true
      obtain ⟨fence, hfence⟩ := Option.isSome_iff_exists.mp hsome
      rw [ContinuousJob.fence_step hworker ht.1 event (Or.inr hfence), hfence]
      cases event.binds worker t.rows <;> rfl
    · refine Or.inr ?_
      show t.retiredAfter event = []
      rw [retiredAfter, if_neg hstarts, hnone]

/-- Whether an event keeps the fence fresh. -/
theorem fresh_step_iff (hworker : worker.Spark) (ht : t.fenced) (hfresh : t.fresh)
    (event : LifecycleEvent) : (t.step worker event).fresh ↔ t.bindsFresh worker event := by
  show (∀ attempt ∈ (lifecycleStep worker t.rows event).fence, attempt ∉ t.retiredAfter event) ↔
    ∀ attempt ∈ event.binds worker t.rows, attempt ∉ t.retiredAfter event
  by_cases hstarts : event.starts t.rows = true
  · obtain ⟨attempt, hbinds⟩ := Option.isSome_iff_exists.mp (binds_of_starts hstarts)
    rw [@ContinuousJob.fence_step worker t.rows attempt hworker ht.1 event (Or.inl hstarts), hbinds,
      Option.some_or]
  · have hretired : t.retiredAfter event = t.retired := if_neg hstarts
    rw [hretired]
    rcases ht.2 with hsome | hnone
    · obtain ⟨fence, hfence⟩ := Option.isSome_iff_exists.mp hsome
      rw [ContinuousJob.fence_step hworker ht.1 event (Or.inr hfence)]
      cases hbinds : event.binds worker t.rows with
      | none => exact ⟨fun _ _ h => (nomatch h), fun _ => hfresh⟩
      | some attempt => rw [Option.some_or]
    · rw [hnone]
      exact ⟨fun _ _ _ => List.not_mem_nil, fun _ _ _ => List.not_mem_nil⟩

/-- What a report of a retired attempt says is not applied, where the fence is fresh. -/
theorem reconcile_of_names (hworker : worker.Spark) (ht : t.fenced) (hfresh : t.fresh)
    (input : PassInput) {first second : ReportDocument} (hfirst : t.names first)
    (hsecond : t.names second) :
    (t.rows.reconcileContinuousRuntime worker { input with document := first }).eraseObserved =
      (t.rows.reconcileContinuousRuntime worker { input with document := second }).eraseObserved := by
  have hsome : t.rows.fence.isSome = true := by
    obtain ⟨-, attempt, -, hretired⟩ := hfirst
    exact ht.2.resolve_right fun hnone => by
      rw [hnone] at hretired
      exact List.not_mem_nil hretired
  obtain ⟨fence, hfence⟩ := Option.isSome_iff_exists.mp hsome
  have hstale : ∀ document, t.names document → document.staleFor fence := by
    rintro document ⟨hfound, attempt, hattempt, hretired⟩
    refine ⟨hfound, attempt, hattempt, fun hsame => ?_⟩
    exact hfresh fence hfence (hsame ▸ hretired)
  exact stale_reports_do_not_interfere hworker ht.1 hfence input (hstale first hfirst)
    (hstale second hsecond)

end

end FencedJob

/-- Over a Spark worker, the fence is never an attempt that was current before the last
accepted start, if and only if no event binds one.  In such a run nothing that a report
of such an attempt says is applied. -/
theorem fence_freshness {worker : WorkerGateway} (hworker : worker.Spark) {s : ContinuousJob}
    (hspark : s.job.ingestV2 = false) (events : List LifecycleEvent) :
    (Always FencedJob.fresh (FencedJob.step worker) (.of s) events ↔
      Along (FencedJob.bindsFresh worker) (FencedJob.step worker) (.of s) events) ∧
    (Along (FencedJob.bindsFresh worker) (FencedJob.step worker) (.of s) events →
      ∀ (input : PassInput) (first second : ReportDocument),
        (play (FencedJob.step worker) (.of s) events).names first →
        (play (FencedJob.step worker) (.of s) events).names second →
          ((play (FencedJob.step worker) (.of s) events).rows.reconcileContinuousRuntime worker
              { input with document := first }).eraseObserved =
            ((play (FencedJob.step worker) (.of s) events).rows.reconcileContinuousRuntime worker
              { input with document := second }).eraseObserved) := by
  have hstart : (FencedJob.of s).fenced ∧ (FencedJob.of s).fresh :=
    ⟨⟨hspark, Or.inr rfl⟩, fun _ _ => List.not_mem_nil⟩
  have hstep : ∀ (t : FencedJob) (event : LifecycleEvent), t.fenced ∧ t.fresh →
      ((t.step worker event).fenced ∧ (t.step worker event).fresh ↔ t.bindsFresh worker event) :=
    fun t event ht => (and_iff_right (FencedJob.fenced_step hworker ht.1 event)).trans
      (FencedJob.fresh_step_iff hworker ht.1 ht.2 event)
  have hruns := @always_iff_along _ _ (FencedJob.step worker) (FencedJob.bindsFresh worker)
    (fun t => t.fenced ∧ t.fresh) hstep (.of s) events hstart
  refine ⟨⟨fun hfresh => ?_, fun hbinds => (hruns.mpr hbinds).imp fun _ h => h.2⟩, ?_⟩
  · have hfenced : Always FencedJob.fenced (FencedJob.step worker) (.of s) events :=
      Always.of_along (fun t event ht _ => FencedJob.fenced_step hworker ht event) hstart.1
        (along_of_forall fun _ _ => trivial)
    exact hruns.mp (hfenced.and hfresh)
  · intro hbinds input first second hfirst hsecond
    obtain ⟨hfenced, hfresh⟩ := (hruns.mpr hbinds).last
    exact FencedJob.reconcile_of_names hworker hfenced hfresh input hfirst hsecond

theorem fence_freshness_orders :
    Always FencedJob.fresh (FencedJob.step obedientRunner) (.of ordersRuntime) pausedRun :=
  (@fence_freshness obedientRunner obedientRunner_spark ordersRuntime rfl pausedRun).1.mpr (by decide +kernel)

/-! ## A fence that is an old attempt's again -/

/-- A runner that answers one start.  Its status goes on describing that worker. -/
def laggingRunner : WorkerGateway := fun n action =>
  match action with
  | .start =>
      if n = 0 then .ok { containerState := some "running", workerAttemptId := some "start-1" }
      else .error { code := "UPSTREAM_TIMEOUT", message := "timed out", statusCode := 504 }
  | .status => .ok { containerState := some "running", workerAttemptId := some "start-1" }
  | .pause | .stop | .terminate =>
      .ok { containerState := some "exited", requestedAction := some action.name }

/-- A start, a stop that a pass signals and confirms, and a second start, which the API
may leave to the control plane. -/
def restartedRun (dispatchWorker : Bool) : List LifecycleEvent :=
  [.command "startContinuous" { dispatchWorker := true, requestedAttemptId := firstAttempt },
   .command "stopContinuous"
    { dispatchWorker := false, requestedAttemptId := secondAttempt },
   .reconcile (quietPass { state := .missing }),
   .command "startContinuous"
    { dispatchWorker, requestedAttemptId := thirdAttempt }]

/-- The status that stands in for a lost answer, and the status of a worker that has not
reported, each bring back the attempt that the second start has retired; then its report
counts. -/
theorem old_attempt_current_again :
    (play (FencedJob.step laggingRunner) (.of ordersRuntime) (restartedRun true)).rows.fence =
        some firstAttempt ∧
      firstAttempt ∈
        (play (FencedJob.step laggingRunner) (.of ordersRuntime) (restartedRun true)).retired ∧
      (play (FencedJob.step laggingRunner) (.of ordersRuntime) (restartedRun false ++
        [.reconcile (quietPass { state := .missing })])).rows.fence = some firstAttempt ∧
      firstAttempt ∈ (play (FencedJob.step laggingRunner) (.of ordersRuntime) (restartedRun false ++
        [.reconcile (quietPass { state := .missing })])).retired ∧
      (play (FencedJob.step laggingRunner) (.of ordersRuntime) (restartedRun true ++
        [.reconcile (quietPass
          { state := .found
            value := some
              { status := some "running"
                workerAttemptId := some "start-1"
                consumedCount := some 7 } })])).rows.runtime.consumedCount = 7 := by
  decide +kernel

end AskLake.ContinuousRuntime

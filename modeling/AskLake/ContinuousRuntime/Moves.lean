/-
# `AskLake.ContinuousRuntime.Moves` — the moves of the control state

A pass over a Spark worker makes one of these moves, and a command another:

    pass                                    command
      confirmed     a pause or stop           refused     nothing is written
      waiting       for its confirmation      started     with the fence that is bound
      restarted     the worker is missing     failed      to start
      waitingForReport                        ended       a pause or stop
      reported      by a report that counts
      kept

Each move carries what it was decided on: a pause or stop is confirmed only of a
worker that is gone, and a worker is started only if running is wanted.
-/
import AskLake.ContinuousRuntime.Control

namespace AskLake.ContinuousRuntime

open AskLake.Python

/-! ## A pass over a Spark worker -/

/-- A pause or stop is wanted, and the state of the worker bears on it. -/
def RuntimeEvidence.terminalDecided (evidence : RuntimeEvidence) : Prop :=
  evidence.terminalIntentIsCurrent = true ∧
    (evidence.containerState ∈ goneStates ∨ evidence.containerState ∈ presentStates)

/-- The evidence of a control state. -/
structure Control.Shows (c : Control) (evidence : RuntimeEvidence) : Prop where
  desired : evidence.desiredState = c.desired.getD (desiredStateFromPublicStatus c.status)
  status : evidence.publicStatus = c.status
  fence : evidence.expectedWorkerAttemptId = c.fence
  initialized : evidence.contractInitialized = c.desired.isSome

/-- The moves of a pass over a Spark worker.  `named` is the attempt of the status that
the pass goes on with, `answer` that to a start. -/
inductive SparkMove (evidence : RuntimeEvidence) (named : Option Text)
    (answer : Except ApiError WorkerStatus) (c : Control) : Control → Prop
  | kept (hopen : ¬ evidence.terminalDecided) : SparkMove evidence named answer c c
  | confirmed (hcurrent : evidence.terminalIntentIsCurrent = true)
      (hgone : evidence.containerState ∈ goneStates) (attempt : Option Text)
      (hattempt : attempt = none ∨
        attempt = evidence.observedWorkerAttemptId ∧ evidence.staleReport = false) :
      SparkMove evidence named answer c
        (ContinuousJob.afterReport c evidence.terminalStatus attempt)
  | waiting (hcurrent : evidence.terminalIntentIsCurrent = true)
      (hpresent : evidence.containerState ∈ presentStates) :
      SparkMove evidence named answer c
        (c.settle (derivePublicStatus evidence.desiredState (observedStateFromEvidence c.status)))
  | restarted (hrunning : evidence.desiredState = .running)
      (hinitialized : evidence.contractInitialized = true) (result : WorkerStatus)
      (hanswer : answer = .ok result) :
      SparkMove evidence named answer c
        { c.start.settle .starting with fence := result.attempt.or c.fence }
  | restartFailed (hrunning : evidence.desiredState = .running)
      (hinitialized : evidence.contractInitialized = true) (error : ApiError)
      (hanswer : answer = .error error) :
      SparkMove evidence named answer c (c.start.settle .failed)
  | waitingForReport (hrunning : evidence.desiredState = .running) :
      SparkMove evidence named answer c
        { c.settle (derivePublicStatus evidence.desiredState
            (observedStateFromEvidence c.status)) with fence := named.or c.fence }
  | reported (hopen : ¬ evidence.terminalDecided) (hfresh : evidence.staleReport = false)
      (reported : PublicStatus) :
      SparkMove evidence named answer c
        (ContinuousJob.afterReport c (ContinuousJob.reportedNext evidence.desiredState
          evidence.contractInitialized none reported) evidence.observedWorkerAttemptId)
  | reportedFailed (hopen : ¬ evidence.terminalDecided) (hfresh : evidence.staleReport = false)
      (reported : PublicStatus)
      (hactive : (ContinuousJob.reportedNext evidence.desiredState evidence.contractInitialized none
        reported).active = true) :
      SparkMove evidence named answer c
        ((ContinuousJob.afterReport c (ContinuousJob.reportedNext evidence.desiredState
          evidence.contractInitialized none reported) evidence.observedWorkerAttemptId).settle
            .failed)

section
variable {evidence : RuntimeEvidence}

theorem terminalStatus_inactive : evidence.terminalStatus.active = false := by
  rcases terminalStatus_cases with h | h
  · rw [h]
    rfl
  · rw [h]
    rfl

theorem terminalStatus_of_decided (h : evidence.terminalDecided) :
    (decideReconciliation evidence).terminalStatus = some evidence.terminalStatus := by
  by_cases hgone : evidence.containerState ∈ goneStates
  · exact (decide_of_gone h.1 hgone).1
  · exact (decide_of_present h.1 hgone (h.2.resolve_left hgone)).1

theorem decide_of_open (h : ¬ evidence.terminalDecided) :
    decideReconciliation evidence = decideFromReport evidence :=
  decide_of_neither fun hcurrent =>
    ⟨fun hgone => h ⟨hcurrent, Or.inl hgone⟩, fun hpresent => h ⟨hcurrent, Or.inr hpresent⟩⟩

theorem terminalStatus_of_open (h : ¬ evidence.terminalDecided) :
    (decideReconciliation evidence).terminalStatus = none := by
  rw [decide_of_open h]
  exact terminalStatus_decideFromReport

theorem inactive_of_terminalStatus {terminal : PublicStatus}
    (h : (decideReconciliation evidence).terminalStatus = some terminal) :
    terminal.active = false := by
  by_cases hdecided : evidence.terminalDecided
  · rw [terminalStatus_of_decided hdecided] at h
    rw [← Option.some.inj h]
    exact terminalStatus_inactive
  · rw [terminalStatus_of_open hdecided] at h
    exact nomatch h

theorem desired_of_current (h : evidence.terminalIntentIsCurrent = true) :
    evidence.desiredState ≠ .running :=
  of_decide_eq_true (Bool.and_eq_true_iff.mp h).1

/-- A report that is current is one that is not stale. -/
theorem observationIsCurrent_iff {metrics : ContractMetrics} {attempt : Option Text}
    (hfence : evidence.expectedWorkerAttemptId = metrics.fencingToken)
    (hattempt : evidence.observedWorkerAttemptId = attempt) :
    metrics.observationIsCurrent attempt = !evidence.staleReport := by
  unfold ContractMetrics.observationIsCurrent RuntimeEvidence.staleReport
  rw [hfence, hattempt]
  cases metrics.fencingToken with
  | none => cases attempt <;> rfl
  | some expected =>
      cases attempt with
      | none => rfl
      | some observed => simp [eq_comm]

end

namespace ContinuousJob

section
variable (worker : WorkerGateway) (s : ContinuousJob) (input : PassInput) (status : WorkerStatus)
  (container : String)

theorem shows_runtimeEvidence :
    s.control.Shows (s.runtimeEvidence input.document status container) where
  desired := rfl
  status := rfl
  fence := rfl
  initialized := rfl

/-- The attempt of a payload that a pause or stop is confirmed with. -/
theorem currentPayload_attempt (terminal : PublicStatus) :
    (s.currentPayload input.document.payload (some terminal)).2 = none ∨
      (s.currentPayload input.document.payload (some terminal)).2 =
          (s.runtimeEvidence input.document status container).observedWorkerAttemptId ∧
        (s.runtimeEvidence input.document status container).staleReport = false := by
  have hcurrent := @observationIsCurrent_iff
    (s.runtimeEvidence input.document status container) s.runtime.metrics.toContractMetrics
    (optionalString input.document.payload.workerAttemptId) rfl rfl
  rw [currentPayload]
  split
  · exact Or.inl rfl
  · rename_i hnot
    refine Or.inr ⟨rfl, ?_⟩
    cases hstale : (s.runtimeEvidence input.document status container).staleReport with
    | false => rfl
    | true =>
        rw [hstale] at hcurrent
        exact absurd ⟨rfl, hcurrent⟩ hnot

variable {s}

/-- What is done where no pause or stop is decided. -/
theorem move_open {evidence : RuntimeEvidence} (hopen : ¬ evidence.terminalDecided)
    (hshows : s.control.Shows evidence)
    (hobserved : evidence.observedWorkerAttemptId =
      optionalString input.document.payload.workerAttemptId) :
    SparkMove evidence (optionalString status.workerAttemptId) (worker s.calls.length .start)
      s.control
      (s.act worker input status container evidence (decideFromReport evidence)).control := by
  have hwarranted := @warranted_decideFromReport evidence
  have hdesired : s.desiredState = evidence.desiredState := hshows.desired.symm
  rw [act, terminalStatus_decideFromReport]
  cases haction : (decideFromReport evidence).action with
  | applyTerminalIntent =>
      rw [haction] at hwarranted
      exact hwarranted.elim
  | waitForTerminalConfirmation =>
      rw [haction] at hwarranted
      exact hwarranted.elim
  | ignoreStaleReport => exact .kept hopen
  | recordReportError => exact .kept hopen
  | recoverPublication =>
      simp only
      rw [control_recoverWithoutReport]
      exact .kept hopen
  | restartWorker =>
      rw [haction] at hwarranted
      obtain ⟨hrunning, hinitialized⟩ := hwarranted
      cases hanswer : worker s.calls.length .start with
      | error error =>
          simp only
          rw [control_restartMissingWorker_error s worker hanswer]
          exact .restartFailed hrunning hinitialized error rfl
      | ok result =>
          simp only
          rw [control_restartMissingWorker s worker hanswer]
          exact .restarted hrunning hinitialized result rfl
  | waitForReport =>
      rw [haction] at hwarranted
      simp only
      rw [control_waitForReport]
      exact .waitingForReport hwarranted.1
  | applyReport =>
      rw [haction] at hwarranted
      simp only
      rcases s.control_applyContinuousRuntimeReport worker input input.document.payload status
        evidence.contractInitialized with hkept | ⟨reported, next, -, hnext, hcontrol⟩
      · rw [hkept]
        exact .kept hopen
      · rw [hdesired] at hnext
        rw [← hobserved, hnext] at hcontrol
        rcases hcontrol with hcontrol | ⟨hactive, hcontrol⟩
        · rw [hcontrol]
          exact .reported hopen hwarranted.1 reported
        · rw [hcontrol]
          exact .reportedFailed hopen hwarranted.1 reported hactive

/-- What is done where a pause or stop is decided. -/
theorem move_decided {evidence : RuntimeEvidence} (hcurrent : evidence.terminalIntentIsCurrent = true)
    (hstate : evidence.containerState ∈ goneStates ∨ evidence.containerState ∈ presentStates)
    (hattempt : (s.currentPayload input.document.payload (some evidence.terminalStatus)).2 = none ∨
      (s.currentPayload input.document.payload (some evidence.terminalStatus)).2 =
        evidence.observedWorkerAttemptId ∧ evidence.staleReport = false)
    (answer : Except ApiError WorkerStatus) :
    SparkMove evidence (optionalString status.workerAttemptId) answer s.control
      (s.act worker input status container evidence (decideReconciliation evidence)).control := by
  rw [act]
  by_cases hgone : evidence.containerState ∈ goneStates
  · obtain ⟨hterminal, haction | haction⟩ := decide_of_gone hcurrent hgone
    · rw [haction, hterminal]
      simp only
      rw [control_applyForcedReport _ _ _ _ _ _ terminalStatus_inactive]
      exact .confirmed hcurrent hgone _ hattempt
    · rw [haction, hterminal]
      simp only [Option.getD_some]
      rw [control_applyTerminalIntent]
      exact .confirmed hcurrent hgone none (Or.inl rfl)
  · have hpresent := hstate.resolve_left hgone
    obtain ⟨-, haction⟩ := decide_of_present hcurrent hgone hpresent
    rw [haction]
    simp only
    rw [control_waitForTerminalConfirmation]
    exact .waiting hcurrent hpresent

variable (s)

/-- A pass over a Spark worker makes one of the moves. -/
theorem move_reconcileSpark :
    SparkMove (s.runtimeEvidence input.document status container)
      (optionalString status.workerAttemptId) (worker s.calls.length .start) s.control
      (s.reconcileSpark worker input status container).control := by
  obtain ⟨evidence, hevidence⟩ : ∃ evidence, evidence =
      s.runtimeEvidence input.document status container := ⟨_, rfl⟩
  rw [reconcileSpark]
  simp only [← hevidence]
  by_cases hdecided : evidence.terminalDecided
  · have hattempt := s.currentPayload_attempt input status container evidence.terminalStatus
    rw [← hevidence] at hattempt
    exact @move_decided worker (s.recordReconciliation _ container input.document) input status
      container evidence hdecided.1 hdecided.2 hattempt _
  · rw [decide_of_open hdecided]
    refine @move_open worker (s.recordReconciliation _ container input.document) input status
      container evidence hdecided ?_ ?_
    · rw [hevidence]
      exact s.shows_runtimeEvidence input status container
    · rw [hevidence]
      rfl

end

/-! ## The whole pass -/

/-- What a pass goes on with: the status of the worker and of its container, unless the
signal of a pause or stop has failed. -/
def observe (worker : WorkerGateway) (s : ContinuousJob) :
    Option (WorkerStatus × String) × ContinuousJob :=
  (s.continuousWorkerStatus worker).2.applyDeferredTerminalSignal worker
    (s.continuousWorkerStatus worker).1

@[simp] theorem control_observe (worker : WorkerGateway) (s : ContinuousJob) :
    (s.observe worker).2.control = s.control := by
  rw [observe, control_applyDeferredTerminalSignal, control_continuousWorkerStatus]

end ContinuousJob

/-- No answer is one of Kafka Connect. -/
def WorkerGateway.Spark (worker : WorkerGateway) : Prop :=
  ∀ n action status, worker n action = .ok status →
    status.worker ≠ some "kafka_connect_clickhouse_v2"

namespace ContinuousJob

section
variable {worker : WorkerGateway} {s : ContinuousJob} {status : WorkerStatus} {container : String}

theorem worker_continuousWorkerStatus (hworker : worker.Spark) (hspark : s.control.ingestV2 = false) :
    (s.continuousWorkerStatus worker).1.worker ≠ some "kafka_connect_clickhouse_v2" := by
  rw [continuousWorkerStatus]
  simp only
  split
  · rename_i status hstatus
    exact hworker _ _ _ hstatus
  · have hingest : (s.callWorker worker .status none).2.job.ingestV2 = false := hspark
    rw [if_neg (by rw [hingest]; exact Bool.false_ne_true)]
    exact fun hconnect => by cases hconnect

/-- No pass over a Spark worker goes on with the status of a connector. -/
theorem worker_observe (hworker : worker.Spark) (hspark : s.control.ingestV2 = false)
    (h : (s.observe worker).1 = some (status, container)) :
    status.worker ≠ some "kafka_connect_clickhouse_v2" := by
  obtain ⟨asked, hasked⟩ : ∃ asked, asked = s.continuousWorkerStatus worker := ⟨_, rfl⟩
  have hfirst := worker_continuousWorkerStatus hworker hspark
  have hcontrol := s.control_continuousWorkerStatus worker
  rw [observe, ← hasked] at h
  rw [← hasked] at hfirst hcontrol
  rw [applyDeferredTerminalSignal] at h
  split at h
  · have hcalled : (asked.2.callWorker worker asked.2.terminalAction asked.2.fence).2.control =
        s.control :=
      (asked.2.control_callWorker worker asked.2.terminalAction_ne_start asked.2.fence).trans hcontrol
    have hagain : ∀ rows : ContinuousJob, rows.control = s.control →
        (rows.continuousWorkerStatus worker).1.worker ≠ some "kafka_connect_clickhouse_v2" :=
      fun rows hrows => worker_continuousWorkerStatus hworker (by rw [hrows]; exact hspark)
    rw [signalWorker] at h
    simp only at h
    split at h
    · rename_i result hresult
      split at h
      · obtain ⟨rfl, -⟩ := Prod.mk.inj (Option.some.inj h)
        exact hworker _ _ _ hresult
      · obtain ⟨rfl, -⟩ := Prod.mk.inj (Option.some.inj h)
        exact hagain _ hcalled
    · split at h
      · obtain ⟨rfl, -⟩ := Prod.mk.inj (Option.some.inj h)
        exact hagain _ hcalled
      · cases h
  · obtain ⟨rfl, -⟩ := Prod.mk.inj (Option.some.inj h)
    exact hfirst

variable (input : PassInput)

/-- A pass that goes on, over a Spark worker. -/
theorem reconcile_of_observe (hworker : worker.Spark) (hspark : s.control.ingestV2 = false)
    (hmode : s.job.executionMode = "continuous")
    (h : (s.observe worker).1 = some (status, container)) :
    s.reconcileContinuousRuntime worker input =
      (s.observe worker).2.reconcileSpark worker input status container := by
  have hnotConnect := worker_observe hworker hspark h
  obtain ⟨observed, hobserved⟩ : ∃ observed, observed = s.observe worker := ⟨_, rfl⟩
  rw [← hobserved] at h ⊢
  obtain ⟨first, rows⟩ := observed
  obtain rfl : first = some (status, container) := h
  rw [reconcileContinuousRuntime, if_neg (not_not_intro hmode)]
  rw [observe] at hobserved
  simp only [← hobserved]
  rw [if_neg hnotConnect]

/-- A pass that does not go on. -/
theorem reconcile_of_unobserved (hmode : s.job.executionMode = "continuous")
    (h : (s.observe worker).1 = none) :
    s.reconcileContinuousRuntime worker input = (s.observe worker).2 := by
  obtain ⟨observed, hobserved⟩ : ∃ observed, observed = s.observe worker := ⟨_, rfl⟩
  rw [← hobserved] at h ⊢
  obtain ⟨first, rows⟩ := observed
  obtain rfl : first = none := h
  rw [reconcileContinuousRuntime, if_neg (not_not_intro hmode)]
  rw [observe] at hobserved
  simp only [← hobserved]

/-- A pass that does not go on writes no control state. -/
theorem control_reconcile_of_unobserved (h : (s.observe worker).1 = none) :
    (s.reconcileContinuousRuntime worker input).control = s.control := by
  by_cases hmode : s.job.executionMode = "continuous"
  · rw [reconcile_of_unobserved input hmode h, control_observe]
  · rw [reconcileContinuousRuntime, if_pos hmode]

/-- What a pass over a Spark worker does to the control state. -/
theorem move_reconcile (hworker : worker.Spark) (hspark : s.control.ingestV2 = false) :
    (s.reconcileContinuousRuntime worker input).control = s.control ∨
      ∃ status container, (s.observe worker).1 = some (status, container) ∧
        SparkMove ((s.observe worker).2.runtimeEvidence input.document status container)
          (optionalString status.workerAttemptId)
          (worker (s.observe worker).2.calls.length .start) s.control
          (s.reconcileContinuousRuntime worker input).control := by
  by_cases hmode : s.job.executionMode = "continuous"
  · cases hobserved : (s.observe worker).1 with
    | none => exact Or.inl (control_reconcile_of_unobserved input hobserved)
    | some observed =>
        obtain ⟨status, container⟩ := observed
        refine Or.inr ⟨status, container, rfl, ?_⟩
        have hmove := move_reconcileSpark worker (s.observe worker).2 input status container
        rw [control_observe] at hmove
        rw [reconcile_of_observe input hworker hspark hmode hobserved]
        exact hmove
  · refine Or.inl ?_
    rw [reconcileContinuousRuntime, if_pos hmode]

/-- The evidence of a pass is of the control state that the pass began with. -/
theorem shows_observe :
    s.control.Shows ((s.observe worker).2.runtimeEvidence input.document status container) := by
  have hshows := (s.observe worker).2.shows_runtimeEvidence input status container
  rw [control_observe] at hshows
  exact hshows

end

end ContinuousJob

/-! ## The commands -/

/-- A command is written down, with the fence of a start. -/
def Control.commanded (c : Control) (transition : CommandTransition) (token : Option Text) : Control :=
  { c with
    status := transition.nextStatus
    desired := some transition.desiredState
    revision := c.revision + 1
    fence := token.or c.fence }

/-- A start that is written down, and asked of the worker if the API calls it itself. -/
def Control.started (c : Control) (transition : CommandTransition) (input : CommandInput) : Control :=
  if input.dispatchWorker then (c.commanded transition (some input.requestedAttemptId)).start
  else c.commanded transition (some input.requestedAttemptId)

theorem Control.status_started (c : Control) (transition : CommandTransition)
    (input : CommandInput) : (c.started transition input).status = transition.nextStatus := by
  rw [Control.started]
  split <;> rfl

theorem Control.desired_started (c : Control) (transition : CommandTransition)
    (input : CommandInput) :
    (c.started transition input).desired = some transition.desiredState := by
  rw [Control.started]
  split <;> rfl

theorem Control.fence_started (c : Control) (transition : CommandTransition)
    (input : CommandInput) :
    (c.started transition input).fence = some input.requestedAttemptId := by
  rw [Control.started]
  split <;> rfl

/-- The moves of a command, with the one that is accepted.  `dispatched` is what came of
a start. -/
inductive CommandMove (input : CommandInput) (dispatched : Command → Except ApiError WorkerResult)
    (c : Control) : Option Command → Control → Prop
  | refused : CommandMove input dispatched c none c
  | started (command : Command)
      (hstart : command = .startContinuous ∨ command = .resumeContinuous)
      (hallowed : (commandTransition c.status command).allowed = true) (result : WorkerResult)
      (hresult : dispatched command = .ok result) :
      CommandMove input dispatched c (some command)
        { c.started (commandTransition c.status command) input with
          fence := some (result.attempt.getD input.requestedAttemptId) }
  | startFailed (command : Command)
      (hstart : command = .startContinuous ∨ command = .resumeContinuous)
      (hallowed : (commandTransition c.status command).allowed = true) (error : ApiError)
      (herror : dispatched command = .error error) :
      CommandMove input dispatched c (some command)
        ((c.started (commandTransition c.status command) input).settle .failed)
  | ended (command : Command)
      (hend : command = .pauseContinuous ∨ command = .stopContinuous)
      (hallowed : (commandTransition c.status command).allowed = true) :
      CommandMove input dispatched c (some command)
        (c.commanded (commandTransition c.status command) none)

namespace ContinuousJob

/-- The command that is accepted: what is wanted is written down.  A stop of a runtime
that is stopping or stopped is answered, and is not. -/
def accepted (s : ContinuousJob) (name : String) (input : CommandInput) : Option Command :=
  (Command.ofName? name).filter fun command =>
    s.job.executionMode = "continuous" ∧ s.job.isKafka = true ∧ s.alreadyStopping command = false ∧
      if command = .startContinuous ∨ command = .resumeContinuous then
        s.startError command input = none
      else (commandTransition s.runtime.status command).allowed = true

/-- What comes of a start, once it is written down. -/
def dispatched (worker : WorkerGateway) (s : ContinuousJob) (input : CommandInput)
    (command : Command) : Except ApiError WorkerResult :=
  ((s.reserveStart command input).dispatchStart worker input).1

section
variable (worker : WorkerGateway) (s : ContinuousJob) (command : Command) (input : CommandInput)

theorem control_reserveStart :
    (s.reserveStart command input).control =
      s.control.commanded (commandTransition s.runtime.status command)
        (some input.requestedAttemptId) := by
  rw [reserveStart, control_withJob, control_withStatus, control_withContract,
    ContractMetrics.desiredState_command, ContractMetrics.stateRevision_command,
    ContractMetrics.fencingToken_command]
  rfl

theorem control_reserveTerminal :
    (s.reserveTerminal command).control =
      s.control.commanded (commandTransition s.runtime.status command) none := by
  have hreserved : ((s.withStatus (commandTransition s.runtime.status command).nextStatus).withContract
      (s.runtime.metrics.recordRuntimeCommand (commandTransition s.runtime.status command)
        none)).control =
          s.control.commanded (commandTransition s.runtime.status command) none := by
    rw [control_withContract, ContractMetrics.desiredState_command,
      ContractMetrics.stateRevision_command, ContractMetrics.fencingToken_command]
    rfl
  rw [reserveTerminal]
  split <;> exact hreserved

theorem control_dispatchStart :
    (s.dispatchStart worker input).2.control =
      if input.dispatchWorker then s.control.start else s.control := by
  rw [dispatchStart]
  split
  · simp only
    split
    · exact s.control_callStart worker
    · have hstatus := (s.callWorker worker .start s.fence).2.control_callWorker worker
        (by decide : WorkerAction.status ≠ .start) none
      have hrecovered : ((s.callWorker worker .start s.fence).2.recoverLostStartResponse
          worker).2.control = s.control.start := by
        rw [recoverLostStartResponse]
        simp only
        split
        · exact hstatus.trans (s.control_callStart worker)
        · split <;> exact hstatus.trans (s.control_callStart worker)
      split <;> exact hrecovered
  · rfl

theorem control_dispatchTerminal {action : WorkerAction} (haction : action ≠ .start) :
    (s.dispatchTerminal worker command action input).2.control = s.control := by
  have hcalled := s.control_callWorker worker haction s.fence
  rw [dispatchTerminal]
  split
  · simp only
    split <;> exact hcalled
  · rfl

variable {s}

theorem control_bindStart {desired : DesiredState} (h : s.control.desired = some desired)
    (result : WorkerResult) :
    (s.bindStart result input).control =
      { s.control with fence := some (result.attempt.getD input.requestedAttemptId) } := by
  rw [bindStart]
  simp only
  generalize hrows : (if result.worker = some "kafka_connect_clickhouse_v2" then
      s.withJob s.job.status "Kafka Connect → ClickHouse V2 수집 시작 요청"
        (some ("Kafka Connect V2 시작 요청", 5)) else s) = rows
  have hcontrol : rows.control = s.control := by
    rw [← hrows]
    split <;> rfl
  have hdesired : rows.control.desired = some desired := by
    rw [hcontrol]
    exact h
  have hbound := rows.control_bind_observation .starting rows.runtime.status
    (some (result.attempt.getD input.requestedAttemptId))
  rw [Control.settle_of_some hdesired] at hbound
  rw [← hcontrol]
  exact hbound

theorem control_recordStartFailure (error : ApiError) (now : String) :
    (s.recordStartFailure command error now).control = s.control.settle .failed :=
  control_observation s .failed .failed none

variable (s)

theorem transitionError_eq_none (transition : CommandTransition) (verb : String) :
    s.transitionError transition verb = none ↔ transition.allowed = true := by
  rw [transitionError]
  split
  · rename_i hallowed
    exact ⟨fun _ => hallowed, fun _ => rfl⟩
  · rename_i hnot
    refine ⟨fun herror => ?_, fun hallowed => absurd hallowed hnot⟩
    split at herror <;> exact nomatch herror

/-- A start that nothing forbids is allowed by the status. -/
theorem allowed_of_startError (h : s.startError command input = none) :
    (commandTransition s.runtime.status command).allowed = true := by
  rw [startError] at h
  exact (s.transitionError_eq_none _ _).mp
    (Option.or_eq_none_iff.mp (Option.or_eq_none_iff.mp h).1).2

theorem move_startCommand (hstart : command = .startContinuous ∨ command = .resumeContinuous) :
    CommandMove input (s.dispatched worker input) s.control
      (if s.startError command input = none then some command else none)
      (s.startCommand worker command input).2.control := by
  obtain ⟨reserved, hreserved⟩ : ∃ reserved, reserved = s.reserveStart command input := ⟨_, rfl⟩
  have hcommanded := s.control_reserveStart command input
  have hdispatched := reserved.control_dispatchStart worker input
  rw [← hreserved] at hcommanded
  rw [hcommanded] at hdispatched
  rw [startCommand]
  cases herror : s.startError command input with
  | some error => exact .refused
  | none =>
      have hallowed := s.allowed_of_startError command input herror
      rw [if_pos rfl]
      simp only [← hreserved]
      have hstarted : (reserved.dispatchStart worker input).2.control =
          s.control.started (commandTransition s.control.status command) input := hdispatched
      have hdesired : (reserved.dispatchStart worker input).2.control.desired =
          some (commandTransition s.control.status command).desiredState := by
        rw [hstarted, Control.desired_started]
      cases hresult : (reserved.dispatchStart worker input).1 with
      | error error =>
          simp only
          rw [control_recordStartFailure, hstarted]
          refine .startFailed command hstart hallowed error ?_
          rw [dispatched, ← hreserved]
          exact hresult
      | ok result =>
          simp only
          rw [control_bindStart input hdesired, hstarted]
          refine .started command hstart hallowed result ?_
          rw [dispatched, ← hreserved]
          exact hresult

theorem move_terminalCommand (hend : command = .pauseContinuous ∨ command = .stopContinuous) :
    CommandMove input (s.dispatched worker input) s.control
      (if (commandTransition s.runtime.status command).allowed = true then some command else none)
      (s.terminalCommand worker command input).2.control := by
  obtain ⟨action, haction⟩ : ∃ action, action =
      if command = .pauseContinuous then WorkerAction.pause else .stop := ⟨_, rfl⟩
  have hstart : action ≠ .start := by
    rw [haction]
    split <;> decide
  obtain ⟨called, hcalled⟩ : ∃ called, called =
      (s.reserveTerminal command).dispatchTerminal worker command action input := ⟨_, rfl⟩
  have hcontrol := (s.reserveTerminal command).control_dispatchTerminal worker command input hstart
  rw [← hcalled, control_reserveTerminal] at hcontrol
  rw [terminalCommand]
  simp only [← haction, ← hcalled]
  cases herror : s.transitionError (commandTransition s.runtime.status command) action.name with
  | some error =>
      have hnot : ¬ (commandTransition s.runtime.status command).allowed = true := fun hallowed => by
        rw [(s.transitionError_eq_none _ _).mpr hallowed] at herror
        exact nomatch herror
      rw [if_neg hnot]
      exact .refused
  | none =>
      have hallowed := (s.transitionError_eq_none _ _).mp herror
      rw [if_pos hallowed]
      cases hresult : called.1 with
      | error error =>
          simp only
          rw [hcontrol]
          exact .ended command hend hallowed
      | ok result =>
          have hdesired : called.2.control.desired =
              some (commandTransition s.runtime.status command).desiredState := by
            rw [hcontrol]
            rfl
          have hobserved := called.2.control_observation .stopping called.2.runtime.status none
          rw [Control.settle_of_some hdesired] at hobserved
          have hfinal : (called.2.withContract (called.2.runtime.metrics.recordRuntimeObservation
              .stopping called.2.runtime.status none)).control = called.2.control := hobserved
          simp only
          rw [hfinal, hcontrol]
          exact .ended command hend hallowed

/-- A command makes one of the moves. -/
theorem move_command (name : String) :
    CommandMove input (s.dispatched worker input) s.control (s.accepted name input)
      (s.executeContinuousCommand worker name input).2.control := by
  rw [executeContinuousCommand, accepted]
  cases hname : Command.ofName? name with
  | none => exact .refused
  | some command =>
      simp only
      split
      · rename_i hforeign
        rw [Option.filter_some, if_neg]
        · exact .refused
        · rintro hallowed
          obtain ⟨hmode, hkafka, -⟩ := of_decide_eq_true hallowed
          rcases hforeign with hforeign | hforeign
          · exact hforeign hmode
          · rw [hkafka] at hforeign
            exact nomatch hforeign
      · rename_i hjob
        obtain ⟨hmode, hkafka⟩ := not_or.mp hjob
        split
        · rename_i halready
          rw [Option.filter_some, if_neg]
          · exact .refused
          · intro hallowed
            have hnot := (of_decide_eq_true hallowed).2.2.1
            rw [halready] at hnot
            exact nomatch hnot
        · rename_i halready
          have hnotYet : s.alreadyStopping command = false := Bool.eq_false_iff.mpr halready
          have hmode : s.job.executionMode = "continuous" := not_not.mp hmode
          have hkafka : s.job.isKafka = true := Bool.of_not_eq_false hkafka
          rw [Option.filter_some]
          simp only [hmode, hkafka, hnotYet, true_and, decide_eq_true_eq]
          split
          · rename_i hstart
            exact s.move_startCommand worker command input hstart
          · rename_i hother
            refine s.move_terminalCommand worker command input ?_
            cases command with
            | startContinuous => exact absurd (Or.inl rfl) hother
            | resumeContinuous => exact absurd (Or.inr rfl) hother
            | pauseContinuous => exact Or.inl rfl
            | stopContinuous => exact Or.inr rfl

end

end ContinuousJob

/-! ## Runs -/

/-- A command, or a pass. -/
inductive LifecycleEvent
  | command (name : String) (input : CommandInput)
  | reconcile (input : PassInput)

def LifecycleEvent.accepted (s : ContinuousJob) : LifecycleEvent → Option Command
  | command name input => s.accepted name input
  | reconcile _ => none

def lifecycleStep (worker : WorkerGateway) (s : ContinuousJob) : LifecycleEvent → ContinuousJob
  | .command name input => (s.executeContinuousCommand worker name input).2
  | .reconcile input => s.reconcileContinuousRuntime worker input

/-- The commands that a run accepts, in their order. -/
def acceptedCommands (worker : WorkerGateway) : ContinuousJob → List LifecycleEvent → List Command
  | _, [] => []
  | s, event :: events =>
      (event.accepted s).toList ++ acceptedCommands worker (lifecycleStep worker s event) events

end AskLake.ContinuousRuntime

/-
# `AskLake.ContinuousRuntime.Control` — what a pass does to the control state

Of all that commands and passes write, these places decide what happens next:

    status     the public status
    desired    what is wanted, once it is written down
    revision   the number of commands
    fence      the attempt whose reports count
    starts     the starts that the worker was asked for

Each action of a pass is given here by what it does to them.  An action that writes
`desired` has found it empty: then it is what the status says.  None writes
`revision`, nor who the runtime is.
-/
import AskLake.ContinuousRuntime.Commands

namespace AskLake.ContinuousRuntime

open AskLake.Python

def WorkerCall.isStart (call : WorkerCall) : Bool := call.action = .start

structure Control where
  status : PublicStatus
  desired : Option DesiredState
  revision : Nat
  fence : Option Text
  starts : List WorkerCall
  identity : ConsumerIdentity
  ingestV2 : Bool
  deriving DecidableEq

namespace Control

/-- A status is observed: where nothing is wanted yet, it says what is. -/
def settle (c : Control) (status : PublicStatus) : Control :=
  { c with status, desired := some (c.desired.getD (desiredStateFromPublicStatus status)) }

/-- A start is asked of the worker. -/
def start (c : Control) : Control :=
  { c with starts := c.starts ++ [⟨.start, c.fence, c.desired⟩] }

theorem settle_of_some {c : Control} {desired : DesiredState} (h : c.desired = some desired)
    (status : PublicStatus) : c.settle status = { c with status } := by
  have hdesired : some (c.desired.getD (desiredStateFromPublicStatus status)) = c.desired := by
    rw [h]
    rfl
  exact congrArg (fun desired => { c with status, desired }) hdesired

end Control

namespace ContinuousJob

def control (s : ContinuousJob) : Control where
  status := s.runtime.status
  desired := s.contract.desiredState
  revision := s.contract.stateRevision
  fence := s.fence
  starts := s.calls.filter WorkerCall.isStart
  identity := s.runtime.identity
  ingestV2 := s.job.ingestV2

section
variable (s : ContinuousJob) (worker : WorkerGateway) (input : PassInput) (payload : Report)

/-! ## Writes that are not of the control state -/

@[simp] theorem control_withStatus (status : PublicStatus) :
    (s.withStatus status).control = { s.control with status } := rfl

@[simp] theorem control_withContract (metrics : ContractMetrics) :
    (s.withContract metrics).control =
      { s.control with
        desired := metrics.runtimeContract.desiredState
        revision := metrics.runtimeContract.stateRevision
        fence := metrics.fencingToken } := rfl

@[simp] theorem control_withLastError (lastError : Option String) :
    (s.withLastError lastError).control = s.control := rfl

@[simp] theorem control_withJob (status lastState : String) (progress : Option (String × Nat)) :
    (s.withJob status lastState progress).control = s.control := rfl

theorem control_callWorker {action : WorkerAction} (h : action ≠ .start) (options : Option Text) :
    (s.callWorker worker action options).2.control = s.control := by
  have hstarts : (s.callWorker worker action options).2.calls.filter WorkerCall.isStart =
      s.calls.filter WorkerCall.isStart := by
    show (s.calls ++ [_]).filter _ = _
    rw [List.filter_append, List.filter_cons_of_neg (by simpa [WorkerCall.isStart] using h),
      List.filter_nil, List.append_nil]
  exact congrArg (fun starts => { s.control with starts }) hstarts

theorem control_callStart :
    (s.callWorker worker .start s.fence).2.control = s.control.start := by
  have hstarts : (s.callWorker worker .start s.fence).2.calls.filter WorkerCall.isStart =
      s.calls.filter WorkerCall.isStart ++ [⟨.start, s.fence, s.contract.desiredState⟩] := by
    show (s.calls ++ [_]).filter _ = _
    rw [List.filter_append]
    rfl
  exact congrArg (fun starts => { s.control with starts }) hstarts

@[simp] theorem control_writeAck (cursor : Option Int) :
    (s.writeAck cursor).control = s.control := rfl

@[simp] theorem control_recordReconciliation (decision : Decision) (container : String)
    (document : ReportDocument) :
    (s.recordReconciliation decision container document).control = s.control := rfl

@[simp] theorem control_recordTerminalSignal (identity : SignalIdentity) (result : WorkerStatus) :
    (s.recordTerminalSignal identity result).control = s.control := rfl

@[simp] theorem control_syncSession : (s.syncSession input payload).control = s.control := by
  rw [syncSession]
  split <;> rfl

@[simp] theorem control_continuousWorkerStatus :
    (s.continuousWorkerStatus worker).2.control = s.control := by
  have hcall := s.control_callWorker worker (by decide : WorkerAction.status ≠ .start) none
  rw [continuousWorkerStatus]
  simp only
  split
  · exact hcall
  · split <;> exact hcall

@[simp] theorem control_materializeBatch (recover : Bool) :
    (s.materializeBatch input payload recover).2.control = s.control := by
  rw [materializeBatch]
  split <;> rfl

@[simp] theorem control_recoverManifests : (s.recoverManifests input).control = s.control := by
  rw [recoverManifests]
  simp

@[simp] theorem control_takeError (attempt : Option Text) (forced : Option PublicStatus) :
    (s.takeError payload attempt forced).control = s.control := by
  rw [takeError]
  split
  · rfl
  · split <;> rfl

@[simp] theorem control_showJob : s.showJob.control = s.control := by
  rw [showJob]
  split <;> rfl

theorem terminalAction_ne_start : s.terminalAction ≠ .start := by
  rw [terminalAction]
  split
  · decide
  · decide

/-- A signal writes no control state. -/
@[simp] theorem control_applyDeferredTerminalSignal (status : WorkerStatus) :
    (s.applyDeferredTerminalSignal worker status).2.control = s.control := by
  have hcall := s.control_callWorker worker s.terminalAction_ne_start s.fence
  rw [applyDeferredTerminalSignal]
  split
  · rw [signalWorker]
    simp only
    split
    · split
      · exact hcall
      · rw [control_continuousWorkerStatus]
        exact hcall
    · split
      · rw [control_recordTerminalSignal, control_continuousWorkerStatus]
        exact hcall
      · exact (control_continuousWorkerStatus _ worker).trans hcall
  · rfl

/-! ## The actions -/

/-- A status that is observed, with the attempt it is of. -/
theorem control_observation (observed : ObservedState) (status : PublicStatus)
    (attempt : Option Text) :
    ((s.withContract (s.runtime.metrics.recordRuntimeObservation observed status
      attempt)).withStatus status).control =
        { s.control.settle status with fence := attempt.or s.control.fence } := by
  rw [control_withStatus, control_withContract, ContractMetrics.desiredState_observation,
    ContractMetrics.stateRevision_observation, ContractMetrics.fencingToken_observation]
  rfl

/-- An attempt that is bound, and then observed. -/
theorem control_bind_observation (observed : ObservedState) (status : PublicStatus)
    (attempt : Option Text) :
    ((s.withContract ((s.runtime.metrics.bindWorkerAttempt attempt).recordRuntimeObservation
      observed status attempt)).withStatus status).control =
        { s.control.settle status with fence := attempt.or s.control.fence } := by
  have hbound : (s.withContract (s.runtime.metrics.bindWorkerAttempt attempt)).control =
      { s.control with fence := attempt.or s.control.fence } := by
    rw [control_withContract, ContractMetrics.desiredState_bind,
      ContractMetrics.stateRevision_bind, ContractMetrics.fencingToken_bind]
    rfl
  have hfence : attempt.or (attempt.or s.control.fence) = attempt.or s.control.fence := by
    cases attempt <;> rfl
  have hobserved := control_observation
    (s.withContract (s.runtime.metrics.bindWorkerAttempt attempt)) observed status attempt
  rw [hbound] at hobserved
  exact hobserved.trans (congrArg (fun fence => { s.control.settle status with fence }) hfence)

theorem control_markFailed (message : String) (identity : Option String) (stage : ErrorStage)
    (code : String) :
    (s.markFailed message identity stage code).control = s.control.settle .failed :=
  control_observation s .failed .failed none

theorem control_applyTerminalIntent (terminalStatus : PublicStatus) :
    (s.applyTerminalIntent terminalStatus input).control = s.control.settle terminalStatus := by
  have hobserved := control_observation s (observedStateFromEvidence terminalStatus)
    terminalStatus none
  rw [applyTerminalIntent]
  simp only [control_recoverManifests]
  split <;> exact hobserved

theorem control_waitForTerminalConfirmation (evidence : RuntimeEvidence) (container : String) :
    (s.waitForTerminalConfirmation evidence container input).control =
      s.control.settle
        (derivePublicStatus evidence.desiredState (observedStateFromEvidence s.control.status)) := by
  have hobserved := control_observation s (observedStateFromEvidence s.runtime.status)
    (derivePublicStatus evidence.desiredState (observedStateFromEvidence s.runtime.status)) none
  rw [waitForTerminalConfirmation]
  simp only [control_syncSession]
  split <;> split <;> exact hobserved

theorem control_ignoreStaleReport (evidence : RuntimeEvidence) :
    (s.ignoreStaleReport evidence).control = s.control := rfl

theorem control_recordReportError (document : ReportDocument) :
    (s.recordReportError document).control = s.control := rfl

theorem control_recoverWithoutReport (container : String) :
    (s.recoverWithoutReport container input).control = s.control := by
  rw [recoverWithoutReport]
  split
  · exact control_recoverManifests s input
  · rfl

theorem control_waitForReport (evidence : RuntimeEvidence) (status : WorkerStatus) :
    (s.waitForReport evidence status).control =
      { s.control.settle
          (derivePublicStatus evidence.desiredState (observedStateFromEvidence s.control.status)) with
        fence := (optionalString status.workerAttemptId).or s.control.fence } :=
  control_observation s (observedStateFromEvidence s.runtime.status)
    (derivePublicStatus evidence.desiredState (observedStateFromEvidence s.runtime.status))
    (optionalString status.workerAttemptId)

/-- A worker is started again, and its answer bound. -/
theorem control_restartMissingWorker {result : WorkerStatus}
    (hanswer : worker s.calls.length .start = .ok result) :
    (s.restartMissingWorker worker).control =
      { s.control.start.settle .starting with fence := result.attempt.or s.control.fence } := by
  have hcalled : (s.callWorker worker .start s.fence).1 = .ok result := hanswer
  have hbound := control_bind_observation (s.callWorker worker .start s.fence).2 .starting .starting
    result.attempt
  rw [control_callStart] at hbound
  rw [restartMissingWorker]
  simp only [hcalled]
  exact hbound

/-- A worker that cannot be started again fails the runtime. -/
theorem control_restartMissingWorker_error {error : ApiError}
    (hanswer : worker s.calls.length .start = .error error) :
    (s.restartMissingWorker worker).control = s.control.start.settle .failed := by
  have hcalled : (s.callWorker worker .start s.fence).1 = .error error := hanswer
  rw [restartMissingWorker]
  simp only [hcalled]
  rw [control_markFailed, control_callStart]

/-- A worker that is gone or silent fails the runtime, where the status is active. -/
theorem control_checkLiveness (status : WorkerStatus) (runtimeStatus : PublicStatus) :
    (s.checkLiveness worker input status runtimeStatus).control = s.control ∨
      runtimeStatus.active = true ∧
        (s.checkLiveness worker input status runtimeStatus).control = s.control.settle .failed := by
  rw [checkLiveness]
  split
  · rename_i hgone
    exact Or.inr ⟨hgone.1, control_markFailed s _ _ _ _⟩
  · split
    · rename_i hstale
      refine Or.inr ⟨hstale.1, ?_⟩
      rw [control_callWorker _ worker (by decide : WorkerAction.terminate ≠ .start)]
      exact control_markFailed s _ _ _ _
    · exact Or.inl rfl

/-- The status that a report leads to, while its worker lives. -/
def reportedNext (desired : DesiredState) (initialized : Bool) (forced : Option PublicStatus)
    (reported : PublicStatus) : PublicStatus :=
  if initialized = true ∧ forced = none then
    derivePublicStatus desired (observedStateFromEvidence reported)
  else reported

/-- The control state after a report of `attempt` whose status leads to `next`. -/
def afterReport (c : Control) (next : PublicStatus) (attempt : Option Text) : Control :=
  { c.settle next with fence := attempt.or c.fence }

theorem control_applyReportedStatus (attempt : Option Text) (status : WorkerStatus)
    (forced : Option PublicStatus) (initialized : Bool) (reported next : PublicStatus)
    (hnext : next = reportedNext s.desiredState initialized forced reported) :
    (s.applyReportedStatus worker input payload attempt status forced initialized
        reported).control = afterReport s.control next attempt ∨
      next.active = true ∧
        (s.applyReportedStatus worker input payload attempt status forced initialized
          reported).control = (afterReport s.control next attempt).settle .failed := by
  have hderived : (if initialized = true ∧ forced = none then
      derivePublicStatus s.desiredState (observedStateFromEvidence reported) else reported) =
        next := hnext.symm
  have hobserved := control_observation s (observedStateFromEvidence reported) next attempt
  rw [applyReportedStatus]
  simp only [hderived, control_writeAck, control_syncSession, control_showJob]
  -- the rows after the observation and before the liveness check
  obtain ⟨taken, htaken⟩ : ∃ taken : ContinuousJob, taken = takeError
      { (s.withContract (s.runtime.metrics.recordRuntimeObservation
          (observedStateFromEvidence reported) next attempt)).withStatus next with
        runtime := takeReport ((s.withContract (s.runtime.metrics.recordRuntimeObservation
          (observedStateFromEvidence reported) next attempt)).withStatus next).runtime payload }
      payload attempt forced := ⟨_, rfl⟩
  have hcontrol : taken.control = afterReport s.control next attempt := by
    rw [htaken, control_takeError]
    exact hobserved
  simp only [← htaken]
  obtain ⟨recover, hrecover⟩ : ∃ recover : Bool, recover = decide
      (next ∈ [PublicStatus.paused, .stopped, .failed] ∨
        status.container ∈ ["exited", "missing"] ∨
          taken.runtime.metrics.publication.recoveryPending = some true) := ⟨_, rfl⟩
  simp only [← hrecover]
  have hmaterialized := (control_materializeBatch taken input payload recover).trans hcontrol
  rcases control_checkLiveness (taken.materializeBatch input payload recover).2 worker input status
    next with hsame | ⟨hactive, hfailed⟩
  · exact Or.inl (hsame.trans hmaterialized)
  · exact Or.inr ⟨hactive, hfailed.trans (congrArg (·.settle .failed) hmaterialized)⟩

/-- A report that is applied without a status forced on it: it may have none that is
known, and else its status leads to `next`. -/
theorem control_applyContinuousRuntimeReport (status : WorkerStatus) (initialized : Bool) :
    (s.applyContinuousRuntimeReport worker input payload status none initialized).control =
        s.control ∨
      ∃ reported next,
        payload.status.elim (some s.runtime.status) PublicStatus.ofValue? = some reported ∧
        next = reportedNext s.desiredState initialized none reported ∧
        ((s.applyContinuousRuntimeReport worker input payload status none initialized).control =
            afterReport s.control next (optionalString payload.workerAttemptId) ∨
          next.active = true ∧
            (s.applyContinuousRuntimeReport worker input payload status none initialized).control =
              (afterReport s.control next (optionalString payload.workerAttemptId)).settle
                .failed) := by
  have hpayload : s.currentPayload payload none =
      (payload, optionalString payload.workerAttemptId) := by
    rw [currentPayload, if_neg fun h => Bool.false_ne_true h.1]
  rw [applyContinuousRuntimeReport, hpayload]
  simp only [Option.none_or]
  cases hreported : payload.status.elim (some s.runtime.status) PublicStatus.ofValue? with
  | none => exact Or.inl rfl
  | some reported =>
      exact Or.inr ⟨reported, _, rfl, rfl, control_applyReportedStatus s worker input payload
        (optionalString payload.workerAttemptId) status none initialized reported _ rfl⟩

/-- A pause or stop that a report goes with. -/
theorem control_applyForcedReport (status : WorkerStatus) (initialized : Bool)
    {terminal : PublicStatus} (hterminal : terminal.active = false) :
    (s.applyContinuousRuntimeReport worker input payload status (some terminal)
        initialized).control =
      afterReport s.control terminal (s.currentPayload payload (some terminal)).2 := by
  have hnext : terminal = reportedNext s.desiredState initialized (some terminal) terminal := by
    rw [reportedNext, if_neg fun h => nomatch h.2]
  rw [applyContinuousRuntimeReport]
  simp only [Option.some_or]
  rcases control_applyReportedStatus s worker input (s.currentPayload payload (some terminal)).1
    (s.currentPayload payload (some terminal)).2 status (some terminal) initialized terminal terminal
    hnext with h | ⟨hactive, -⟩
  · exact h
  · rw [hterminal] at hactive
    exact nomatch hactive

end

end ContinuousJob

end AskLake.ContinuousRuntime

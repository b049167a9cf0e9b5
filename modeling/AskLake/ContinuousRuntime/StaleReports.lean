/-
# `AskLake.ContinuousRuntime.StaleReports` — what a stale report says does not matter

A report is stale if it names an attempt, and not the one whose reports count.  A pass
over a Spark worker does with it one of these:

    a pause or stop, the worker gone     confirms it, with an empty report
    a pause or stop, the worker there    waits
    running is wanted, the worker gone   starts it again
    otherwise                            leaves an error

and nothing of these reads the report.  Only the errors say which attempt it named: so
two passes that differ in a stale report leave the same, up to that name.
-/
import AskLake.ContinuousRuntime.IntentDominates

namespace AskLake.ContinuousRuntime

open AskLake.Lib AskLake.Python

/-! ## The decision -/

/-- What is decided of a report that is found, and stale. -/
def staleDecision (evidence : RuntimeEvidence) : Decision :=
  if evidence.terminalIntentIsCurrent = true ∧ evidence.containerState ∈ goneStates then
    { action := .applyReport
      certainty := .confirmed
      reason := "apply the final report while preserving the durable terminal command"
      terminalStatus := some evidence.terminalStatus }
  else if evidence.terminalIntentIsCurrent = true ∧ evidence.containerState ∈ presentStates then
    { action := .waitForTerminalConfirmation
      certainty := .uncertain
      reason := "terminal command is durable but authoritative worker termination is not confirmed"
      terminalStatus := some evidence.terminalStatus }
  else if evidence.desiredState = .running ∧ evidence.contractInitialized = true ∧
      evidence.containerState ∈ ["exited", "missing", "unknown"] then
    { action := .restartWorker
      certainty := .confirmed
      reason := "stale worker is terminal; submit the durable current start intent" }
  else
    { action := .ignoreStaleReport
      certainty := .confirmed
      reason := "report belongs to an older worker attempt" }

theorem decide_of_stale {evidence : RuntimeEvidence} (hfound : evidence.reportState = .found)
    (hstale : evidence.staleReport = true) :
    decideReconciliation evidence = staleDecision evidence := by
  rw [decideReconciliation, staleDecision, if_pos hfound, decideFromReport, if_pos hstale]

theorem staleDecision_cases (evidence : RuntimeEvidence) :
    (staleDecision evidence).action = .applyReport ∧
        (∃ terminal, (staleDecision evidence).terminalStatus = some terminal) ∨
      (staleDecision evidence).action = .waitForTerminalConfirmation ∨
      (staleDecision evidence).action = .restartWorker ∨
      (staleDecision evidence).action = .ignoreStaleReport := by
  rw [staleDecision]
  split
  · exact Or.inl ⟨rfl, _, rfl⟩
  · split
    · exact Or.inr (Or.inl rfl)
    · split
      · exact Or.inr (Or.inr (Or.inl rfl))
      · exact Or.inr (Or.inr (Or.inr rfl))

/-! ## The rows, but for the attempt that an error names -/

/-- A report that is found, and names another attempt than `fence`. -/
def ReportDocument.staleFor (document : ReportDocument) (fence : Text) : Prop :=
  document.state = .found ∧
    ∃ attempt, optionalString document.payload.workerAttemptId = some attempt ∧ attempt ≠ fence

/-- An error without the attempt that was observed. -/
def RuntimeError.eraseObserved (error : RuntimeError) : RuntimeError :=
  { error with context.observedWorkerAttemptId := none }

namespace ContinuousJob

/-- The rows, but for the attempt that was observed in the last error. -/
def eraseObserved (s : ContinuousJob) : ContinuousJob :=
  { s with
    runtime.metrics.runtimeContract.lastError :=
      s.contract.lastError.map RuntimeError.eraseObserved }

section
variable (s : ContinuousJob) (input : PassInput)

/-- The session and the batch rows do not depend on what an error names. -/
theorem eraseObserved_syncSession (payload : Report) :
    (s.syncSession input payload).eraseObserved = s.eraseObserved.syncSession input payload := by
  obtain ⟨job, runtime, session, published, batches, catalogAck, calls⟩ := s
  cases session <;> rfl

/-- Waiting for a pause or stop does not read the report. -/
theorem eraseObserved_wait (first second : RuntimeEvidence) (container : String)
    (hdesired : first.desiredState = second.desiredState)
    (hexpected : first.expectedWorkerAttemptId = second.expectedWorkerAttemptId) :
    (s.waitForTerminalConfirmation first container input).eraseObserved =
      (s.waitForTerminalConfirmation second container input).eraseObserved := by
  rw [waitForTerminalConfirmation, waitForTerminalConfirmation]
  simp only [eraseObserved_syncSession, hdesired, hexpected]
  congr 1
  split <;> split <;> rfl

theorem eraseObserved_ignore (first second : RuntimeEvidence)
    (hexpected : first.expectedWorkerAttemptId = second.expectedWorkerAttemptId) :
    (s.ignoreStaleReport first).eraseObserved = (s.ignoreStaleReport second).eraseObserved := by
  rw [ignoreStaleReport, ignoreStaleReport, hexpected]
  rfl

variable {s input} {fence : Text} {document : ReportDocument}

theorem staleReport_of_staleFor (hfence : s.fence = some fence) (hstale : document.staleFor fence)
    (status : WorkerStatus) (container : String) :
    (s.runtimeEvidence document status container).staleReport = true := by
  obtain ⟨-, attempt, hattempt, hother⟩ := hstale
  have hobserved : (s.runtimeEvidence document status container).observedWorkerAttemptId =
      some attempt := hattempt
  have hexpected : (s.runtimeEvidence document status container).expectedWorkerAttemptId =
      some fence := hfence
  unfold RuntimeEvidence.staleReport
  rw [hobserved, hexpected]
  exact decide_eq_true hother

/-- A pause or stop takes nothing from a stale report. -/
theorem currentPayload_of_stale (hfence : s.fence = some fence) (hstale : document.staleFor fence)
    (terminal : PublicStatus) :
    s.currentPayload document.payload (some terminal) = ({}, none) := by
  obtain ⟨-, attempt, hattempt, hother⟩ := hstale
  have hnot : s.runtime.metrics.observationIsCurrent
      (optionalString document.payload.workerAttemptId) = false := by
    have hexpected : s.runtime.metrics.fencingToken = some fence := hfence
    unfold ContractMetrics.observationIsCurrent
    rw [hattempt, hexpected]
    exact decide_eq_false fun heq => hother heq.symm
  rw [currentPayload, if_pos ⟨rfl, hnot⟩]

variable {first second : ReportDocument} {worker : WorkerGateway} {status : WorkerStatus}
  {container : String}

theorem apply_stale (hfence : s.fence = some fence) (hfirst : first.staleFor fence)
    (hsecond : second.staleFor fence) (terminal : PublicStatus) (initialized : Bool) :
    s.applyContinuousRuntimeReport worker { input with document := first } first.payload status
        (some terminal) initialized =
      s.applyContinuousRuntimeReport worker { input with document := second } second.payload status
        (some terminal) initialized := by
  rw [applyContinuousRuntimeReport, applyContinuousRuntimeReport,
    currentPayload_of_stale hfence hfirst, currentPayload_of_stale hfence hsecond]
  rfl

/-- A pass over a Spark worker, from the decision on. -/
theorem reconcileSpark_stale (hfence : s.fence = some fence) (hfirst : first.staleFor fence)
    (hsecond : second.staleFor fence) :
    (s.reconcileSpark worker { input with document := first } status container).eraseObserved =
      (s.reconcileSpark worker { input with document := second } status container).eraseObserved := by
  obtain ⟨evidence, hevidence⟩ : ∃ evidence, evidence = s.runtimeEvidence first status container :=
    ⟨_, rfl⟩
  obtain ⟨other, hother⟩ : ∃ other, other = s.runtimeEvidence second status container := ⟨_, rfl⟩
  have hdecision : decideReconciliation evidence = staleDecision evidence := by
    rw [hevidence]
    exact decide_of_stale hfirst.1 (staleReport_of_staleFor hfence hfirst status container)
  have hdecisionOther : decideReconciliation other = staleDecision evidence := by
    rw [hother, decide_of_stale hsecond.1 (staleReport_of_staleFor hfence hsecond status container),
      hevidence]
    rfl
  have hdesired : evidence.desiredState = other.desiredState := by
    rw [hevidence, hother]
    rfl
  have hexpected : evidence.expectedWorkerAttemptId = other.expectedWorkerAttemptId := by
    rw [hevidence, hother]
    rfl
  have hinitialized : evidence.contractInitialized = other.contractInitialized := by
    rw [hevidence, hother]
    rfl
  have hrecorded : s.recordReconciliation (staleDecision evidence) container first =
      s.recordReconciliation (staleDecision evidence) container second := by
    rw [recordReconciliation, recordReconciliation, hfirst.1, hsecond.1]
  rw [reconcileSpark, reconcileSpark]
  simp only [← hevidence, ← hother, hdecision, hdecisionOther, hrecorded]
  obtain ⟨recorded, hrows⟩ : ∃ recorded, recorded =
      s.recordReconciliation (staleDecision evidence) container second := ⟨_, rfl⟩
  have hfence : recorded.fence = some fence := by
    rw [hrows]
    exact hfence
  rw [← hrows, act, act]
  rcases staleDecision_cases evidence with ⟨haction, terminal, hterminal⟩ | haction | haction | haction
  · rw [haction, hterminal]
    simp only
    rw [hinitialized, apply_stale hfence hfirst hsecond]
  · rw [haction]
    simp only
    exact recorded.eraseObserved_wait _ evidence other container hdesired hexpected
  · rw [haction]
  · rw [haction]
    simp only
    exact recorded.eraseObserved_ignore evidence other hexpected

end

end ContinuousJob

/-! ## The pass -/

/-- Two passes over a Spark worker that differ in a stale report leave the same, up to
the attempt that the last error says was observed. -/
theorem stale_reports_do_not_interfere {worker : WorkerGateway} (hworker : worker.Spark)
    {s : ContinuousJob} (hspark : s.job.ingestV2 = false) {fence : Text}
    (hfence : s.fence = some fence) (input : PassInput) {first second : ReportDocument}
    (hfirst : first.staleFor fence) (hsecond : second.staleFor fence) :
    (s.reconcileContinuousRuntime worker { input with document := first }).eraseObserved =
      (s.reconcileContinuousRuntime worker { input with document := second }).eraseObserved := by
  by_cases hmode : s.job.executionMode = "continuous"
  · cases hobserved : (s.observe worker).1 with
    | none =>
        rw [ContinuousJob.reconcile_of_unobserved _ hmode hobserved,
          ContinuousJob.reconcile_of_unobserved _ hmode hobserved]
    | some observed =>
        obtain ⟨status, container⟩ := observed
        have hkept : (s.observe worker).2.fence = some fence :=
          (congrArg Control.fence (s.control_observe worker)).trans hfence
        rw [ContinuousJob.reconcile_of_observe _ hworker hspark hmode hobserved,
          ContinuousJob.reconcile_of_observe _ hworker hspark hmode hobserved]
        exact ContinuousJob.reconcileSpark_stale hkept hfirst hsecond
  · rw [ContinuousJob.reconcileContinuousRuntime, ContinuousJob.reconcileContinuousRuntime,
      if_pos hmode, if_pos hmode]

/-- The last report of an attempt that has been replaced. -/
def earlierReport (consumed : Int) : ReportDocument where
  state := .found
  value := some
    { status := some "failed"
      workerAttemptId := some "start-0"
      consumedCount := some consumed }

theorem earlierReport_stale (consumed : Int) :
    (earlierReport consumed).staleFor ⟨"start-1", by decide, by decide⟩ := by
  have hattempt : optionalString (some "start-0") = some ⟨"start-0", by decide, by decide⟩ := by
    decide
  refine ⟨rfl, ⟨"start-0", by decide, by decide⟩, hattempt, by decide⟩

/-- The runtime that has been started. -/
def startedOrders : ContinuousJob :=
  lifecycleStep obedientRunner ordersRuntime (.command "startContinuous"
    { dispatchWorker := true, requestedAttemptId := firstAttempt })

theorem stale_reports_do_not_interfere_orders :
    (startedOrders.reconcileContinuousRuntime obedientRunner
        (quietPass (earlierReport 7))).eraseObserved =
      (startedOrders.reconcileContinuousRuntime obedientRunner
        (quietPass (earlierReport 9))).eraseObserved :=
  stale_reports_do_not_interfere obedientRunner_spark (by decide +kernel)
    (by decide +kernel : startedOrders.fence = some ⟨"start-1", by decide, by decide⟩)
    (quietPass (earlierReport 7)) (earlierReport_stale 7) (earlierReport_stale 9)

end AskLake.ContinuousRuntime

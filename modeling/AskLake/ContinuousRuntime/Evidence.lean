/-
# `AskLake.ContinuousRuntime.Evidence` — one decision from what is known

What a reconcile pass knows of a runtime is put into one record, the evidence, and
`decideReconciliation` makes one action of it.  In this order:

    a pause or stop is wanted, and the worker is gone     confirm it
    a pause or stop is wanted, and it may be there        wait
    the report is of another attempt                      ignore it, or start again
    the report cannot be read                             record that
    there is a report                                     apply it
    publications are pending                              recover them
    running is wanted, and there is no report             wait, or start again
    otherwise                                             recover what is published

The status that a confirmation writes, `terminalStatus`, is that of the action the
runner was last asked for; only without one is it derived.
-/
import AskLake.Python.Json
import AskLake.ContinuousRuntime.Contract

namespace AskLake.ContinuousRuntime

open AskLake.Python

/-! ## Documents from outside -/

/-- What the runner says of the worker.  Each text is that of a truthy value. -/
structure WorkerStatus where
  worker : Option String := none
  containerState : Option String := none
  requestedAction : Option String := none
  workerAttemptId : Option String := none
  containerId : Option String := none
  containerName : Option String := none
  exitCode : Option Int := none
  error : Option String := none
  storedCount : Option Int := none
  clickhouseOffsets : List Json := []
  publicationRevision : Option Int := none

/-- The worker's report.  A text is that of a truthy value, a number what
`optional_int` reads, and a document is there if it is of its kind. -/
structure Report where
  status : Option String := none
  workerAttemptId : Option String := none
  heartbeatAt : Option String := none
  lastFlushAt : Option String := none
  lastBatchId : Option String := none
  lastError : Option String := none
  ruleContractVersion : Option String := none
  ruleFingerprint : Option String := none
  runtimeFingerprint : Option String := none
  ruleMetrics : Option Json := none
  lastRuleResult : Option Json := none
  lastBatchEvidence : Option Json := none
  lagAvailable : Bool := false
  lag : Option Int := none
  maxPartitionLag : Option Int := none
  laggingPartitionCount : Option Int := none
  partitionProgress : Option Json := none
  lastBatchDurationMs : Option Int := none
  lastBatchInputRows : Option Int := none
  throughputRowsPerSecond : Json := .null
  replayedCount : Option Int := none
  publicationBacklogCount : Option Int := none
  publicationWindowLimit : Option Int := none
  catalogAckBatchId : Option Int := none
  schemaVersion : Option Int := none
  schemaFingerprint : Option String := none
  schemaStatus : Option String := none
  schemaChanges : Option Json := none
  consumedCount : Option Int := none
  storedCount : Option Int := none
  quarantinedCount : Option Int := none
  failedCount : Option Int := none
  publishedBatches : Option (List Json) := none
  lastBatchWritten : Option Bool := none

inductive DocumentState
  | found
  | missing
  | unreadable
  | invalid
  deriving DecidableEq, Repr

def DocumentState.value : DocumentState → String
  | found => "found"
  | missing => "missing"
  | unreadable => "unreadable"
  | invalid => "invalid"

/-- `JsonDocument` -/
structure ReportDocument where
  state : DocumentState
  value : Option Report := none
  error : Option String := none
  line : Option Nat := none
  column : Option Nat := none

/-- `report_document.value or {}` -/
def ReportDocument.payload (document : ReportDocument) : Report := document.value.getD {}

/-! ## `decide_reconciliation` -/

inductive ReconciliationAction
  | applyReport
  | applyTerminalIntent
  | ignoreStaleReport
  | recoverPublication
  | restartWorker
  | waitForTerminalConfirmation
  | waitForReport
  | recordReportError
  deriving DecidableEq, Repr

inductive Certainty
  | confirmed
  | uncertain
  deriving DecidableEq, Repr

structure RuntimeEvidence where
  desiredState : DesiredState
  publicStatus : PublicStatus
  containerState : String
  reportState : DocumentState
  reportStatus : Option Text := none
  expectedWorkerAttemptId : Option Text := none
  observedWorkerAttemptId : Option Text := none
  requestedAction : Option Text := none
  publicationPending : Bool := false
  contractInitialized : Bool := false
  outputPresent : Option Bool := none
  manifestPresent : Option Bool := none
  catalogApplied : Option Bool := none
  dashboardApplied : Option Bool := none
  deriving DecidableEq

structure Decision where
  action : ReconciliationAction
  certainty : Certainty
  reason : String
  terminalStatus : Option PublicStatus := none
  deriving DecidableEq

/-- The container states of a worker that is gone. -/
def goneStates : List String := ["exited", "missing", "not_running"]

/-- The container states of a worker that may be there. -/
def presentStates : List String := ["created", "healthy", "running", "starting", "unknown"]

namespace RuntimeEvidence

/-- The status of the action that the runner was last asked for. -/
def requestedTerminal (evidence : RuntimeEvidence) : Option PublicStatus :=
  evidence.requestedAction.bind fun action =>
    if action.text = "pause" then some .paused
    else if action.text = "stop" then some .stopped
    else none

def terminalIntentIsCurrent (evidence : RuntimeEvidence) : Bool :=
  evidence.desiredState ≠ .running &&
    (evidence.requestedTerminal.isSome ||
      evidence.publicStatus ∈ [PublicStatus.pausing, .paused, .stopping, .stopped])

def terminalStatus (evidence : RuntimeEvidence) : PublicStatus :=
  evidence.requestedTerminal.getD
    (if evidence.publicStatus ∈ [PublicStatus.pausing, .paused] ∨ evidence.desiredState = .paused
      then .paused else .stopped)

/-- The report is of another attempt than the one that is expected. -/
def staleReport (evidence : RuntimeEvidence) : Bool :=
  match evidence.observedWorkerAttemptId, evidence.expectedWorkerAttemptId with
  | some observed, some expected => observed ≠ expected
  | _, _ => false

def pendingStages (evidence : RuntimeEvidence) : List String :=
  (if evidence.manifestPresent = some false then ["manifest"] else []) ++
    (if evidence.catalogApplied = some false then ["catalog"] else []) ++
    if evidence.dashboardApplied = some false then ["dashboard"] else []

end RuntimeEvidence

/-- The decision once no pause or stop is wanted that the worker's state bears on. -/
def decideFromReport (evidence : RuntimeEvidence) : Decision :=
  if evidence.staleReport then
    if evidence.desiredState = .running ∧ evidence.contractInitialized = true ∧
        evidence.containerState ∈ ["exited", "missing", "unknown"] then
      { action := .restartWorker
        certainty := .confirmed
        reason := "stale worker is terminal; submit the durable current start intent" }
    else
      { action := .ignoreStaleReport
        certainty := .confirmed
        reason := "report belongs to an older worker attempt" }
  else
    match evidence.reportState with
    | .invalid | .unreadable =>
        { action := .recordReportError
          certainty := .confirmed
          reason := "runtime report is " ++ evidence.reportState.value }
    | .found =>
        { action := .applyReport
          certainty := .confirmed
          reason :=
            if evidence.pendingStages = [] then "current worker report is available"
            else "current worker report has pending stages: " ++
              ", ".intercalate evidence.pendingStages }
    | .missing =>
        if evidence.publicationPending then
          { action := .recoverPublication
            certainty := .confirmed
            reason := "durable publication still needs reconciliation" }
        else if evidence.desiredState = .running ∧ evidence.contractInitialized = true ∧
            evidence.containerState ∈ ["running", "starting", "created", "healthy"] then
          { action := .waitForReport
            certainty := .uncertain
            reason := "worker is active but has not published its first report" }
        else if evidence.desiredState = .running ∧ evidence.contractInitialized = true ∧
            evidence.containerState ∈ ["exited", "missing"] then
          { action := .restartWorker
            certainty := .uncertain
            reason := "desired state is running but the deterministic worker is absent" }
        else
          { action := .recoverPublication
            certainty := .uncertain
            reason := "no current report; recover durable manifests without guessing success" }

def decideReconciliation (evidence : RuntimeEvidence) : Decision :=
  if evidence.terminalIntentIsCurrent = true ∧ evidence.containerState ∈ goneStates then
    if evidence.reportState = .found then
      { action := .applyReport
        certainty := .confirmed
        reason := "apply the final report while preserving the durable terminal command"
        terminalStatus := some evidence.terminalStatus }
    else
      { action := .applyTerminalIntent
        certainty := .confirmed
        reason := "terminal command is durable and the worker is no longer active"
        terminalStatus := some evidence.terminalStatus }
  else if evidence.terminalIntentIsCurrent = true ∧ evidence.containerState ∈ presentStates then
    { action := .waitForTerminalConfirmation
      certainty := .uncertain
      reason := "terminal command is durable but authoritative worker termination is not confirmed"
      terminalStatus := some evidence.terminalStatus }
  else decideFromReport evidence

/-! ## What the decisions say -/

/-- What an action says of the evidence, where no pause or stop is decided. -/
def ReconciliationAction.warranted (evidence : RuntimeEvidence) : ReconciliationAction → Prop
  | .applyTerminalIntent | .waitForTerminalConfirmation => False
  | .restartWorker | .waitForReport =>
      evidence.desiredState = .running ∧ evidence.contractInitialized = true
  | .applyReport => evidence.staleReport = false ∧ evidence.reportState = .found
  | .ignoreStaleReport | .recordReportError | .recoverPublication => True

section
variable {evidence : RuntimeEvidence}

theorem terminalStatus_decideFromReport : (decideFromReport evidence).terminalStatus = none := by
  rw [decideFromReport]
  split
  · split <;> rfl
  · split
    · rfl
    · rfl
    · rfl
    · split
      · rfl
      · split
        · rfl
        · split <;> rfl

/-- What is done without a pause or stop: a worker is started, or waited for, only if
running is wanted, and only a report that is not stale is applied. -/
theorem warranted_decideFromReport : (decideFromReport evidence).action.warranted evidence := by
  rw [decideFromReport]
  split
  · split
    · rename_i hrunning
      exact ⟨hrunning.1, hrunning.2.1⟩
    · trivial
  · rename_i hfresh
    split
    · trivial
    · trivial
    · rename_i hfound
      exact ⟨Bool.eq_false_iff.mpr hfresh, hfound⟩
    · split
      · trivial
      · split
        · rename_i hrunning
          exact ⟨hrunning.1, hrunning.2.1⟩
        · split
          · rename_i hrunning
            exact ⟨hrunning.1, hrunning.2.1⟩
          · trivial

theorem decide_of_gone (hcurrent : evidence.terminalIntentIsCurrent = true)
    (hgone : evidence.containerState ∈ goneStates) :
    (decideReconciliation evidence).terminalStatus = some evidence.terminalStatus ∧
      ((decideReconciliation evidence).action = .applyReport ∨
        (decideReconciliation evidence).action = .applyTerminalIntent) := by
  rw [decideReconciliation, if_pos ⟨hcurrent, hgone⟩]
  split
  · exact ⟨rfl, Or.inl rfl⟩
  · exact ⟨rfl, Or.inr rfl⟩

theorem decide_of_present (hcurrent : evidence.terminalIntentIsCurrent = true)
    (hgone : evidence.containerState ∉ goneStates)
    (hpresent : evidence.containerState ∈ presentStates) :
    (decideReconciliation evidence).terminalStatus = some evidence.terminalStatus ∧
      (decideReconciliation evidence).action = .waitForTerminalConfirmation := by
  rw [decideReconciliation, if_neg fun h => hgone h.2, if_pos ⟨hcurrent, hpresent⟩]
  exact ⟨rfl, rfl⟩

theorem decide_of_neither (h : evidence.terminalIntentIsCurrent = true →
      evidence.containerState ∉ goneStates ∧ evidence.containerState ∉ presentStates) :
    decideReconciliation evidence = decideFromReport evidence := by
  rw [decideReconciliation, if_neg fun hgone => (h hgone.1).1 hgone.2,
    if_neg fun hpresent => (h hpresent.1).2 hpresent.2]

theorem terminalStatus_cases :
    evidence.terminalStatus = .paused ∨ evidence.terminalStatus = .stopped := by
  rw [RuntimeEvidence.terminalStatus]
  cases hrequested : evidence.requestedTerminal with
  | none =>
      rw [Option.getD_none]
      split
      · exact Or.inl rfl
      · exact Or.inr rfl
  | some requested =>
      obtain ⟨action, -, haction⟩ := Option.bind_eq_some_iff.mp hrequested
      rw [Option.getD_some]
      split at haction
      · exact Or.inl (Option.some.inj haction).symm
      · split at haction
        · exact Or.inr (Option.some.inj haction).symm
        · exact nomatch haction

end

end AskLake.ContinuousRuntime

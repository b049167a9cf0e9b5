/-
# `AskLake.ContinuousRuntime.Contract` — what is wanted, what is seen, and the fence

A Kafka Continuous runtime keeps a contract in its metrics:

    desiredState            what the last command asked for
    observedState           what the worker was last seen to do
    stateRevision           the number of commands
    activeWorkerAttemptId   the fence: a report of another attempt is stale

and a public status, which is derived from what is wanted and what is seen.  A
command writes the first and the third; everything else only observes, binds the
fence, or leaves an error.
-/
import AskLake.Python.Basic

namespace AskLake.ContinuousRuntime

open AskLake.Python

/-! ## States -/

inductive DesiredState
  | running
  | paused
  | stopped
  deriving DecidableEq, Repr

inductive ObservedState
  | unknown
  | starting
  | running
  | stopping
  | stopped
  | failed
  deriving DecidableEq, Repr

inductive PublicStatus
  | starting
  | running
  | pausing
  | paused
  | stopping
  | stopped
  | failed
  deriving DecidableEq, Repr

def PublicStatus.value : PublicStatus → String
  | starting => "starting"
  | running => "running"
  | pausing => "pausing"
  | paused => "paused"
  | stopping => "stopping"
  | stopped => "stopped"
  | failed => "failed"

def PublicStatus.all : List PublicStatus :=
  [starting, running, pausing, paused, stopping, stopped, failed]

/-- `ContinuousPublicStatus(text)` -/
def PublicStatus.ofValue? (text : String) : Option PublicStatus :=
  PublicStatus.all.find? fun status => status.value = text

/-- `ACTIVE_PUBLIC_STATUSES` -/
def PublicStatus.active : PublicStatus → Bool
  | starting | running | pausing | stopping => true
  | paused | stopped | failed => false

inductive ErrorStage
  | submission
  | execution
  | report
  | materialization
  | catalog
  | dashboardPublication
  | reconciliation
  deriving DecidableEq, Repr

/-- The context of an error: the keys that are there. -/
structure ErrorContext where
  jobId : String
  command : Option String := none
  desiredState : Option DesiredState := none
  expectedWorkerAttemptId : Option Text := none
  observedWorkerAttemptId : Option Text := none
  workerAttemptId : Option Text := none
  failureIdentity : Option String := none
  line : Option Nat := none
  column : Option Nat := none
  deriving DecidableEq

/-- An error, but for its diagnostic id, which is new each time. -/
structure RuntimeError where
  stage : ErrorStage
  code : String
  message : String
  retryable : Bool
  context : ErrorContext
  deriving DecidableEq

/-! ## Commands -/

inductive Command
  | startContinuous
  | pauseContinuous
  | resumeContinuous
  | stopContinuous
  deriving DecidableEq, Repr

def Command.name : Command → String
  | startContinuous => "startContinuous"
  | pauseContinuous => "pauseContinuous"
  | resumeContinuous => "resumeContinuous"
  | stopContinuous => "stopContinuous"

def Command.all : List Command :=
  [startContinuous, pauseContinuous, resumeContinuous, stopContinuous]

def Command.ofName? (name : String) : Option Command :=
  Command.all.find? fun command => command.name = name

inductive Rejection
  | alreadyActive
  | invalidState
  deriving DecidableEq, Repr

structure CommandTransition where
  command : Command
  currentStatus : PublicStatus
  allowed : Bool
  desiredState : DesiredState
  nextStatus : PublicStatus
  rejection : Option Rejection
  deriving DecidableEq

/-- `command_transition`, for the commands there are. -/
def commandTransition (current : PublicStatus) (command : Command) : CommandTransition :=
  match command with
  | .startContinuous | .resumeContinuous =>
      let allowed := current ∈ [PublicStatus.paused, .stopped, .failed]
      { command
        currentStatus := current
        allowed
        desiredState := .running
        nextStatus := .starting
        rejection :=
          if allowed then none
          else if current.active then some .alreadyActive
          else some .invalidState }
  | .pauseContinuous =>
      let allowed := current ∈ [PublicStatus.starting, .running]
      { command
        currentStatus := current
        allowed
        desiredState := .paused
        nextStatus := .pausing
        rejection := if allowed then none else some .invalidState }
  | .stopContinuous =>
      let allowed := current ∈ [PublicStatus.starting, .running, .pausing, .paused, .failed]
      { command
        currentStatus := current
        allowed
        desiredState := .stopped
        nextStatus := .stopping
        rejection := if allowed then none else some .invalidState }

/-! ## Deriving states from each other -/

/-- `derive_public_status` -/
def derivePublicStatus (desired : DesiredState) (observed : ObservedState) : PublicStatus :=
  if observed = .failed then .failed
  else
    match desired with
    | .running => if observed = .running then .running else .starting
    | .paused => if observed = .stopped then .paused else .pausing
    | .stopped => if observed = .stopped then .stopped else .stopping

/-- `observed_state_from_evidence` of a public status, which decides before the
container is looked at. -/
def observedStateFromEvidence : PublicStatus → ObservedState
  | .failed => .failed
  | .starting => .starting
  | .running | .pausing => .running
  | .stopping => .stopping
  | .paused | .stopped => .stopped

/-- `desired_state_from_public_status` -/
def desiredStateFromPublicStatus : PublicStatus → DesiredState
  | .starting | .running => .running
  | .pausing | .paused => .paused
  | .stopping | .stopped | .failed => .stopped

/-! ## The contract in the metrics -/

/-- `runtimeContract`, but for its version: whatever writes a contract writes the one
version there is. -/
structure Contract where
  desiredState : Option DesiredState
  observedState : Option ObservedState
  stateRevision : Nat
  activeWorkerAttemptId : Option Text
  lastCommand : Option Command
  lastError : Option RuntimeError

/-- A runtime without a contract. -/
def Contract.empty : Contract := ⟨none, none, 0, none, none, none⟩

/-- The two places of the metrics that the contract functions read and write. -/
structure ContractMetrics where
  runtimeContract : Contract
  currentWorkerAttemptId : Option Text

namespace ContractMetrics

/-- `_fencing_token` -/
def fencingToken (metrics : ContractMetrics) : Option Text :=
  metrics.runtimeContract.activeWorkerAttemptId.or metrics.currentWorkerAttemptId

/-- `runtime_contract_initialized` -/
def initialized (metrics : ContractMetrics) : Bool :=
  metrics.runtimeContract.desiredState.isSome

/-- `runtime_contract_projection(…)["desiredState"]` -/
def desiredState (metrics : ContractMetrics) (status : PublicStatus) : DesiredState :=
  metrics.runtimeContract.desiredState.getD (desiredStateFromPublicStatus status)

/-- The fence in both places, if there is one. -/
def withFence (metrics : ContractMetrics) (contract : Contract) (token : Option Text) :
    ContractMetrics :=
  match token with
  | some token =>
      { runtimeContract := { contract with activeWorkerAttemptId := some token }
        currentWorkerAttemptId := some token }
  | none => { metrics with runtimeContract := contract }

/-- `record_runtime_command`, of a transition that is allowed. -/
def recordRuntimeCommand (metrics : ContractMetrics) (transition : CommandTransition)
    (workerAttemptId : Option Text) : ContractMetrics :=
  let previous := metrics.runtimeContract
  metrics.withFence
    { previous with
      desiredState := some transition.desiredState
      observedState := some (previous.observedState.getD
        (observedStateFromEvidence transition.currentStatus))
      stateRevision := previous.stateRevision + 1
      lastCommand := some transition.command
      lastError := none }
    (workerAttemptId.or metrics.fencingToken)

/-- `bind_worker_attempt` -/
def bindWorkerAttempt (metrics : ContractMetrics) (workerAttemptId : Option Text) :
    ContractMetrics :=
  match workerAttemptId with
  | none => metrics
  | some token =>
      metrics.withFence metrics.runtimeContract (some token)

/-- `record_runtime_observation` -/
def recordRuntimeObservation (metrics : ContractMetrics) (observed : ObservedState)
    (defaultPublicStatus : PublicStatus) (workerAttemptId : Option Text) : ContractMetrics :=
  let previous := metrics.runtimeContract
  metrics.withFence
    { previous with
      desiredState := some (previous.desiredState.getD
        (desiredStateFromPublicStatus defaultPublicStatus))
      observedState := some observed }
    (workerAttemptId.or metrics.fencingToken)

/-- `record_runtime_error` -/
def recordRuntimeError (metrics : ContractMetrics) (error : RuntimeError) : ContractMetrics :=
  { metrics with
    runtimeContract :=
      { metrics.runtimeContract with
          lastError := some error } }

/-- `clear_runtime_error` -/
def clearRuntimeError (metrics : ContractMetrics) : ContractMetrics :=
  { metrics with
    runtimeContract :=
      { metrics.runtimeContract with
          lastError := none } }

/-- `observation_is_current`: two attempts that are both there, and differ, are not. -/
def observationIsCurrent (metrics : ContractMetrics) (workerAttemptId : Option Text) : Bool :=
  match metrics.fencingToken, workerAttemptId with
  | some expected, some observed => expected = observed
  | _, _ => true

/-! ## What the contract functions leave alone -/

section
variable (metrics : ContractMetrics) (contract : Contract) (token : Option Text)
  (observed : ObservedState) (status : PublicStatus) (error : RuntimeError)

@[simp] theorem desiredState_withFence :
    (metrics.withFence contract token).runtimeContract.desiredState = contract.desiredState := by
  cases token <;> rfl

@[simp] theorem stateRevision_withFence :
    (metrics.withFence contract token).runtimeContract.stateRevision = contract.stateRevision := by
  cases token <;> rfl

theorem fencingToken_withFence :
    (metrics.withFence contract token).fencingToken =
      token.or (contract.activeWorkerAttemptId.or metrics.currentWorkerAttemptId) := by
  cases token <;> rfl

/-- A bound attempt is the fence. -/
theorem fencingToken_bind :
    (metrics.bindWorkerAttempt token).fencingToken = token.or metrics.fencingToken := by
  cases token with
  | none => rfl
  | some token => rfl

@[simp] theorem desiredState_bind :
    (metrics.bindWorkerAttempt token).runtimeContract.desiredState =
      metrics.runtimeContract.desiredState := by
  cases token <;> rfl

@[simp] theorem stateRevision_bind :
    (metrics.bindWorkerAttempt token).runtimeContract.stateRevision =
      metrics.runtimeContract.stateRevision := by
  cases token <;> rfl

/-- An observation of an attempt binds it. -/
theorem fencingToken_observation :
    (metrics.recordRuntimeObservation observed status token).fencingToken =
      token.or metrics.fencingToken := by
  rw [recordRuntimeObservation, fencingToken_withFence]
  show (token.or metrics.fencingToken).or metrics.fencingToken = _
  cases token with
  | none => exact Option.or_self
  | some token => rfl

theorem desiredState_observation :
    (metrics.recordRuntimeObservation observed status token).runtimeContract.desiredState =
      some (metrics.desiredState status) :=
  desiredState_withFence _ _ _

@[simp] theorem stateRevision_observation :
    (metrics.recordRuntimeObservation observed status token).runtimeContract.stateRevision =
      metrics.runtimeContract.stateRevision :=
  stateRevision_withFence _ _ _

/-- The fence of a command is the one it brings. -/
theorem fencingToken_command (transition : CommandTransition) :
    (metrics.recordRuntimeCommand transition token).fencingToken =
      token.or metrics.fencingToken := by
  rw [recordRuntimeCommand, fencingToken_withFence]
  show (token.or metrics.fencingToken).or metrics.fencingToken = _
  cases token with
  | none => exact Option.or_self
  | some token => rfl

theorem desiredState_command (transition : CommandTransition) :
    (metrics.recordRuntimeCommand transition token).runtimeContract.desiredState =
      some transition.desiredState :=
  desiredState_withFence _ _ _

theorem stateRevision_command (transition : CommandTransition) :
    (metrics.recordRuntimeCommand transition token).runtimeContract.stateRevision =
      metrics.runtimeContract.stateRevision + 1 :=
  stateRevision_withFence _ _ _

end

end ContractMetrics

end AskLake.ContinuousRuntime

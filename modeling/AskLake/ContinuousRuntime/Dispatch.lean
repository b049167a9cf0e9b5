/-
# `AskLake.ContinuousRuntime.Dispatch` — a command between its commit and its answer

A command is committed before its worker is called, and from then on nothing of the
runtime is locked: passes and other commands come in between, and the answer is written
on the rows as they are by then.

    reserve     what is wanted is written down
    answer      the worker is called, and its answer is written

A command that nothing comes between is `executeContinuousCommand`.
-/
import AskLake.ContinuousRuntime.Moves

namespace AskLake.ContinuousRuntime

open AskLake.Python

/-! ## The two halves of a command -/

/-- A start or a resume. -/
def Command.isStart (command : Command) : Bool :=
  command = .startContinuous || command = .resumeContinuous

theorem Command.isStart_iff {command : Command} :
    command.isStart = true ↔ command = .startContinuous ∨ command = .resumeContinuous := by
  cases command <;> simp [isStart]

/-- The worker's action of a pause or stop. -/
def Command.terminalAction (command : Command) : WorkerAction :=
  if command = .pauseContinuous then .pause else .stop

theorem Command.terminalAction_ne_start (command : Command) : command.terminalAction ≠ .start := by
  rw [terminalAction]
  split <;> decide

namespace ContinuousJob

/-- The committed intent of a command that is accepted. -/
def reserve (s : ContinuousJob) (command : Command) (input : CommandInput) : ContinuousJob :=
  if command = .startContinuous ∨ command = .resumeContinuous then s.reserveStart command input
  else s.reserveTerminal command

/-- The worker is called for a start, and its answer is written. -/
def answerStart (worker : WorkerGateway) (s : ContinuousJob) (command : Command)
    (input : CommandInput) : ContinuousJob :=
  match (s.dispatchStart worker input).1 with
  | .error error => (s.dispatchStart worker input).2.recordStartFailure command error input.now
  | .ok result => (s.dispatchStart worker input).2.bindStart result input

/-- The worker is called for a pause or stop, and its answer is written. -/
def answerTerminal (worker : WorkerGateway) (s : ContinuousJob) (command : Command)
    (input : CommandInput) : ContinuousJob :=
  let called := s.dispatchTerminal worker command command.terminalAction input
  match called.1 with
  | .error _ => called.2
  | .ok _ => called.2.withContract
      (called.2.runtime.metrics.recordRuntimeObservation .stopping called.2.runtime.status none)

/-- The worker is called for a command that is committed. -/
def answer (worker : WorkerGateway) (s : ContinuousJob) (command : Command) (input : CommandInput) :
    ContinuousJob :=
  if command = .startContinuous ∨ command = .resumeContinuous then
    s.answerStart worker command input
  else s.answerTerminal worker command input

section
variable (worker : WorkerGateway) (s : ContinuousJob) (command : Command) (input : CommandInput)

theorem startCommand_eq :
    (s.startCommand worker command input).2 =
      if s.startError command input = none then
        (s.reserveStart command input).answerStart worker command input
      else s := by
  rw [startCommand]
  cases herror : s.startError command input with
  | some error => rfl
  | none =>
      rw [if_pos rfl, answerStart]
      simp only
      cases hresult : ((s.reserveStart command input).dispatchStart worker input).1 with
      | error error => rfl
      | ok result => rfl

theorem terminalCommand_eq :
    (s.terminalCommand worker command input).2 =
      if (commandTransition s.runtime.status command).allowed = true then
        (s.reserveTerminal command).answerTerminal worker command input
      else s := by
  rw [terminalCommand]
  simp only
  cases herror : s.transitionError (commandTransition s.runtime.status command)
      (if command = .pauseContinuous then WorkerAction.pause else .stop).name with
  | some error =>
      have hnot : ¬ (commandTransition s.runtime.status command).allowed = true := fun hallowed => by
        rw [(s.transitionError_eq_none _ _).mpr hallowed] at herror
        cases herror
      rw [if_neg hnot]
  | none =>
      rw [if_pos ((s.transitionError_eq_none _ _).mp herror), answerTerminal]
      simp only [Command.terminalAction]
      cases hresult : ((s.reserveTerminal command).dispatchTerminal worker command
          (if command = .pauseContinuous then WorkerAction.pause else .stop) input).1 with
      | error error => rfl
      | ok result => rfl

/-- A command is its two halves, with nothing in between. -/
theorem executeContinuousCommand_eq (name : String) :
    (s.executeContinuousCommand worker name input).2 =
      (s.accepted name input).elim s fun command =>
        (s.reserve command input).answer worker command input := by
  rw [executeContinuousCommand, accepted]
  cases hname : Command.ofName? name with
  | none => rfl
  | some command =>
      simp only [Option.filter_some]
      by_cases hforeign : s.job.executionMode ≠ "continuous" ∨ s.job.isKafka = false
      · rw [if_pos hforeign, if_neg]
        · rfl
        · intro hallowed
          obtain ⟨hmode, hkafka, -⟩ := of_decide_eq_true hallowed
          rcases hforeign with hforeign | hforeign
          · exact hforeign hmode
          · rw [hkafka] at hforeign
            cases hforeign
      · rw [if_neg hforeign]
        obtain ⟨hmode, hkafka⟩ := not_or.mp hforeign
        have hmode : s.job.executionMode = "continuous" := not_not.mp hmode
        have hkafka : s.job.isKafka = true := Bool.of_not_eq_false hkafka
        by_cases halready : s.alreadyStopping command = true
        · rw [if_pos halready, if_neg]
          · rfl
          · intro hallowed
            have hnot := (of_decide_eq_true hallowed).2.2.1
            rw [halready] at hnot
            cases hnot
        · rw [if_neg halready]
          have hnotYet : s.alreadyStopping command = false := Bool.eq_false_iff.mpr halready
          simp only [hmode, hkafka, hnotYet, true_and, decide_eq_true_eq]
          by_cases hstart : command = .startContinuous ∨ command = .resumeContinuous
          · simp only [if_pos hstart, startCommand_eq]
            split <;> simp [reserve, answer, hstart]
          · simp only [if_neg hstart, terminalCommand_eq]
            split <;> simp [reserve, answer, hstart]

/-! ## What they do to the control state -/

theorem control_reserve :
    (s.reserve command input).control =
      s.control.commanded (commandTransition s.runtime.status command)
        (if command = .startContinuous ∨ command = .resumeContinuous then
          some input.requestedAttemptId else none) := by
  rw [reserve]
  split
  · exact s.control_reserveStart command input
  · exact s.control_reserveTerminal command

/-- The answer of a pause or stop writes no control state. -/
theorem control_answerTerminal {desired : DesiredState} (h : s.control.desired = some desired) :
    (s.answerTerminal worker command input).control = s.control := by
  have hcalled := s.control_dispatchTerminal worker command input command.terminalAction_ne_start
  obtain ⟨called, hcall⟩ : ∃ called, called =
      s.dispatchTerminal worker command command.terminalAction input := ⟨_, rfl⟩
  rw [answerTerminal]
  simp only [← hcall]
  rw [← hcall] at hcalled
  cases called.1 with
  | error error => exact hcalled
  | ok result =>
      have hobserved := called.2.control_observation .stopping called.2.runtime.status none
      rw [hcalled, Control.settle_of_some h] at hobserved
      have hkept : called.2.runtime.status = s.control.status := congrArg Control.status hcalled
      have hstatus : ((called.2.withContract (called.2.runtime.metrics.recordRuntimeObservation
          .stopping called.2.runtime.status none)).withStatus called.2.runtime.status).control =
            (called.2.withContract (called.2.runtime.metrics.recordRuntimeObservation
              .stopping called.2.runtime.status none)).control := rfl
      rw [← hstatus, hobserved, hkept]
      rfl

/-- The answer of a start leaves the status, or fails the runtime. -/
theorem control_answerStart {desired : DesiredState} (h : s.control.desired = some desired) :
    ∃ fence, (s.answerStart worker command input).control =
        { (if input.dispatchWorker then s.control.start else s.control) with fence } ∨
      (s.answerStart worker command input).control =
        { (if input.dispatchWorker then s.control.start else s.control) with status := .failed } := by
  have hcalled := s.control_dispatchStart worker input
  have hdesired : (s.dispatchStart worker input).2.control.desired = some desired := by
    rw [hcalled]
    split <;> exact h
  rw [answerStart]
  cases (s.dispatchStart worker input).1 with
  | error error =>
      refine ⟨none, Or.inr ?_⟩
      simp only
      rw [control_recordStartFailure, Control.settle_of_some hdesired, hcalled]
  | ok result =>
      refine ⟨some (result.attempt.getD input.requestedAttemptId), Or.inl ?_⟩
      simp only
      rw [control_bindStart input hdesired, hcalled]

/-- No answer activates a runtime, changes what is wanted of it, or who it is. -/
structure Answered (c next : Control) : Prop where
  status : next.status = c.status ∨ next.status = .failed
  desired : next.desired = c.desired
  identity : next.identity = c.identity
  ingestV2 : next.ingestV2 = c.ingestV2

theorem answered {desired : DesiredState} (h : s.control.desired = some desired) :
    Answered s.control (s.answer worker command input).control := by
  rw [answer]
  split
  · obtain ⟨fence, hkept | hfailed⟩ := s.control_answerStart worker command input h
    · rw [hkept]
      split <;> exact ⟨Or.inl rfl, rfl, rfl, rfl⟩
    · rw [hfailed]
      split <;> exact ⟨Or.inr rfl, rfl, rfl, rfl⟩
  · rw [s.control_answerTerminal worker command input h]
    exact ⟨Or.inl rfl, rfl, rfl, rfl⟩

end

end ContinuousJob

/-! ## A job with commands on their way -/

/-- A command that is committed, and whose worker is still to be called. -/
structure PendingCommand where
  command : Command
  input : CommandInput

/-- The rows of a job, and its commands on their way. -/
structure OpenJob where
  rows : ContinuousJob
  pending : List PendingCommand

namespace OpenJob

def control (t : OpenJob) : Control := t.rows.control

/-- A command is committed. -/
def reserve (t : OpenJob) (command : Command) (input : CommandInput) : OpenJob where
  rows := t.rows.reserve command input
  pending := t.pending ++ [⟨command, input⟩]

/-- The worker is called for the `k`-th command on its way. -/
def answer (worker : WorkerGateway) (t : OpenJob) (k : Nat) : OpenJob :=
  match t.pending[k]? with
  | none => t
  | some sent =>
      { rows := t.rows.answer worker sent.command sent.input
        pending := t.pending.eraseIdx k }

def reconcile (worker : WorkerGateway) (t : OpenJob) (input : PassInput) : OpenJob :=
  { t with rows := t.rows.reconcileContinuousRuntime worker input }

end OpenJob

end AskLake.ContinuousRuntime

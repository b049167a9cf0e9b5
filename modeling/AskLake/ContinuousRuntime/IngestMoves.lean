/-
# `AskLake.ContinuousRuntime.IngestMoves` — a pass over a Kafka Connect worker

The pass takes the state of the connector for that of the runtime, and asks what is
wanted of it nowhere:

    ended          the connector is gone, and a pause or stop was asked of it, or is
                   what the runtime shows
    restarted      it is gone, and the runtime shows as starting or running
    active         it is there: so is the runtime
    statusFailed   its state could not be had
    kept           none of these
-/
import AskLake.ContinuousRuntime.Moves

namespace AskLake.ContinuousRuntime

open AskLake.Python

/-- The states of a connector that is there. -/
def activeContainers : List String := ["running", "starting", "created", "healthy"]

/-- The status that a connector which is there gives the runtime. -/
def activeStatus (container : String) : PublicStatus :=
  if container ∈ ["running", "healthy"] then .running else .starting

/-- The pause or stop that a connector which is gone is taken for. -/
def endedStatus (current : PublicStatus) (status : WorkerStatus) : PublicStatus :=
  if current = .pausing ∨ ContinuousJob.endingAction status = some "pause" then .paused else .stopped

theorem endedStatus_inactive (current : PublicStatus) (status : WorkerStatus) :
    (endedStatus current status).active = false := by
  rw [endedStatus]
  split <;> rfl

/-- The moves of a pass over a Kafka Connect worker. -/
inductive IngestMove (status : WorkerStatus) (container : String)
    (answer : Except ApiError WorkerStatus) (c : Control) : Control → Prop
  | ended (hgone : container ∈ ["exited", "missing"])
      (hended : c.status ∈ [PublicStatus.pausing, .stopping] ∨
        (ContinuousJob.endingAction status).isSome = true) :
      IngestMove status container answer c (c.settle (endedStatus c.status status))
  | restarted (hgone : container ∈ ["exited", "missing"])
      (hquiet : ContinuousJob.endingAction status = none)
      (hup : c.status ∈ [PublicStatus.starting, .running]) (result : WorkerStatus)
      (hanswer : answer = .ok result) :
      IngestMove status container answer c
        { c.start.settle .starting with fence := result.attempt.or c.fence }
  | restartFailed (hgone : container ∈ ["exited", "missing"])
      (hquiet : ContinuousJob.endingAction status = none)
      (hup : c.status ∈ [PublicStatus.starting, .running]) (error : ApiError)
      (hanswer : answer = .error error) :
      IngestMove status container answer c (c.start.settle .failed)
  | active (hactive : container ∈ activeContainers) :
      IngestMove status container answer c
        { c.settle (activeStatus container) with
          fence := (optionalString status.workerAttemptId).or c.fence }
  | statusFailed
      (hquiet : container ∈ ["exited", "missing"] → ContinuousJob.endingAction status = none)
      (hinactive : container ∉ activeContainers) (message : Text)
      (hmessage : optionalString status.error = some message) :
      IngestMove status container answer c { c with status := .failed }
  | kept (hquiet : container ∈ ["exited", "missing"] → ContinuousJob.endingAction status = none)
      (hinactive : container ∉ activeContainers) (hmessage : optionalString status.error = none) :
      IngestMove status container answer c c

namespace ContinuousJob

section
variable (worker : WorkerGateway) (s : ContinuousJob) (input : PassInput) (status : WorkerStatus)
  (container : String)

theorem control_applyIngestTerminal (terminalStatus : PublicStatus) :
    (s.applyIngestTerminal terminalStatus input).control = s.control.settle terminalStatus := by
  have hobserved := control_observation
    (s.withContract s.runtime.metrics.clearRuntimeError) (observedStateFromEvidence terminalStatus)
    terminalStatus none
  rw [applyIngestTerminal]
  simp only [control_syncSession]
  split <;> exact hobserved

theorem control_ingestStatusFailed (message : Text) :
    (s.ingestStatusFailed message input).control = { s.control with status := .failed } := by
  rw [ingestStatusFailed]
  simp only [control_syncSession]
  rfl

theorem control_ingestActive :
    (s.ingestActive status container input).control =
      { s.control.settle (activeStatus container) with
        fence := (optionalString status.workerAttemptId).or s.control.fence } := by
  have hobserved := control_observation
    (s.withContract s.runtime.metrics.clearRuntimeError)
    (observedStateFromEvidence (activeStatus container)) (activeStatus container)
    (optionalString status.workerAttemptId)
  have hstatus : (if container ∈ ["running", "healthy"] then PublicStatus.running else .starting) =
      activeStatus container := rfl
  rw [ingestActive]
  simp only [hstatus, control_syncSession]
  split
  · exact hobserved
  · split <;> exact hobserved

/-- A pass over a Kafka Connect worker makes one of the moves. -/
theorem move_reconcileIngest :
    IngestMove status container (worker s.calls.length .start) s.control
      (s.reconcileClickhouseKafkaIngestV2 worker input status container).control := by
  rw [reconcileClickhouseKafkaIngestV2]
  split
  · rename_i hended
    rw [control_applyIngestTerminal]
    exact .ended hended.1 hended.2
  · rename_i hnot
    have hquiet : container ∈ ["exited", "missing"] → endingAction status = none := fun hgone => by
      cases hending : endingAction status with
      | none => rfl
      | some action => exact absurd ⟨hgone, Or.inr (by rw [hending]; rfl)⟩ hnot
    split
    · rename_i hgone
      cases hanswer : worker s.calls.length .start with
      | error error =>
          rw [control_restartMissingWorker_error s worker hanswer]
          exact .restartFailed hgone.1 (hquiet hgone.1) hgone.2 error rfl
      | ok result =>
          rw [control_restartMissingWorker s worker hanswer]
          exact .restarted hgone.1 (hquiet hgone.1) hgone.2 result rfl
    · split
      · rename_i hactive
        rw [control_ingestActive]
        exact .active hactive
      · rename_i hinactive
        cases hmessage : optionalString status.error with
        | some message =>
            simp only
            rw [control_ingestStatusFailed]
            exact .statusFailed hquiet hinactive message hmessage
        | none => exact .kept hquiet hinactive hmessage

/-! ## The whole pass -/

variable {s} {worker} {status} {container}

/-- A pass that goes on. -/
theorem reconcile_of_observed (hmode : s.job.executionMode = "continuous")
    (h : (s.observe worker).1 = some (status, container)) :
    s.reconcileContinuousRuntime worker input =
      if status.worker = some "kafka_connect_clickhouse_v2" then
        (s.observe worker).2.reconcileClickhouseKafkaIngestV2 worker input status container
      else (s.observe worker).2.reconcileSpark worker input status container := by
  obtain ⟨observed, hobserved⟩ : ∃ observed, observed = s.observe worker := ⟨_, rfl⟩
  rw [← hobserved] at h ⊢
  obtain ⟨first, rows⟩ := observed
  obtain rfl : first = some (status, container) := h
  rw [reconcileContinuousRuntime, if_neg (not_not_intro hmode)]
  rw [observe] at hobserved
  simp only [← hobserved]

/-- What a pass over a Kafka Connect worker does to the control state. -/
theorem move_reconcile_connect (hmode : s.job.executionMode = "continuous")
    (h : (s.observe worker).1 = some (status, container))
    (hconnect : status.worker = some "kafka_connect_clickhouse_v2") :
    IngestMove status container (worker (s.observe worker).2.calls.length .start) s.control
      (s.reconcileContinuousRuntime worker input).control := by
  have hmove := move_reconcileIngest worker (s.observe worker).2 input status container
  rw [control_observe] at hmove
  rw [reconcile_of_observed input hmode h, if_pos hconnect]
  exact hmove

end

end ContinuousJob

end AskLake.ContinuousRuntime

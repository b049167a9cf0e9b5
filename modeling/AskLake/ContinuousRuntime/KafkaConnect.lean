/-
# `AskLake.ContinuousRuntime.KafkaConnect` — the gateway of the Kafka Connect worker

The worker of a V2 job is a connector, and each action is a few requests to it:

    start                    register and resume it, then as `status`
    status                   probe it: where it is not registered, register and resume
                             it; where it has failed, restart it
    pause, stop, terminate   pause it, if it is registered and not paused

What is outside answers each of them as it likes.  A call is kept with the requests that
the connector has served.
-/
import AskLake.ContinuousRuntime.IngestMoves

namespace AskLake.ContinuousRuntime

open AskLake.Python

structure ConnectorProbe where
  workerReady : Bool
  registered : Bool
  connectorState : String
  taskStates : List String

/-- `ConnectorProbe.ready` -/
def ConnectorProbe.ready (probe : ConnectorProbe) : Bool :=
  probe.workerReady && probe.registered && probe.connectorState = "RUNNING" &&
    !probe.taskStates.isEmpty && probe.taskStates.all fun state => state = "RUNNING"

/-- The requests that change a connector. -/
inductive ConnectorRequest
  | register
  | resume
  | pause
  | restartFailed
  deriving DecidableEq, Repr

/-! ## What is answered -/

/-- What is outside when a connector is registered and resumed: each step, or its error. -/
structure Provisioning where
  ensureCatalog : Except String Unit
  register : Except String Unit
  resume : Except String Unit

/-- What is outside when its status is asked for. -/
structure StatusAnswers where
  probe : Except String ConnectorProbe
  provisioning : Provisioning
  restartFailed : Except String Unit
  rawProgress : Except String (List Json × Nat)
  /-- `_publish_catalog`, or `_ensure_catalog` -/
  catalog : Except String (Option Int)

/-- What is outside during one call. -/
structure ConnectorAnswers where
  provisioning : Provisioning
  status : StatusAnswers
  pauseProbe : Except String ConnectorProbe
  pauseConnector : Except String Unit

/-- A result, with the requests that were served on the way. -/
abbrev Requested (α : Type) := Except String α × List ConnectorRequest

/-- `_ensure_catalog` and `_register_and_resume` -/
def Provisioning.provision (answers : Provisioning) : Requested Unit :=
  match answers.ensureCatalog, answers.register, answers.resume with
  | .error error, _, _ => (.error error, [])
  | .ok _, .error error, _ => (.error error, [])
  | .ok _, .ok _, .error error => (.error error, [.register])
  | .ok _, .ok _, .ok _ => (.ok (), [.register, .resume])

/-- `_result` -/
def connectorResult (attemptId containerState : String) (requestedAction : Option String := none) :
    WorkerStatus where
  worker := some "kafka_connect_clickhouse_v2"
  containerState := some containerState
  workerAttemptId := some attemptId
  requestedAction

/-- `_status` -/
def StatusAnswers.status (answers : StatusAnswers) (attemptId : String) : Requested WorkerStatus :=
  match answers.probe with
  | .error error => (.error error, [])
  | .ok probe =>
      if probe.registered = false then
        (answers.provisioning.provision.1.map fun _ => connectorResult attemptId "starting",
          answers.provisioning.provision.2)
      else if probe.connectorState = "PAUSED" then
        (.ok (connectorResult attemptId "exited" (some "pause")), [])
      else if "FAILED" ∈ probe.connectorState :: probe.taskStates then
        match answers.restartFailed with
        | .error error => (.error error, [])
        | .ok _ => (.ok (connectorResult attemptId "starting"), [.restartFailed])
      else if probe.ready = false then (.ok (connectorResult attemptId "starting"), [])
      else
        match answers.rawProgress, answers.catalog with
        | .error error, _ => (.error error, [])
        | .ok _, .error error => (.error error, [])
        | .ok (progress, totalRows), .ok revision =>
            (.ok
              { connectorResult attemptId "running" with
                clickhouseOffsets := progress
                storedCount := some totalRows
                publicationRevision := if 0 < totalRows then revision else none }, [])

/-- `_pause` -/
def ConnectorAnswers.pause (answers : ConnectorAnswers) : Requested Unit :=
  match answers.pauseProbe with
  | .error error => (.error error, [])
  | .ok probe =>
      if probe.registered = true ∧ probe.connectorState ≠ "PAUSED" then
        match answers.pauseConnector with
        | .error error => (.error error, [])
        | .ok _ => (.ok (), [.pause])
      else (.ok (), [])

/-- The actions of the gateway, before its errors are wrapped. -/
def ConnectorAnswers.serve (answers : ConnectorAnswers) (attemptId : String) :
    WorkerAction → Requested WorkerStatus
  | .start =>
      match answers.provisioning.provision with
      | (.error error, requests) => (.error error, requests)
      | (.ok _, requests) =>
          ((answers.status.status attemptId).1,
            requests ++ (answers.status.status attemptId).2)
  | .status => answers.status.status attemptId
  | .pause =>
      (answers.pause.1.map fun _ => connectorResult attemptId "exited" (some "pause"),
        answers.pause.2)
  | .stop =>
      (answers.pause.1.map fun _ => connectorResult attemptId "exited" (some "stop"),
        answers.pause.2)
  | .terminate =>
      (answers.pause.1.map fun _ => connectorResult attemptId "exited" (some "terminate"),
        answers.pause.2)

/-- `CLICKHOUSE_KAFKA_INGEST_V2_FAILED` -/
def connectorError (job : EtlJob) (action : WorkerAction) (message : String) : ApiError where
  code := "CLICKHOUSE_KAFKA_INGEST_V2_FAILED"
  message := String.ofList (message.toList.take 1000)
  statusCode := 503
  details := [("action", action.name), ("jobId", job.id)]

/-- `manage`: the answer to one call, and the requests that were served. -/
def manage (job : EtlJob) (attemptId : String) (answers : ConnectorAnswers) (action : WorkerAction) :
    Except ApiError WorkerStatus × List ConnectorRequest :=
  if job.ingestV2 = false then
    (.error
      { code := "CLICKHOUSE_KAFKA_INGEST_V2_DISABLED"
        message := "Kafka Connect ClickHouse V2 ingestion is not enabled."
        statusCode := 409
        details := [("jobId", job.id)] }, [])
  else
    ((answers.serve attemptId action).1.mapError (connectorError job action),
      (answers.serve attemptId action).2)

/-- The gateway, for all that is outside in its calls. -/
def ClickHouseKafkaIngestV2Gateway (job : EtlJob) (attemptId : String)
    (connector : Nat → ConnectorAnswers) : WorkerGateway :=
  fun n action => (manage job attemptId (connector n) action).1

/-! ## What a call comes to -/

/-- Registered or resumed, of the requests that a call has served. -/
def provisions (requests : List ConnectorRequest) : Bool :=
  requests.any fun request => request = .register || request = .resume

/-- A connector is registered, if it is asked for. -/
def Provisioning.registers (answers : Provisioning) : Bool :=
  answers.ensureCatalog.toOption.isSome && answers.register.toOption.isSome

namespace StatusAnswers

/-- The connector is not registered, and a poll registers it. -/
def registers (answers : StatusAnswers) : Bool :=
  (answers.probe.toOption.any fun probe => !probe.registered) && answers.provisioning.registers

/-- The connector is paused. -/
def paused (answers : StatusAnswers) : Bool :=
  answers.probe.toOption.any fun probe => probe.registered && probe.connectorState = "PAUSED"

/-- The connector is there: it has just been resumed or restarted, it is on its way, or it
is ready and its progress is published. -/
def up (answers : StatusAnswers) : Bool :=
  answers.probe.toOption.any fun probe =>
    if probe.registered = false then
      answers.provisioning.registers && answers.provisioning.resume.toOption.isSome
    else if probe.connectorState = "PAUSED" then false
    else if "FAILED" ∈ probe.connectorState :: probe.taskStates then
      answers.restartFailed.toOption.isSome
    else
      !probe.ready || answers.rawProgress.toOption.isSome && answers.catalog.toOption.isSome

end StatusAnswers

theorem StatusAnswers.up_of_paused {answers : StatusAnswers} (h : answers.paused = true) :
    answers.up = false ∧ answers.registers = false := by
  rw [paused] at h
  rw [up, registers]
  cases hprobe : answers.probe with
  | error error =>
      rw [hprobe] at h
      exact nomatch h
  | ok probe =>
      rw [hprobe] at h
      obtain ⟨hregistered, hstate⟩ := Bool.and_eq_true_iff.mp h
      have hstate : probe.connectorState = "PAUSED" := of_decide_eq_true hstate
      simp [Except.toOption, hregistered, hstate]

theorem Provisioning.provisions_provision (answers : Provisioning) :
    provisions answers.provision.2 = answers.registers := by
  rw [provision, registers]
  cases answers.ensureCatalog with
  | error error => rfl
  | ok _ =>
      cases answers.register with
      | error error => rfl
      | ok _ => cases answers.resume <;> rfl

theorem Provisioning.provision_ok (answers : Provisioning) :
    answers.provision.1.toOption.isSome =
      (answers.registers && answers.resume.toOption.isSome) := by
  rw [provision, registers]
  cases answers.ensureCatalog with
  | error error => rfl
  | ok _ =>
      cases answers.register with
      | error error => rfl
      | ok _ => cases answers.resume <;> rfl

section
variable (answers : ConnectorAnswers) (polled : StatusAnswers) (attemptId : String)

/-- What is said of a connector that is there. -/
structure ToldUp (status : WorkerStatus) : Prop where
  worker : status.worker = some "kafka_connect_clickhouse_v2"
  container : status.containerState = some "starting" ∨ status.containerState = some "running"
  requestedAction : status.requestedAction = none

theorem toldUp_starting : ToldUp (connectorResult attemptId "starting") :=
  ⟨rfl, Or.inl rfl, rfl⟩

/-- A poll registers a connector exactly if it is not registered and can be. -/
theorem provisions_status : provisions (polled.status attemptId).2 = polled.registers := by
  rw [StatusAnswers.status, StatusAnswers.registers]
  cases polled.probe with
  | error error => rfl
  | ok probe =>
      simp only [Except.toOption, Option.any_some]
      by_cases hregistered : probe.registered = false
      · rw [if_pos hregistered, hregistered, Provisioning.provisions_provision]
        rfl
      · rw [if_neg hregistered, Bool.of_not_eq_false hregistered]
        simp only [Bool.not_true, Bool.false_and]
        split
        · rfl
        · split
          · split <;> rfl
          · split
            · rfl
            · split <;> rfl

/-- A poll of a connector that is paused. -/
theorem status_paused (h : polled.paused = true) :
    (polled.status attemptId).1 = .ok (connectorResult attemptId "exited" (some "pause")) := by
  rw [StatusAnswers.paused] at h
  rw [StatusAnswers.status]
  cases hprobe : polled.probe with
  | error error =>
      rw [hprobe] at h
      exact nomatch h
  | ok probe =>
      rw [hprobe] at h
      obtain ⟨hregistered, hstate⟩ := Bool.and_eq_true_iff.mp h
      simp only
      rw [if_neg (by rw [hregistered]; exact Bool.noConfusion), if_pos (of_decide_eq_true hstate)]

/-- A poll of a connector that is there. -/
theorem status_up (h : polled.up = true) :
    ∃ status, (polled.status attemptId).1 = .ok status ∧ ToldUp status := by
  rw [StatusAnswers.up] at h
  rw [StatusAnswers.status]
  cases hprobe : polled.probe with
  | error error =>
      rw [hprobe] at h
      exact nomatch h
  | ok probe =>
      rw [hprobe] at h
      simp only [Except.toOption, Option.any_some] at h ⊢
      split at h
      · rename_i hregistered
        rw [if_pos hregistered]
        have hprovisioned := polled.provisioning.provision_ok.trans h
        cases hresult : polled.provisioning.provision.1 with
        | error error =>
            rw [hresult] at hprovisioned
            exact nomatch hprovisioned
        | ok _ => exact ⟨_, rfl, toldUp_starting attemptId⟩
      · rename_i hregistered
        rw [if_neg hregistered]
        split at h
        · exact nomatch h
        · rename_i hpaused
          rw [if_neg hpaused]
          split at h
          · rename_i hfailed
            rw [if_pos hfailed]
            cases hrestart : polled.restartFailed with
            | error error =>
                rw [hrestart] at h
                exact nomatch h
            | ok _ => exact ⟨_, rfl, toldUp_starting attemptId⟩
          · rename_i hfailed
            rw [if_neg hfailed]
            by_cases hready : probe.ready = false
            · rw [if_pos hready]
              exact ⟨_, rfl, toldUp_starting attemptId⟩
            · rw [if_neg hready]
              rw [Bool.of_not_eq_false hready] at h
              cases hprogress : polled.rawProgress with
              | error error =>
                  rw [hprogress] at h
                  exact nomatch h
              | ok progress =>
                  rw [hprogress] at h
                  cases hcatalog : polled.catalog with
                  | error error =>
                      rw [hcatalog] at h
                      exact nomatch h
                  | ok revision => exact ⟨_, rfl, rfl, Or.inr rfl, rfl⟩

/-- A poll of a connector that is neither paused nor there. -/
theorem status_down (hpaused : polled.paused = false) (hup : polled.up = false) :
    ∃ error, (polled.status attemptId).1 = .error error := by
  rw [StatusAnswers.paused] at hpaused
  rw [StatusAnswers.up] at hup
  rw [StatusAnswers.status]
  cases hprobe : polled.probe with
  | error error => exact ⟨error, rfl⟩
  | ok probe =>
      rw [hprobe] at hpaused hup
      simp only [Except.toOption, Option.any_some] at hpaused hup ⊢
      split at hup
      · rename_i hregistered
        rw [if_pos hregistered]
        have hprovisioned := polled.provisioning.provision_ok.trans hup
        cases hresult : polled.provisioning.provision.1 with
        | error error => exact ⟨error, rfl⟩
        | ok _ =>
            rw [hresult] at hprovisioned
            exact nomatch hprovisioned
      · rename_i hregistered
        rw [if_neg hregistered]
        rw [Bool.of_not_eq_false hregistered] at hpaused
        have hstate : probe.connectorState ≠ "PAUSED" :=
          of_decide_eq_false (by simpa using hpaused)
        rw [if_neg hstate] at hup ⊢
        split at hup
        · rename_i hfailed
          rw [if_pos hfailed]
          cases hrestart : polled.restartFailed with
          | error error => exact ⟨error, rfl⟩
          | ok _ =>
              rw [hrestart] at hup
              exact nomatch hup
        · rename_i hfailed
          rw [if_neg hfailed]
          by_cases hready : probe.ready = false
          · rw [hready] at hup
            exact nomatch hup
          · rw [if_neg hready]
            rw [Bool.of_not_eq_false hready] at hup
            cases hprogress : polled.rawProgress with
            | error error => exact ⟨error, rfl⟩
            | ok progress =>
                rw [hprogress] at hup
                cases hcatalog : polled.catalog with
                | error error => exact ⟨error, rfl⟩
                | ok revision =>
                    rw [hcatalog] at hup
                    exact nomatch hup

/-- A start registers the connector where that succeeds, and else nothing. -/
theorem provisions_start :
    provisions (answers.serve attemptId .start).2 = answers.provisioning.registers := by
  have hprovision := answers.provisioning.provisions_provision
  rw [ConnectorAnswers.serve]
  rcases hprovisioned : answers.provisioning.provision with ⟨result, requests⟩
  rw [hprovisioned] at hprovision
  cases result with
  | error error => exact hprovision
  | ok _ =>
      have hok := answers.provisioning.provision_ok
      rw [hprovisioned] at hok
      have hregisters : answers.provisioning.registers = true :=
        (Bool.and_eq_true_iff.mp hok.symm).1
      rw [hregisters] at hprovision ⊢
      show (requests ++ _).any _ = true
      rw [List.any_append]
      exact Bool.or_eq_true_iff.mpr (Or.inl hprovision)

/-- A start that registers nothing has failed. -/
theorem start_fails (h : answers.provisioning.registers = false) :
    ∃ error, (answers.serve attemptId .start).1 = .error error := by
  have hok := answers.provisioning.provision_ok
  rw [h] at hok
  rw [ConnectorAnswers.serve]
  rcases hprovisioned : answers.provisioning.provision with ⟨result, requests⟩
  rw [hprovisioned] at hok
  cases result with
  | error error => exact ⟨error, rfl⟩
  | ok _ => exact nomatch hok

/-- A pause registers nothing. -/
theorem provisions_pause : provisions answers.pause.2 = false := by
  rw [ConnectorAnswers.pause]
  split
  · rfl
  · split
    · split <;> rfl
    · rfl

end

end AskLake.ContinuousRuntime

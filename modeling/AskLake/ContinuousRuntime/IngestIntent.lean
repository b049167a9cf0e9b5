/-
# `AskLake.ContinuousRuntime.IngestIntent` — what is wanted of a Kafka Connect worker

Over the gateway of Kafka Connect, each event is asked for four things:

    provisioned   a connector is registered or resumed only while running is wanted
    notUp         the runtime is not starting or running where a pause or stop is wanted
    notEnded      nor paused or stopped where running is
    notPaused     and it does not become paused where a stop is wanted

A pass does not look at what is wanted, and its poll registers whatever is not
registered; so they hold of a pass exactly if what it polls is what is wanted.
-/
import AskLake.Lib.Run
import AskLake.ContinuousRuntime.Dispatch
import AskLake.ContinuousRuntime.KafkaConnect

namespace AskLake.ContinuousRuntime

open AskLake.Lib AskLake.Python

/-! ## Events and laws -/

/-- A command is asked and committed, its worker answers, or a pass is made. -/
inductive IngestEvent
  | reserve (name : String) (input : CommandInput)
  | answer (k : Nat)
  | reconcile (input : PassInput)

def ingestStep (worker : WorkerGateway) (t : OpenJob) : IngestEvent → OpenJob
  | .reserve name input =>
      match t.rows.accepted name input with
      | some command => t.reserve command input
      | none => t
  | .answer k => t.answer worker k
  | .reconcile input => t.reconcile worker input

section
variable (job : EtlJob) (attemptId : String) (connector : Nat → ConnectorAnswers)

/-- Of the calls from the `n`-th on, those in which the connector is registered or resumed
are made while running is wanted. -/
def WantedFrom (n : Nat) : List WorkerCall → Prop
  | [] => True
  | call :: more =>
      (provisions (manage job attemptId (connector n) call.action).2 = true →
        call.desiredState = some .running) ∧ WantedFrom (n + 1) more

instance decidableWantedFrom : ∀ (n : Nat) (calls : List WorkerCall),
    Decidable (WantedFrom job attemptId connector n calls)
  | _, [] => .isTrue trivial
  | n, call :: more =>
      have := decidableWantedFrom (n + 1) more
      inferInstanceAs (Decidable (_ ∧ WantedFrom job attemptId connector (n + 1) more))

/-- What a status may be, after it was `before`, where `desired` is wanted. -/
structure MayShow (desired : Option DesiredState) (before after : PublicStatus) : Prop where
  notUp : desired ∈ [some DesiredState.paused, some .stopped] →
    after ∉ [PublicStatus.starting, .running]
  notEnded : desired = some .running → after ∉ [PublicStatus.paused, .stopped]
  notPaused : desired = some .stopped → after = .paused → before = .paused

instance (desired : Option DesiredState) (before after : PublicStatus) :
    Decidable (MayShow desired before after) :=
  decidable_of_iff
    ((desired ∈ [some DesiredState.paused, some .stopped] →
        after ∉ [PublicStatus.starting, .running]) ∧
      (desired = some .running → after ∉ [PublicStatus.paused, .stopped]) ∧
      (desired = some .stopped → after = .paused → before = .paused))
    ⟨fun ⟨hnotUp, hnotEnded, hnotPaused⟩ => ⟨hnotUp, hnotEnded, hnotPaused⟩,
      fun ⟨hnotUp, hnotEnded, hnotPaused⟩ => ⟨hnotUp, hnotEnded, hnotPaused⟩⟩

/-- The laws of one event. -/
structure LawfulIngest (t : OpenJob) (event : IngestEvent) : Prop where
  provisioned : WantedFrom job attemptId connector t.rows.calls.length
    ((ingestStep (ClickHouseKafkaIngestV2Gateway job attemptId connector) t event).rows.calls.drop
      t.rows.calls.length)
  shows : MayShow
    (ingestStep (ClickHouseKafkaIngestV2Gateway job attemptId connector) t event).control.desired
    t.control.status
    (ingestStep (ClickHouseKafkaIngestV2Gateway job attemptId connector) t event).control.status

instance (t : OpenJob) (event : IngestEvent) :
    Decidable (LawfulIngest job attemptId connector t event) :=
  decidable_of_iff (_ ∧ MayShow _ _ _)
    ⟨fun ⟨hprovisioned, hshows⟩ => ⟨hprovisioned, hshows⟩,
      fun ⟨hprovisioned, hshows⟩ => ⟨hprovisioned, hshows⟩⟩

/-! ## The condition -/

/-- The connector can be paused, if it is not paused already. -/
def ConnectorAnswers.pauses (answers : ConnectorAnswers) : Bool :=
  answers.pauseProbe.toOption.any fun probe =>
    !probe.registered || probe.connectorState = "PAUSED" || answers.pauseConnector.toOption.isSome

/-- A pass signals the pause or stop that the runtime shows, and has not signalled it
already. -/
def ContinuousJob.signals (s : ContinuousJob) : Bool :=
  s.runtime.status ∈ [PublicStatus.pausing, .paused, .stopping, .stopped] &&
    !s.terminalSignalAlreadyApplied (s.terminalSignalIdentity s.terminalAction)

/-- What a poll may meet where a pause or stop is wanted. -/
structure PolledAtRest (desired : DesiredState) (polled : StatusAnswers) : Prop where
  registered : polled.registers = false
  paused : polled.paused = true → desired = .paused

/-- What is asked of an event. -/
def IngestEvent.Admitted (t : OpenJob) : IngestEvent → Prop
  | .reserve _ _ => True
  | .answer k =>
      ∀ sent, t.pending[k]? = some sent → sent.command.isStart = true →
        sent.input.dispatchWorker = true → t.control.desired ≠ some .running →
          (connector t.rows.calls.length).provisioning.registers = false ∧
            (connector (t.rows.calls.length + 1)).status.registers = false
  | .reconcile _ =>
      t.rows.job.executionMode = "continuous" → ∀ desired, t.control.desired = some desired →
        if desired = .running then (connector t.rows.calls.length).status.paused = false
        else
          PolledAtRest desired (connector t.rows.calls.length).status ∧
            ((connector t.rows.calls.length).status.up = true → t.rows.signals = true ∧
              ((connector (t.rows.calls.length + 1)).pauses = false →
                PolledAtRest desired (connector (t.rows.calls.length + 2)).status))

end

/-- The statuses in which what is wanted may show. -/
def DesiredState.shows : DesiredState → List PublicStatus
  | running => [.starting, .running, .failed]
  | paused => [.pausing, .paused, .failed]
  | stopped => [.stopping, .stopped, .failed]

/-- The status shows what is wanted, of a V2 job. -/
structure Coherent (c : Control) : Prop where
  shows : ∃ desired, c.desired = some desired ∧ c.status ∈ desired.shows
  ingestV2 : c.ingestV2 = true

section
variable {desired : DesiredState} {before : PublicStatus}

theorem mayShow_same (h : before ∈ desired.shows) : MayShow (some desired) before before := by
  refine ⟨?_, ?_, fun _ hpaused => hpaused⟩
  · cases desired <;> cases before <;> revert h <;> decide
  · cases desired <;> cases before <;> revert h <;> decide

theorem mayShow_failed : MayShow (some desired) before .failed :=
  ⟨fun _ => by decide, fun _ => by decide, fun _ hpaused => nomatch hpaused⟩

theorem mayShow_paused (h : before ∈ desired.shows) :
    MayShow (some desired) before .paused ↔ desired = .paused := by
  constructor
  · intro hlaw
    cases desired with
    | running => exact absurd (by decide) (hlaw.notEnded rfl)
    | paused => rfl
    | stopped =>
        rw [hlaw.notPaused rfl rfl] at h
        exact absurd h (by decide)
  · rintro rfl
    exact ⟨fun _ => by decide, (fun hrunning => nomatch hrunning), fun hstopped => nomatch hstopped⟩

theorem mayShow_up {after : PublicStatus} (hup : after ∈ [PublicStatus.starting, .running]) :
    MayShow (some desired) before after ↔ desired = .running := by
  constructor
  · intro hlaw
    cases desired with
    | running => rfl
    | paused => exact absurd hup (hlaw.notUp (by decide))
    | stopped => exact absurd hup (hlaw.notUp (by decide))
  · rintro rfl
    refine ⟨fun hrest => absurd hrest (by decide), fun _ => ?_, fun hstopped => nomatch hstopped⟩
    cases after <;> revert hup <;> decide

theorem mayShow_stopped (h : desired ≠ .running) : MayShow (some desired) before .stopped :=
  ⟨fun _ => by decide, fun hrunning => absurd (Option.some.inj hrunning) h,
    fun _ hpaused => nomatch hpaused⟩

end

/-! ## What the gateway answers -/

section
variable {job : EtlJob} {attemptId : String} {connector : Nat → ConnectorAnswers}

theorem wantedFrom_of_wanted (n : Nat) {calls : List WorkerCall}
    (h : ∀ call ∈ calls, call.desiredState = some .running) :
    WantedFrom job attemptId connector n calls := by
  induction calls generalizing n with
  | nil => exact trivial
  | cons call calls ih =>
      exact ⟨fun _ => h call List.mem_cons_self,
        ih (n + 1) fun other hother => h other (List.mem_cons_of_mem call hother)⟩

section
variable (hjob : job.ingestV2 = true)
include hjob

theorem manage_enabled (answers : ConnectorAnswers) (action : WorkerAction) :
    manage job attemptId answers action =
      ((answers.serve attemptId action).1.mapError (connectorError job action),
        (answers.serve attemptId action).2) := by
  rw [manage, if_neg (by rw [hjob]; exact Bool.noConfusion)]

theorem provisions_manage_status (answers : ConnectorAnswers) :
    provisions (manage job attemptId answers .status).2 = answers.status.registers := by
  rw [manage_enabled hjob]
  exact provisions_status answers.status attemptId

theorem provisions_manage_start (answers : ConnectorAnswers) :
    provisions (manage job attemptId answers .start).2 = answers.provisioning.registers := by
  rw [manage_enabled hjob]
  exact provisions_start answers attemptId

theorem provisions_manage_terminal (answers : ConnectorAnswers) {action : WorkerAction}
    (haction : action = .pause ∨ action = .stop) :
    provisions (manage job attemptId answers action).2 = false := by
  rw [manage_enabled hjob]
  rcases haction with rfl | rfl
  · exact provisions_pause answers
  · exact provisions_pause answers

/-- A pause or stop that reaches the connector. -/
theorem answer_of_pauses {n : Nat} {action : WorkerAction} (haction : action = .pause ∨ action = .stop)
    (h : (connector n).pauses = true) :
    ClickHouseKafkaIngestV2Gateway job attemptId connector n action =
      .ok (connectorResult attemptId "exited" (some action.name)) := by
  have hpaused : (connector n).pause.1 = .ok () := by
    rw [ConnectorAnswers.pauses] at h
    rw [ConnectorAnswers.pause]
    cases hprobe : (connector n).pauseProbe with
    | error error =>
        rw [hprobe] at h
        cases h
    | ok probe =>
        rw [hprobe] at h
        simp only
        split
        · rename_i hpresent
          cases hpause : (connector n).pauseConnector with
          | error error =>
              rw [hpause] at h
              simp [Except.toOption, hpresent.1, hpresent.2] at h
          | ok _ => rfl
        · rfl
  rw [ClickHouseKafkaIngestV2Gateway, manage_enabled hjob]
  rcases haction with rfl | rfl
  · rw [ConnectorAnswers.serve, hpaused]
    rfl
  · rw [ConnectorAnswers.serve, hpaused]
    rfl

/-- A pause or stop that does not. -/
theorem answer_of_not_pauses {n : Nat} {action : WorkerAction}
    (haction : action = .pause ∨ action = .stop) (h : (connector n).pauses = false) :
    ∃ error, ClickHouseKafkaIngestV2Gateway job attemptId connector n action = .error error := by
  obtain ⟨error, herror⟩ : ∃ error, (connector n).pause.1 = .error error := by
    rw [ConnectorAnswers.pauses] at h
    rw [ConnectorAnswers.pause]
    cases hprobe : (connector n).pauseProbe with
    | error error => exact ⟨error, rfl⟩
    | ok probe =>
        rw [hprobe] at h
        simp only
        split
        · cases hpause : (connector n).pauseConnector with
          | error error => exact ⟨error, rfl⟩
          | ok _ =>
              rw [hpause] at h
              simp [Except.toOption] at h
        · rename_i hpresent
          simp only [Except.toOption, Option.any_some, Bool.or_eq_false_iff] at h
          refine absurd ⟨?_, of_decide_eq_false h.1.2⟩ hpresent
          simpa using h.1.1
  rw [ClickHouseKafkaIngestV2Gateway, manage_enabled hjob]
  rcases haction with rfl | rfl
  · rw [ConnectorAnswers.serve, herror]
    exact ⟨_, rfl⟩
  · rw [ConnectorAnswers.serve, herror]
    exact ⟨_, rfl⟩

end

/-! ## What a pass polls -/

section
variable {s : ContinuousJob}

/-- The call of a poll. -/
def ContinuousJob.pollCall (s : ContinuousJob) : WorkerCall := ⟨.status, none, s.contract.desiredState⟩

theorem polled_rows (worker : WorkerGateway) (s : ContinuousJob) :
    (s.continuousWorkerStatus worker).2 = { s with calls := s.calls ++ [s.pollCall] } := by
  rw [ContinuousJob.continuousWorkerStatus]
  simp only
  split
  · rfl
  · split <;> rfl

section
variable (hjob : job.ingestV2 = true)
include hjob

theorem polled_paused (h : (connector s.calls.length).status.paused = true) :
    (s.continuousWorkerStatus (ClickHouseKafkaIngestV2Gateway job attemptId connector)).1 =
      connectorResult attemptId "exited" (some "pause") := by
  have hanswer : ClickHouseKafkaIngestV2Gateway job attemptId connector s.calls.length .status =
      .ok (connectorResult attemptId "exited" (some "pause")) := by
    rw [ClickHouseKafkaIngestV2Gateway, manage_enabled hjob, ConnectorAnswers.serve, status_paused _ _ h]
    rfl
  rw [ContinuousJob.continuousWorkerStatus, ContinuousJob.callWorker, hanswer]

theorem polled_up (h : (connector s.calls.length).status.up = true) :
    ToldUp (s.continuousWorkerStatus
      (ClickHouseKafkaIngestV2Gateway job attemptId connector)).1 := by
  obtain ⟨status, hstatus, hup⟩ := status_up _ attemptId h
  have hanswer : ClickHouseKafkaIngestV2Gateway job attemptId connector s.calls.length .status =
      .ok status := by
    rw [ClickHouseKafkaIngestV2Gateway, manage_enabled hjob, ConnectorAnswers.serve, hstatus]
    rfl
  rw [ContinuousJob.continuousWorkerStatus, ContinuousJob.callWorker, hanswer]
  exact hup

/-- What is said of a connector whose state cannot be had. -/
theorem polled_down (hingest : s.job.ingestV2 = true)
    (hpaused : (connector s.calls.length).status.paused = false)
    (hup : (connector s.calls.length).status.up = false) :
    ∃ message, (s.continuousWorkerStatus
        (ClickHouseKafkaIngestV2Gateway job attemptId connector)).1 =
      { containerState := some "failed"
        error := some message
        worker := some "kafka_connect_clickhouse_v2" } := by
  obtain ⟨error, herror⟩ := status_down _ attemptId hpaused hup
  have hanswer : ClickHouseKafkaIngestV2Gateway job attemptId connector s.calls.length .status =
      .error (connectorError job .status error) := by
    rw [ClickHouseKafkaIngestV2Gateway, manage_enabled hjob, ConnectorAnswers.serve, herror]
    rfl
  refine ⟨(connectorError job .status error).message, ?_⟩
  rw [ContinuousJob.continuousWorkerStatus, ContinuousJob.callWorker, hanswer]
  simp only
  rw [if_pos hingest]

end

theorem ToldUp.present {status : WorkerStatus} (h : ToldUp status) :
    status.container ∈ presentStates ∧ status.container ∉ goneStates ∧
      status.container ∈ activeContainers ∧ status.container ∉ ["exited", "missing"] := by
  rw [WorkerStatus.container]
  rcases h.container with h | h
  · rw [h]
    decide
  · rw [h]
    decide

/-! ## What a pass does of it -/

/-- The rows that a pass goes on with. -/
theorem calls_ingest (worker : WorkerGateway) (input : PassInput) (status : WorkerStatus)
    (container : String) (h : container ∉ ["exited", "missing"] ∨
      (ContinuousJob.endingAction status).isSome = true) :
    (s.reconcileClickhouseKafkaIngestV2 worker input status container).calls = s.calls := by
  have hsync : ∀ (rows : ContinuousJob) (payload : Report),
      (rows.syncSession input payload).calls = rows.calls := by
    intro rows payload
    rw [ContinuousJob.syncSession]
    split <;> rfl
  rw [ContinuousJob.reconcileClickhouseKafkaIngestV2]
  split
  · rw [ContinuousJob.applyIngestTerminal, hsync]
    split <;> rfl
  · rename_i hnot
    split
    · rename_i hgone
      exact h.elim (fun h => absurd hgone.1 h) fun h => absurd ⟨hgone.1, Or.inr h⟩ hnot
    · split
      · have hstatus : (if container ∈ ["running", "healthy"] then PublicStatus.running
            else .starting) = activeStatus container := rfl
        rw [ContinuousJob.ingestActive, hsync]
        simp only [hstatus]
        split
        · rfl
        · split <;> rfl
      · split
        · rw [ContinuousJob.ingestStatusFailed, hsync]
          rfl
        · rfl

/-- What a pass leaves, that goes on with the status `status`. -/
theorem pass_of_observed {worker : WorkerGateway} (input : PassInput)
    (hmode : s.job.executionMode = "continuous") {status : WorkerStatus} {container : String}
    {rows : ContinuousJob} (h : s.observe worker = (some (status, container), rows))
    (hconnect : status.worker = some "kafka_connect_clickhouse_v2")
    (hquiet : container ∉ ["exited", "missing"] ∨
      (ContinuousJob.endingAction status).isSome = true) :
    (s.reconcileContinuousRuntime worker input).calls = rows.calls ∧
      IngestMove status container (worker rows.calls.length .start) s.control
        (s.reconcileContinuousRuntime worker input).control := by
  have hobserved : (s.observe worker).1 = some (status, container) := by rw [h]
  have hrows : (s.observe worker).2 = rows := by rw [h]
  have hmove := ContinuousJob.move_reconcile_connect input hmode hobserved hconnect
  rw [hrows] at hmove
  refine ⟨?_, hmove⟩
  rw [ContinuousJob.reconcile_of_observed input hmode hobserved, if_pos hconnect, hrows]
  exact calls_ingest worker input status container hquiet

section
variable {status : WorkerStatus} {container : String} {answer : Except ApiError WorkerStatus}
  {c next : Control}

theorem IngestMove.status_of_ended (h : IngestMove status container answer c next)
    (hgone : container ∈ ["exited", "missing"])
    (hending : (ContinuousJob.endingAction status).isSome = true) :
    next = c.settle (endedStatus c.status status) := by
  have hinactive : container ∉ activeContainers := by
    rcases List.mem_cons.mp hgone with rfl | hgone
    · decide
    · rw [List.mem_singleton.mp hgone]
      decide
  cases h with
  | ended _ _ => rfl
  | restarted _ hquiet _ _ _ =>
      rw [hquiet] at hending
      exact nomatch hending
  | restartFailed _ hquiet _ _ _ =>
      rw [hquiet] at hending
      exact nomatch hending
  | active hactive => exact absurd hactive hinactive
  | statusFailed hquiet _ _ _ =>
      rw [hquiet hgone] at hending
      exact nomatch hending
  | kept hquiet _ _ =>
      rw [hquiet hgone] at hending
      exact nomatch hending

theorem IngestMove.status_of_up (h : IngestMove status container answer c next)
    (hgone : container ∉ ["exited", "missing"]) (hactive : container ∈ activeContainers) :
    next.desired = (c.settle (activeStatus container)).desired ∧
      next.status = activeStatus container ∧ next.ingestV2 = c.ingestV2 := by
  cases h with
  | ended h _ => exact absurd h hgone
  | restarted h _ _ _ _ => exact absurd h hgone
  | restartFailed h _ _ _ _ => exact absurd h hgone
  | active _ => exact ⟨rfl, rfl, rfl⟩
  | statusFailed _ hinactive _ _ => exact absurd hactive hinactive
  | kept _ hinactive _ => exact absurd hactive hinactive

theorem IngestMove.status_of_down (h : IngestMove status "failed" answer c next) :
    next = { c with status := .failed } ∨ next = c := by
  cases h with
  | ended h _ => exact absurd h (by decide)
  | restarted h _ _ _ _ => exact absurd h (by decide)
  | restartFailed h _ _ _ _ => exact absurd h (by decide)
  | active hactive => exact absurd hactive (by decide)
  | statusFailed _ _ _ _ => exact Or.inl rfl
  | kept _ _ _ => exact Or.inr rfl

end

end

/-! ## The signal of a pass -/

theorem terminalAction_cases (s : ContinuousJob) :
    s.terminalAction = .pause ∨ s.terminalAction = .stop := by
  rw [ContinuousJob.terminalAction]
  split
  · exact Or.inl rfl
  · exact Or.inr rfl

/-- The call of a signal. -/
def ContinuousJob.signalCall (s : ContinuousJob) : WorkerCall :=
  ⟨s.terminalAction, s.fence, s.contract.desiredState⟩

section
variable {s : ContinuousJob}

theorem observe_eq (worker : WorkerGateway) (s : ContinuousJob) :
    s.observe worker =
      ({ s with calls := s.calls ++ [s.pollCall] } : ContinuousJob).applyDeferredTerminalSignal worker
        (s.continuousWorkerStatus worker).1 := by
  rw [ContinuousJob.observe, polled_rows]

/-- Nothing is signalled. -/
theorem observe_unsignalled {worker : WorkerGateway}
    (h : s.shouldSignal (s.continuousWorkerStatus worker).1.container = false) :
    s.observe worker = (some ((s.continuousWorkerStatus worker).1,
      (s.continuousWorkerStatus worker).1.container), { s with calls := s.calls ++ [s.pollCall] }) := by
  rw [observe_eq, ContinuousJob.applyDeferredTerminalSignal, if_neg]
  intro hsignal
  have hsame : s.shouldSignal (s.continuousWorkerStatus worker).1.container = true := hsignal
  rw [h] at hsame
  cases hsame

theorem shouldSignal_iff {container : String} (hpresent : container ∈ presentStates) :
    s.shouldSignal container = s.signals := by
  rw [ContinuousJob.shouldSignal, ContinuousJob.signals, decide_eq_true hpresent, Bool.and_true]

/-- A signal that ends the worker. -/
theorem signalWorker_ok {worker : WorkerGateway} {container : String} {result : WorkerStatus}
    (h : worker s.calls.length s.terminalAction = .ok result) (hgone : result.container ∈ goneStates) :
    s.signalWorker worker container = (some (result, result.container),
      ({ s with calls := s.calls ++ [s.signalCall] } : ContinuousJob).recordTerminalSignal
        (s.terminalSignalIdentity s.terminalAction) result) := by
  have hcalled : s.callWorker worker s.terminalAction s.fence =
      (.ok result, { s with calls := s.calls ++ [s.signalCall] }) := by
    rw [ContinuousJob.callWorker, h]
    rfl
  rw [ContinuousJob.signalWorker]
  simp only [hcalled, if_pos hgone]

/-- The rows after a signal that has failed, and the poll that follows it. -/
def ContinuousJob.repolled (s : ContinuousJob) : ContinuousJob :=
  { s with calls := s.calls ++ [s.signalCall, s.pollCall] }

/-- What the poll after a signal that has failed says. -/
def ContinuousJob.recovered (worker : WorkerGateway) (s : ContinuousJob) : WorkerStatus :=
  (({ s with calls := s.calls ++ [s.signalCall] } : ContinuousJob).continuousWorkerStatus worker).1

section
variable {worker : WorkerGateway} {container : String} {error : ApiError}
  (h : worker s.calls.length s.terminalAction = .error error)
include h

theorem signal_error :
    s.callWorker worker s.terminalAction s.fence =
        (.error error, { s with calls := s.calls ++ [s.signalCall] }) ∧
      (({ s with calls := s.calls ++ [s.signalCall] } : ContinuousJob).continuousWorkerStatus
        worker) = (s.recovered worker, s.repolled) := by
  refine ⟨?_, Prod.ext rfl ?_⟩
  · rw [ContinuousJob.callWorker, h]
    rfl
  · rw [polled_rows, ContinuousJob.repolled]
    have hcalls : (s.calls ++ [s.signalCall]) ++ [s.pollCall] =
        s.calls ++ [s.signalCall, s.pollCall] := List.append_assoc _ _ _
    exact congrArg (fun calls => { s with calls }) hcalls

/-- A signal that has failed, of a worker that is gone all the same. -/
theorem signalWorker_recovered (hgone : (s.recovered worker).container ∈ goneStates) :
    s.signalWorker worker container = (some (s.recovered worker, (s.recovered worker).container),
      s.repolled.recordTerminalSignal (s.terminalSignalIdentity s.terminalAction)
        (s.recovered worker)) := by
  obtain ⟨hcalled, hpolled⟩ := signal_error h
  rw [ContinuousJob.signalWorker]
  simp only [hcalled, hpolled, if_pos (Or.inl hgone)]

/-- A signal that has failed, of a worker that may be there. -/
theorem signalWorker_lost (hgone : (s.recovered worker).container ∉ goneStates)
    (hrequested : (s.recovered worker).requestedAction = none) :
    (s.signalWorker worker container).1 = none ∧
      (s.signalWorker worker container).2.calls = s.repolled.calls := by
  obtain ⟨hcalled, hpolled⟩ := signal_error h
  have hnot : ¬ ((s.recovered worker).container ∈ goneStates ∨
      (optionalString (s.recovered worker).requestedAction).map Text.text =
        some s.terminalAction.name) := by
    rw [hrequested]
    exact fun hrecovered => hrecovered.elim hgone fun hsame => nomatch hsame
  rw [ContinuousJob.signalWorker]
  simp only [hcalled, hpolled, if_neg hnot, true_and]
  rfl

end

section
variable (hjob : job.ingestV2 = true) (hpresent : (s.continuousWorkerStatus
    (ClickHouseKafkaIngestV2Gateway job attemptId connector)).1.container ∈ presentStates)
  (hsignals : s.signals = true)

section
include hpresent hsignals

theorem observe_signals :
    s.observe (ClickHouseKafkaIngestV2Gateway job attemptId connector) =
      ({ s with calls := s.calls ++ [s.pollCall] } : ContinuousJob).signalWorker
        (ClickHouseKafkaIngestV2Gateway job attemptId connector)
        (s.continuousWorkerStatus
          (ClickHouseKafkaIngestV2Gateway job attemptId connector)).1.container := by
  have hsignal : ({ s with calls := s.calls ++ [s.pollCall] } : ContinuousJob).shouldSignal
      (s.continuousWorkerStatus
        (ClickHouseKafkaIngestV2Gateway job attemptId connector)).1.container = true :=
    (shouldSignal_iff hpresent).trans hsignals
  rw [observe_eq, ContinuousJob.applyDeferredTerminalSignal, if_pos hsignal]

end

include hjob hpresent hsignals

/-- A signal that reaches the connector. -/
theorem observe_signalled (hpauses : (connector (s.calls.length + 1)).pauses = true) :
    ∃ rows, s.observe (ClickHouseKafkaIngestV2Gateway job attemptId connector) =
        (some (connectorResult attemptId "exited" (some s.terminalAction.name), "exited"), rows) ∧
      rows.calls = s.calls ++ [s.pollCall, s.signalCall] := by
  have hanswer : ClickHouseKafkaIngestV2Gateway job attemptId connector
      (s.calls ++ [s.pollCall]).length s.terminalAction =
        .ok (connectorResult attemptId "exited" (some s.terminalAction.name)) := by
    rw [List.length_append]
    exact answer_of_pauses hjob (terminalAction_cases s) hpauses
  rw [observe_signals hpresent hsignals, @signalWorker_ok
    { s with calls := s.calls ++ [s.pollCall] } _ _ _ hanswer (by decide : "exited" ∈ goneStates)]
  exact ⟨_, rfl, List.append_assoc _ _ _⟩

omit hpresent hsignals in
theorem signal_lost (hpauses : (connector (s.calls.length + 1)).pauses = false) :
    ∃ (polled : ContinuousJob) (error : _),
      polled = { s with calls := s.calls ++ [s.pollCall] } ∧
      polled.calls.length = s.calls.length + 1 ∧
      ClickHouseKafkaIngestV2Gateway job attemptId connector polled.calls.length
        polled.terminalAction = .error error := by
  obtain ⟨error, herror⟩ := answer_of_not_pauses hjob
    (terminalAction_cases { s with calls := s.calls ++ [s.pollCall] }) hpauses
  exact ⟨_, error, rfl, List.length_append, by rwa [List.length_append]⟩

/-- A signal that does not reach the connector, which is found paused. -/
theorem observe_recovered (hpauses : (connector (s.calls.length + 1)).pauses = false)
    (hpaused : (connector (s.calls.length + 2)).status.paused = true) :
    ∃ rows, s.observe (ClickHouseKafkaIngestV2Gateway job attemptId connector) =
        (some (connectorResult attemptId "exited" (some "pause"), "exited"), rows) ∧
      rows.calls = s.calls ++ [s.pollCall, s.signalCall, s.pollCall] := by
  obtain ⟨polled, error, hpolled, hlength, herror⟩ := signal_lost hjob hpauses
  have hrecovered : polled.recovered (ClickHouseKafkaIngestV2Gateway job attemptId connector) =
      connectorResult attemptId "exited" (some "pause") := by
    refine polled_paused hjob ?_
    rw [List.length_append, hlength]
    exact hpaused
  rw [observe_signals hpresent hsignals, ← hpolled, signalWorker_recovered herror (by
    rw [hrecovered]
    show "exited" ∈ goneStates
    decide), hrecovered]
  refine ⟨_, rfl, ?_⟩
  show polled.calls ++ [polled.signalCall, polled.pollCall] = _
  rw [hpolled]
  exact List.append_assoc _ _ _

/-- A signal that does not reach the connector, which is not found paused. -/
theorem observe_lost (hingest : s.job.ingestV2 = true)
    (hpauses : (connector (s.calls.length + 1)).pauses = false)
    (hpaused : (connector (s.calls.length + 2)).status.paused = false) :
    (s.observe (ClickHouseKafkaIngestV2Gateway job attemptId connector)).1 = none ∧
      (s.observe (ClickHouseKafkaIngestV2Gateway job attemptId connector)).2.calls =
        s.calls ++ [s.pollCall, s.signalCall, s.pollCall] := by
  obtain ⟨polled, error, hpolled, hlength, herror⟩ := signal_lost hjob hpauses
  have hsecond : (polled.calls ++ [polled.signalCall]).length = s.calls.length + 2 := by
    rw [List.length_append, hlength]
    rfl
  have hrecovered :
      (polled.recovered (ClickHouseKafkaIngestV2Gateway job attemptId connector)).container ∉
          goneStates ∧
        (polled.recovered
          (ClickHouseKafkaIngestV2Gateway job attemptId connector)).requestedAction = none := by
    cases hup : (connector (s.calls.length + 2)).status.up with
    | true =>
        have htold : ToldUp (polled.recovered
            (ClickHouseKafkaIngestV2Gateway job attemptId connector)) := by
          refine polled_up hjob ?_
          rw [hsecond]
          exact hup
        exact ⟨htold.present.2.1, htold.requestedAction⟩
    | false =>
        obtain ⟨message, hmessage⟩ : ∃ message, polled.recovered
            (ClickHouseKafkaIngestV2Gateway job attemptId connector) =
              { containerState := some "failed"
                error := some message
                worker := some "kafka_connect_clickhouse_v2" } := by
          refine polled_down hjob ?_ ?_ ?_
          · rw [hpolled]
            exact hingest
          · rw [hsecond]
            exact hpaused
          · rw [hsecond]
            exact hup
        rw [hmessage]
        exact ⟨by show "failed" ∉ goneStates; decide, rfl⟩
  obtain ⟨hnone, hcalls⟩ := @signalWorker_lost polled _ (s.continuousWorkerStatus
    (ClickHouseKafkaIngestV2Gateway job attemptId connector)).1.container _ herror hrecovered.1
      hrecovered.2
  rw [observe_signals hpresent hsignals, ← hpolled]
  refine ⟨hnone, hcalls.trans ?_⟩
  show polled.calls ++ [polled.signalCall, polled.pollCall] = _
  rw [hpolled]
  exact List.append_assoc _ _ _

end

end

/-! ## What a pass comes to -/

/-- What a pass leaves: the calls it has made, and the status. -/
structure Passed (s next : ContinuousJob) (more : List WorkerCall) (status : PublicStatus) : Prop where
  calls : next.calls = s.calls ++ more
  desired : next.control.desired = s.control.desired
  status : next.control.status = status
  ingestV2 : next.control.ingestV2 = s.control.ingestV2

theorem endingAction_exited {action : WorkerAction} (haction : action = .pause ∨ action = .stop) :
    ContinuousJob.endingAction (connectorResult attemptId "exited" (some action.name)) =
      some action.name := by
  rcases haction with rfl | rfl
  · show ContinuousJob.endingAction ({ requestedAction := some "pause" } : WorkerStatus) = some "pause"
    decide
  · show ContinuousJob.endingAction ({ requestedAction := some "stop" } : WorkerStatus) = some "stop"
    decide

section
variable {s : ContinuousJob} {desired : DesiredState} (input : PassInput)
  (hmode : s.job.executionMode = "continuous") (hdesired : s.control.desired = some desired)

section
variable {worker : WorkerGateway}
include hmode hdesired

/-- A pass that goes on with a connector that is paused. -/
theorem passed_exited {action : WorkerAction} (haction : action = .pause ∨ action = .stop)
    {rows : ContinuousJob} {more : List WorkerCall}
    (h : s.observe worker =
      (some (connectorResult attemptId "exited" (some action.name), "exited"), rows))
    (hcalls : rows.calls = s.calls ++ more) :
    Passed s (s.reconcileContinuousRuntime worker input) more
      (if s.control.status = .pausing ∨ action = .pause then .paused else .stopped) := by
  have hending := @endingAction_exited attemptId _ haction
  have hsome : (ContinuousJob.endingAction
      (connectorResult attemptId "exited" (some action.name))).isSome = true := by
    rw [hending]
    rfl
  obtain ⟨hkept, hmove⟩ := pass_of_observed input hmode h rfl (Or.inr hsome)
  have hcontrol := hmove.status_of_ended (by decide) hsome
  have hended : endedStatus s.control.status (connectorResult attemptId "exited" (some action.name)) =
      if s.control.status = .pausing ∨ action = .pause then .paused else .stopped := by
    rw [endedStatus, hending]
    rcases haction with rfl | rfl
    · simp [WorkerAction.name]
    · simp [WorkerAction.name]
  rw [hended, Control.settle_of_some hdesired] at hcontrol
  exact ⟨hkept.trans hcalls, by rw [hcontrol], by rw [hcontrol], by rw [hcontrol]⟩

end

section
variable (hjob : job.ingestV2 = true)
include hjob hmode hdesired

theorem passed_paused (hpaused : (connector s.calls.length).status.paused = true) :
    Passed s (s.reconcileContinuousRuntime
      (ClickHouseKafkaIngestV2Gateway job attemptId connector) input) [s.pollCall] .paused := by
  have hpolled := @polled_paused job attemptId connector s hjob hpaused
  have hobserved : s.observe (ClickHouseKafkaIngestV2Gateway job attemptId connector) =
      (some (connectorResult attemptId "exited" (some WorkerAction.pause.name), "exited"),
        { s with calls := s.calls ++ [s.pollCall] }) := by
    rw [observe_unsignalled, hpolled]
    · rfl
    · rw [hpolled, ContinuousJob.shouldSignal]
      have habsent : decide ((connectorResult attemptId "exited" (some "pause")).container ∈
          presentStates) = false := by
        show decide ("exited" ∈ presentStates) = false
        decide
      rw [habsent, Bool.and_false, Bool.false_and]
  have hpassed := passed_exited input hmode hdesired (Or.inl rfl) hobserved rfl
  rw [if_pos (Or.inr rfl)] at hpassed
  exact hpassed

theorem passed_up (hup : (connector s.calls.length).status.up = true) (hsignals : s.signals = false) :
    ∃ status ∈ [PublicStatus.starting, .running], Passed s (s.reconcileContinuousRuntime
      (ClickHouseKafkaIngestV2Gateway job attemptId connector) input) [s.pollCall] status := by
  have htold : ToldUp (s.continuousWorkerStatus
      (ClickHouseKafkaIngestV2Gateway job attemptId connector)).1 := polled_up hjob hup
  obtain ⟨hpresent, -, hactive, hgone⟩ := htold.present
  have hobserved := @observe_unsignalled s (ClickHouseKafkaIngestV2Gateway job attemptId connector)
    ((shouldSignal_iff hpresent).trans hsignals)
  obtain ⟨hkept, hmove⟩ := pass_of_observed input hmode hobserved htold.worker (Or.inl hgone)
  obtain ⟨hwanted, hstatus, hingest⟩ := hmove.status_of_up hgone hactive
  rw [Control.settle_of_some hdesired] at hwanted
  refine ⟨_, ?_, hkept, hwanted, hstatus, hingest⟩
  rw [activeStatus]
  split <;> decide

theorem passed_down (hingest : s.job.ingestV2 = true)
    (hpaused : (connector s.calls.length).status.paused = false)
    (hup : (connector s.calls.length).status.up = false) :
    ∃ status, (status = .failed ∨ status = s.control.status) ∧ Passed s
      (s.reconcileContinuousRuntime (ClickHouseKafkaIngestV2Gateway job attemptId connector) input)
      [s.pollCall] status := by
  obtain ⟨message, hmessage⟩ := @polled_down job attemptId connector s hjob hingest hpaused hup
  have hobserved : s.observe (ClickHouseKafkaIngestV2Gateway job attemptId connector) =
      (some (({ containerState := some "failed", error := some message,
                worker := some "kafka_connect_clickhouse_v2" } : WorkerStatus), "failed"),
        { s with calls := s.calls ++ [s.pollCall] }) := by
    rw [observe_unsignalled, hmessage]
    · rfl
    · rw [hmessage, ContinuousJob.shouldSignal]
      have habsent : decide ("failed" ∈ presentStates) = false := by decide
      show (_ && decide ("failed" ∈ presentStates) && _) = false
      rw [habsent, Bool.and_false, Bool.false_and]
  obtain ⟨hkept, hmove⟩ := pass_of_observed input hmode hobserved rfl (Or.inl (by decide))
  rcases hmove.status_of_down with hcontrol | hcontrol
  · refine ⟨.failed, Or.inl rfl, hkept, ?_, ?_, ?_⟩
    · rw [hcontrol]
    · rw [hcontrol]
    · rw [hcontrol]
  · refine ⟨s.control.status, Or.inr rfl, hkept, ?_, ?_, ?_⟩
    · rw [hcontrol]
    · rw [hcontrol]
    · rw [hcontrol]

section
variable (hup : (connector s.calls.length).status.up = true) (hsignals : s.signals = true)
include hup hsignals

theorem passed_signalled (hpauses : (connector (s.calls.length + 1)).pauses = true) :
    Passed s (s.reconcileContinuousRuntime
        (ClickHouseKafkaIngestV2Gateway job attemptId connector) input) [s.pollCall, s.signalCall]
      (if s.control.status = .pausing ∨ s.terminalAction = .pause then .paused else .stopped) := by
  have htold : ToldUp (s.continuousWorkerStatus
      (ClickHouseKafkaIngestV2Gateway job attemptId connector)).1 := polled_up hjob hup
  obtain ⟨rows, hobserved, hcalls⟩ := @observe_signalled job attemptId connector s hjob htold.present.1
    hsignals hpauses
  exact passed_exited input hmode hdesired (terminalAction_cases s) hobserved hcalls

theorem passed_recovered (hpauses : (connector (s.calls.length + 1)).pauses = false)
    (hpaused : (connector (s.calls.length + 2)).status.paused = true) :
    Passed s (s.reconcileContinuousRuntime
        (ClickHouseKafkaIngestV2Gateway job attemptId connector) input)
      [s.pollCall, s.signalCall, s.pollCall] .paused := by
  have htold : ToldUp (s.continuousWorkerStatus
      (ClickHouseKafkaIngestV2Gateway job attemptId connector)).1 := polled_up hjob hup
  obtain ⟨rows, hobserved, hcalls⟩ := @observe_recovered job attemptId connector s hjob htold.present.1
    hsignals hpauses hpaused
  have hpassed := @passed_exited attemptId s desired input hmode hdesired _ WorkerAction.pause (Or.inl rfl) _ _ hobserved hcalls
  rw [if_pos (Or.inr rfl)] at hpassed
  exact hpassed

theorem passed_lost (hingest : s.job.ingestV2 = true)
    (hpauses : (connector (s.calls.length + 1)).pauses = false)
    (hpaused : (connector (s.calls.length + 2)).status.paused = false) :
    Passed s (s.reconcileContinuousRuntime
        (ClickHouseKafkaIngestV2Gateway job attemptId connector) input)
      [s.pollCall, s.signalCall, s.pollCall] s.control.status := by
  have htold : ToldUp (s.continuousWorkerStatus
      (ClickHouseKafkaIngestV2Gateway job attemptId connector)).1 := polled_up hjob hup
  obtain ⟨hnone, hcalls⟩ := @observe_lost job attemptId connector s hjob htold.present.1 hsignals
    hingest hpauses hpaused
  have hcontrol := ContinuousJob.control_reconcile_of_unobserved input hnone
  refine ⟨?_, ?_, ?_, ?_⟩
  · rw [ContinuousJob.reconcile_of_unobserved input hmode hnone]
    exact hcalls
  · rw [hcontrol]
  · rw [hcontrol]
  · rw [hcontrol]

end

end

end

/-! ## The calls of a command -/

section
variable (worker : WorkerGateway) (s : ContinuousJob) (command : Command) (input : CommandInput)

/-- The call of a start. -/
def ContinuousJob.startCall (s : ContinuousJob) : WorkerCall :=
  ⟨.start, s.fence, s.contract.desiredState⟩

theorem calls_reserve : (s.reserve command input).calls = s.calls := by
  rw [ContinuousJob.reserve]
  split
  · rfl
  · rw [ContinuousJob.reserveTerminal]
    split <;> rfl

theorem calls_answerTerminal :
    (s.answerTerminal worker command input).calls = s.calls ∨
      (s.answerTerminal worker command input).calls =
        s.calls ++ [⟨command.terminalAction, s.fence, s.contract.desiredState⟩] := by
  have hcalled : (s.dispatchTerminal worker command command.terminalAction input).2.calls = s.calls ∨
      (s.dispatchTerminal worker command command.terminalAction input).2.calls =
        s.calls ++ [⟨command.terminalAction, s.fence, s.contract.desiredState⟩] := by
    rw [ContinuousJob.dispatchTerminal]
    split
    · refine Or.inr ?_
      simp only
      split <;> rfl
    · exact Or.inl rfl
  rw [ContinuousJob.answerTerminal]
  split
  · exact hcalled
  · exact hcalled

theorem calls_answerStart :
    (s.answerStart worker command input).calls = (s.dispatchStart worker input).2.calls := by
  rw [ContinuousJob.answerStart]
  split
  · rfl
  · rw [ContinuousJob.bindStart]
    simp only
    split <;> rfl

variable {s} {input}

theorem calls_dispatch_deferred (h : input.dispatchWorker = false) :
    (s.dispatchStart worker input).2.calls = s.calls := by
  rw [ContinuousJob.dispatchStart, if_neg (by rw [h]; exact Bool.noConfusion)]

variable {worker} (h : input.dispatchWorker = true)
include h

theorem calls_dispatch_ok {result : WorkerStatus} (hanswer : worker s.calls.length .start = .ok result) :
    (s.dispatchStart worker input).2.calls = s.calls ++ [s.startCall] := by
  rw [ContinuousJob.dispatchStart, if_pos h, ContinuousJob.callWorker, hanswer]
  rfl

theorem calls_dispatch_error {error : ApiError}
    (hanswer : worker s.calls.length .start = .error error) :
    (s.dispatchStart worker input).2.calls = s.calls ++ [s.startCall, s.pollCall] := by
  have hcalled : s.callWorker worker .start s.fence =
      (.error error, { s with calls := s.calls ++ [s.startCall] }) := by
    rw [ContinuousJob.callWorker, hanswer]
    rfl
  have hpolled : ((s.calls ++ [s.startCall]) ++ [s.pollCall] : List WorkerCall) =
      s.calls ++ [s.startCall, s.pollCall] := List.append_assoc _ _ _
  have hrecovered : (({ s with calls := s.calls ++ [s.startCall] } :
      ContinuousJob).recoverLostStartResponse worker).2.calls =
        s.calls ++ [s.startCall, s.pollCall] := by
    rw [← hpolled, ContinuousJob.recoverLostStartResponse]
    simp only
    split
    · rfl
    · split <;> rfl
  rw [ContinuousJob.dispatchStart, if_pos h, hcalled]
  simp only
  split <;> exact hrecovered

end

/-! ## Each event -/

section
variable {t : OpenJob} {event : IngestEvent} {desired : DesiredState} {k : Nat}
  {worker : WorkerGateway}

/-- The laws of an event whose calls are known. -/
theorem lawfulIngest_iff {more : List WorkerCall}
    (hcalls : (ingestStep (ClickHouseKafkaIngestV2Gateway job attemptId connector) t
      event).rows.calls = t.rows.calls ++ more)
    (hdesired : (ingestStep (ClickHouseKafkaIngestV2Gateway job attemptId connector) t
      event).control.desired = some desired) :
    LawfulIngest job attemptId connector t event ↔
      WantedFrom job attemptId connector t.rows.calls.length more ∧
        MayShow (some desired) t.control.status
          (ingestStep (ClickHouseKafkaIngestV2Gateway job attemptId connector) t
            event).control.status := by
  constructor
  · rintro ⟨hprovisioned, hshows⟩
    rw [hcalls, List.drop_left] at hprovisioned
    rw [hdesired] at hshows
    exact ⟨hprovisioned, hshows⟩
  · rintro ⟨hprovisioned, hshows⟩
    refine ⟨?_, ?_⟩
    · rw [hcalls, List.drop_left]
      exact hprovisioned
    · rw [hdesired]
      exact hshows

/-- An event is lawful exactly if it is admitted, and then leaves the status coherent. -/
structure Judged (job : EtlJob) (attemptId : String) (connector : Nat → ConnectorAnswers)
    (t : OpenJob) (event : IngestEvent) : Prop where
  lawful : LawfulIngest job attemptId connector t event ↔ event.Admitted connector t
  coherent : LawfulIngest job attemptId connector t event →
    Coherent (ingestStep (ClickHouseKafkaIngestV2Gateway job attemptId connector) t event).control

theorem judged_reserve (ht : Coherent t.control) (name : String) (input : CommandInput) :
    Judged job attemptId connector t (.reserve name input) := by
  obtain ⟨desired, hdesired, hshows⟩ := ht.shows
  cases haccepted : t.rows.accepted name input with
  | none =>
      have hstep : ingestStep (ClickHouseKafkaIngestV2Gateway job attemptId connector) t
          (.reserve name input) = t := by
        rw [ingestStep, haccepted]
      have hlawful : LawfulIngest job attemptId connector t (.reserve name input) := by
        refine (@lawfulIngest_iff _ _ _ _ _ desired [] ?_ ?_).mpr ⟨trivial, ?_⟩
        · rw [hstep, List.append_nil]
        · rw [hstep]
          exact hdesired
        · rw [hstep]
          exact mayShow_same hshows
      refine ⟨⟨fun _ => trivial, fun _ => hlawful⟩, fun _ => ?_⟩
      rw [hstep]
      exact ht
  | some command =>
      have hstep : ingestStep (ClickHouseKafkaIngestV2Gateway job attemptId connector) t
          (.reserve name input) = t.reserve command input := by
        rw [ingestStep, haccepted]
      have hcontrol : (t.reserve command input).control =
          t.control.commanded (commandTransition t.rows.runtime.status command)
            (if command = .startContinuous ∨ command = .resumeContinuous then
              some input.requestedAttemptId else none) := t.rows.control_reserve command input
      have hlawful : LawfulIngest job attemptId connector t (.reserve name input) := by
        refine (@lawfulIngest_iff _ _ _ _ _
          (commandTransition t.rows.runtime.status command).desiredState [] ?_ ?_).mpr ⟨trivial, ?_⟩
        · rw [hstep, List.append_nil]
          exact calls_reserve t.rows command input
        · rw [hstep, hcontrol]
          rfl
        · rw [hstep, hcontrol]
          cases command with
          | startContinuous => exact (mayShow_up List.mem_cons_self).mpr rfl
          | resumeContinuous => exact (mayShow_up List.mem_cons_self).mpr rfl
          | pauseContinuous =>
              exact ⟨fun _ => by show PublicStatus.pausing ∉ _; decide, (fun h => nomatch h),
                fun h => nomatch h⟩
          | stopContinuous =>
              exact ⟨fun _ => by show PublicStatus.stopping ∉ _; decide, (fun h => nomatch h),
                fun _ h => nomatch h⟩
      refine ⟨⟨fun _ => trivial, fun _ => hlawful⟩, fun _ => ?_⟩
      rw [hstep, hcontrol]
      refine ⟨⟨(commandTransition t.rows.runtime.status command).desiredState, rfl, ?_⟩, ht.ingestV2⟩
      cases command with
      | startContinuous => exact List.mem_cons_self
      | resumeContinuous => exact List.mem_cons_self
      | pauseContinuous => exact List.mem_cons_self
      | stopContinuous => exact List.mem_cons_self

section
variable (hjob : job.ingestV2 = true) (ht : Coherent t.control)
include ht

/-- The answer of a command leaves the status coherent, whatever it calls. -/
theorem answered_shows {sent : PendingCommand} (hsent : t.pending[k]? = some sent)
    (hdesired : t.control.desired = some desired) (hshows : t.control.status ∈ desired.shows) :
    (t.answer worker k).control.desired = some desired ∧
      MayShow (some desired) t.control.status (t.answer worker k).control.status ∧
        Coherent (t.answer worker k).control := by
  have hanswered := t.rows.answered worker sent.command sent.input hdesired
  have hrows : (t.answer worker k).rows = t.rows.answer worker sent.command sent.input := by
    rw [OpenJob.answer, hsent]
  rw [← hrows] at hanswered
  have hwanted : (t.answer worker k).control.desired = some desired :=
    hanswered.desired.trans hdesired
  have hfailed : PublicStatus.failed ∈ desired.shows := by cases desired <;> decide
  have hingest : (t.answer worker k).control.ingestV2 = true := hanswered.ingestV2.trans ht.ingestV2
  rcases hanswered.status with hstatus | hstatus
  · have hstatus : (t.answer worker k).control.status = t.control.status := hstatus
    refine ⟨hwanted, ?_, ⟨desired, hwanted, ?_⟩, hingest⟩
    · rw [hstatus]
      exact mayShow_same hshows
    · rw [hstatus]
      exact hshows
  · have hstatus : (t.answer worker k).control.status = .failed := hstatus
    refine ⟨hwanted, ?_, ⟨desired, hwanted, ?_⟩, hingest⟩
    · rw [hstatus]
      exact mayShow_failed
    · rw [hstatus]
      exact hfailed

include hjob

/-- The calls of an answer, and what is asked of them. -/
theorem answered_calls {sent : PendingCommand} (hsent : t.pending[k]? = some sent) :
    ∃ more, (t.answer (ClickHouseKafkaIngestV2Gateway job attemptId connector) k).rows.calls =
        t.rows.calls ++ more ∧
      (WantedFrom job attemptId connector t.rows.calls.length more ↔
        (IngestEvent.answer k).Admitted connector t) := by
  have hrows : (t.answer (ClickHouseKafkaIngestV2Gateway job attemptId connector) k).rows =
      t.rows.answer (ClickHouseKafkaIngestV2Gateway job attemptId connector) sent.command
        sent.input := by
    rw [OpenJob.answer, hsent]
  have hadmitted : (IngestEvent.answer k).Admitted connector t ↔
      (sent.command.isStart = true → sent.input.dispatchWorker = true →
        t.control.desired ≠ some .running →
          (connector t.rows.calls.length).provisioning.registers = false ∧
            (connector (t.rows.calls.length + 1)).status.registers = false) := by
    refine ⟨fun h => h sent hsent, fun h other hother => ?_⟩
    obtain rfl := Option.some.inj (hsent.symm.trans hother)
    exact h
  rw [hrows, hadmitted, ContinuousJob.answer]
  by_cases hstart : sent.command = .startContinuous ∨ sent.command = .resumeContinuous
  · rw [if_pos hstart, calls_answerStart]
    have hisStart := Command.isStart_iff.mpr hstart
    cases hdispatch : sent.input.dispatchWorker with
    | false =>
        refine ⟨[], ?_, (fun _ _ h => by cases h), fun _ => trivial⟩
        rw [calls_dispatch_deferred _ hdispatch, List.append_nil]
    | true =>
        by_cases hrunning : t.control.desired = some .running
        · -- whatever is called, running is wanted
          have hwanted : ∀ more, (∀ call ∈ more, call.desiredState = t.rows.contract.desiredState) →
              (WantedFrom job attemptId connector t.rows.calls.length more ↔
                (sent.command.isStart = true → true = true → t.control.desired ≠ some .running →
                  (connector t.rows.calls.length).provisioning.registers = false ∧
                    (connector (t.rows.calls.length + 1)).status.registers = false)) :=
            fun more hmore => ⟨fun _ _ _ hnot => absurd hrunning hnot, fun _ =>
              wantedFrom_of_wanted _ fun call hcall => (hmore call hcall).trans hrunning⟩
          cases hanswer : ClickHouseKafkaIngestV2Gateway job attemptId connector t.rows.calls.length
              .start with
          | ok result =>
              refine ⟨_, calls_dispatch_ok hdispatch hanswer, hwanted _ fun call hcall => ?_⟩
              rw [List.mem_singleton.mp hcall]
              rfl
          | error error =>
              refine ⟨_, calls_dispatch_error hdispatch hanswer, hwanted _ fun call hcall => ?_⟩
              rcases List.mem_cons.mp hcall with rfl | hcall
              · rfl
              · rw [List.mem_singleton.mp hcall]
                rfl
        · have hnotWanted : t.rows.contract.desiredState ≠ some .running := hrunning
          have hfirst : (provisions (manage job attemptId (connector t.rows.calls.length)
              t.rows.startCall.action).2 = true → t.rows.startCall.desiredState = some .running) ↔
                (connector t.rows.calls.length).provisioning.registers = false := by
            show (provisions (manage job attemptId (connector t.rows.calls.length) .start).2 = true →
              t.rows.contract.desiredState = some .running) ↔ _
            rw [provisions_manage_start hjob]
            refine ⟨fun h => ?_, fun h hregisters => ?_⟩
            · exact Bool.eq_false_iff.mpr fun hregisters => hnotWanted (h hregisters)
            · rw [h] at hregisters
              cases hregisters
          have hsecond : (provisions (manage job attemptId (connector (t.rows.calls.length + 1))
              t.rows.pollCall.action).2 = true → t.rows.pollCall.desiredState = some .running) ↔
                (connector (t.rows.calls.length + 1)).status.registers = false := by
            show (provisions (manage job attemptId (connector (t.rows.calls.length + 1))
              .status).2 = true → t.rows.contract.desiredState = some .running) ↔ _
            rw [provisions_manage_status hjob]
            refine ⟨fun h => ?_, fun h hregisters => ?_⟩
            · exact Bool.eq_false_iff.mpr fun hregisters => hnotWanted (h hregisters)
            · rw [h] at hregisters
              cases hregisters
          cases hanswer : ClickHouseKafkaIngestV2Gateway job attemptId connector t.rows.calls.length
              .start with
          | ok result =>
              -- a start that has not failed has registered the connector
              have hregisters : (connector t.rows.calls.length).provisioning.registers ≠ false :=
                fun hnone => by
                  obtain ⟨error, herror⟩ := start_fails (connector t.rows.calls.length) attemptId hnone
                  rw [ClickHouseKafkaIngestV2Gateway, manage_enabled hjob, herror] at hanswer
                  cases hanswer
              refine ⟨_, calls_dispatch_ok hdispatch hanswer, ?_, ?_⟩
              · exact fun h => absurd (hfirst.mp h.1) hregisters
              · exact fun h => absurd (h hisStart rfl hrunning).1 hregisters
          | error error =>
              refine ⟨_, calls_dispatch_error hdispatch hanswer, ?_, ?_⟩
              · exact fun h _ _ _ => ⟨hfirst.mp h.1, hsecond.mp h.2.1⟩
              · exact fun h => ⟨hfirst.mpr (h hisStart rfl hrunning).1,
                  hsecond.mpr (h hisStart rfl hrunning).2, trivial⟩
  · rw [if_neg hstart]
    have hnotStart : sent.command.isStart ≠ true := fun h => hstart (Command.isStart_iff.mp h)
    rcases calls_answerTerminal (ClickHouseKafkaIngestV2Gateway job attemptId connector) t.rows
      sent.command sent.input with hcalls | hcalls
    · exact ⟨[], hcalls.trans (List.append_nil _).symm, fun _ h => absurd h hnotStart,
        fun _ => trivial⟩
    · refine ⟨_, hcalls, fun _ h => absurd h hnotStart, fun _ => ⟨fun hprovisions => ?_, trivial⟩⟩
      have haction : sent.command.terminalAction = .pause ∨ sent.command.terminalAction = .stop := by
        rw [Command.terminalAction]
        split
        · exact Or.inl rfl
        · exact Or.inr rfl
      rw [provisions_manage_terminal hjob _ haction] at hprovisions
      cases hprovisions

theorem judged_answer (k : Nat) : Judged job attemptId connector t (.answer k) := by
  obtain ⟨desired, hdesired, hshows⟩ := ht.shows
  cases hsent : t.pending[k]? with
  | none =>
      have hstep : ingestStep (ClickHouseKafkaIngestV2Gateway job attemptId connector) t
          (.answer k) = t := by
        rw [ingestStep, OpenJob.answer, hsent]
      have hlawful : LawfulIngest job attemptId connector t (.answer k) := by
        refine (@lawfulIngest_iff _ _ _ _ _ desired [] ?_ ?_).mpr ⟨trivial, ?_⟩
        · rw [hstep, List.append_nil]
        · rw [hstep]
          exact hdesired
        · rw [hstep]
          exact mayShow_same hshows
      have hadmitted : (IngestEvent.answer k).Admitted connector t := fun sent h => by
        rw [hsent] at h
        exact nomatch h
      refine ⟨⟨fun _ => hadmitted, fun _ => hlawful⟩, fun _ => ?_⟩
      rw [hstep]
      exact ht
  | some sent =>
      obtain ⟨hwanted, hmay, hcoherent⟩ := @answered_shows _ _ k
        (ClickHouseKafkaIngestV2Gateway job attemptId connector) ht sent hsent hdesired hshows
      obtain ⟨more, hcalls, hiff⟩ := @answered_calls job attemptId connector t k hjob ht sent hsent
      have hlawful := @lawfulIngest_iff job attemptId connector t (.answer k) desired more hcalls hwanted
      refine ⟨?_, fun _ => hcoherent⟩
      rw [hlawful, hiff]
      exact ⟨fun h => h.1, fun h => ⟨h, hmay⟩⟩

end

end

/-! ## A pass -/

section
variable {s : ContinuousJob}

/-- A poll while something else than running is wanted registers nothing. -/
theorem wanted_poll (hjob : job.ingestV2 = true) (hrest : s.contract.desiredState ≠ some .running)
    (n : Nat) :
    (provisions (manage job attemptId (connector n) s.pollCall.action).2 = true →
      s.pollCall.desiredState = some .running) ↔ (connector n).status.registers = false := by
  show (provisions (manage job attemptId (connector n) .status).2 = true →
    s.contract.desiredState = some .running) ↔ _
  rw [provisions_manage_status hjob]
  refine ⟨fun h => Bool.eq_false_iff.mpr fun hregisters => hrest (h hregisters), fun h hregisters => ?_⟩
  rw [h] at hregisters
  exact nomatch hregisters

theorem wanted_signal (hjob : job.ingestV2 = true) (n : Nat) :
    provisions (manage job attemptId (connector n) s.signalCall.action).2 = true →
      s.signalCall.desiredState = some .running := by
  intro hprovisions
  have haction : provisions (manage job attemptId (connector n) s.terminalAction).2 = false :=
    provisions_manage_terminal hjob (connector n) (terminalAction_cases s)
  have hprovisions : provisions (manage job attemptId (connector n) s.terminalAction).2 = true :=
    hprovisions
  rw [haction] at hprovisions
  exact nomatch hprovisions

/-- What a signal ends is what is wanted. -/
theorem signalled_shows {desired : DesiredState} (hsignals : s.signals = true)
    (hshows : s.control.status ∈ desired.shows) :
    (desired = .paused ∧
        (if s.control.status = .pausing ∨ s.terminalAction = .pause then PublicStatus.paused
          else .stopped) = .paused) ∨
      (desired = .stopped ∧
        (if s.control.status = .pausing ∨ s.terminalAction = .pause then PublicStatus.paused
          else .stopped) = .stopped) := by
  have hstatus : s.control.status ∈ [PublicStatus.pausing, .paused, .stopping, .stopped] :=
    of_decide_eq_true (Bool.and_eq_true_iff.mp hsignals).1
  have haction : s.terminalAction =
      if s.control.status ∈ [PublicStatus.pausing, .paused] then .pause else .stop := rfl
  rw [haction]
  revert hstatus hshows
  generalize s.control.status = status
  cases desired <;> cases status <;> decide

end

section
variable {t : OpenJob} {desired : DesiredState} (input : PassInput)
  (hjob : job.ingestV2 = true) (ht : Coherent t.control)
  (hmode : t.rows.job.executionMode = "continuous")
  (hdesired : t.control.desired = some desired) (hshows : t.control.status ∈ desired.shows)

section
include hdesired

/-- A pass whose outcome is known. -/
theorem lawful_of_passed {more : List WorkerCall} {status : PublicStatus}
    (hpassed : Passed t.rows (t.rows.reconcileContinuousRuntime
      (ClickHouseKafkaIngestV2Gateway job attemptId connector) input) more status) :
    LawfulIngest job attemptId connector t (.reconcile input) ↔
      WantedFrom job attemptId connector t.rows.calls.length more ∧
        MayShow (some desired) t.control.status status := by
  have hlawful := @lawfulIngest_iff job attemptId connector t (.reconcile input) desired more
    hpassed.calls (hpassed.desired.trans hdesired)
  have hstatus : (ingestStep (ClickHouseKafkaIngestV2Gateway job attemptId connector) t
      (.reconcile input)).control.status = status := hpassed.status
  rw [hstatus] at hlawful
  exact hlawful

/-- A pass that ends in a status that shows what is wanted. -/
theorem coherent_of_passed {more : List WorkerCall} {status : PublicStatus} (ht : Coherent t.control)
    (hpassed : Passed t.rows (t.rows.reconcileContinuousRuntime
      (ClickHouseKafkaIngestV2Gateway job attemptId connector) input) more status)
    (hstatus : status ∈ desired.shows) :
    Coherent (ingestStep (ClickHouseKafkaIngestV2Gateway job attemptId connector) t
      (.reconcile input)).control := by
  refine ⟨⟨desired, hpassed.desired.trans hdesired, ?_⟩, hpassed.ingestV2.trans ht.ingestV2⟩
  rw [show (ingestStep (ClickHouseKafkaIngestV2Gateway job attemptId connector) t
    (.reconcile input)).control.status = status from hpassed.status]
  exact hstatus

theorem admitted_reconcile (hmode : t.rows.job.executionMode = "continuous") :
    (IngestEvent.reconcile input).Admitted connector t ↔
      if desired = .running then (connector t.rows.calls.length).status.paused = false
      else
        PolledAtRest desired (connector t.rows.calls.length).status ∧
          ((connector t.rows.calls.length).status.up = true → t.rows.signals = true ∧
            ((connector (t.rows.calls.length + 1)).pauses = false →
              PolledAtRest desired (connector (t.rows.calls.length + 2)).status)) := by
  refine ⟨fun h => h hmode desired hdesired, fun h _ other hother => ?_⟩
  obtain rfl := Option.some.inj (hdesired.symm.trans hother)
  exact h

end

include hjob ht hmode hdesired hshows

/-- A pass while running is wanted. -/
theorem judged_running (hrunning : desired = .running) :
    Judged job attemptId connector t (.reconcile input) := by
  have hadmitted := @admitted_reconcile connector t desired input hdesired hmode
  rw [if_pos hrunning] at hadmitted
  have hwanted : WantedFrom job attemptId connector t.rows.calls.length [t.rows.pollCall] := by
    refine ⟨fun _ => ?_, trivial⟩
    rw [← hrunning]
    exact hdesired
  have hsignals : t.rows.signals = false := by
    rw [hrunning] at hshows
    have hstatus : decide (t.rows.runtime.status ∈
        [PublicStatus.pausing, .paused, .stopping, .stopped]) = false := by
      have hshows : t.rows.runtime.status ∈ DesiredState.running.shows := hshows
      revert hshows
      cases t.rows.runtime.status <;> decide
    rw [ContinuousJob.signals, hstatus, Bool.false_and]
  cases hpaused : (connector t.rows.calls.length).status.paused with
  | true =>
      have hpassed := @passed_paused job attemptId connector t.rows desired input hmode hdesired hjob hpaused
      have hnot : ¬ LawfulIngest job attemptId connector t (.reconcile input) := fun hlawful => by
        have hmay := ((lawful_of_passed input hdesired hpassed).mp hlawful).2
        rw [mayShow_paused hshows, hrunning] at hmay
        exact nomatch hmay
      refine ⟨⟨fun h => absurd h hnot, fun h => ?_⟩, fun h => absurd h hnot⟩
      rw [hadmitted, hpaused] at h
      exact nomatch h
  | false =>
      have hmeets : (IngestEvent.reconcile input).Admitted connector t := hadmitted.mpr hpaused
      obtain ⟨status, hmay, hstatus, hpassed⟩ : ∃ status,
          MayShow (some desired) t.control.status status ∧ status ∈ desired.shows ∧
            Passed t.rows (t.rows.reconcileContinuousRuntime
              (ClickHouseKafkaIngestV2Gateway job attemptId connector) input) [t.rows.pollCall]
              status := by
        cases hup : (connector t.rows.calls.length).status.up with
        | true =>
            obtain ⟨status, hstatus, hpassed⟩ :=
              @passed_up job attemptId connector t.rows desired input hmode hdesired hjob hup hsignals
            refine ⟨status, (mayShow_up hstatus).mpr hrunning, ?_, hpassed⟩
            rw [hrunning]
            cases status <;> revert hstatus <;> decide
        | false =>
            obtain ⟨status, hstatus, hpassed⟩ := @passed_down job attemptId connector t.rows desired input
              hmode hdesired hjob ht.ingestV2 hpaused hup
            rcases hstatus with rfl | rfl
            · refine ⟨_, mayShow_failed, ?_, hpassed⟩
              rw [hrunning]
              decide
            · exact ⟨_, mayShow_same hshows, hshows, hpassed⟩
      have hlawful := (lawful_of_passed input hdesired hpassed).mpr ⟨hwanted, hmay⟩
      exact ⟨⟨fun _ => hmeets, fun _ => hlawful⟩,
        fun _ => coherent_of_passed input hdesired ht hpassed hstatus⟩

/-- A pass while a pause or stop is wanted. -/
theorem judged_at_rest (hrest : desired ≠ .running) :
    Judged job attemptId connector t (.reconcile input) := by
  have hadmitted := @admitted_reconcile connector t desired input hdesired hmode
  rw [if_neg hrest] at hadmitted
  have hnotWanted : t.rows.contract.desiredState ≠ some .running := fun hrunning =>
    hrest (Option.some.inj (hdesired.symm.trans hrunning))
  have hfirst := @wanted_poll job attemptId connector t.rows hjob hnotWanted t.rows.calls.length
  have hsignal := @wanted_signal job attemptId connector t.rows hjob (t.rows.calls.length + 1)
  have hsecond := @wanted_poll job attemptId connector t.rows hjob hnotWanted
    (t.rows.calls.length + 1 + 1)
  obtain ⟨polled, hpolled⟩ : ∃ polled, polled = (connector t.rows.calls.length).status := ⟨_, rfl⟩
  rw [← hpolled] at hfirst hadmitted
  cases hpaused : polled.paused with
  | true =>
      obtain ⟨hup, hregisters⟩ := StatusAnswers.up_of_paused hpaused
      have hpassed := @passed_paused job attemptId connector t.rows desired input hmode hdesired hjob
        (by rw [← hpolled]; exact hpaused)
      have hlawful := lawful_of_passed input hdesired hpassed
      rw [mayShow_paused hshows] at hlawful
      constructor
      · rw [hlawful, hadmitted]
        constructor
        · exact fun h => ⟨⟨hregisters, fun _ => h.2⟩, fun h => by rw [hup] at h; exact nomatch h⟩
        · exact fun h => ⟨⟨hfirst.mpr hregisters, trivial⟩, h.1.paused hpaused⟩
      · intro h
        refine coherent_of_passed input hdesired ht hpassed ?_
        rw [(hlawful.mp h).2]
        decide
  | false =>
      cases hup : polled.up with
      | false =>
          obtain ⟨status, hstatus, hpassed⟩ := @passed_down job attemptId connector t.rows desired input
              hmode hdesired hjob ht.ingestV2 (by rw [← hpolled]; exact hpaused)
            (by rw [← hpolled]; exact hup)
          have hmay : MayShow (some desired) t.control.status status ∧ status ∈ desired.shows := by
            rcases hstatus with rfl | rfl
            · refine ⟨mayShow_failed, ?_⟩
              cases desired <;> decide
            · exact ⟨mayShow_same hshows, hshows⟩
          constructor
          · rw [lawful_of_passed input hdesired hpassed, hadmitted]
            constructor
            · exact fun h => ⟨⟨hfirst.mp h.1.1, fun h => by rw [hpaused] at h; exact nomatch h⟩,
                fun h => by rw [hup] at h; exact nomatch h⟩
            · exact fun h => ⟨⟨hfirst.mpr h.1.registered, trivial⟩, hmay.1⟩
          · exact fun _ => coherent_of_passed input hdesired ht hpassed hmay.2
      | true =>
          have hpresent : (connector t.rows.calls.length).status.up = true := by
            rw [← hpolled]
            exact hup
          cases hsignals : t.rows.signals with
          | false =>
              obtain ⟨status, hstatus, hpassed⟩ :=
                @passed_up job attemptId connector t.rows desired input hmode hdesired hjob hpresent hsignals
              have hnot : ¬ LawfulIngest job attemptId connector t (.reconcile input) := fun hlawful =>
                hrest ((mayShow_up hstatus).mp
                  ((lawful_of_passed input hdesired hpassed).mp hlawful).2)
              refine ⟨⟨fun h => absurd h hnot, fun h => ?_⟩, fun h => absurd h hnot⟩
              have hsignalled := ((hadmitted.mp h).2 hup).1
              rw [hsignals] at hsignalled
              exact nomatch hsignalled
          | true =>
              cases hpauses : (connector (t.rows.calls.length + 1)).pauses with
              | true =>
                  have hpassed := @passed_signalled job attemptId connector t.rows desired input hmode
                    hdesired hjob
                    hpresent hsignals hpauses
                  have hends := signalled_shows hsignals hshows
                  have hmay : MayShow (some desired) t.control.status
                      (if t.rows.control.status = .pausing ∨ t.rows.terminalAction = .pause then
                        PublicStatus.paused else .stopped) ∧
                      (if t.rows.control.status = .pausing ∨ t.rows.terminalAction = .pause then
                        PublicStatus.paused else .stopped) ∈ desired.shows := by
                    rcases hends with ⟨hwanted, hstatus⟩ | ⟨hwanted, hstatus⟩
                    · rw [hstatus]
                      refine ⟨(mayShow_paused hshows).mpr hwanted, ?_⟩
                      rw [hwanted]
                      decide
                    · rw [hstatus]
                      refine ⟨mayShow_stopped hrest, ?_⟩
                      rw [hwanted]
                      decide
                  constructor
                  · rw [lawful_of_passed input hdesired hpassed, hadmitted]
                    constructor
                    · exact fun h => ⟨⟨hfirst.mp h.1.1, fun h => by rw [hpaused] at h; exact nomatch h⟩,
                        fun _ => ⟨hsignals, fun h => by rw [hpauses] at h; exact nomatch h⟩⟩
                    · exact fun h => ⟨⟨hfirst.mpr h.1.registered, hsignal, trivial⟩, hmay.1⟩
                  · exact fun _ => coherent_of_passed input hdesired ht hpassed hmay.2
              | false =>
                  cases hagain : (connector (t.rows.calls.length + 2)).status.paused with
                  | true =>
                      have hregisters := (StatusAnswers.up_of_paused hagain).2
                      have hpassed := @passed_recovered job attemptId connector t.rows desired input hmode
                        hdesired hjob hpresent hsignals hpauses hagain
                      have hlawful := lawful_of_passed input hdesired hpassed
                      rw [mayShow_paused hshows] at hlawful
                      constructor
                      · rw [hlawful, hadmitted]
                        constructor
                        · exact fun h => ⟨⟨hfirst.mp h.1.1, fun h => by
                              rw [hpaused] at h; exact nomatch h⟩,
                            fun _ => ⟨hsignals, fun _ => ⟨hregisters, fun _ => h.2⟩⟩⟩
                        · exact fun h => ⟨⟨hfirst.mpr h.1.registered, hsignal,
                            hsecond.mpr hregisters, trivial⟩, ((h.2 hup).2 hpauses).paused hagain⟩
                      · intro h
                        refine coherent_of_passed input hdesired ht hpassed ?_
                        rw [(hlawful.mp h).2]
                        decide
                  | false =>
                      have hpassed := @passed_lost job attemptId connector t.rows desired input hmode hdesired hjob
                        hpresent hsignals ht.ingestV2 hpauses hagain
                      constructor
                      · rw [lawful_of_passed input hdesired hpassed, hadmitted]
                        constructor
                        · exact fun h => ⟨⟨hfirst.mp h.1.1, fun h => by
                              rw [hpaused] at h; exact nomatch h⟩,
                            fun _ => ⟨hsignals, fun _ => ⟨hsecond.mp h.1.2.2.1, fun h => by
                              rw [hagain] at h; exact nomatch h⟩⟩⟩
                        · exact fun h => ⟨⟨hfirst.mpr h.1.registered, hsignal,
                            hsecond.mpr ((h.2 hup).2 hpauses).registered, trivial⟩,
                              mayShow_same hshows⟩
                      · exact fun _ => coherent_of_passed input hdesired ht hpassed hshows

end

end

/-! ## Runs -/

/-- A job that has not been started yet. -/
def OpenJob.new (job : EtlJob) (identity : ConsumerIdentity) : OpenJob := ⟨.new job identity, []⟩

section
variable {job : EtlJob} {attemptId : String} {connector : Nat → ConnectorAnswers}

theorem coherent_new (hjob : job.ingestV2 = true) (identity : ConsumerIdentity) :
    Coherent (OpenJob.new job identity).control :=
  ⟨⟨.stopped, rfl, List.mem_cons_of_mem _ List.mem_cons_self⟩, hjob⟩

theorem judged (hjob : job.ingestV2 = true) {t : OpenJob} (ht : Coherent t.control)
    (event : IngestEvent) : Judged job attemptId connector t event := by
  cases event with
  | reserve name input => exact judged_reserve ht name input
  | answer k => exact judged_answer hjob ht k
  | reconcile input =>
      obtain ⟨desired, hdesired, hshows⟩ := ht.shows
      by_cases hmode : t.rows.job.executionMode = "continuous"
      · by_cases hrunning : desired = .running
        · exact judged_running input hjob ht hmode hdesired hshows hrunning
        · exact judged_at_rest input hjob ht hmode hdesired hshows hrunning
      · have hstep : ingestStep (ClickHouseKafkaIngestV2Gateway job attemptId connector) t
            (.reconcile input) = t := by
          rw [ingestStep, OpenJob.reconcile, ContinuousJob.reconcileContinuousRuntime, if_pos hmode]
        have hlawful : LawfulIngest job attemptId connector t (.reconcile input) := by
          refine (@lawfulIngest_iff _ _ _ _ _ desired [] ?_ ?_).mpr ⟨trivial, ?_⟩
          · rw [hstep, List.append_nil]
          · rw [hstep]
            exact hdesired
          · rw [hstep]
            exact mayShow_same hshows
        refine ⟨⟨fun _ h => absurd h hmode, fun _ => hlawful⟩, fun _ => ?_⟩
        rw [hstep]
        exact ht

end

/-- A Kafka job that Kafka Connect runs. -/
def connectJob : EtlJob := { ordersJob with id := "JOB-CONNECT", ingestV2 := true }

def readyProbe : ConnectorProbe := ⟨true, true, "RUNNING", ["RUNNING"]⟩

def pausedProbe : ConnectorProbe := ⟨true, true, "PAUSED", []⟩

def unregisteredProbe : ConnectorProbe := ⟨true, false, "UNREGISTERED", []⟩

/-- A connector that does as it is asked, and whose `n`-th probe is the `n`-th of these. -/
def connectorOf (probes : List ConnectorProbe) : Nat → ConnectorAnswers := fun n =>
  { provisioning := ⟨.ok (), .ok (), .ok ()⟩
    status :=
      { probe := .ok (probes.getD n readyProbe)
        provisioning := ⟨.ok (), .ok (), .ok ()⟩
        restartFailed := .ok ()
        rawProgress := .ok ([], 0)
        catalog := .ok none }
    pauseProbe := .ok (probes.getD n readyProbe)
    pauseConnector := .ok () }

def sent : CommandInput :=
  { dispatchWorker := true, requestedAttemptId := firstAttempt }

def quietly : IngestEvent := .reconcile (quietPass { state := .missing })

/-- A start and a pass over it, and then a command and the pass over that. -/
def thenRun (name : String) : List IngestEvent :=
  [.reserve "startContinuous" sent, .answer 0, quietly, .reserve name sent, .answer 0, quietly]

end AskLake.ContinuousRuntime

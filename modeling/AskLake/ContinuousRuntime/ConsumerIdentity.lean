/-
# `AskLake.ContinuousRuntime.ConsumerIdentity` — who reads a topic, and how many of them

Many jobs, each with a runtime of its own.  A start locks its own row, asks whether
another active runtime has its consumer identity, and commits in the end:

    check      the row is locked, and the other rows are read
    commit     the start is written down
    answer     its worker has answered

Nothing locks the other rows, and a start is not the only way to become active: a
runtime that has failed comes back with a pass, and a stop of a paused one is active
until it is confirmed.  The identity stays exclusive in the runs in which a runtime that
becomes active meets no other active one, at its commit or pass and not only at its
check.
-/
import AskLake.Lib.Run
import AskLake.ContinuousRuntime.Dispatch
import AskLake.ContinuousRuntime.IngestMoves

namespace AskLake.ContinuousRuntime

open AskLake.Lib AskLake.Python

/-! ## Runtimes that a pass wakes -/

/-- A decision takes the runtime for an active one. -/
def RuntimeEvidence.wakes (evidence : RuntimeEvidence) (answer : Except ApiError WorkerStatus)
    (payload : Report) : Bool :=
  match (decideReconciliation evidence).action with
  | .restartWorker => answer.toOption.isSome
  | .waitForReport => evidence.publicStatus ≠ .failed
  | .applyReport =>
      (decideReconciliation evidence).terminalStatus.isNone &&
        (payload.status.elim (some evidence.publicStatus) PublicStatus.ofValue?).any fun reported =>
          (ContinuousJob.reportedNext evidence.desiredState evidence.contractInitialized none
            reported).active
  | .applyTerminalIntent | .waitForTerminalConfirmation | .ignoreStaleReport | .recordReportError
  | .recoverPublication => false

namespace ContinuousJob

/-- A pass finds the worker at work, or starts it again. -/
def wakes (worker : WorkerGateway) (s : ContinuousJob) (input : PassInput) : Bool :=
  s.job.executionMode = "continuous" &&
    (s.observe worker).1.any fun (status, container) =>
      if status.worker = some "kafka_connect_clickhouse_v2" then container ∈ activeContainers
      else
        ((s.observe worker).2.runtimeEvidence input.document status container).wakes
          (worker (s.observe worker).2.calls.length .start) input.document.payload

section
variable (worker : WorkerGateway) (s : ContinuousJob) (input : PassInput) (status : WorkerStatus)
  (container : String)

/-- What is wanted where a pause or stop is waited for. -/
theorem current_of_wait {evidence : RuntimeEvidence}
    (h : (decideReconciliation evidence).action = .waitForTerminalConfirmation) :
    evidence.terminalIntentIsCurrent = true := by
  by_cases hdecided : evidence.terminalDecided
  · exact hdecided.1
  · have hwarranted := @warranted_decideFromReport evidence
    rw [← decide_of_open hdecided, h] at hwarranted
    exact hwarranted.elim

/-- An inactive runtime that waits for a pause or stop stays inactive. -/
theorem inactive_waiting {desired : DesiredState} (hdesired : desired ≠ .running)
    {current : PublicStatus} (hinactive : current.active = false) :
    (derivePublicStatus desired (observedStateFromEvidence current)).active = false := by
  cases current with
  | starting => exact nomatch hinactive
  | running => exact nomatch hinactive
  | pausing => exact nomatch hinactive
  | stopping => exact nomatch hinactive
  | failed => rfl
  | paused =>
      cases desired with
      | running => exact absurd rfl hdesired
      | paused => rfl
      | stopped => rfl
  | stopped =>
      cases desired with
      | running => exact absurd rfl hdesired
      | paused => rfl
      | stopped => rfl

/-- What is done of a decision keeps an inactive runtime inactive, unless it wakes it. -/
theorem inactive_act {evidence : RuntimeEvidence} (hshows : s.control.Shows evidence)
    (hinactive : s.control.status.active = false)
    (hasleep : evidence.wakes (worker s.calls.length .start) input.document.payload = false) :
    (s.act worker input status container evidence
      (decideReconciliation evidence)).control.status.active = false := by
  rw [RuntimeEvidence.wakes] at hasleep
  rw [act]
  cases haction : (decideReconciliation evidence).action with
  | applyTerminalIntent =>
      simp only
      rw [control_applyTerminalIntent]
      cases hterminal : (decideReconciliation evidence).terminalStatus with
      | none => rfl
      | some terminal => exact inactive_of_terminalStatus hterminal
  | waitForTerminalConfirmation =>
      simp only
      rw [control_waitForTerminalConfirmation]
      exact inactive_waiting (desired_of_current (current_of_wait haction)) hinactive
  | ignoreStaleReport => exact hinactive
  | recordReportError => exact hinactive
  | recoverPublication =>
      simp only
      rw [control_recoverWithoutReport]
      exact hinactive
  | restartWorker =>
      simp only [haction] at hasleep ⊢
      cases hanswer : worker s.calls.length .start with
      | error error =>
          rw [control_restartMissingWorker_error s worker hanswer]
          rfl
      | ok result =>
          rw [hanswer] at hasleep
          cases hasleep
  | waitForReport =>
      simp only [haction] at hasleep ⊢
      have hfailed : s.control.status = .failed := by
        rw [← hshows.status]
        exact not_not.mp (of_decide_eq_false hasleep)
      rw [control_waitForReport, hfailed]
      rfl
  | applyReport =>
      simp only [haction] at hasleep ⊢
      cases hterminal : (decideReconciliation evidence).terminalStatus with
      | some terminal =>
          rw [control_applyForcedReport _ _ _ _ _ _ (inactive_of_terminalStatus hterminal)]
          exact inactive_of_terminalStatus hterminal
      | none =>
          have hdesired : s.desiredState = evidence.desiredState := hshows.desired.symm
          have hstatus : s.runtime.status = evidence.publicStatus := hshows.status.symm
          rcases s.control_applyContinuousRuntimeReport worker input input.document.payload status
            evidence.contractInitialized with hkept | ⟨reported, next, hreported, hnext, hcontrol⟩
          · rw [hkept]
            exact hinactive
          · have hquiet : next.active = false := by
              rw [hstatus] at hreported
              rw [hterminal, hreported] at hasleep
              rw [hnext, hdesired]
              exact hasleep
            rcases hcontrol with hcontrol | ⟨hactive, -⟩
            · rw [hcontrol]
              exact hquiet
            · rw [hquiet] at hactive
              cases hactive

/-- A pass over a Kafka Connect worker activates a runtime only if the connector is there,
or if it is active already. -/
theorem inactive_ingest {answer : Except ApiError WorkerStatus} {c next : Control}
    (h : IngestMove status container answer c next) (hinactive : c.status.active = false)
    (hasleep : container ∉ activeContainers) : next.status.active = false := by
  have hnotUp : c.status ∉ [PublicStatus.starting, .running] := fun hup => by
    rcases List.mem_cons.mp hup with hup | hup
    · rw [hup] at hinactive
      exact nomatch hinactive
    · rw [List.mem_singleton.mp hup] at hinactive
      exact nomatch hinactive
  cases h with
  | ended hgone hended => exact endedStatus_inactive c.status status
  | restarted hgone hquiet hup result hanswer => exact absurd hup hnotUp
  | restartFailed hgone hquiet hup error hanswer => exact absurd hup hnotUp
  | active hactive => exact absurd hactive hasleep
  | statusFailed hquiet hinactive message hmessage => rfl
  | kept hquiet hnot hmessage => exact hinactive

variable {s}

/-- A pass keeps an inactive runtime inactive, unless it wakes it. -/
theorem inactive_reconcile (hinactive : s.control.status.active = false)
    (hasleep : s.wakes worker input = false) :
    (s.reconcileContinuousRuntime worker input).control.status.active = false := by
  by_cases hmode : s.job.executionMode = "continuous"
  · cases hobserved : (s.observe worker).1 with
    | none =>
        rw [control_reconcile_of_unobserved input hobserved]
        exact hinactive
    | some observed =>
        obtain ⟨status, container⟩ := observed
        rw [wakes, hmode, hobserved] at hasleep
        have hasleep : (if status.worker = some "kafka_connect_clickhouse_v2" then
            decide (container ∈ activeContainers)
          else ((s.observe worker).2.runtimeEvidence input.document status container).wakes
            (worker (s.observe worker).2.calls.length .start) input.document.payload) = false :=
          hasleep
        by_cases hconnect : status.worker = some "kafka_connect_clickhouse_v2"
        · rw [if_pos hconnect] at hasleep
          exact inactive_ingest status container
            (move_reconcile_connect input hmode hobserved hconnect) hinactive
            (of_decide_eq_false hasleep)
        · rw [if_neg hconnect] at hasleep
          rw [reconcile_of_observed input hmode hobserved, if_neg hconnect]
          have hshows := (s.observe worker).2.shows_runtimeEvidence input status container
          have hstatus : (s.observe worker).2.control.status.active = false := by
            rw [control_observe]
            exact hinactive
          exact inactive_act worker ((s.observe worker).2.recordReconciliation _ container
            input.document) input status container hshows hstatus hasleep
  · rw [reconcileContinuousRuntime, if_pos hmode]
    exact hinactive

end

end ContinuousJob

/-! ## What a pass never changes -/

/-- Who the runtime is stays, and so does that it is written down what is wanted. -/
structure Control.Kept (c next : Control) : Prop where
  identity : next.identity = c.identity
  written : c.desired.isSome = true → next.desired.isSome = true

theorem SparkMove.keeps {evidence : RuntimeEvidence} {named : Option Text}
    {answer : Except ApiError WorkerStatus} {c next : Control}
    (h : SparkMove evidence named answer c next) : c.Kept next := by
  cases h with
  | kept hopen => exact ⟨rfl, fun hwritten => hwritten⟩
  | confirmed hcurrent hgone attempt hattempt => exact ⟨rfl, fun _ => rfl⟩
  | waiting hcurrent hpresent => exact ⟨rfl, fun _ => rfl⟩
  | restarted hrunning hinitialized result hanswer => exact ⟨rfl, fun _ => rfl⟩
  | restartFailed hrunning hinitialized error hanswer => exact ⟨rfl, fun _ => rfl⟩
  | waitingForReport hrunning => exact ⟨rfl, fun _ => rfl⟩
  | reported hopen hfresh reported => exact ⟨rfl, fun _ => rfl⟩
  | reportedFailed hopen hfresh reported hactive => exact ⟨rfl, fun _ => rfl⟩

theorem IngestMove.keeps {status : WorkerStatus} {container : String}
    {answer : Except ApiError WorkerStatus} {c next : Control}
    (h : IngestMove status container answer c next) : c.Kept next := by
  cases h with
  | ended hgone hended => exact ⟨rfl, fun _ => rfl⟩
  | restarted hgone hquiet hup result hanswer => exact ⟨rfl, fun _ => rfl⟩
  | restartFailed hgone hquiet hup error hanswer => exact ⟨rfl, fun _ => rfl⟩
  | active hactive => exact ⟨rfl, fun _ => rfl⟩
  | statusFailed hquiet hinactive message hmessage => exact ⟨rfl, fun hwritten => hwritten⟩
  | kept hquiet hinactive hmessage => exact ⟨rfl, fun hwritten => hwritten⟩

theorem ContinuousJob.kept_reconcile (worker : WorkerGateway) (s : ContinuousJob) (input : PassInput) :
    s.control.Kept (s.reconcileContinuousRuntime worker input).control := by
  by_cases hmode : s.job.executionMode = "continuous"
  · cases hobserved : (s.observe worker).1 with
    | none =>
        rw [control_reconcile_of_unobserved input hobserved]
        exact ⟨rfl, fun hwritten => hwritten⟩
    | some observed =>
        obtain ⟨status, container⟩ := observed
        by_cases hconnect : status.worker = some "kafka_connect_clickhouse_v2"
        · exact (move_reconcile_connect input hmode hobserved hconnect).keeps
        · have hmove := move_reconcileSpark worker (s.observe worker).2 input status container
          rw [control_observe] at hmove
          rw [reconcile_of_observed input hmode hobserved, if_neg hconnect]
          exact hmove.keeps
  · rw [reconcileContinuousRuntime, if_pos hmode]
    exact ⟨rfl, fun hwritten => hwritten⟩

/-! ## The runtimes of all jobs -/

/-- A runtime's row, with the start that has it locked, if one has. -/
structure RuntimeRow where
  jobId : String
  job : OpenJob
  checked : Option PendingCommand

namespace RuntimeRow

def status (row : RuntimeRow) : PublicStatus := row.job.control.status

def active (row : RuntimeRow) : Bool := row.status.active

def identity (row : RuntimeRow) : ConsumerIdentity := row.job.control.identity

end RuntimeRow

/-- `find_conflicting_kafka_continuous_runtime` -/
def findConflictingRuntime (fleet : List RuntimeRow) (row : RuntimeRow) :
    Option (String × PublicStatus) :=
  (fleet.find? fun other =>
    other.jobId ≠ row.jobId ∧ other.identity = row.identity ∧ other.active = true).map
      fun other => (other.jobId, other.status)

theorem findConflictingRuntime_eq_none {fleet : List RuntimeRow} {row : RuntimeRow}
    (h : findConflictingRuntime fleet row = none) {other : RuntimeRow} (hother : other ∈ fleet)
    (hactive : other.active = true) (hidentity : other.identity = row.identity) :
    other.jobId = row.jobId := by
  by_contra hne
  exact List.find?_eq_none.mp (Option.map_eq_none_iff.mp h) other hother
    (decide_eq_true ⟨hne, hidentity, hactive⟩)

/-- What is done on one row. -/
inductive RowEvent
  /-- a start or resume locks the row, and asks what forbids it -/
  | check (name : String) (input : CommandInput)
  | commit
  | rollback
  /-- a pause or stop locks the row, asks, and commits -/
  | terminate (name : String) (input : CommandInput)
  /-- the worker of a command on its way answers -/
  | answer (k : Nat)
  | reconcile (input : PassInput)

structure FleetEvent where
  jobId : String
  event : RowEvent

namespace RuntimeRow

/-- An event on its row; `conflict` is what is read of the other rows.  While a start has
the row locked, nothing else is done on it. -/
def serve (worker : WorkerGateway) (conflict : Option (String × PublicStatus)) (row : RuntimeRow) :
    RowEvent → RuntimeRow
  | .check name input =>
      if row.checked.isSome then row
      else
        match row.job.rows.accepted name { input with conflict } with
        | some command =>
            if command.isStart then { row with checked := some ⟨command, { input with conflict }⟩ }
            else row
        | none => row
  | .commit =>
      match row.checked with
      | some start => { row with job := row.job.reserve start.command start.input, checked := none }
      | none => row
  | .rollback => { row with checked := none }
  | .terminate name input =>
      if row.checked.isSome then row
      else
        match row.job.rows.accepted name input with
        | some command => if command.isStart then row else { row with job := row.job.reserve command input }
        | none => row
  | .answer k => if row.checked.isSome then row else { row with job := row.job.answer worker k }
  | .reconcile input =>
      if row.checked.isSome then row else { row with job := row.job.reconcile worker input }

/-- The event makes an inactive runtime active. -/
def activates (worker : WorkerGateway) (row : RuntimeRow) (event : RowEvent) : Bool :=
  !row.active &&
    match event with
    | .check _ _ | .rollback | .answer _ => false
    | .commit => row.checked.isSome
    | .terminate name input =>
        row.checked.isNone && (row.job.rows.accepted name input).any fun command => !command.isStart
    | .reconcile input => row.checked.isNone && row.job.rows.wakes worker input

end RuntimeRow

def fleetStep (workers : String → WorkerGateway) (fleet : List RuntimeRow) (event : FleetEvent) :
    List RuntimeRow :=
  fleet.map fun row =>
    if row.jobId = event.jobId then
      row.serve (workers row.jobId) (findConflictingRuntime fleet row) event.event
    else row

/-- At most one active runtime has any one consumer identity. -/
def Exclusive (fleet : List RuntimeRow) : Prop :=
  ∀ a ∈ fleet, ∀ b ∈ fleet, a.active = true → b.active = true → a.identity = b.identity →
    a.jobId = b.jobId

/-- A runtime that becomes active meets no other active one with its identity. -/
def FleetEvent.Unrivalled (workers : String → WorkerGateway) (fleet : List RuntimeRow)
    (event : FleetEvent) : Prop :=
  ∀ row ∈ fleet, row.jobId = event.jobId →
    row.activates (workers row.jobId) event.event = true → findConflictingRuntime fleet row = none

instance (fleet : List RuntimeRow) : Decidable (Exclusive fleet) :=
  inferInstanceAs (Decidable (∀ a ∈ fleet, ∀ b ∈ fleet, a.active = true → b.active = true →
    a.identity = b.identity → a.jobId = b.jobId))

instance (workers : String → WorkerGateway) (fleet : List RuntimeRow) (event : FleetEvent) :
    Decidable (event.Unrivalled workers fleet) :=
  inferInstanceAs (Decidable (∀ row ∈ fleet, row.jobId = event.jobId →
    row.activates (workers row.jobId) event.event = true →
      findConflictingRuntime fleet row = none))

/-! ## One event -/

/-- A row's runtime, as far as the other rows are concerned. -/
def RuntimeRow.written (row : RuntimeRow) : Prop := row.job.control.desired.isSome = true

/-- What an event does to its row. -/
structure RuntimeRow.Served (worker : WorkerGateway) (event : RowEvent) (row next : RuntimeRow) :
    Prop where
  jobId : next.jobId = row.jobId
  identity : next.identity = row.identity
  written : next.written
  active : next.active = true → row.active = true ∨ row.activates worker event = true

section
variable {worker : WorkerGateway} {conflict : Option (String × PublicStatus)} {row : RuntimeRow}

theorem RuntimeRow.served_same {event : RowEvent} (hwritten : row.written) :
    row.Served worker event row :=
  ⟨rfl, rfl, hwritten, Or.inl⟩

/-- A row whose lock is taken or given back. -/
theorem RuntimeRow.served_locked {event : RowEvent} (hwritten : row.written)
    (checked : Option PendingCommand) : row.Served worker event { row with checked } :=
  ⟨rfl, rfl, hwritten, Or.inl⟩

/-- A command that is committed activates its runtime. -/
theorem RuntimeRow.served_reserve {event : RowEvent} (command : Command) (input : CommandInput)
    (hactivates : row.active = false → row.activates worker event = true)
    (checked : Option PendingCommand) :
    row.Served worker event { row with job := row.job.reserve command input, checked } := by
  have hcontrol : (row.job.reserve command input).control =
      row.job.control.commanded (commandTransition row.job.rows.runtime.status command)
        (if command = .startContinuous ∨ command = .resumeContinuous then
          some input.requestedAttemptId else none) :=
    row.job.rows.control_reserve command input
  refine ⟨rfl, ?_, ?_, fun _ => ?_⟩
  · show (row.job.reserve command input).control.identity = row.job.control.identity
    rw [hcontrol]
    rfl
  · show (row.job.reserve command input).control.desired.isSome = true
    rw [hcontrol]
    rfl
  · cases hactive : row.active with
    | true => exact Or.inl rfl
    | false => exact Or.inr (hactivates hactive)

theorem RuntimeRow.served_answer (hwritten : row.written) (k : Nat) (event : RowEvent) :
    row.Served worker event { row with job := row.job.answer worker k } := by
  obtain ⟨desired, hdesired⟩ := Option.isSome_iff_exists.mp hwritten
  cases hsent : row.job.pending[k]? with
  | none =>
      have hsame : row.job.answer worker k = row.job := by rw [OpenJob.answer, hsent]
      rw [hsame]
      exact served_same hwritten
  | some sent =>
      have hanswered := row.job.rows.answered worker sent.command sent.input hdesired
      have hrows : (row.job.answer worker k).rows =
          row.job.rows.answer worker sent.command sent.input := by rw [OpenJob.answer, hsent]
      rw [← hrows] at hanswered
      refine ⟨rfl, hanswered.identity, ?_, fun hactive => Or.inl ?_⟩
      · show (row.job.answer worker k).rows.control.desired.isSome = true
        rw [hanswered.desired]
        exact hwritten
      · have hactive : (row.job.answer worker k).rows.control.status.active = true := hactive
        rcases hanswered.status with hstatus | hstatus
        · rw [hstatus] at hactive
          exact hactive
        · rw [hstatus] at hactive
          exact nomatch hactive

theorem RuntimeRow.served_reconcile (hwritten : row.written) (input : PassInput)
    (hopen : row.checked = none) :
    row.Served worker (.reconcile input) { row with job := row.job.reconcile worker input } := by
  have hkept := ContinuousJob.kept_reconcile worker row.job.rows input
  refine ⟨rfl, hkept.identity, hkept.written hwritten, fun hactive => ?_⟩
  cases hbefore : row.active with
  | true => exact Or.inl rfl
  | false =>
      refine Or.inr ?_
      rw [activates, hbefore, hopen]
      cases hwakes : row.job.rows.wakes worker input with
      | true => rfl
      | false =>
          have hinactive := ContinuousJob.inactive_reconcile worker input hbefore hwakes
          have hactive : (row.job.rows.reconcileContinuousRuntime worker input).control.status.active =
              true := hactive
          rw [hinactive] at hactive
          exact nomatch hactive

/-- Each event is served. -/
theorem RuntimeRow.served (hwritten : row.written) (event : RowEvent) :
    row.Served worker event (row.serve worker conflict event) := by
  cases event with
  | check name input =>
      rw [serve]
      split
      · exact served_same hwritten
      · split
        · split
          · exact served_locked hwritten _
          · exact served_same hwritten
        · exact served_same hwritten
  | commit =>
      rw [serve]
      split
      · rename_i start hstart
        refine served_reserve start.command start.input (fun hinactive => ?_) none
        rw [activates, hinactive, hstart]
        rfl
      · exact served_same hwritten
  | rollback => exact served_locked hwritten none
  | terminate name input =>
      rw [serve]
      split
      · exact served_same hwritten
      · rename_i hunlocked
        split
        · rename_i command haccepted
          split
          · exact served_same hwritten
          · rename_i hend
            refine served_reserve command input (fun hinactive => ?_) row.checked
            have hopen : row.checked.isNone = true := by
              cases hchecked : row.checked with
              | none => rfl
              | some start =>
                  rw [hchecked] at hunlocked
                  exact absurd rfl hunlocked
            rw [activates, hinactive, hopen, haccepted]
            exact Bool.not_eq_true' _ ▸ Bool.eq_false_iff.mpr hend
        · exact served_same hwritten
  | answer k =>
      rw [serve]
      split
      · exact served_same hwritten
      · exact served_answer hwritten k _
  | reconcile input =>
      rw [serve]
      split
      · exact served_same hwritten
      · rename_i hunlocked
        exact served_reconcile hwritten input (Option.not_isSome_iff_eq_none.mp hunlocked)

end

/-- What holds of the fleet between events. -/
structure Fleet (fleet : List RuntimeRow) : Prop where
  exclusive : Exclusive fleet
  written : ∀ row ∈ fleet, row.written

section
variable {workers : String → WorkerGateway} {fleet : List RuntimeRow} {event : FleetEvent}

/-- A row after an event is that of one before it. -/
theorem served_of_mem (h : ∀ row ∈ fleet, row.written) {next : RuntimeRow}
    (hnext : next ∈ fleetStep workers fleet event) :
    ∃ row ∈ fleet, next.jobId = row.jobId ∧ next.identity = row.identity ∧ next.written ∧
      (next.active = true → row.active = true ∨
        row.jobId = event.jobId ∧ row.activates (workers row.jobId) event.event = true) := by
  obtain ⟨row, hrow, rfl⟩ := List.mem_map.mp hnext
  refine ⟨row, hrow, ?_⟩
  split
  · rename_i hjob
    have hserved := @RuntimeRow.served (workers row.jobId) (findConflictingRuntime fleet row) row
      (h row hrow) event.event
    exact ⟨hserved.jobId, hserved.identity, hserved.written, fun hactive =>
      (hserved.active hactive).imp_right fun hactivates => ⟨hjob, hactivates⟩⟩
  · exact ⟨rfl, rfl, h row hrow, Or.inl⟩

/-- An event that activates no runtime with a rival keeps the identities exclusive. -/
theorem fleet_step (hfleet : Fleet fleet) (hevent : event.Unrivalled workers fleet) :
    Fleet (fleetStep workers fleet event) := by
  refine ⟨?_, ?_⟩
  · intro a ha b hb hactiveA hactiveB hidentity
    obtain ⟨rowA, hrowA, hjobA, hidentityA, -, hbeforeA⟩ := served_of_mem hfleet.written ha
    obtain ⟨rowB, hrowB, hjobB, hidentityB, -, hbeforeB⟩ := served_of_mem hfleet.written hb
    rw [hidentityA, hidentityB] at hidentity
    rw [hjobA, hjobB]
    rcases hbeforeA hactiveA with hactiveA | ⟨hA, hactivatesA⟩
    · rcases hbeforeB hactiveB with hactiveB | ⟨hB, hactivatesB⟩
      · exact hfleet.exclusive rowA hrowA rowB hrowB hactiveA hactiveB hidentity
      · exact findConflictingRuntime_eq_none (hevent rowB hrowB hB hactivatesB) hrowA hactiveA
          hidentity
    · rcases hbeforeB hactiveB with hactiveB | ⟨hB, -⟩
      · exact (findConflictingRuntime_eq_none (hevent rowA hrowA hA hactivatesA) hrowB hactiveB
          hidentity.symm).symm
      · exact hA.trans hB.symm
  · intro next hnext
    obtain ⟨row, hrow, -, -, hwritten, -⟩ := served_of_mem hfleet.written hnext
    exact hwritten

end

/-! ## Runs -/

/-- The jobs, none of which has been started yet. -/
def newFleet (jobs : List (EtlJob × ConsumerIdentity)) : List RuntimeRow :=
  jobs.map fun (job, identity) =>
    { jobId := job.id, job := ⟨.new job identity, []⟩, checked := none }

theorem fleet_new (jobs : List (EtlJob × ConsumerIdentity)) : Fleet (newFleet jobs) := by
  have hnew : ∀ row ∈ newFleet jobs, row.active = false ∧ row.written := by
    intro row hrow
    obtain ⟨job, -, rfl⟩ := List.mem_map.mp hrow
    exact ⟨rfl, rfl⟩
  refine ⟨fun a ha b hb hactive => ?_, fun row hrow => (hnew row hrow).2⟩
  rw [(hnew a ha).1] at hactive
  exact nomatch hactive

/-- Where no runtime becomes active beside an active one with its identity, no two are
active with one identity at any time: whatever the workers answer and report, and however
the starts, commands and passes of the jobs interleave. -/
theorem consumer_identity_exclusive (workers : String → WorkerGateway)
    (jobs : List (EtlJob × ConsumerIdentity)) (events : List FleetEvent)
    (hunrivalled : Along (fun fleet event => event.Unrivalled workers fleet) (fleetStep workers)
      (newFleet jobs) events) :
    Always Exclusive (fleetStep workers) (newFleet jobs) events := by
  have hrun := @Always.of_along _ _ (fleetStep workers) _ Fleet
    (fun fleet event hfleet hevent => fleet_step hfleet hevent) _ _ (fleet_new jobs) hunrivalled
  exact hrun.imp fun fleet hfleet => hfleet.exclusive

/-- A copy of the job, which reads the same topic as the same consumer group. -/
def copiedJob : EtlJob := { ordersJob with id := "JOB-ORDERS-COPY" }

def bothJobs : List (EtlJob × ConsumerIdentity) :=
  [(ordersJob, ordersIdentity), (copiedJob, ordersIdentity)]

/-- The first start does not reach the runner, which has no worker. -/
def unreachedRunner : WorkerGateway := fun n action =>
  match action with
  | .start =>
      if n = 0 then .error { code := "UPSTREAM_TIMEOUT", message := "timed out", statusCode := 504 }
      else .ok { containerState := some "running" }
  | .status => .ok { containerState := some "missing" }
  | .pause | .stop | .terminate =>
      .ok { containerState := some "exited", requestedAction := some action.name }

def asked (dispatchWorker : Bool) : CommandInput :=
  { dispatchWorker, requestedAttemptId := firstAttempt }

def onOrders (event : RowEvent) : FleetEvent := ⟨ordersJob.id, event⟩

def onCopy (event : RowEvent) : FleetEvent := ⟨copiedJob.id, event⟩

/-- A start whose worker is not there yet, and the other job's, which finds it. -/
def startedOnce : List FleetEvent :=
  [onOrders (.check "startContinuous" (asked false)), onOrders .commit,
   onCopy (.check "startContinuous" (asked false)), onCopy .commit,
   onOrders (.reconcile (quietPass { state := .missing }))]

theorem consumer_identity_exclusive_orders :
    Always Exclusive (fleetStep fun _ => unreachedRunner) (newFleet bothJobs) startedOnce :=
  consumer_identity_exclusive (fun _ => unreachedRunner) bothJobs startedOnce (by decide +kernel)

/-- Two starts that are both checked before either is committed. -/
def startedTogether : List FleetEvent :=
  [onOrders (.check "startContinuous" (asked false)),
   onCopy (.check "startContinuous" (asked false)),
   onOrders .commit, onCopy .commit]

/-- A start that fails, the other job's start, and a pass over the first. -/
def startedAgain : List FleetEvent :=
  [onOrders (.check "startContinuous" (asked true)), onOrders .commit, onOrders (.answer 0),
   onCopy (.check "startContinuous" (asked false)), onCopy .commit,
   onOrders (.reconcile (quietPass { state := .missing }))]

/-- A pause that a pass confirms, the other job's start, and a stop of the first. -/
def stoppedLate : List FleetEvent :=
  [onOrders (.check "startContinuous" (asked false)), onOrders .commit,
   onOrders (.terminate "pauseContinuous" (asked false)),
   onOrders (.reconcile (quietPass { state := .missing })),
   onCopy (.check "startContinuous" (asked false)), onCopy .commit,
   onOrders (.terminate "stopContinuous" (asked false))]

/-- Each of the three ways leads to two active runtimes with one identity. -/
theorem two_runtimes_active :
    ¬ ∃ events ∈ [startedTogether, startedAgain, stoppedLate],
      Exclusive (play (fleetStep fun _ => unreachedRunner) (newFleet bothJobs) events) := by
  decide +kernel

end AskLake.ContinuousRuntime

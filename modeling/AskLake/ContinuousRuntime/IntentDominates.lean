/-
# `AskLake.ContinuousRuntime.IntentDominates` — what is wanted is what was commanded

Over a Spark worker, whatever it answers and whatever is reported, a run of commands
and passes keeps four laws:

    only an accepted command changes what is wanted
    a revision is an accepted command
    a status that is up is of a runtime that is wanted
    a worker is started only if it is wanted

Each is a law of the moves, and each move keeps it.
-/
import AskLake.Lib.Run
import AskLake.ContinuousRuntime.Moves

namespace AskLake.ContinuousRuntime

open AskLake.Lib AskLake.Python

/-! ## One move -/

/-- What the commands ask for. -/
def Command.desiredState : Command → DesiredState
  | startContinuous | resumeContinuous => .running
  | pauseContinuous => .paused
  | stopContinuous => .stopped

theorem desiredState_commandTransition (status : PublicStatus) (command : Command) :
    (commandTransition status command).desiredState = command.desiredState := by
  cases command <;> rfl

/-- A runtime that shows as starting or running is one that is wanted, once it is
written down what is. -/
def Control.upOnlyIfWanted (c : Control) : Prop :=
  ∀ desired, c.desired = some desired → c.status ∈ [PublicStatus.starting, .running] →
    desired = .running

theorem up_derivePublicStatus {desired : DesiredState} {observed : ObservedState}
    (h : derivePublicStatus desired observed ∈ [PublicStatus.starting, .running]) :
    desired = .running := by
  cases desired with
  | running => rfl
  | paused => cases observed <;> exact absurd h (by decide)
  | stopped => cases observed <;> exact absurd h (by decide)

/-- What one event may do to the control state, if it accepts `command`. -/
structure Control.Lawful (c : Control) (command : Option Command) (next : Control) : Prop where
  desired : c.desired.isSome = true ∨ command.isSome = true →
    next.desired = (command.map Command.desiredState).or c.desired
  revision : next.revision = c.revision + command.toList.length
  up : c.upOnlyIfWanted → next.upOnlyIfWanted
  starts : ∃ starts, next.starts = c.starts ++ starts ∧
    ∀ call ∈ starts, call.desiredState = some .running
  ingestV2 : next.ingestV2 = c.ingestV2

namespace Control

section
variable {c : Control}

theorem Lawful.refl : c.Lawful none c where
  desired _ := rfl
  revision := rfl
  up h := h
  starts := ⟨[], (List.append_nil _).symm, fun _ h => nomatch h⟩
  ingestV2 := rfl

/-- A status that is observed is lawful, if it is up only where that is wanted. -/
theorem lawful_settle {status : PublicStatus}
    (h : ∀ desired, c.desired = some desired → status ∈ [PublicStatus.starting, .running] →
      desired = .running) (fence : Option Text) :
    c.Lawful none { c.settle status with fence } where
  desired hsome := by
    cases hdesired : c.desired with
    | none =>
        rw [hdesired] at hsome
        exact hsome.elim (fun h => nomatch h) (fun h => nomatch h)
    | some desired =>
        show some (c.desired.getD _) = some desired
        rw [hdesired]
        rfl
  revision := rfl
  up _ := by
    intro desired hdesired hup
    cases hwanted : c.desired with
    | none =>
        have hstatus : some (c.desired.getD (desiredStateFromPublicStatus status)) =
            some desired := hdesired
        rw [hwanted] at hstatus
        have hup : status ∈ [PublicStatus.starting, .running] := hup
        rw [← Option.some.inj hstatus]
        rcases List.mem_cons.mp hup with rfl | hup
        · rfl
        · obtain rfl := List.mem_singleton.mp hup
          rfl
    | some wanted =>
        have hstatus : some (c.desired.getD (desiredStateFromPublicStatus status)) =
            some desired := hdesired
        rw [hwanted] at hstatus
        rw [← Option.some.inj hstatus]
        exact h wanted hwanted hup
  starts := ⟨[], (List.append_nil _).symm, fun _ h => nomatch h⟩
  ingestV2 := rfl

/-- A start of a runtime that is wanted. -/
theorem lawful_start (hwanted : c.desired = some .running) : c.Lawful none c.start where
  desired _ := rfl
  revision := rfl
  up h := h
  starts := by
    refine ⟨[⟨.start, c.fence, c.desired⟩], rfl, ?_⟩
    intro call hcall
    rw [List.mem_singleton.mp hcall]
    exact hwanted
  ingestV2 := rfl

/-- Two steps, of which the second accepts nothing. -/
theorem Lawful.trans {command : Option Command} {next last : Control} (h : c.Lawful command next)
    (hlast : next.Lawful none last) : c.Lawful command last where
  desired hsome := by
    have hnext := h.desired hsome
    have hkept : next.desired.isSome = true := by
      rw [hnext]
      cases command with
      | none => exact hsome.elim (fun h => h) (fun h => nomatch h)
      | some command => rfl
    rw [hlast.desired (Or.inl hkept)]
    exact hnext
  revision := hlast.revision.trans h.revision
  up hup := hlast.up (h.up hup)
  starts := by
    obtain ⟨first, hfirst, hwanted⟩ := h.starts
    obtain ⟨second, hsecond, hstill⟩ := hlast.starts
    refine ⟨first ++ second, ?_, fun call hcall => ?_⟩
    · rw [hsecond, hfirst, List.append_assoc]
    · rcases List.mem_append.mp hcall with hcall | hcall
      · exact hwanted call hcall
      · exact hstill call hcall
  ingestV2 := hlast.ingestV2.trans h.ingestV2

/-- A command that is written down. -/
theorem lawful_commanded (command : Command) (token : Option Text) :
    c.Lawful (some command) (c.commanded (commandTransition c.status command) token) where
  desired _ := congrArg some (desiredState_commandTransition c.status command)
  revision := rfl
  up _ := by
    intro desired hdesired hup
    have hcommand : command.desiredState = desired := by
      rw [← desiredState_commandTransition c.status command]
      exact Option.some.inj hdesired
    rw [← hcommand]
    have hup : (commandTransition c.status command).nextStatus ∈
        [PublicStatus.starting, .running] := hup
    cases command with
    | startContinuous => rfl
    | resumeContinuous => rfl
    | pauseContinuous =>
        exact absurd hup (by decide : PublicStatus.pausing ∉ [PublicStatus.starting, .running])
    | stopContinuous =>
        exact absurd hup (by decide : PublicStatus.stopping ∉ [PublicStatus.starting, .running])
  starts := ⟨[], (List.append_nil _).symm, fun _ h => nomatch h⟩
  ingestV2 := rfl

/-- The fence is not under these laws. -/
theorem Lawful.fence {command : Option Command} {next : Control} (h : c.Lawful command next)
    (fence : Option Text) : c.Lawful command { next with fence } where
  desired := h.desired
  revision := h.revision
  up := h.up
  starts := h.starts
  ingestV2 := h.ingestV2

end

end Control

section
variable {evidence : RuntimeEvidence} {named : Option Text} {answer : Except ApiError WorkerStatus}
  {c next : Control}

/-- A status that is derived from what is wanted. -/
theorem Control.Shows.up_derived (hshows : c.Shows evidence) (observed : ObservedState) :
    ∀ desired, c.desired = some desired →
      derivePublicStatus evidence.desiredState observed ∈ [PublicStatus.starting, .running] →
        desired = .running := by
  intro desired hdesired hup
  have hwanted := up_derivePublicStatus hup
  rw [hshows.desired, hdesired] at hwanted
  exact hwanted

/-- The status that a report leads to. -/
theorem Control.Shows.up_reported (hshows : c.Shows evidence) (reported : PublicStatus) :
    ∀ desired, c.desired = some desired →
      ContinuousJob.reportedNext evidence.desiredState evidence.contractInitialized none reported ∈
          [PublicStatus.starting, .running] → desired = .running := by
  intro desired hdesired hup
  have hinitialized : evidence.contractInitialized = true := by
    rw [hshows.initialized, hdesired]
    rfl
  rw [ContinuousJob.reportedNext, if_pos ⟨hinitialized, rfl⟩] at hup
  exact hshows.up_derived _ desired hdesired hup

theorem not_up_of_inactive {status : PublicStatus} (h : status.active = false) :
    status ∉ [PublicStatus.starting, .running] := by
  cases status with
  | starting => exact nomatch h
  | running => exact nomatch h
  | pausing => exact nomatch h
  | stopping => exact nomatch h
  | paused => decide
  | stopped => decide
  | failed => decide

/-- What is wanted where a worker is started again. -/
theorem Control.Shows.wanted (hshows : c.Shows evidence) (hrunning : evidence.desiredState = .running)
    (hinitialized : evidence.contractInitialized = true) : c.desired = some .running := by
  rw [hshows.initialized] at hinitialized
  obtain ⟨desired, hdesired⟩ := Option.isSome_iff_exists.mp hinitialized
  have hwanted := hshows.desired
  rw [hdesired, hrunning] at hwanted
  rw [hdesired, hwanted]
  rfl

/-- Each move of a pass is lawful. -/
theorem SparkMove.lawful (h : SparkMove evidence named answer c next) (hshows : c.Shows evidence) :
    c.Lawful none next := by
  cases h with
  | kept hopen => exact .refl
  | confirmed hcurrent hgone attempt hattempt =>
      exact Control.lawful_settle
        (fun _ _ hup => absurd hup (not_up_of_inactive terminalStatus_inactive)) _
  | waiting hcurrent hpresent =>
      exact Control.lawful_settle (hshows.up_derived _) c.fence
  | restarted hrunning hinitialized result hanswer =>
      have hwanted := hshows.wanted hrunning hinitialized
      refine (Control.lawful_start hwanted).trans (Control.lawful_settle ?_ _)
      intro desired hdesired _
      exact Option.some.inj (hdesired.symm.trans hwanted)
  | restartFailed hrunning hinitialized error hanswer =>
      have hwanted := hshows.wanted hrunning hinitialized
      exact (Control.lawful_start hwanted).trans
        (Control.lawful_settle (fun _ _ hup => absurd hup (not_up_of_inactive rfl)) c.fence)
  | waitingForReport hrunning => exact Control.lawful_settle (hshows.up_derived _) _
  | reported hopen hfresh reported => exact Control.lawful_settle (hshows.up_reported reported) _
  | reportedFailed hopen hfresh reported hactive =>
      exact (Control.lawful_settle (hshows.up_reported reported) _).trans
        (Control.lawful_settle (fun _ _ hup => absurd hup (not_up_of_inactive rfl)) _)

variable {input : CommandInput} {dispatched : Command → Except ApiError WorkerResult}
  {command : Option Command}

/-- A start that is written down, and asked for. -/
theorem Control.lawful_started {command : Command}
    (hstart : command = .startContinuous ∨ command = .resumeContinuous) :
    c.Lawful (some command) (c.started (commandTransition c.status command) input) := by
  have hcommanded : c.Lawful (some command)
      (c.commanded (commandTransition c.status command) (some input.requestedAttemptId)) :=
    Control.lawful_commanded command _
  rw [Control.started]
  split
  · refine hcommanded.trans (Control.lawful_start ?_)
    show some (commandTransition c.status command).desiredState = some .running
    rw [desiredState_commandTransition]
    rcases hstart with rfl | rfl <;> rfl
  · exact hcommanded

/-- Each move of a command is lawful. -/
theorem CommandMove.lawful (h : CommandMove input dispatched c command next) :
    c.Lawful command next := by
  cases h with
  | refused => exact .refl
  | started command hstart hallowed result hresult =>
      exact (Control.lawful_started hstart).fence _
  | startFailed command hstart hallowed error herror =>
      exact (Control.lawful_started hstart).trans
        (Control.lawful_settle (fun _ _ hup => absurd hup (not_up_of_inactive rfl)) _)
  | ended command hend hallowed => exact Control.lawful_commanded command none

end

/-! ## Runs -/

section
variable {worker : WorkerGateway}

/-- Each event over a Spark worker is lawful. -/
theorem lawful_step (hworker : worker.Spark) {s : ContinuousJob} (hspark : s.control.ingestV2 = false)
    (event : LifecycleEvent) :
    s.control.Lawful (event.accepted s) (lifecycleStep worker s event).control := by
  cases event with
  | command name input => exact (s.move_command worker input name).lawful
  | reconcile input =>
      rcases ContinuousJob.move_reconcile input hworker hspark with hkept | ⟨_, _, _, hmove⟩
      · show s.control.Lawful none (s.reconcileContinuousRuntime worker input).control
        rw [hkept]
        exact .refl
      · exact hmove.lawful (ContinuousJob.shows_observe input)

section
variable (hworker : worker.Spark)
include hworker

/-- A run that accepts no command leaves alone what is wanted. -/
theorem desired_of_no_command : ∀ {s : ContinuousJob} {events : List LifecycleEvent},
    s.control.ingestV2 = false → s.control.desired.isSome = true →
      acceptedCommands worker s events = [] →
        (play (lifecycleStep worker) s events).control.desired = s.control.desired := by
  intro s events
  induction events generalizing s with
  | nil => exact fun _ _ _ => rfl
  | cons event events ih =>
      intro hspark hsome hnone
      have hlawful := lawful_step hworker hspark event
      obtain ⟨hfirst, hrest⟩ := List.append_eq_nil_iff.mp hnone
      have hkept := hlawful.desired (Or.inl hsome)
      rw [Option.toList_eq_nil_iff.mp hfirst] at hkept
      have hsome : (lifecycleStep worker s event).control.desired.isSome = true := by
        rw [hkept]
        exact hsome
      exact (ih (hlawful.ingestV2.trans hspark) hsome hrest).trans hkept

theorem desired_of_last_command : ∀ {s : ContinuousJob} {events : List LifecycleEvent},
    s.control.ingestV2 = false → ∀ command,
      (acceptedCommands worker s events).getLast? = some command →
        (play (lifecycleStep worker) s events).control.desired = some command.desiredState := by
  intro s events
  induction events generalizing s with
  | nil => exact fun _ _ h => nomatch h
  | cons event events ih =>
      intro hspark command hlast
      have hlawful := lawful_step hworker hspark event
      have hnext := hlawful.ingestV2.trans hspark
      rw [acceptedCommands, List.getLast?_append] at hlast
      cases hrest : (acceptedCommands worker (lifecycleStep worker s event) events).getLast? with
      | some last =>
          rw [hrest] at hlast
          obtain rfl := Option.some.inj hlast
          exact ih hnext last hrest
      | none =>
          -- the event itself accepts the last command of the run
          rw [hrest, Option.none_or] at hlast
          have haccepted : event.accepted s = some command := by
            cases hevent : event.accepted s with
            | none =>
                rw [hevent] at hlast
                exact nomatch hlast
            | some accepted =>
                rw [hevent] at hlast
                exact hlast
          have hwritten := hlawful.desired (Or.inr (by rw [haccepted]; rfl))
          rw [haccepted] at hwritten
          have hsome : (lifecycleStep worker s event).control.desired.isSome = true := by
            rw [hwritten]
            rfl
          exact (desired_of_no_command hworker hnext hsome
            (List.getLast?_eq_none_iff.mp hrest)).trans hwritten

theorem revision_counts : ∀ {s : ContinuousJob} {events : List LifecycleEvent},
    s.control.ingestV2 = false →
      (play (lifecycleStep worker) s events).control.revision =
        s.control.revision + (acceptedCommands worker s events).length := by
  intro s events
  induction events generalizing s with
  | nil => exact fun _ => rfl
  | cons event events ih =>
      intro hspark
      have hlawful := lawful_step hworker hspark event
      rw [play_cons, ih (hlawful.ingestV2.trans hspark), hlawful.revision, acceptedCommands,
        List.length_append, Nat.add_assoc]

theorem starts_wanted : ∀ {s : ContinuousJob} {events : List LifecycleEvent},
    s.control.ingestV2 = false →
      ∃ starts, (play (lifecycleStep worker) s events).control.starts = s.control.starts ++ starts ∧
        ∀ call ∈ starts, call.desiredState = some .running := by
  intro s events
  induction events generalizing s with
  | nil => exact fun _ => ⟨[], (List.append_nil _).symm, fun _ h => nomatch h⟩
  | cons event events ih =>
      intro hspark
      have hlawful := lawful_step hworker hspark event
      obtain ⟨first, hfirst, hwanted⟩ := hlawful.starts
      obtain ⟨rest, hrest, hstill⟩ := ih (hlawful.ingestV2.trans hspark)
      refine ⟨first ++ rest, ?_, fun call hcall => ?_⟩
      · rw [play_cons, hrest, hfirst, List.append_assoc]
      · rcases List.mem_append.mp hcall with hcall | hcall
        · exact hwanted call hcall
        · exact hstill call hcall

end

/-- A new runtime is stopped, and that is what is wanted. -/
theorem upOnlyIfWanted_new (job : EtlJob) (identity : ConsumerIdentity) :
    (ContinuousJob.new job identity).control.upOnlyIfWanted :=
  fun _ _ hup => absurd hup (by decide : PublicStatus.stopped ∉ [PublicStatus.starting, .running])

/-- Over a Spark worker, whatever it answers and whatever is reported, what is wanted
is what the last accepted command asks for, a revision is an accepted command, and a
runtime is up, or started, only if it is wanted.  A runtime without a contract is one
that `upOnlyIfWanted` says nothing of. -/
theorem intent_dominates (hworker : worker.Spark) {s : ContinuousJob}
    (hspark : s.job.ingestV2 = false) (hs : s.control.upOnlyIfWanted)
    (events : List LifecycleEvent) :
    Along (fun s event => s.contract.desiredState.isSome = true → event.accepted s = none →
        (lifecycleStep worker s event).contract.desiredState = s.contract.desiredState)
      (lifecycleStep worker) s events ∧
    (∀ command, (acceptedCommands worker s events).getLast? = some command →
      (play (lifecycleStep worker) s events).contract.desiredState = some command.desiredState) ∧
    (play (lifecycleStep worker) s events).contract.stateRevision =
      s.contract.stateRevision + (acceptedCommands worker s events).length ∧
    Always (fun s => s.control.upOnlyIfWanted) (lifecycleStep worker) s events ∧
    ∃ starts, (play (lifecycleStep worker) s events).control.starts = s.control.starts ++ starts ∧
      ∀ call ∈ starts, call.desiredState = some .running := by
  have hany : Along (fun _ _ => True) (lifecycleStep worker) s events :=
    along_of_forall fun _ _ => trivial
  refine ⟨?_, desired_of_last_command hworker hspark, revision_counts hworker hspark, ?_,
    starts_wanted hworker hspark⟩
  · have hkeep : ∀ s event, s.control.ingestV2 = false → True →
        (lifecycleStep worker s event).control.ingestV2 = false :=
      fun s event hspark _ => (lawful_step hworker hspark event).ingestV2.trans hspark
    refine Along.of_keeps ?_ hkeep hspark hany
    intro s event hspark _ hsome hnone
    have hkept := (lawful_step hworker hspark event).desired (Or.inl hsome)
    rw [hnone] at hkept
    exact hkept
  · have hkept : Always (fun s => s.control.ingestV2 = false ∧ s.control.upOnlyIfWanted)
        (lifecycleStep worker) s events := by
      refine Always.of_along ?_ ⟨hspark, hs⟩ hany
      intro s event h _
      have hlawful := lawful_step hworker h.1 event
      exact ⟨hlawful.ingestV2.trans h.1, hlawful.up h.2⟩
    exact hkept.imp fun _ h => h.2

/-- A runner that does what it is asked, at once. -/
def obedientRunner : WorkerGateway := fun _ action =>
  match action with
  | .start | .status => .ok { containerState := some "running", workerAttemptId := some "start-1" }
  | .pause | .stop | .terminate =>
      .ok { containerState := some "exited", requestedAction := some action.name }

theorem obedientRunner_spark : obedientRunner.Spark := by
  intro n action status h
  cases action <;> obtain rfl := Except.ok.inj h <;> exact fun hconnect => nomatch hconnect

/-- A start, a pass over its first report, a pause that is left to the control plane, and
the pass that signals it. -/
def pausedRun : List LifecycleEvent :=
  [.command "startContinuous"
    { dispatchWorker := true, requestedAttemptId := firstAttempt },
   .reconcile (quietPass
    { state := .found, value := some { status := some "running", workerAttemptId := some "start-1" } }),
   .command "pauseContinuous"
    { dispatchWorker := false, requestedAttemptId := secondAttempt },
   .reconcile (quietPass { state := .missing })]

theorem intent_dominates_orders :
    (play (lifecycleStep obedientRunner) ordersRuntime pausedRun).contract.desiredState =
        some .paused ∧
      (play (lifecycleStep obedientRunner) ordersRuntime pausedRun).contract.stateRevision = 2 := by
  have hlaws := @intent_dominates obedientRunner obedientRunner_spark ordersRuntime rfl
    (upOnlyIfWanted_new ordersJob ordersIdentity) pausedRun
  have haccepted : acceptedCommands obedientRunner ordersRuntime pausedRun =
      [.startContinuous, .pauseContinuous] := by decide +kernel
  refine ⟨hlaws.2.1 .pauseContinuous (by rw [haccepted]; rfl), ?_⟩
  rw [hlaws.2.2.1, haccepted]
  decide

end

end AskLake.ContinuousRuntime

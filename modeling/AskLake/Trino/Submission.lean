/-
# `AskLake.Trino.Submission` — a slot for each query run

`reserve_trino_submission` takes an advisory lock for its actor key, and then, statement
by statement:

    look       is there a run of this actor and client request?   existing, or conflict
    count      does the actor have its number of active runs?     limit
    insert     the run                                            created

An insert that meets a constraint is rolled back, and gives the lock up; what it answers
then is read without it.  Other actors' submissions, and the runs that end, come between
any two statements.

The lock admits one submission for each actor key, so that the lock's holder is a table
by actor key.
-/
import AskLake.Lib.Run
import AskLake.Lib.Table
import AskLake.Trino.RunRow

namespace AskLake.Trino

open AskLake.Lib AskLake.Python

/-! ## Runs and submissions -/

/-- A run's payload, as a submission writes and reads it. -/
structure SubmissionPayload extends RunResponse where
  runId : String
  submittedByUserId : Option String := none
  submittedByName : Option String := none
  actorKey : Option String := none
  clientRequestId : Option Text := none
  requestFingerprint : Option String := none
  deriving DecidableEq

/-- `SqlRunModel`, the columns of a submission. -/
structure SubmittedRun where
  id : String
  datasetId : String
  query : String
  payload : SubmissionPayload
  actorKey : Option String := none
  clientRequestId : Option Text := none
  requestFingerprint : Option String := none
  deriving DecidableEq

/-- The arguments of `reserve_trino_submission`. -/
structure Submission where
  payload : SubmissionPayload
  actorKey : String
  clientRequestId : Option Text
  requestFingerprint : String
  deriving DecidableEq

inductive SubmissionOutcome
  | created (payload : SubmissionPayload)
  | existing (payload : SubmissionPayload)
  | conflict
  | limit
  /-- the `IntegrityError` itself -/
  | raised
  deriving DecidableEq

namespace SubmittedRun

/-- `status in ["queued", "running"]`, of a query run -/
def active (run : SubmittedRun) : Bool :=
  run.payload.engine = "trino" && !run.payload.status.terminal

/-- The run is among an actor's own, by its key, or by its payload if it has no key. -/
def belongsTo (run : SubmittedRun) (actorKey : String) : Bool :=
  run.actorKey = some actorKey ||
    run.actorKey.isNone && (run.payload.submittedByUserId = some actorKey ||
      run.payload.submittedByName = some actorKey)

/-- Two runs that `uq_sql_run_actor_client_request` keeps apart. -/
def sameRequest (run other : SubmittedRun) : Bool :=
  run.actorKey.isSome && run.clientRequestId.isSome && run.actorKey = other.actorKey &&
    run.clientRequestId = other.clientRequestId

end SubmittedRun

namespace Submission

/-- A run of the submission's actor and client request. -/
def isFor (call : Submission) (run : SubmittedRun) : Bool :=
  call.clientRequestId.isSome && run.actorKey = some call.actorKey &&
    run.clientRequestId = call.clientRequestId

/-- The run that the submission inserts. -/
def run (call : Submission) : SubmittedRun where
  id := call.payload.runId
  datasetId := call.payload.baseDatasetId
  query := call.payload.query
  payload := { call.payload with
    actorKey := some call.actorKey
    clientRequestId := call.clientRequestId
    requestFingerprint := some call.requestFingerprint }
  actorKey := some call.actorKey
  clientRequestId := call.clientRequestId
  requestFingerprint := some call.requestFingerprint

/-- The answer to a client request that has a run already. -/
def repeated (call : Submission) (existing : SubmittedRun) : SubmissionOutcome :=
  if existing.requestFingerprint ≠ some call.requestFingerprint then .conflict
  else .existing existing.payload

/-- The insert violates the primary key or the constraint. -/
def collides (call : Submission) (runs : List SubmittedRun) : Bool :=
  runs.any fun run => run.id = call.run.id || run.sameRequest call.run

end Submission

/-! ## The statements -/

/-- Where a submission stands that holds its actor's lock. -/
inductive ReservePhase
  | looking
  | counting
  | inserting
  deriving DecidableEq

/-- What a statement leads to. -/
inductive ReserveStep
  | goOn (phase : ReservePhase)
  /-- rolled back, to look again without the lock -/
  | lookAgain
  | answer (outcome : SubmissionOutcome)
  deriving DecidableEq

section
variable (maxActiveRuns : Nat) (runs : List SubmittedRun) (call : Submission)

/-- One statement of `reserve_trino_submission`, under the lock. -/
def reserveStatement : ReservePhase → List SubmittedRun × ReserveStep
  | .looking =>
      match runs.find? call.isFor with
      | some existing => (runs, .answer (call.repeated existing))
      | none => (runs, .goOn .counting)
  | .counting =>
      if maxActiveRuns ≤ runs.countP fun run => run.belongsTo call.actorKey && run.active then
        (runs, .answer .limit)
      else (runs, .goOn .inserting)
  | .inserting =>
      if call.collides runs then
        (runs, if call.clientRequestId.isNone then .answer .raised else .lookAgain)
      else (runs ++ [call.run], .answer (.created call.run.payload))

/-- The answer after an `IntegrityError`. -/
def answerCollision : SubmissionOutcome :=
  match runs.find? call.isFor with
  | none => .conflict
  | some existing => call.repeated existing

end

/-! ## The system -/

structure Reservations where
  runs : List SubmittedRun
  /-- the submission that holds the lock of its actor key -/
  holders : Table String (Submission × ReservePhase) := fun _ => none
  /-- the submissions that have been rolled back -/
  collided : List Submission := []

inductive ReserveEvent
  /-- A submission takes its actor's lock, if it is free. -/
  | lock (call : Submission)
  | statement (actorKey : String)
  /-- A rolled back submission reads its answer. -/
  | collision (k : Nat)
  /-- A run's status changes. -/
  | status (runId : String) (status : RunStatus)
  /-- A connection is lost. -/
  | crash (actorKey : String)

/-- A run that is neither queued nor running becomes neither again. -/
def SubmittedRun.setStatus (run : SubmittedRun) (status : RunStatus) : SubmittedRun :=
  if run.payload.status.terminal && !status.terminal then run
  else { run with payload := { run.payload with status } }

namespace Reservations

/-- The lock of an actor key is given up. -/
def unlock (s : Reservations) (actorKey : String) : Reservations :=
  { s with holders := Function.update s.holders actorKey none }

/-- What a statement leaves. -/
def after (s : Reservations) (call : Submission) :
    List SubmittedRun × ReserveStep → Reservations
  | (runs, .goOn phase) => { s with runs, holders := s.holders.put call.actorKey (call, phase) }
  | (runs, .lookAgain) =>
      { s.unlock call.actorKey with runs, collided := s.collided ++ [call] }
  | (runs, .answer _) => { s.unlock call.actorKey with runs }

def step (maxActiveRuns : Nat) (s : Reservations) : ReserveEvent → Reservations
  | .lock call =>
      match s.holders call.actorKey with
      | some _ => s
      | none => { s with holders := s.holders.put call.actorKey (call, .looking) }
  | .statement actorKey =>
      match s.holders actorKey with
      | none => s
      | some (call, phase) => s.after call (reserveStatement maxActiveRuns s.runs call phase)
  | .collision k => { s with collided := s.collided.eraseIdx k }
  | .status runId status =>
      { s with runs := updateWhere (fun run => run.id = runId) (·.setStatus status) s.runs }
  | .crash actorKey => s.unlock actorKey

/-- The submission that an event carries on with, and what it is told. -/
def told (maxActiveRuns : Nat) (s : Reservations) :
    ReserveEvent → Option (Submission × Option SubmissionOutcome)
  | .statement actorKey =>
      (s.holders actorKey).map fun holder =>
        (holder.1, match (reserveStatement maxActiveRuns s.runs holder.1 holder.2).2 with
          | .answer outcome => some outcome
          | .goOn _ | .lookAgain => none)
  | .collision k => (s.collided[k]?).map fun call => (call, some (answerCollision s.runs call))
  | .lock _ | .status .. | .crash _ => none

/-- The query runs of an actor key that are queued or running. -/
def activeRuns (s : Reservations) (actorKey : String) : Nat :=
  s.runs.countP fun run => run.actorKey = some actorKey && run.active

/-- No actor has too many active runs, and no client request two runs. -/
structure Reserved (maxActiveRuns : Nat) (s : Reservations) : Prop where
  limited : ∀ actorKey, s.activeRuns actorKey ≤ maxActiveRuns
  unique : s.runs.Pairwise fun run other => run.sameRequest other = false

/-- What a submission is told, and what it leaves of the runs. -/
structure Answered (maxActiveRuns : Nat) (s : Reservations) (event : ReserveEvent) : Prop where
  /-- a client request that has a run is answered by it, whatever its status -/
  again : ∀ call outcome, s.told maxActiveRuns event = some (call, outcome) →
    ∀ run ∈ s.runs, call.isFor run = true →
      outcome = some (if run.requestFingerprint = some call.requestFingerprint
        then .existing run.payload else .conflict)
  /-- only a submission that creates its run changes the runs -/
  unchanged : ∀ call outcome, s.told maxActiveRuns event = some (call, outcome) →
    (s.step maxActiveRuns event).runs = s.runs ∨
      (outcome = some (.created call.run.payload) ∧
        (s.step maxActiveRuns event).runs = s.runs ++ [call.run])

end Reservations

/-- Runs from before the actor keys. -/
def legacyRun (payload : SubmissionPayload) : SubmittedRun where
  id := payload.runId
  datasetId := payload.baseDatasetId
  query := payload.query
  payload

/-! ## What the constraints and the lock keep apart -/

section
variable {call other : Submission} {run : SubmittedRun} {runs : List SubmittedRun}
  {status : RunStatus}

/-- A submission's run is not for another actor's submission. -/
theorem isFor_run_of_ne (h : other.actorKey ≠ call.actorKey) : other.isFor call.run = false := by
  simp [Submission.isFor, Submission.run, Ne.symm h]

theorem belongsTo_run_of_ne {actorKey : String} (h : actorKey ≠ call.actorKey) :
    call.run.belongsTo actorKey = false := by
  simp [SubmittedRun.belongsTo, Submission.run, Ne.symm h]

/-- A run of an actor key is among the actor's own. -/
theorem SubmittedRun.belongsTo_of_key {actorKey : String} (h : run.actorKey = some actorKey) :
    run.belongsTo actorKey = true := by
  simp [belongsTo, h]

theorem Submission.fresh_of_find? (h : runs.find? call.isFor = none) :
    ∀ run ∈ runs, call.isFor run = false := by
  intro run hrun
  simpa using List.find?_eq_none.mp h run hrun

/-- Two runs for one submission are kept apart by the constraint. -/
theorem Submission.sameRequest_of_isFor {other : SubmittedRun} (h : call.isFor run = true)
    (hother : call.isFor other = true) : run.sameRequest other = true := by
  simp only [isFor, Bool.and_eq_true, decide_eq_true_eq] at h hother
  simp [SubmittedRun.sameRequest, h.1.2, h.2, hother.1.2, hother.2, h.1.1]

/-- There is one run for a submission. -/
theorem Submission.isFor_unique
    (hunique : runs.Pairwise fun run other => run.sameRequest other = false)
    {found : SubmittedRun} (hfound : found ∈ runs) (hforFound : call.isFor found = true)
    (hrun : run ∈ runs) (hfor : call.isFor run = true) : found = run := by
  have hpairwise : runs.Pairwise fun a b =>
      call.isFor a = true → call.isFor b = true → a = b := by
    refine hunique.imp fun {a b} hdiffer ha hb => ?_
    rw [sameRequest_of_isFor ha hb] at hdiffer
    exact nomatch hdiffer
  have : Std.Symm fun a b : SubmittedRun =>
      call.isFor a = true → call.isFor b = true → a = b :=
    ⟨fun _ _ h hb ha => (h ha hb).symm⟩
  exact hpairwise.forall_of_forall (fun _ _ _ _ => rfl) hfound hrun hforFound hfor

/-- What is answered of a run that there is already. -/
theorem Submission.repeated_eq
    (hunique : runs.Pairwise fun run other => run.sameRequest other = false)
    {found : SubmittedRun} (hfound : runs.find? call.isFor = some found) (hrun : run ∈ runs)
    (hfor : call.isFor run = true) : call.repeated found =
      if run.requestFingerprint = some call.requestFingerprint then .existing run.payload
      else .conflict := by
  obtain rfl := isFor_unique hunique (List.mem_of_find?_eq_some hfound)
    (List.find?_some hfound) hrun hfor
  rw [repeated]
  by_cases h : found.requestFingerprint = some call.requestFingerprint
  · rw [if_neg (not_not.mpr h), if_pos h]
  · rw [if_pos h, if_neg h]

/-! A status leaves everything else of a run as it is, and wakes no run up. -/

@[simp] theorem isFor_setStatus : call.isFor (run.setStatus status) = call.isFor run := by
  rw [SubmittedRun.setStatus]
  split
  · rfl
  · rfl

@[simp] theorem belongsTo_setStatus {actorKey : String} :
    (run.setStatus status).belongsTo actorKey = run.belongsTo actorKey := by
  rw [SubmittedRun.setStatus]
  split
  · rfl
  · rfl

@[simp] theorem actorKey_setStatus : (run.setStatus status).actorKey = run.actorKey := by
  rw [SubmittedRun.setStatus]
  split
  · rfl
  · rfl

@[simp] theorem clientRequestId_setStatus :
    (run.setStatus status).clientRequestId = run.clientRequestId := by
  rw [SubmittedRun.setStatus]
  split
  · rfl
  · rfl

theorem active_of_setStatus (h : (run.setStatus status).active = true) : run.active = true := by
  rw [SubmittedRun.setStatus] at h
  split at h
  · exact h
  · next hnot =>
      obtain ⟨hengine, hstatus⟩ := Bool.and_eq_true_iff.mp h
      refine Bool.and_eq_true_iff.mpr ⟨hengine, ?_⟩
      have hactive : status.terminal = false := by simpa using hstatus
      simpa [hactive] using hnot

end

section
variable {runs : List SubmittedRun} {runId : String} {status : RunStatus}

/-- No count of active runs grows with a status. -/
theorem countP_status_le {p : SubmittedRun → Bool}
    (hp : ∀ run : SubmittedRun, p (run.setStatus status) = p run) :
    ((updateWhere (fun run => run.id = runId) (·.setStatus status) runs).countP fun run =>
      p run && run.active) ≤ runs.countP fun run => p run && run.active := by
  rw [updateWhere, List.countP_map]
  refine List.countP_mono_left fun run _ h => ?_
  simp only [Function.comp] at h
  split at h
  · rw [hp] at h
    exact Bool.and_eq_true_iff.mpr
      ⟨(Bool.and_eq_true_iff.mp h).1, active_of_setStatus (Bool.and_eq_true_iff.mp h).2⟩
  · exact h

end

/-! ## The invariant -/

namespace Reservations

/-- What the lock keeps of the submissions that hold it. -/
structure Orderly (maxActiveRuns : Nat) (s : Reservations) : Prop
    extends Reserved maxActiveRuns s where
  key : ∀ actorKey call phase, s.holders actorKey = some (call, phase) →
    call.actorKey = actorKey
  fresh : ∀ actorKey call phase, s.holders actorKey = some (call, phase) → phase ≠ .looking →
    ∀ run ∈ s.runs, call.isFor run = false
  room : ∀ actorKey call, s.holders actorKey = some (call, .inserting) →
    (s.runs.countP fun run => run.belongsTo actorKey && run.active) < maxActiveRuns

section
variable {maxActiveRuns : Nat} {s : Reservations}

theorem unlock_apply (s : Reservations) (actorKey other : String) :
    (s.unlock actorKey).holders other = if other = actorKey then none else s.holders other := by
  simp [unlock, Function.update_apply]

theorem holders_put (s : Reservations) (actorKey other : String)
    (holder : Submission × ReservePhase) :
    ({ s with holders := s.holders.put actorKey holder } : Reservations).holders other =
      if other = actorKey then some holder else s.holders other :=
  Table.put_apply _ _ _ _

/-- The active runs of an actor key are among the actor's own. -/
theorem activeRuns_le (s : Reservations) (actorKey : String) :
    s.activeRuns actorKey ≤ s.runs.countP fun run => run.belongsTo actorKey && run.active := by
  refine List.countP_mono_left fun run _ h => ?_
  obtain ⟨hkey, hactive⟩ := Bool.and_eq_true_iff.mp h
  exact Bool.and_eq_true_iff.mpr
    ⟨SubmittedRun.belongsTo_of_key (of_decide_eq_true hkey), hactive⟩

theorem Orderly.unlock (h : Orderly maxActiveRuns s) (actorKey : String) :
    Orderly maxActiveRuns (s.unlock actorKey) where
  limited := h.limited
  unique := h.unique
  key := fun other call phase hholder => by
    rw [unlock_apply] at hholder
    split at hholder
    · exact nomatch hholder
    · exact h.key other call phase hholder
  fresh := fun other call phase hholder => by
    rw [unlock_apply] at hholder
    split at hholder
    · exact nomatch hholder
    · exact h.fresh other call phase hholder
  room := fun other call hholder => by
    rw [unlock_apply] at hholder
    split at hholder
    · exact nomatch hholder
    · exact h.room other call hholder

/-- A submission goes on under its lock. -/
theorem Orderly.goOn (h : Orderly maxActiveRuns s) {call : Submission} {phase : ReservePhase}
    (hfresh : phase ≠ .looking → ∀ run ∈ s.runs, call.isFor run = false)
    (hroom : phase = .inserting →
      (s.runs.countP fun run => run.belongsTo call.actorKey && run.active) < maxActiveRuns) :
    Orderly maxActiveRuns { s with holders := s.holders.put call.actorKey (call, phase) } where
  limited := h.limited
  unique := h.unique
  key := fun other call' phase' hholder => by
    rw [holders_put] at hholder
    split at hholder
    · next heq =>
        obtain ⟨rfl, rfl⟩ := Prod.mk.inj (Option.some.inj hholder)
        exact heq.symm
    · exact h.key other call' phase' hholder
  fresh := fun other call' phase' hholder => by
    rw [holders_put] at hholder
    split at hholder
    · obtain ⟨rfl, rfl⟩ := Prod.mk.inj (Option.some.inj hholder)
      exact hfresh
    · exact h.fresh other call' phase' hholder
  room := fun other call' hholder => by
    rw [holders_put] at hholder
    split at hholder
    · next heq =>
        obtain ⟨rfl, hphase⟩ := Prod.mk.inj (Option.some.inj hholder)
        rw [heq]
        exact hroom hphase
    · exact h.room other call' hholder

/-- A run is inserted, and its submission gives the lock up. -/
theorem Orderly.insert (h : Orderly maxActiveRuns s) {call : Submission}
    (hholder : s.holders call.actorKey = some (call, .inserting))
    (hfree : call.collides s.runs = false) :
    Orderly maxActiveRuns { s.unlock call.actorKey with runs := s.runs ++ [call.run] } where
  limited := fun actorKey => by
    show List.countP _ (s.runs ++ [call.run]) ≤ maxActiveRuns
    rw [List.countP_append]
    by_cases hkey : actorKey = call.actorKey
    · subst hkey
      have hroom := h.room call.actorKey call hholder
      have hle := s.activeRuns_le call.actorKey
      have hone := @List.countP_le_length _
        (fun run : SubmittedRun => run.actorKey = some call.actorKey && run.active) [call.run]
      rw [activeRuns] at hle
      rw [List.length_singleton] at hone
      omega
    · have hnone : List.countP (fun run : SubmittedRun =>
          run.actorKey = some actorKey && run.active) [call.run] = 0 := by
        simp [Submission.run, Ne.symm hkey]
      rw [hnone]
      exact h.limited actorKey
  unique := by
    show List.Pairwise _ (s.runs ++ [call.run])
    rw [List.pairwise_append]
    refine ⟨h.unique, List.pairwise_singleton _ _, ?_⟩
    intro run hrun new hnew
    obtain rfl := List.mem_singleton.mp hnew
    have hnot := List.any_eq_false.mp hfree run hrun
    exact (show _ ∧ run.sameRequest call.run = false by simpa using hnot).2
  key := (h.unlock call.actorKey).key
  fresh := fun other call' phase hother hphase run hrun => by
    rw [unlock_apply] at hother
    split at hother
    · exact nomatch hother
    · next hne =>
        rcases List.mem_append.mp hrun with hrun | hnew
        · exact h.fresh other call' phase hother hphase run hrun
        · obtain rfl := List.mem_singleton.mp hnew
          refine isFor_run_of_ne ?_
          rw [h.key other call' phase hother]
          exact hne
  room := fun other call' hother => by
    rw [unlock_apply] at hother
    split at hother
    · exact nomatch hother
    · next hne =>
        show List.countP _ (s.runs ++ [call.run]) < maxActiveRuns
        rw [List.countP_append]
        have hnone : List.countP (fun run : SubmittedRun => run.belongsTo other && run.active)
            [call.run] = 0 := by
          simp [belongsTo_run_of_ne hne]
        rw [hnone]
        exact h.room other call' hother

/-- A run's status changes. -/
theorem Orderly.status (h : Orderly maxActiveRuns s) (runId : String) (status : RunStatus) :
    Orderly maxActiveRuns { s with
      runs := updateWhere (fun run => run.id = runId) (·.setStatus status) s.runs } where
  limited := fun actorKey =>
    (countP_status_le fun run => by rw [actorKey_setStatus]).trans (h.limited actorKey)
  unique := by
    refine List.pairwise_map.mpr (h.unique.imp fun {run other} hdiffer => ?_)
    have hkeep : ∀ run : SubmittedRun,
        (if run.id = runId then run.setStatus status else run).actorKey = run.actorKey ∧
        (if run.id = runId then run.setStatus status else run).clientRequestId =
          run.clientRequestId := by
      intro run
      split
      · exact ⟨actorKey_setStatus, clientRequestId_setStatus⟩
      · exact ⟨rfl, rfl⟩
    simp only [decide_eq_true_eq]
    rw [SubmittedRun.sameRequest, (hkeep run).1, (hkeep run).2, (hkeep other).1, (hkeep other).2]
    exact hdiffer
  key := h.key
  fresh := fun other call phase hholder hphase run hrun => by
    obtain ⟨before, hbefore, rfl⟩ := List.mem_map.mp hrun
    have hfresh := h.fresh other call phase hholder hphase before hbefore
    split
    · rw [isFor_setStatus]
      exact hfresh
    · exact hfresh
  room := fun other call hholder =>
    (countP_status_le fun run => belongsTo_setStatus).trans_lt (h.room other call hholder)

/-- One event keeps the order, and answers as it should. -/
theorem Orderly.step (h : Orderly maxActiveRuns s) (event : ReserveEvent) :
    Orderly maxActiveRuns (s.step maxActiveRuns event) := by
  cases event with
  | lock call =>
      rw [Reservations.step]
      split
      · exact h
      · exact h.goOn (fun hphase => absurd rfl hphase) (fun hphase => nomatch hphase)
  | collision k => exact ⟨⟨h.limited, h.unique⟩, h.key, h.fresh, h.room⟩
  | status runId status => exact h.status runId status
  | crash actorKey => exact h.unlock actorKey
  | statement actorKey =>
      rw [Reservations.step]
      split
      · exact h
      · next call phase hholder =>
          obtain rfl := h.key actorKey call phase hholder
          cases phase with
          | looking =>
              rw [reserveStatement]
              split
              · exact h.unlock call.actorKey
              · next hnone =>
                  exact h.goOn (fun _ => Submission.fresh_of_find? hnone)
                    (fun hphase => nomatch hphase)
          | counting =>
              rw [reserveStatement]
              split
              · exact h.unlock call.actorKey
              · next hroom =>
                  have hfresh := h.fresh call.actorKey call .counting hholder
                    (fun hphase => nomatch hphase)
                  exact h.goOn (fun _ => hfresh) (fun _ => Nat.lt_of_not_le hroom)
          | inserting =>
              rw [reserveStatement]
              split
              · split
                · exact h.unlock call.actorKey
                · have hkeep := h.unlock call.actorKey
                  exact ⟨⟨hkeep.limited, hkeep.unique⟩, hkeep.key, hkeep.fresh, hkeep.room⟩
              · next hfree =>
                  exact h.insert hholder (by simpa using hfree)

/-- A submission that looks again is answered by the run that there is. -/
theorem Orderly.answerCollision_eq (h : Orderly maxActiveRuns s) {call : Submission}
    {run : SubmittedRun} (hrun : run ∈ s.runs) (hfor : call.isFor run = true) :
    answerCollision s.runs call =
      if run.requestFingerprint = some call.requestFingerprint then .existing run.payload
      else .conflict := by
  rw [answerCollision]
  cases hfind : s.runs.find? call.isFor with
  | none =>
      rw [Submission.fresh_of_find? hfind run hrun] at hfor
      exact nomatch hfor
  | some found => exact Submission.repeated_eq h.unique hfind hrun hfor

/-- Only an insert changes the runs. -/
theorem reserveStatement_runs (runs : List SubmittedRun) (call : Submission)
    (phase : ReservePhase) :
    (reserveStatement maxActiveRuns runs call phase).1 = runs ∨
      reserveStatement maxActiveRuns runs call phase =
        (runs ++ [call.run], .answer (.created call.run.payload)) := by
  cases phase with
  | looking =>
      rw [reserveStatement]
      split
      · exact Or.inl rfl
      · exact Or.inl rfl
  | counting =>
      rw [reserveStatement]
      split
      · exact Or.inl rfl
      · exact Or.inl rfl
  | inserting =>
      rw [reserveStatement]
      split
      · exact Or.inl rfl
      · exact Or.inr rfl

theorem after_runs (s : Reservations) (call : Submission)
    (result : List SubmittedRun × ReserveStep) : (s.after call result).runs = result.1 := by
  obtain ⟨runs, next⟩ := result
  cases next with
  | goOn => rfl
  | lookAgain => rfl
  | answer => rfl

theorem Orderly.answered (h : Orderly maxActiveRuns s) (event : ReserveEvent) :
    Answered maxActiveRuns s event := by
  constructor
  · intro call outcome htold run hrun hfor
    cases event with
    | lock => exact nomatch htold
    | status => exact nomatch htold
    | crash => exact nomatch htold
    | collision k =>
        obtain ⟨collided, -, heq⟩ := Option.map_eq_some_iff.mp htold
        obtain ⟨rfl, rfl⟩ := Prod.mk.inj heq
        rw [h.answerCollision_eq hrun hfor]
    | statement actorKey =>
        obtain ⟨⟨holder, phase⟩, hholder, heq⟩ := Option.map_eq_some_iff.mp htold
        obtain ⟨rfl, rfl⟩ := Prod.mk.inj heq
        obtain rfl | hphase := eq_or_ne phase ReservePhase.looking
        · cases hfind : s.runs.find? holder.isFor with
          | none =>
              rw [Submission.fresh_of_find? hfind run hrun] at hfor
              exact nomatch hfor
          | some found =>
              simp only [reserveStatement, hfind]
              rw [Submission.repeated_eq h.unique hfind hrun hfor]
        · rw [h.fresh actorKey holder phase hholder hphase run hrun] at hfor
          exact nomatch hfor
  · intro call outcome htold
    cases event with
    | lock => exact nomatch htold
    | status => exact nomatch htold
    | crash => exact nomatch htold
    | collision k => exact Or.inl rfl
    | statement actorKey =>
        obtain ⟨⟨holder, phase⟩, hholder, heq⟩ := Option.map_eq_some_iff.mp htold
        obtain ⟨rfl, rfl⟩ := Prod.mk.inj heq
        simp only [Reservations.step, hholder, after_runs]
        rcases @reserveStatement_runs maxActiveRuns s.runs holder phase with hsame | hcreated
        · exact Or.inl hsame
        · rw [hcreated]
          exact Or.inr ⟨rfl, rfl⟩

/-- A table with runs from before the actor keys. -/
def start (legacy : List SubmissionPayload) : Reservations := { runs := legacy.map legacyRun }

theorem orderly_start (legacy : List SubmissionPayload) :
    Orderly maxActiveRuns (start legacy) where
  limited := fun actorKey => by
    refine (Nat.le_of_eq (List.countP_eq_zero.mpr ?_)).trans (Nat.zero_le _)
    intro run hrun
    obtain ⟨payload, -, rfl⟩ := List.mem_map.mp hrun
    simp [legacyRun]
  unique := by
    refine List.pairwise_map.mpr (List.pairwise_of_forall fun payload other => ?_)
    simp [SubmittedRun.sameRequest, legacyRun]
  key := fun actorKey call phase h => nomatch h
  fresh := fun actorKey call phase h => nomatch h
  room := fun actorKey call h => nomatch h

/-- Whatever submissions come together, and whatever runs end between their statements: no
actor gets too many active runs, no client request gets two runs, and a client request that
has a run is answered by it. -/
theorem submissions_reserved (maxActiveRuns : Nat) (legacy : List SubmissionPayload)
    (events : List ReserveEvent) :
    Always (Reserved maxActiveRuns) (step maxActiveRuns) (start legacy) events ∧
      Along (Answered maxActiveRuns) (step maxActiveRuns) (start legacy) events := by
  have hall : Along (fun _ _ => True) (step maxActiveRuns) (start legacy) events :=
    along_of_forall fun _ _ => trivial
  constructor
  · exact (Always.of_along (fun s event h _ => h.step event) (orderly_start legacy) hall).imp
      fun s h => h.toReserved
  · exact Along.of_keeps (fun s event h _ => Orderly.answered h event)
      (fun s event h _ => Orderly.step h event) (orderly_start legacy) hall

end

end Reservations

end AskLake.Trino

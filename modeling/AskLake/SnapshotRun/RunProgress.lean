/-
# `AskLake.SnapshotRun.RunProgress` — who moves the status of a run, and when it is given up

    queued  <  running  <  success, failed, canceled

The answer to a submission may come late, after polls that know more.  It moves the status
forwards or not at all, and so does every other request but one: a poll that Airflow answers
takes what Airflow says.

A run that Airflow does not know is given up after three such answers.  The count is in
`airflowReservation`, which Catalog requests write back from an old view.
-/
import AskLake.SnapshotRun.PublishedRuns

namespace AskLake.SnapshotRun

open AskLake.Lib AskLake.Python AskLake.Materialization

/-- How far a run has come. -/
def RunStatus.rank : RunStatus → Nat
  | .queued => 0
  | .running => 1
  | .success | .failed | .canceled => 2

theorem RunStatus.rank_le_two (status : RunStatus) : status.rank ≤ 2 := by
  cases status <;> simp [rank]

theorem RunStatus.rank_of_terminal {status : RunStatus} (h : status.terminal = true) :
    status.rank = 2 := by
  cases status with
  | queued => cases h
  | running => cases h
  | success => rfl
  | failed => rfl
  | canceled => rfl

/-- `int(reservation.get("missingCount") or 0)` -/
def TaskStates.missingCount (states : TaskStates) : Nat :=
  (states.airflowReservation.bind AirflowReservation.missingCount).getD 0

namespace Shared

/-- What one event does to the status. -/
structure Moves (service : Service) (s : Shared) (event : Event) : Prop where
  /-- No request but a poll moves it backwards. -/
  forward : s.polled event = none → s.row.status.rank ≤ (s.step service event).row.status.rank
  /-- A poll takes what Airflow says, or takes a success for a failure. -/
  polls : ∀ dagRun ∈ s.polled event,
    (s.step service event).row.status = airflowRunStatus service.host.toHost dagRun.state ∨
      airflowRunStatus service.host.toHost dagRun.state = .success ∧
        (s.step service event).row.status = .failed
  /-- What a run has come to stands, whatever the answer to its submission. -/
  late : ∀ answers, event = .answerSubmission answers → s.row.status.terminal = true →
    (s.step service event).row.status = s.row.status ∧
      (s.step service event).row.outputPath = s.row.outputPath ∧
      (s.step service event).row.failedStage = s.row.failedStage ∧
      (s.step service event).row.errorSummary = s.row.errorSummary
  /-- A run is given up after three answers that it is missing. -/
  givesUp : s.missed event = true → s.row.status ≠ .failed →
    (s.step service event).row.status = .failed → 3 ≤ (s.step service event).misses

/-- No count is more than the answers there were. -/
structure Counted (s : Shared) : Prop where
  row : s.row.taskStates.missingCount ≤ s.misses
  views : ∀ call ∈ s.reconciles, call.view.missingCount ≤ s.misses

end Shared

/-! ## The answer to a submission -/

theorem applyAirflowResult_rank (row submitted : RunRow) :
    row.status.rank ≤ (row.applyAirflowResult submitted).status.rank := by
  unfold RunRow.applyAirflowResult
  dsimp only
  split
  · rename_i h
    obtain ⟨hqueued | hterminal, -⟩ := h
    · simp [hqueued, RunStatus.rank]
    · rw [RunStatus.rank_of_terminal hterminal]
      exact row.status.rank_le_two
  · exact le_refl _

theorem markSubmissionUnknown_rank (error : AirflowError) (row : RunRow) :
    row.status.rank ≤ (row.markSubmissionUnknown error).status.rank := by
  unfold RunRow.markSubmissionUnknown
  dsimp only
  split
  · exact le_refl _
  · rename_i hqueued
    have hstatus : row.status = .queued := by simpa using hqueued
    rw [hstatus]
    exact Nat.zero_le _

theorem answerSubmission_rank (host : Host) (job : SnapshotJob) (answers : SubmissionAnswers)
    (row : RunRow) :
    row.status.rank ≤ (row.answerSubmission host job answers).status.rank := by
  unfold RunRow.answerSubmission
  split
  · exact applyAirflowResult_rank row _
  · exact markSubmissionUnknown_rank _ row

theorem answerSubmission_late (host : Host) (job : SnapshotJob) (answers : SubmissionAnswers)
    {row : RunRow} (h : row.status.terminal = true) :
    (row.answerSubmission host job answers).status = row.status ∧
      (row.answerSubmission host job answers).outputPath = row.outputPath ∧
      (row.answerSubmission host job answers).failedStage = row.failedStage ∧
      (row.answerSubmission host job answers).errorSummary = row.errorSummary := by
  have hne : row.status ≠ .queued := by
    rintro hqueued
    rw [hqueued] at h
    cases h
  unfold RunRow.answerSubmission
  split
  · unfold RunRow.applyAirflowResult
    dsimp only
    rw [if_neg (by simp [h])]
    exact ⟨rfl, rfl, rfl, rfl⟩
  · unfold RunRow.markSubmissionUnknown
    dsimp only
    rw [if_pos hne]
    exact ⟨rfl, rfl, rfl, rfl⟩

/-! ## Polls -/

theorem recordSyncError_rank (error : AirflowError) (row : RunRow) :
    row.status.rank ≤ (row.recordSyncError error).status.rank := by
  unfold RunRow.recordSyncError
  dsimp only
  split
  · exact le_refl _
  · split
    · exact le_refl _
    · exact row.status.rank_le_two

/-- One answer that a run is missing is counted. -/
theorem recordSyncError_missing {error : AirflowError} (h : error.missing = true) (row : RunRow) :
    (row.recordSyncError error).taskStates.missingCount = row.taskStates.missingCount + 1 ∧
      ((row.recordSyncError error).status = .failed →
        row.status = .failed ∨ 3 ≤ row.taskStates.missingCount + 1) := by
  have hcount : row.taskStates.missingCount =
      (row.taskStates.airflowReservation.getD { status := .missing }).missingCount.getD 0 := by
    unfold TaskStates.missingCount
    cases row.taskStates.airflowReservation with
    | none => rfl
    | some reservation => rfl
  unfold RunRow.recordSyncError
  dsimp only
  rw [if_neg (by simp [h]), ← hcount]
  split
  · exact ⟨rfl, Or.inl⟩
  · rename_i hlimit
    exact ⟨rfl, fun _ => Or.inr (by simpa [airflowMissingRunFailureLimit] using hlimit)⟩

theorem recordSyncError_known {error : AirflowError} (h : error.missing = false) (row : RunRow) :
    (row.recordSyncError error).taskStates = row.taskStates := by
  unfold RunRow.recordSyncError
  dsimp only
  rw [if_pos (by simp [h])]

theorem confirmSuccess_status (host : ProjectionHost) (dataset : History) {row : RunRow}
    (h : row.status = .success) :
    (row.confirmSuccess host dataset).status = .success ∨
      (row.confirmSuccess host dataset).status = .failed := by
  unfold RunRow.confirmSuccess
  split
  · exact Or.inr rfl
  · exact Or.inl h
  · split
    · exact Or.inl h
    · exact Or.inr rfl

theorem poll_status (host : ProjectionHost) (title : String → String) (dataset : History)
    (dagRun : DagRun) (tasks : List TaskInstance) (row : RunRow) :
    (row.poll host title dataset (.dagRun dagRun tasks)).status =
        airflowRunStatus host.toHost dagRun.state ∨
      airflowRunStatus host.toHost dagRun.state = .success ∧
        (row.poll host title dataset (.dagRun dagRun tasks)).status = .failed := by
  have hstatus : (row.assignDagRun host.toHost dagRun tasks).status =
      airflowRunStatus host.toHost dagRun.state := rfl
  unfold RunRow.poll
  dsimp only
  split
  · rename_i hfailed
    have := (explainFailure_row host title tasks _).2 hfailed
    exact Or.inl (this.trans (hfailed.symm.trans hstatus))
  · rename_i hsuccess
    rcases confirmSuccess_status host dataset hsuccess with hkept | hfailed
    · exact Or.inl (hkept.trans (hsuccess.symm.trans hstatus))
    · exact Or.inr ⟨hstatus.symm.trans hsuccess, hfailed⟩
  · exact Or.inl hstatus

/-- Polls that learn something keep the count. -/
theorem poll_missingCount (host : ProjectionHost) (title : String → String) (dataset : History)
    {answer : PollAnswer} (h : ∀ error, answer ≠ .unavailable error) (row : RunRow) :
    (row.poll host title dataset answer).taskStates.missingCount =
      row.taskStates.missingCount := by
  cases answer with
  | unavailable error => exact absurd rfl (h error)
  | tasksUnavailable error => rfl
  | dagRun dagRun tasks =>
      unfold RunRow.poll
      dsimp only
      split
      · rw [explainFailure_taskStates]
        rfl
      · rw [confirmSuccess_taskStates]
        rfl
      · rfl

theorem answerSubmission_missingCount (host : Host) (job : SnapshotJob)
    (answers : SubmissionAnswers) (row : RunRow) :
    (row.answerSubmission host job answers).taskStates.missingCount ≤
      row.taskStates.missingCount := by
  unfold RunRow.answerSubmission
  split
  · rw [applyAirflowResult_taskStates]
  · unfold RunRow.markSubmissionUnknown
    dsimp only
    split
    · exact Nat.zero_le _
    · split
      · exact Nat.zero_le _
      · exact Nat.zero_le _

namespace Shared

variable {service : Service} {s s' : Shared} {event : Event}

/-! ## The count -/

/-- A step after which the row and every request count no more than before. -/
theorem Counted.of_le (h : s.Counted) (hrow : s'.row.taskStates.missingCount ≤ s'.misses)
    (hmisses : s.misses ≤ s'.misses)
    (hviews : ∀ call ∈ s'.reconciles, call ∈ s.reconciles ∨
      call.view.missingCount ≤ s.misses) : s'.Counted where
  row := hrow
  views := by
    intro call hcall
    rcases hviews call hcall with hold | hnew
    · exact (h.views call hold).trans hmisses
    · exact hnew.trans hmisses

/-- A step that keeps the reservation and drops open requests at most. -/
theorem Counted.of_same (h : s.Counted)
    (hrow : s'.row.taskStates.missingCount ≤ s.row.taskStates.missingCount)
    (hmisses : s'.misses = s.misses) (hsub : s'.reconciles.Sublist s.reconciles) : s'.Counted :=
  h.of_le (by rw [hmisses]; exact hrow.trans h.row) hmisses.ge
    fun call hcall => Or.inl (hsub.subset hcall)

theorem counted_polled (h : s.Counted) (k : Nat) (dataset : History) (answer : PollAnswer) :
    Counted { s with
      row := s.row.poll service.host.toProjectionHost service.title dataset answer
      syncs := s.syncs.eraseIdx k
      misses := s.misses + answer.misses } := by
  have hrow := h.row
  refine h.of_le ?_ (Nat.le_add_right _ _) fun _ => Or.inl
  cases answer with
  | unavailable error =>
      cases hmissing : error.missing with
      | true =>
          have hcount : (s.row.recordSyncError error).taskStates.missingCount =
              s.row.taskStates.missingCount + 1 := (recordSyncError_missing hmissing s.row).1
          simp [RunRow.poll, PollAnswer.misses, hmissing, hcount, hrow]
      | false =>
          simpa [RunRow.poll, PollAnswer.misses, hmissing, recordSyncError_known hmissing] using hrow
  | tasksUnavailable error => exact hrow
  | dagRun dagRun tasks =>
      refine (le_of_eq ?_).trans hrow
      exact poll_missingCount _ _ _ (by simp) _

theorem counted_effect (h : s.Counted) (heffect : Effect service s event s') : s'.Counted := by
  cases heffect with
  | answered answers =>
      exact h.of_same (answerSubmission_missingCount _ _ _ _) rfl (List.Sublist.refl _)
  | claimed hclaim =>
      obtain ⟨-, -, rfl⟩ := claim_eq_claimed hclaim
      exact h.of_same (le_refl _) rfl (List.Sublist.refl _)
  | stored hk hstore =>
      obtain ⟨execution, -, hstates, -⟩ := storeResult_eq_some hstore
      refine h.of_same (le_of_eq ?_) rfl (List.Sublist.refl _)
      rw [hstates]
      rfl
  | raised hk =>
      obtain ⟨execution, hrow, -⟩ := failAttempt_row _ _ s.row
      refine h.of_same (le_of_eq ?_) rfl (List.Sublist.refl _)
      rw [hrow]
      rfl
  | lost k => exact h.of_same (le_refl _) rfl (List.Sublist.refl _)
  | opened hview hstart =>
      refine h.of_le h.row (le_refl _) fun call hcall => ?_
      rcases List.mem_append.mp hcall with hold | hnew
      · exact Or.inl hold
      · obtain rfl := List.mem_singleton.mp hnew
        rw [hview]
        exact Or.inr h.row
  | published hk =>
      exact h.of_le (h.views _ (List.mem_of_getElem? hk)) (le_refl _)
        fun other hother => Or.inl ((List.eraseIdx_sublist _ _).subset hother)
  | reread hk hview =>
      refine h.of_le h.row (le_refl _) fun call hcall => ?_
      rcases List.mem_or_eq_of_mem_set hcall with hold | rfl
      · exact Or.inl hold
      · rw [hview]
        exact Or.inr h.row
  | failed hk =>
      exact h.of_le (h.views _ (List.mem_of_getElem? hk)) (le_refl _)
        fun other hother => Or.inl ((List.eraseIdx_sublist _ _).subset hother)
  | dropped k => exact h.of_same (le_refl _) rfl (List.eraseIdx_sublist _ _)
  | listed => exact h.of_same (le_refl _) rfl (List.Sublist.refl _)
  | polled hk => exact counted_polled h _ _ _
  | repaired hk => exact h.of_same (le_refl _) rfl (List.Sublist.refl _)
  | unlisted k => exact h.of_same (le_refl _) rfl (List.Sublist.refl _)
  | other => exact h.of_same (le_refl _) rfl (List.Sublist.refl _)

theorem counted_step (h : s.Counted) (event : Event) : (s.step service event).Counted := by
  rcases effect_step service s event with hsame | heffect
  · rw [hsame]
    exact h
  · exact counted_effect h heffect

/-! ## The status -/

theorem rank_effect (h : s.polled event = none) (heffect : Effect service s event s') :
    s.row.status.rank ≤ s'.row.status.rank := by
  cases heffect with
  | answered answers => exact answerSubmission_rank _ _ _ _
  | claimed hclaim =>
      obtain ⟨-, -, rfl⟩ := claim_eq_claimed hclaim
      exact le_refl _
  | stored hk hstore =>
      obtain ⟨execution, -, -, -, hstatus⟩ := storeResult_eq_some hstore
      rw [hstatus]
  | raised hk =>
      obtain ⟨execution, hrow, -⟩ := failAttempt_row _ _ s.row
      rw [hrow]
  | polled hk hactive =>
      rename_i k answer call
      cases answer with
      | unavailable error => exact recordSyncError_rank error s.row
      | tasksUnavailable error => exact le_refl _
      | dagRun dagRun tasks => simp [Shared.polled, hk, hactive] at h
  | repaired hk hrepair =>
      refine s.row.status.rank_le_two.trans (le_of_eq ?_)
      exact (congrArg RunStatus.rank (repair_status hrepair)).symm
  | _ => exact le_refl _

theorem rank_step (h : s.polled event = none) :
    s.row.status.rank ≤ (s.step service event).row.status.rank := by
  rcases effect_step service s event with hsame | heffect
  · rw [hsame]
  · exact rank_effect h heffect

theorem polled_eq_some {dagRun : DagRun} (h : s.polled event = some dagRun) :
    ∃ k tasks call, event = .poll k (.dagRun dagRun tasks) ∧ s.syncs[k]? = some call ∧
      call.view.active = true := by
  cases event with
  | poll k answer =>
      cases answer with
      | dagRun other tasks =>
          unfold polled at h
          dsimp only at h
          split at h
          · rename_i hactive
            cases h
            obtain ⟨call, hk, hcall⟩ := (Option.any_eq_true _ _).mp hactive
            exact ⟨k, tasks, call, rfl, hk, hcall⟩
          · cases h
      | unavailable error => cases h
      | tasksUnavailable error => cases h
  | _ => cases h

theorem missed_eq_true (h : s.missed event = true) :
    ∃ k error call, event = .poll k (.unavailable error) ∧ error.missing = true ∧
      s.syncs[k]? = some call ∧ call.view.active = true := by
  cases event with
  | poll k answer =>
      cases answer with
      | unavailable error =>
          unfold missed at h
          dsimp only at h
          rw [Bool.and_eq_true] at h
          obtain ⟨call, hk, hcall⟩ := (Option.any_eq_true _ _).mp h.1
          exact ⟨k, error, call, rfl, h.2, hk, hcall⟩
      | dagRun other tasks => cases h
      | tasksUnavailable error => cases h
  | _ => cases h

theorem Counted.moves (h : s.Counted) : Moves service s event where
  forward := rank_step
  polls := by
    intro dagRun hpolled
    obtain ⟨k, tasks, call, rfl, hk, hactive⟩ := polled_eq_some hpolled
    show (s.poll service k (.dagRun dagRun tasks)).row.status = _ ∨
      _ ∧ (s.poll service k (.dagRun dagRun tasks)).row.status = _
    unfold Shared.poll
    rw [hk]
    dsimp only
    rw [if_pos hactive]
    exact poll_status _ _ _ _ _ _
  late := by
    intro answers hevent hterminal
    subst hevent
    show (s.answerSubmission service answers).row.status = _ ∧
      (s.answerSubmission service answers).row.outputPath = _ ∧
      (s.answerSubmission service answers).row.failedStage = _ ∧
      (s.answerSubmission service answers).row.errorSummary = _
    unfold Shared.answerSubmission
    split
    · exact answerSubmission_late _ _ _ hterminal
    · exact ⟨rfl, rfl, rfl, rfl⟩
  givesUp := by
    intro hmissed hnot hfailed
    obtain ⟨k, error, call, rfl, hmissing, hk, hactive⟩ := missed_eq_true hmissed
    have hpoll : s.step service (.poll k (.unavailable error)) = { s with
        row := s.row.recordSyncError error
        syncs := s.syncs.eraseIdx k
        misses := s.misses + 1 } := by
      simp [Shared.step, Shared.poll, hk, hactive, RunRow.poll, PollAnswer.misses, hmissing]
    rw [hpoll] at hfailed ⊢
    rcases (recordSyncError_missing hmissing s.row).2 hfailed with hold | hcount
    · exact absurd hold hnot
    · have hrow := h.row
      show 3 ≤ s.misses + 1
      omega

/-- Two answers that the run is missing, then one that it is running, and a third. -/
def missingThrice : List Event :=
  [.sync, .poll 0 (.unavailable ⟨"not found", some 404⟩), .sync,
    .poll 0 (.unavailable ⟨"not found", some 404⟩), .sync,
    .poll 0 (.dagRun ⟨"asklake_etl_job", "run-1", some "running"⟩ []), .sync,
    .poll 0 (.unavailable ⟨"not found", some 404⟩)]

end Shared

end AskLake.SnapshotRun

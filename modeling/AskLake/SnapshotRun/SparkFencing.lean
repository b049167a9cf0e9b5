/-
# `AskLake.SnapshotRun.SparkFencing` — one Spark result for a run

A claim takes the run for one attempt; the lease of another process, or one that has run
out, does not hold it up, so that several Spark calls can be under way.  What they report
is stored under the attempt id that the row holds:

    stores     only the attempt that was granted last stores a result
    refused    once a successful result is stored, no attempt is granted
    kept       it stays, and evidence is all that is added to it

Catalog requests write `task_states` from an old view.  They have read a successful result
before, and from then on nothing of it changes.
-/
import AskLake.SnapshotRun.Shared
import AskLake.Materialization.Segments

namespace AskLake.SnapshotRun

open AskLake.Lib AskLake.Python AskLake.Materialization
open AskLake.SourceWindow (SourceHost)

namespace Shared

/-- The request that the event grants. -/
def granting (service : Service) (s : Shared) (event : Event) : Option SparkRequest :=
  (claiming event).filter fun request => s.row.claim service.lease request matches .claimed _

/-- What one event does to the Spark result of the run. -/
structure FencesSpark (service : Service) (s : Shared) (event : Event) : Prop where
  /-- A result is stored by the attempt that was granted last. -/
  stores : ∀ attemptId ∈ s.storing event, s.granted.head? = some attemptId
  /-- A process is granted no second attempt while the lease of its last one runs. -/
  waits : ∀ request ∈ s.granting service event, ∀ execution ∈ s.row.taskStates.sparkExecution,
    execution.status = .running → execution.ownerId = request.owner →
      execution.startedAt + service.lease.leaseSeconds ≤ request.now
  /-- After a success no attempt is granted, and no result is stored. -/
  refused : s.row.succeeded = true →
    s.granting service event = none ∧ s.storing event = none
  /-- A success stays, with evidence added at most. -/
  kept : s.row.succeeded = true → ∀ result ∈ s.row.taskStates.sparkResult,
    ∃ result' ∈ (s.step service event).row.taskStates.sparkResult, Extends result result'

/-- `make_attempt_id` makes a new one. -/
def FreshAttempt (s : Shared) (event : Event) : Prop :=
  ∀ request ∈ claiming event, request.attemptId ∉ s.granted

instance (s : Shared) (event : Event) : Decidable (FreshAttempt s event) :=
  inferInstanceAs (Decidable (∀ request ∈ claiming event, request.attemptId ∉ s.granted))

/-- The run is reserved, and nothing has happened to it yet. -/
structure Reserved (s : Shared) : Prop where
  evidence : s.row.taskStates.evidence = (none, none, none)
  attempts : s.attempts = []
  reconciles : s.reconciles = []
  granted : s.granted = []
  results : s.results = []

end Shared

/-! ## The invariant -/

/-- The column holds the result, with evidence at most. -/
def TaskStates.Holds (states : TaskStates) (result : Manifest) : Prop :=
  ∃ held, states.sparkResult = some held ∧ Extends result held

/-- The newest result says whether there is a success. -/
theorem succeeded_of_held {states : TaskStates} {results : List Manifest}
    (hheld : ∀ newest ∈ results.head?, states.Holds newest)
    (hempty : results = [] → states.sparkResult = none) :
    states.succeeded = results.head?.any Manifest.successful := by
  cases results with
  | nil =>
      rw [TaskStates.succeeded, hempty rfl]
      rfl
  | cons newest older =>
      obtain ⟨held, hstored, hextends⟩ := hheld newest rfl
      rw [TaskStates.succeeded, hstored]
      exact hextends.successful

namespace Shared

/-- What a Catalog request has read is still there. -/
structure ViewCurrent (s : Shared) (call : ReconcileCall) : Prop where
  execution : call.view.sparkExecution = s.row.taskStates.sparkExecution
  stored : s.results ≠ []
  newest : ∀ newest ∈ s.results.head?, newest.successful = true ∧ call.view.Holds newest ∧
    (call.failing = none → Extends newest call.sparkResult)

structure Fenced (s : Shared) : Prop where
  execution : s.row.taskStates.sparkExecution.map SparkExecution.attemptId = s.granted.head?
  distinct : (s.attempts.map Attempt.attemptId).Nodup
  granted : ∀ attempt ∈ s.attempts, attempt.attemptId ∈ s.granted
  held : ∀ newest ∈ s.results.head?, s.row.taskStates.Holds newest
  empty : s.results = [] → s.row.taskStates.sparkResult = none
  older : ∀ result ∈ s.results.tail, result.successful = false
  ended : s.row.succeeded = true →
    ∀ attempt ∈ s.attempts, s.granted.head? ≠ some attempt.attemptId
  views : ∀ call ∈ s.reconciles, s.ViewCurrent call

theorem Reserved.fenced {s : Shared} (h : s.Reserved) : s.Fenced := by
  have hexecution : s.row.taskStates.sparkExecution = none := congrArg Prod.fst h.evidence
  have hresult : s.row.taskStates.sparkResult = none :=
    congrArg (fun evidence => evidence.2.1) h.evidence
  constructor <;>
    simp [h.attempts, h.reconciles, h.granted, h.results, hexecution, hresult]

variable {service : Service} {s s' : Shared} {event : Event}

theorem Fenced.succeeded_eq (h : s.Fenced) :
    s.row.succeeded = s.results.head?.any Manifest.successful :=
  succeeded_of_held h.held h.empty

/-- The newest result of a run that has succeeded. -/
theorem Fenced.newest_of_succeeded (h : s.Fenced) (hsucceeded : s.row.succeeded = true) :
    ∃ newest, s.results.head? = some newest ∧ newest.successful = true := by
  rw [h.succeeded_eq] at hsucceeded
  exact (Option.any_eq_true _ _).mp hsucceeded

theorem Fenced.succeeded_of_call (h : s.Fenced) {call : ReconcileCall} (hcall : call ∈ s.reconciles) :
    s.row.succeeded = true := by
  obtain ⟨-, hstored, hnewest⟩ := h.views call hcall
  obtain ⟨newest, older, hresults⟩ := List.exists_cons_of_ne_nil hstored
  rw [h.succeeded_eq, hresults]
  exact (hnewest newest (by rw [hresults]; rfl)).1

/-- No result was a success so far. -/
theorem Fenced.unsuccessful (h : s.Fenced) (hsucceeded : s.row.succeeded = false) :
    ∀ result ∈ s.results, result.successful = false := by
  have holder := h.older
  rw [h.succeeded_eq] at hsucceeded
  cases hresults : s.results with
  | nil => simp
  | cons newest older =>
      rw [hresults] at hsucceeded holder
      intro result hresult
      rcases List.mem_cons.mp hresult with rfl | hold
      · exact hsucceeded
      · exact holder result hold

/-- A step that keeps the execution and what is held of the newest result, and drops open
requests at most. -/
theorem Fenced.of_held (h : s.Fenced)
    (hexecution : s'.row.taskStates.sparkExecution = s.row.taskStates.sparkExecution)
    (hheld : ∀ newest ∈ s.results.head?, s'.row.taskStates.Holds newest)
    (hempty : s.results = [] → s'.row.taskStates.sparkResult = none)
    (hgranted : s'.granted = s.granted) (hresults : s'.results = s.results)
    (hattempts : s'.attempts.Sublist s.attempts)
    (hviews : ∀ call ∈ s'.reconciles, s.ViewCurrent call) : s'.Fenced where
  execution := by rw [hexecution, hgranted, h.execution]
  distinct := h.distinct.sublist (hattempts.map _)
  granted := fun attempt hattempt => hgranted ▸ h.granted attempt (hattempts.subset hattempt)
  held := hresults ▸ hheld
  empty := hresults ▸ hempty
  older := hresults ▸ h.older
  ended := by
    intro hsucceeded attempt hattempt
    have hsame : s'.row.succeeded = s.row.succeeded :=
      (succeeded_of_held hheld hempty).trans h.succeeded_eq.symm
    rw [hgranted]
    exact h.ended (hsame ▸ hsucceeded) attempt (hattempts.subset hattempt)
  views := by
    intro call hcall
    obtain ⟨hview, hstored, hnewest⟩ := hviews call hcall
    exact ⟨hview.trans hexecution.symm, hresults ▸ hstored, hresults ▸ hnewest⟩

/-- A step that leaves the two Spark documents alone. -/
theorem Fenced.of_same (h : s.Fenced)
    (hevidence : s'.row.taskStates.evidence = s.row.taskStates.evidence)
    (hgranted : s'.granted = s.granted) (hresults : s'.results = s.results)
    (hattempts : s'.attempts.Sublist s.attempts)
    (hviews : ∀ call ∈ s'.reconciles, s.ViewCurrent call) : s'.Fenced := by
  have hresult : s'.row.taskStates.sparkResult = s.row.taskStates.sparkResult :=
    congrArg (fun evidence => evidence.2.1) hevidence
  refine h.of_held (congrArg Prod.fst hevidence) (fun newest hnewest => ?_)
    (fun hempty => hresult.trans (h.empty hempty)) hgranted hresults hattempts hviews
  obtain ⟨held, hheld, hextends⟩ := h.held newest hnewest
  exact ⟨held, hresult.trans hheld, hextends⟩

theorem Fenced.viewsOf (h : s.Fenced) {calls : List ReconcileCall}
    (hsub : calls.Sublist s.reconciles) : ∀ call ∈ calls, s.ViewCurrent call :=
  fun call hcall => h.views call (hsub.subset hcall)

/-! ## Spark requests -/

/-- A claim that is granted: the lease of the process has run out, and the row names the
attempt. -/
theorem claim_eq_claimed {request : SparkRequest} {row row' : RunRow}
    (h : row.claim service.lease request = .claimed row') :
    row.succeeded = false ∧
      sparkExecutionLeaseIsActive service.lease request.owner request.now
        row.taskStates.sparkExecution = false ∧
      row' = { row with taskStates := { row.taskStates with
        sparkExecution := some ⟨request.attemptId, request.owner, request.now, .running, none⟩ } } := by
  unfold RunRow.claim at h
  split at h
  · cases h
  split at h
  · cases h
  split at h
  · cases h
  · rename_i hsucceeded hlease
    cases h
    exact ⟨by simpa using hsucceeded, by simpa using hlease, rfl⟩

/-- While there is no success, there is no Catalog request. -/
theorem Fenced.no_call (h : s.Fenced) (hsucceeded : s.row.succeeded = false) :
    ∀ call ∈ s.reconciles, False := by
  intro call hcall
  rw [h.succeeded_of_call hcall] at hsucceeded
  cases hsucceeded

theorem fenced_claimed (h : s.Fenced) {request : SparkRequest} {row : RunRow}
    (hfresh : request.attemptId ∉ s.granted)
    (hclaim : s.row.claim service.lease request = .claimed row) : Fenced { s with
      row
      attempts := s.attempts ++ [⟨request.attemptId, request.owner⟩]
      granted := request.attemptId :: s.granted } := by
  obtain ⟨hsucceeded, -, rfl⟩ := claim_eq_claimed hclaim
  refine ⟨rfl, ?_, ?_, h.held, h.empty, h.older, ?_, ?_⟩
  · rw [List.map_append]
    refine List.nodup_append.mpr ⟨h.distinct, List.nodup_singleton _, ?_⟩
    intro attemptId hmem other hother heq
    obtain ⟨attempt, hattempt, rfl⟩ := List.mem_map.mp hmem
    have hrequest : other = request.attemptId := by simpa using hother
    refine hfresh ?_
    rw [← hrequest, ← heq]
    exact h.granted attempt hattempt
  · intro attempt hattempt
    rcases List.mem_append.mp hattempt with hold | hnew
    · exact List.mem_cons_of_mem _ (h.granted attempt hold)
    · obtain rfl := List.mem_singleton.mp hnew
      exact List.mem_cons_self
  · intro hnow
    exact absurd (hnow.symm.trans hsucceeded) (by simp)
  · exact fun call hcall => (h.no_call hsucceeded call hcall).elim

/-- The attempt that the row names is not over. -/
theorem Fenced.current (h : s.Fenced) {attempt : Attempt} {execution : SparkExecution}
    (hmem : attempt ∈ s.attempts)
    (hof : s.row.taskStates.ofAttempt attempt.attemptId = some execution) :
    s.granted.head? = some attempt.attemptId ∧ s.row.succeeded = false := by
  obtain ⟨hexecution, hid⟩ := TaskStates.ofAttempt_eq_some.mp hof
  have hhead : s.granted.head? = some attempt.attemptId := by
    rw [← h.execution, hexecution, ← hid]
    rfl
  refine ⟨hhead, ?_⟩
  by_contra hne
  exact h.ended (by simpa using hne) attempt hmem hhead

theorem ne_of_mem_eraseIdx {attempts : List Attempt} (h : (attempts.map Attempt.attemptId).Nodup)
    {k : Nat} {attempt other : Attempt} (hk : attempts[k]? = some attempt)
    (hother : other ∈ attempts.eraseIdx k) : other.attemptId ≠ attempt.attemptId := by
  obtain ⟨i, hi, hget⟩ := List.mem_eraseIdx_iff_getElem?.mp hother
  intro heq
  refine hi ((List.getElem?_inj (l := attempts.map Attempt.attemptId) ?_ h).mp ?_)
  · obtain ⟨hlt, -⟩ := List.getElem?_eq_some_iff.mp hget
    simpa using hlt
  · rw [List.getElem?_map, List.getElem?_map, hget, hk, Option.map_some, Option.map_some, heq]

theorem storeResult_eq_some {host : Host} {attemptId : String} {manifest : Manifest}
    {row row' : RunRow} (h : row.storeResult host attemptId manifest = some row') :
    ∃ execution, row.taskStates.ofAttempt attemptId = some execution ∧
      row'.taskStates = { row.taskStates with
        sparkExecution := some { execution with
          status := if manifest.successful then .success else .failed }
        sparkResult := some manifest } ∧
      row'.runId = row.runId ∧ row'.status = row.status := by
  obtain ⟨execution, hof, rfl⟩ := Option.map_eq_some_iff.mp h
  exact ⟨execution, hof, rfl, rfl, rfl⟩

theorem fenced_stored (h : s.Fenced) {k : Nat} {attempt : Attempt} {manifest : Manifest}
    {row : RunRow} (hk : s.attempts[k]? = some attempt)
    (hstore : s.row.storeResult service.host.toHost attempt.attemptId manifest = some row) :
    Fenced { s with
      row, attempts := s.attempts.eraseIdx k, results := manifest :: s.results } := by
  have hsub : (s.attempts.eraseIdx k).Sublist s.attempts := List.eraseIdx_sublist _ _
  obtain ⟨execution, hof, hstates, -⟩ := storeResult_eq_some hstore
  obtain ⟨hhead, hsucceeded⟩ := h.current (List.mem_of_getElem? hk) hof
  refine ⟨?_, h.distinct.sublist (hsub.map _), ?_, ?_, by simp, h.unsuccessful hsucceeded, ?_, ?_⟩
  · rw [hstates, hhead, ← (TaskStates.ofAttempt_eq_some.mp hof).2]
    rfl
  · exact fun other hother => h.granted other (hsub.subset hother)
  · intro newest hnewest
    obtain rfl := Option.some.inj hnewest
    exact ⟨manifest, by rw [hstates], Extends.refl _⟩
  · intro _ other hother heq
    refine ne_of_mem_eraseIdx h.distinct hk hother ?_
    exact Option.some.inj (heq.symm.trans hhead)
  · exact fun call hcall => (h.no_call hsucceeded call hcall).elim

theorem failAttempt_row (attemptId error : String) (row : RunRow) :
    ∃ execution, (row.failAttempt attemptId error).getD row =
        { row with taskStates := { row.taskStates with sparkExecution := execution } } ∧
      execution.map SparkExecution.attemptId =
        row.taskStates.sparkExecution.map SparkExecution.attemptId ∧
      (row.taskStates.ofAttempt attemptId = none →
        execution = row.taskStates.sparkExecution) := by
  unfold RunRow.failAttempt
  cases hof : row.taskStates.ofAttempt attemptId with
  | none => exact ⟨row.taskStates.sparkExecution, rfl, rfl, fun _ => rfl⟩
  | some execution =>
      refine ⟨_, rfl, ?_, fun hnone => by cases hnone⟩
      rw [(TaskStates.ofAttempt_eq_some.mp hof).1]
      rfl

theorem fenced_raised (h : s.Fenced) {k : Nat} {attempt : Attempt} (error : String)
    (hk : s.attempts[k]? = some attempt) : Fenced { s with
      row := (s.row.failAttempt attempt.attemptId error).getD s.row
      attempts := s.attempts.eraseIdx k } := by
  have hsub : (s.attempts.eraseIdx k).Sublist s.attempts := List.eraseIdx_sublist _ _
  obtain ⟨execution, hrow, hid, hsame⟩ := failAttempt_row attempt.attemptId error s.row
  rw [hrow]
  cases hof : s.row.taskStates.ofAttempt attempt.attemptId with
  | none => exact h.of_held (hsame hof) h.held h.empty rfl rfl hsub h.views
  | some current =>
      obtain ⟨hhead, hsucceeded⟩ := h.current (List.mem_of_getElem? hk) hof
      refine ⟨hid.trans h.execution, h.distinct.sublist (hsub.map _),
        fun other hother => h.granted other (hsub.subset hother), h.held, h.empty, h.older, ?_,
        fun call hcall => (h.no_call hsucceeded call hcall).elim⟩
      intro hnow
      exact absurd (hnow.symm.trans hsucceeded) (by simp)

/-! ## Catalog requests -/

theorem startReconcile_verify {host : Host} {job : SnapshotJob} {dataset : History} {row : RunRow}
    {sparkResult : Manifest} (h : row.startReconcile host job dataset = .verify sparkResult) :
    row.taskStates.sparkResult = some sparkResult ∧ sparkResult.successful = true ∧
      host.text ((sparkResult.get "runId").orElse (.str row.runId)) = row.runId := by
  unfold RunRow.startReconcile at h
  split at h
  · cases h
  split at h
  · cases h
  split at h
  · cases h
  split at h
  · cases h
  · rename_i stored hstored
    split at h
    · cases h
    · rename_i hsuccessful
      split at h
      · cases h
      · rename_i hruns
        cases h
        exact ⟨hstored, by simpa using hsuccessful, by simpa using hruns⟩

/-- A job with a dataset: no failure is recorded before a success was read. -/
theorem startReconcile_ne_fail {host : Host} {job : SnapshotJob} {dataset : History} {row : RunRow}
    {message : String} (hdataset : strip job.datasetId ≠ "") :
    row.startReconcile host job dataset ≠ .fail message := by
  unfold RunRow.startReconcile
  split
  · simp
  · split
    · simp
    · split
      · simp
      · split
        · simp
        · split <;> simp

/-- The row as it is now, for a request that reads it after a success. -/
theorem Fenced.viewCurrent_now (h : s.Fenced) {call : ReconcileCall}
    (hview : call.view = s.row.taskStates) (hsucceeded : s.row.succeeded = true)
    (hsparkResult : call.failing = none →
      ∀ newest ∈ s.results.head?, Extends newest call.sparkResult) : s.ViewCurrent call := by
  obtain ⟨newest, hhead, hsuccessful⟩ := h.newest_of_succeeded hsucceeded
  refine ⟨by rw [hview], fun hnil => by simp [hnil] at hhead, fun other hother => ?_⟩
  obtain rfl := Option.some.inj (hhead.symm.trans hother)
  exact ⟨hsuccessful, hview ▸ h.held newest hother, fun hnone => hsparkResult hnone newest hother⟩

theorem fenced_opened (h : s.Fenced) (hdataset : strip service.job.datasetId ≠ "")
    {call : ReconcileCall} (hview : call.view = s.row.taskStates)
    (hstart : s.row.startReconcile service.host.toHost service.job s.dataset =
      .verify call.sparkResult ∨ ∃ message, call.failing = some message ∧
        s.row.startReconcile service.host.toHost service.job s.dataset = .fail message) :
    Fenced { s with reconciles := s.reconciles ++ [call] } := by
  obtain hverify | ⟨message, -, hfail⟩ := hstart
  · obtain ⟨hstored, hsuccessful, -⟩ := startReconcile_verify hverify
    have hsucceeded : s.row.succeeded = true := by
      rw [RunRow.succeeded, TaskStates.succeeded, hstored]
      exact hsuccessful
    refine h.of_same rfl rfl rfl (List.Sublist.refl _) fun other hother => ?_
    rcases List.mem_append.mp hother with hold | hnew
    · exact h.views other hold
    · obtain rfl := List.mem_singleton.mp hnew
      refine h.viewCurrent_now hview hsucceeded fun _ newest hnewest => ?_
      obtain ⟨held, hheld, hextends⟩ := h.held newest hnewest
      obtain rfl := Option.some.inj (hstored.symm.trans hheld)
      exact hextends
  · exact absurd hfail (startReconcile_ne_fail hdataset)

theorem commitCatalog_eq_ok {host : SourceHost} {job : SnapshotJob} {nameTaken : Bool}
    {storageSize : Int} {now : String} {verified : Verified} {sparkResult : Manifest}
    {dataset : History} {commit : CatalogCommit}
    (h : commitCatalog host job nameTaken storageSize now verified sparkResult dataset =
      .ok commit) :
    commit.sparkResult = verified.enrich sparkResult ∧
      datasetRuns host job storageSize now (verified.enrich sparkResult) dataset =
        .ok commit.history := by
  rw [commitCatalog] at h
  obtain ⟨_, _, h⟩ := bind_eq_ok.mp h
  obtain ⟨history, hhistory, h⟩ := bind_eq_ok.mp h
  obtain ⟨_, _, h⟩ := bind_eq_ok.mp h
  obtain ⟨_, _, h⟩ := bind_eq_ok.mp h
  obtain ⟨_, _, h⟩ := bind_eq_ok.mp h
  cases pure_eq_ok.mp h
  exact ⟨rfl, hhistory⟩

/-! ## The fence -/

/-- The step: whatever the event, the fence holds. -/
theorem fenced_effect (h : s.Fenced) (hdataset : strip service.job.datasetId ≠ "")
    (hfresh : s.FreshAttempt event) (heffect : Effect service s event s') : s'.Fenced := by
  cases heffect with
  | answered answers =>
      exact h.of_same (answerSubmission_evidence _ _ _ _) rfl rfl (List.Sublist.refl _) h.views
  | claimed hclaim => exact fenced_claimed h (hfresh _ rfl) hclaim
  | stored hk hstore => exact fenced_stored h hk hstore
  | raised hk => exact fenced_raised h _ hk
  | lost k => exact h.of_same rfl rfl rfl (List.eraseIdx_sublist _ _) h.views
  | opened hview hstart => exact fenced_opened h hdataset hview hstart
  | published hk hfailing hcommit =>
      obtain ⟨hexecution, hstored, hnewest⟩ := h.views _ (List.mem_of_getElem? hk)
      refine h.of_held hexecution (fun newest hhead => ⟨_, rfl, ?_⟩)
        (fun hnil => absurd hnil hstored) rfl rfl (List.Sublist.refl _)
        (h.viewsOf (List.eraseIdx_sublist _ _))
      rw [(commitCatalog_eq_ok hcommit).1]
      exact ((hnewest newest hhead).2.2 hfailing).trans (extends_enrich _ _)
  | reread hk hview hresult hfailing =>
      have hmem := List.mem_of_getElem? hk
      refine h.of_same rfl rfl rfl (List.Sublist.refl _) fun other hother => ?_
      rcases List.mem_or_eq_of_mem_set hother with hold | rfl
      · exact h.views other hold
      · refine h.viewCurrent_now hview (h.succeeded_of_call hmem) fun hnone newest hnewest => ?_
        rw [hresult]
        exact ((h.views _ hmem).newest newest hnewest).2.2 (hfailing hnone)
  | failed hk hfailing =>
      obtain ⟨hexecution, hstored, hnewest⟩ := h.views _ (List.mem_of_getElem? hk)
      exact h.of_held hexecution (fun newest hhead => (hnewest newest hhead).2.1)
        (fun hnil => absurd hnil hstored) rfl rfl (List.Sublist.refl _)
        (h.viewsOf (List.eraseIdx_sublist _ _))
  | dropped k =>
      exact h.of_same rfl rfl rfl (List.Sublist.refl _) (h.viewsOf (List.eraseIdx_sublist _ _))
  | polled hk hactive =>
      exact h.of_same (poll_evidence _ _ _ _ _) rfl rfl (List.Sublist.refl _) h.views
  | listed => exact h.of_same rfl rfl rfl (List.Sublist.refl _) h.views
  | repaired hk hrepair => exact h.of_same rfl rfl rfl (List.Sublist.refl _) h.views
  | unlisted k => exact h.of_same rfl rfl rfl (List.Sublist.refl _) h.views
  | other hupsert => exact h.of_same rfl rfl rfl (List.Sublist.refl _) h.views

theorem fenced_step (h : s.Fenced) (hdataset : strip service.job.datasetId ≠ "")
    (hfresh : s.FreshAttempt event) : (s.step service event).Fenced := by
  rcases effect_step service s event with hsame | heffect
  · rw [hsame]
    exact h
  · exact fenced_effect h hdataset hfresh heffect

theorem Fenced.storing (h : s.Fenced) {attemptId : String}
    (hstoring : s.storing event = some attemptId) :
    s.granted.head? = some attemptId ∧ s.row.succeeded = false := by
  cases event with
  | result k result =>
      obtain ⟨attempt, hk, hmap⟩ := Option.bind_eq_some_iff.mp hstoring
      obtain ⟨execution, hof, rfl⟩ := Option.map_eq_some_iff.mp hmap
      exact h.current (List.mem_of_getElem? hk) hof
  | _ => cases hstoring

/-- Only a request that stores a result adds one. -/
theorem results_step (h : s.storing event = none) :
    (s.step service event).results = s.results := by
  rcases effect_step service s event with hsame | heffect
  · rw [hsame]
  · generalize s.step service event = s' at heffect
    cases heffect with
    | stored hk hstore =>
        obtain ⟨execution, hof, -⟩ := storeResult_eq_some hstore
        simp [Shared.storing, hk, hof] at h
    | _ => rfl

theorem granting_eq_some {request : SparkRequest} (h : s.granting service event = some request) :
    ∃ row, s.row.claim service.lease request = .claimed row := by
  obtain ⟨-, hclaim⟩ := Option.filter_eq_some_iff.mp h
  cases hcases : s.row.claim service.lease request with
  | claimed row => exact ⟨row, rfl⟩
  | _ => simp [hcases] at hclaim

theorem Fenced.refused (h : s.Fenced) (hsucceeded : s.row.succeeded = true) :
    s.granting service event = none ∧ s.storing event = none := by
  constructor
  · refine Option.eq_none_iff_forall_ne_some.mpr fun request hgranting => ?_
    obtain ⟨row, hclaim⟩ := granting_eq_some hgranting
    exact absurd (hsucceeded.symm.trans (claim_eq_claimed hclaim).1) (by simp)
  · refine Option.eq_none_iff_forall_ne_some.mpr fun attemptId hstoring => ?_
    exact absurd (hsucceeded.symm.trans (h.storing hstoring).2) (by simp)

theorem Fenced.fences (h : s.Fenced) (hdataset : strip service.job.datasetId ≠ "")
    (hfresh : s.FreshAttempt event) : s.FencesSpark service event where
  stores := fun attemptId hstoring => (h.storing hstoring).1
  waits := by
    intro request hgranting execution hexecution hrunning howner
    obtain ⟨row, hclaim⟩ := granting_eq_some hgranting
    obtain ⟨-, hlease, -⟩ := claim_eq_claimed hclaim
    rw [show s.row.taskStates.sparkExecution = some execution from hexecution] at hlease
    by_contra hlt
    have hnow : request.now < execution.startedAt + service.lease.leaseSeconds := by omega
    simp [sparkExecutionLeaseIsActive, hrunning, howner, hnow] at hlease
  refused := h.refused
  kept := by
    intro hsucceeded result hresult
    have hrefused : s.granting service event = none ∧ s.storing event = none :=
      h.refused hsucceeded
    obtain ⟨newest, hhead, -⟩ := h.newest_of_succeeded hsucceeded
    obtain ⟨held, hheld, hextends⟩ := h.held newest hhead
    obtain ⟨held', hheld', hextends'⟩ := (fenced_step h hdataset hfresh).held newest
      (by rw [results_step hrefused.2]; exact hhead)
    obtain rfl := Option.some.inj (hheld.symm.trans hresult)
    exact ⟨held', hheld', fun key hkey => (hextends' key hkey).trans (hextends key hkey).symm⟩

/-- One result of a fenced run at most was a success. -/
theorem Fenced.one_success (h : s.Fenced) :
    (s.results.filter Manifest.successful).length ≤ 1 := by
  have hall := h.older
  cases hresults : s.results with
  | nil => simp
  | cons newest older =>
      rw [hresults] at hall
      have holder : older.filter Manifest.successful = [] := by
        refine List.filter_eq_nil_iff.mpr fun result hresult => ?_
        simp [hall result hresult]
      rw [List.filter_cons, holder]
      split <;> simp

theorem mark_truthy (value : Value) (_ : value.truthy = true) (_ : ∀ s, value ≠ .str s) :
    "?" ≠ "" := by simp

/-- A host for ASCII text without dates. -/
def plainHost : SourceHost where
  toProjectionHost := { asciiHost with str := fun _ => "?" }
  isoMilliseconds := fun _ => ""
  str_truthy := mark_truthy

def sparkService : Service where
  host := plainHost
  title := id
  lease := ⟨900, 900⟩
  job := ⟨"job-1", "orders", "orders", .str "s3a://lake/orders", false⟩

def reservedRun : Shared where
  row := airflowRunReservation asciiHost.toHost sparkService.job "run-1" "asklake_etl_job"

/-- The second process takes the run over; the first comes back first. -/
def takenOver : List Event :=
  [.claim ⟨"job-1", "process-1", "attempt-1", 0⟩, .claim ⟨"job-1", "process-2", "attempt-2", 30⟩,
    .result 0 [("status", .str "success")], .result 0 [("status", .str "success")],
    .claim ⟨"job-1", "process-1", "attempt-3", 60⟩]

end Shared

end AskLake.SnapshotRun

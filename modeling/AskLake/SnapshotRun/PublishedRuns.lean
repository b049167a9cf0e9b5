/-
# `AskLake.SnapshotRun.PublishedRuns` — what a successful run has published

Airflow's success is not the run's: a poll takes it over only where the Catalog has the
run.  Whatever order the requests come in,

    status      a run is a success only if its Catalog transaction was committed
    evidence    so is a successful `catalogResult`
    spark       nothing is published before Spark has reported a success
    entry       the dataset's history has the run once, successfully materialized

The answer to the submission is the one exception: a DAG run that has ended by then is
believed, until the next poll repairs it.
-/
import AskLake.SnapshotRun.SparkFencing

namespace AskLake.SnapshotRun

open AskLake.Lib AskLake.Python AskLake.Materialization
open AskLake.SourceWindow (SourceHost sparkSourceWindow entryOf)

/-- The entries of the run in a history. -/
def entriesOf (host : ProjectionHost) (runId : String) (dataset : History) : List Run :=
  (dataset.getD []).filter fun item => runIdOf host item = runId

namespace Shared

variable (service : Service)

/-- What the statuses of a run rest on. -/
structure Backed (s : Shared) : Prop where
  status : s.row.status = .success → s.published = true ∨ s.answered = true
  evidence : ∀ datasetId runId evidence,
    s.row.taskStates.catalogResult = some (.success datasetId runId evidence) →
      s.published = true ∧ datasetId = strip service.job.datasetId ∧ runId = s.row.runId
  spark : s.published = true → s.row.succeeded = true
  entry : s.published = true → ∃ entry,
    entriesOf service.host.toProjectionHost s.row.runId s.dataset = [entry] ∧
      materializes service.host.toProjectionHost s.row.runId entry = true

/-- Another run that is published shares no identity with this one. -/
def DistinctRun (s : Shared) : Event → Prop
  | .publishOther run =>
      runIdOf service.host.toProjectionHost run ≠ s.row.runId ∧
        ∀ entry ∈ entriesOf service.host.toProjectionHost s.row.runId s.dataset,
          ¬ SharesIdentity service.host.toProjectionHost run entry
  | _ => True

/-- What the requests on the run keep to. -/
structure Admitted (s : Shared) (event : Event) : Prop where
  fresh : s.FreshAttempt event
  distinct : s.DistinctRun service event

/-- Nothing has been published for the reserved run. -/
structure Unpublished (s : Shared) : Prop extends s.Reserved where
  status : s.row.status ≠ .success
  published : s.published = false
  syncs : s.syncs = []
  entries : entriesOf service.host.toProjectionHost s.row.runId s.dataset = []

end Shared

/-! ## The entry of a run -/

section
variable {host : SourceHost} {job : SnapshotJob} {result : Manifest} {window : Option Run}
  {lastUpdated storageFormat : String} {rowCount storageSizeBytes : Int}

theorem get_cons_self (key : String) (value : Value) (rest : Run) :
    Run.get ((key, value) :: rest) key = value := by
  simp [Run.get, Value.get]

theorem get_cons_ne {key other : String} (h : other ≠ key) (value : Value) (rest : Run) :
    Run.get ((key, value) :: rest) other = Run.get rest other := by
  have hbeq : (other == key) = false := by simpa using h
  simp [Run.get, Value.get, List.lookup_cons, hbeq]

theorem get_entryIf_append {condition : Bool} {key other : String} (h : other ≠ key) (value : Value)
    (rest : Run) : Run.get (entryIf condition key value ++ rest) other = Run.get rest other := by
  cases condition with
  | false => rfl
  | true => exact get_cons_ne h value rest

theorem runId_of_sparkMaterializationRun :
    (sparkMaterializationRun host job result window lastUpdated rowCount storageSizeBytes
      storageFormat).get "runId" = .str (host.textOf (result.get "runId")) := by
  unfold sparkMaterializationRun
  simp only [List.append_assoc, List.cons_append, List.nil_append]
  rw [get_cons_ne (by simp), get_entryIf_append (by simp), get_cons_ne (by simp),
    get_cons_ne (by simp), get_cons_ne (by simp), get_cons_self]

theorem status_of_sparkMaterializationRun :
    (sparkMaterializationRun host job result window lastUpdated rowCount storageSizeBytes
      storageFormat).get "status" = .str (if result.successful then "success" else "failed") := by
  unfold sparkMaterializationRun
  simp only [List.append_assoc, List.cons_append, List.nil_append]
  rw [get_cons_ne (by simp), get_entryIf_append (by simp), get_cons_ne (by simp),
    get_cons_ne (by simp), get_cons_ne (by simp), get_cons_ne (by simp), get_cons_self]

/-- The entry of a successful result materializes its run. -/
theorem materializes_of_success {runId : String} (hid : result.get "runId" = .str runId)
    (hsuccessful : result.successful = true) :
    materializes host.toProjectionHost runId (sparkMaterializationRun host job result window
      lastUpdated rowCount storageSizeBytes storageFormat) = true := by
  rw [materializes, runIdOf, runId_of_sparkMaterializationRun, status_of_sparkMaterializationRun,
    hid, hsuccessful]
  simp [Value.isText]

theorem datasetRuns_eq_ok {storageSize : Int} {now : String} {previous : History}
    {history : List Run} (h : datasetRuns host job storageSize now result previous = .ok history) :
    ∃ window lastUpdated rowCount storageSizeBytes storageFormat,
      sparkSourceWindow host result = .ok window ∧
      upsertMaterializationRun host.toProjectionHost (stored (previous.getD []))
        (sparkMaterializationRun host job result window lastUpdated rowCount storageSizeBytes
          storageFormat) = .ok history := by
  rw [datasetRuns] at h
  obtain ⟨_, _, h⟩ := bind_eq_ok.mp h
  obtain ⟨_, _, h⟩ := bind_eq_ok.mp h
  obtain ⟨window, hwindow, h⟩ := bind_eq_ok.mp h
  obtain ⟨runs, hruns, h⟩ := bind_eq_ok.mp h
  obtain ⟨_, _, h⟩ := bind_eq_ok.mp h
  cases pure_eq_ok.mp h
  exact ⟨window, _, _, _, _, hwindow, hruns⟩

/-- After the commit of a success the history has the run once. -/
theorem entries_of_commit {storageSize : Int} {now runId : String} {previous : History}
    {history : List Run} (h : datasetRuns host job storageSize now result previous = .ok history)
    (hid : result.get "runId" = .str runId) (hne : runId ≠ "")
    (hsuccessful : result.successful = true) :
    ∃ entry, entriesOf host.toProjectionHost runId (some history) = [entry] ∧
      materializes host.toProjectionHost runId entry = true := by
  obtain ⟨window, lastUpdated, rowCount, storageSizeBytes, storageFormat, -, hupsert⟩ :=
    datasetRuns_eq_ok h
  have hmaterializes : materializes host.toProjectionHost runId (sparkMaterializationRun host job
      result window lastUpdated rowCount storageSizeBytes storageFormat) = true :=
    materializes_of_success hid hsuccessful
  refine ⟨_, ?_, hmaterializes⟩
  have hrunId : runIdOf host.toProjectionHost (sparkMaterializationRun host job result window
      lastUpdated rowCount storageSizeBytes storageFormat) = runId := by
    rw [materializes, Bool.and_eq_true, decide_eq_true_eq] at hmaterializes
    exact hmaterializes.1
  have hperm := (upsert_law _ _ _).replaces (by rw [hrunId]; exact hne) history hupsert
  refine List.perm_singleton.mp ((hperm.filter _).trans (.of_eq ?_))
  rw [List.filter_cons_of_pos (by simpa using hrunId), List.filter_eq_nil_iff.mpr]
  intro other hother
  have hshares := (List.mem_filter.mp hother).2
  simp only [SharesIdentity, decide_eq_true_eq, not_or] at hshares
  simpa [hrunId] using Ne.symm hshares.1

/-- Another run leaves the entries of this one. -/
theorem entries_of_other {runId : String} {dataset : History} {run : Run} {history : List Run}
    (h : upsertMaterializationRun host.toProjectionHost (stored (dataset.getD [])) run =
      .ok history)
    (hrun : runIdOf host.toProjectionHost run ≠ runId)
    (hdistinct : ∀ entry ∈ entriesOf host.toProjectionHost runId dataset,
      ¬ SharesIdentity host.toProjectionHost run entry) :
    (entriesOf host.toProjectionHost runId (some history)).Perm
      (entriesOf host.toProjectionHost runId dataset) := by
  by_cases hid : runIdOf host.toProjectionHost run = ""
  · have hperm := (upsert_law _ _ _).ignores hid history h
    rw [dictRuns_stored] at hperm
    exact hperm.filter _
  · have hperm := (upsert_law _ _ _).replaces hid history h
    rw [dictRuns_stored] at hperm
    refine (hperm.filter _).trans (.of_eq ?_)
    rw [List.filter_cons_of_neg (by simpa using hrun), List.filter_filter]
    refine List.filter_congr fun entry hentry => ?_
    by_cases hours : runIdOf host.toProjectionHost entry = runId
    · have hnot := hdistinct entry (List.mem_filter.mpr ⟨hentry, by simpa using hours⟩)
      simp [hours, hnot]
    · simp [hours]

end

/-! ## The row -/

theorem explainFailure_row (host : ProjectionHost) (title : String → String)
    (tasks : List TaskInstance) (row : RunRow) :
    (row.explainFailure host title tasks).runId = row.runId ∧
      (row.status = .failed → (row.explainFailure host title tasks).status = .failed) := by
  unfold RunRow.explainFailure
  split
  · exact ⟨rfl, fun _ => rfl⟩
  · dsimp only
    split
    · exact ⟨rfl, id⟩
    · split
      · exact ⟨rfl, id⟩
      · exact ⟨rfl, id⟩

theorem confirmSuccess_row (host : ProjectionHost) (dataset : History) (row : RunRow) :
    (row.confirmSuccess host dataset).runId = row.runId ∧
      ((row.confirmSuccess host dataset).status = .success →
        (∃ datasetId runId evidence,
          row.taskStates.catalogResult = some (.success datasetId runId evidence)) ∨
        hasMaterialization host row.runId dataset = true) := by
  unfold RunRow.confirmSuccess
  split
  · exact ⟨rfl, by simp [RunRow.markCatalogFailure]⟩
  · rename_i datasetId runId evidence hcatalog
    exact ⟨rfl, fun _ => Or.inl ⟨datasetId, runId, evidence, hcatalog⟩⟩
  · split
    · rename_i hmaterialized
      exact ⟨rfl, fun _ => Or.inr hmaterialized⟩
    · exact ⟨rfl, by simp [RunRow.markUnreconciled]⟩

theorem recordSyncError_row (error : AirflowError) (row : RunRow) :
    (row.recordSyncError error).runId = row.runId ∧
      ((row.recordSyncError error).status = .success → row.status = .success) := by
  unfold RunRow.recordSyncError
  dsimp only
  split
  · exact ⟨rfl, id⟩
  · split
    · exact ⟨rfl, id⟩
    · exact ⟨rfl, by simp⟩

/-- A poll makes a run a success only where the Catalog has it. -/
theorem poll_row (host : ProjectionHost) (title : String → String) (dataset : History)
    (answer : PollAnswer) (row : RunRow) :
    (row.poll host title dataset answer).runId = row.runId ∧
      ((row.poll host title dataset answer).status = .success → row.status = .success ∨
        (∃ datasetId runId evidence,
          row.taskStates.catalogResult = some (.success datasetId runId evidence)) ∨
        hasMaterialization host row.runId dataset = true) := by
  cases answer with
  | unavailable error =>
      exact ⟨(recordSyncError_row error row).1, fun h => Or.inl ((recordSyncError_row error row).2 h)⟩
  | tasksUnavailable error => exact ⟨rfl, Or.inl⟩
  | dagRun dagRun tasks =>
      unfold RunRow.poll
      dsimp only
      split
      · rename_i hstatus
        obtain ⟨hrunId, hfailed⟩ := explainFailure_row host title tasks
          (row.assignDagRun host.toHost dagRun tasks)
        refine ⟨hrunId, fun hsuccess => ?_⟩
        rw [hfailed hstatus] at hsuccess
        cases hsuccess
      · obtain ⟨hrunId, hconfirmed⟩ := confirmSuccess_row host dataset
          (row.assignDagRun host.toHost dagRun tasks)
        exact ⟨hrunId, fun hsuccess => Or.inr (hconfirmed hsuccess)⟩
      · rename_i hother
        exact ⟨rfl, fun hsuccess => absurd hsuccess hother⟩

/-- A repair takes a success back, and makes none. -/
theorem repair_status {host : ProjectionHost} {dataset : History} {view repaired : RunRow}
    (h : view.repair host dataset = some repaired) : repaired.status = .failed := by
  unfold RunRow.repair at h
  split at h
  · cases h
  · split at h
    · cases h
      rfl
    · cases h
    · split at h
      · cases h
      · cases h
        rfl

theorem answerSubmission_runId (host : Host) (job : SnapshotJob) (answers : SubmissionAnswers)
    (row : RunRow) : (row.answerSubmission host job answers).runId = row.runId := by
  unfold RunRow.answerSubmission
  split
  · unfold RunRow.applyAirflowResult
    dsimp only
    split <;> rfl
  · unfold RunRow.markSubmissionUnknown
    dsimp only
    split
    · rfl
    · split <;> rfl

/-- A manifest names its run. -/
theorem runId_of_manifest (host : SourceHost) (result : Manifest) {runId : String}
    (hne : runId ≠ "") : ∃ named, (sparkResultManifest host.toHost result runId).get "runId" =
      .str named ∧ named ≠ "" := by
  have hnamed : host.text ((result.get "runId").orElse (.str runId)) ≠ "" := by
    rw [Value.orElse]
    split
    · rename_i htruthy
      exact host.text_truthy htruthy
    · simpa using hne
  refine ⟨_, ?_, hnamed⟩
  unfold sparkResultManifest
  dsimp only
  split
  · rw [Manifest.get_put_ne _ (by simp), Manifest.get_put_self]
  · rw [Manifest.get_put_self]

namespace Shared

/-! ## The invariant -/

/-- What the requests under way have read. -/
structure Traced (service : Service) (s : Shared) : Prop where
  fenced : s.Fenced
  backed : s.Backed service
  runId : s.row.runId ≠ ""
  named : ∀ result ∈ s.results, ∃ named, result.get "runId" = .str named ∧ named ≠ ""
  calls : ∀ call ∈ s.reconciles, call.failing = none →
    call.sparkResult.get "runId" = .str s.row.runId
  entries : s.published = false →
    entriesOf service.host.toProjectionHost s.row.runId s.dataset = []
  syncs : ∀ call ∈ s.syncs,
    hasMaterialization service.host.toProjectionHost s.row.runId call.dataset = true →
      s.published = true

variable {service : Service} {s s' : Shared} {event : Event}

theorem Unpublished.traced (h : s.Unpublished service) (hrunId : s.row.runId ≠ "") :
    s.Traced service where
  fenced := h.toReserved.fenced
  runId := hrunId
  backed := by
    have hcatalog : s.row.taskStates.catalogResult = none :=
      congrArg (fun evidence => evidence.2.2) h.evidence
    refine ⟨fun hsuccess => absurd hsuccess h.status, ?_, ?_, ?_⟩
    · intro datasetId runId evidence hsuccess
      cases hcatalog.symm.trans hsuccess
    · intro hpublished
      exact absurd (hpublished.symm.trans h.published) (by simp)
    · intro hpublished
      exact absurd (hpublished.symm.trans h.published) (by simp)
  named := by simp [h.results]
  calls := by simp [h.reconciles]
  entries := fun _ => h.entries
  syncs := by simp [h.syncs]

/-- A run that is materialized has an entry. -/
theorem entries_ne_nil {host : ProjectionHost} {runId : String} {dataset : History}
    (h : hasMaterialization host runId dataset = true) : entriesOf host runId dataset ≠ [] := by
  obtain ⟨item, hitem, hmaterializes⟩ := List.any_eq_true.mp h
  rw [materializes, Bool.and_eq_true] at hmaterializes
  exact List.ne_nil_of_mem (List.mem_filter.mpr ⟨hitem, hmaterializes.1⟩)

/-- What a step does that publishes nothing. -/
structure Quiet (s s' : Shared) : Prop where
  runId : s'.row.runId = s.row.runId
  status : s'.row.status = .success →
    s.row.status = .success ∨ s.published = true ∨ s'.answered = true
  catalog : ∀ datasetId runId evidence,
    s'.row.taskStates.catalogResult = some (.success datasetId runId evidence) →
      s.row.taskStates.catalogResult = some (.success datasetId runId evidence)
  published : s'.published = s.published
  answered : s.answered = true → s'.answered = true
  dataset : s'.dataset = s.dataset
  named : ∀ result ∈ s'.results, result ∈ s.results ∨
    ∃ named, result.get "runId" = .str named ∧ named ≠ ""
  calls : ∀ call ∈ s'.reconciles, call.failing = none →
    call.sparkResult.get "runId" = .str s.row.runId
  syncs : ∀ call ∈ s'.syncs, call ∈ s.syncs ∨ call.dataset = s.dataset

theorem Traced.of_quiet (h : s.Traced service) (hquiet : Quiet s s') (hfenced : s'.Fenced)
    (hsucceeded : s.row.succeeded = true → s'.row.succeeded = true) : s'.Traced service where
  fenced := hfenced
  runId := hquiet.runId ▸ h.runId
  backed := by
    refine ⟨fun hsuccess => ?_, fun datasetId runId evidence hsuccess => ?_, fun hnow => ?_,
      fun hnow => ?_⟩
    · rw [hquiet.published]
      rcases hquiet.status hsuccess with hold | hpublished | hanswered
      · exact (h.backed.status hold).imp id hquiet.answered
      · exact Or.inl hpublished
      · exact Or.inr hanswered
    · rw [hquiet.published, hquiet.runId]
      exact h.backed.evidence _ _ _ (hquiet.catalog _ _ _ hsuccess)
    · exact hsucceeded (h.backed.spark (hquiet.published ▸ hnow))
    · rw [hquiet.runId, hquiet.dataset]
      exact h.backed.entry (hquiet.published ▸ hnow)
  named := by
    intro result hresult
    rcases hquiet.named result hresult with hold | hnew
    · exact h.named result hold
    · exact hnew
  calls := hquiet.runId ▸ hquiet.calls
  entries := by
    rw [hquiet.published, hquiet.runId, hquiet.dataset]
    exact h.entries
  syncs := by
    intro call hcall hmaterialized
    rw [hquiet.runId] at hmaterialized
    rw [hquiet.published]
    rcases hquiet.syncs call hcall with hold | hnow
    · exact h.syncs call hold hmaterialized
    · rw [hnow] at hmaterialized
      by_contra hnot
      exact entries_ne_nil hmaterialized (h.entries (by simpa using hnot))

/-- A step on the row alone. -/
theorem Traced.quiet_row (h : s.Traced service) {row : RunRow} (hrunId : row.runId = s.row.runId)
    (hstatus : row.status = .success → s.row.status = .success ∨ s.published = true)
    (hcatalog : row.taskStates.catalogResult = s.row.taskStates.catalogResult) :
    Quiet s { s with row } where
  runId := hrunId
  status := fun hsuccess => (hstatus hsuccess).imp id Or.inl
  catalog := fun _ _ _ hsuccess => hcatalog ▸ hsuccess
  published := rfl
  answered := id
  dataset := rfl
  named := fun _ => Or.inl
  calls := h.calls
  syncs := fun _ => Or.inl

theorem Traced.quiet_refl (h : s.Traced service) : Quiet s s :=
  h.quiet_row rfl Or.inl rfl

/-! ## One event at a time -/

/-- A success is not lost. -/
theorem Fenced.succeeded_step (h : s.Fenced) (hdataset : strip service.job.datasetId ≠ "")
    (hfresh : s.FreshAttempt event) (hsucceeded : s.row.succeeded = true) :
    (s.step service event).row.succeeded = true := by
  have hkept := (h.fences hdataset hfresh).kept hsucceeded
  rw [RunRow.succeeded, TaskStates.succeeded] at hsucceeded
  obtain ⟨result, hresult, hsuccessful⟩ := (Option.any_eq_true _ _).mp hsucceeded
  obtain ⟨result', hresult', hextends⟩ := hkept result hresult
  rw [RunRow.succeeded, TaskStates.succeeded, show _ = some result' from hresult']
  exact hextends.successful.trans hsuccessful

/-- The result that a request starts with names the run. -/
theorem Traced.runId_of_start (h : s.Traced service) {sparkResult : Manifest}
    (hstart : s.row.startReconcile service.host.toHost service.job s.dataset =
      .verify sparkResult) : sparkResult.get "runId" = .str s.row.runId := by
  obtain ⟨hstored, hsuccessful, hruns⟩ := startReconcile_verify hstart
  have hsucceeded : s.row.succeeded = true := by
    rw [RunRow.succeeded, TaskStates.succeeded, hstored]
    exact hsuccessful
  obtain ⟨newest, hhead, -⟩ := h.fenced.newest_of_succeeded hsucceeded
  obtain ⟨held, hheld, hextends⟩ := h.fenced.held newest hhead
  obtain rfl := Option.some.inj (hstored.symm.trans hheld)
  obtain ⟨named, hnamed, hne⟩ := h.named newest (List.mem_of_mem_head? hhead)
  have hsame : sparkResult.get "runId" = .str named :=
    (hextends "runId" (by simp [evidenceKeys])).trans hnamed
  rw [hsame, Value.orElse, if_pos (by simpa [Value.truthy] using hne)] at hruns
  rw [hsame]
  exact congrArg Value.str hruns

/-- The commit of a request: the dataset has the run from now on. -/
theorem Traced.of_published (h : s.Traced service) {k : Nat} {nameTaken : Bool}
    {storageSize : Int} {now : String} {verified : Verified} {call : ReconcileCall}
    {commit : CatalogCommit} (hk : s.reconciles[k]? = some call) (hfailing : call.failing = none)
    (hcommit : commitCatalog service.host service.job nameTaken storageSize now verified
      call.sparkResult s.dataset = .ok commit)
    (hs' : s' = { s with
      row := { s.row with taskStates := call.view.publish service.job s.row.runId commit }
      dataset := some commit.history
      reconciles := s.reconciles.eraseIdx k
      published := true })
    (hfenced : s'.Fenced) (hsucceeded : s.row.succeeded = true → s'.row.succeeded = true) :
    s'.Traced service := by
  subst hs'
  have hmem : call ∈ s.reconciles := List.mem_of_getElem? hk
  obtain ⟨hresult, hruns⟩ := commitCatalog_eq_ok hcommit
  have hnow := h.fenced.succeeded_of_call hmem
  obtain ⟨newest, hhead, hsuccessful⟩ := h.fenced.newest_of_succeeded hnow
  have hextends := ((h.fenced.views call hmem).newest newest hhead).2.2 hfailing
  have henriched := hextends.trans (extends_enrich call.sparkResult verified)
  refine ⟨hfenced, ⟨fun _ => Or.inl rfl, ?_, fun _ => hsucceeded hnow, fun _ => ?_⟩, h.runId,
    h.named, fun other hother => h.calls other ((List.eraseIdx_sublist _ _).subset hother),
    fun hnot => absurd hnot (by simp), fun _ _ _ => rfl⟩
  · intro datasetId runId evidence hcatalog
    cases hcatalog
    exact ⟨rfl, rfl, rfl⟩
  · refine entries_of_commit hruns ?_ h.runId (henriched.successful.trans hsuccessful)
    rw [extends_enrich call.sparkResult verified "runId" (by simp [evidenceKeys])]
    exact h.calls call hmem hfailing

theorem Traced.of_other (h : s.Traced service) {run : Run} {history : List Run}
    (hupsert : upsertMaterializationRun service.host.toProjectionHost
      (stored (s.dataset.getD [])) run = .ok history)
    (hdistinct : s.DistinctRun service (.publishOther run)) :
    Traced service { s with dataset := some history } := by
  have hperm := entries_of_other hupsert hdistinct.1 hdistinct.2
  refine ⟨h.fenced.of_same rfl rfl rfl (List.Sublist.refl _) h.fenced.views,
    ⟨h.backed.status, h.backed.evidence, h.backed.spark, fun hpublished => ?_⟩, h.runId, h.named,
    h.calls, fun hnot => ?_, h.syncs⟩
  · obtain ⟨entry, hentry, hmaterializes⟩ := h.backed.entry hpublished
    rw [hentry] at hperm
    exact ⟨entry, List.perm_singleton.mp hperm, hmaterializes⟩
  · rw [h.entries hnot] at hperm
    exact List.perm_nil.mp hperm

theorem Traced.quiet_answered (h : s.Traced service) (answers : SubmissionAnswers) :
    Quiet s { s with
      row := s.row.answerSubmission service.host.toHost service.job answers
      submitting := false
      answered := s.answered || (s.row.status ≠ .success &&
        (s.row.answerSubmission service.host.toHost service.job answers).status =
          .success) } := by
  refine { h.quiet_refl with
    runId := answerSubmission_runId _ _ _ _
    status := fun hsuccess => ?_
    catalog := fun datasetId runId evidence hsuccess => ?_
    answered := fun hanswered => by simp [hanswered] }
  · have hnow : (s.row.answerSubmission service.host.toHost service.job answers).status =
        .success := hsuccess
    by_cases hold : s.row.status = .success
    · exact Or.inl hold
    · exact Or.inr (Or.inr (by simp [hold, hnow]))
  · rw [← hsuccess]
    exact (congrArg (fun documents => documents.2.2)
      (answerSubmission_evidence service.host.toHost service.job answers s.row)).symm

theorem Traced.quiet_polled (h : s.Traced service) {k : Nat} {call : SyncCall}
    (hk : s.syncs[k]? = some call) (answer : PollAnswer) : Quiet s { s with
      row := s.row.poll service.host.toProjectionHost service.title call.dataset answer
      syncs := s.syncs.eraseIdx k
      misses := s.misses + answer.misses } := by
  obtain ⟨hrunId, hstatus⟩ := poll_row service.host.toProjectionHost service.title call.dataset
    answer s.row
  have hevidence := poll_evidence service.host.toProjectionHost service.title call.dataset
    answer s.row
  refine { h.quiet_row hrunId (fun hsuccess => ?_)
    (congrArg (fun documents => documents.2.2) hevidence) with
      syncs := fun other hother => Or.inl ((List.eraseIdx_sublist _ _).subset hother) }
  rcases hstatus hsuccess with hold | ⟨datasetId, runId, evidence, hcatalog⟩ | hmaterialized
  · exact Or.inl hold
  · exact Or.inr (h.backed.evidence _ _ _ hcatalog).1
  · exact Or.inr (h.syncs call (List.mem_of_getElem? hk) hmaterialized)

/-- The step: whatever the event, the trace holds. -/
theorem traced_effect (h : s.Traced service) (hdistinct : s.DistinctRun service event)
    (hfenced : s'.Fenced) (hsucceeded : s.row.succeeded = true → s'.row.succeeded = true)
    (heffect : Effect service s event s') : s'.Traced service := by
  cases heffect with
  | answered answers => exact h.of_quiet (h.quiet_answered answers) hfenced hsucceeded
  | claimed hclaim =>
      obtain ⟨-, -, rfl⟩ := claim_eq_claimed hclaim
      exact h.of_quiet { h.quiet_row rfl Or.inl rfl with } hfenced hsucceeded
  | stored hk hstore =>
      obtain ⟨execution, -, hstates, hrunId, hstatus⟩ := storeResult_eq_some hstore
      refine h.of_quiet { h.quiet_row hrunId (fun hsuccess => Or.inl (hstatus ▸ hsuccess))
        (by rw [hstates]) with named := fun result hresult => ?_ } hfenced hsucceeded
      rcases List.mem_cons.mp hresult with rfl | hold
      · exact Or.inr (runId_of_manifest service.host _ h.runId)
      · exact Or.inl hold
  | raised hk =>
      obtain ⟨execution, hrow, -⟩ := failAttempt_row _ _ s.row
      refine h.of_quiet { h.quiet_row ?_ (fun hsuccess => Or.inl ?_) ?_ with } hfenced hsucceeded
      · rw [hrow]
      · rwa [hrow] at hsuccess
      · rw [hrow]
  | lost k => exact h.of_quiet { h.quiet_refl with } hfenced hsucceeded
  | opened hview hstart =>
      refine h.of_quiet { h.quiet_refl with calls := fun other hother hnone => ?_ }
        hfenced hsucceeded
      rcases List.mem_append.mp hother with hold | hnew
      · exact h.calls other hold hnone
      · obtain rfl := List.mem_singleton.mp hnew
        obtain hverify | ⟨message, hsome, -⟩ := hstart
        · exact h.runId_of_start hverify
        · cases hnone.symm.trans hsome
  | published hk hfailing hcommit => exact h.of_published hk hfailing hcommit rfl hfenced hsucceeded
  | reread hk hview hresult hfailing =>
      refine h.of_quiet { h.quiet_refl with calls := fun other hother hnone => ?_ }
        hfenced hsucceeded
      rcases List.mem_or_eq_of_mem_set hother with hold | rfl
      · exact h.calls other hold hnone
      · rw [hresult]
        exact h.calls _ (List.mem_of_getElem? hk) (hfailing hnone)
  | failed hk hfailing =>
      exact h.of_quiet { h.quiet_refl with
        runId := rfl
        status := Or.inl
        catalog := fun _ _ _ hsuccess => by cases hsuccess
        calls := fun call hcall => h.calls call ((List.eraseIdx_sublist _ _).subset hcall) }
        hfenced hsucceeded
  | dropped k =>
      exact h.of_quiet { h.quiet_refl with
        calls := fun call hcall => h.calls call ((List.eraseIdx_sublist _ _).subset hcall) }
        hfenced hsucceeded
  | listed =>
      refine h.of_quiet { h.quiet_refl with syncs := fun call hcall => ?_ } hfenced hsucceeded
      rcases List.mem_append.mp hcall with hold | hnew
      · exact Or.inl hold
      · obtain rfl := List.mem_singleton.mp hnew
        exact Or.inr rfl
  | polled hk hactive => exact h.of_quiet (h.quiet_polled hk _) hfenced hsucceeded
  | repaired hk hrepair =>
      have hfailed := repair_status hrepair
      exact h.of_quiet { h.quiet_refl with
        runId := rfl
        status := fun hsuccess => by cases hfailed.symm.trans hsuccess
        catalog := fun _ _ _ hsuccess => hsuccess
        syncs := fun call hcall => Or.inl ((List.eraseIdx_sublist _ _).subset hcall) }
        hfenced hsucceeded
  | unlisted k =>
      exact h.of_quiet { h.quiet_refl with
        syncs := fun call hcall => Or.inl ((List.eraseIdx_sublist _ _).subset hcall) }
        hfenced hsucceeded
  | other hupsert => exact h.of_other hupsert hdistinct

theorem traced_step (h : s.Traced service) (hdataset : strip service.job.datasetId ≠ "")
    (hadmitted : s.Admitted service event) : (s.step service event).Traced service := by
  have hfenced := fenced_step h.fenced hdataset hadmitted.fresh
  have hsucceeded := h.fenced.succeeded_step hdataset hadmitted.fresh
  rcases effect_step service s event with hsame | heffect
  · rw [hsame]
    exact h
  · exact traced_effect h hadmitted.distinct hfenced hsucceeded heffect

/-- Over every run of the requests: what is a success has been published, once. -/
theorem success_is_published (service : Service) (hdataset : strip service.job.datasetId ≠ "")
    {start : Shared} (hstart : start.Unpublished service) (hrunId : start.row.runId ≠ "")
    {events : List Event} (hadmitted : Along (Admitted service) (step service) start events) :
    Always (Backed service) (step service) start events := by
  have hstep : ∀ s event, Traced service s → Admitted service s event →
      Traced service (step service s event) :=
    fun s event h hevent => traced_step h hdataset hevent
  exact (Always.of_along hstep (hstart.traced hrunId) hadmitted).imp fun _ h => h.backed

/-- Submitted, executed, published, and polled once Airflow has ended it. -/
def publishedOnce : List Event :=
  [.answerSubmission ⟨.ok ⟨"asklake_etl_job", "run-1", some "queued"⟩, .error ⟨"", none⟩⟩,
    .claim ⟨"job-1", "process-1", "attempt-1", 0⟩,
    .result 0 [("status", .str "success"), ("outputPath", .str "s3a://lake/orders/run-1")],
    .reconcile, .publish 0 false 0 "2026-01-01T00:00:00Z" (.parquet 1 512),
    .sync, .poll 0 (.dagRun ⟨"asklake_etl_job", "run-1", some "success"⟩ [])]

theorem success_is_published_once :
    (play (step sparkService) reservedRun publishedOnce).row.status = .success ∧
      (play (step sparkService) reservedRun publishedOnce).answered = false ∧
      Always (Backed sparkService) (step sparkService) reservedRun publishedOnce := by
  have hstart : reservedRun.Unpublished sparkService :=
    ⟨⟨rfl, rfl, rfl, rfl, rfl⟩, by decide, rfl, rfl, rfl⟩
  have hfresh : Along FreshAttempt (step sparkService) reservedRun publishedOnce := by
    decide +kernel
  have hdistinct : ∀ event ∈ publishedOnce, ∀ s : Shared, s.DistinctRun sparkService event := by
    simp [publishedOnce, DistinctRun]
  refine ⟨by decide +kernel, by decide +kernel, ?_⟩
  exact success_is_published sparkService (by decide) hstart (by decide)
    ((hfresh.and (along_of_forall hdistinct)).imp fun s event h => ⟨h.1, h.2 s⟩)

end Shared

end AskLake.SnapshotRun

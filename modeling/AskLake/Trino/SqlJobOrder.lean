/-
# `AskLake.Trino.SqlJobOrder` — whether the catalog goes back to an older run

A run of a SQL job may be submitted when no other is queued or running.  One that Trino is
done with is neither, though it has still to be finalized:

    run 1   ended ─────────────────────────────── published
    run 2          submitted ── ended ── published

The catalog keeps to the order of the submissions, and the published source revision never
decreases, in the runs where each run is submitted after the earlier ones are finalized and
nobody is still at work on them.  Between two workers on one run the revision that one has
published can be lost by the other, if that gives the run up over a refresh state which it
has read before.
-/
import AskLake.Trino.SqlJobTables

namespace AskLake.Trino

open AskLake.Lib AskLake.Python

/-! ## What is to hold -/

/-- `publishedSourceRevision`, or 0. -/
def publishedRevision (refresh : Option RefreshState) : Int :=
  (refresh.getD {}).publishedSourceRevision

namespace SqlJob

def runIds (s : SqlJob) : List String := s.runs.map JobRun.runId

/-- The place of the run that the catalog's `sourceRunId` names. -/
def catalogRun (s : SqlJob) : Option Nat :=
  (s.catalog.bind JobDataset.sourceRunId).bind fun runId => s.runIds.idxOf? runId

/-- The dashboard is said to be ready. -/
def ready (s : SqlJob) : Bool :=
  s.refresh.any fun state => state.status = some .dashboardReady

/-- A dashboard that is ready is not behind the run that the catalog names. -/
def CoversCatalog (s : SqlJob) : Prop :=
  s.ready = true → ∀ i ∈ s.catalogRun, ∀ run ∈ s.runs[i]?, ∀ revision ∈ run.sourceRevision,
    revision ≤ publishedRevision s.refresh

end SqlJob

/-- An event takes neither the catalog nor the published revision back. -/
structure NeverBack (settings : SqlJobSettings) (s : SqlJob) (event : JobEvent) : Prop where
  catalog : ∀ i ∈ s.catalogRun, ∃ j ∈ (s.step settings event).catalogRun, i ≤ j
  revision : publishedRevision s.refresh ≤ publishedRevision (s.step settings event).refresh
  ready : (s.step settings event).CoversCatalog

/-! ## The condition -/

/-- The run is finalized. -/
def JobRun.closed (run : JobRun) : Bool :=
  run.row.payload.status.terminal && run.row.payload.finalized

/-- A stage at which a worker can do nothing to a run that is finalized. -/
def JobStage.quiet : JobStage → Bool
  | .entering | .top _ | .fetching _ | .fetched _ _ | .saving _ | .cancelling _ | .releasing
  | .retrying | .done => true
  | .committing (.collect _ _ (.save _)) _ _ => false
  | .committing (.collect _ _ _) _ next => next.quiet
  | _ => false

/-- The refresh state that a worker has read. -/
def JobStage.refreshRead : JobStage → Option (Option RefreshState)
  | .describing _ refresh | .cataloguing _ refresh | .publishing _ refresh _
  | .dropping _ refresh _ | .discarding _ refresh _ => some refresh
  | .committing _ _ next => next.refreshRead
  | _ => none

/-- The refresh state over which a worker gives a run up. -/
def JobStage.discards : JobStage → Option (Option RefreshState)
  | .discarding _ refresh _ => some refresh
  | _ => none

/-- A run is submitted after the earlier ones are finalized and nobody is at work on them; a
worker that gives a run up commits over the published revision that it has read. -/
def InTurn (s : SqlJob) : JobEvent → Prop
  | .accept _ _ => (∀ run ∈ s.runs, run.closed = true) ∧
      ∀ worker ∈ s.workers, worker.stage.quiet = true
  | .act k _ => ∀ worker ∈ s.workers[k]?, ∀ read ∈ worker.stage.discards,
      publishedRevision read = publishedRevision s.refresh
  | _ => True

instance (s : SqlJob) : (event : JobEvent) → Decidable (InTurn s event)
  | .accept _ _ => inferInstanceAs (Decidable ((∀ run ∈ s.runs, run.closed = true) ∧
      ∀ worker ∈ s.workers, worker.stage.quiet = true))
  | .act k _ => inferInstanceAs (Decidable (∀ worker ∈ s.workers[k]?,
      ∀ read ∈ worker.stage.discards, publishedRevision read = publishedRevision s.refresh))
  | .submit _ | .refuse _ | .write _ | .claim _ _ _ | .cancel _ | .crash _ | .refresh _
  | .refreshFailed => .isTrue trivial

/-! ## A worker's step -/

section
variable {settings : CollectorSettings} {store : JobStore} {run : JobRun} {worker : JobWorker}
  {input : JobInput} {goesOn otherwise : JobStage}

theorem JobWorker.call_refreshRead {write : CollectorWrite} (hgoesOn : goesOn.refreshRead = none)
    (hotherwise : otherwise.refreshRead = none) :
    (worker.call run write goesOn otherwise).refreshRead = none := by
  rw [call]
  split
  · exact hgoesOn
  · exact hotherwise

theorem JobWorker.call_quiet {write : CollectorWrite} (hwrite : ∀ payload, write ≠ .save payload)
    (hgoesOn : goesOn.quiet = true) (hotherwise : otherwise.quiet = true) :
    (worker.call run write goesOn otherwise).quiet = true := by
  rw [call]
  split
  · cases write with
    | save payload => exact absurd rfl (hwrite payload)
    | renew => exact hgoesOn
    | release => exact hgoesOn
    | retry => exact hgoesOn
  · exact hotherwise

theorem JobWorker.enter_refreshRead (payload : RunPayload) :
    (enter payload).refreshRead = none := by
  rw [enter]
  split
  · rfl
  · split
    · rfl
    · rfl

theorem JobWorker.reenter_refreshRead (payload : RunPayload) :
    (worker.reenter settings payload).refreshRead = none := by
  rw [reenter]
  split
  · rfl
  · split
    · rfl
    · rfl

/-- What no step changes of a run. -/
theorem JobWorker.advance_names :
    (worker.advance settings store run input).2.1.runId = run.runId ∧
      (worker.advance settings store run input).2.1.sourceRevision = run.sourceRevision := by
  unfold advance
  cases worker.stage with
  | finalizing payload =>
      dsimp only
      split
      · exact ⟨rfl, rfl⟩
      · exact ⟨rfl, rfl⟩
  | describing payload refresh =>
      dsimp only
      split
      · exact ⟨rfl, rfl⟩
      · exact ⟨rfl, rfl⟩
  | _ => exact ⟨rfl, rfl⟩

/-- A worker reads the refresh state when it begins to finalize, and keeps what it has read. -/
theorem JobWorker.advance_refreshRead {read : Option RefreshState}
    (h : (worker.advance settings store run input).2.2.refreshRead = some read) :
    read = store.refresh ∨ worker.stage.refreshRead = some read := by
  unfold advance at h
  cases hstage : worker.stage with
  | entering =>
      rw [hstage] at h
      exact nomatch (enter_refreshRead run.row.payload).symm.trans h
  | top payload =>
      rw [hstage] at h
      dsimp only at h
      split at h
      · exact nomatch h
      · exact nomatch (call_refreshRead rfl rfl).symm.trans h
  | fetching payload =>
      rw [hstage] at h
      cases input with
      | proceed => exact nomatch h
      | page => exact nomatch h
      | fail => exact nomatch h
  | fetched payload page =>
      rw [hstage] at h
      exact nomatch (call_refreshRead rfl rfl).symm.trans h
  | saving updated =>
      rw [hstage] at h
      exact nomatch (call_refreshRead rfl rfl).symm.trans h
  | saved updated =>
      rw [hstage] at h
      exact nomatch h
  | progressed updated =>
      rw [hstage] at h
      dsimp only at h
      split at h
      · exact nomatch h
      · exact nomatch (reenter_refreshRead run.row.payload).symm.trans h
  | cancelling payload =>
      rw [hstage] at h
      dsimp only at h
      split at h
      · exact nomatch h
      · exact nomatch h
  | cancelled payload =>
      rw [hstage] at h
      exact nomatch h
  | finalizing payload =>
      rw [hstage] at h
      dsimp only at h
      split at h
      · exact Or.inl (Option.some.inj h).symm
      · exact Or.inl (Option.some.inj h).symm
  | describing payload refresh =>
      rw [hstage] at h
      dsimp only at h
      split at h
      · exact Or.inr h
      · exact Or.inr h
  | cataloguing payload refresh =>
      rw [hstage] at h
      exact Or.inr h
  | publishing payload refresh existing =>
      rw [hstage] at h
      exact nomatch h
  | dropping payload refresh final =>
      rw [hstage] at h
      exact Or.inr h
  | discarding payload refresh final =>
      rw [hstage] at h
      exact nomatch h
  | concluding payload final =>
      rw [hstage] at h
      exact nomatch h
  | releasing =>
      rw [hstage] at h
      exact nomatch (call_refreshRead rfl rfl).symm.trans h
  | retrying =>
      rw [hstage] at h
      exact nomatch (call_refreshRead rfl rfl).symm.trans h
  | committing call row next =>
      rw [hstage] at h
      exact Or.inr h
  | done =>
      rw [hstage] at h
      exact nomatch h

/-- What a step does to the catalog and to the refresh state. -/
inductive JobWorker.Records (store next : JobStore) (run : JobRun) (stage : JobStage) : Prop
  | nothing (hcatalog : next.catalog = store.catalog) (hrefresh : next.refresh = store.refresh)
  | published (payload : RunPayload) (read : Option RefreshState) (existing : JobDataset)
      (hstage : stage = .publishing payload read existing)
      (hcatalog : ∃ dataset, next.catalog = some dataset ∧ dataset.sourceRunId = some run.runId)
      (hrefresh : next.refresh = (store.recordRefresh read run.sourceRevision true).refresh)
  | discarded (payload : RunPayload) (read : Option RefreshState) (final : RunStatus)
      (hstage : stage = .discarding payload read final) (hcatalog : next.catalog = store.catalog)
      (hrefresh : next.refresh = (store.recordRefresh read run.sourceRevision false).refresh)

theorem JobWorker.advance_records :
    Records store (worker.advance settings store run input).1 run worker.stage := by
  unfold advance
  cases hstage : worker.stage with
  | publishing payload refresh existing =>
      exact .published payload refresh existing rfl ⟨_, rfl, rfl⟩ rfl
  | discarding payload refresh final => exact .discarded payload refresh final rfl rfl rfl
  | finalizing payload =>
      dsimp only
      split
      · exact .nothing rfl rfl
      · exact .nothing rfl rfl
  | describing payload refresh =>
      dsimp only
      split
      · exact .nothing rfl rfl
      · exact .nothing rfl rfl
  | cancelled payload =>
      dsimp only
      split
      · exact .nothing rfl rfl
      · exact .nothing rfl rfl
  | dropping payload refresh final =>
      dsimp only
      split
      · exact .nothing rfl rfl
      · exact .nothing rfl rfl
  | _ => exact .nothing rfl rfl

/-- A run that is finalized stays so under a worker that is quiet, and this stays quiet. -/
theorem JobWorker.advance_quiet (hclosed : run.closed = true)
    (hquiet : worker.stage.quiet = true) :
    (worker.advance settings store run input).2.1.closed = true ∧
      (worker.advance settings store run input).2.2.quiet = true := by
  obtain ⟨hended, hfinalized⟩ := Bool.and_eq_true_iff.mp hclosed
  unfold advance
  cases hstage : worker.stage with
  | entering =>
      refine ⟨hclosed, ?_⟩
      dsimp only
      rw [enter]
      split
      · rfl
      · rw [hfinalized, Bool.not_true, Bool.and_false, if_neg Bool.false_ne_true]
        rfl
  | top payload =>
      refine ⟨hclosed, ?_⟩
      dsimp only
      split
      · rfl
      · exact call_quiet (fun _ hsave => by cases hsave) rfl rfl
  | fetching payload =>
      refine ⟨hclosed, ?_⟩
      cases input with
      | proceed => rfl
      | page => rfl
      | fail => rfl
  | fetched payload page =>
      exact ⟨hclosed, call_quiet (fun _ hsave => by cases hsave) rfl rfl⟩
  | saving updated =>
      refine ⟨hclosed, ?_⟩
      dsimp only
      rw [call, RowCall.admits, hended, Bool.not_true, Bool.and_false, if_neg Bool.false_ne_true]
      rfl
  | cancelling payload =>
      refine ⟨hclosed, ?_⟩
      dsimp only
      rw [RowCall.admits, hended, Bool.not_true, if_neg Bool.false_ne_true]
      rfl
  | releasing => exact ⟨hclosed, call_quiet (fun _ hsave => by cases hsave) rfl rfl⟩
  | retrying => exact ⟨hclosed, call_quiet (fun _ hsave => by cases hsave) rfl rfl⟩
  | committing call read next =>
      rw [hstage] at hquiet
      cases call with
      | cancel => cases hquiet
      | collect workerId generation write =>
          cases write with
          | save => cases hquiet
          | renew => exact ⟨hclosed, hquiet⟩
          | release => exact ⟨hclosed, hquiet⟩
          | retry => exact ⟨hclosed, hquiet⟩
  | done => exact ⟨hclosed, rfl⟩
  | _ =>
      rw [hstage] at hquiet
      cases hquiet

end

/-! ## The invariant -/

/-- The published revision is where the reader of a refresh state found it, or where the run
has brought it since. -/
def JobRun.HasRead (run : JobRun) (refresh read : Option RefreshState) : Prop :=
  ∀ revision ∈ run.sourceRevision, publishedRevision read ≤ publishedRevision refresh ∧
    publishedRevision refresh ≤ max (publishedRevision read) revision

/-- What holds while each run is submitted after the earlier ones are finalized: only the last
one is still worked on, and the workers on it have read a revision that is not behind. -/
structure SqlJob.Ordered (s : SqlJob) : Prop where
  distinct : s.runIds.Nodup
  workers : ∀ worker ∈ s.workers, worker.run < s.runs.length
  closed : ∀ i run, s.runs[i]? = some run → i + 1 < s.runs.length → run.closed = true
  quiet : ∀ worker ∈ s.workers, worker.run + 1 < s.runs.length → worker.stage.quiet = true
  reads : ∀ worker ∈ s.workers, ∀ read ∈ worker.stage.refreshRead,
    ∀ run ∈ s.runs[worker.run]?, run.HasRead s.refresh read
  covers : s.CoversCatalog

section
variable {s : SqlJob} {store : JobStore} {run next : JobRun} {i : Nat}

theorem JobStage.quiet_refreshRead {stage : JobStage} (h : stage.quiet = true) :
    stage.refreshRead = none := by
  induction stage with
  | committing call read next ih =>
      cases call with
      | cancel => exact nomatch h
      | collect workerId generation write =>
          cases write with
          | save => exact nomatch h
          | renew => exact ih h
          | release => exact ih h
          | retry => exact ih h
  | describing | cataloguing | publishing | dropping | discarding => exact nomatch h
  | _ => rfl

/-- The run that the catalog names, by its place. -/
theorem SqlJob.mem_catalogRun (hdistinct : s.runIds.Nodup) : i ∈ s.catalogRun ↔
    ∃ runId ∈ s.catalog.bind JobDataset.sourceRunId, s.runIds[i]? = some runId := by
  rw [catalogRun, Option.mem_def, Option.bind_eq_some_iff]
  refine exists_congr fun runId => and_congr_right fun _ => ?_
  rw [List.idxOf?_eq_some_iff]
  constructor
  · rintro ⟨hlt, hat, -⟩
    rw [List.getElem?_eq_getElem hlt, hat]
  · intro hat
    obtain ⟨hlt, hget⟩ := List.getElem?_eq_some_iff.mp hat
    refine ⟨hlt, hget, fun j hj hsame => ?_⟩
    have hjlt := Nat.lt_trans hj hlt
    have hij := (List.getElem?_inj hlt hdistinct).mp
      (hat.trans (List.getElem?_eq_some_iff.mpr ⟨hjlt, hsame⟩).symm)
    omega

theorem SqlJob.getElem?_runIds : s.runIds[i]? = (s.runs[i]?).map JobRun.runId :=
  List.getElem?_map

theorem SqlJob.catalogRun_lt (hdistinct : s.runIds.Nodup) (hi : i ∈ s.catalogRun) :
    i < s.runs.length := by
  obtain ⟨runId, -, hat⟩ := (mem_catalogRun hdistinct).mp hi
  obtain ⟨hlt, -⟩ := List.getElem?_eq_some_iff.mp hat
  rwa [runIds, List.length_map] at hlt

/-- A run is replaced by a later state of it. -/
theorem SqlJob.runIds_set (hi : s.runs[i]? = some run) (hid : next.runId = run.runId) :
    (s.runs.set i next).map JobRun.runId = s.runIds := by
  rw [List.map_set, hid, runIds]
  obtain ⟨hlt, rfl⟩ := List.getElem?_eq_some_iff.mp hi
  have hlt' : i < (s.runs.map JobRun.runId).length := by rwa [List.length_map]
  rw [show s.runs[i].runId = (s.runs.map JobRun.runId)[i] from (List.getElem_map _).symm,
    List.set_getElem_self]

theorem SqlJob.sourceRevision_set (hi : s.runs[i]? = some run)
    (hrevision : next.sourceRevision = run.sourceRevision) {j : Nat} {other : JobRun}
    (hj : (s.runs.set i next)[j]? = some other) :
    ∃ before, s.runs[j]? = some before ∧ before.sourceRevision = other.sourceRevision := by
  rw [List.getElem?_set] at hj
  split at hj
  · next hij =>
      subst hij
      split at hj
      · obtain rfl := Option.some.inj hj
        exact ⟨run, hi, hrevision.symm⟩
      · exact nomatch hj
  · exact ⟨other, hj, rfl⟩

/-- A refresh state that has just been read. -/
theorem JobRun.hasRead_self (refresh : Option RefreshState) : run.HasRead refresh refresh :=
  fun _ _ => ⟨le_refl _, le_max_left _ _⟩

/-- A run is replaced, and the store, by what a worker's step leaves. -/
theorem SqlJob.Ordered.replace (h : s.Ordered) (hi : s.runs[i]? = some run)
    (hid : next.runId = run.runId) (hrevision : next.sourceRevision = run.sourceRevision)
    (hclosed : i + 1 < s.runs.length → next.closed = true)
    (hrefresh : publishedRevision store.refresh = publishedRevision s.refresh ∨
      i + 1 = s.runs.length ∧
        ∀ read, run.HasRead s.refresh read → run.HasRead store.refresh read)
    {workers : List JobWorker} (hworkers : ∀ worker ∈ workers, worker ∈ s.workers ∨
      worker.run = i ∧ (i + 1 < s.runs.length → worker.stage.quiet = true) ∧
        ∀ read ∈ worker.stage.refreshRead, run.HasRead s.refresh read)
    (hcovers : SqlJob.CoversCatalog
      { s with toJobStore := store, runs := s.runs.set i next, workers }) :
    SqlJob.Ordered { s with toJobStore := store, runs := s.runs.set i next, workers } where
  distinct := by
    show ((s.runs.set i next).map JobRun.runId).Nodup
    rw [SqlJob.runIds_set hi hid]
    exact h.distinct
  workers := by
    intro worker hworker
    show worker.run < (s.runs.set i next).length
    rw [List.length_set]
    rcases hworkers worker hworker with hold | ⟨rfl, -⟩
    · exact h.workers worker hold
    · exact (List.getElem?_eq_some_iff.mp hi).1
  closed := by
    intro j other hj hlt
    simp only [List.length_set] at hlt
    rw [List.getElem?_set] at hj
    split at hj
    · next hij =>
        subst hij
        rw [if_pos (by omega)] at hj
        obtain rfl := Option.some.inj hj
        exact hclosed hlt
    · exact h.closed j other hj hlt
  quiet := by
    intro worker hworker hlt
    simp only [List.length_set] at hlt
    rcases hworkers worker hworker with hold | ⟨rfl, hquiet, -⟩
    · exact h.quiet worker hold hlt
    · exact hquiet hlt
  reads := by
    intro worker hworker read hread other hother
    obtain ⟨before, hbefore, hsame⟩ := SqlJob.sourceRevision_set hi hrevision hother
    have hold : before.HasRead s.refresh read := by
      rcases hworkers worker hworker with hold | ⟨rfl, -, hnew⟩
      · exact h.reads worker hold read hread before hbefore
      · rw [hi] at hbefore
        obtain rfl := Option.some.inj hbefore
        exact hnew read hread
    rw [JobRun.HasRead, ← hsame]
    rcases hrefresh with hsameRefresh | ⟨hlast, hreads⟩
    · rw [hsameRefresh]
      exact hold
    · -- the earlier runs have quiet workers only, which have read nothing
      have hat : worker.run = i := by
        by_contra hne
        rcases hworkers worker hworker with hmem | ⟨heq, -⟩
        · have hlt := h.workers worker hmem
          have hquiet := h.quiet worker hmem (by omega)
          rw [JobStage.quiet_refreshRead hquiet] at hread
          exact nomatch hread
        · exact hne heq
      subst hat
      rw [hi] at hbefore
      obtain rfl := Option.some.inj hbefore
      exact hreads read hold
  covers := hcovers

/-- The catalog and the dashboard's state are left, and so is what they say. -/
theorem SqlJob.Ordered.covers_same (h : s.Ordered) (hi : s.runs[i]? = some run)
    (hid : next.runId = run.runId) (hrevision : next.sourceRevision = run.sourceRevision)
    (hcatalog : store.catalog = s.catalog) (hrefresh : store.refresh = s.refresh)
    (workers : List JobWorker) : SqlJob.CoversCatalog
      { s with toJobStore := store, runs := s.runs.set i next, workers } := by
  intro hready j hj other hother revision hmem
  obtain ⟨before, hbefore, hsame⟩ := SqlJob.sourceRevision_set hi hrevision hother
  rw [← hsame] at hmem
  simp only [SqlJob.ready, SqlJob.catalogRun, SqlJob.runIds, hcatalog, hrefresh,
    SqlJob.runIds_set hi hid] at hready hj ⊢
  exact h.covers hready j hj before hbefore revision hmem

end

/-! ## An event -/

/-- What an event in its turn does. -/
structure SqlJob.Advances (s after : SqlJob) : Prop where
  ordered : after.Ordered
  catalog : ∀ i ∈ s.catalogRun, ∃ j ∈ after.catalogRun, i ≤ j
  revision : publishedRevision s.refresh ≤ publishedRevision after.refresh

section
variable {s after : SqlJob} {settings : SqlJobSettings} {run : JobRun} {worker : JobWorker} {k : Nat}
  {input : JobInput}

theorem SqlJob.catalogRun_congr (hcatalog : after.catalog = s.catalog)
    (hids : after.runIds = s.runIds) : after.catalogRun = s.catalogRun := by
  rw [catalogRun, catalogRun, hcatalog, hids]

theorem SqlJob.Ordered.advances_same (h : after.Ordered) (hcatalog : after.catalogRun = s.catalogRun)
    (hrefresh : publishedRevision after.refresh = publishedRevision s.refresh) :
    s.Advances after where
  ordered := h
  catalog := by
    intro i hi
    exact ⟨i, by rwa [hcatalog], le_refl i⟩
  revision := hrefresh.ge

/-- A worker that is not quiet is at work on the last run. -/
theorem SqlJob.Ordered.last_of_not_quiet (h : s.Ordered) (hmem : worker ∈ s.workers)
    (hquiet : worker.stage.quiet = false) : worker.run + 1 = s.runs.length := by
  have hlt := h.workers worker hmem
  by_contra hne
  rw [h.quiet worker hmem (by omega)] at hquiet
  exact nomatch hquiet

/-- The catalog names the run that is published. -/
theorem SqlJob.Ordered.catalogRun_published (h : s.Ordered) {i : Nat}
    (hi : s.runs[i]? = some run) {dataset : JobDataset}
    (hdataset : dataset.sourceRunId = some run.runId) (hcatalog : after.catalog = some dataset)
    (hids : after.runIds = s.runIds) {j : Nat} : j ∈ after.catalogRun ↔ j = i := by
  have hat : s.runIds[i]? = some run.runId := by
    rw [SqlJob.getElem?_runIds, hi]
    rfl
  have hdistinct : after.runIds.Nodup := by
    rw [hids]
    exact h.distinct
  rw [SqlJob.mem_catalogRun hdistinct, hcatalog, hids, Option.bind_some, hdataset]
  constructor
  · rintro ⟨runId, hid, hj⟩
    obtain rfl := Option.some.inj hid
    have hlt := (List.getElem?_eq_some_iff.mp hj).1
    exact (List.getElem?_inj hlt h.distinct).mp (hj.trans hat.symm)
  · rintro rfl
    exact ⟨run.runId, rfl, hat⟩

/-- A worker's step, in its turn. -/
theorem SqlJob.Ordered.act (h : s.Ordered) (hworker : s.workers[k]? = some worker)
    (hi : s.runs[worker.run]? = some run) (hturn : InTurn s (.act k input)) :
    s.Advances (s.act settings k worker run input) := by
  have hmem := List.mem_of_getElem? hworker
  obtain ⟨hid, hrevision⟩ := @JobWorker.advance_names settings.toCollectorSettings s.toJobStore
    run worker input
  have hclosed : worker.run + 1 < s.runs.length →
      (worker.advance settings.toCollectorSettings s.toJobStore run input).2.1.closed = true :=
    fun hlt => (JobWorker.advance_quiet (h.closed _ run hi hlt) (h.quiet worker hmem hlt)).1
  have hworkers : ∀ other ∈ (s.act settings k worker run input).workers, other ∈ s.workers ∨
      other.run = worker.run ∧
        (worker.run + 1 < s.runs.length → other.stage.quiet = true) ∧
        ∀ read ∈ other.stage.refreshRead, run.HasRead s.refresh read := by
    intro other hother
    rcases List.mem_or_eq_of_mem_set hother with hold | rfl
    · exact Or.inl hold
    · refine Or.inr ⟨rfl, fun hlt => ?_, fun read hread => ?_⟩
      · exact (JobWorker.advance_quiet (h.closed _ run hi hlt) (h.quiet worker hmem hlt)).2
      · rcases JobWorker.advance_refreshRead hread with rfl | hold
        · exact JobRun.hasRead_self s.refresh
        · exact h.reads worker hmem read hold run hi
  have hids : (s.act settings k worker run input).runIds = s.runIds := SqlJob.runIds_set hi hid
  cases @JobWorker.advance_records settings.toCollectorSettings s.toJobStore run worker input with
  | nothing hcatalog hrefresh =>
      have hsame := congrArg publishedRevision hrefresh
      have hcovers := h.covers_same hi hid hrevision hcatalog hrefresh
        (s.act settings k worker run input).workers
      have hordered := h.replace hi hid hrevision hclosed (Or.inl hsame) hworkers hcovers
      exact hordered.advances_same (SqlJob.catalogRun_congr hcatalog hids) hsame
  | published payload read existing hstage hcatalog hrefresh =>
      obtain ⟨dataset, hdataset, hnamed⟩ := hcatalog
      have hlast : worker.run + 1 = s.runs.length :=
        h.last_of_not_quiet hmem (by rw [hstage]; rfl)
      have hread : run.HasRead s.refresh read :=
        h.reads worker hmem read (by rw [hstage]; rfl) run hi
      have hnames : ∀ {j : Nat}, j ∈ (s.act settings k worker run input).catalogRun ↔
          j = worker.run := h.catalogRun_published hi hnamed hdataset hids
      have hgoesOn : ∀ i ∈ s.catalogRun,
          ∃ j ∈ (s.act settings k worker run input).catalogRun, i ≤ j := by
        intro i hat
        have := SqlJob.catalogRun_lt h.distinct hat
        exact ⟨worker.run, hnames.mpr rfl, by omega⟩
      cases hcontext : run.sourceRevision with
      | none =>
          rw [hcontext] at hrefresh
          have hsame := congrArg publishedRevision hrefresh
          refine ⟨h.replace hi hid hrevision hclosed (Or.inl hsame) hworkers ?_, hgoesOn, hsame.ge⟩
          intro _ j hj other hother revision hmem
          obtain rfl := hnames.mp hj
          obtain ⟨before, hbefore, hold⟩ := SqlJob.sourceRevision_set hi hrevision hother
          rw [hi] at hbefore
          obtain rfl := Option.some.inj hbefore
          rw [← hold, hcontext] at hmem
          exact nomatch hmem
      | some own =>
          rw [hcontext] at hrefresh
          have hnew : publishedRevision
              (worker.advance settings.toCollectorSettings s.toJobStore run input).1.refresh =
                max (publishedRevision read) own := by
            rw [hrefresh]
            rfl
          have hbetween := hread own hcontext
          refine ⟨h.replace hi hid hrevision hclosed (Or.inr ⟨hlast, ?_⟩) hworkers ?_, hgoesOn, ?_⟩
          · intro other hother revision hrevision
            rw [hcontext] at hrevision
            obtain rfl := Option.some.inj hrevision
            have hold := hother own hcontext
            rw [hnew]
            refine ⟨hold.1.trans hbetween.2, max_le ?_ (le_max_right _ _)⟩
            exact hbetween.1.trans hold.2
          · intro _ j hj other hother revision hmem
            obtain rfl := hnames.mp hj
            obtain ⟨before, hbefore, hold⟩ := SqlJob.sourceRevision_set hi hrevision hother
            rw [hi] at hbefore
            obtain rfl := Option.some.inj hbefore
            rw [← hold, hcontext] at hmem
            obtain rfl := Option.some.inj hmem
            show own ≤ publishedRevision _
            rw [hnew]
            exact le_max_right _ _
          · exact hbetween.2.trans_eq hnew.symm
  | discarded payload read final hstage hcatalog hrefresh =>
      have hkept : publishedRevision read = publishedRevision s.refresh :=
        hturn worker hworker read (by rw [hstage]; rfl)
      have hsame : publishedRevision
          (worker.advance settings.toCollectorSettings s.toJobStore run input).1.refresh =
            publishedRevision s.refresh := by
        rw [hrefresh]
        cases hcontext : run.sourceRevision with
        | none => rfl
        | some own => exact hkept
      have hcovers : SqlJob.CoversCatalog (s.act settings k worker run input) := by
        cases hcontext : run.sourceRevision with
        | none =>
            rw [hcontext] at hrefresh
            exact h.covers_same hi hid hrevision hcatalog hrefresh _
        | some own =>
            rw [hcontext] at hrefresh
            intro hready
            have hfailed : (s.act settings k worker run input).ready = false := by
              show (worker.advance settings.toCollectorSettings s.toJobStore run input).1.refresh.any
                (fun state => decide (state.status = some .dashboardReady)) = false
              rw [hrefresh]
              rfl
            rw [hfailed] at hready
            exact nomatch hready
      have hordered := h.replace hi hid hrevision hclosed (Or.inl hsame) hworkers hcovers
      exact hordered.advances_same (SqlJob.catalogRun_congr hcatalog hids) hsame

/-- A worker is taken on who has read nothing. -/
theorem SqlJob.Ordered.hire (h : s.Ordered) {added : JobWorker} (hadded : added.run < s.runs.length)
    (hquiet : added.run + 1 < s.runs.length → added.stage.quiet = true)
    (hread : added.stage.refreshRead = none) :
    SqlJob.Ordered { s with workers := s.workers ++ [added] } where
  distinct := h.distinct
  workers := by
    intro worker hworker
    rcases List.mem_append.mp hworker with hold | hnew
    · exact h.workers worker hold
    · obtain rfl := List.mem_singleton.mp hnew
      exact hadded
  closed := h.closed
  quiet := by
    intro worker hworker
    rcases List.mem_append.mp hworker with hold | hnew
    · exact h.quiet worker hold
    · obtain rfl := List.mem_singleton.mp hnew
      exact hquiet
  reads := by
    intro worker hworker read hmem
    rcases List.mem_append.mp hworker with hold | hnew
    · exact h.reads worker hold read hmem
    · obtain rfl := List.mem_singleton.mp hnew
      rw [hread] at hmem
      exact nomatch hmem
  covers := h.covers

/-- A run is submitted when the earlier ones are done with. -/
theorem SqlJob.Ordered.append (h : s.Ordered) {added : JobRun}
    (hruns : ∀ run ∈ s.runs, run.runId ≠ added.runId)
    (hsource : ∀ dataset ∈ s.catalog, dataset.sourceRunId ≠ some added.runId)
    (hclosed : ∀ run ∈ s.runs, run.closed = true)
    (hquiet : ∀ worker ∈ s.workers, worker.stage.quiet = true) :
    SqlJob.Advances s { s with runs := s.runs ++ [added] } := by
  have hids : (s.runs ++ [added]).map JobRun.runId = s.runIds ++ [added.runId] := List.map_append
  have hdistinct : (SqlJob.runIds { s with runs := s.runs ++ [added] }).Nodup := by
    rw [SqlJob.runIds, hids]
    refine List.nodup_append.mpr ⟨h.distinct, List.nodup_singleton _, ?_⟩
    intro runId hold other hother
    obtain ⟨run, hrun, rfl⟩ := List.mem_map.mp hold
    rw [List.mem_singleton.mp hother]
    exact hruns run hrun
  have hcatalog : SqlJob.catalogRun { s with runs := s.runs ++ [added] } = s.catalogRun := by
    refine Option.ext fun i => ?_
    rw [← Option.mem_def, ← Option.mem_def, SqlJob.mem_catalogRun hdistinct,
      SqlJob.mem_catalogRun h.distinct]
    refine exists_congr fun runId => and_congr_right fun hsourced => ?_
    show ((s.runs ++ [added]).map JobRun.runId)[i]? = some runId ↔ _
    rw [hids, List.getElem?_append]
    split
    · exact Iff.rfl
    · next hge =>
        obtain ⟨dataset, hdataset, hnamed⟩ := Option.bind_eq_some_iff.mp hsourced
        refine iff_of_false ?_ ?_
        · intro hat
          obtain rfl := List.mem_singleton.mp (List.mem_of_getElem? hat)
          exact hsource dataset hdataset hnamed
        · intro hat
          exact hge (List.getElem?_eq_some_iff.mp hat).1
  have hordered : SqlJob.Ordered { s with runs := s.runs ++ [added] } := by
    refine ⟨hdistinct, ?_, ?_, fun worker hworker _ => hquiet worker hworker, ?_, ?_⟩
    · intro worker hworker
      have := h.workers worker hworker
      simp only [List.length_append, List.length_singleton]
      omega
    · intro i run hi hlt
      simp only [List.length_append, List.length_singleton] at hlt
      rw [List.getElem?_append_left (by omega)] at hi
      exact hclosed run (List.mem_of_getElem? hi)
    · intro worker hworker read hread
      rw [JobStage.quiet_refreshRead (hquiet worker hworker)] at hread
      exact nomatch hread
    · intro hready i hi run hrun
      rw [hcatalog] at hi
      have hlt := SqlJob.catalogRun_lt h.distinct hi
      simp only [List.getElem?_append_left hlt] at hrun
      exact h.covers hready i hi run hrun
  exact hordered.advances_same hcatalog rfl

/-- A worker is taken on, or stops. -/
theorem SqlJob.Ordered.workers_advance {workers : List JobWorker}
    (h : SqlJob.Ordered { s with workers }) : SqlJob.Advances s { s with workers } :=
  h.advances_same rfl rfl

/-- An event in its turn takes nothing back. -/
theorem SqlJob.Ordered.step (h : s.Ordered) (settings : SqlJobSettings) (event : JobEvent)
    (hfresh : FreshNames s event) (hturn : InTurn s event) :
    s.Advances (s.step settings event) := by
  have hsame : s.Advances s := h.advances_same rfl rfl
  cases event with
  | submit submission =>
      rw [SqlJob.step]
      split
      · exact hsame
      · exact ⟨⟨h.distinct, h.workers, h.closed, h.quiet, h.reads, h.covers⟩, hsame.catalog,
          hsame.revision⟩
  | accept k page =>
      rw [SqlJob.step]
      cases hk : s.submissions[k]? with
      | none => exact hsame
      | some submission =>
          obtain ⟨hruns, -, -, hsource⟩ := hfresh submission hk
          obtain ⟨hclosed, hquiet⟩ := hturn
          have hfewer : SqlJob.Ordered { s with submissions := s.submissions.eraseIdx k } :=
            ⟨h.distinct, h.workers, h.closed, h.quiet, h.reads, h.covers⟩
          have hadvances := @SqlJob.Ordered.append { s with
            submissions := s.submissions.eraseIdx k } hfewer
            (SqlJob.submittedRun settings submission page) (fun run hrun => (hruns run hrun).1)
            hsource hclosed hquiet
          rw [Option.elim, SqlJob.accept]
          split
          · exact ⟨hfewer, hsame.catalog, hsame.revision⟩
          · dsimp only
            split
            · refine ⟨hadvances.ordered.hire ?_ ?_ rfl, hadvances.catalog, hadvances.revision⟩
              · simp only [List.length_append, List.length_singleton]
                omega
              · intro hlt
                simp only [List.length_append, List.length_singleton] at hlt
                omega
            · exact ⟨hadvances.ordered, hadvances.catalog, hadvances.revision⟩
  | refuse k =>
      exact ⟨⟨h.distinct, h.workers, h.closed, h.quiet, h.reads, h.covers⟩, hsame.catalog,
        hsame.revision⟩
  | write i =>
      rw [SqlJob.step]
      cases s.runs[i]? with
      | none => exact hsame
      | some run =>
          exact ⟨⟨h.distinct, h.workers, h.closed, h.quiet, h.reads, h.covers⟩, hsame.catalog,
            hsame.revision⟩
  | claim i workerId now =>
      rw [SqlJob.step]
      cases hi : s.runs[i]? with
      | none => exact hsame
      | some run =>
          rw [Option.elim]
          split
          · exact hsame
          · next row hclaim =>
              have hpayload : row.payload = run.row.payload := by
                rw [(RunRow.claim_eq_some hclaim).2]
              have hclosed : i + 1 < s.runs.length → ({ run with row } : JobRun).closed = true := by
                intro hlt
                rw [JobRun.closed, hpayload]
                exact h.closed i run hi hlt
              have hid : ({ run with row } : JobRun).runId = run.runId := rfl
              refine (h.replace hi hid rfl hclosed (Or.inl rfl) ?_
                (h.covers_same hi hid rfl rfl rfl _)).advances_same
                (SqlJob.catalogRun_congr rfl (SqlJob.runIds_set hi hid)) rfl
              intro worker hworker
              rcases List.mem_append.mp hworker with hold | hnew
              · exact Or.inl hold
              · obtain rfl := List.mem_singleton.mp hnew
                exact Or.inr ⟨rfl, fun _ => rfl, fun _ hread => by cases hread⟩
  | cancel i =>
      rw [SqlJob.step]
      cases hi : s.runs[i]? with
      | none => exact hsame
      | some run =>
          rw [Option.elim]
          split
          · exact hsame
          · exact (h.hire (List.getElem?_eq_some_iff.mp hi).1 (fun _ => rfl) rfl).workers_advance
  | act k input =>
      rw [SqlJob.step]
      cases hworker : s.workers[k]? with
      | none => exact hsame
      | some worker =>
          rw [Option.elim]
          cases hi : s.runs[worker.run]? with
          | none => exact hsame
          | some run => exact h.act hworker hi hturn
  | crash k =>
      rw [SqlJob.step]
      cases hworker : s.workers[k]? with
      | none => exact hsame
      | some worker =>
          have hmem := List.mem_of_getElem? hworker
          refine SqlJob.Ordered.workers_advance ⟨h.distinct, ?_, h.closed, ?_, ?_, h.covers⟩
          · intro other hother
            rcases List.mem_or_eq_of_mem_set hother with hold | rfl
            · exact h.workers other hold
            · exact h.workers worker hmem
          · intro other hother hlt
            rcases List.mem_or_eq_of_mem_set hother with hold | rfl
            · exact h.quiet other hold hlt
            · rfl
          · intro other hother read hread
            rcases List.mem_or_eq_of_mem_set hother with hold | rfl
            · exact h.reads other hold read hread
            · cases hread
  | refresh latestRevision =>
      rw [SqlJob.step]
      split
      · exact hsame
      · refine SqlJob.Ordered.advances_same ⟨h.distinct, h.workers, h.closed, h.quiet, h.reads, ?_⟩
          rfl rfl
        exact fun hready => by cases hready
  | refreshFailed =>
      refine SqlJob.Ordered.advances_same ⟨h.distinct, h.workers, h.closed, h.quiet, h.reads, ?_⟩
        rfl rfl
      exact fun hready => by cases hready

/-! ## Runs of events -/

theorem SqlJob.ordered_new (store : JobStore) : SqlJob.Ordered { toJobStore := store } where
  distinct := List.nodup_nil
  workers := fun _ hworker => nomatch hworker
  closed := fun _ _ hi => nomatch hi
  quiet := fun _ hworker => nomatch hworker
  reads := fun _ hworker => nomatch hworker
  covers := fun _ _ _ _ hrun => nomatch hrun

end

/-- The catalog and the published revision never go back in the runs where each run is
submitted after the earlier ones are finalized and nobody is at work on them, and nobody
gives a run up over an older published revision than there is. -/
theorem catalog_never_goes_back (settings : SqlJobSettings) (store : JobStore)
    (events : List JobEvent)
    (hfresh : Along FreshNames (SqlJob.step settings) { toJobStore := store } events)
    (hturn : Along InTurn (SqlJob.step settings) { toJobStore := store } events) :
    Along (NeverBack settings) (SqlJob.step settings) { toJobStore := store } events := by
  refine Along.of_keeps ?_ ?_ (SqlJob.ordered_new store) (hfresh.and hturn)
  · intro s event h hevent
    have hstep := h.step settings event hevent.1 hevent.2
    exact ⟨hstep.catalog, hstep.revision, hstep.ordered.covers⟩
  · exact fun s event h hevent => (h.step settings event hevent.1 hevent.2).ordered

def revisionSubmission (runId target : String) (revision : Int) : JobSubmission where
  runId
  target
  statement := "CREATE TABLE gold AS SELECT * FROM orders"
  sourceRevision := some revision

/-- A revision is refreshed, by a statement that Trino answers at once. -/
def refreshed (runId target : String) (revision : Int) (run : Nat) : List JobEvent :=
  [.refresh revision, .submit (revisionSubmission runId target revision),
   .accept 0 goldFinished, .write run]

/-- Two revisions, one after the other. -/
def refreshedInTurn : List JobEvent :=
  refreshed "run_sql_1" "gold_1" 5 0 ++ works 0 5 1 ++ refreshed "run_sql_2" "gold_2" 7 1 ++
    works 1 5 2

theorem catalog_never_goes_back_gold :
    Along InTurn (SqlJob.step goldSettings) {} refreshedInTurn ∧
      Along (NeverBack goldSettings) (SqlJob.step goldSettings) {} refreshedInTurn ∧
      (play (SqlJob.step goldSettings) {} refreshedInTurn).catalogRun = some 1 :=
  have hturn : Along InTurn (SqlJob.step goldSettings) {} refreshedInTurn := by decide +kernel
  ⟨hturn, catalog_never_goes_back goldSettings {} refreshedInTurn (by decide +kernel) hturn,
    by decide +kernel⟩

/-- The first run is being finalized when the second one is submitted, and published. -/
def overtakenRefresh : List JobEvent :=
  refreshed "run_sql_1" "gold_1" 5 0 ++ works 0 1 1 ++ refreshed "run_sql_2" "gold_2" 7 1 ++
    works 1 5 2 ++ works 0 2 3

/-- The first run is published over the second one, and its revision over the later one. -/
theorem catalog_goes_back :
    (play (SqlJob.step goldSettings) {} overtakenRefresh).catalogRun = some 1 ∧
      publishedRevision (play (SqlJob.step goldSettings) {} overtakenRefresh).refresh = 7 ∧
      (play (SqlJob.step goldSettings) {} (overtakenRefresh ++ works 0 1 4)).catalogRun =
        some 0 ∧
      publishedRevision
        (play (SqlJob.step goldSettings) {} (overtakenRefresh ++ works 0 1 4)).refresh = 5 ∧
      ¬ Along (NeverBack goldSettings) (SqlJob.step goldSettings) {}
        (overtakenRefresh ++ works 0 1 4) := by
  have hbefore : publishedRevision (play (SqlJob.step goldSettings) {} overtakenRefresh).refresh =
      7 := by decide +kernel
  have hafter : publishedRevision
      (play (SqlJob.step goldSettings) {} (overtakenRefresh ++ works 0 1 4)).refresh = 5 := by
    decide +kernel
  refine ⟨by decide +kernel, hbefore, by decide +kernel, hafter, ?_⟩
  intro hnever
  have hlast := (along_append.mp hnever).2.1.revision
  rw [hbefore] at hlast
  rw [play_append] at hafter
  have : (7 : Int) ≤ 5 := hlast.trans_eq hafter
  omega

end AskLake.Trino

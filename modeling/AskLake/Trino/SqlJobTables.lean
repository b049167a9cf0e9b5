/-
# `AskLake.Trino.SqlJobTables` — whether a published table stays

Finalization may be done over again, after a crash or by a second worker: saving Trino's
last status gives the lease up, and the run can be claimed while it is being finalized.
Each worker comes to a verdict of its own,

    finalizing      the payload's status, if Trino has not written the table
    describing      written, if the table is found, and failed otherwise
    a cancel        cancelled, when the request commits

and drops the table, or publishes it.  A table that the catalog names stays, and the three
records of a run agree once it is finalized, in the runs where the workers on a run come
to one verdict and the writes that ask for no lease do not undo what it led to.
-/
import AskLake.Trino.SqlJob

namespace AskLake.Trino

open AskLake.Lib AskLake.Python

/-! ## What is to hold -/

/-- The dataset has the run as a successful one. -/
def JobDataset.lists (dataset : JobDataset) (runId : String) : Bool :=
  dataset.materializationRuns.any fun run => run.runId = runId && run.status = "success"

def JobStore.lists (store : JobStore) (runId : String) : Bool :=
  store.catalog.any fun dataset => dataset.lists runId

/-- The catalog names the table. -/
def JobStore.maps (store : JobStore) (table : String) : Prop :=
  ∃ dataset ∈ store.catalog, dataset.queryEngineTable = some table

instance (store : JobStore) (table : String) : Decidable (store.maps table) :=
  decidable_of_iff (store.catalog.any fun dataset => dataset.queryEngineTable = some table) (by
    rw [JobStore.maps, Option.any_eq_true]
    simp only [decide_eq_true_eq, Option.mem_def])

/-- The table that the catalog names is there, one that it was saved with stays, and the
records of a finalized run agree. -/
structure TablesUpheld (s : SqlJob) : Prop where
  mapped : ∀ table, s.maps table → table ∈ s.tables
  kept : ∀ run ∈ s.runs, run.published = true → run.target ∈ s.tables
  agrees : ∀ run ∈ s.runs, run.row.payload.finalized = true →
    run.etlStatus = etlRunStatus run.row.payload.status ∧
      (s.lists run.runId = true ↔ run.row.payload.status = .succeeded)

/-! ## The condition -/

/-- The worker that an event lets act, on its run. -/
def SqlJob.acting (s : SqlJob) : JobEvent → Option (JobWorker × JobRun × JobInput)
  | .act k input => (s.workers[k]?).bind fun worker =>
      (s.runs[worker.run]?).map fun run => (worker, run, input)
  | _ => none

/-- The verdict that a worker comes to in a step. -/
def JobWorker.decides (store : JobStore) (run : JobRun) (worker : JobWorker) (input : JobInput) :
    Option RunStatus :=
  match worker.stage with
  | .finalizing payload => if payload.status = .succeeded then none else some payload.status
  | .describing _ _ => some (if finds store run input then .succeeded else .failed)
  | .committing (.cancel _) _ _ => some .cancelled
  | _ => none

/-- The status of the page whose progress a worker is about to commit. -/
def JobWorker.progress (worker : JobWorker) : Option RunStatus :=
  match worker.stage with
  | .saved updated => some updated.status
  | _ => none

/-- The catalog's payload that a worker is about to save over. -/
def JobWorker.existing (worker : JobWorker) : Option JobDataset :=
  match worker.stage with
  | .publishing _ _ existing => some existing
  | _ => none

/-- A worker's step goes with what the others have done to its run. -/
structure JobWorker.Unanimous (s : SqlJob) (worker : JobWorker) (run : JobRun)
    (input : JobInput) : Prop where
  verdict : ∀ final ∈ worker.decides s.toJobStore run input, ∀ earlier ∈ run.verdict,
    final = earlier
  progress : ∀ status ∈ worker.progress, run.concluded = true →
    ∀ earlier ∈ run.verdict, etlRunStatus status = etlRunStatus earlier
  catalog : ∀ existing ∈ worker.existing, ∀ other ∈ s.runs, other.runId ≠ run.runId →
    existing.lists other.runId = s.lists other.runId

instance (s : SqlJob) (worker : JobWorker) (run : JobRun) (input : JobInput) :
    Decidable (worker.Unanimous s run input) :=
  decidable_of_iff
    ((∀ final ∈ worker.decides s.toJobStore run input, ∀ earlier ∈ run.verdict,
        final = earlier) ∧
      (∀ status ∈ worker.progress, run.concluded = true → ∀ earlier ∈ run.verdict,
        etlRunStatus status = etlRunStatus earlier) ∧
      ∀ existing ∈ worker.existing, ∀ other ∈ s.runs, other.runId ≠ run.runId →
        existing.lists other.runId = s.lists other.runId)
    ⟨fun h => ⟨h.1, h.2.1, h.2.2⟩, fun h => ⟨h.verdict, h.progress, h.catalog⟩⟩

/-- The step of an event goes with those before it. -/
def Unanimous (s : SqlJob) (event : JobEvent) : Prop :=
  ∀ actor ∈ s.acting event, actor.1.Unanimous s actor.2.1 actor.2.2

instance (s : SqlJob) (event : JobEvent) : Decidable (Unanimous s event) :=
  inferInstanceAs (Decidable (∀ actor ∈ s.acting event, actor.1.Unanimous s actor.2.1 actor.2.2))

/-- A run id that `uuid4` makes, and the table named after it, are new. -/
def FreshNames (s : SqlJob) : JobEvent → Prop
  | .accept k _ => ∀ submission ∈ s.submissions[k]?,
      (∀ run ∈ s.runs, run.runId ≠ submission.runId ∧ run.target ≠ submission.target) ∧
        s.lists submission.runId = false ∧ ¬ s.maps submission.target ∧
        ∀ dataset ∈ s.catalog, dataset.sourceRunId ≠ some submission.runId
  | _ => True

instance (s : SqlJob) : (event : JobEvent) → Decidable (FreshNames s event)
  | .accept k _ => inferInstanceAs (Decidable (∀ submission ∈ s.submissions[k]?,
      (∀ run ∈ s.runs, run.runId ≠ submission.runId ∧ run.target ≠ submission.target) ∧
        s.lists submission.runId = false ∧ ¬ s.maps submission.target ∧
        ∀ dataset ∈ s.catalog, dataset.sourceRunId ≠ some submission.runId))
  | .submit _ | .refuse _ | .write _ | .claim _ _ _ | .cancel _ | .act _ _ | .crash _
  | .refresh _ | .refreshFailed => .isTrue trivial

/-! ## Lists of runs -/

theorem mem_upsertMaterializationRun {previous : List MaterializationRun}
    {next run : MaterializationRun} : run ∈ upsertMaterializationRun previous next ↔
      run = next ∨ run ∈ previous ∧ run.runId ≠ next.runId := by
  rw [upsertMaterializationRun, List.mem_insertionSort, List.mem_cons, List.mem_filter,
    decide_eq_true_eq]

/-- A save lists its own run, and leaves the others. -/
theorem JobDataset.lists_withRun {existing : JobDataset} {runId target other : String}
    {endedAt : Int} : (existing.withRun runId target endedAt).lists other = true ↔
      other = runId ∨ existing.lists other = true := by
  simp only [lists, withRun, List.any_eq_true, mem_upsertMaterializationRun, Bool.and_eq_true,
    decide_eq_true_eq]
  constructor
  · rintro ⟨run, rfl | ⟨hmem, -⟩, hid, hstatus⟩
    · exact Or.inl hid.symm
    · exact Or.inr ⟨run, hmem, hid, hstatus⟩
  · intro h
    by_cases hother : other = runId
    · exact ⟨_, Or.inl rfl, hother.symm, rfl⟩
    · obtain ⟨run, hmem, hid, hstatus⟩ := h.resolve_left hother
      exact ⟨run, Or.inr ⟨hmem, by rw [hid]; exact hother⟩, hid, hstatus⟩

theorem JobStore.mem_drop {store : JobStore} {target table : String} :
    table ∈ (store.drop target).tables ↔ table ∈ store.tables ∧ table ≠ target := by
  rw [drop, List.mem_filter, decide_eq_true_eq]

/-! ## The invariant -/

/-- What a run, the catalog and the tables say of each other. -/
structure JobRun.Settled (store : JobStore) (run : JobRun) : Prop where
  finalized : run.row.payload.finalized = true →
    run.concluded = true ∧ run.verdict = some run.row.payload.status
  terminal : ∀ final ∈ run.verdict, final.terminal = true
  etl : run.concluded = true → ∃ final ∈ run.verdict, run.etlStatus = etlRunStatus final
  listed : store.lists run.runId = true ↔ run.concluded = true ∧ run.verdict = some .succeeded
  published : run.published = true → run.verdict = some .succeeded
  mapped : store.maps run.target → run.verdict = some .succeeded
  table : run.verdict = some .succeeded → run.target ∈ store.tables

/-- A stage that does not rest on a verdict. -/
def JobStage.Open : JobStage → Prop
  | .top payload => payload.finalized = true → payload.status.terminal = true
  | .fetching payload | .fetched payload _ | .saving payload | .saved payload
  | .cancelling payload => payload.finalized = false
  | .finalizing payload => payload.status.terminal = true
  | .entering | .progressed _ | .describing _ _ | .releasing | .retrying | .done => True
  | .cancelled _ | .cataloguing _ _ | .publishing _ _ _ | .dropping _ _ _ | .discarding _ _ _
  | .concluding _ _ | .committing _ _ _ => False

/-- What the verdict on the run says of a worker at its stage. -/
def JobStage.Sound (run : JobRun) : JobStage → Prop
  | .cancelled payload => run.verdict = some .cancelled ∧ payload.status = .cancelled
  | .cataloguing _ _ | .publishing _ _ _ => run.verdict = some .succeeded
  | .dropping _ _ final | .discarding _ _ final =>
      run.verdict = some final ∧ final ≠ .succeeded
  | .concluding _ final => run.verdict = some final ∧ run.concluded = true
  | .committing (.collect _ _ write) _ next =>
      (∀ payload, write = .save payload → payload.finalized = false) ∧ next.Open
  | .committing (.cancel payload) _ next =>
      payload.finalized = false ∧ ∃ cancelled, next = .cancelled cancelled ∧
        cancelled.status = .cancelled
  | stage => stage.Open

/-- A run with at least the decisions of another state of it. -/
structure JobRun.Follows (before run : JobRun) : Prop where
  runId : run.runId = before.runId
  target : run.target = before.target
  verdict : ∀ final, before.verdict = some final → run.verdict = some final
  concluded : before.concluded = true → run.concluded = true

/-- The invariant of the system. -/
structure SqlJob.Settled (s : SqlJob) : Prop where
  mapped : ∀ table, s.maps table → table ∈ s.tables
  distinct : s.runs.Pairwise fun a b => a.runId ≠ b.runId ∧ a.target ≠ b.target
  runs : ∀ run ∈ s.runs, run.Settled s.toJobStore
  workers : ∀ worker ∈ s.workers, ∃ run, s.runs[worker.run]? = some run ∧ worker.stage.Sound run

section
variable {store next : JobStore} {run after other : JobRun} {stage : JobStage}

theorem JobRun.Follows.refl : run.Follows run where
  runId := rfl
  target := rfl
  verdict := fun _ => id
  concluded := id

theorem JobStage.Open.sound (h : stage.Open) : stage.Sound run := by
  cases stage with
  | cancelled | cataloguing | publishing | dropping | discarding | concluding | committing =>
      exact h.elim
  | _ => exact h

/-- A worker's standing outlasts what the others do to the run. -/
theorem JobStage.Sound.follows (h : stage.Sound run) (hafter : run.Follows after) :
    stage.Sound after := by
  cases stage with
  | cancelled => exact ⟨hafter.verdict _ h.1, h.2⟩
  | cataloguing => exact hafter.verdict _ h
  | publishing => exact hafter.verdict _ h
  | dropping => exact ⟨hafter.verdict _ h.1, h.2⟩
  | discarding => exact ⟨hafter.verdict _ h.1, h.2⟩
  | concluding => exact ⟨hafter.verdict _ h.1, hafter.concluded h.2⟩
  | committing call =>
      cases call with
      | collect => exact h
      | cancel => exact h
  | _ => exact h

/-! ## Changes of the store and of a run -/

/-- The refresh state is nothing to a run's settlement. -/
theorem JobRun.Settled.congr (h : run.Settled store) (hcatalog : next.catalog = store.catalog)
    (htables : next.tables = store.tables) : run.Settled next where
  finalized := h.finalized
  terminal := h.terminal
  etl := h.etl
  listed := by
    rw [JobStore.lists, hcatalog]
    exact h.listed
  published := h.published
  mapped := by
    rw [JobStore.maps, hcatalog]
    exact h.mapped
  table := by
    rw [htables]
    exact h.table

/-- A table is dropped that the run does not rest on. -/
theorem JobRun.Settled.drop (h : run.Settled store) {target : String}
    (hother : run.verdict = some .succeeded → run.target ≠ target) :
    run.Settled (store.drop target) where
  finalized := h.finalized
  terminal := h.terminal
  etl := h.etl
  listed := h.listed
  published := h.published
  mapped := h.mapped
  table := fun hverdict => JobStore.mem_drop.mpr ⟨h.table hverdict, hother hverdict⟩

theorem JobRun.Settled.write (h : run.Settled store) (table : String) :
    run.Settled { store with tables := table :: store.tables } where
  finalized := h.finalized
  terminal := h.terminal
  etl := h.etl
  listed := h.listed
  published := h.published
  mapped := h.mapped
  table := fun hverdict => List.mem_cons_of_mem _ (h.table hverdict)

/-- A finalized payload has ended. -/
theorem JobRun.Settled.ended (h : run.Settled store)
    (hfinalized : run.row.payload.finalized = true) : run.row.payload.status.terminal = true :=
  h.terminal _ (h.finalized hfinalized).2

theorem JobRun.Settled.unfinalized (h : run.Settled store)
    (hactive : run.row.payload.status.terminal = false) : run.row.payload.finalized = false := by
  cases hfinalized : run.row.payload.finalized with
  | false => rfl
  | true =>
      rw [h.ended hfinalized] at hactive
      exact nomatch hactive

/-- A save of a payload that is not finalized. -/
theorem JobRun.Settled.save (h : run.Settled store) {row : RunRow}
    (hpayload : row.payload.finalized = false ∨ row.payload = run.row.payload) :
    JobRun.Settled store { run with row } where
  finalized := by
    intro hfinalized
    rcases hpayload with hopen | hsame
    · rw [show row.payload.finalized = true from hfinalized] at hopen
      exact nomatch hopen
    · have hrun : run.row.payload.finalized = true := by rwa [← hsame]
      rw [hsame]
      exact h.finalized hrun
  terminal := h.terminal
  etl := h.etl
  listed := h.listed
  published := h.published
  mapped := h.mapped
  table := h.table

/-- The first verdict on a run, or the same one again. -/
theorem JobRun.Settled.decide (h : run.Settled store) {final : RunStatus}
    (hagree : ∀ earlier ∈ run.verdict, final = earlier) (hterminal : final.terminal = true)
    (htable : final = .succeeded → run.target ∈ store.tables) :
    JobRun.Settled store { run with verdict := some final } ∧
      run.Follows { run with verdict := some final } := by
  have hsame : ∀ earlier, run.verdict = some earlier → some final = some earlier :=
    fun earlier hearlier => congrArg some (hagree earlier hearlier)
  have hconcluded : run.concluded = true → run.verdict = some final := by
    intro hconcluded
    obtain ⟨earlier, hearlier, -⟩ := h.etl hconcluded
    rw [hagree earlier hearlier]
    exact hearlier
  refine ⟨⟨?_, ?_, ?_, ?_, ?_, ?_, ?_⟩, ⟨rfl, rfl, fun earlier => hsame earlier, id⟩⟩
  · intro hfinalized
    obtain ⟨hdone, hverdict⟩ := h.finalized hfinalized
    exact ⟨hdone, hsame _ hverdict⟩
  · intro earlier hearlier
    obtain rfl := Option.some.inj hearlier
    exact hterminal
  · intro hdone
    obtain ⟨earlier, hearlier, hetl⟩ := h.etl hdone
    exact ⟨earlier, hsame earlier hearlier, hetl⟩
  · rw [h.listed]
    refine and_congr_right fun hdone => ?_
    rw [hconcluded hdone]
  · exact fun hpublished => hsame _ (h.published hpublished)
  · exact fun hmapped => hsame _ (h.mapped hmapped)
  · exact fun hverdict => htable (Option.some.inj hverdict)

/-! ## A worker's step -/

/-- What a worker's step keeps. -/
structure JobWorker.Keeps (s : SqlJob) (run : JobRun) (next : JobStore × JobRun × JobStage) :
    Prop where
  settled : next.2.1.Settled next.1
  follows : run.Follows next.2.1
  stage : next.2.2.Sound next.2.1
  others : ∀ other ∈ s.runs, other.runId ≠ run.runId → other.target ≠ run.target →
    other.Settled next.1
  mapped : ∀ table, next.1.maps table → table ∈ next.1.tables

section
variable {s : SqlJob} {worker : JobWorker} {input : JobInput} {settings : CollectorSettings}

/-- A step that leaves the store. -/
theorem SqlJob.Settled.keeps (h : s.Settled) (hrun : after.Settled s.toJobStore)
    (hfollows : run.Follows after) (hstage : stage.Sound after) :
    JobWorker.Keeps s run (s.toJobStore, after, stage) where
  settled := hrun
  follows := hfollows
  stage := hstage
  others := fun other hother _ _ => h.runs other hother
  mapped := h.mapped

/-- A call of the repository waits for its commit, or there is none. -/
theorem JobWorker.call_sound {write : CollectorWrite} {goesOn otherwise : JobStage}
    (hwrite : ∀ payload, write = .save payload → payload.finalized = false)
    (hgoesOn : goesOn.Open) (hotherwise : otherwise.Open) :
    (worker.call run write goesOn otherwise).Sound run := by
  rw [call]
  split
  · exact ⟨hwrite, hgoesOn⟩
  · exact hotherwise.sound

theorem JobWorker.renew_sound (hnext : stage.Open) :
    (worker.renew settings run input stage).Sound run :=
  call_sound (fun _ h => nomatch h) hnext trivial

/-- The table of a run that is not to be published is dropped. -/
theorem SqlJob.Settled.keeps_drop (h : s.Settled) (hmem : run ∈ s.runs)
    (hverdict : run.verdict ≠ some .succeeded) (hstage : stage.Sound run) (fails : Bool) :
    JobWorker.Keeps s run
      (if fails then s.toJobStore else s.toJobStore.drop run.target, run, stage) := by
  cases fails with
  | true => exact h.keeps (h.runs run hmem) .refl hstage
  | false =>
      refine ⟨(h.runs run hmem).drop (fun hsome => absurd hsome hverdict), .refl, hstage, ?_, ?_⟩
      · exact fun other hother _ htarget => (h.runs other hother).drop fun _ => htarget
      · intro table hmaps
        refine JobStore.mem_drop.mpr ⟨h.mapped table hmaps, ?_⟩
        rintro rfl
        exact hverdict ((h.runs run hmem).mapped hmaps)

/-- A worker comes to its verdict. -/
theorem SqlJob.Settled.keeps_decide (h : s.Settled) (hmem : run ∈ s.runs) {final : RunStatus}
    (hagree : ∀ earlier ∈ run.verdict, final = earlier) (hterminal : final.terminal = true)
    (htable : final = .succeeded → run.target ∈ s.tables)
    (hstage : stage.Sound { run with verdict := some final }) :
    JobWorker.Keeps s run (s.toJobStore, { run with verdict := some final }, stage) :=
  have hdecided := (h.runs run hmem).decide hagree hterminal htable
  h.keeps hdecided.1 hdecided.2 hstage

/-- The run is published. -/
theorem SqlJob.Settled.keeps_publish (h : s.Settled) (hmem : run ∈ s.runs)
    (hverdict : run.verdict = some .succeeded) {existing : JobDataset}
    (hcatalog : ∀ other ∈ s.runs, other.runId ≠ run.runId →
      existing.lists other.runId = s.lists other.runId)
    (payload : RunPayload) (refresh : Option RefreshState) (endedAt : Int) :
    JobWorker.Keeps s run
      ({ s.recordRefresh refresh run.sourceRevision true with
          catalog := some (existing.withRun run.runId run.target endedAt) },
        { run with etlStatus := .success, concluded := true, published := true },
        .concluding payload .succeeded) := by
  have hrun := h.runs run hmem
  have htable := hrun.table hverdict
  refine ⟨⟨?_, hrun.terminal, ?_, ?_, fun _ => hverdict, fun _ => hverdict, fun _ => htable⟩,
    ⟨rfl, rfl, fun _ => id, fun _ => rfl⟩, ⟨hverdict, rfl⟩, ?_, ?_⟩
  · exact fun hfinalized => ⟨rfl, (hrun.finalized hfinalized).2⟩
  · exact fun _ => ⟨.succeeded, hverdict, rfl⟩
  · refine iff_of_true ?_ ⟨rfl, hverdict⟩
    exact JobDataset.lists_withRun.mpr (Or.inl rfl)
  · intro other hother hid htarget
    have hsettled := h.runs other hother
    refine ⟨hsettled.finalized, hsettled.terminal, hsettled.etl, ?_, hsettled.published, ?_,
      hsettled.table⟩
    · rw [← hsettled.listed, ← hcatalog other hother hid]
      exact JobDataset.lists_withRun.trans (or_iff_right hid)
    · rintro ⟨dataset, hdataset, htable⟩
      obtain rfl := Option.some.inj hdataset
      exact absurd (Option.some.inj htable).symm htarget
  · rintro table ⟨dataset, hdataset, hnamed⟩
    obtain rfl := Option.some.inj hdataset
    obtain rfl := Option.some.inj hnamed
    exact htable

/-- The run is given up. -/
theorem SqlJob.Settled.keeps_discard (h : s.Settled) (hmem : run ∈ s.runs) {final : RunStatus}
    (hverdict : run.verdict = some final) (payload : RunPayload)
    (refresh : Option RefreshState) (hfinal : final ≠ .succeeded) :
    JobWorker.Keeps s run
      (s.recordRefresh refresh run.sourceRevision false,
        { run with etlStatus := etlRunStatus final, concluded := true },
        .concluding payload final) := by
  have hrun := h.runs run hmem
  have hnot : run.verdict ≠ some .succeeded := by
    rw [hverdict]
    exact fun hsome => hfinal (Option.some.inj hsome)
  refine ⟨⟨?_, hrun.terminal, ?_, ?_, hrun.published, hrun.mapped, hrun.table⟩,
    ⟨rfl, rfl, fun _ => id, fun _ => rfl⟩, ⟨hverdict, rfl⟩, ?_, h.mapped⟩
  · exact fun hfinalized => ⟨rfl, (hrun.finalized hfinalized).2⟩
  · exact fun _ => ⟨final, hverdict, rfl⟩
  · exact hrun.listed.trans
      ⟨fun hlisted => absurd hlisted.2 hnot, fun hlisted => absurd hlisted.2 hnot⟩
  · exact fun other hother _ _ => (h.runs other hother).congr rfl rfl

/-- The payload is saved as finalized. -/
theorem SqlJob.Settled.keeps_conclude (h : s.Settled) (hmem : run ∈ s.runs) {final : RunStatus}
    (hverdict : run.verdict = some final) (hconcluded : run.concluded = true)
    (payload : RunPayload) :
    JobWorker.Keeps s run (s.toJobStore,
      { run with row := run.row.savePayload (payload.conclude final) }, .done) := by
  have hrun := h.runs run hmem
  exact h.keeps ⟨fun _ => ⟨hconcluded, hverdict⟩, hrun.terminal, hrun.etl, hrun.listed,
    hrun.published, hrun.mapped, hrun.table⟩ ⟨rfl, rfl, fun _ => id, id⟩ trivial

/-- A commit to the run's row. -/
theorem SqlJob.Settled.keeps_commit (h : s.Settled) (hmem : run ∈ s.runs) {call : RowCall}
    {read : RunRow} (hsound : (JobStage.committing call read stage).Sound run)
    (hagree : (∃ payload, call = .cancel payload) →
      ∀ earlier ∈ run.verdict, RunStatus.cancelled = earlier) :
    JobWorker.Keeps s run (s.toJobStore, JobWorker.commitRun run call read, stage) := by
  have hrun := h.runs run hmem
  cases call with
  | collect workerId generation write =>
      refine h.keeps (hrun.save ?_) ⟨rfl, rfl, fun _ => id, id⟩ hsound.2.sound
      cases write with
      | renew => exact Or.inr rfl
      | release => exact Or.inr rfl
      | save payload => exact Or.inl (hsound.1 payload rfl)
      | retry => exact Or.inr rfl
  | cancel payload =>
      obtain ⟨hopen, cancelled, rfl, hstatus⟩ := hsound
      obtain ⟨hdecided, hfollows⟩ :=
        hrun.decide (hagree ⟨payload, rfl⟩) rfl (fun hfalse => nomatch hfalse)
      exact h.keeps (hdecided.save (Or.inl hopen))
        ⟨rfl, rfl, hfollows.verdict, hfollows.concluded⟩ ⟨rfl, hstatus⟩

/-- A payload that is read at the start, or again, goes on. -/
theorem JobWorker.enter_sound (hrun : run.Settled store) :
    (enter run.row.payload).Sound run := by
  rw [enter]
  split
  · trivial
  · split
    · next hended => exact (Bool.and_eq_true_iff.mp hended).1
    · exact hrun.ended

theorem JobWorker.reenter_sound (hrun : run.Settled store) :
    (worker.reenter settings run.row.payload).Sound run := by
  rw [reenter]
  split
  · trivial
  · split
    · trivial
    · exact hrun.ended

/-- A step that goes with those before it keeps the invariant. -/
theorem SqlJob.Settled.advance (h : s.Settled) (hmem : run ∈ s.runs)
    (hsound : worker.stage.Sound run) (hstep : worker.Unanimous s run input) :
    JobWorker.Keeps s run (worker.advance settings s.toJobStore run input) := by
  have hrun := h.runs run hmem
  have hverdict := hstep.verdict
  have stays : ∀ {stage : JobStage}, stage.Sound run →
      JobWorker.Keeps s run (s.toJobStore, run, stage) := fun hstage => h.keeps hrun .refl hstage
  unfold JobWorker.advance
  unfold JobWorker.decides at hverdict
  cases hstage : worker.stage with
  | entering => exact stays (JobWorker.enter_sound hrun)
  | top payload =>
      rw [hstage] at hsound
      refine stays ?_
      split
      · trivial
      · next hgoes =>
          refine JobWorker.renew_sound ?_
          show payload.finalized = false
          cases hfinalized : payload.finalized with
          | false => rfl
          | true =>
              rw [hsound hfinalized, Bool.true_or] at hgoes
              exact absurd rfl hgoes
  | fetching payload =>
      rw [hstage] at hsound
      cases input with
      | proceed => exact stays hsound
      | page => exact stays hsound
      | fail => exact stays trivial
  | fetched payload page =>
      rw [hstage] at hsound
      exact stays (JobWorker.renew_sound hsound)
  | saving updated =>
      rw [hstage] at hsound
      refine stays (JobWorker.call_sound ?_ hsound trivial)
      rintro payload hsave
      obtain rfl := CollectorWrite.save.inj hsave
      exact hsound
  | saved updated =>
      refine h.keeps ⟨hrun.finalized, hrun.terminal, ?_, hrun.listed, hrun.published,
        hrun.mapped, hrun.table⟩ ⟨rfl, rfl, fun _ => id, id⟩ trivial
      intro hconcluded
      obtain ⟨final, hfinal, -⟩ := hrun.etl hconcluded
      refine ⟨final, hfinal, hstep.progress _ ?_ hconcluded final hfinal⟩
      rw [JobWorker.progress, hstage]
      rfl
  | progressed updated =>
      refine stays ?_
      split
      · next hended => exact hended
      · exact JobWorker.reenter_sound hrun
  | cancelling payload =>
      rw [hstage] at hsound
      refine stays ?_
      split
      · exact ⟨hsound, _, rfl, rfl⟩
      · trivial
  | cancelled payload =>
      rw [hstage] at hsound
      refine h.keeps_drop hmem ?_ ?_ input.fails
      · rw [hsound.1]
        exact fun hfalse => nomatch hfalse
      · show payload.status.terminal = true
        rw [hsound.2]
        rfl
  | finalizing payload =>
      rw [hstage] at hsound hverdict
      dsimp only at hverdict ⊢
      split
      · exact stays trivial
      · next hnot =>
          rw [if_neg hnot] at hverdict
          exact h.keeps_decide hmem (hverdict _ rfl) hsound (fun hsome => absurd hsome hnot)
            ⟨rfl, hnot⟩
  | describing payload refresh =>
      rw [hstage] at hverdict
      dsimp only at hverdict ⊢
      cases hfinds : JobWorker.finds s.toJobStore run input with
      | true =>
          rw [hfinds] at hverdict
          refine h.keeps_decide hmem (hverdict _ rfl) rfl (fun _ => ?_) rfl
          exact of_decide_eq_true (Bool.and_eq_true_iff.mp hfinds).2
      | false =>
          rw [hfinds] at hverdict
          exact h.keeps_decide hmem (hverdict _ rfl) rfl (fun hfalse => nomatch hfalse)
            ⟨rfl, fun hfalse => nomatch hfalse⟩
  | cataloguing payload refresh =>
      rw [hstage] at hsound
      exact stays hsound
  | publishing payload refresh existing =>
      rw [hstage] at hsound
      refine h.keeps_publish hmem hsound (hstep.catalog existing ?_) payload _ input.now
      rw [JobWorker.existing, hstage]
      rfl
  | dropping payload refresh final =>
      rw [hstage] at hsound
      have hnext : (JobStage.discarding payload refresh final).Sound run := hsound
      refine h.keeps_drop hmem ?_ hnext input.fails
      rw [hsound.1]
      exact fun hsome => hsound.2 (Option.some.inj hsome)
  | discarding payload refresh final =>
      rw [hstage] at hsound
      exact h.keeps_discard hmem hsound.1 payload _ hsound.2
  | concluding payload final =>
      rw [hstage] at hsound
      exact h.keeps_conclude hmem hsound.1 hsound.2 payload
  | releasing => exact stays (JobWorker.call_sound (fun _ hsave => nomatch hsave) trivial trivial)
  | retrying => exact stays (JobWorker.call_sound (fun _ hsave => nomatch hsave) trivial trivial)
  | committing call read next =>
      rw [hstage] at hsound hverdict
      refine h.keeps_commit hmem hsound ?_
      rintro ⟨payload, rfl⟩
      exact hverdict .cancelled rfl
  | done => exact stays trivial

/-! ## An event -/

/-- A run by its place is itself, or differs in its names. -/
theorem SqlJob.Settled.names_ne (h : s.Settled) {i j : Nat} (hi : s.runs[i]? = some run)
    (hj : s.runs[j]? = some other) (hne : i ≠ j) :
    other.runId ≠ run.runId ∧ other.target ≠ run.target := by
  obtain ⟨hilt, rfl⟩ := List.getElem?_eq_some_iff.mp hi
  obtain ⟨hjlt, rfl⟩ := List.getElem?_eq_some_iff.mp hj
  have hdistinct := List.pairwise_iff_getElem.mp h.distinct
  rcases Nat.lt_or_gt_of_ne hne with hlt | hgt
  · exact ⟨(hdistinct i j hilt hjlt hlt).1.symm, (hdistinct i j hilt hjlt hlt).2.symm⟩
  · exact hdistinct j i hjlt hilt hgt

/-- A run is replaced by a later state of it, and the others keep. -/
theorem SqlJob.Settled.replace (h : s.Settled) {i : Nat} (hi : s.runs[i]? = some run)
    {next : JobStore × JobRun × JobStage} (hkeeps : JobWorker.Keeps s run next)
    {workers : List JobWorker} (hworkers : ∀ worker ∈ workers, worker ∈ s.workers ∨
      worker.run = i ∧ worker.stage.Sound next.2.1) :
    SqlJob.Settled { s with
      toJobStore := next.1, runs := s.runs.set i next.2.1, workers } where
  mapped := hkeeps.mapped
  distinct := by
    refine List.pairwise_iff_getElem.mpr fun j k hj hk hlt => ?_
    simp only [List.length_set] at hj hk
    have hdistinct := List.pairwise_iff_getElem.mp h.distinct j k hj hk hlt
    obtain ⟨hilt, hrun⟩ := List.getElem?_eq_some_iff.mp hi
    simp only [List.getElem_set]
    split
    · next hij =>
        subst hij
        rw [if_neg (by omega), hkeeps.follows.runId, hkeeps.follows.target, ← hrun]
        exact hdistinct
    · split
      · next hik =>
          subst hik
          rw [hkeeps.follows.runId, hkeeps.follows.target, ← hrun]
          exact hdistinct
      · exact hdistinct
  runs := by
    intro other hother
    obtain ⟨j, hj, rfl⟩ := List.getElem_of_mem hother
    rw [List.length_set] at hj
    rw [List.getElem_set]
    split
    · exact hkeeps.settled
    · next hne =>
        obtain ⟨hid, htarget⟩ := h.names_ne hi (List.getElem?_eq_getElem hj) hne
        exact hkeeps.others _ (List.getElem_mem hj) hid htarget
  workers := by
    obtain ⟨hilt, -⟩ := List.getElem?_eq_some_iff.mp hi
    intro worker hworker
    rcases hworkers worker hworker with hold | ⟨rfl, hsound⟩
    · obtain ⟨own, hown, hsound⟩ := h.workers worker hold
      by_cases hsame : i = worker.run
      · subst hsame
        rw [hi] at hown
        obtain rfl := Option.some.inj hown
        refine ⟨next.2.1, ?_, hsound.follows hkeeps.follows⟩
        rw [List.getElem?_set_self hilt]
      · refine ⟨own, ?_, hsound⟩
        rw [List.getElem?_set_ne hsame]
        exact hown
    · refine ⟨next.2.1, ?_, hsound⟩
      rw [List.getElem?_set_self hilt]

/-- New workers at a stage that rests on no verdict. -/
theorem SqlJob.Settled.hire (h : s.Settled) {added : JobWorker} (hi : s.runs[added.run]? = some run)
    (hopen : added.stage.Open) : SqlJob.Settled { s with workers := s.workers ++ [added] } where
  mapped := h.mapped
  distinct := h.distinct
  runs := h.runs
  workers := by
    intro worker hworker
    rcases List.mem_append.mp hworker with hold | hnew
    · exact h.workers worker hold
    · obtain rfl := List.mem_singleton.mp hnew
      exact ⟨run, hi, hopen.sound⟩

/-- A submission is committed under new names. -/
theorem SqlJob.Settled.accept (h : s.Settled) (settings : SqlJobSettings)
    {submission : JobSubmission} (page : TrinoClientPage String)
    (hruns : ∀ run ∈ s.runs, run.runId ≠ submission.runId ∧ run.target ≠ submission.target)
    (hlisted : s.lists submission.runId = false) (hmapped : ¬ s.maps submission.target) :
    (SqlJob.accept settings s submission page).Settled := by
  rw [SqlJob.accept]
  split
  · exact h
  · have hnew : (SqlJob.submittedRun settings submission page).Settled s.toJobStore := by
      refine ⟨(fun hfalse => nomatch hfalse), (fun _ hfalse => nomatch hfalse),
        (fun hfalse => nomatch hfalse), ?_, (fun hfalse => nomatch hfalse),
        (fun hmaps => absurd hmaps hmapped), (fun hfalse => nomatch hfalse)⟩
      refine iff_of_false ?_ (fun hfalse => nomatch hfalse.1)
      rw [show (SqlJob.submittedRun settings submission page).runId = submission.runId from rfl,
        hlisted]
      exact Bool.false_ne_true
    have hsubmitted : SqlJob.Settled { s with
        runs := s.runs ++ [SqlJob.submittedRun settings submission page] } := by
      refine ⟨h.mapped, ?_, ?_, ?_⟩
      · refine List.pairwise_append.mpr ⟨h.distinct, List.pairwise_singleton _ _, ?_⟩
        intro run hrun added hadded
        obtain rfl := List.mem_singleton.mp hadded
        exact hruns run hrun
      · intro run hrun
        rcases List.mem_append.mp hrun with hold | hadded
        · exact h.runs run hold
        · obtain rfl := List.mem_singleton.mp hadded
          exact hnew
      · intro worker hworker
        obtain ⟨run, hrun, hsound⟩ := h.workers worker hworker
        refine ⟨run, ?_, hsound⟩
        rw [List.getElem?_append_left (List.getElem?_eq_some_iff.mp hrun).1]
        exact hrun
    dsimp only
    split
    · next hended =>
        have hlast : (s.runs ++ [SqlJob.submittedRun settings submission page])[s.runs.length]? =
            some (SqlJob.submittedRun settings submission page) := List.getElem?_concat_length ..
        exact hsubmitted.hire hlast hended
    · exact hsubmitted

theorem SqlJob.acting_act {k : Nat} (hworker : s.workers[k]? = some worker)
    (hrun : s.runs[worker.run]? = some run) :
    (worker, run, input) ∈ s.acting (.act k input) := by
  rw [SqlJob.acting, hworker, Option.bind_some, hrun]
  rfl

/-- An event that goes with those before it keeps the invariant. -/
theorem SqlJob.Settled.step (h : s.Settled) (settings : SqlJobSettings) (event : JobEvent)
    (hfresh : FreshNames s event) (hstep : Unanimous s event) :
    (s.step settings event).Settled := by
  cases event with
  | submit submission =>
      rw [SqlJob.step]
      split
      · exact h
      · exact ⟨h.mapped, h.distinct, h.runs, h.workers⟩
  | accept k page =>
      rw [SqlJob.step]
      cases hk : s.submissions[k]? with
      | none => exact h
      | some submission =>
          obtain ⟨hruns, hlisted, hmapped, -⟩ := hfresh submission hk
          have hfewer : SqlJob.Settled { s with submissions := s.submissions.eraseIdx k } :=
            ⟨h.mapped, h.distinct, h.runs, h.workers⟩
          exact hfewer.accept settings page hruns hlisted hmapped
  | refuse k => exact ⟨h.mapped, h.distinct, h.runs, h.workers⟩
  | write i =>
      rw [SqlJob.step]
      cases hi : s.runs[i]? with
      | none => exact h
      | some run =>
          refine ⟨fun table hmaps => List.mem_cons_of_mem _ (h.mapped table hmaps), h.distinct,
            fun other hother => (h.runs other hother).write run.target, h.workers⟩
  | claim i workerId now =>
      rw [SqlJob.step]
      cases hi : s.runs[i]? with
      | none => exact h
      | some run =>
          rw [Option.elim]
          split
          · exact h
          · next row hclaim =>
              have hpayload : row.payload = run.row.payload := by
                rw [(RunRow.claim_eq_some hclaim).2]
              have hclaimed : JobWorker.Keeps s run (s.toJobStore, { run with row },
                  JobStage.entering) :=
                h.keeps ((h.runs run (List.mem_of_getElem? hi)).save (Or.inr hpayload))
                  ⟨rfl, rfl, fun _ => id, id⟩ trivial
              refine h.replace hi hclaimed ?_
              intro worker hworker
              rcases List.mem_append.mp hworker with hold | hnew
              · exact Or.inl hold
              · obtain rfl := List.mem_singleton.mp hnew
                exact Or.inr ⟨rfl, trivial⟩
  | cancel i =>
      rw [SqlJob.step]
      cases hi : s.runs[i]? with
      | none => exact h
      | some run =>
          rw [Option.elim]
          split
          · exact h
          · next hactive =>
              exact h.hire hi ((h.runs run (List.mem_of_getElem? hi)).unfinalized
                (Bool.eq_false_iff.mpr hactive))
  | act k input =>
      rw [SqlJob.step]
      cases hworker : s.workers[k]? with
      | none => exact h
      | some worker =>
          obtain ⟨run, hi, hsound⟩ := h.workers worker (List.mem_of_getElem? hworker)
          rw [Option.elim, hi, Option.elim]
          have hgoes := hstep _ (SqlJob.acting_act hworker hi)
          refine h.replace hi (h.advance (List.mem_of_getElem? hi) hsound hgoes) ?_
          intro other hother
          rcases List.mem_or_eq_of_mem_set hother with hold | rfl
          · exact Or.inl hold
          · exact Or.inr ⟨rfl,
              (h.advance (List.mem_of_getElem? hi) hsound hgoes).stage⟩
  | crash k =>
      rw [SqlJob.step]
      cases hworker : s.workers[k]? with
      | none => exact h
      | some worker =>
          refine ⟨h.mapped, h.distinct, h.runs, ?_⟩
          intro other hother
          rcases List.mem_or_eq_of_mem_set hother with hold | rfl
          · exact h.workers other hold
          · obtain ⟨run, hi, -⟩ := h.workers worker (List.mem_of_getElem? hworker)
            exact ⟨run, hi, trivial⟩
  | refresh latestRevision =>
      rw [SqlJob.step]
      split
      · exact h
      · exact ⟨h.mapped, h.distinct, fun run hrun => (h.runs run hrun).congr rfl rfl, h.workers⟩
  | refreshFailed =>
      exact ⟨h.mapped, h.distinct, fun run hrun => (h.runs run hrun).congr rfl rfl, h.workers⟩

/-- What the invariant says of the tables. -/
theorem SqlJob.Settled.upheld (h : s.Settled) : TablesUpheld s where
  mapped := h.mapped
  kept := fun run hrun hpublished => (h.runs run hrun).table ((h.runs run hrun).published hpublished)
  agrees := by
    intro run hrun hfinalized
    obtain ⟨hconcluded, hverdict⟩ := (h.runs run hrun).finalized hfinalized
    obtain ⟨final, hfinal, hetl⟩ := (h.runs run hrun).etl hconcluded
    obtain rfl : run.row.payload.status = final := by
      rw [hverdict] at hfinal
      exact Option.some.inj hfinal
    refine ⟨hetl, (h.runs run hrun).listed.trans ?_⟩
    rw [hverdict, Option.some_inj]
    exact and_iff_right hconcluded

/-! ## Runs of events -/

/-- A job without runs, whose dataset, if there is one, names a table that exists. -/
theorem SqlJob.settled_new {store : JobStore} (hstore : ∀ table, store.maps table →
    table ∈ store.tables) : SqlJob.Settled { toJobStore := store } where
  mapped := hstore
  distinct := List.Pairwise.nil
  runs := fun _ hrun => nomatch hrun
  workers := fun _ hworker => nomatch hworker

end

end

def goldSettings : SqlJobSettings where
  leaseSeconds := 30
  pagesPerLease := 10
  baseDatasetId := "dataset-orders"
  datasetId := "dataset-gold"

def goldSubmission : JobSubmission where
  runId := "run_sql_1"
  target := "gold_1"
  statement := "CREATE TABLE gold_1 AS SELECT * FROM orders"

/-- A worker takes some steps in which nothing fails. -/
def works (k count : Nat) (now : Int) : List JobEvent :=
  List.replicate count (.act k (.proceed now))

/-- A collector publishes the run. -/
def goldPublished : List JobEvent :=
  [.submit goldSubmission, .accept 0 goldStarted, .write 0, .claim 0 "worker-a" 0] ++
    works 0 3 1 ++ [.act 0 (.page goldFinished)] ++ works 0 10 2

/-- It stops before it has saved that it has, and the next one cannot reach Trino. -/
def goldVerifiedTwice : List JobEvent :=
  goldPublished ++ [.crash 0, .claim 0 "worker-b" 3] ++ works 1 2 3 ++ [.act 1 (.fail 4)] ++
    works 1 3 5

end AskLake.Trino

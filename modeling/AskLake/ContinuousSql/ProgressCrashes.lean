/-
# `AskLake.ContinuousSql.ProgressCrashes` — a report that is published by halves

A call of `reconcileProgress` that publishes commits twice, and the process may stop in
between.  Then the revision is there and its batch is still `output_committed`:

    same report again    the run id is found, the batch becomes dashboard_ready
    any other report     another run id: another revision, or nothing to publish

so that the batch is finished by a call with the same report, and by no other.  What holds
whatever is reported is `Halfway`: each batch has its revision and each revision its batch, the
offsets of the revisions follow one another, and their row counts add up to the catalog's.
-/
import AskLake.ContinuousSql.ClickHousePublication
import AskLake.Dashboard.StreamOrder

namespace AskLake.ContinuousSql

open AskLake.Lib AskLake.Python AskLake.Kafka AskLake.Events AskLake.Dashboard

/-! ## Calls, and where they stop -/

/-- A call; `cut` is the number of commits after which the process stops. -/
structure ProgressCall where
  report : ProgressReport
  now : String := ""
  cut : Option Nat := none

namespace ProgressCall

def progress (call : ProgressCall) : List ProgressItem :=
  normalizeClickhouseProgress call.report.clickhouseOffsets

/-- The output row count of a report that says something. -/
def outputRowCount (call : ProgressCall) : Option Nat :=
  if call.progress = [] then none
  else (normalizeOutputRowCount call.report.clickhouseOutputRowCount
    (call.progress.map ProgressItem.rowCount).sum).toOption

/-- A report after another has no fewer rows; the offsets may be any. -/
def Follows (earlier later : ProgressCall) : Prop :=
  ∀ m n, earlier.outputRowCount = some m → later.outputRowCount = some n → m ≤ n

end ProgressCall

/-- The store, and the calls so far. -/
structure ProgressHistory where
  store : ProgressStore := {}
  past : List ProgressCall := []

namespace ProgressHistory

section
variable (env : Deployment) (job : ClickHouseJob) (run : ClickHouseRun)

def answer (h : ProgressHistory) (call : ProgressCall) : Reconciled :=
  reconcileProgress env job run call.report call.now h.store

/-- What a call leaves behind. -/
def attempt (h : ProgressHistory) (call : ProgressCall) : ProgressStore :=
  match call.cut with
  | none => (h.answer env job run call).1.getLastD h.store
  | some commits => ((h.answer env job run call).1.take commits).getLastD h.store

def step (h : ProgressHistory) (call : ProgressCall) : ProgressHistory :=
  ⟨h.attempt env job run call, h.past ++ [call]⟩

/-- No crash, and nothing raised. -/
def Completes (h : ProgressHistory) (call : ProgressCall) : Prop :=
  call.cut = none ∧ ∃ batch, (h.answer env job run call).2 = .ok batch

end

/-! ## What a completed call leaves -/

/-- The partition's key, in the topic of the job. -/
def partitionKey (job : ClickHouseJob) (partition : Nat) : PartitionKey :=
  (strip job.topic, partition)

/-- The offsets of the revisions on one partition, revision after revision. -/
def offsets (job : ClickHouseJob) (live : Db) (partition : Nat) : List (Int × Int) :=
  (streamRanges live job.outputDatasetId (partitionKey job partition)).map fun r =>
    (r.startOffset, r.endOffset)

def cursorAt (job : ClickHouseJob) (live : Db) (partition : Nat) : Option Int :=
  (live.cursors (cursorKey job.outputDatasetId (partitionKey job partition))).map
    StreamCursor.nextOffset

/-- The revisions lead from the first offset that was reported to the cursor. -/
def Tiled (job : ClickHouseJob) (h : ProgressHistory) (partition : Nat) : Prop :=
  match cursorAt job h.store.live partition with
  | none => offsets job h.store.live partition = []
  | some cursor => ∃ call ∈ h.past, ∃ item ∈ call.progress, item.partition = partition ∧
      Linked (item.minOffset : Int) (offsets job h.store.live partition) cursor

/-- The rows of all revisions are those of the catalog. -/
def Counted (h : ProgressHistory) : Prop :=
  (h.store.live.commits.map RevisionCommit.rowCount).sum =
    h.store.catalog.elim 0 ProgressPayload.clickhouseOutputRowCount

/-- Each revision has one batch, which is on the dashboard and names it; no batch is left; the
offsets and the row counts add up. -/
structure Consistent (job : ClickHouseJob) (h : ProgressHistory) : Prop where
  batch : ∀ commit ∈ h.store.live.commits, ∃ batch,
    (h.store.batches.filter fun row => row.outputCommitId = commit.runId) = [batch] ∧
      batch.stage = .dashboardReady ∧ batch.datasetRevision = some commit.revision
  none_left : ∀ batch ∈ h.store.batches, batch.stage ≠ .outputCommitted
  tiled : ∀ partition, Tiled job h partition
  counted : Counted h

section
variable (env : Deployment) (job : ClickHouseJob) (run : ClickHouseRun)

/-- A call that completes leaves everything consistent. -/
def Published (h : ProgressHistory) (call : ProgressCall) : Prop :=
  h.Completes env job run call → Consistent job (h.step env job run call)

/-- A call that completes reports what the batches that are left were staged for. -/
def Recognised (h : ProgressHistory) (call : ProgressCall) : Prop :=
  h.Completes env job run call → ∀ batch ∈ h.store.batches, batch.stage = .outputCommitted →
    call.progress ≠ [] ∧ batch.outputCommitId = publicationRunId env.toRuntime job run call.progress

/-- The ranges of a new revision are among those whose digests are told apart. -/
def Digested (texts : Set String) (h : ProgressHistory) (call : ProgressCall) : Prop :=
  ∀ ranges, normalizeKafkaSourceRanges (.list (newSourceRanges h.store.live job.outputDatasetId
    (strip job.topic) call.progress)) true = .ok ranges → ranges.canonicalText ∈ texts

/-- One item for each partition, after the reports so far, with ranges of the run. -/
structure Admitted (texts : Set String) (h : ProgressHistory) (call : ProgressCall) : Prop where
  partitions : (call.progress.map ProgressItem.partition).Nodup
  follows : ∀ earlier ∈ h.past, earlier.Follows call
  digested : h.Digested job texts call

end

/-- What holds at any time: the stores' rows fit, though some batch may not be on the dashboard. -/
structure Halfway (rt : Runtime) (job : ClickHouseJob) (texts : Set String)
    (h : ProgressHistory) : Prop where
  sound : Sound rt texts h.store.live
  dataset : ∀ commit ∈ h.store.live.commits, commit.datasetId = job.outputDatasetId
  runIds : (h.store.live.commits.map RevisionCommit.runId).Nodup
  staged : ∀ commit ∈ h.store.live.commits, ∃ batch ∈ h.store.batches,
    batch.outputCommitId = commit.runId
  recorded : ∀ batch ∈ h.store.batches, ∃ commit ∈ h.store.live.commits,
    batch.outputCommitId = commit.runId ∧ (batch.stage = .outputCommitted ∨
      batch.stage = .dashboardReady ∧ batch.datasetRevision = some commit.revision)
  commitIds : (h.store.batches.map ProgressBatch.outputCommitId).Nodup
  batchIds : (h.store.batches.map ProgressBatch.batchId).Nodup
  tiled : ∀ partition, Tiled job h partition
  counted : Counted h
  catalog : ∀ payload, h.store.catalog = some payload → ∃ call ∈ h.past,
    call.outputRowCount = some payload.clickhouseOutputRowCount

section
variable {rt : Runtime} {job : ClickHouseJob} {texts : Set String} {h : ProgressHistory}

theorem lt_next {batch : ProgressBatch} (hbatch : batch ∈ h.store.batches) :
    batch.batchId < h.store.nextBatchId := by
  unfold ProgressStore.nextBatchId
  have hmem : batch.batchId ∈ h.store.batches.map ProgressBatch.batchId :=
    List.mem_map_of_mem hbatch
  cases hmax : (h.store.batches.map ProgressBatch.batchId).max? with
  | none =>
      rw [List.max?_eq_none_iff.mp hmax] at hmem
      exact nomatch hmem
  | some last => exact Nat.lt_succ_of_le ((List.max?_eq_some_iff.mp hmax).2 _ hmem)

/-! ## The ready mark -/

/-- More calls in the past. -/
theorem Tiled.later {partition : Nat} (ht : Tiled job h partition) (call : ProgressCall) :
    Tiled job ⟨h.store, h.past ++ [call]⟩ partition := by
  unfold Tiled at ht ⊢
  cases hcursor : cursorAt job h.store.live partition with
  | none =>
      rw [hcursor] at ht
      exact ht
  | some cursor =>
      rw [hcursor] at ht
      obtain ⟨earlier, hearlier, hitem⟩ := ht
      exact ⟨earlier, List.mem_append_left _ hearlier, hitem⟩

theorem Halfway.later (hs : Halfway rt job texts h) (call : ProgressCall) :
    Halfway rt job texts ⟨h.store, h.past ++ [call]⟩ where
  sound := hs.sound
  dataset := hs.dataset
  runIds := hs.runIds
  staged := hs.staged
  recorded := hs.recorded
  commitIds := hs.commitIds
  batchIds := hs.batchIds
  tiled partition := (hs.tiled partition).later call
  counted := hs.counted
  catalog payload hpayload := by
    obtain ⟨earlier, hearlier, hcount⟩ := hs.catalog payload hpayload
    exact ⟨earlier, List.mem_append_left _ hearlier, hcount⟩

/-- The rows after the batch of a revision is marked. -/
structure Marked (before after : ProgressStore) (commit : RevisionCommit) : Prop where
  live : after.live = before.live
  catalog : after.catalog = before.catalog
  left : ∀ row ∈ after.batches, row.stage = .outputCommitted →
    row ∈ before.batches ∧ row.outputCommitId ≠ commit.runId
  kept : ∀ row ∈ before.batches, row.outputCommitId ≠ commit.runId → row ∈ after.batches

theorem Halfway.ready (hs : Halfway rt job texts h) {commit : RevisionCommit}
    {batch fresh : ProgressBatch} (hcommit : commit ∈ h.store.live.commits)
    (hbatch : batch ∈ h.store.batches) (hid : batch.outputCommitId = commit.runId) :
    Halfway rt job texts
        ⟨(readyProgress h.store batch.batchId commit.revision fresh).1, h.past⟩ ∧
      Marked h.store (readyProgress h.store batch.batchId commit.revision fresh).1 commit := by
  have hget : h.store.getBatch batch.batchId = some batch :=
    find?_eq_of_nodup_map hs.batchIds hbatch rfl
  have hready : (readyProgress h.store batch.batchId commit.revision fresh).1 =
      { h.store with
        batches := updateWhere (fun row => row.batchId = batch.batchId)
          (fun row => readyBatch row commit.revision) h.store.batches } := by
    rw [readyProgress, hget]
  rw [hready]
  have hsame : ∀ row ∈ h.store.batches, row.batchId = batch.batchId → row = batch :=
    fun row hrow heq => eq_of_nodup_map hs.batchIds hrow hbatch heq
  have hcommitIds := @map_updateWhere _ _ (fun row : ProgressBatch => row.batchId = batch.batchId)
    (fun row => readyBatch row commit.revision) ProgressBatch.outputCommitId (fun _ => rfl)
    h.store.batches
  have hbatchIds := @map_updateWhere _ _ (fun row : ProgressBatch => row.batchId = batch.batchId)
    (fun row => readyBatch row commit.revision) ProgressBatch.batchId (fun _ => rfl)
    h.store.batches
  have hrows : ∀ row ∈ updateWhere (fun row => row.batchId = batch.batchId)
      (fun row => readyBatch row commit.revision) h.store.batches,
      row = readyBatch batch commit.revision ∨
        row ∈ h.store.batches ∧ row.outputCommitId ≠ commit.runId := by
    intro row hrow
    rcases mem_updateWhere_iff.mp hrow with ⟨hmem, hother⟩ | ⟨old, hold, hkey, rfl⟩
    · refine Or.inr ⟨hmem, fun heq => ?_⟩
      have : row = batch := eq_of_nodup_map hs.commitIds hmem hbatch (heq.trans hid.symm)
      rw [this] at hother
      simp at hother
    · rw [hsame old hold (by simpa using hkey)]
      exact Or.inl rfl
  refine ⟨?_, ?_⟩
  · refine ⟨hs.sound, hs.dataset, hs.runIds, ?_, ?_, ?_, ?_, hs.tiled, hs.counted, hs.catalog⟩
    · intro other hother
      obtain ⟨staged, hstaged, heq⟩ := hs.staged other hother
      have hmem : staged.outputCommitId ∈ (updateWhere
          (fun row : ProgressBatch => row.batchId = batch.batchId)
          (fun row => readyBatch row commit.revision) h.store.batches).map
            ProgressBatch.outputCommitId := by
        rw [hcommitIds]
        exact List.mem_map_of_mem hstaged
      obtain ⟨row, hrow, hrowId⟩ := List.mem_map.mp hmem
      exact ⟨row, hrow, hrowId.trans heq⟩
    · intro row hrow
      rcases hrows row hrow with rfl | ⟨hmem, -⟩
      · exact ⟨commit, hcommit, hid, Or.inr ⟨rfl, rfl⟩⟩
      · exact hs.recorded row hmem
    · exact hcommitIds ▸ hs.commitIds
    · exact hbatchIds ▸ hs.batchIds
  · refine ⟨rfl, rfl, ?_, ?_⟩
    · intro row hrow hleft
      rcases hrows row hrow with rfl | hmem
      · exact nomatch hleft
      · exact hmem
    · intro row hrow hne
      refine mem_updateWhere_iff.mpr (Or.inl ⟨hrow, ?_⟩)
      have : row.batchId ≠ batch.batchId := by
        intro heq
        rw [hsame row hrow heq] at hne
        exact hne hid
      simpa using this

/-! ## The ranges of a new revision -/

/-- A range that goes on where its partition stands. -/
structure Continues (job : ClickHouseJob) (live : Db) (item : ProgressItem) (r : KafkaRange) :
    Prop where
  key : r.key = partitionKey job item.partition
  start : r.startOffset = progressStart live job.outputDatasetId (strip job.topic) item
  reach : r.endOffset = item.maxOffset + 1

variable {live : Db} {progress : List ProgressItem} {ranges : KafkaRanges}

theorem normalizeItem_progressRange {item : ProgressItem} {document : RangeItem} {r : KafkaRange}
    (hdocument : progressRange live job.outputDatasetId (strip job.topic) item = some document)
    (hr : normalizeItem document = .ok r) : Continues job live item r := by
  unfold progressRange at hdocument
  simp only at hdocument
  split at hdocument
  · cases hdocument
  · cases hdocument
    simp only [normalizeItem] at hr
    split at hr
    · cases hr
    · split at hr
      · cases hr
      · split at hr
        · cases hr
        · cases Except.ok.inj hr
          refine ⟨?_, rfl, rfl⟩
          simp only [KafkaRange.key, partitionKey, strip_strip]

/-- Each range is of one item of the report. -/
theorem continues_of_mem (hranges : normalizeKafkaSourceRanges (.list (newSourceRanges live
      job.outputDatasetId (strip job.topic) progress)) true = .ok ranges)
    {r : KafkaRange} (hr : r ∈ ranges.items) : ∃ item ∈ progress, Continues job live item r := by
  obtain ⟨normalized, hforall, hperm⟩ := normalizeKafkaSourceRanges_perm hranges
  obtain ⟨document, hdocument, hnormal⟩ := exists_left_of_mem hforall (hperm.mem_iff.mp hr)
  obtain ⟨item, hitem, hrange⟩ := List.mem_filterMap.mp hdocument
  exact ⟨item, hitem, normalizeItem_progressRange hrange hnormal⟩

theorem partitionKey_inj {p q : Nat} : partitionKey job p = partitionKey job q ↔ p = q := by
  simp only [partitionKey, Prod.mk.injEq, true_and, Int.natCast_inj]

/-- On each partition there is one range, or none. -/
theorem rangesOn (hpartitions : (progress.map ProgressItem.partition).Nodup)
    (hranges : normalizeKafkaSourceRanges (.list (newSourceRanges live
      job.outputDatasetId (strip job.topic) progress)) true = .ok ranges) (partition : Nat) :
    (ranges.items.filter fun r => r.key = partitionKey job partition) = [] ∨
      ∃ item ∈ progress, item.partition = partition ∧ ∃ r, Continues job live item r ∧
        (ranges.items.filter fun r => r.key = partitionKey job partition) = [r] := by
  have hmem : ∀ r ∈ ranges.items.filter fun r => r.key = partitionKey job partition,
      ∃ item ∈ progress, item.partition = partition ∧ Continues job live item r := by
    intro r hr
    obtain ⟨hr, hkey⟩ := List.mem_filter.mp hr
    obtain ⟨item, hitem, hcontinues⟩ := continues_of_mem hranges hr
    refine ⟨item, hitem, (@partitionKey_inj job _ _).mp ?_, hcontinues⟩
    rw [← hcontinues.key]
    simpa using hkey
  have hdisjoint := ranges.disjoint.filter fun r => r.key = partitionKey job partition
  rcases hfilter : ranges.items.filter fun r => r.key = partitionKey job partition with
    _ | ⟨r, _ | ⟨r', rest⟩⟩
  · exact Or.inl hfilter
  · obtain ⟨item, hitem, hpartition, hcontinues⟩ := hmem r (hfilter ▸ List.mem_cons_self)
    exact Or.inr ⟨item, hitem, hpartition, r, hcontinues, hfilter⟩
  · -- two ranges of one item would overlap
    obtain ⟨item, hitem, hpartition, hcontinues⟩ := hmem r (hfilter ▸ List.mem_cons_self)
    obtain ⟨item', hitem', hpartition', hcontinues'⟩ := hmem r'
      (hfilter ▸ List.mem_cons_of_mem _ List.mem_cons_self)
    have hsame : item = item' :=
      eq_of_nodup_map hpartitions hitem hitem' (hpartition.trans hpartition'.symm)
    subst hsame
    rw [hfilter] at hdisjoint
    have hbefore := (List.pairwise_cons.mp hdisjoint).1 r' List.mem_cons_self
      (hcontinues.key.trans hcontinues'.key.symm)
    have := r.nonempty
    have hstart := hcontinues.start.trans hcontinues'.start.symm
    omega

/-! ## The new revision -/

theorem progressStart_eq (item : ProgressItem) :
    progressStart live job.outputDatasetId (strip job.topic) item =
      (cursorAt job live item.partition).getD item.minOffset := rfl

/-- A revision moves each of its partitions on to its end, and no other. -/
theorem tiled_after {live' : Db} {env : Deployment} {commit : RevisionCommit}
    {request : CommitRequest} {call : ProgressCall} (hs : Halfway rt job texts h)
    (hpartitions : (call.progress.map ProgressItem.partition).Nodup)
    (hranges : normalizeKafkaSourceRanges (.list (newSourceRanges h.store.live
      job.outputDatasetId (strip job.topic) call.progress)) true = .ok ranges)
    (hdataset : request.datasetId = job.outputDatasetId) (hkind : request.commitKind = .stream)
    (hrec : Recorded env h.store.live request ranges live' commit)
    (partition : Nat) (store : ProgressStore) (hstore : store.live = live') :
    Tiled job ⟨store, h.past ++ [call]⟩ partition := by
  have hcursors := hrec.cursors
  rw [cursorsAfter, if_pos hkind, hdataset] at hcursors
  have hcursor := advance_cursor hcursors (partitionKey job partition)
  have hcommit := hrec.commit_eq
  have hstream : commit.datasetId = job.outputDatasetId ∧ commit.commitKind = .stream := by
    rw [hcommit]
    exact ⟨hdataset, hkind⟩
  have hrows : rangesAt commit (partitionKey job partition) =
      ranges.items.filter fun r => r.key = partitionKey job partition := by
    rw [hcommit]
    rfl
  have hoffsets : offsets job live' partition = offsets job h.store.live partition ++
      (ranges.items.filter fun r => r.key = partitionKey job partition).map
        fun r => (r.startOffset, r.endOffset) := by
    rw [offsets, streamRanges_append hrec.commits_eq, if_pos hstream, List.map_append, hrows]
    rfl
  have hold := hs.tiled partition
  unfold Tiled at hold ⊢
  simp only [hstore]
  rcases rangesOn hpartitions hranges partition with hnone | ⟨item, hitem, hpartition, r, hr, hone⟩
  · -- nothing new on this partition
    rw [hoffsets, hnone, List.map_nil, List.append_nil]
    have hsame : cursorAt job live' partition = cursorAt job h.store.live partition := by
      rw [spanAt, hnone] at hcursor
      exact congrArg (Option.map StreamCursor.nextOffset) hcursor
    rw [hsame]
    cases hat : cursorAt job h.store.live partition with
    | none =>
        rw [hat] at hold
        exact hold
    | some cursor =>
        rw [hat] at hold
        obtain ⟨earlier, hearlier, hlinked⟩ := hold
        exact ⟨earlier, List.mem_append_left _ hearlier, hlinked⟩
  · rw [hoffsets, hone, List.map_singleton]
    rw [spanAt, hone] at hcursor
    have hstart : r.startOffset = (cursorAt job h.store.live partition).getD item.minOffset := by
      rw [hr.start, progressStart_eq, hpartition]
    have hnonempty := r.nonempty
    cases hat : cursorAt job h.store.live partition with
    | none =>
        have hrow : h.store.live.cursors (cursorKey job.outputDatasetId
            (partitionKey job partition)) = none := Option.map_eq_none_iff.mp hat
        have hnew : cursorAt job live' partition = some r.endOffset := by
          rw [cursorAt, hcursor, hrow]
          rfl
        rw [hat] at hold hstart
        rw [hnew, hold, List.nil_append]
        exact ⟨call, List.mem_append_right _ (List.mem_singleton_self call), item, hitem, hpartition,
          hstart, lt_of_eq_of_lt (Eq.symm hstart) hnonempty, rfl⟩
    | some cursor =>
        obtain ⟨row, hrow, hrowOffset⟩ := Option.map_eq_some_iff.mp hat
        rw [hat] at hold hstart
        have hlt : cursor < r.endOffset := by
          rw [← show r.startOffset = cursor from hstart]
          exact hnonempty
        have hnew : cursorAt job live' partition = some r.endOffset := by
          rw [cursorAt, hcursor, hrow]
          show some (max row.nextOffset r.endOffset) = some r.endOffset
          rw [hrowOffset, max_eq_right hlt.le]
        rw [hnew]
        obtain ⟨earlier, hearlier, first, hfirst, hfirstPartition, hlinked⟩ := hold
        refine ⟨earlier, List.mem_append_left _ hearlier, first, hfirst, hfirstPartition,
          hlinked.append ⟨hstart, hlt, rfl⟩⟩

/-! ## The three ways of a call -/

/-- A report that is not known, and has new offsets: the two stores of its commits. -/
structure Publishes (env : Deployment) (job : ClickHouseJob) (run : ClickHouseRun)
    (h : ProgressHistory) (call : ProgressCall) (evidence : ProgressEvidence)
    (saved ready : ProgressStore) (commit : RevisionCommit) : Prop where
  reported : call.progress ≠ []
  unknown : commitByRunId h.store.live (publicationRunId env.toRuntime job run call.progress) = none
  rows : call.outputRowCount = some evidence.outputRowCount
  evidence_eq : evidence = progressEvidence env job run call.progress evidence.outputRowCount
    (strip job.topic) call.now h.store
  record : ∃ live created, recordDatasetCommit env h.store.live h.store.live
      (progressRequest job evidence) = .ok (live, commit, created) ∧
    saved = ⟨live, h.store.batches ++ [stagedBatch job run evidence],
      if created = true ∨ h.store.catalog.isSome = true then
        some (progressPayload job run evidence h.store.catalog) else none⟩
  ready_eq : ∃ fresh, ready = (readyProgress saved evidence.batchId commit.revision fresh).1

/-- A report whose revision is there. -/
structure Recovers (env : Deployment) (job : ClickHouseJob) (run : ClickHouseRun)
    (h : ProgressHistory) (call : ProgressCall) (ready : ProgressStore)
    (commit : RevisionCommit) : Prop where
  reported : call.progress ≠ []
  known : commitByRunId h.store.live (publicationRunId env.toRuntime job run call.progress) =
    some commit
  ready_eq : ∃ fresh, ready = (readyProgress h.store
    (((h.store.batchByOutputCommitId (publicationRunId env.toRuntime job run
      call.progress)).map ProgressBatch.batchId).getD h.store.nextBatchId) commit.revision fresh).1

inductive Answers (env : Deployment) (job : ClickHouseJob) (run : ClickHouseRun)
    (h : ProgressHistory) (call : ProgressCall) : Reconciled → Prop
  | raises (e : Error) : Answers env job run h call ([], .error e)
  | nothing (hnew : call.progress ≠ [] →
      commitByRunId h.store.live (publicationRunId env.toRuntime job run call.progress) = none) :
      Answers env job run h call ([], .ok none)
  | recovers (ready : ProgressStore) (commit : RevisionCommit) (batch : ProgressBatch)
      (hrecovers : Recovers env job run h call ready commit) :
      Answers env job run h call ([ready], .ok (some batch))
  | publishes (evidence : ProgressEvidence) (saved ready : ProgressStore)
      (commit : RevisionCommit) (batch : ProgressBatch)
      (hpublishes : Publishes env job run h call evidence saved ready commit) :
      Answers env job run h call ([saved, ready], .ok (some batch))

variable {env : Deployment} {run : ClickHouseRun} {call : ProgressCall}

/-- A second attempt meets the revisions of the first one, and ends like it. -/
theorem saveProgress_eq_ok {payload : ProgressPayload} {request : CommitRequest}
    {staged store saved : ProgressStore} {commit : RevisionCommit} (hlive : staged.live = store.live)
    (h : saveProgress env payload request staged store = .ok (saved, commit)) :
    saveProgressOnce env payload request staged = .ok (saved, commit) := by
  unfold saveProgress at h
  split at h
  · rename_i e hfirst
    -- the first attempt raised in `record_dataset_commit`, and so does the second
    exfalso
    obtain ⟨⟨live, commit', created⟩, hrecord, -⟩ := bind_eq_ok.mp h
    rw [← hlive] at hrecord
    rw [saveProgressOnce, hrecord] at hfirst
    exact nomatch hfirst
  · exact h

theorem stageOutputBatch_new {batch : ProgressBatch}
    (hnew : ∀ row ∈ h.store.batches, row.batchId ≠ batch.batchId) :
    stageOutputBatch h.store batch =
      .ok { h.store with batches := h.store.batches ++ [batch] } := by
  have hnone : h.store.getBatch batch.batchId = none :=
    List.find?_eq_none.mpr fun row hrow => by simpa using hnew row hrow
  rw [stageOutputBatch, hnone]

theorem answers (h : ProgressHistory) (call : ProgressCall) :
    Answers env job run h call (h.answer env job run call) := by
  have hprogress : normalizeClickhouseProgress call.report.clickhouseOffsets = call.progress := rfl
  unfold answer reconcileProgress
  simp only [hprogress]
  split
  · rename_i hempty
    exact .nothing fun hreported => absurd hempty hreported
  · rename_i hreported
    cases hrows : normalizeOutputRowCount call.report.clickhouseOutputRowCount
        (call.progress.map ProgressItem.rowCount).sum with
    | error e => exact .raises e
    | ok outputRowCount =>
        have hcount : call.outputRowCount = some outputRowCount := by
          rw [ProgressCall.outputRowCount, if_neg hreported, hrows]
          rfl
        simp only [reconcileNormalized]
        split
        · exact .raises _
        · split
          · rename_i existing hknown
            exact .recovers _ existing _ ⟨hreported, hknown, _, rfl⟩
          · rename_i hunknown
            split
            · exact .nothing fun _ => hunknown
            · have hstage : stageOutputBatch h.store (stagedBatch job run (progressEvidence env job
                  run call.progress outputRowCount (strip job.topic) call.now h.store)) = .ok _ :=
                stageOutputBatch_new fun row hrow => (lt_next hrow).ne
              simp only [publishProgress]
              split
              · exact .raises _
              · rename_i saved commit hsaved
                obtain ⟨staged, hstaged, hsaved⟩ := bind_eq_ok.mp hsaved
                cases hstage.symm.trans hstaged
                have honce := saveProgress_eq_ok (by rfl) hsaved
                obtain ⟨⟨live, commit', created⟩, hrecord, hpair⟩ := bind_eq_ok.mp honce
                cases pure_eq_ok.mp hpair
                exact .publishes (progressEvidence env job run call.progress outputRowCount
                  (strip job.topic) call.now h.store) _ _ commit _
                  ⟨hreported, hunknown, hcount, rfl, ⟨live, created, hrecord, rfl⟩, _, rfl⟩

/-! ## The first commit -/

/-- A new range is not below its cursor. -/
theorem Continues.not_reached {item : ProgressItem} {r : KafkaRange}
    (hr : Continues job live item r) :
    ¬ Reached live.cursors job.outputDatasetId r.key r.endOffset := by
  rintro ⟨cursor, hcursor, hle⟩
  rw [hr.key] at hcursor
  have hat : cursorAt job live item.partition = some cursor.nextOffset := by
    rw [cursorAt, hcursor]
    rfl
  have hstart := hr.start
  rw [progressStart_eq, hat, Option.getD_some] at hstart
  have := r.nonempty
  omega

/-- The revision of a report that was not known is a new one. -/
theorem Publishes.recorded {evidence : ProgressEvidence} {saved ready : ProgressStore}
    {commit : RevisionCommit} (hs : Halfway env.toRuntime job texts h)
    (hfree : env.toRuntime.CollisionFree texts) (hdigested : h.Digested job texts call)
    (hp : Publishes env job run h call evidence saved ready commit) :
    ∃ live ranges, normalizeKafkaSourceRanges (.list (newSourceRanges h.store.live
        job.outputDatasetId (strip job.topic) call.progress)) true = .ok ranges ∧
      Sound env.toRuntime texts live ∧
      Recorded env h.store.live (progressRequest job evidence) ranges live commit ∧
      saved = ⟨live, h.store.batches ++ [stagedBatch job run evidence],
        some (progressPayload job run evidence h.store.catalog)⟩ := by
  obtain ⟨live, created, hrecord, hsaved⟩ := hp.record
  have hranges_eq : evidence.sourceRanges = newSourceRanges h.store.live job.outputDatasetId
      (strip job.topic) call.progress := by rw [hp.evidence_eq]; rfl
  have hrun_eq : (progressRequest job evidence).runId =
      publicationRunId env.toRuntime job run call.progress := by rw [hp.evidence_eq]; rfl
  have hnormal : ∀ ranges, checkRequest (progressRequest job evidence) = .ok ranges →
      normalizeKafkaSourceRanges (.list (newSourceRanges h.store.live job.outputDatasetId
        (strip job.topic) call.progress)) true = .ok ranges := by
    intro ranges hcheck
    have hnormal := checkRequest_ranges hcheck
    rw [← hranges_eq]
    exact hnormal
  obtain ⟨hsound, -⟩ := record_sound hfree hs.sound
    (fun ranges hcheck => hdigested ranges (hnormal ranges hcheck)) hrecord
  obtain ⟨ranges, hcheck, hcases⟩ := record_cases hrecord
  have hnormal := hnormal ranges hcheck
  rcases hcases with ⟨-, existing, hexisting, -⟩ | ⟨-, hdup, -⟩ | ⟨hcreated, hrec⟩
  · rw [hrun_eq, hp.unknown] at hexisting
    exact nomatch hexisting
  · -- the ranges were recorded before, so that their cursors have passed them
    exfalso
    obtain ⟨hmem, hstored, hid, hkind⟩ :=
      duplicateSource_ranges hfree hs.sound (hdigested ranges hnormal) hdup
    obtain ⟨r, hr⟩ := List.exists_mem_of_ne_nil _ (normalizeKafkaSourceRanges_nonempty hnormal)
    obtain ⟨item, -, hcontinues⟩ := continues_of_mem hnormal hr
    have hreached := hs.sound.reached commit hmem hkind r.key r (mem_rangesAt hstored hr)
    rw [hs.dataset commit hmem] at hreached
    exact hcontinues.not_reached hreached
  · refine ⟨live, ranges, hnormal, hsound, hrec, ?_⟩
    rw [hsaved, if_pos (Or.inl hcreated)]

theorem runId_stored {commit : RevisionCommit} {runId : String}
    (hunknown : commitByRunId h.store.live runId = none) (hmem : commit ∈ h.store.live.commits) :
    commit.runId ≠ runId := by
  simpa using List.find?_eq_none.mp hunknown commit hmem

/-- The rows that the catalog has counted are no more than the report's. -/
theorem Halfway.rows_le (hs : Halfway rt job texts h)
    (hfollows : ∀ earlier ∈ h.past, earlier.Follows call) {n : Nat}
    (hrows : call.outputRowCount = some n) :
    h.store.catalog.elim 0 ProgressPayload.clickhouseOutputRowCount ≤ n := by
  cases hcatalog : h.store.catalog with
  | none => exact Nat.zero_le n
  | some payload =>
      obtain ⟨earlier, hearlier, hcount⟩ := hs.catalog payload hcatalog
      exact hfollows earlier hearlier _ _ hcount hrows

theorem Halfway.saved {evidence : ProgressEvidence} {saved ready : ProgressStore}
    {commit : RevisionCommit} (hs : Halfway env.toRuntime job texts h)
    (hfree : env.toRuntime.CollisionFree texts) (ha : h.Admitted job texts call)
    (hp : Publishes env job run h call evidence saved ready commit) :
    Halfway env.toRuntime job texts ⟨saved, h.past ++ [call]⟩ ∧
      saved.batches = h.store.batches ++ [stagedBatch job run evidence] ∧
      commit ∈ saved.live.commits ∧
      commit.runId = publicationRunId env.toRuntime job run call.progress ∧
      (stagedBatch job run evidence).outputCommitId = commit.runId := by
  obtain ⟨live, ranges, hnormal, hsound, hrec, rfl⟩ := hp.recorded hs hfree ha.digested
  have hcommit := hrec.commit_eq
  have hrun : commit.runId = publicationRunId env.toRuntime job run call.progress := by
    rw [hcommit, hp.evidence_eq]
    rfl
  have hstaged : (stagedBatch job run evidence).outputCommitId = commit.runId := by
    rw [hcommit]
    rfl
  have hnew : ∀ row ∈ h.store.batches, row.outputCommitId ≠ commit.runId := by
    intro row hrow heq
    obtain ⟨old, hold, hid, -⟩ := hs.recorded row hrow
    exact runId_stored hp.unknown hold (hid.symm.trans (heq.trans hrun))
  have hnext : (stagedBatch job run evidence).batchId = h.store.nextBatchId := by
    rw [hp.evidence_eq]
    rfl
  refine ⟨?_, rfl, ?_, hrun, hstaged⟩
  · refine
      { sound := hsound
        dataset := ?_
        runIds := ?_
        staged := ?_
        recorded := ?_
        commitIds := ?_
        batchIds := ?_
        tiled := fun partition => tiled_after hs ha.partitions hnormal rfl rfl hrec partition _ rfl
        counted := ?_
        catalog := ?_ }
    · intro other hother
      rcases List.mem_append.mp (hrec.commits_eq ▸ hother) with hold | hlast
      · exact hs.dataset other hold
      · rw [List.mem_singleton.mp hlast, hcommit]
        rfl
    · show (live.commits.map RevisionCommit.runId).Nodup
      rw [hrec.commits_eq, List.map_append, List.map_singleton]
      refine hs.runIds.append (List.nodup_singleton _) ?_
      rw [List.disjoint_singleton]
      intro hmem
      obtain ⟨old, hold, hid⟩ := List.mem_map.mp hmem
      exact runId_stored hp.unknown hold (hid.trans hrun)
    · intro other hother
      rcases List.mem_append.mp (hrec.commits_eq ▸ hother) with hold | hlast
      · obtain ⟨batch, hbatch, hid⟩ := hs.staged other hold
        exact ⟨batch, List.mem_append_left _ hbatch, hid⟩
      · rw [List.mem_singleton.mp hlast]
        exact ⟨_, List.mem_append_right _ (List.mem_singleton_self _), hstaged⟩
    · intro row hrow
      show ∃ commit ∈ live.commits, _
      rw [hrec.commits_eq]
      rcases List.mem_append.mp hrow with hold | hlast
      · obtain ⟨old, hmem, hid⟩ := hs.recorded row hold
        exact ⟨old, List.mem_append_left _ hmem, hid⟩
      · rw [List.mem_singleton.mp hlast]
        exact ⟨commit, List.mem_append_right _ (List.mem_singleton_self _), hstaged, Or.inl rfl⟩
    · rw [List.map_append, List.map_singleton]
      refine hs.commitIds.append (List.nodup_singleton _) ?_
      rw [List.disjoint_singleton]
      intro hmem
      obtain ⟨row, hrow, hid⟩ := List.mem_map.mp hmem
      exact hnew row hrow (hid.trans hstaged)
    · rw [List.map_append, List.map_singleton]
      refine hs.batchIds.append (List.nodup_singleton _) ?_
      rw [List.disjoint_singleton]
      intro hmem
      obtain ⟨row, hrow, hid⟩ := List.mem_map.mp hmem
      exact (lt_next hrow).ne (hid.trans hnext)
    · have hle := hs.rows_le ha.follows hp.rows
      have hcounted := hs.counted
      unfold Counted at hcounted ⊢
      have hrows : commit.rowCount = evidence.outputRowCount -
          h.store.catalog.elim 0 ProgressPayload.clickhouseOutputRowCount := by
        rw [hcommit]
        show ((evidence.rowCount : Int)).toNat = _
        rw [Int.toNat_natCast, hp.evidence_eq]
        rfl
      simp only [hrec.commits_eq, List.map_append, List.map_singleton, List.sum_append,
        List.sum_singleton, Option.elim_some, hcounted, hrows, progressPayload]
      omega
    · intro payload hpayload
      refine ⟨call, List.mem_append_right _ (List.mem_singleton_self call), ?_⟩
      cases Option.some.inj hpayload
      exact hp.rows
  · show commit ∈ live.commits
    rw [hrec.commits_eq]
    exact List.mem_append_right _ (List.mem_singleton_self _)

/-! ## The second commit -/

theorem Recovers.marked {ready : ProgressStore} {commit : RevisionCommit}
    (hs : Halfway env.toRuntime job texts h) (hr : Recovers env job run h call ready commit) :
    Halfway env.toRuntime job texts ⟨ready, h.past⟩ ∧ Marked h.store ready commit ∧
      commit.runId = publicationRunId env.toRuntime job run call.progress := by
  have hmem : commit ∈ h.store.live.commits := List.mem_of_find?_eq_some hr.known
  have hrun : commit.runId = publicationRunId env.toRuntime job run call.progress := by
    simpa using List.find?_some hr.known
  obtain ⟨batch, hbatch, hid⟩ := hs.staged commit hmem
  have hfind : h.store.batchByOutputCommitId (publicationRunId env.toRuntime job run
      call.progress) = some batch := find?_eq_of_nodup_map hs.commitIds hbatch (hid.trans hrun)
  obtain ⟨fresh, hready⟩ := hr.ready_eq
  rw [hfind, Option.map_some, Option.getD_some] at hready
  obtain ⟨hhalf, hmarked⟩ := @Halfway.ready _ _ _ _ hs commit batch fresh hmem hbatch hid
  rw [← hready] at hhalf hmarked
  exact ⟨hhalf, hmarked, hrun⟩

theorem Publishes.marked {evidence : ProgressEvidence} {saved ready : ProgressStore}
    {commit : RevisionCommit} (hs : Halfway env.toRuntime job texts h)
    (hfree : env.toRuntime.CollisionFree texts) (ha : h.Admitted job texts call)
    (hp : Publishes env job run h call evidence saved ready commit) :
    Halfway env.toRuntime job texts ⟨ready, h.past ++ [call]⟩ ∧ Marked saved ready commit := by
  obtain ⟨hsaved, hbatches, hmem, -, hid⟩ := hs.saved hfree ha hp
  have hbatch : stagedBatch job run evidence ∈ saved.batches := by
    rw [hbatches]
    exact List.mem_append_right _ (List.mem_singleton_self _)
  obtain ⟨fresh, hready⟩ := hp.ready_eq
  obtain ⟨hhalf, hmarked⟩ := @Halfway.ready _ _ _ _ hsaved commit _ fresh hmem hbatch hid
  rw [show (stagedBatch job run evidence).batchId = evidence.batchId from rfl] at hhalf hmarked
  rw [← hready] at hhalf hmarked
  exact ⟨hhalf, hmarked⟩

/-! ## The run -/

/-- Wherever a call stops, it leaves the store as it was or one that it committed. -/
theorem attempt_mem (h : ProgressHistory) (call : ProgressCall) :
    h.attempt env job run call ∈ h.store :: (h.answer env job run call).1 := by
  have hlast : ∀ commits : List ProgressStore, commits.getLastD h.store ∈ h.store :: commits := by
    intro commits
    rcases List.eq_nil_or_concat commits with rfl | ⟨init, last, rfl⟩
    · exact List.mem_cons_self
    · rw [List.concat_eq_append, List.getLastD_concat]
      exact List.mem_cons_of_mem _ (List.mem_append_right _ (List.mem_singleton_self _))
  unfold attempt
  split
  · exact hlast _
  · rename_i commits _
    rcases List.mem_cons.mp (hlast ((h.answer env job run call).1.take commits)) with heq | hmem
    · rw [heq]
      exact List.mem_cons_self
    · exact List.mem_cons_of_mem _ (List.mem_of_mem_take hmem)

theorem Halfway.step (hs : Halfway env.toRuntime job texts h)
    (hfree : env.toRuntime.CollisionFree texts) (ha : h.Admitted job texts call) :
    Halfway env.toRuntime job texts (h.step env job run call) := by
  have hmem := @attempt_mem job env run h call
  have hanswers : Answers env job run h call (h.answer env job run call) := answers h call
  unfold ProgressHistory.step
  generalize h.attempt env job run call = store at hmem
  generalize h.answer env job run call = answer at hmem hanswers
  rcases List.mem_cons.mp hmem with rfl | hmem
  · exact hs.later call
  · cases hanswers with
    | raises e => exact nomatch hmem
    | nothing hnew => exact nomatch hmem
    | recovers ready commit batch hrecovers =>
        rw [List.mem_singleton.mp hmem]
        exact (hrecovers.marked hs).1.later call
    | publishes evidence saved ready commit batch hpublishes =>
        rcases List.mem_cons.mp hmem with rfl | hready
        · exact (hs.saved hfree ha hpublishes).1
        · rw [List.mem_singleton.mp hready]
          exact (hpublishes.marked hs hfree ha).1

/-- With no batch left, all is consistent. -/
theorem Halfway.consistent (hs : Halfway rt job texts h)
    (hnone : ∀ batch ∈ h.store.batches, batch.stage ≠ .outputCommitted) : Consistent job h where
  batch commit hcommit := by
    obtain ⟨batch, hbatch, hid⟩ := hs.staged commit hcommit
    obtain ⟨other, hother, hotherId, hstage⟩ := hs.recorded batch hbatch
    have hsame : other = commit :=
      eq_of_nodup_map hs.runIds hother hcommit (hotherId.symm.trans hid)
    refine ⟨batch, ?_, ?_⟩
    · rw [← hid]
      exact filter_eq_singleton hs.commitIds hbatch
    · rcases hstage with hleft | ⟨hready, hrevision⟩
      · exact absurd hleft (hnone batch hbatch)
      · rw [hsame] at hrevision
        exact ⟨hready, hrevision⟩
  none_left := hnone
  tiled := hs.tiled
  counted := hs.counted

theorem Halfway.published_iff (hs : Halfway env.toRuntime job texts h)
    (hfree : env.toRuntime.CollisionFree texts) (ha : h.Admitted job texts call) :
    h.Published env job run call ↔ h.Recognised env job run call := by
  have hhalf : Halfway env.toRuntime job texts (h.step env job run call) := hs.step hfree ha
  have hanswers : Answers env job run h call (h.answer env job run call) := answers h call
  -- the store of a call that completes is that of its last commit
  have hlast : h.Completes env job run call → (h.step env job run call).store =
      (h.answer env job run call).1.getLastD h.store := by
    rintro ⟨hcut, -⟩
    show h.attempt env job run call = _
    rw [attempt, hcut]
  constructor
  · intro hpublished hcompletes batch hbatch hleft
    have hconsistent := hpublished hcompletes
    have hlast := hlast hcompletes
    obtain ⟨-, outcome, houtcome⟩ := hcompletes
    generalize h.answer env job run call = answer at hanswers hlast houtcome
    cases hanswers with
    | raises e => exact nomatch houtcome
    | nothing hnew =>
        exact absurd hleft (hconsistent.none_left batch (hlast ▸ hbatch))
    | recovers ready commit marked hrecovers =>
        obtain ⟨-, hmarked, hrun⟩ := hrecovers.marked hs
        refine ⟨hrecovers.reported, ?_⟩
        by_contra hother
        have hkept := hmarked.kept batch hbatch (hrun ▸ hother)
        exact hconsistent.none_left batch (hlast ▸ hkept) hleft
    | publishes evidence saved ready commit marked hpublishes =>
        obtain ⟨-, hmarked⟩ := hpublishes.marked hs hfree ha
        obtain ⟨-, hbatches, -, hrun, -⟩ := hs.saved hfree ha hpublishes
        have hother : batch.outputCommitId ≠ commit.runId := by
          obtain ⟨old, hold, hid, -⟩ := hs.recorded batch hbatch
          rw [hid, hrun]
          exact runId_stored hpublishes.unknown hold
        have hkept := hmarked.kept batch (hbatches ▸ List.mem_append_left _ hbatch) hother
        exact absurd hleft (hconsistent.none_left batch (hlast ▸ hkept))
  · intro hrecognised hcompletes
    have hrecognised := hrecognised hcompletes
    have hlast := hlast hcompletes
    refine hhalf.consistent ?_
    rw [hlast]
    obtain ⟨-, outcome, houtcome⟩ := hcompletes
    generalize h.answer env job run call = answer at hanswers houtcome ⊢
    intro batch hbatch hleft
    cases hanswers with
    | raises e => exact nomatch houtcome
    | nothing hnew =>
        obtain ⟨hreported, hid⟩ := hrecognised batch hbatch hleft
        obtain ⟨commit, hcommit, hcommitId, -⟩ := hs.recorded batch hbatch
        exact runId_stored (hnew hreported) hcommit (hcommitId.symm.trans hid)
    | recovers ready commit marked hrecovers =>
        obtain ⟨-, hmarked, hrun⟩ := hrecovers.marked hs
        obtain ⟨hold, hother⟩ := hmarked.left batch hbatch hleft
        exact hother ((hrecognised batch hold hleft).2.trans hrun.symm)
    | publishes evidence saved ready commit marked hpublishes =>
        obtain ⟨-, hmarked⟩ := hpublishes.marked hs hfree ha
        obtain ⟨-, hbatches, -, hrun, hid⟩ := hs.saved hfree ha hpublishes
        obtain ⟨hold, hother⟩ := hmarked.left batch hbatch hleft
        rcases List.mem_append.mp (hbatches ▸ hold) with hold | hnew
        · exact hother ((hrecognised batch hold hleft).2.trans hrun.symm)
        · rw [List.mem_singleton.mp hnew] at hother
          exact hother hid

theorem halfway_start : Halfway rt job texts {} where
  sound := ⟨fun _ h => (nomatch h), fun _ h => (nomatch h), .nil, fun _ h => (nomatch h),
    fun _ _ => .nil⟩
  dataset _ h := nomatch h
  runIds := .nil
  staged _ h := nomatch h
  recorded _ h := nomatch h
  commitIds := .nil
  batchIds := .nil
  tiled _ := rfl
  counted := rfl
  catalog _ h := nomatch h

/-- Every call that completes leaves all revisions consistent, exactly where each of them reports
again what a batch that was left is of. -/
theorem progress_published_iff (env : Deployment) (job : ClickHouseJob) (run : ClickHouseRun)
    (texts : Set String) (hfree : env.toRuntime.CollisionFree texts) (calls : List ProgressCall)
    (hpartitions : ∀ call ∈ calls, (call.progress.map ProgressItem.partition).Nodup)
    (hfollows : calls.Pairwise ProgressCall.Follows)
    (hdigested : Along (Digested job texts) (ProgressHistory.step env job run) {} calls) :
    Along (Published env job run) (ProgressHistory.step env job run) {} calls ↔
      Along (Recognised env job run) (ProgressHistory.step env job run) {} calls := by
  have hpast : ∀ (h : ProgressHistory) call,
      (h.step env job run call).past = h.past ++ [call] := fun _ _ => rfl
  have hearlier : Along (fun (h : ProgressHistory) call => ∀ earlier ∈ h.past,
      earlier.Follows call) (ProgressHistory.step env job run) {} calls :=
    along_of_pairwise hpast hfollows
  have hadmitted : Along (Admitted job texts) (ProgressHistory.step env job run) {} calls :=
    (((along_of_forall hpartitions).and hearlier).and hdigested).imp
      fun _ _ ha => ⟨ha.1.1, ha.1.2, ha.2⟩
  have hstep : ∀ (h : ProgressHistory) call, Halfway env.toRuntime job texts h →
      h.Admitted job texts call →
        (h.Published env job run call ↔ h.Recognised env job run call) :=
    fun _ _ hs ha => hs.published_iff hfree ha
  have hkeep : ∀ (h : ProgressHistory) call, Halfway env.toRuntime job texts h →
      h.Admitted job texts call → Halfway env.toRuntime job texts (h.step env job run call) :=
    fun _ _ hs ha => hs.step hfree ha
  exact along_iff_of_admitted hstep hkeep halfway_start hadmitted

end

/-! ## A later report -/

/-- SHA-256 of the texts that the runs below take a digest of. -/
def clicksDigests : List (String × String) :=
  [("\x7b\"generation\":1,\"jobId\":\"clicks-job\",\"planHash\":\"plan-1\",\"progress\":[\x7b\"latestIngestedAt\":\"10:00\",\"maxOffset\":9,\"minOffset\":0,\"partition\":0,\"rowCount\":10\x7d]\x7d",
    "ee9b61b5339ec44a581ee7d232452586b81d84c3d306a843b864736a542f62c7"),
   ("\x7b\"generation\":1,\"jobId\":\"clicks-job\",\"planHash\":\"plan-1\",\"progress\":[\x7b\"latestIngestedAt\":\"10:01\",\"maxOffset\":9,\"minOffset\":0,\"partition\":0,\"rowCount\":10\x7d]\x7d",
    "bd58b76f114897f67782d4b50e8f4f4d6f374270b5ee5833b36086ebf496ce73"),
   ("[\x7b\"endOffset\":10,\"partition\":0,\"startOffset\":0,\"topic\":\"clicks\"\x7d]",
    "212dff2ede0a3c9a5540fb6a663ce3c0301be012d9072bac84dd08c96a3b7d99")]

def clicksEnv : Deployment where
  sha256 := fun text => ((clicksDigests.find? fun entry => entry.1 = text).map Prod.snd).getD
    "e3b0c44298fc1c149afbf4c8996fb92427ae41e4649b934ca495991b7852b855"
  lower := fun text => String.ofList (text.toList.map Char.toLower)
  casefold := fun text => String.ofList (text.toList.map Char.toLower)

def clicksJob : ClickHouseJob where
  id := "clicks-job"
  name := "Clicks"
  planHash := "plan-1"
  outputDatasetId := "clicks-joined"
  topic := "clicks"
  target := ⟨"asklake", "clicks"⟩

def clicksRun : ClickHouseRun where
  runId := "clicks-run-1"
  generation := 1

/-- Ten offsets and ten rows, of which the last came in at some time. -/
def clicksCall (latestIngestedAt : String) (cut : Option Nat) : ProgressCall where
  report := ⟨some [some ⟨some 0, some 0, some 9, some 10, latestIngestedAt⟩], .int 10⟩
  cut := cut

def clicksText : String :=
  "[\x7b\"endOffset\":10,\"partition\":0,\"startOffset\":0,\"topic\":\"clicks\"\x7d]"

/-- The text of the ranges a report would be recorded with. -/
def rangesText (job : ClickHouseJob) (h : ProgressHistory) (call : ProgressCall) : Option String :=
  (normalizeKafkaSourceRanges (.list (newSourceRanges h.store.live job.outputDatasetId
    (strip job.topic) call.progress)) true).toOption.map KafkaRanges.canonicalText

theorem digested_of_text {job : ClickHouseJob} {h : ProgressHistory} {call : ProgressCall}
    {texts : Set String} (htext : ∀ text, rangesText job h call = some text → text ∈ texts) :
    Digested job texts h call := by
  intro ranges hranges
  refine htext _ ?_
  rw [rangesText, hranges]
  rfl

/-- The batch that a stopped call left is finished by a call with its report. -/
theorem clicks_published :
    Along (Published clicksEnv clicksJob clicksRun)
      (ProgressHistory.step clicksEnv clicksJob clicksRun) {}
      [clicksCall "10:00" (some 1), clicksCall "10:00" none] := by
  have hfree : clicksEnv.toRuntime.CollisionFree { text | text ∈ [clicksText] } :=
    collisionFree_of_pairwise (List.pairwise_singleton _ _)
  have hpartitions : ∀ call ∈ [clicksCall "10:00" (some 1), clicksCall "10:00" none],
      (call.progress.map ProgressItem.partition).Nodup := by decide +kernel
  have hfollows : [clicksCall "10:00" (some 1), clicksCall "10:00" none].Pairwise
      ProgressCall.Follows := by
    refine .cons (fun call hcall => ?_) (List.pairwise_singleton _ _)
    intro m n hm hn
    rw [List.mem_singleton.mp hcall] at hn
    rw [show (clicksCall "10:00" (some 1)).outputRowCount = some 10 by decide +kernel] at hm
    rw [show (clicksCall "10:00" none).outputRowCount = some 10 by decide +kernel] at hn
    cases hm
    cases hn
    exact le_refl 10
  have hdigested : Along (Digested clicksJob { text | text ∈ [clicksText] })
      (ProgressHistory.step clicksEnv clicksJob clicksRun) {}
      [clicksCall "10:00" (some 1), clicksCall "10:00" none] := by
    refine ⟨digested_of_text fun text htext => ?_, digested_of_text fun text htext => ?_, trivial⟩
    · rw [show rangesText clicksJob {} (clicksCall "10:00" (some 1)) = some clicksText
        by decide +kernel] at htext
      exact List.mem_singleton.mpr (Option.some.inj htext).symm
    · rw [show rangesText clicksJob (ProgressHistory.step clicksEnv clicksJob clicksRun {}
        (clicksCall "10:00" (some 1))) (clicksCall "10:00" none) = none by decide +kernel] at htext
      exact nomatch htext
  refine (progress_published_iff clicksEnv clicksJob clicksRun _ hfree _ hpartitions hfollows
    hdigested).mpr ⟨fun hcompletes => ?_, fun _ => ?_, trivial⟩
  · exact nomatch hcompletes.1
  · decide +kernel

/-- With a later time, the offsets and rows being the same, the batch is left. -/
theorem clicks_left :
    ¬ Along (Published clicksEnv clicksJob clicksRun)
      (ProgressHistory.step clicksEnv clicksJob clicksRun) {}
      [clicksCall "10:00" (some 1), clicksCall "10:01" none] := by
  rintro ⟨-, hpublished, -⟩
  have hcompletes : Completes clicksEnv clicksJob clicksRun
      (ProgressHistory.step clicksEnv clicksJob clicksRun {} (clicksCall "10:00" (some 1)))
      (clicksCall "10:01" none) := by
    refine ⟨rfl, accepted_iff.mp ?_⟩
    decide +kernel
  have hleft := (hpublished hcompletes).none_left
  exact absurd hleft (by decide +kernel)

end ProgressHistory

end AskLake.ContinuousSql

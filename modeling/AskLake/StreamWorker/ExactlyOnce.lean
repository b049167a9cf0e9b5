/-
# `AskLake.StreamWorker.ExactlyOnce` — a batch is appended once, whatever is cut

Between the append and the manifest the process may die, and the batch comes again.
The rows that are there already carry the run id, which depends on the batch alone:

    append  ✗                 the rows of run id r, and no manifest
    append again              finds r in the table, and appends nothing
    manifest

So it is for a plain job.  Under a plan the boundary is of a kind that is not
looked for: the rows are appended again, and no manifest is accepted later, since
that too asks the table for the run id.
-/
import AskLake.StreamWorker.NoOffsetLost

namespace AskLake.StreamWorker

open AskLake.Lib AskLake.Kafka AskLake.Python AskLake.ContinuousSql

section
variable {Row Out : Type}

/-! ## Rows of a run id -/

/-- The rows of the table that a run wrote. -/
def rowsOf (table : IcebergTable Out) (runId : String) : List Out :=
  (table.getD []).filterMap fun row => if row.2 = runId then some row.1 else none

/-- No row of the table is from a batch of the job. -/
def WithoutJobRows (config : WorkerConfig Row Out) (table : IcebergTable Out) : Prop :=
  ∀ row ∈ table.getD [], ∀ batchId boundaryId, row.2 ≠ runIdOf config batchId boundaryId

/-- A job that has not run. -/
structure Clean (config : WorkerConfig Row Out) (s : World Row Out) : Prop where
  manifests : s.manifests = []
  catalogAck : s.catalogAck = none
  unfinished : s.unfinished = none
  worker : s.worker = none
  table : WithoutJobRows config s.table

/-- Spark delivers an unfinished batch again as it was, to a worker that is not
stopped; only durable batches are acknowledged; and the cursors that a process is
given are of manifests. -/
def Redelivers (config : WorkerConfig Row Out) (s : World Row Out) : WorkerEvent Row → Prop
  | .deliver batch _ => ∀ other, s.unfinished = some other →
      batch = other ∧ ∀ worker, s.worker = some worker → worker.stopRequested = false
  | .start supplied => InSequence config s (.start supplied)
  | .acknowledge batchId => batchId < s.manifests.length
  | _ => True

variable {config : WorkerConfig Row Out} {s : World Row Out} {worker : Worker}
  {table : IcebergTable Out} {boundary : SourceBoundary} {processed : Processed Out}

theorem rowsOf_append (table : List (Out × String)) (rows : List Out) (runId runId' : String) :
    rowsOf (some (table ++ rows.map fun row => (row, runId))) runId' =
      rowsOf (some table) runId' ++ if runId = runId' then rows else [] := by
  show List.filterMap _ (table ++ _) = _
  rw [List.filterMap_append, List.filterMap_map]
  congr 1
  split
  · rename_i hsame
    simp [hsame]
  · rename_i hother
    simp [hother]

theorem rowsOf_eq_nil {runId : String} (h : ∀ row ∈ table.getD [], row.2 ≠ runId) :
    rowsOf table runId = [] := by
  refine List.filterMap_eq_nil_iff.mpr fun row hrow => ?_
  rw [if_neg (h row hrow)]

theorem exists_row_of_rowsOf {runId : String} (h : rowsOf table runId ≠ []) :
    ∃ row ∈ table.getD [], row.2 = runId := by
  by_contra hnone
  push Not at hnone
  exact h (rowsOf_eq_nil hnone)

/-- A commit leaves the table as it is, or appends the rows of a run that is not
found in it. -/
theorem commitRows_cases (table : IcebergTable Out) (processed : Processed Out)
    (boundary : SourceBoundary) :
    (commitRows table processed boundary).1 = table ∧
        (processed.stored = [] ∨ icebergSourceBoundaryExists table boundary = true) ∨
      icebergSourceBoundaryExists table boundary = false ∧
        (commitRows table processed boundary).1 =
          some (table.getD [] ++ processed.stored.map fun row => (row, boundary.runId)) := by
  cases hstored : processed.stored with
  | nil =>
      refine Or.inl ⟨?_, Or.inl rfl⟩
      rw [commitRows, hstored]
  | cons row rows =>
      cases hexists : icebergSourceBoundaryExists table boundary with
      | true =>
          refine Or.inl ⟨?_, Or.inr rfl⟩
          rw [commitRows, hstored]
          show (commitIcebergTable table (row :: rows) boundary).1 = table
          cases table with
          | none => simp [icebergSourceBoundaryExists] at hexists
          | some existing =>
              rw [commitIcebergTable]
              simp only [hexists, if_true]
      | false =>
          refine Or.inr ⟨rfl, ?_⟩
          rw [commitRows, hstored]
          show (commitIcebergTable table (row :: rows) boundary).1 = _
          cases table with
          | none => rfl
          | some existing =>
              rw [commitIcebergTable]
              simp only [hexists, Bool.false_eq_true, if_false]
              rfl

/-- A commit is there when there are rows, and it has the boundary. -/
theorem commitRows_commit (table : IcebergTable Out) (processed : Processed Out)
    (boundary : SourceBoundary) :
    (commitRows table processed boundary).2.map IcebergCommit.sourceBoundary =
      if processed.stored = [] then none else some boundary := by
  cases hstored : processed.stored with
  | nil =>
      rw [commitRows, hstored, if_pos rfl]
      rfl
  | cons row rows =>
      rw [commitRows, hstored, if_neg (List.cons_ne_nil _ _)]
      show some (commitIcebergTable table (row :: rows) boundary).2.sourceBoundary = _
      cases table with
      | none => rfl
      | some existing =>
          rw [commitIcebergTable]
          split <;> rfl

theorem rowsOf_getD (table : IcebergTable Out) (runId : String) :
    rowsOf (some (table.getD [])) runId = rowsOf table runId := rfl

/-- Rows of other runs stay as they are. -/
theorem rowsOf_commitRows_other {runId : String} (h : boundary.runId ≠ runId) :
    rowsOf (commitRows table processed boundary).1 runId = rowsOf table runId := by
  rcases commitRows_cases table processed boundary with ⟨hsame, -⟩ | ⟨-, happended⟩
  · rw [hsame]
  · rw [happended, rowsOf_append, if_neg h, List.append_nil, rowsOf_getD]

/-! ## Plain jobs -/

/-- The run id of a plain job has no space at its ends. -/
theorem marker_of_plain (hhex : config.HexDigests) (hplan : config.plan = none) {batchId : Int}
    {ranges : List KafkaRange} :
    icebergSourceBoundaryMarker (prepareBatchIdentity config batchId ranges) =
      (prepareBatchIdentity config batchId ranges).runId := by
  have hkind : (prepareBatchIdentity config batchId ranges).kind = .kafkaContinuousBatch := by
    show boundaryKind config = _
    rw [boundaryKind, hplan]
    rfl
  rw [icebergSourceBoundaryMarker, hkind]
  show strip (runIdOf config batchId _) = runIdOf config batchId _
  obtain ⟨cs, hc⟩ : ∃ cs, "continuous:".toList = 'c' :: cs := ⟨"ontinuous:".toList, by decide⟩
  have hcolon : (":" : String).toList = [':'] := by decide
  have htext : ∀ boundaryId, (runIdOf config batchId boundaryId).toList =
      'c' :: (cs ++ config.jobId.toList ++ ":batch:".toList ++ (Int.repr batchId).toList) ++
        ':' :: (boundaryId.toList.take 16) := by
    intro boundaryId
    simp [runIdOf, runIdPrefix, hplan, shortId, hc, hcolon]
  refine strip_eq_self_of_ends ((htext _).trans (List.cons_append ..)) (by decide) fun hne => ?_
  simp only [htext]
  rw [List.getLast_append_of_ne_nil _ (List.cons_ne_nil _ _)]
  have hletters : ∀ c ∈ ':' :: "0123456789abcdef".toList, isSpace c = false :=
    forall_of_all (by decide)
  refine hletters _ ?_
  rcases List.mem_cons.mp (List.getLast_mem (List.cons_ne_nil ':' _)) with hlast | hlast
  · rw [hlast]
    exact List.mem_cons_self
  · exact List.mem_cons_of_mem _ (hhex _ _ (List.mem_of_mem_take hlast))

theorem runIdOf_ne_empty (hplan : config.plan = none) (batchId : Int) (boundaryId : String) :
    runIdOf config batchId boundaryId ≠ "" := by
  obtain ⟨cs, hc⟩ : ∃ cs, "continuous:".toList = 'c' :: cs := ⟨"ontinuous:".toList, by decide⟩
  intro hempty
  have hchars := congrArg String.toList hempty
  simp [runIdOf, runIdPrefix, hplan, hc] at hchars

/-- A plain job finds the rows of a batch by their run id. -/
theorem exists_iff_of_plain (hhex : config.HexDigests) (hplan : config.plan = none)
    {batchId : Int} {ranges : List KafkaRange} (table : IcebergTable Out) :
    icebergSourceBoundaryExists table (prepareBatchIdentity config batchId ranges) = true ↔
      ∃ row ∈ table.getD [], row.2 = (prepareBatchIdentity config batchId ranges).runId := by
  have hne : (prepareBatchIdentity config batchId ranges).runId ≠ "" :=
    runIdOf_ne_empty hplan batchId _
  rw [icebergSourceBoundaryExists, marker_of_plain hhex hplan]
  simp [hne]

/-- A boundary that is found is that of a plain job. -/
theorem plain_of_exists {batchId : Int} {ranges : List KafkaRange} {table : IcebergTable Out}
    (h : icebergSourceBoundaryExists table (prepareBatchIdentity config batchId ranges) = true) :
    config.plan = none := by
  cases hplan : config.plan with
  | none => rfl
  | some plan =>
      have hkind : (prepareBatchIdentity config batchId ranges).kind = .continuousSqlBatch := by
        show boundaryKind config = _
        rw [boundaryKind, hplan]
        rfl
      have hmarker : icebergSourceBoundaryMarker (prepareBatchIdentity config batchId ranges) = "" := by
        rw [icebergSourceBoundaryMarker, hkind]
      rw [icebergSourceBoundaryExists, hmarker] at h
      simp at h

/-! ## The invariant of a run -/

/-- The boundary that a batch has when it is delivered next. -/
def pendingBoundary (config : WorkerConfig Row Out) (s : World Row Out)
    (batch : List (Record Row)) : SourceBoundary :=
  prepareBatchIdentity config s.manifests.length (normalizedSourceRanges
    (batchSourceRanges (retainUncommittedOffsets (recoveredCursors config s) batch)))

/-- The unfinished batch is appended, all of it, under this run id. -/
def HalfDone (config : WorkerConfig Row Out) (s : World Row Out) (runId : String) : Prop :=
  ∃ batch processed, s.unfinished = some batch ∧
    retainUncommittedOffsets (recoveredCursors config s) batch ≠ [] ∧
      config.process (retainUncommittedOffsets (recoveredCursors config s) batch) = .ok processed ∧
        runId = (pendingBoundary config s batch).runId ∧ rowsOf s.table runId = processed.stored

structure Identified (config : WorkerConfig Row Out) (s : World Row Out) : Prop where
  numbered : Numbered BatchManifest.batchId s.manifests
  ack_high : s.acknowledged < s.manifests.length
  window : ∀ worker, s.worker = some worker →
    worker.window.latestDurableBatchId = s.manifests.length - 1 ∧
      worker.window.catalogAckBatchId < s.manifests.length
  cursors : ∀ worker, s.worker = some worker → ∀ key,
    nextOffset worker.cursors key = nextOffset (recoveredCursors config s) key
  /-- rows of the job are of batches with a manifest, or of the unfinished batch -/
  rows : ∀ row ∈ s.table.getD [], ∀ batchId boundaryId,
    row.2 = runIdOf config batchId boundaryId →
      batchId < s.manifests.length ∨ HalfDone config s row.2

theorem Clean.identified (h : Clean config s) : Identified config s where
  numbered := by
    rw [h.manifests]
    exact .nil
  ack_high := by
    rw [World.acknowledged, h.catalogAck, h.manifests]
    decide
  window := fun _ hsome => by cases h.worker.symm.trans hsome
  cursors := fun _ hsome => by cases h.worker.symm.trans hsome
  rows := fun row hrow batchId boundaryId hrun => absurd hrun (h.table row hrow batchId boundaryId)

namespace Identified

theorem next (h : Identified config s) (hworker : s.worker = some worker) :
    nextPublicationBatchId worker.window = s.manifests.length := by
  obtain ⟨hlatest, hack⟩ := h.window worker hworker
  rw [nextPublicationBatchId]
  omega

theorem manifestAt_next (h : Identified config s) (hworker : s.worker = some worker) :
    manifestAt s.manifests (nextPublicationBatchId worker.window) = none :=
  manifestAt_eq_none h.numbered (h.next hworker)

theorem retained (h : Identified config s) (hworker : s.worker = some worker)
    (batch : List (Record Row)) : retainUncommittedOffsets worker.cursors batch =
      retainUncommittedOffsets (recoveredCursors config s) batch :=
  retainUncommittedOffsets_congr (h.cursors worker hworker) batch

theorem boundaryOf_eq (h : Identified config s) (hworker : s.worker = some worker)
    (batch : List (Record Row)) :
    boundaryOf config worker (retainUncommittedOffsets worker.cursors batch) =
      pendingBoundary config s batch := by
  rw [boundaryOf, h.next hworker, h.retained hworker]
  rfl

/-- After the commit the table holds the rows of the batch, once. -/
theorem rowsOf_commit (hhex : config.HexDigests) (hplan : config.plan = none)
    (h : Identified config s) {batch : List (Record Row)}
    (hbatch : ∀ other, s.unfinished = some other → batch = other)
    (hprocess : config.process (retainUncommittedOffsets (recoveredCursors config s) batch) =
      .ok processed) :
    rowsOf (commitRows s.table processed (pendingBoundary config s batch)).1
      (pendingBoundary config s batch).runId = processed.stored := by
  have hiff := @exists_iff_of_plain _ _ config hhex hplan s.manifests.length
    (normalizedSourceRanges (batchSourceRanges
      (retainUncommittedOffsets (recoveredCursors config s) batch))) s.table
  by_cases hexists : icebergSourceBoundaryExists s.table (pendingBoundary config s batch) = true
  · -- the rows that are there are those of this batch
    obtain ⟨row, hrow, hrun⟩ := hiff.mp hexists
    have hhalf : HalfDone config s row.2 := by
      rcases h.rows row hrow _ _ hrun with hlt | hhalf
      · omega
      · exact hhalf
    obtain ⟨other, processed', hunfinished, -, hprocess', -, hrows⟩ := hhalf
    cases hbatch other hunfinished
    cases hprocess.symm.trans hprocess'
    have hrun : row.2 = (pendingBoundary config s batch).runId := hrun
    rw [hrun] at hrows
    rcases commitRows_cases s.table processed (pendingBoundary config s batch) with
      ⟨hsame, -⟩ | ⟨hnot, -⟩
    · rw [hsame]
      exact hrows
    · exact nomatch hnot.symm.trans hexists
  · have hnil : rowsOf s.table (pendingBoundary config s batch).runId = [] :=
      rowsOf_eq_nil fun row hrow hrun => hexists (hiff.mpr ⟨row, hrow, hrun⟩)
    rcases commitRows_cases s.table processed (pendingBoundary config s batch) with
      ⟨hsame, hstored | hfound⟩ | ⟨-, happended⟩
    · rw [hsame, hnil, hstored]
    · exact absurd hfound hexists
    · rw [happended, rowsOf_append, rowsOf_getD, hnil, if_pos rfl, List.nil_append]

/-- The window after the acknowledgement document is read. -/
theorem window_reported (h : Identified config s) {n : Int}
    (hlatest : worker.window.latestDurableBatchId = n - 1)
    (hack : worker.window.catalogAckBatchId < n) (hn : s.manifests.length ≤ n) :
    (reported config s worker).window.latestDurableBatchId = n - 1 ∧
      (reported config s worker).window.catalogAckBatchId < n := by
  have hhigh := h.ack_high
  show (applyCatalogAck _ _ _ _).latestDurableBatchId = _ ∧
    (applyCatalogAck _ _ _ _).catalogAckBatchId < _
  rw [applyCatalogAck]
  split
  · exact ⟨hlatest, hack⟩
  · exact ⟨hlatest, by show s.acknowledged < n; omega⟩

/-- A worker that has read the document, and has moved no cursor. -/
theorem report (h : Identified config s) (hworker : s.worker = some worker) :
    Identified config { s with worker := some (reported config s worker) } where
  numbered := h.numbered
  ack_high := h.ack_high
  window := by
    rintro _ ⟨⟩
    obtain ⟨hlatest, hack⟩ := h.window worker hworker
    exact h.window_reported hlatest hack (le_refl _)
  cursors := by
    rintro _ ⟨⟩ key
    exact h.cursors worker hworker key
  rows := h.rows

/-- Without a process, whatever Spark's log holds that has no rows of its own. -/
theorem withoutWorker (h : Identified config s) :
    Identified config { s with worker := none } where
  numbered := h.numbered
  ack_high := h.ack_high
  window := fun _ hnone => nomatch hnone
  cursors := fun _ hnone => nomatch hnone
  rows := h.rows

/-- Spark starts a micro-batch, or starts it again. -/
theorem logged (h : Identified config s) {batch : List (Record Row)}
    (hbatch : ∀ other, s.unfinished = some other → batch = other) :
    Identified config { s with unfinished := some batch } where
  numbered := h.numbered
  ack_high := h.ack_high
  window := h.window
  cursors := h.cursors
  rows := by
    intro row hrow batchId boundaryId hrun
    rcases h.rows row hrow batchId boundaryId hrun with hlt | ⟨other, processed, hother, hhalf⟩
    · exact Or.inl hlt
    · cases hbatch other hother
      exact Or.inr ⟨batch, processed, rfl, hhalf⟩

/-- Spark completes a micro-batch of which nothing is half done. -/
theorem completed (h : Identified config s) (hhalf : ∀ runId, ¬ HalfDone config s runId) :
    Identified config { s with unfinished := none } where
  numbered := h.numbered
  ack_high := h.ack_high
  window := h.window
  cursors := h.cursors
  rows := fun row hrow batchId boundaryId hrun =>
    (h.rows row hrow batchId boundaryId hrun).imp id fun h => (hhalf _ h).elim

/-- After the commit, what is of the job is of batches with a manifest, or has the
run id of the batch. -/
theorem rows_commit (h : Identified config s) {batch : List (Record Row)}
    (hbatch : ∀ other, s.unfinished = some other → batch = other) {row : Out × String}
    (hrow : row ∈ (commitRows s.table processed (pendingBoundary config s batch)).1.getD [])
    {batchId : Int} {boundaryId : String} (hrun : row.2 = runIdOf config batchId boundaryId) :
    batchId < s.manifests.length ∨ row.2 = (pendingBoundary config s batch).runId := by
  have hold : row ∈ s.table.getD [] →
      batchId < s.manifests.length ∨ row.2 = (pendingBoundary config s batch).runId := by
    intro hrow
    rcases h.rows row hrow batchId boundaryId hrun with hlt | ⟨other, _, hother, -, -, hsame, -⟩
    · exact Or.inl hlt
    · cases hbatch other hother
      exact Or.inr hsame
  rcases commitRows_cases s.table processed (pendingBoundary config s batch) with
    ⟨hsame, -⟩ | ⟨-, happended⟩
  · rw [hsame] at hrow
    exact hold hrow
  · rw [happended] at hrow
    rcases List.mem_append.mp hrow with hrow | hrow
    · exact hold hrow
    · obtain ⟨out, -, rfl⟩ := List.mem_map.mp hrow
      exact Or.inr rfl

/-- A manifest is written for the batch. -/
theorem publish (h : Identified config s) (hworker : s.worker = some worker)
    {batch : List (Record Row)} (hbatch : ∀ other, s.unfinished = some other → batch = other)
    {manifest : BatchManifest} (hid : manifest.batchId = s.manifests.length)
    (hranges : manifest.sourceRanges =
      batchSourceRanges (retainUncommittedOffsets worker.cursors batch))
    {s' : World Row Out}
    (htable : s'.table = (commitRows s.table processed (pendingBoundary config s batch)).1)
    (hmanifests : s'.manifests = s.manifests ++ [manifest]) (hack : s'.catalogAck = s.catalogAck)
    (hend : s'.worker = none ∨ s'.worker = some (reported config s'
      (remembered config worker manifest
        (batchSourceRanges (retainUncommittedOffsets worker.cursors batch))))) :
    Identified config s' := by
  have hlength : (s'.manifests.length : Int) = s.manifests.length + 1 := by
    rw [hmanifests, List.length_append, List.length_singleton]
    omega
  have hhigh : s'.acknowledged < s'.manifests.length := by
    have := h.ack_high
    rw [World.acknowledged, hack]
    show s.acknowledged < _
    omega
  refine ⟨?_, hhigh, fun other hother => ?_, fun other hother key => ?_,
    fun row hrow batchId boundaryId hrun => ?_⟩
  · rw [hmanifests]
    exact .snoc h.numbered hid
  · rcases hend with hnone | hsome
    · cases hnone.symm.trans hother
    · cases hsome.symm.trans hother
      obtain ⟨hlatest, hwindow⟩ := h.window worker hworker
      have hnew : (rememberPublishedBatch config.publishedBatchLimit worker.window
          manifest).latestDurableBatchId = manifest.batchId := by
        show (if _ then _ else _) = _
        rw [if_pos (by omega)]
      have hkept : (rememberPublishedBatch config.publishedBatchLimit worker.window
          manifest).catalogAckBatchId = worker.window.catalogAckBatchId := rfl
      show (applyCatalogAck _ _ (rememberPublishedBatch _ _ _) _).latestDurableBatchId = _ ∧
        (applyCatalogAck _ _ (rememberPublishedBatch _ _ _) _).catalogAckBatchId < _
      rw [applyCatalogAck]
      split
      · exact ⟨by omega, by omega⟩
      · exact ⟨hnew.trans (by omega), hhigh⟩
  · rcases hend with hnone | hsome
    · cases hnone.symm.trans hother
    · cases hsome.symm.trans hother
      refine eq_of_forall_lt_iff fun o => ?_
      show o < nextOffset (advanceWorkerStreamPartitionCursors worker.cursors _) key ↔ _
      rw [lt_nextOffset_advance, h.cursors worker hworker key, lt_nextOffset_recovered,
        lt_nextOffset_recovered, hmanifests, or_assoc]
      refine or_congr_right ?_
      simp only [List.mem_append, List.mem_singleton, or_and_right, exists_or, exists_eq_left,
        hranges]
  · rw [htable] at hrow
    refine Or.inl ?_
    rcases h.rows_commit hbatch hrow hrun with hlt | hsame
    · omega
    · have hnext : batchId = s.manifests.length := batchId_of_runId (hrun.symm.trans hsame)
      omega

theorem writes (hhex : config.HexDigests) (hplan : config.plan = none) (h : Identified config s)
    (hworker : s.worker = some worker) {batch : List (Record Row)}
    (hbatch : ∀ other, s.unfinished = some other → batch = other ∧ worker.stopRequested = false)
    {outcome : CallOutcome} {s' : World Row Out}
    (hwrites : Writes config { s with unfinished := some batch } worker batch outcome s') :
    Identified config s' := by
  have hsame : ∀ other, s.unfinished = some other → batch = other :=
    fun other hother => (hbatch other hother).1
  cases hwrites with
  | cut => exact (h.logged hsame).withoutWorker
  | stopped hstop =>
      have hhalf : ∀ runId, ¬ HalfDone config s runId := by
        rintro _ ⟨other, _, hother, -⟩
        exact nomatch (hbatch other hother).2.symm.trans hstop
      have hcompleted := h.completed hhalf
      exact ⟨h.numbered, h.ack_high, fun _ hsome => h.window _ (hworker.trans hsome),
        fun _ hsome => h.cursors _ (hworker.trans hsome), hcompleted.rows⟩
  | idle _ hnil =>
      have hhalf : ∀ runId, ¬ HalfDone config s runId := by
        rintro _ ⟨other, _, hother, hne, -⟩
        cases hsame other hother
        exact hne ((h.retained hworker batch).symm.trans hnil)
      have hcompleted := h.completed hhalf
      exact hcompleted.report hworker
  | retried _ _ hmanifest _ => exact nomatch (h.manifestAt_next hworker).symm.trans hmanifest
  | @appended retained processed _ hne hretained _ hprocess =>
      subst hretained
      have hboundary := h.boundaryOf_eq hworker batch
      rw [h.retained hworker] at hne hprocess
      rw [hboundary]
      refine ⟨h.numbered, h.ack_high, fun _ hnone => (nomatch hnone), fun _ hnone => (nomatch hnone),
        fun row hrow batchId boundaryId hrun => ?_⟩
      refine (h.rows_commit hsame hrow hrun).imp id fun hrun' => ?_
      refine ⟨batch, processed, rfl, hne, hprocess, hrun', ?_⟩
      rw [hrun']
      exact h.rowsOf_commit hhex hplan hsame hprocess
  | @published retained processed _ _ _ _ hretained _ _ htable hmanifests hack hend =>
      subst hretained
      rw [h.boundaryOf_eq hworker batch] at htable
      refine h.publish hworker hsame ?_ ?_ htable hmanifests hack
        (hend.imp (fun hended => hended.2.1) fun hreturned => hreturned.2.2)
      · exact h.next hworker
      · exact normalizedSourceRanges_batch _

theorem step (hhex : config.HexDigests) (hplan : config.plan = none) (h : Identified config s)
    {event : WorkerEvent Row} (hevent : Redelivers config s event) :
    Identified config (workerStep config s event) := by
  cases event with
  | deliver batch cut =>
      cases hworker : s.worker with
      | none =>
          simp only [workerStep, hworker]
          exact h
      | some worker =>
          obtain ⟨outcome, hwrites⟩ := deliver_writes hworker batch cut
          refine h.writes hhex hplan hworker (fun other hother => ?_) hwrites
          exact ⟨(hevent other hother).1, (hevent other hother).2 worker hworker⟩
  | stop =>
      refine ⟨h.numbered, h.ack_high, fun worker hsome => ?_, fun worker hsome => ?_, h.rows⟩
      · obtain ⟨old, hold, rfl⟩ := Option.map_eq_some_iff.mp hsome
        exact h.window old hold
      · obtain ⟨old, hold, rfl⟩ := Option.map_eq_some_iff.mp hsome
        exact h.cursors old hold
  | report =>
      cases hworker : s.worker with
      | none =>
          simp only [workerStep, hworker, Option.map_none]
          exact h.withoutWorker
      | some worker =>
          simp only [workerStep, hworker, Option.map_some]
          exact h.report hworker
  | crash => exact h.withoutWorker
  | start supplied =>
      refine ⟨h.numbered, h.ack_high, ?_, ?_, h.rows⟩
      · rintro _ ⟨⟩
        exact ⟨latest_recoveredWindow _ h.numbered h.ack_high, h.ack_high⟩
      · rintro _ ⟨⟩ key
        exact nextOffset_started hevent key
  | acknowledge batchId =>
      exact ⟨h.numbered, hevent, h.window, h.cursors, h.rows⟩

end Identified

/-! ## A committed batch -/

/-- The manifest is there, and the rows of the run are these. -/
structure Settled (config : WorkerConfig Row Out) (manifest : BatchManifest) (boundaryId : String)
    (rows : List Out) (s : World Row Out) : Prop where
  identified : Identified config s
  committed : manifestAt s.manifests manifest.batchId = some manifest
  stored : rowsOf s.table (runIdOf config manifest.batchId boundaryId) = rows

variable {manifest : BatchManifest} {boundaryId : String} {rows : List Out}

theorem manifestAt_append {manifests : List BatchManifest} {batchId : Int}
    (h : manifestAt manifests batchId = some manifest) (more : List BatchManifest) :
    manifestAt (manifests ++ more) batchId = some manifest := by
  rw [manifestAt, List.find?_append]
  show (manifestAt manifests batchId).or _ = _
  rw [h, Option.some_or]

theorem Settled.lt (h : Settled config manifest boundaryId rows s) :
    manifest.batchId < s.manifests.length :=
  (h.identified.numbered.bounds (List.mem_of_find?_eq_some h.committed)).2

/-- The commit of a later batch is of another run. -/
theorem Settled.commit (h : Settled config manifest boundaryId rows s)
    (batch : List (Record Row)) (processed : Processed Out) :
    rowsOf (commitRows s.table processed (pendingBoundary config s batch)).1
      (runIdOf config manifest.batchId boundaryId) = rows := by
  rw [rowsOf_commitRows_other, h.stored]
  intro hsame
  have hid : (s.manifests.length : Int) = manifest.batchId := batchId_of_runId hsame
  have := h.lt
  omega

/-- A call writes neither over the manifest nor to the run. -/
theorem Settled.writes (h : Settled config manifest boundaryId rows s)
    (hworker : s.worker = some worker) {batch : List (Record Row)} {outcome : CallOutcome}
    {s' : World Row Out}
    (hwrites : Writes config { s with unfinished := some batch } worker batch outcome s') :
    manifestAt s'.manifests manifest.batchId = some manifest ∧
      rowsOf s'.table (runIdOf config manifest.batchId boundaryId) = rows := by
  cases hwrites with
  | cut => exact ⟨h.committed, h.stored⟩
  | stopped _ => exact ⟨h.committed, h.stored⟩
  | idle _ _ => exact ⟨h.committed, h.stored⟩
  | retried _ _ _ _ => exact ⟨h.committed, h.stored⟩
  | appended _ _ hretained _ _ =>
      subst hretained
      refine ⟨h.committed, ?_⟩
      rw [h.identified.boundaryOf_eq hworker batch]
      exact h.commit batch _
  | published _ _ hretained _ _ htable hmanifests _ _ =>
      subst hretained
      rw [h.identified.boundaryOf_eq hworker batch] at htable
      rw [hmanifests, htable]
      exact ⟨manifestAt_append h.committed _, h.commit batch _⟩

theorem Settled.step (hhex : config.HexDigests) (hplan : config.plan = none)
    (h : Settled config manifest boundaryId rows s) {event : WorkerEvent Row}
    (hevent : Redelivers config s event) :
    Settled config manifest boundaryId rows (workerStep config s event) := by
  have hidentified := h.identified.step hhex hplan hevent
  cases event with
  | deliver batch cut =>
      cases hworker : s.worker with
      | none =>
          simp only [workerStep, hworker]
          exact h
      | some worker =>
          obtain ⟨outcome, hwrites⟩ := deliver_writes hworker batch cut
          obtain ⟨hcommitted, hstored⟩ := h.writes hworker hwrites
          exact ⟨hidentified, hcommitted, hstored⟩
  | stop => exact ⟨hidentified, h.committed, h.stored⟩
  | report => exact ⟨hidentified, h.committed, h.stored⟩
  | crash => exact ⟨hidentified, h.committed, h.stored⟩
  | start _ => exact ⟨hidentified, h.committed, h.stored⟩
  | acknowledge _ => exact ⟨hidentified, h.committed, h.stored⟩

/-! ## The manifest when the batch comes again -/

theorem fingerprintDiffers_self (fingerprint : String) :
    fingerprintDiffers fingerprint fingerprint = false := by
  simp [fingerprintDiffers]

/-- The manifest of a batch is accepted when it has a commit of the batch, and the
run id is found. -/
theorem validate_published {batchId : Int} {ranges : List KafkaRange} {total : Nat}
    {commit : Option IcebergCommit} (hranges : normalizedSourceRanges ranges = ranges) :
    validateManifestRetry config table
        (publishedManifest config (prepareBatchIdentity config batchId ranges) total processed
          commit) ranges total (prepareBatchIdentity config batchId ranges) = .ok () ↔
      commit.map IcebergCommit.sourceBoundary =
          some (prepareBatchIdentity config batchId ranges) ∧
        icebergSourceBoundaryExists table (prepareBatchIdentity config batchId ranges) = true := by
  have hpersisted : normalizedSourceRanges (publishedManifest config
      (prepareBatchIdentity config batchId ranges) total processed commit).sourceRanges = ranges :=
    hranges
  have hcommit : (publishedManifest config (prepareBatchIdentity config batchId ranges) total
      processed commit).icebergCommit = commit := rfl
  have hsame : ∀ fingerprint, ¬ fingerprintDiffers fingerprint fingerprint = true := by
    intro fingerprint
    rw [fingerprintDiffers_self]
    exact Bool.false_ne_true
  rw [validateManifestRetry]
  simp only [bind_eq_ok, rejectIf_eq_ok, hpersisted, hcommit]
  constructor
  · rintro ⟨_, -, _, hboundary, _, -, hexists⟩
    push Not at hboundary hexists
    exact ⟨hboundary.2, hexists⟩
  · rintro ⟨hboundary, hexists⟩
    refine ⟨(), ?_, (), ?_, (), fun hrun => hrun rfl, not_not.mpr hexists⟩
    · rintro (hcount | ⟨-, hdiffer⟩ | hdiffer | hdiffer | hdiffer)
      · exact hcount rfl
      · exact hdiffer rfl
      · exact hsame _ hdiffer
      · exact hsame _ hdiffer
      · exact hsame _ hdiffer
    · rintro (hother | hother)
      · exact hother rfl
      · exact hother hboundary

/-- The rows of the batch are in the table once, and its manifest is accepted when
the batch is delivered again. -/
def AppendedOnce (config : WorkerConfig Row Out) (s : World Row Out) (worker : Worker)
    (retained : List (Record Row)) (rows : List Out) : Prop :=
  rowsOf s.table (boundaryOf config worker retained).runId = rows ∧
    ∃ manifest, manifestAt s.manifests (boundaryOf config worker retained).batchId = some manifest ∧
      validateManifestRetry config s.table manifest (batchSourceRanges retained) retained.length
        (boundaryOf config worker retained) = .ok ()

/-- The call that commits a manifest. -/
theorem Identified.settled (hhex : config.HexDigests) (hplan : config.plan = none)
    (h : Identified config s) (hworker : s.worker = some worker) {batch : List (Record Row)}
    {cut : Option Cut} (hevent : Redelivers config s (.deliver batch cut))
    {retained : List (Record Row)}
    (hretained : retainUncommittedOffsets worker.cursors batch = retained)
    (hprocess : config.process retained = .ok processed)
    (hcommits : (workerStep config s (.deliver batch cut)).manifests ≠ s.manifests) :
    Settled config (manifestOf config s worker retained processed)
      (boundaryOf config worker retained).boundaryId processed.stored
        (workerStep config s (.deliver batch cut)) := by
  have hidentified := h.step hhex hplan hevent
  obtain ⟨outcome, hwrites⟩ := @deliver_writes _ _ config s worker hworker batch cut
  generalize workerStep config s (.deliver batch cut) = s' at hidentified hcommits hwrites ⊢
  cases hwrites with
  | cut => exact absurd rfl hcommits
  | stopped _ => exact absurd rfl hcommits
  | idle _ _ => exact absurd rfl hcommits
  | retried _ _ _ _ => exact absurd rfl hcommits
  | appended _ _ _ _ _ => exact absurd rfl hcommits
  | published _ _ hretained' _ hprocess' htable hmanifests _ _ =>
      cases hretained.symm.trans hretained'
      cases hprocess.symm.trans hprocess'
      subst hretained
      refine ⟨hidentified, ?_, ?_⟩
      · have hnone : manifestAt s.manifests (manifestOf config s worker
          (retainUncommittedOffsets worker.cursors batch) processed).batchId = none :=
            h.manifestAt_next hworker
        rw [hmanifests, manifestAt, List.find?_append]
        show (manifestAt s.manifests _).or _ = _
        rw [hnone, Option.none_or]
        exact List.find?_cons_of_pos (decide_eq_true rfl)
      · rw [htable]
        show rowsOf _ (boundaryOf config worker _).runId = _
        rw [h.boundaryOf_eq hworker batch]
        rw [h.retained hworker] at hprocess
        exact h.rowsOf_commit hhex hplan (fun other hother => (hevent other hother).1) hprocess

/-- Whatever is cut and delivered again, a committed batch is in the table once and
its manifest is accepted, exactly when the job runs no plan and the batch has rows
to store. -/
theorem exactly_once_append (hhex : config.HexDigests) (hclean : Clean config s)
    {pre post : List (WorkerEvent Row)} {batch : List (Record Row)} {cut : Option Cut}
    (hevents : Along (Redelivers config) (workerStep config) s (pre ++ .deliver batch cut :: post))
    (hworker : (play (workerStep config) s pre).worker = some worker)
    {retained : List (Record Row)}
    (hretained : retainUncommittedOffsets worker.cursors batch = retained)
    (hprocess : config.process retained = .ok processed)
    (hcommits : (workerStep config (play (workerStep config) s pre) (.deliver batch cut)).manifests ≠
      (play (workerStep config) s pre).manifests) :
    AppendedOnce config (play (workerStep config) s (pre ++ .deliver batch cut :: post)) worker
        retained processed.stored ↔
      config.plan = none ∧ processed.stored ≠ [] := by
  have hboundary : boundaryOf config worker retained = prepareBatchIdentity config
      (nextPublicationBatchId worker.window) (batchSourceRanges retained) := by
    rw [boundaryOf, normalizedSourceRanges_batch]
  have hsettled : config.plan = none → Settled config
      (manifestOf config (play (workerStep config) s pre) worker retained processed)
        (boundaryOf config worker retained).boundaryId processed.stored
          (play (workerStep config) s (pre ++ .deliver batch cut :: post)) := by
    intro hplan
    obtain ⟨hpre, hevent, hpost⟩ := along_append.mp hevents
    have hidentified := (Always.of_along (fun s event hs hevent => hs.step hhex hplan hevent)
      hclean.identified hpre).last
    have hcommitted := hidentified.settled hhex hplan hworker hevent hretained hprocess hcommits
    rw [play_append]
    exact (Always.of_along (fun s event hs hevent => hs.step hhex hplan hevent)
      hcommitted hpost).last
  have haccepted : ∀ table : IcebergTable Out,
      validateManifestRetry config table
          (manifestOf config (play (workerStep config) s pre) worker retained processed)
          (batchSourceRanges retained) retained.length (boundaryOf config worker retained) = .ok () ↔
        processed.stored ≠ [] ∧
          icebergSourceBoundaryExists table (boundaryOf config worker retained) = true := by
    intro table
    rw [manifestOf, hboundary, validate_published (normalizedSourceRanges_batch retained),
      commitRows_commit]
    by_cases hstored : processed.stored = []
    · simp [hstored]
    · simp [hstored]
  constructor
  · rintro ⟨-, manifest, hmanifest, hvalid⟩
    have hplan : config.plan = none := by
      obtain ⟨_, -, hrest⟩ := bind_eq_ok.mp hvalid
      obtain ⟨_, -, hrest⟩ := bind_eq_ok.mp hrest
      obtain ⟨_, -, hrest⟩ := bind_eq_ok.mp hrest
      have hexists := not_not.mp (rejectIf_eq_ok.mp hrest)
      exact plain_of_exists hexists
    have hcommitted := (hsettled hplan).committed
    cases hcommitted.symm.trans hmanifest
    exact ⟨hplan, ((haccepted _).mp hvalid).1⟩
  · rintro ⟨hplan, hstored⟩
    obtain ⟨-, hcommitted, hrows⟩ := hsettled hplan
    refine ⟨hrows, _, hcommitted, (haccepted _).mpr ⟨hstored, ?_⟩⟩
    refine (exists_iff_of_plain hhex hplan _).mpr (exists_row_of_rowsOf ?_)
    have hrun : rowsOf (play (workerStep config) s (pre ++ .deliver batch cut :: post)).table
      (boundaryOf config worker retained).runId = processed.stored := hrows
    rw [boundaryOf] at hrun
    rw [hrun]
    exact hstored

instance [DecidableEq Row] (config : WorkerConfig Row Out) (s : World Row Out)
    (batch : List (Record Row)) (cut : Option Cut) :
    Decidable (Redelivers config s (.deliver batch cut)) :=
  match hunfinished : s.unfinished with
  | none => .isTrue fun _ hsome => nomatch hunfinished.symm.trans hsome
  | some other =>
      decidable_of_iff (batch = other ∧ ∀ worker ∈ s.worker.toList, worker.stopRequested = false)
        ⟨fun h _ hsome => by
            cases hunfinished.symm.trans hsome
            exact ⟨h.1, fun worker hworker => h.2 worker (Option.mem_toList.mpr hworker)⟩,
          fun h => ⟨(h other hunfinished).1, fun worker hworker =>
            (h other hunfinished).2 worker (Option.mem_toList.mp hworker)⟩⟩

end

/-! ## A batch of one order -/

/-- The first batch is appended, and the process dies before its manifest. -/
def diedAfterCommit : List (WorkerEvent String) :=
  [.start [], .deliver [ordersRecord 0] (some .afterCommit)]

/-- The process after a world. -/
def restarted (config : WorkerConfig String String) : Worker :=
  startedWorker config (play (workerStep config) ordersWorld diedAfterCommit) []

theorem clean_orders (config : WorkerConfig String String) : Clean config ordersWorld :=
  ⟨rfl, rfl, rfl, rfl, fun _ hrow => nomatch hrow⟩

/-- The batch is there once after it comes again, and after a third process. -/
theorem exactly_once_append_orders :
    AppendedOnce ordersWorker (play (workerStep ordersWorker) ordersWorld
        ((diedAfterCommit ++ [.start []]) ++ .deliver [ordersRecord 0] (some .afterManifest) ::
          [.start [], .deliver [ordersRecord 0] none]))
      (restarted ordersWorker) (retainUncommittedOffsets (restarted ordersWorker).cursors
        [ordersRecord 0]) ((retainUncommittedOffsets (restarted ordersWorker).cursors
          [ordersRecord 0]).map Record.row) := by
  have hhex : ordersWorker.HexDigests := by
    intro text c hc
    have hdigits : ∀ c ∈ "0f".toList, c ∈ "0123456789abcdef".toList :=
      forall_of_all (by decide)
    exact hdigits c hc
  have hevents : Along (Redelivers ordersWorker) (workerStep ordersWorker) ordersWorld
      ((diedAfterCommit ++ [.start []]) ++ .deliver [ordersRecord 0] (some .afterManifest) ::
        [.start [], .deliver [ordersRecord 0] none]) := by
    refine ⟨inSequence_start _ _, ?_, inSequence_start _ _, ?_, inSequence_start _ _, ?_, trivial⟩
      <;> decide +kernel
  refine (@exactly_once_append _ _ _ _ (restarted ordersWorker) ⟨_, 0, 0⟩ hhex (clean_orders _) _ _ _ _
    hevents rfl _ rfl rfl ?_).mpr ⟨rfl, ?_⟩ <;> decide +kernel

/-- The worker of a job that runs a plan. -/
def plannedWorker : WorkerConfig String String :=
  { ordersWorker with plan := some ⟨"plan", 1, "token", fun _ => []⟩ }

/-- Under a plan the batch that comes again is appended again, and its manifest is
rejected. -/
theorem appended_twice :
    Along (Redelivers plannedWorker) (workerStep plannedWorker) ordersWorld
        ((diedAfterCommit ++ [.start []]) ++ .deliver [ordersRecord 0] none :: []) ∧
      (play (workerStep plannedWorker) ordersWorld
        ((diedAfterCommit ++ [.start []]) ++ .deliver [ordersRecord 0] none :: [])).manifests ≠ [] ∧
      ¬ AppendedOnce plannedWorker (play (workerStep plannedWorker) ordersWorld
          ((diedAfterCommit ++ [.start []]) ++ .deliver [ordersRecord 0] none :: []))
        (restarted plannedWorker) [ordersRecord 0] ["order"] := by
  refine ⟨⟨inSequence_start _ _, ?_, inSequence_start _ _, ?_, trivial⟩, ?_, ?_⟩
  · decide +kernel
  · decide +kernel
  · decide +kernel
  · rintro ⟨hrows, -⟩
    exact absurd hrows (by decide +kernel)

end AskLake.StreamWorker

/-
# `AskLake.StreamWorker.NoOffsetLost` — a call that returns leaves its offsets in manifests

When `writeBatch` returns, Spark completes the micro-batch and never delivers it
again.  So a return says that every offset of the batch is in the ranges of a
committed manifest, and the cursors, by which offsets are dropped, say the same of
every offset behind them:

    returned                   every offset of the batch is committed
    o < nextOffset cursors     o is committed

Both hold as long as batches go on where the cursors are, and as long as nothing
new is delivered once a stop is requested: then the call returns at once.
-/
import AskLake.StreamWorker.WriteBatch

namespace AskLake.StreamWorker

open AskLake.Lib AskLake.Kafka AskLake.Python AskLake.ContinuousSql

/-- The offset is in the ranges of a committed manifest. -/
def Committed (manifests : List BatchManifest) (key : PartitionKey) (o : Int) : Prop :=
  ∃ manifest ∈ manifests, CoveredBy manifest.sourceRanges key o

/-- No offset behind these cursors is missing. -/
def Behind (manifests : List BatchManifest) (cursors : Cursors) : Prop :=
  ∀ key o, 0 ≤ o → o < nextOffset cursors key → Committed manifests key o

section
variable {Row Out : Type}

/-! ## The property, and its condition -/

/-- No offset behind a cursor of the worker is missing from the manifests. -/
def NothingMissing (s : World Row Out) : Prop :=
  ∀ worker, s.worker = some worker → Behind s.manifests worker.cursors

/-- A call that returns leaves every offset of its batch in the manifests. -/
def ReturnsCommitted (config : WorkerConfig Row Out) (s : World Row Out) : WorkerEvent Row → Prop
  | .deliver batch cut => ∀ worker, s.worker = some worker →
      (writeBatch config { s with unfinished := some batch } worker batch cut).1 = .returned →
        ∀ record ∈ batch,
          Committed (workerStep config s (.deliver batch cut)).manifests record.key record.offset
  | _ => True

/-- Nothing new is delivered after a stop is requested, what is new goes on where
the cursors are, and the cursors that a process is given are of manifests. -/
def InSequence (config : WorkerConfig Row Out) (s : World Row Out) : WorkerEvent Row → Prop
  | .deliver batch _ => ∀ worker, s.worker = some worker →
      (worker.stopRequested = true → retainUncommittedOffsets worker.cursors batch = []) ∧
        ∀ range ∈ batchSourceRanges (retainUncommittedOffsets worker.cursors batch),
          range.startOffset ≤ nextOffset worker.cursors range.key
  | .start supplied => ∀ key, nextOffset (normalizeStreamPartitionCursors supplied) key ≤
      nextOffset (recoveredCursors config s) key
  | _ => True

/-! ## Offsets in manifests -/

variable {config : WorkerConfig Row Out} {s : World Row Out} {worker : Worker}
  {manifests : List BatchManifest} {manifest : BatchManifest} {cursors : Cursors}
  {key : PartitionKey} {o : Int}

theorem Committed.append (h : Committed manifests key o) (more : List BatchManifest) :
    Committed (manifests ++ more) key o := by
  obtain ⟨manifest, hmanifest, hcovered⟩ := h
  exact ⟨manifest, List.mem_append_left _ hmanifest, hcovered⟩

theorem Behind.append (h : Behind manifests cursors) (more : List BatchManifest) :
    Behind (manifests ++ more) cursors :=
  fun key o hnonneg hlt => (h key o hnonneg hlt).append more

/-- Cursors that move to the ends of committed ranges, from where they were. -/
theorem Behind.advance (h : Behind manifests cursors) {ranges : List KafkaRange}
    (hcommitted : ∀ range ∈ ranges, ∀ o, range.covers o → Committed manifests range.key o)
    (hstart : ∀ range ∈ ranges, range.startOffset ≤ nextOffset cursors range.key) :
    Behind manifests (advanceWorkerStreamPartitionCursors cursors ranges) := by
  intro key o hnonneg hlt
  rcases (lt_nextOffset_advance cursors ranges key o).mp hlt with hlt | ⟨range, hrange, rfl, hend⟩
  · exact h key o hnonneg hlt
  · by_cases hbefore : o < range.startOffset
    · exact h range.key o hnonneg (hbefore.trans_le (hstart range hrange))
    · exact hcommitted range hrange o ⟨not_lt.mp hbefore, hend⟩

/-- What is retained is in the ranges, and the rest is behind the cursors. -/
theorem committed_of_ranges (h : Behind manifests cursors) {batch : List (Record Row)}
    (hcommitted : ∀ range ∈ batchSourceRanges (retainUncommittedOffsets cursors batch),
      ∀ o, range.covers o → Committed manifests range.key o) {record : Record Row}
    (hrecord : record ∈ batch) : Committed manifests record.key record.offset := by
  by_cases hbehind : record.offset < nextOffset cursors record.key
  · exact h record.key record.offset record.offset_nonneg hbehind
  · have hretained : record ∈ retainUncommittedOffsets cursors batch :=
      mem_retainUncommittedOffsets.mpr ⟨hrecord, not_lt.mp hbehind⟩
    obtain ⟨range, hrange, hkey, hcovers⟩ := coveredBy_batchSourceRanges hretained
    rw [← hkey]
    exact hcommitted range hrange _ hcovers

/-! ## The cursors of a new process -/

/-- What the fold over manifests leaves. -/
theorem lt_nextOffset_foldl (manifests : List BatchManifest) (cursors : Cursors)
    (key : PartitionKey) (o : Int) :
    o < nextOffset (manifests.foldl (fun cursors manifest =>
        advanceWorkerStreamPartitionCursors cursors manifest.sourceRanges) cursors) key ↔
      o < nextOffset cursors key ∨
        ∃ manifest ∈ manifests, ∃ range ∈ manifest.sourceRanges,
          range.key = key ∧ o < range.endOffset := by
  induction manifests generalizing cursors with
  | nil => simp
  | cons manifest rest ih =>
      rw [List.foldl_cons, ih, lt_nextOffset_advance, or_assoc]
      simp only [List.mem_cons, exists_eq_or_imp]

theorem lt_nextOffset_recovered (config : WorkerConfig Row Out) (s : World Row Out)
    (key : PartitionKey) (o : Int) : o < nextOffset (recoveredCursors config s) key ↔
      o < 0 ∨ ∃ manifest ∈ s.manifests, ∃ range ∈ manifest.sourceRanges,
        range.key = key ∧ o < range.endOffset := by
  have hfold := lt_nextOffset_foldl (sortByBatchId s.manifests) (fun _ => none) key o
  refine hfold.trans (or_congr Iff.rfl ?_)
  exact exists_congr fun manifest => and_congr (List.mem_insertionSort _) Iff.rfl

/-- Cursors that are handed over and not past the manifests change nothing. -/
theorem nextOffset_mergeCursors {cursors more : Cursors}
    (h : nextOffset cursors key ≤ nextOffset more key) (hnonneg : 0 ≤ nextOffset cursors key) :
    nextOffset (mergeCursors cursors more) key = nextOffset more key := by
  unfold mergeCursors
  cases hmore : more key with
  | none =>
      have hzero : nextOffset more key = 0 := by
        rw [nextOffset, hmore]
        rfl
      rw [hzero] at h ⊢
      rw [nextOffset]
      simp only [hmore]
      exact le_antisymm h hnonneg
  | some next =>
      have hnext : nextOffset more key = next := by
        rw [nextOffset, hmore]
        rfl
      rw [hnext] at h ⊢
      rw [nextOffset]
      simp only [hmore]
      exact max_eq_right h

theorem nextOffset_normalize_nonneg (items : List (PartitionKey × Int)) (key : PartitionKey) :
    0 ≤ nextOffset (normalizeStreamPartitionCursors items) key := by
  have hfold : ∀ (items : List (PartitionKey × Int)) (cursors : Cursors),
      0 ≤ nextOffset cursors key →
        0 ≤ nextOffset (items.foldl (fun cursors item =>
          raiseCursor cursors (strip item.1.1, item.1.2) item.2) cursors) key := by
    intro items
    induction items with
    | nil => exact fun _ h => h
    | cons item rest ih =>
        intro cursors hcursors
        refine ih _ ?_
        rw [nextOffset_raiseCursor]
        split
        · rename_i hkey
          rw [hkey] at hcursors
          exact hcursors.trans (le_max_left _ _)
        · exact hcursors
  exact hfold _ _ (le_refl _)

/-- A new process starts with the cursors of the manifests. -/
theorem nextOffset_started {supplied : List (PartitionKey × Int)}
    (h : InSequence config s (.start supplied)) (key : PartitionKey) :
    nextOffset (startedWorker config s supplied).cursors key =
      nextOffset (recoveredCursors config s) key :=
  nextOffset_mergeCursors (h key) (nextOffset_normalize_nonneg supplied key)

/-! ## The invariant -/

structure Accounted (s : World Row Out) : Prop where
  /-- a manifest has the ranges of its boundary -/
  bound : ∀ manifest ∈ s.manifests, manifest.sourceRanges = manifest.sourceBoundary.sourceRanges
  /-- no offset before the end of a committed range is missing -/
  closed : ∀ manifest ∈ s.manifests, ∀ range ∈ manifest.sourceRanges, ∀ o, 0 ≤ o →
    o < range.endOffset → Committed s.manifests range.key o
  nothingMissing : NothingMissing s

theorem Accounted.recovered (h : Accounted s) : Behind s.manifests (recoveredCursors config s) := by
  intro key o hnonneg hlt
  rcases (lt_nextOffset_recovered config s key o).mp hlt with
    hneg | ⟨manifest, hmanifest, range, hrange, rfl, hend⟩
  · omega
  · exact h.closed manifest hmanifest range hrange o hnonneg hend

/-- The manifest of a batch covers its ranges. -/
theorem committed_manifestOf (config : WorkerConfig Row Out) (s : World Row Out) (worker : Worker)
    (retained : List (Record Row)) (processed : Processed Out) {range : KafkaRange}
    (hrange : range ∈ batchSourceRanges retained) (o : Int) (ho : range.covers o) :
    Committed (s.manifests ++ [manifestOf config s worker retained processed]) range.key o := by
  refine ⟨manifestOf config s worker retained processed,
    List.mem_append_right _ List.mem_cons_self, range, ?_, rfl, ho⟩
  show range ∈ normalizedSourceRanges (batchSourceRanges retained)
  rw [normalizedSourceRanges_batch]
  exact hrange

/-- A call keeps the invariant, and returns only with its offsets committed. -/
theorem Accounted.writes (h : Accounted s) {batch : List (Record Row)} {outcome : CallOutcome}
    {s' : World Row Out} (hworker : s.worker = some worker)
    (hstop : worker.stopRequested = true → retainUncommittedOffsets worker.cursors batch = [])
    (hstart : ∀ range ∈ batchSourceRanges (retainUncommittedOffsets worker.cursors batch),
      range.startOffset ≤ nextOffset worker.cursors range.key)
    (hwrites : Writes config s worker batch outcome s') :
    Accounted s' ∧
      (outcome = .returned →
        ∀ record ∈ batch, Committed s'.manifests record.key record.offset) := by
  have hbehind := h.nothingMissing worker hworker
  have hidle : retainUncommittedOffsets worker.cursors batch = [] →
      ∀ record ∈ batch, Committed s.manifests record.key record.offset := by
    intro hnil record hrecord
    refine committed_of_ranges hbehind (fun range hrange => ?_) hrecord
    rw [hnil] at hrange
    exact nomatch hrange
  cases hwrites with
  | cut => exact ⟨⟨h.bound, h.closed, fun _ hnone => nomatch hnone⟩, fun hreturned => nomatch hreturned⟩
  | stopped hrequested =>
      refine ⟨⟨h.bound, h.closed, ?_⟩, fun _ => hidle (hstop hrequested)⟩
      rintro _ ⟨⟩
      exact hbehind
  | idle _ hnil =>
      refine ⟨⟨h.bound, h.closed, ?_⟩, fun _ => hidle hnil⟩
      rintro _ ⟨⟩
      exact hbehind
  | @retried retained manifest _ hretained hmanifest hvalid =>
      -- the manifest that is there has the ranges of the batch
      obtain ⟨hboundary, -⟩ := ranges_of_validateManifestRetry hvalid
      have hmem : manifest ∈ s.manifests := List.mem_of_find?_eq_some hmanifest
      have hranges : manifest.sourceRanges = batchSourceRanges retained := by
        rw [h.bound manifest hmem, hboundary]
        exact normalizedSourceRanges_batch retained
      have hcommitted : ∀ range ∈ batchSourceRanges retained, ∀ o, range.covers o →
          Committed s.manifests range.key o := by
        intro range hrange o ho
        exact ⟨manifest, hmem, range, by rw [hranges]; exact hrange, rfl, ho⟩
      subst hretained
      refine ⟨⟨h.bound, h.closed, ?_⟩, fun _ record hrecord =>
        committed_of_ranges hbehind hcommitted hrecord⟩
      rintro _ ⟨⟩
      exact hbehind.advance hcommitted hstart
  | appended =>
      exact ⟨⟨h.bound, h.closed, fun _ hnone => nomatch hnone⟩, fun hreturned => nomatch hreturned⟩
  | @published retained processed _ _ _ _ hretained _ _ _ hmanifests _ hend =>
      subst hretained
      have hcommitted := fun range hrange o ho =>
        @committed_manifestOf _ _ config s worker
          (retainUncommittedOffsets worker.cursors batch) processed range hrange o ho
      have hbehind' := hbehind.append [manifestOf config s worker
        (retainUncommittedOffsets worker.cursors batch) processed]
      rw [← hmanifests] at hcommitted hbehind'
      refine ⟨⟨fun manifest hmanifest => ?_, fun manifest hmanifest range hrange o hnonneg hlt => ?_,
        fun worker' hworker' => ?_⟩, fun _ record hrecord =>
          committed_of_ranges hbehind' hcommitted hrecord⟩
      · rw [hmanifests] at hmanifest
        rcases List.mem_append.mp hmanifest with hold | hnew
        · exact h.bound manifest hold
        · rw [List.mem_singleton.mp hnew]
          rfl
      · rw [hmanifests] at hmanifest
        rcases List.mem_append.mp hmanifest with hold | hnew
        · rw [hmanifests]
          exact (h.closed manifest hold range hrange o hnonneg hlt).append _
        · rw [List.mem_singleton.mp hnew] at hrange
          have hrange : range ∈ batchSourceRanges
              (retainUncommittedOffsets worker.cursors batch) := by
            rw [← normalizedSourceRanges_batch]
            exact hrange
          by_cases hbefore : o < range.startOffset
          · exact hbehind' range.key o hnonneg (hbefore.trans_le (hstart range hrange))
          · exact hcommitted range hrange o ⟨not_lt.mp hbefore, hlt⟩
      · rcases hend with ⟨-, hnone, -⟩ | ⟨-, -, hsome⟩
        · exact nomatch hnone.symm.trans hworker'
        · cases hsome.symm.trans hworker'
          exact hbehind'.advance hcommitted hstart

theorem Accounted.step (h : Accounted s) {event : WorkerEvent Row}
    (hevent : InSequence config s event) :
    Accounted (workerStep config s event) ∧ ReturnsCommitted config s event := by
  cases event with
  | deliver batch cut =>
      cases hworker : s.worker with
      | none =>
          simp only [workerStep, ReturnsCommitted, hworker]
          exact ⟨h, fun _ hnone => by cases hnone⟩
      | some worker =>
          obtain ⟨hstop, hstart⟩ := hevent worker hworker
          have hlogged : Accounted { s with unfinished := some batch } :=
            ⟨h.bound, h.closed, h.nothingMissing⟩
          have hwrites := writeBatch_writes config { s with unfinished := some batch } worker batch cut
          obtain ⟨haccounted, hcommitted⟩ := hlogged.writes hworker hstop hstart hwrites
          simp only [workerStep, ReturnsCommitted, hworker]
          refine ⟨haccounted, ?_⟩
          rintro _ ⟨⟩ hreturned
          exact hcommitted hreturned
  | stop =>
      refine ⟨⟨h.bound, h.closed, fun worker hworker => ?_⟩, trivial⟩
      obtain ⟨old, hold, rfl⟩ := Option.map_eq_some_iff.mp hworker
      exact h.nothingMissing old hold
  | report =>
      refine ⟨⟨h.bound, h.closed, fun worker hworker => ?_⟩, trivial⟩
      obtain ⟨old, hold, rfl⟩ := Option.map_eq_some_iff.mp hworker
      exact h.nothingMissing old hold
  | crash => exact ⟨⟨h.bound, h.closed, fun _ hnone => by cases hnone⟩, trivial⟩
  | start supplied =>
      refine ⟨⟨h.bound, h.closed, ?_⟩, trivial⟩
      rintro _ ⟨⟩ key o hnonneg hlt
      rw [nextOffset_started hevent] at hlt
      exact h.recovered key o hnonneg hlt
  | acknowledge _ => exact ⟨⟨h.bound, h.closed, h.nothingMissing⟩, trivial⟩

theorem Accounted.start (hmanifests : s.manifests = []) (hworker : s.worker = none) :
    Accounted s where
  bound := by
    rw [hmanifests]
    exact fun _ hmanifest => nomatch hmanifest
  closed := by
    rw [hmanifests]
    exact fun _ hmanifest => nomatch hmanifest
  nothingMissing := fun _ hsome => nomatch hworker.symm.trans hsome

/-- In a run whose batches go on where the cursors are, and of which nothing new is
delivered after a stop is requested, every call that returns leaves the offsets of
its batch in committed manifests, and no offset behind a cursor is missing. -/
theorem no_offset_lost {events : List (WorkerEvent Row)} (hmanifests : s.manifests = [])
    (hworker : s.worker = none)
    (hevents : Along (InSequence config) (workerStep config) s events) :
    Along (ReturnsCommitted config) (workerStep config) s events ∧
      Always NothingMissing (workerStep config) s events := by
  have hstart := Accounted.start hmanifests hworker
  refine ⟨Along.of_keeps (fun s event hs hevent => (hs.step hevent).2)
    (fun s event hs hevent => (hs.step hevent).1) hstart hevents, ?_⟩
  exact (Always.of_along (fun s event hs hevent => (hs.step hevent).1) hstart hevents).imp
    fun s hs => hs.nothingMissing

theorem nextOffset_recovered_nonneg (config : WorkerConfig Row Out) (s : World Row Out)
    (key : PartitionKey) : 0 ≤ nextOffset (recoveredCursors config s) key := by
  by_contra hneg
  have hlt := (lt_nextOffset_recovered config s key _).mpr (Or.inl (not_le.mp hneg))
  exact lt_irrefl _ hlt

/-- A process that is given no cursors. -/
theorem inSequence_start (config : WorkerConfig Row Out) (s : World Row Out) :
    InSequence config s (.start []) :=
  fun key => nextOffset_recovered_nonneg config s key

instance (config : WorkerConfig Row Out) (s : World Row Out) (batch : List (Record Row))
    (cut : Option Cut) : Decidable (InSequence config s (.deliver batch cut)) :=
  match hworker : s.worker with
  | none => .isTrue fun _ hsome => nomatch hworker.symm.trans hsome
  | some worker =>
      decidable_of_iff ((worker.stopRequested = true →
          retainUncommittedOffsets worker.cursors batch = []) ∧
        ∀ range ∈ batchSourceRanges (retainUncommittedOffsets worker.cursors batch),
          range.startOffset ≤ nextOffset worker.cursors range.key)
        ⟨fun h _ hsome => by cases hworker.symm.trans hsome; exact h, fun h => h worker hworker⟩

end

/-! ## A topic of orders -/

def ordersRecord (offset : Nat) : Record String where
  topic := "orders"
  partition := 0
  offset := offset
  row := "order"
  topic_stripped := by decide +kernel
  topic_named := by decide
  topic_short := by decide +kernel
  partition_nonneg := le_refl _
  offset_nonneg := Int.natCast_nonneg _

/-- A job that stores every record; digests are all one text. -/
def ordersWorker : WorkerConfig String String where
  sha256 := fun _ => "0f"
  lower := id
  casefold := id
  jobId := "job-1"
  topic := "orders"
  consumerGroupId := "asklake"
  checkpointPath := "s3://lake/checkpoint/"
  plan := none
  ruleFingerprint := "rules"
  runtimeFingerprint := "runtime"
  schemaFingerprint := "schema"
  publishedBatchLimit := 100
  publishedBatchLimit_pos := by decide
  process := fun records => .ok ⟨records.map Record.row, 0, 0⟩

def ordersWorld : World String String where
  table := none
  manifests := []
  catalogAck := none
  unfinished := none
  worker := none

/-- A process that dies between the commits, and one that is stopped. -/
theorem no_offset_lost_orders :
    Along (ReturnsCommitted ordersWorker) (workerStep ordersWorker) ordersWorld
        [.start [], .deliver [ordersRecord 0, ordersRecord 1] none,
          .deliver [ordersRecord 2] (some .afterCommit), .start [],
          .deliver [ordersRecord 2] none, .stop, .deliver [ordersRecord 2] none] ∧
      Always NothingMissing (workerStep ordersWorker) ordersWorld
        [.start [], .deliver [ordersRecord 0, ordersRecord 1] none,
          .deliver [ordersRecord 2] (some .afterCommit), .start [],
          .deliver [ordersRecord 2] none, .stop, .deliver [ordersRecord 2] none] := by
  refine no_offset_lost rfl rfl ⟨inSequence_start _ _, ?_, ?_, inSequence_start _ _, ?_, trivial, ?_,
    trivial⟩ <;> decide +kernel

/-- A batch that is delivered after the stop signal is completed without a manifest. -/
theorem batch_lost_after_stop :
    ¬ Along (ReturnsCommitted ordersWorker) (workerStep ordersWorker) ordersWorld
        [.start [], .stop, .deliver [ordersRecord 0] none] := by
  rintro ⟨-, -, hreturns, -⟩
  obtain ⟨manifest, hmanifest, -⟩ :=
    hreturns _ rfl rfl (ordersRecord 0) List.mem_cons_self
  exact nomatch hmanifest

end AskLake.StreamWorker

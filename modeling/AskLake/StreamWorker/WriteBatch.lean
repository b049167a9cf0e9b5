/-
# `AskLake.StreamWorker.WriteBatch` — a micro-batch on its way to a manifest

`writeBatch` is the function that Spark calls with each micro-batch.  It returns
without writing when a stop is requested, when nothing of the batch is new, and
when the batch has a manifest; otherwise it makes two commits:

    identity  →  Iceberg append  →  batch manifest  →  window, cursors, report

and may die in between (`Cut`).  An exception ends the query and with it the
process, so that it is the same as dying.  Spark delivers the batch again that was
not finished, and no other; `unfinished` is what its log holds.
-/
import AskLake.StreamWorker.PublicationRun

namespace AskLake.StreamWorker

open AskLake.Lib AskLake.Kafka AskLake.Python AskLake.ContinuousSql

/-! ## The process, and what outlives it -/

structure Worker where
  stopRequested : Bool
  cursors : Cursors
  window : Window

structure World (Row Out : Type) where
  table : IcebergTable Out
  manifests : List BatchManifest
  /-- the acknowledgement document -/
  catalogAck : Option Int
  /-- the micro-batch that Spark has started and not completed -/
  unfinished : Option (List (Record Row))
  worker : Option Worker

/-- Where a call ends that does not return. -/
inductive Cut
  /-- nothing is committed, or the append is rolled back -/
  | beforeCommit
  | afterCommit
  | afterManifest
  deriving DecidableEq

inductive CallOutcome
  | returned
  | ended
  deriving DecidableEq

section
variable {Row Out : Type}

def World.acknowledged (s : World Row Out) : Int := s.catalogAck.getD (-1)

/-- `report`, as far as it changes the worker. -/
def reported (config : WorkerConfig Row Out) (s : World Row Out) (worker : Worker) : Worker :=
  { worker with
    window := applyCatalogAck config.publishedBatchLimit s.manifests worker.window s.acknowledged }

/-- The worker after a batch is published, or was. -/
def remembered (config : WorkerConfig Row Out) (worker : Worker) (manifest : BatchManifest)
    (ranges : List KafkaRange) : Worker :=
  { worker with
    window := rememberPublishedBatch config.publishedBatchLimit worker.window manifest
    cursors := advanceWorkerStreamPartitionCursors worker.cursors ranges }

def boundaryOf (config : WorkerConfig Row Out) (worker : Worker) (retained : List (Record Row)) :
    SourceBoundary :=
  prepareBatchIdentity config (nextPublicationBatchId worker.window)
    (normalizedSourceRanges (batchSourceRanges retained))

/-- The table after the append, and the commit; without rows there is none. -/
def commitRows (table : IcebergTable Out) (processed : Processed Out) (boundary : SourceBoundary) :
    IcebergTable Out × Option IcebergCommit :=
  match processed.stored with
  | [] => (table, none)
  | row :: rows =>
      let (table, commit) := commitIcebergTable table (row :: rows) boundary
      (table, some commit)

def manifestOf (config : WorkerConfig Row Out) (s : World Row Out) (worker : Worker)
    (retained : List (Record Row)) (processed : Processed Out) : BatchManifest :=
  let boundary := boundaryOf config worker retained
  publishedManifest config boundary retained.length processed
    (commitRows s.table processed boundary).2

/-- The process is gone. -/
def World.ended (s : World Row Out) : CallOutcome × World Row Out :=
  (.ended, { s with worker := none })

/-- The call returns, and Spark completes the micro-batch. -/
def World.returned (s : World Row Out) (worker : Worker) : CallOutcome × World Row Out :=
  (.returned, { s with worker := some worker, unfinished := none })

/-- `write_batch` from the append on. -/
def publishBatch (config : WorkerConfig Row Out) (s : World Row Out) (worker : Worker)
    (retained : List (Record Row)) (processed : Processed Out) (cut : Option Cut) :
    CallOutcome × World Row Out :=
  let boundary := boundaryOf config worker retained
  let manifest := manifestOf config s worker retained processed
  let appended := { s with table := (commitRows s.table processed boundary).1 }
  if cut = some .afterCommit then appended.ended
  else
    let written := { appended with manifests := writeBatchManifest s.manifests manifest }
    if cut = some .afterManifest then written.ended
    else
      written.returned (reported config written
        (remembered config worker manifest (batchSourceRanges retained)))

/-- `write_batch`, with the batch in Spark's log. -/
def writeBatch (config : WorkerConfig Row Out) (s : World Row Out) (worker : Worker)
    (batch : List (Record Row)) (cut : Option Cut) : CallOutcome × World Row Out :=
  if cut = some .beforeCommit then s.ended
  else if worker.stopRequested then s.returned worker
  else
    match retainUncommittedOffsets worker.cursors batch with
    | [] => s.returned (reported config s worker)
    | record :: records =>
        let retained := record :: records
        let ranges := batchSourceRanges retained
        match manifestAt s.manifests (nextPublicationBatchId worker.window) with
        | some manifest =>
            match validateManifestRetry config s.table manifest ranges retained.length
                (boundaryOf config worker retained) with
            | .error _ => s.ended
            | .ok _ => s.returned (reported config s (remembered config worker manifest ranges))
        | none =>
            match config.process retained with
            | .error _ => s.ended
            | .ok processed => publishBatch config s worker retained processed cut

/-! ## Runs -/

/-- The cursors that the manifests alone give. -/
def recoveredCursors (config : WorkerConfig Row Out) (s : World Row Out) : Cursors :=
  (recoverPublishedState config.publishedBatchLimit s.manifests s.acknowledged).partitionCursors

/-- `advance_worker_stream_partition_cursors`, for a list with one item a key. -/
def mergeCursors (cursors more : Cursors) : Cursors := fun key =>
  match more key with
  | none => cursors key
  | some next => some (max (nextOffset cursors key) next)

/-- A new process, with the cursors the control plane hands over. -/
def startedWorker (config : WorkerConfig Row Out) (s : World Row Out)
    (supplied : List (PartitionKey × Int)) : Worker where
  stopRequested := false
  cursors := mergeCursors (normalizeStreamPartitionCursors supplied) (recoveredCursors config s)
  window := recoveredWindow config.publishedBatchLimit s.manifests s.acknowledged

inductive WorkerEvent (Row : Type)
  /-- Spark calls the function; the call may be cut -/
  | deliver (batch : List (Record Row)) (cut : Option Cut)
  /-- `on_signal` -/
  | stop
  | report
  | crash
  | start (supplied : List (PartitionKey × Int))
  | acknowledge (batchId : Int)

def workerStep (config : WorkerConfig Row Out) (s : World Row Out) :
    WorkerEvent Row → World Row Out
  | .deliver batch cut =>
      match s.worker with
      | none => s
      | some worker => (writeBatch config { s with unfinished := some batch } worker batch cut).2
  | .stop =>
      { s with worker := s.worker.map fun worker => { worker with stopRequested := true } }
  | .report => { s with worker := s.worker.map (reported config s) }
  | .crash => { s with worker := none }
  | .start supplied => { s with worker := some (startedWorker config s supplied) }
  | .acknowledge batchId => { s with catalogAck := some batchId }

/-! ## What a call can do -/

/-- The ways through `writeBatch`. -/
inductive Writes (config : WorkerConfig Row Out) (s : World Row Out) (worker : Worker)
    (batch : List (Record Row)) : CallOutcome → World Row Out → Prop
  | cut : Writes config s worker batch .ended { s with worker := none }
  | stopped (hstop : worker.stopRequested = true) :
      Writes config s worker batch .returned { s with worker := some worker, unfinished := none }
  | idle (hstop : worker.stopRequested = false)
      (hnil : retainUncommittedOffsets worker.cursors batch = []) :
      Writes config s worker batch .returned
        { s with worker := some (reported config s worker), unfinished := none }
  | retried {retained : List (Record Row)} {manifest : BatchManifest}
      (hstop : worker.stopRequested = false)
      (hretained : retainUncommittedOffsets worker.cursors batch = retained)
      (hmanifest : manifestAt s.manifests (nextPublicationBatchId worker.window) = some manifest)
      (hvalid : validateManifestRetry config s.table manifest (batchSourceRanges retained)
        retained.length (boundaryOf config worker retained) = .ok ()) :
      Writes config s worker batch .returned
        { s with
          worker := some (reported config s
            (remembered config worker manifest (batchSourceRanges retained)))
          unfinished := none }
  | appended {retained : List (Record Row)} {processed : Processed Out}
      (hstop : worker.stopRequested = false) (hne : retained ≠ [])
      (hretained : retainUncommittedOffsets worker.cursors batch = retained)
      (hmanifest : manifestAt s.manifests (nextPublicationBatchId worker.window) = none)
      (hprocess : config.process retained = .ok processed) :
      Writes config s worker batch .ended
        { s with
          table := (commitRows s.table processed (boundaryOf config worker retained)).1
          worker := none }
  | published {retained : List (Record Row)} {processed : Processed Out} {outcome : CallOutcome}
      {s' : World Row Out} (hstop : worker.stopRequested = false) (hne : retained ≠ [])
      (hretained : retainUncommittedOffsets worker.cursors batch = retained)
      (hmanifest : manifestAt s.manifests (nextPublicationBatchId worker.window) = none)
      (hprocess : config.process retained = .ok processed)
      (htable : s'.table = (commitRows s.table processed (boundaryOf config worker retained)).1)
      (hmanifests : s'.manifests = s.manifests ++ [manifestOf config s worker retained processed])
      (hack : s'.catalogAck = s.catalogAck)
      (hworker : (outcome = .ended ∧ s'.worker = none ∧ s'.unfinished = s.unfinished) ∨
        (outcome = .returned ∧ s'.unfinished = none ∧ s'.worker = some (reported config s'
          (remembered config worker (manifestOf config s worker retained processed)
            (batchSourceRanges retained))))) :
      Writes config s worker batch outcome s'

theorem writeBatch_writes (config : WorkerConfig Row Out) (s : World Row Out) (worker : Worker)
    (batch : List (Record Row)) (cut : Option Cut) :
    Writes config s worker batch (writeBatch config s worker batch cut).1
      (writeBatch config s worker batch cut).2 := by
  unfold writeBatch
  by_cases hcut : cut = some .beforeCommit
  · rw [if_pos hcut]
    exact .cut
  rw [if_neg hcut]
  cases hstop : worker.stopRequested with
  | true =>
      rw [if_pos rfl]
      exact .stopped hstop
  | false =>
      rw [if_neg Bool.false_ne_true]
      cases hretained : retainUncommittedOffsets worker.cursors batch with
      | nil => exact .idle hstop hretained
      | cons record records =>
          have hne : record :: records ≠ [] := List.cons_ne_nil _ _
          cases hmanifest : manifestAt s.manifests (nextPublicationBatchId worker.window) with
          | some manifest =>
              simp only
              cases hvalid : validateManifestRetry config s.table manifest
                  (batchSourceRanges (record :: records)) (record :: records).length
                  (boundaryOf config worker (record :: records)) with
              | error _ => exact .cut
              | ok _ => exact .retried hstop hretained hmanifest hvalid
          | none =>
              simp only
              cases hprocess : config.process (record :: records) with
              | error _ => exact .cut
              | ok processed =>
                  have hwrite : writeBatchManifest s.manifests
                      (manifestOf config s worker (record :: records) processed) =
                        s.manifests ++ [manifestOf config s worker (record :: records) processed] := by
                    have hnone : manifestAt s.manifests (manifestOf config s worker
                      (record :: records) processed).batchId = none := hmanifest
                    rw [writeBatchManifest, hnone]
                    rfl
                  show Writes config s worker batch
                    (publishBatch config s worker (record :: records) processed cut).1
                    (publishBatch config s worker (record :: records) processed cut).2
                  unfold publishBatch
                  simp only
                  split
                  · exact .appended hstop hne hretained hmanifest hprocess
                  · split
                    · exact .published hstop hne hretained hmanifest hprocess rfl hwrite rfl
                        (Or.inl ⟨rfl, rfl, rfl⟩)
                    · exact .published hstop hne hretained hmanifest hprocess rfl hwrite rfl
                        (Or.inr ⟨rfl, rfl, rfl⟩)

/-- The step of a micro-batch goes one of these ways. -/
theorem deliver_writes {config : WorkerConfig Row Out} {s : World Row Out} {worker : Worker}
    (hworker : s.worker = some worker) (batch : List (Record Row)) (cut : Option Cut) :
    ∃ outcome, Writes config { s with unfinished := some batch } worker batch outcome
      (workerStep config s (.deliver batch cut)) := by
  refine ⟨(writeBatch config { s with unfinished := some batch } worker batch cut).1, ?_⟩
  have hstep : workerStep config s (.deliver batch cut) =
      (writeBatch config { s with unfinished := some batch } worker batch cut).2 := by
    rw [workerStep]
    split
    · rename_i hnone
      exact nomatch hnone.symm.trans hworker
    · rename_i hsome
      cases hworker.symm.trans hsome
      rfl
  rw [hstep]
  exact writeBatch_writes ..

end

end AskLake.StreamWorker

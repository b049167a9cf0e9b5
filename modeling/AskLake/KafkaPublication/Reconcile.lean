/-
# `AskLake.KafkaPublication.Reconcile` — which batches a reconciliation publishes

`reconcile_continuous_publications` publishes the batches of a runtime that its catalog cursor
has not reached, in the order of their ids, and moves the cursor over each.  It takes them from
one of three places:

    recovery     the manifests beyond the cursor, where a recovery is requested or pending
    report       the window of the worker's report, where it shows a batch beyond the cursor
    terminal     the manifests up to the last batch that the worker has written

The first batch that cannot be published ends the loop.  Between two batches the row of the
runtime is locked again, with what a concurrent reconciliation has left there: `publishOne`
answers with it, for the first attempt, the second one and so on.
-/
import AskLake.KafkaPublication.Stages
import AskLake.ContinuousRuntime.Runtime
import Mathlib.Data.List.Dedup

namespace AskLake.KafkaPublication

open AskLake.Lib AskLake.Python AskLake.Kafka AskLake.Dashboard

open AskLake.ContinuousRuntime (nonnegativeInt)

/-! ## Documents -/

/-- `metrics` of a runtime, as far as publications read and write it. -/
structure PublicationMetrics where
  /-- `_optional_int(metrics.get("catalogBatchCursor"))`; `⊥` is `None` -/
  catalogBatchCursor : WithBot Int := ⊥
  publicationRecoveryPending : Option Bool := none
  lastBatchEvidence : Option StreamPublication := none
  streamPartitionCursors : Option (List (PartitionKey × Int)) := none

/-- `{**metrics, **persisted}` -/
def PublicationMetrics.update (metrics persisted : PublicationMetrics) : PublicationMetrics where
  catalogBatchCursor :=
    if persisted.catalogBatchCursor = ⊥ then metrics.catalogBatchCursor
    else persisted.catalogBatchCursor
  publicationRecoveryPending :=
    persisted.publicationRecoveryPending.or metrics.publicationRecoveryPending
  lastBatchEvidence := persisted.lastBatchEvidence.or metrics.lastBatchEvidence
  streamPartitionCursors := persisted.streamPartitionCursors.or metrics.streamPartitionCursors

/-- A row of `kafka_continuous_runtimes`. -/
structure RuntimeRow where
  metrics : PublicationMetrics := {}
  lastError : Option String := none

/-- The report of the worker.  An item of its window that is no dictionary is `none`. -/
structure BatchReport where
  publishedBatches : List (Option StreamPublication) := []
  /-- `_optional_int(report.get("lastBatchId"))` -/
  lastBatchId : Option Int := none
  lastBatchWritten : Bool := false
  lastBatchEvidence : Option StreamPublication := none

/-- Where the batches of a job lie. -/
structure BatchTarget where
  bucket : String
  pathPrefix : String

/-! ## What a call asks for -/

/-- A publication that was attempted. -/
structure Attempt where
  batchId : Nat
  /-- the cursor of the call when it attempted it -/
  cursor : WithBot Int
  published : Bool
  /-- the cursor in the row that was locked afterwards -/
  persisted : WithBot Int
  deriving DecidableEq

/-- A writer other than the call has moved the persisted cursor. -/
def Attempt.Raised (attempt : Attempt) : Prop :=
  attempt.cursor < attempt.persisted

instance (attempt : Attempt) : Decidable attempt.Raised :=
  inferInstanceAs (Decidable (_ < _))

structure PublishAnswer where
  published : Bool
  /-- the runtime of the session, with the errors that the stages recorded -/
  runtime : RuntimeRow
  /-- `lock_kafka_continuous_runtime`, which finds no row where the runtime was deleted -/
  locked : Option RuntimeRow

structure BatchHooks where
  /-- the batches whose manifest has a `_SUCCESS` marker, where they can be listed -/
  completed : Option (List Nat)
  /-- the dictionary in the first part of a manifest that is not empty -/
  manifest : Nat → Option StreamPublication
  publishOne : Nat → StreamPublication → PublishAnswer
  listPartitionCursors : Nat → Option (List (PartitionKey × Int))
  mergePartitionCursors : Option (List (PartitionKey × Int)) → RangesArgument →
    List (PartitionKey × Int)

structure ReconcileCall where
  hooks : BatchHooks
  target : BatchTarget
  runtime : RuntimeRow
  report : BatchReport
  recoverCompletedManifests : Bool := false
  /-- `db is not None` -/
  db : Bool := true

/-! ## Manifests -/

/-- `list_continuous_stream_manifest_batch_ids` -/
def BatchHooks.listManifestBatchIds (hooks : BatchHooks) (afterBatchId : Int)
    (throughBatchId : Option Int) : Option (List Nat) :=
  hooks.completed.map fun ids =>
    (ids.filter fun id : Nat => afterBatchId < id ∧ ∀ last ∈ throughBatchId, (id : Int) ≤ last).dedup
      |>.insertionSort (· ≤ ·)

/-- `read_continuous_stream_manifest`; a manifest of another batch is not taken. -/
def ReconcileCall.readManifest (call : ReconcileCall) (batchId : Nat) :
    Option StreamPublication :=
  match call.hooks.manifest batchId with
  | none => none
  | some manifest =>
      if manifest.batchId = some (batchId : Int) then
        let root := s!"s3a://{call.target.bucket}/{call.target.pathPrefix}"
        some { manifest with
          manifestPath := some s!"{root}/_batch-manifests/batch_id={batchId}"
          dataPath :=
            if 0 < manifest.stored then
              manifest.dataPath.or (some s!"{root}/_batches/batch_id={batchId}")
            else manifest.dataPath }
      else none

/-- The manifests of these batches, or the first batch whose manifest cannot be read. -/
def readManifests (read : Nat → Option StreamPublication) (ids : List Nat) :
    Except Nat (List StreamPublication) :=
  ids.mapM fun id => orReject (read id) id

/-! ## `_select_publications` -/

namespace ReconcileCall

variable (call : ReconcileCall)

def cursor : WithBot Int := call.runtime.metrics.catalogBatchCursor

/-- `cursor if cursor is not None else -1` -/
def afterBatchId : Int := call.cursor.unbotD (-1)

def recoveryRequested : Bool :=
  call.recoverCompletedManifests || call.runtime.metrics.publicationRecoveryPending == some true

def reportHasUnappliedPublication : Bool :=
  call.report.publishedBatches.any fun item =>
    item.any fun publication => publication.batchId.any fun id => decide (call.cursor < id)

/-- The batch that the worker wrote last, where the cursor has not reached it. -/
def terminalBatch : Option Int :=
  call.report.lastBatchId.filter fun last =>
    decide (0 ≤ last ∧ call.report.lastBatchWritten ∧ call.cursor < last)

def lastEvidence : Option StreamPublication :=
  call.report.lastBatchEvidence.or call.runtime.metrics.lastBatchEvidence

/-- The evidence of the report is as good as the manifest. -/
def evidenceSuffices (last : Int) (id : Nat) (evidence : StreamPublication) : Prop :=
  (id : Int) = last ∧ evidence.batchId = some (id : Int) ∧
    (optionalString evidence.manifestPath).isSome ∧
    (∃ item items, evidence.sourceRanges = .list (item :: items)) ∧
    (evidence.stored = 0 ∨ (optionalString evidence.dataPath).isSome)

instance (last : Int) (id : Nat) (evidence : StreamPublication) :
    Decidable (evidenceSuffices last id evidence) :=
  have : Decidable (∃ item items, evidence.sourceRanges = .list (item :: items)) :=
    match evidence.sourceRanges with
    | .list (item :: items) => .isTrue ⟨item, items, rfl⟩
    | .list [] => .isFalse (by rintro ⟨_, _, h⟩; exact nomatch h)
    | .missing => .isFalse (by rintro ⟨_, _, h⟩; exact nomatch h)
    | .other => .isFalse (by rintro ⟨_, _, h⟩; exact nomatch h)
  inferInstanceAs (Decidable (_ ∧ _))

/-- The manifest of a batch up to the last one, which the report may stand for. -/
def readTerminal (last : Int) (id : Nat) : Option StreamPublication :=
  match call.lastEvidence with
  | some evidence =>
      if evidenceSuffices last id evidence then some evidence else call.readManifest id
  | none => call.readManifest id

inductive Source
  | recovery
  | report
  | terminal (last : Int)
  | nothing
  deriving DecidableEq

def source : Source :=
  if call.recoveryRequested then .recovery
  else if call.reportHasUnappliedPublication then .report
  else
    match call.terminalBatch with
    | some last => .terminal last
    | none => .nothing

/-- `_record_manifest_recovery_failure` -/
def recordManifestRecoveryFailure (reason : String) : RuntimeRow where
  metrics := { call.runtime.metrics with publicationRecoveryPending := some true }
  lastError := some
    s!"Catalog materialization pending retry: {reason}; Catalog ACK was not advanced."

/-- `_recover_terminal_publications`, where there is a last batch -/
def recoverTerminalPublications (last : Int) : Except RuntimeRow (List StreamPublication) :=
  let pending (reason : String) : RuntimeRow :=
    { call.runtime with lastError := some (
        "Catalog materialization pending retry: " ++ reason ++ "Catalog ACK was not advanced.") }
  let incomplete := pending (s!"The terminal Continuous publication manifest for batch {last} " ++
    "is not durably complete; ")
  match call.hooks.listManifestBatchIds call.afterBatchId (some last) with
  | none => .error incomplete
  | some ids =>
      if last ∈ ids.map (Int.ofNat ·) then
        (readManifests (call.readTerminal last) ids).mapError fun id =>
          pending s!"Continuous publication manifest gap at batch {id}; "
      else .error incomplete

/-- What `_select_publications` takes for a recovery. -/
def recoverCompletedPublications : Except RuntimeRow (List StreamPublication) :=
  match call.hooks.listManifestBatchIds call.afterBatchId none with
  | none => .error (call.recordManifestRecoveryFailure
      "Completed Continuous publication manifests could not be listed")
  | some ids =>
      (readManifests call.readManifest ids).mapError fun id =>
        call.recordManifestRecoveryFailure
          s!"Completed Continuous publication manifest {id} could not be read"

/-- `_select_publications`; it raises the runtime that it leaves behind where it selects
nothing. -/
def selectPublications : Except RuntimeRow (List StreamPublication) :=
  match call.source with
  | .recovery => call.recoverCompletedPublications
  | .report => .ok (call.report.publishedBatches.filterMap id)
  | .terminal last => call.recoverTerminalPublications last
  | .nothing => .ok []

end ReconcileCall

/-! ## `_publish_pending_batches` -/

/-- `_nonnegative_int(publication.get("batchId"), 0)` -/
def StreamPublication.batchNumber (publication : StreamPublication) : Nat :=
  nonnegativeInt publication.batchId 0

/-- `_normalize_publications` -/
def normalizePublications (publications : List StreamPublication) : List StreamPublication :=
  (publications.filter fun item => item.batchId.any fun id => decide (0 ≤ id)).insertionSort
    fun a b => a.batchNumber ≤ b.batchNumber

/-- The variables of the loop, with what it has attempted. -/
structure Progress where
  cursor : WithBot Int
  metrics : PublicationMetrics
  runtime : RuntimeRow
  attempts : List Attempt := []
  recoveryFailed : Bool := false

def ReconcileCall.answer (call : ReconcileCall) (p : Progress) (publication : StreamPublication) :
    PublishAnswer :=
  call.hooks.publishOne p.attempts.length publication

/-- The row of the runtime, as it is locked after the attempt. -/
def ReconcileCall.relocked (call : ReconcileCall) (p : Progress)
    (publication : StreamPublication) : Option RuntimeRow :=
  if call.db then (call.answer p publication).locked else none

def persistedCursor (locked : Option RuntimeRow) : WithBot Int :=
  locked.elim ⊥ fun row => row.metrics.catalogBatchCursor

/-- One pass of the loop, for a batch beyond the cursor. -/
def ReconcileCall.attempt (call : ReconcileCall) (p : Progress) (publication : StreamPublication) :
    Progress :=
  let batchId := publication.batchNumber
  let answer := call.answer p publication
  let locked := call.relocked p publication
  let persisted := persistedCursor locked
  let runtime := locked.getD answer.runtime
  let cursor := if p.cursor < persisted then persisted else p.cursor
  let metrics := locked.elim p.metrics fun row => p.metrics.update row.metrics
  let attempts := p.attempts ++ [⟨batchId, p.cursor, answer.published, persisted⟩]
  if answer.published then
    let cursors :=
      if call.db then
        some ((call.hooks.listPartitionCursors p.attempts.length).getD
          (call.hooks.mergePartitionCursors metrics.streamPartitionCursors
            publication.sourceRanges))
      else metrics.streamPartitionCursors
    let cursor := max cursor ((batchId : Int) : WithBot Int)
    let metrics := { metrics with
      streamPartitionCursors := cursors, catalogBatchCursor := cursor }
    ⟨cursor, metrics, { runtime with metrics := metrics }, attempts, p.recoveryFailed⟩
  else
    let metrics := { metrics with publicationRecoveryPending := some true }
    ⟨cursor, metrics, { runtime with metrics := metrics }, attempts, true⟩

def ReconcileCall.publishPendingBatches (call : ReconcileCall) :
    List StreamPublication → Progress → Progress
  | [], p => p
  | publication :: rest, p =>
      if ((publication.batchNumber : Int) : WithBot Int) ≤ p.cursor then
        call.publishPendingBatches rest p
      else
        let p := call.attempt p publication
        if p.recoveryFailed then p else call.publishPendingBatches rest p

/-! ## `reconcile_continuous_publications` -/

/-- The error of a publication that is to be tried again. -/
def pendingRetry (lastError : Option String) : Bool :=
  let text := (lastError.getD "").toList
  "Catalog materialization pending retry:".toList.isPrefixOf text ||
    "Dashboard revision pending retry:".toList.isPrefixOf text

/-- What a call returns, leaves in the runtime, and has attempted. -/
structure Reconciled where
  cursor : WithBot Int
  runtime : RuntimeRow
  attempts : List Attempt

def ReconcileCall.start (call : ReconcileCall) : Progress where
  cursor := call.cursor
  metrics := call.runtime.metrics
  runtime := call.runtime

def ReconcileCall.reconcileContinuousPublications (call : ReconcileCall) : Reconciled :=
  match call.selectPublications with
  | .error runtime => ⟨call.cursor, runtime, []⟩
  | .ok publications =>
      let p := call.publishPendingBatches (normalizePublications publications) call.start
      if call.recoveryRequested || p.recoveryFailed then
        let metrics := { p.metrics with publicationRecoveryPending := some p.recoveryFailed }
        let lastError :=
          if !p.recoveryFailed && pendingRetry p.runtime.lastError then none
          else p.runtime.lastError
        ⟨p.cursor, ⟨metrics, lastError⟩, p.attempts⟩
      else ⟨p.cursor, p.runtime, p.attempts⟩

end AskLake.KafkaPublication

/-
# `AskLake.Realtime.KafkaIngest` — what a Kafka Connect poll writes

A poll of a regular Kafka job reads, for each partition, the offsets that have arrived in the raw
table.  It then writes the catalog row, the freshness row and, where there is something new, a
revision:

    ensure    catalog and freshness row, the binding pending
    publish   the same with the binding active; then, unless the boundary is the latest one,
              revision, commit and event

Both call `_bind_catalog_freshness`, which installs the job's own version on every freshness row
it meets.  The catalog row is locked first and the freshness row is read after it, so a poll is
one step beside the switches, which lock both.
-/
import AskLake.Catalog
import AskLake.Events.Log
import Mathlib.Algebra.GroupWithZero.Nat

namespace AskLake.Realtime

open AskLake.Lib AskLake.Python AskLake.Events

/-- The settings the gateway reads. -/
structure IngestDeployment extends Deployment where
  clickhouseV2Database : String := "asklake_v2"

/-- What a poll reads of the job and its runtime. -/
structure IngestJob where
  id : String
  datasetId : Option String := none
  topic : String
  triggerIntervalSeconds : Option Int := none
  deriving DecidableEq

/-- One partition of `_raw_progress`. -/
structure RawProgress where
  partition : Int
  minOffset : Int
  maxOffset : Int
  rowCount : Nat
  deriving DecidableEq

def rawView : String := "raw_events_v2_current"

/-! ## Identities -/

section
variable (rt : Runtime) (job : IngestJob)

def IngestJob.dataset : String := (truthy job.datasetId).getD ("ds_" ++ rt.lower job.id)

/-- `_version_id` -/
def IngestJob.versionId : String :=
  "kiv2_" ++ String.ofList ((rt.sha256 job.id).toList.take 48)

/-- `_source_boundary` -/
def IngestJob.sourceBoundary (progress : List RawProgress) : IngestBoundary where
  jobId := job.id
  topic := job.topic
  partitions := progress.map fun item => ⟨item.partition, item.minOffset, item.maxOffset + 1⟩

def IngestJob.checksum (progress : List RawProgress) : String :=
  rt.sha256 (Json.dumpsSorted true (job.sourceBoundary progress).document)

def IngestJob.materializationId (progress : List RawProgress) : String :=
  "kafka-ingest-v2:" ++ (job.id ++ ":" ++
    String.ofList ((job.checksum rt progress).toList.take 32))

def IngestJob.eventKey (progress : List RawProgress) : String :=
  "kafka-ingest-v2:" ++ (job.dataset rt ++ ":" ++ job.checksum rt progress)

def totalRows (progress : List RawProgress) : Nat := (progress.map RawProgress.rowCount).sum

/-! ## Rows -/

/-- `max(1_000, int(… or 30) * 1_000)` -/
def IngestJob.nextCheckAfterMs : Int :=
  max 1000 (((job.triggerIntervalSeconds.filter fun seconds => seconds ≠ 0).getD 30) * 1000)

/-- The freshness row after `_bind_catalog_freshness`. -/
def bindCatalogFreshness : Option Freshness → Freshness
  | none =>
      { nextCheckAfterMs := job.nextCheckAfterMs
        bindingEpoch := 1
        activeServingEngine := some "clickhouse"
        activeServingVersionId := some (job.versionId rt) }
  | some freshness =>
      { freshness with
        bindingEpoch :=
          if freshness.activeServingVersionId ≠ some (job.versionId rt) then
            freshness.bindingEpoch + 1
          else freshness.bindingEpoch
        activeServingEngine := some "clickhouse"
        activeServingVersionId := some (job.versionId rt) }

/-- `int(freshness.binding_epoch or 1)` -/
def reportedEpoch (freshness : Freshness) : Nat :=
  if freshness.bindingEpoch = 0 then 1 else freshness.bindingEpoch

/-- The serving binding of `_catalog_payload`. -/
def ingestBinding (database : String) (epoch : Nat) (published : Bool) : PhysicalBinding where
  role := some "serving"
  engine := some "clickhouse"
  status := some (if published then "active" else "pending")
  bindingEpoch := some epoch
  versionId := some (job.versionId rt)
  pipelineVersionId := some (job.versionId rt)
  database := some database
  table := some rawView

/-- The catalog row after `_upsert_catalog`. -/
def ingestCatalog (database : String) (model : Option CatalogDataset) (epoch : Nat)
    (published : Bool) : CatalogDataset :=
  let previous := (model.map datasetModelToPayload).getD {}
  let bindings := ((previous.physicalBindings.getD []).filterMap id).filter
    fun binding => binding.role ≠ some "serving"
  let status := if published then "available" else "preparing"
  { status := some status
    payload := some { previous with
      clickhouseTable := some ⟨some database, some rawView⟩
      physicalBindings :=
        some ((bindings ++ [ingestBinding rt job database epoch published]).map some)
      status := some status } }

def ingestCommit (database : String) (progress : List RawProgress) (epoch revision : Nat) :
    RevisionCommit where
  datasetId := job.dataset rt
  revision := revision
  runId := job.materializationId rt progress
  storageLocation := "clickhouse://" ++ database ++ "/" ++ rawView
  storageFormat := "clickhouse"
  materializationMode := "delta"
  commitKind := .realtime
  rowCount := totalRows progress
  sourceRanges := .ingest (job.sourceBoundary progress).partitions
  sourceFingerprint := some (job.checksum rt progress)
  materializationId := some (job.materializationId rt progress)
  sourceBoundary := some (.ingest (job.sourceBoundary progress))
  servingEngine := some "clickhouse"
  servingVersionId := some (job.versionId rt)
  bindingEpoch := epoch
  mutationType := .append

def ingestFreshness (freshness : Freshness) (progress : List RawProgress) : Freshness :=
  { freshness with
    latestRevision := freshness.latestRevision + 1
    latestRunId := some (job.materializationId rt progress)
    latestSourceBoundary := some (.ingest (job.sourceBoundary progress))
    latestChecksum := some (job.checksum rt progress)
    latestMutationType := some .append }

def ingestEvent (progress : List RawProgress) (epoch revision : Nat) : EventDraft where
  eventType := "dataset.revision.committed"
  resourceType := "dataset"
  resourceId := job.dataset rt
  aggregateRevision := revision
  correlationId := job.materializationId rt progress
  idempotencyKey := job.eventKey rt progress
  invalidations := ["dataset:" ++ job.dataset rt]
  payload :=
    [("bindingEpoch", .int epoch),
      ("materializationId", .str (job.materializationId rt progress)),
      ("mutationType", .str "append"),
      ("sourceBoundary", (job.sourceBoundary progress).document),
      ("servingVersionId", .str (job.versionId rt)),
      ("pipelineVersionId", .str (job.versionId rt))]
  schemaVersion := 2

end

/-! ## The transactions -/

/-- `_upsert_catalog`: the rows it leaves, and the binding epoch it reports. -/
def upsertCatalog (env : IngestDeployment) (db : Db) (job : IngestJob) (published : Bool) :
    Db × Nat :=
  let datasetId := job.dataset env.toRuntime
  let freshness := bindCatalogFreshness env.toRuntime job (db.freshness datasetId)
  let epoch := reportedEpoch freshness
  ({ db with
      freshness := db.freshness.put datasetId freshness
      catalog := db.catalog.put datasetId
        (ingestCatalog env.toRuntime job env.clickhouseV2Database (db.catalog datasetId) epoch
          published) }, epoch)

/-- `_ensure_catalog`, of a binding that is not published yet. -/
def ensureCatalog (env : IngestDeployment) (db : Db) (job : IngestJob) : Db :=
  (upsertCatalog env db job false).1

/-- The part of `_publish_catalog` after the boundary is found to be new. -/
def publishRevision (env : IngestDeployment) (staged : Db) (job : IngestJob)
    (progress : List RawProgress) (freshness : Freshness) (epoch : Nat) :
    Except Error (Db × Option Nat) := do
  let revision := freshness.latestRevision + 1
  let commits ← insertCommit staged.commits
    (ingestCommit env.toRuntime job env.clickhouseV2Database progress epoch revision)
  let (db', _, _) ← append env.toDeployment
    { staged with
      freshness := staged.freshness.put (job.dataset env.toRuntime)
        (ingestFreshness env.toRuntime job freshness progress)
      commits := commits }
    (ingestEvent env.toRuntime job progress epoch revision)
  pure (db', some revision)

/-- `_publish_catalog`: the revision it returns. -/
def publishCatalog (env : IngestDeployment) (db : Db) (job : IngestJob)
    (progress : List RawProgress) : Except Error (Db × Option Nat) := do
  let (staged, epoch) := upsertCatalog env db job true
  -- a row that `_upsert_catalog` has just added is not flushed, and `db.get` does not find it
  let stored ← orReject (db.freshness (job.dataset env.toRuntime))
    (.value "Kafka V2 Catalog freshness binding is missing")
  let freshness := bindCatalogFreshness env.toRuntime job (some stored)
  if freshness.latestChecksum = some (job.checksum env.toRuntime progress) then
    pure (staged,
      if freshness.latestRevision = 0 then none else some freshness.latestRevision)
  else publishRevision env staged job progress freshness epoch

/-! ## What they have done -/

/-- The checksum of the latest revision of a dataset. -/
def latestChecksum (db : Db) (datasetId : String) : Option String :=
  (db.freshness datasetId).bind Freshness.latestChecksum

section
variable (env : IngestDeployment) (job : IngestJob) (progress : List RawProgress)
  (stored : Freshness)

/-- The freshness row, bound to the job. -/
def boundRow : Freshness := bindCatalogFreshness env.toRuntime job (some stored)

/-- The commit and the event of the revision that follows the freshness row. -/
def nextCommit : RevisionCommit :=
  ingestCommit env.toRuntime job env.clickhouseV2Database progress
    (reportedEpoch (boundRow env job stored)) (stored.latestRevision + 1)

def nextEvent : EventDraft :=
  ingestEvent env.toRuntime job progress (reportedEpoch (boundRow env job stored))
    (stored.latestRevision + 1)

end

/-- A revision that a poll has made after the freshness row `stored`. -/
structure Ingested (env : IngestDeployment) (db : Db) (job : IngestJob)
    (progress : List RawProgress) (stored : Freshness) (db' : Db) : Prop where
  apart : ∀ commit ∈ db.commits, Apart commit (nextCommit env job progress stored)
  commits_eq : db'.commits = db.commits ++ [nextCommit env job progress stored]
  freshness_eq : db'.freshness = db.freshness.put (job.dataset env.toRuntime)
    (ingestFreshness env.toRuntime job (boundRow env job stored) progress)
  catalog_eq : db'.catalog = (upsertCatalog env db job true).1.catalog
  contract : checkDraft env.toDeployment (nextEvent env job progress stored) = .ok ()
  events_eq :
    ((byIdempotencyKey db (strip (job.eventKey env.toRuntime progress))).isSome ∧
      db'.events = db.events) ∨
    (byIdempotencyKey db (strip (job.eventKey env.toRuntime progress)) = none ∧
      db'.events = db.events ++
        [(nextEvent env job progress stored).row (db.eventSequence + 1)])

section
variable {env : IngestDeployment} {db db' : Db} {job : IngestJob} {progress : List RawProgress}
  {stored : Freshness}

theorem upsertCatalog_freshness (published : Bool) :
    (upsertCatalog env db job published).1.freshness = db.freshness.put
      (job.dataset env.toRuntime)
      (bindCatalogFreshness env.toRuntime job (db.freshness (job.dataset env.toRuntime))) := rfl

theorem upsertCatalog_epoch (hstored : db.freshness (job.dataset env.toRuntime) = some stored)
    (published : Bool) :
    (upsertCatalog env db job published).2 = reportedEpoch (boundRow env job stored) := by
  show reportedEpoch (bindCatalogFreshness env.toRuntime job
    (db.freshness (job.dataset env.toRuntime))) = _
  rw [hstored]
  rfl

/-- A poll that returns has found its boundary published, or made a revision of it. -/
theorem publishCatalog_cases {result : Option Nat}
    (h : publishCatalog env db job progress = .ok (db', result)) :
    ∃ stored, db.freshness (job.dataset env.toRuntime) = some stored ∧
      (stored.latestChecksum = some (job.checksum env.toRuntime progress) ∧
          db' = (upsertCatalog env db job true).1 ∨
        stored.latestChecksum ≠ some (job.checksum env.toRuntime progress) ∧
          result = some (stored.latestRevision + 1) ∧
          Ingested env db job progress stored db') := by
  obtain ⟨stored, hstored, h⟩ := bind_eq_ok.mp h
  have hstored := orReject_eq_ok.mp hstored
  refine ⟨stored, hstored, ?_⟩
  by_cases hlatest : stored.latestChecksum = some (job.checksum env.toRuntime progress)
  · left
    have hpair := pure_eq_ok.mp ((if_pos hlatest).symm.trans h)
    simp only [Prod.mk.injEq] at hpair
    exact ⟨hlatest, hpair.1.symm⟩
  · right
    have h : publishRevision env (upsertCatalog env db job true).1 job progress
        (boundRow env job stored) (upsertCatalog env db job true).2 = .ok (db', result) :=
      (if_neg hlatest).symm.trans h
    rw [upsertCatalog_epoch hstored] at h
    obtain ⟨commits, hinsert, h⟩ := bind_eq_ok.mp h
    obtain ⟨⟨db'', id, created⟩, happend, h⟩ := bind_eq_ok.mp h
    have hpair := pure_eq_ok.mp h
    simp only [Prod.mk.injEq] at hpair
    obtain ⟨rfl, rfl⟩ := hpair
    obtain ⟨hapart, rfl⟩ := insertCommit_eq_ok.mp hinsert
    refine ⟨hlatest, rfl, ?_⟩
    have hfreshness : (upsertCatalog env db job true).1.freshness.put (job.dataset env.toRuntime)
        (ingestFreshness env.toRuntime job (boundRow env job stored) progress) =
        db.freshness.put (job.dataset env.toRuntime)
          (ingestFreshness env.toRuntime job (boundRow env job stored) progress) :=
      Table.put_put _ _ _ _
    obtain ⟨hcontract, hfound⟩ := append_found happend
    rcases hfound with ⟨hsome, rfl⟩ | ⟨hnone, rfl⟩
    · exact ⟨hapart, rfl, hfreshness, rfl, hcontract, .inl ⟨hsome, rfl⟩⟩
    · exact ⟨hapart, rfl, hfreshness, rfl, hcontract, .inr ⟨hnone, rfl⟩⟩

/-- Where nothing collides, a new boundary becomes a revision. -/
theorem publishCatalog_new
    (hstored : db.freshness (job.dataset env.toRuntime) = some stored)
    (hlatest : stored.latestChecksum ≠ some (job.checksum env.toRuntime progress))
    (hapart : ∀ commit ∈ db.commits, Apart commit (nextCommit env job progress stored))
    (hcontract : checkDraft env.toDeployment (nextEvent env job progress stored) = .ok ()) :
    ∃ db', publishCatalog env db job progress = .ok (db', some (stored.latestRevision + 1)) := by
  obtain ⟨db', id, created, happend⟩ := @append_of_checked env.toDeployment
    { (upsertCatalog env db job true).1 with
      freshness := (upsertCatalog env db job true).1.freshness.put (job.dataset env.toRuntime)
        (ingestFreshness env.toRuntime job (boundRow env job stored) progress)
      commits := db.commits ++ [nextCommit env job progress stored] } _ hcontract
  have hrun : publishRevision env (upsertCatalog env db job true).1 job progress
      (boundRow env job stored) (upsertCatalog env db job true).2 =
        .ok (db', some (stored.latestRevision + 1)) := by
    rw [upsertCatalog_epoch hstored]
    refine bind_eq_ok.mpr ⟨_, insertCommit_eq_ok.mpr ⟨hapart, rfl⟩, ?_⟩
    exact bind_eq_ok.mpr ⟨_, happend, rfl⟩
  refine ⟨db', bind_eq_ok.mpr ⟨stored, orReject_eq_ok.mpr hstored, ?_⟩⟩
  exact (if_neg hlatest).trans hrun

end

end AskLake.Realtime

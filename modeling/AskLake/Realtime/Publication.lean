/-
# `AskLake.Realtime.Publication` — publishing a materialization

`publish` first looks, without a lock, for a commit of the same materialization.
If there is none it locks the dataset's freshness row, looks again, and then
writes seven tables:

    fence        binding epoch, engine and serving version of the freshness row
    evidence     the materialization row is the one the request describes
    checkpoints  one compare-and-set per partition
    revision     freshness, commit, catalog binding, event

`Published` is the one statement about an accepted publication that the rest of
the development uses: the checks it passed, and every table afterwards.
-/
import AskLake.Catalog
import AskLake.Events.Log
import AskLake.Realtime.Materialization

namespace AskLake.Realtime

open AskLake.Lib AskLake.Python AskLake.Events

/-! ## A publication that was made before -/

/-- `_validate_existing` -/
def validateExisting (existing : RevisionCommit) (p : RealtimePublication) : Except Error Unit :=
  rejectIf
    (existing.datasetId ≠ p.datasetId ∨
      existing.sourceFingerprint ≠ some p.sourceFingerprint ∨
      existing.servingVersionId ≠ some p.servingVersionId ∨
      existing.bindingEpoch ≠ p.bindingEpoch ∨
      existing.rowCount ≠ p.rowCount ∨
      existing.mutationType ≠ p.mutationType)
    (.value "materialization id was reused with different publication evidence")

/-- `_existing_commit` -/
def existingCommit (db : Db) (materializationId : String) : Option RevisionCommit :=
  db.commits.find? fun commit => commit.materializationId = some materializationId

/-- `_existing_result` -/
def existingResult (db : Db) (p : RealtimePublication) :
    Except Error (Option PublicationResult) :=
  match existingCommit db p.materializationId with
  | none => pure none
  | some existing => do
      validateExisting existing p
      let event ← orReject (byIdempotencyKey db p.idempotencyKey)
        (.runtime "published materialization is missing its durable event")
      pure (some ⟨p.datasetId, existing.revision, event.id, false⟩)

/-! ## A new publication -/

/-- `_validate_materialization_evidence` -/
def validateMaterializationEvidence (db : Db) (p : RealtimePublication) : Except Error Unit := do
  let materialization ← orReject (db.materializations p.materializationId)
    (.value "materialization evidence or lease is stale")
  rejectIf
    (materialization.pipelineVersionId ≠ p.pipelineVersionId ∨
      materialization.sourceFingerprint ≠ p.sourceFingerprint ∨
      materialization.leaseGeneration ≠ p.leaseGeneration ∨
      materialization.targetRowCount ≠ some p.rowCount ∨
      materialization.targetChecksum.getD "" ≠ p.checksum ∨
      materialization.dimensionVersionIds ≠ p.dimensionVersionIds ∨
      materialization.status ≠ .materialized)
    (.value "materialization evidence or lease is stale")

/-- `UPDATE realtime_materializations SET status = 'published' …` -/
def markPublished (materializations : Table String Materialization) (p : RealtimePublication)
    (revision : Nat) : Except Error (Table String Materialization) := do
  let row ← orReject
    ((materializations p.materializationId).filter fun row =>
      row.status = .materialized ∧ row.leaseGeneration = p.leaseGeneration ∧
        row.publishedRevision = none)
    (.value "materialization publication fencing failed")
  pure (materializations.put p.materializationId
    { row with status := .published, publishedRevision := some revision })

/-- The binding a publication leaves active. -/
def publicationBinding (p : RealtimePublication) : PhysicalBinding where
  role := some "serving"
  engine := some "clickhouse"
  status := some "active"
  bindingEpoch := some p.bindingEpoch
  versionId := some p.servingVersionId
  pipelineVersionId := some p.pipelineVersionId
  database := some p.physicalDatabase
  table := some p.physicalTable
  sourceBoundary := some p.boundary
  checksum := some p.checksum
  dimensionVersionIds := some p.dimensionVersionIds

/-- The catalog row after `_update_catalog_binding`. -/
def publicationCatalog (model : CatalogDataset) (p : RealtimePublication) : CatalogDataset where
  status := some "available"
  payload := some { datasetModelToPayload model with
    physicalBindings := some
      ((rebind ["serving"] (publicationBinding p) model.bindings).map some)
    clickhouseTable := some ⟨some p.physicalDatabase, some p.physicalTable⟩
    status := some "available" }

/-- `_update_catalog_binding` -/
def updateCatalogBinding (catalog : Table String CatalogDataset) (p : RealtimePublication) :
    Except Error (Table String CatalogDataset) := do
  let model ← orReject (catalog p.datasetId)
    (.value "Catalog Dataset is missing for realtime publication")
  pure (catalog.put p.datasetId (publicationCatalog model p))

def publicationCommit (p : RealtimePublication) (revision : Nat) : RevisionCommit where
  datasetId := p.datasetId
  revision := revision
  runId := p.runId
  storageLocation := "clickhouse://" ++ p.physicalDatabase ++ "/" ++ p.physicalTable
  storageFormat := "clickhouse"
  materializationMode := "delta"
  commitKind := .realtime
  rowCount := p.rowCount
  sourceRanges := .boundary p.boundary.partitions
  sourceFingerprint := some p.sourceFingerprint
  materializationId := some p.materializationId
  sourceBoundary := some p.boundary
  servingEngine := some "clickhouse"
  servingVersionId := some p.servingVersionId
  bindingEpoch := p.bindingEpoch
  dimensionVersionIds := p.dimensionVersionIds
  mutationType := p.mutationType

def publicationFreshness (freshness : Freshness) (p : RealtimePublication) : Freshness :=
  { freshness with
    latestRevision := freshness.latestRevision + 1
    latestRunId := some p.runId
    latestSourceBoundary := some p.boundary
    latestChecksum := some p.checksum
    latestMutationType := some p.mutationType }

def publicationEvent (p : RealtimePublication) (revision : Nat) : EventDraft where
  eventType := "dataset.revision.committed"
  resourceType := "dataset"
  resourceId := p.datasetId
  aggregateRevision := revision
  correlationId := p.correlationId
  idempotencyKey := p.idempotencyKey
  invalidations := ["dataset:" ++ p.datasetId]
  payload :=
    [("bindingEpoch", .int p.bindingEpoch),
      ("materializationId", .str p.materializationId),
      ("mutationType", .str p.mutationType.name),
      ("sourceBoundary", p.boundary.document),
      ("servingVersionId", .str p.servingVersionId),
      ("pipelineVersionId", .str p.pipelineVersionId)]
  schemaVersion := 2

/-- The fencing checks against the locked freshness row. -/
def checkFence (freshness : Freshness) (p : RealtimePublication) : Except Error Unit :=
  rejectIf
    (freshness.bindingEpoch ≠ p.bindingEpoch ∨
      freshness.activeServingEngine ≠ some "clickhouse" ∨
      freshness.activeServingVersionId ≠ some p.servingVersionId)
    (.value "Dataset serving binding epoch or version is stale")

/-- The part of the transaction after the second look for an existing commit. -/
def publishNew (env : Deployment) (db : Db) (p : RealtimePublication) (freshness : Freshness) :
    Except Error (Db × PublicationResult) := do
  checkFence freshness p
  validateMaterializationEvidence db p
  let revision := freshness.latestRevision + 1
  let checkpoints ←
    advanceCheckpoints db.checkpoints p.pipelineVersionId p.boundary p.leaseGeneration
  let materializations ← markPublished db.materializations p revision
  let catalog ← updateCatalogBinding db.catalog p
  let commits ← insertCommit db.commits (publicationCommit p revision)
  let staged : Db :=
    { db with
      freshness := db.freshness.put p.datasetId (publicationFreshness freshness p)
      checkpoints := checkpoints
      materializations := materializations
      catalog := catalog
      commits := commits }
  let (db', cursor, created) ← append env staged (publicationEvent p revision)
  rejectIf (created = false)
    (.runtime "new materialization collided with an existing event identity")
  pure (db', ⟨p.datasetId, revision, cursor, true⟩)

/-- The part of the transaction that holds the freshness lock. -/
def publishLocked (env : Deployment) (db : Db) (p : RealtimePublication) :
    Except Error (Db × PublicationResult) := do
  let freshness ← orReject (db.freshness p.datasetId)
    (.value "Dataset serving binding is not initialized")
  match ← existingResult db p with
  | some result => pure (db, result)
  | none => publishNew env db p freshness

/-- `RealtimePublicationRepository.publish`: `snapshot` is the store its first,
unlocked look reads. -/
def publish (env : Deployment) (snapshot db : Db) (p : RealtimePublication) :
    Except Error (Db × PublicationResult) := do
  match ← existingResult snapshot p with
  | some result => pure (db, result)
  | none => publishLocked env db p

/-! ## What an accepted publication has done -/

structure Published (env : Deployment) (db : Db) (p : RealtimePublication) (freshness : Freshness)
    (db' : Db) (result : PublicationResult) : Prop where
  locked : db.freshness p.datasetId = some freshness
  fresh : existingCommit db p.materializationId = none
  fence : checkFence freshness p = .ok ()
  evidence : validateMaterializationEvidence db p = .ok ()
  checkpoints : advanceCheckpoints db.checkpoints p.pipelineVersionId p.boundary p.leaseGeneration
    = .ok db'.checkpoints
  materializations : markPublished db.materializations p (freshness.latestRevision + 1)
    = .ok db'.materializations
  catalog : updateCatalogBinding db.catalog p = .ok db'.catalog
  apart : ∀ stored ∈ db.commits, Apart stored (publicationCommit p (freshness.latestRevision + 1))
  commits_eq : db'.commits = db.commits ++ [publicationCommit p (freshness.latestRevision + 1)]
  freshness_eq : db'.freshness = db.freshness.put p.datasetId (publicationFreshness freshness p)
  events_eq : db'.events = db.events ++
    [(publicationEvent p (freshness.latestRevision + 1)).row (db.eventSequence + 1)]
  unannounced : byIdempotencyKey db (strip p.idempotencyKey) = none
  eventSequence_eq : db'.eventSequence = db.eventSequence + 1
  elsewhere : db'.cursors = db.cursors ∧ db'.parityChecks = db.parityChecks ∧
    db'.operations = db.operations ∧ db'.assignments = db.assignments
  result_eq : result = ⟨p.datasetId, freshness.latestRevision + 1, db.eventSequence + 1, true⟩

section
variable {env : Deployment} {snapshot db db' : Db} {p : RealtimePublication}
  {result : PublicationResult}

theorem existingResult_none (h : existingResult db p = .ok none) :
    existingCommit db p.materializationId = none := by
  unfold existingResult at h
  split at h
  · assumption
  · obtain ⟨_, -, h⟩ := bind_eq_ok.mp h
    obtain ⟨_, -, h⟩ := bind_eq_ok.mp h
    exact nomatch pure_eq_ok.mp h

/-- An answer that was there before reports nothing created. -/
theorem existingResult_some (h : existingResult db p = .ok (some result)) :
    result.created = false := by
  unfold existingResult at h
  split at h
  · exact nomatch pure_eq_ok.mp h
  · obtain ⟨_, -, h⟩ := bind_eq_ok.mp h
    obtain ⟨_, -, h⟩ := bind_eq_ok.mp h
    cases pure_eq_ok.mp h
    rfl

theorem publishNew_eq_ok {freshness : Freshness} (hlocked : db.freshness p.datasetId = some freshness)
    (hfresh : existingCommit db p.materializationId = none)
    (h : publishNew env db p freshness = .ok (db', result)) :
    Published env db p freshness db' result := by
  obtain ⟨_, hfence, h⟩ := bind_eq_ok.mp h
  obtain ⟨_, hevidence, h⟩ := bind_eq_ok.mp h
  obtain ⟨checkpoints, hcheckpoints, h⟩ := bind_eq_ok.mp h
  obtain ⟨materializations, hmaterializations, h⟩ := bind_eq_ok.mp h
  obtain ⟨catalog, hcatalog, h⟩ := bind_eq_ok.mp h
  obtain ⟨commits, hcommits, h⟩ := bind_eq_ok.mp h
  obtain ⟨⟨db'', cursor, created⟩, happend, h⟩ := bind_eq_ok.mp h
  obtain ⟨_, hcreated, h⟩ := bind_eq_ok.mp h
  have hpair := pure_eq_ok.mp h
  simp only [Prod.mk.injEq] at hpair
  obtain ⟨rfl, rfl⟩ := hpair
  have htrue : created = true := by simpa using rejectIf_eq_ok.mp hcreated
  subst htrue
  obtain ⟨-, hunannounced, rfl, rfl⟩ := append_created happend
  obtain ⟨hapart, rfl⟩ := insertCommit_eq_ok.mp hcommits
  exact
    { locked := hlocked
      fresh := hfresh
      fence := hfence
      evidence := hevidence
      checkpoints := hcheckpoints
      materializations := hmaterializations
      catalog := hcatalog
      apart := hapart
      commits_eq := rfl
      freshness_eq := rfl
      events_eq := rfl
      unannounced := hunannounced
      eventSequence_eq := rfl
      elsewhere := ⟨rfl, rfl, rfl, rfl⟩
      result_eq := rfl }

/-- A transaction that returns has either found its earlier self, and written
nothing, or published. -/
theorem publish_cases (h : publish env snapshot db p = .ok (db', result)) :
    (result.created = false ∧ db' = db) ∨
      ∃ freshness, Published env db p freshness db' result := by
  obtain ⟨before, hbefore, h⟩ := bind_eq_ok.mp h
  cases before with
  | some existing =>
      have hpair := pure_eq_ok.mp h
      simp only [Prod.mk.injEq] at hpair
      obtain ⟨rfl, rfl⟩ := hpair
      exact Or.inl ⟨existingResult_some hbefore, rfl⟩
  | none =>
      obtain ⟨freshness, hlocked, h⟩ := bind_eq_ok.mp h
      obtain ⟨again, hagain, h⟩ := bind_eq_ok.mp h
      cases again with
      | some existing =>
          have hpair := pure_eq_ok.mp h
          simp only [Prod.mk.injEq] at hpair
          obtain ⟨rfl, rfl⟩ := hpair
          exact Or.inl ⟨existingResult_some hagain, rfl⟩
      | none =>
          exact Or.inr ⟨freshness,
            publishNew_eq_ok (orReject_eq_ok.mp hlocked) (existingResult_none hagain) h⟩

theorem Published.created {freshness : Freshness} (h : Published env db p freshness db' result) :
    result.created = true := by
  rw [h.result_eq]

/-- The fence of a new publication. -/
theorem Published.fenced {freshness : Freshness} (h : Published env db p freshness db' result) :
    freshness.bindingEpoch = p.bindingEpoch ∧ freshness.activeServingEngine = some "clickhouse" ∧
      freshness.activeServingVersionId = some p.servingVersionId := by
  have hfence := rejectIf_eq_ok.mp h.fence
  simp only [not_or, not_not] at hfence
  exact hfence

end

end AskLake.Realtime

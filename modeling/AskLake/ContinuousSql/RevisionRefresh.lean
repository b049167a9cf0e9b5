/-
# `AskLake.ContinuousSql.RevisionRefresh` — publishing a refresh from dataset revisions

A refresh reads pinned revisions and no Kafka offsets.  The publication it builds goes the
way of a Kafka delta:

    sourceRanges = []  →  stage, verify, catalog_ready  →  revision of kind stream

A stream revision must name its source ranges, and this one has none: `checkRequest` refuses
it, after the batch is `catalog_ready`.  A refresh without rows is ready before that, and has
no revision either.
-/
import AskLake.ContinuousSql.Delivery
import AskLake.ContinuousSql.RefreshClaims

namespace AskLake.ContinuousSql

open AskLake.Lib AskLake.Python AskLake.Kafka AskLake.Dashboard

/-! ## The publication of `reconcile` -/

/-- `value.rstrip("/")` -/
def rstripSlash (value : String) : String :=
  String.ofList (value.toList.rdropWhile (· = '/'))

/-- An item of `inputSnapshots`, as the source boundary has it. -/
def InputSnapshot.document (item : InputSnapshot) : StrDict :=
  match item.revision with
  | none =>
      ⟨[("datasetId", item.datasetId), ("snapshotId", item.snapshotId)],
        .cons (by simp only [List.mem_singleton, forall_eq]; decide +kernel) (.cons nofun .nil)⟩
  | some revision =>
      ⟨[("datasetId", item.datasetId), ("revision", toString revision),
          ("snapshotId", item.snapshotId)],
        .cons (by
          simp only [List.mem_cons, List.not_mem_nil, or_false, forall_eq_or_imp, forall_eq]
          decide +kernel)
        (.cons (by simp only [List.mem_singleton, forall_eq]; decide +kernel) (.cons nofun .nil))⟩

/-- What a pass has at hand once its transform is committed. -/
structure RevisionTransform where
  batchId : Nat
  staticBindings : List StrDict
  /-- `tree_run.input_dataset_revisions` -/
  inputDatasetRevisions : StrDict
  inputSnapshots : List InputSnapshot
  /-- the answer to `SELECT COUNT(*)` -/
  rowCount : Nat
  /-- what `commit_select` brings back -/
  createdTable : Bool
  snapshotId : String
  committedAt : String
  warehouseLocation : String
  outputStoragePath : String
  publishedAt : String

namespace RevisionTransform

variable (t : RevisionTransform) (rt : Runtime) (job : Job) (run : Run)

def publicationRunId : String := s!"{run.runId}:revision:{t.batchId}"

def sourceBoundary : SqlSourceBoundary where
  kind := "continuous_sql_batch"
  jobId := job.id
  batchId := some t.batchId
  runGeneration := some run.generation
  planHash := job.planHash
  fencingTokenHash := rt.sha256 run.fencingToken
  runId := t.publicationRunId run
  sourceRanges := some []
  staticSnapshots := some t.staticBindings
  inputSnapshots := t.inputSnapshots.map InputSnapshot.document
  other := t.inputDatasetRevisions

/-- `refresh_target` -/
def refreshTarget : IcebergWriterTarget := { job.outputTarget with writeMode := "replace" }

/-- The evidence of `commit_select`. -/
def evidence : CommitDocument where
  snapshotId := t.snapshotId
  sourceBoundary := some (t.sourceBoundary rt job run)
  createdTable := some t.createdTable
  jobId := some job.id
  runId := some (t.publicationRunId run)
  target := some (refreshTarget job)
  queryEngineTable := some (refreshTarget job).queryEngineTable
  committedAt := some t.committedAt
  warehouseLocation := some t.warehouseLocation
  schemaFingerprint := if job.schemaFingerprint = "" then none else some job.schemaFingerprint
  ruleFingerprint := some job.planHash

def publication : Publication where
  batchId := some t.batchId
  continuousSqlRunGeneration := some run.generation
  storedCount := some t.rowCount
  continuousSqlPlanHash := job.planHash
  continuousSqlFencingTokenHash := rt.sha256 run.fencingToken
  sourceBoundary := some (t.sourceBoundary rt job run)
  sourceRanges := some []
  staticSnapshots := some t.staticBindings
  runId := t.publicationRunId run
  manifestPath :=
    s!"{rstripSlash t.outputStoragePath}/_revision-transforms/{run.runId}/{t.batchId}.json"
  icebergCommit := some (t.evidence rt job run)
  publishedAt := t.publishedAt

end RevisionTransform

/-! ## What a refresh is to do -/

/-- The batch is on the dashboard, the output has one new snapshot revision, which is the
publication's, and publishing again changes nothing. -/
structure RefreshPublished (env : SqlEnv) (job : Job) (run : Run) (t : RevisionTransform)
    (s : Session) : Prop where
  ready : (reconcileManifest env job run (t.publication env.toRuntime job run) s).2.toOption.map
    Batch.stage = some .dashboardReady
  revision : ∃ commit,
    (reconcileManifest env job run (t.publication env.toRuntime job run) s).1.store.live.commits
      = s.store.live.commits ++ [commit] ∧
    commit.datasetId = job.outputDatasetId ∧ commit.materializationMode = "snapshot" ∧
    commit.rowCount = t.rowCount ∧ commit.snapshotId = some t.snapshotId
  again : (reconcileManifest env job run (t.publication env.toRuntime job run)
      ⟨(reconcileManifest env job run (t.publication env.toRuntime job run) s).1.store, [], []⟩).1.store
    = (reconcileManifest env job run (t.publication env.toRuntime job run) s).1.store

/-! ## No branch records a revision -/

section
variable {env : SqlEnv} {job : Job} {run : Run} {publication : Publication} {evidence : Evidence}
  {s s' : Session}

/-- A stream revision is refused without ranges. -/
theorem checkRequest_without_ranges (job : Job) (verified : CommitDocument)
    (hranges : evidence.sourceRanges = []) : checkRequest (commitRequest job evidence verified) =
      .error (.value "Kafka stream revision requires source ranges") := by
  unfold checkRequest commitRequest
  rw [hranges]
  rfl

/-- So neither attempt writes the catalog or a revision. -/
theorem saveCatalog_without_ranges (verified : CommitDocument) (dataset : OutputPayload)
    (existing : Option OutputPayload) (hranges : evidence.sourceRanges = []) :
    saveCatalogDatasetAndRevision env dataset existing (commitRequest job evidence verified) s =
      (s, .error (.python (.value "Kafka stream revision requires source ranges"))) := by
  have hrecord : ∀ live, recordDatasetCommit env.toDeployment live live
      (commitRequest job evidence verified) =
        .error (.value "Kafka stream revision requires source ranges") :=
    fun live => bind_of_error (checkRequest_without_ranges job verified hranges)
  have hsave : saveOnce env dataset existing.isSome (commitRequest job evidence verified) s.store =
      .error (.value "Kafka stream revision requires source ranges") :=
    bind_of_error (hrecord s.store.live)
  unfold saveCatalogDatasetAndRevision
  rw [hsave]

theorem publishVerified_without_ranges (verified : CommitDocument)
    (hranges : evidence.sourceRanges = []) :
    (publishVerifiedCommit env job evidence verified s).1.store.live = s.store.live := by
  unfold publishVerifiedCommit
  cases s.store.batches (batchKey job evidence) with
  | none => rfl
  | some batch =>
      simp only [saveCatalog_without_ranges _ _ _ hranges]
      rfl

/-- A binding cannot look for the source of no ranges. -/
theorem sourceCommits_without_ranges {store : SqlStore} {sourceCommits : SourceCommits}
    (hranges : evidence.sourceRanges = [])
    (h : sourceCommitsForEvidence env.toRuntime job evidence store = .ok sourceCommits) :
    sourceCommits = .unbound := by
  unfold sourceCommitsForEvidence at h
  cases hbinding : store.bindings job.id with
  | none =>
      rw [hbinding] at h
      exact (Except.ok.inj h).symm
  | some binding =>
      rw [hbinding, hranges] at h
      exact nomatch h

theorem stageManifest_live {batch : Batch}
    (h : stageManifestBatch job run evidence s = .ok (s', batch)) :
    s'.store.live = s.store.live := by
  obtain ⟨staged, -, h⟩ := bind_eq_ok.mp h
  simp only at h
  split at h
  · cases pure_eq_ok.mp h
    rfl
  · split at h
    · cases pure_eq_ok.mp h
      rfl
    · cases pure_eq_ok.mp h
      rfl

theorem verifyOutput_live : (verifyOutputCommit env job evidence s).1.store.live
    = s.store.live := by
  unfold verifyOutputCommit
  split
  · rfl
  · split <;> rfl

theorem reconcileStaged_without_ranges {batch : Batch} (hranges : evidence.sourceRanges = []) :
    (reconcileStaged env job evidence s batch).1.store.live = s.store.live := by
  unfold reconcileStaged
  cases hsource : sourceCommitsForEvidence env.toRuntime job evidence s.store with
  | error e => rfl
  | ok sourceCommits =>
      cases sourceCommits_without_ranges hranges hsource
      simp only [reduceCtorEq, false_and, if_false]
      split
      · rfl
      · split
        · rfl
        · have hverify := @verifyOutput_live env job evidence s
          rcases houtcome : verifyOutputCommit env job evidence s with ⟨t, e | _ | verified⟩
          · rw [houtcome] at hverify
            exact hverify
          · rw [houtcome] at hverify
            simp only
            split <;> exact hverify
          · rw [houtcome] at hverify
            exact (publishVerified_without_ranges verified hranges).trans hverify

/-- A publication without source ranges leaves the revisions as they are. -/
theorem reconcileManifest_without_ranges (hranges : publication.sourceRanges = some []) :
    (reconcileManifest env job run publication s).1.store.live = s.store.live := by
  unfold reconcileManifest
  cases hvalid : validatePublicationIdentity env.toRuntime job run publication with
  | error e => rfl
  | ok evidence =>
      have hnone : evidence.sourceRanges = [] :=
        Option.some.inj ((validate_ranges hvalid).symm.trans hranges)
      cases hstage : stageManifestBatch job run evidence s with
      | error e =>
          simp only [hstage]
      | ok staged =>
          obtain ⟨t, batch⟩ := staged
          simp only [hstage]
          exact (reconcileStaged_without_ranges hnone).trans (stageManifest_live hstage)

end

/-- No refresh is published: there is no new revision, whatever the row count is. -/
theorem refresh_never_published (env : SqlEnv) (job : Job) (run : Run) (t : RevisionTransform)
    (s : Session) : ¬ RefreshPublished env job run t s := by
  intro h
  obtain ⟨commit, hcommits, -⟩ := h.revision
  have hlive : (reconcileManifest env job run (t.publication env.toRuntime job run)
      s).1.store.live = s.store.live := reconcileManifest_without_ranges rfl
  rw [hlive] at hcommits
  have hlength := congrArg List.length hcommits
  simp only [List.length_append, List.length_singleton] at hlength
  omega

/-- Ten rows of revision 19 of the orders. -/
def ordersTransform : RevisionTransform where
  batchId := 0
  staticBindings := []
  inputDatasetRevisions := .empty
  inputSnapshots := [⟨"orders", some 19, "snap-19"⟩]
  rowCount := 10
  createdTable := true
  snapshotId := "101"
  committedAt := "2026-01-01T00:00:00"
  warehouseLocation := "s3://lake/hourly"
  outputStoragePath := "s3://lake/hourly/"
  publishedAt := "2026-01-01T00:00:00"

/-- The writer verifies the commit, the batch gets to `catalog_ready`, and the call raises. -/
theorem refresh_refused :
    ((reconcileManifest ordersEnv ordersJob ordersRun
        (ordersTransform.publication ordersEnv.toRuntime ordersJob ordersRun)
        ⟨{}, [], []⟩).1.store.batches ⟨"job-1", 1, 0⟩).map Batch.stage = some .catalogReady ∧
      raised (reconcileManifest ordersEnv ordersJob ordersRun
        (ordersTransform.publication ordersEnv.toRuntime ordersJob ordersRun) ⟨{}, [], []⟩).2 =
          some (.python (.value "Kafka stream revision requires source ranges")) ∧
      ¬ RefreshPublished ordersEnv ordersJob ordersRun ordersTransform ⟨{}, [], []⟩ := by
  have hraised : raised (reconcileManifest ordersEnv ordersJob ordersRun
      (ordersTransform.publication ordersEnv.toRuntime ordersJob ordersRun) ⟨{}, [], []⟩).2 =
        some (.python (.value "Kafka stream revision requires source ranges")) := by
    decide +kernel
  refine ⟨by decide +kernel, hraised, fun h => ?_⟩
  have hready := h.ready
  rw [raised_eq_some.mp hraised] at hready
  exact nomatch hready

end AskLake.ContinuousSql

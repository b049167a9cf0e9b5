/-
# `AskLake.Dashboard.Record` — recording a dataset revision

`recordDatasetCommit` is the third writer of dataset revisions, beside the
realtime publication and the binding switch.  It reads the commits once without
a lock, by run id, and does not look again after it has locked the freshness
row.  Its answers are

    replayed     a commit of this run was there; a missing manifest is filled in
    duplicate    a commit of this kind and source fingerprint was there
    created      a new revision

and `record_cases` says of each what the store looks like afterwards.
-/
import AskLake.Dashboard.StreamCursors
import AskLake.Events.Log

namespace AskLake.Dashboard

open AskLake.Lib AskLake.Python AskLake.Kafka AskLake.Realtime AskLake.Events

structure CommitRequest where
  datasetId : String
  runId : String
  storageLocation : String
  storageFormat : String
  materializationMode : String
  rowCount : Int
  nextCheckAfterMs : Int
  sourceRanges : RangesArgument := .missing
  commitKind : CommitKind := .legacy
  manifestLocation : Option String := none
  snapshotId : Option String := none

/-! ## Arguments, normalized -/

/-- `str(value or "").strip() or None` -/
def stripped (value : Option String) : Option String :=
  let text := strip (value.getD "")
  if text = "" then none else some text

theorem stripped_stripped (value : Option String) : stripped (stripped value) = stripped value := by
  have hsome : ∀ text, strip text ≠ "" → stripped (some (strip text)) = some (strip text) := by
    intro text htext
    rw [stripped, Option.getD_some, strip_strip]
    exact if_neg htext
  by_cases htext : strip (value.getD "") = ""
  · have hnone : stripped value = none := if_pos htext
    rw [hnone]
    rfl
  · have hvalue : stripped value = some (strip (value.getD "")) := if_neg htext
    rw [hvalue, hsome _ htext]

/-- `value or default` -/
def orDefault (value default : String) : String :=
  if value = "" then default else value

/-- `str(value).strip().lower()` -/
def folded (rt : Runtime) (value : String) : String :=
  rt.lower (strip value)

/-- `max(MIN_DASHBOARD_POLL_MS, min(MAX_DASHBOARD_POLL_MS, int(value or DEFAULT)))` -/
def resolvedCheckAfterMs (nextCheckAfterMs : Int) : Int :=
  max 1000 (min 60000 (if nextCheckAfterMs = 0 then 1000 else nextCheckAfterMs))

/-- The kinds whose rows come from Kafka. -/
def CommitKind.fromKafka (kind : CommitKind) : Bool :=
  kind = .stream || kind = .replay

/-- The kinds that may be recorded. -/
def CommitKind.recordable (kind : CommitKind) : Bool :=
  kind = .stream || kind = .replay || kind = .backfill || kind = .legacy

/-- The checks that come before the store is read. -/
def checkRequest (request : CommitRequest) : Except Error KafkaRanges := do
  rejectIf (CommitKind.recordable request.commitKind = false)
    (.value ("Unsupported dataset commit kind: " ++ request.commitKind.name))
  let ranges ← normalizeKafkaSourceRanges request.sourceRanges
    (CommitKind.fromKafka request.commitKind)
  rejectIf (CommitKind.fromKafka request.commitKind = true ∧ strip request.storageLocation = "")
    (.value "Kafka revision requires a durable storage location")
  rejectIf (CommitKind.fromKafka request.commitKind = true ∧
      stripped request.manifestLocation = none)
    (.value "Kafka revision requires a publication manifest")
  pure ranges

/-! ## A commit of this run that was there before -/

def commitByRunId (db : Db) (runId : String) : Option RevisionCommit :=
  db.commits.find? fun commit => commit.runId = runId

/-- The comparison of a stored commit with the request. -/
def checkReplay (rt : Runtime) (existing : RevisionCommit) (request : CommitRequest)
    (ranges : KafkaRanges) : Except Error Unit := do
  let existingRanges ← normalizeKafkaSourceRanges (.list existing.sourceRanges.items) false
  let existingManifest := stripped existing.manifestLocation
  rejectIf
    (existing.datasetId ≠ request.datasetId ∨
      strip existing.storageLocation ≠ strip request.storageLocation ∨
      folded rt existing.storageFormat ≠ folded rt (orDefault request.storageFormat "parquet") ∨
      folded rt existing.materializationMode
        ≠ folded rt (orDefault request.materializationMode "delta") ∨
      existing.commitKind ≠ request.commitKind ∨
      (existing.rowCount : Int) ≠ max 0 request.rowCount ∨
      existingRanges ≠ ranges ∨
      (stripped request.manifestLocation ≠ none ∧ existingManifest ≠ none ∧
        existingManifest ≠ stripped request.manifestLocation))
    (.value "Dataset revision run_id was reused with different publication metadata")

/-- The stored commit with the manifest, and the fingerprint where it had none. -/
def patchCommit (commit : RevisionCommit) (manifest fingerprint : Option String) :
    RevisionCommit :=
  { commit with
    manifestLocation := manifest
    sourceFingerprint := commit.sourceFingerprint.or fingerprint }

/-- `UPDATE dataset_revision_commits`, by primary key. -/
def updateCommit (commits : List RevisionCommit) (existing : RevisionCommit)
    (manifest fingerprint : Option String) : Except Error (List RevisionCommit) := do
  let addressed : RevisionCommit → Bool := fun commit =>
    commit.datasetId = existing.datasetId ∧ commit.revision = existing.revision
  rejectIf (existing.sourceFingerprint = none ∧ fingerprint ≠ none ∧
      ∃ other ∈ commits, addressed other = false ∧ other.datasetId = existing.datasetId ∧
        other.commitKind = existing.commitKind ∧ other.sourceFingerprint = fingerprint)
    (.integrity "dataset_revision_commits_source_fingerprint_uq")
  pure (updateWhere addressed (fun commit => patchCommit commit manifest fingerprint) commits)

/-- The branch for a run that was recorded before. -/
def replayCommit (rt : Runtime) (db : Db) (existing : RevisionCommit) (request : CommitRequest)
    (ranges : KafkaRanges) : Except Error (Db × RevisionCommit × Bool) := do
  checkReplay rt existing request ranges
  let manifest := stripped request.manifestLocation
  let fingerprint := kafkaSourceFingerprint rt ranges
  if manifest ≠ none ∧ stripped existing.manifestLocation = none then
    let commits ← updateCommit db.commits existing manifest fingerprint
    pure ({ db with commits := commits }, patchCommit existing manifest fingerprint, false)
  else pure (db, existing, false)

/-! ## A new revision -/

def commitBySourceFingerprint (db : Db) (datasetId : String) (kind : CommitKind)
    (fingerprint : String) : Option RevisionCommit :=
  db.commits.find? fun commit => commit.datasetId = datasetId ∧ commit.commitKind = kind ∧
    commit.sourceFingerprint = some fingerprint

def recordedCommit (rt : Runtime) (request : CommitRequest) (ranges : KafkaRanges)
    (revision : Nat) : RevisionCommit where
  datasetId := request.datasetId
  revision := revision
  runId := request.runId
  storageLocation := strip request.storageLocation
  storageFormat := orDefault request.storageFormat "parquet"
  materializationMode := orDefault request.materializationMode "delta"
  commitKind := request.commitKind
  rowCount := request.rowCount.toNat
  sourceRanges := .kafka ranges
  sourceFingerprint := kafkaSourceFingerprint rt ranges
  manifestLocation := stripped request.manifestLocation
  snapshotId := stripped request.snapshotId

/-- The locked freshness row, created when the dataset has none. -/
def lockedFreshness (db : Db) (request : CommitRequest) : Freshness :=
  (db.freshness request.datasetId).getD
    { nextCheckAfterMs := resolvedCheckAfterMs request.nextCheckAfterMs }

/-- The store once the freshness row is there. -/
def ensureFreshness (db : Db) (request : CommitRequest) : Db :=
  match db.freshness request.datasetId with
  | some _ => db
  | none => { db with freshness := db.freshness.put request.datasetId (lockedFreshness db request) }

def recordedFreshness (freshness : Freshness) (request : CommitRequest) : Freshness :=
  { freshness with
    latestRevision := freshness.latestRevision + 1
    latestRunId := some request.runId
    nextCheckAfterMs := resolvedCheckAfterMs request.nextCheckAfterMs }

/-- The event of `append_dataset_revision_event`. -/
def recordedEvent (request : CommitRequest) (revision : Nat) : EventDraft where
  eventType := "dataset.revision.committed"
  resourceType := "dataset"
  resourceId := request.datasetId
  aggregateRevision := revision
  correlationId := request.runId
  idempotencyKey := s!"dataset:{request.datasetId}:revision:{revision}"
  invalidations := [s!"dataset:{request.datasetId}:freshness",
    s!"dashboard-widgets-by-dataset:{request.datasetId}"]
  payload := [("runId", .str request.runId), ("commitKind", .str request.commitKind.name)]

/-- `append_dataset_revision_event`: nothing where events are switched off. -/
def appendDatasetRevisionEvent (env : Deployment) (db : Db) (draft : EventDraft) :
    Except Error Db :=
  if env.realtimeEventsEnabled then do
    let (db', _, _) ← append env db draft
    pure db'
  else pure db

/-- The duplicate that the source fingerprint finds. -/
def duplicateSource (rt : Runtime) (db : Db) (request : CommitRequest) (ranges : KafkaRanges) :
    Option RevisionCommit :=
  (kafkaSourceFingerprint rt ranges).bind fun fingerprint =>
    commitBySourceFingerprint db request.datasetId request.commitKind fingerprint

/-- Only a stream revision moves the partition cursors. -/
def cursorsAfter (cursors : Cursors) (request : CommitRequest) (ranges : KafkaRanges)
    (revision : Nat) : Except Error Cursors :=
  if request.commitKind = .stream then
    advanceStreamPartitionCursors cursors request.datasetId ranges revision
  else pure cursors

/-- The part of the transaction that holds the freshness lock. -/
def recordNew (env : Deployment) (db : Db) (request : CommitRequest) (ranges : KafkaRanges) :
    Except Error (Db × RevisionCommit × Bool) :=
  let freshness := lockedFreshness db request
  let db := ensureFreshness db request
  match duplicateSource env.toRuntime db request ranges with
  | some duplicate => pure (db, duplicate, false)
  | none => do
      let revision := freshness.latestRevision + 1
      let cursors ← cursorsAfter db.cursors request ranges revision
      let commit := recordedCommit env.toRuntime request ranges revision
      let commits ← insertCommit db.commits commit
      let staged : Db :=
        { db with
          freshness := db.freshness.put request.datasetId (recordedFreshness freshness request)
          cursors := cursors
          commits := commits }
      let db' ← appendDatasetRevisionEvent env staged (recordedEvent request revision)
      pure (db', commit, true)

/-- `DashboardLiveRepository.record_dataset_commit`: `snapshot` is the store its
lookup by run id reads. -/
def recordDatasetCommit (env : Deployment) (snapshot db : Db) (request : CommitRequest) :
    Except Error (Db × RevisionCommit × Bool) := do
  let ranges ← checkRequest request
  match commitByRunId snapshot request.runId with
  | some existing => replayCommit env.toRuntime db existing request ranges
  | none => recordNew env db request ranges

/-! ## `backfill_catalog_revision` -/

/-- One attempt: record the commit, then raise the watermarks to its ranges. -/
def backfillOnce (env : Deployment) (snapshot db : Db) (request : CommitRequest) :
    Except Error (Db × RevisionCommit) := do
  let (db', commit, _) ←
    recordDatasetCommit env snapshot db { request with commitKind := .backfill }
  let normalizedRanges ← normalizeKafkaSourceRanges request.sourceRanges false
  if normalizedRanges.items ≠ [] then
    let cursors ←
      seedStreamPartitionCursors db'.cursors request.datasetId normalizedRanges commit.revision
    pure ({ db' with cursors := cursors }, commit)
  else pure (db', commit)

/-- Two attempts; the second one follows a violated unique key.  No other session
runs between them, so that it reads the store the first one read. -/
def backfillCatalogRevision (env : Deployment) (db : Db) (request : CommitRequest) :
    Except Error (Db × RevisionCommit) :=
  match backfillOnce env db db request with
  | .error (.integrity _) => backfillOnce env db db request
  | outcome => outcome

/-! ## What a recorded commit has done -/

structure Recorded (env : Deployment) (db : Db) (request : CommitRequest) (ranges : KafkaRanges)
    (db' : Db) (commit : RevisionCommit) : Prop where
  fresh : duplicateSource env.toRuntime (ensureFreshness db request) request ranges = none
  cursors : cursorsAfter db.cursors request ranges
    ((lockedFreshness db request).latestRevision + 1) = .ok db'.cursors
  commit_eq : commit = recordedCommit env.toRuntime request ranges
    ((lockedFreshness db request).latestRevision + 1)
  apart : ∀ stored ∈ db.commits, Apart stored commit
  commits_eq : db'.commits = db.commits ++ [commit]
  freshness_eq : db'.freshness request.datasetId
      = some (recordedFreshness (lockedFreshness db request) request) ∧
    ∀ other, other ≠ request.datasetId → db'.freshness other = db.freshness other
  events_eq : (db'.events = db.events ∧ db'.eventSequence = db.eventSequence) ∨
    (db'.events = db.events ++
      [(recordedEvent request ((lockedFreshness db request).latestRevision + 1)).row
        (db.eventSequence + 1)] ∧
      db'.eventSequence = db.eventSequence + 1)
  elsewhere : db'.catalog = db.catalog ∧ db'.checkpoints = db.checkpoints ∧
    db'.materializations = db.materializations ∧ db'.parityChecks = db.parityChecks ∧
    db'.operations = db.operations ∧ db'.assignments = db.assignments

section
variable {env : Deployment} {snapshot db db' : Db} {request : CommitRequest}
  {ranges : KafkaRanges} {commit : RevisionCommit} {created : Bool}

@[simp] theorem ensureFreshness_commits : (ensureFreshness db request).commits = db.commits := by
  unfold ensureFreshness
  split <;> rfl

/-- Only the dataset's own freshness row may be new. -/
theorem ensureFreshness_eq (db : Db) (request : CommitRequest) : ∃ freshness,
    ensureFreshness db request = { db with freshness := freshness } ∧
      freshness request.datasetId = some (lockedFreshness db request) ∧
      ∀ other, other ≠ request.datasetId → freshness other = db.freshness other := by
  unfold ensureFreshness
  split
  · rename_i row hrow
    refine ⟨db.freshness, rfl, ?_, fun _ _ => rfl⟩
    rw [hrow, lockedFreshness, hrow, Option.getD_some]
  · exact ⟨_, rfl, Table.put_self .., fun _ h => Table.put_ne _ h _⟩

theorem appendDatasetRevisionEvent_eq_ok {draft : EventDraft}
    (h : appendDatasetRevisionEvent env db draft = .ok db') :
    db' = db ∨ db' = { db with
      events := db.events ++ [draft.row (db.eventSequence + 1)]
      eventSequence := db.eventSequence + 1 } := by
  unfold appendDatasetRevisionEvent at h
  split at h
  · obtain ⟨⟨db'', id, created⟩, happend, h⟩ := bind_eq_ok.mp h
    cases pure_eq_ok.mp h
    rcases append_eq_ok happend with ⟨-, rfl⟩ | ⟨-, rfl, rfl⟩
    · exact Or.inl rfl
    · exact Or.inr rfl
  · exact Or.inl (pure_eq_ok.mp h).symm

theorem recordNew_eq_ok (h : recordNew env db request ranges = .ok (db', commit, created)) :
    (created = false ∧ duplicateSource env.toRuntime db request ranges = some commit ∧
        db' = ensureFreshness db request) ∨
      (created = true ∧ Recorded env db request ranges db' commit) := by
  unfold recordNew at h
  simp only at h
  have hdup : duplicateSource env.toRuntime (ensureFreshness db request) request ranges =
      duplicateSource env.toRuntime db request ranges := by
    simp only [duplicateSource, commitBySourceFingerprint, ensureFreshness_commits]
  split at h
  · rename_i duplicate hsome
    have hpair := pure_eq_ok.mp h
    simp only [Prod.mk.injEq] at hpair
    obtain ⟨rfl, rfl, rfl⟩ := hpair
    exact Or.inl ⟨rfl, hdup.symm.trans hsome, rfl⟩
  · rename_i hnone
    obtain ⟨cursors, hcursors, h⟩ := bind_eq_ok.mp h
    obtain ⟨commits, hcommits, h⟩ := bind_eq_ok.mp h
    obtain ⟨db'', happend, h⟩ := bind_eq_ok.mp h
    have hpair := pure_eq_ok.mp h
    simp only [Prod.mk.injEq] at hpair
    obtain ⟨rfl, rfl, rfl⟩ := hpair
    obtain ⟨freshness, hensure, -, hother⟩ : ∃ freshness, _ := ensureFreshness_eq db request
    obtain ⟨hapart, rfl⟩ := insertCommit_eq_ok.mp hcommits
    rw [hensure] at hcursors hapart happend
    have helse : ∀ other, other ≠ request.datasetId →
        freshness.put request.datasetId
          (recordedFreshness (lockedFreshness db request) request) other = db.freshness other :=
      fun other hne => (Table.put_ne _ hne _).trans (hother other hne)
    rcases appendDatasetRevisionEvent_eq_ok happend with rfl | rfl
    · exact Or.inr ⟨rfl,
        { fresh := hnone
          cursors := hcursors
          commit_eq := rfl
          apart := hapart
          commits_eq := rfl
          freshness_eq := ⟨Table.put_self .., helse⟩
          events_eq := Or.inl ⟨rfl, rfl⟩
          elsewhere := ⟨rfl, rfl, rfl, rfl, rfl, rfl⟩ }⟩
    · exact Or.inr ⟨rfl,
        { fresh := hnone
          cursors := hcursors
          commit_eq := rfl
          apart := hapart
          commits_eq := rfl
          freshness_eq := ⟨Table.put_self .., helse⟩
          events_eq := Or.inr ⟨rfl, rfl⟩
          elsewhere := ⟨rfl, rfl, rfl, rfl, rfl, rfl⟩ }⟩

/-- The three ways a transaction returns. -/
theorem record_cases
    (h : recordDatasetCommit env snapshot db request = .ok (db', commit, created)) :
    ∃ ranges, checkRequest request = .ok ranges ∧
      ((created = false ∧ ∃ existing, commitByRunId snapshot request.runId = some existing ∧
          checkReplay env.toRuntime existing request ranges = .ok () ∧
          (db' = db ∨ ∃ commits, updateCommit db.commits existing
            (stripped request.manifestLocation) (kafkaSourceFingerprint env.toRuntime ranges)
              = .ok commits ∧ db' = { db with commits := commits })) ∨
        (created = false ∧ duplicateSource env.toRuntime db request ranges = some commit ∧
          db' = ensureFreshness db request) ∨
        (created = true ∧ Recorded env db request ranges db' commit)) := by
  obtain ⟨ranges, hcheck, h⟩ := bind_eq_ok.mp h
  refine ⟨ranges, hcheck, ?_⟩
  split at h
  · rename_i existing hexisting
    obtain ⟨_, hreplay, h⟩ := bind_eq_ok.mp h
    simp only at h
    split at h
    · obtain ⟨commits, hupdate, h⟩ := bind_eq_ok.mp h
      have hpair := pure_eq_ok.mp h
      simp only [Prod.mk.injEq] at hpair
      obtain ⟨rfl, -, rfl⟩ := hpair
      exact Or.inl ⟨rfl, existing, hexisting, hreplay, Or.inr ⟨commits, hupdate, rfl⟩⟩
    · have hpair := pure_eq_ok.mp h
      simp only [Prod.mk.injEq] at hpair
      obtain ⟨rfl, -, rfl⟩ := hpair
      exact Or.inl ⟨rfl, existing, hexisting, hreplay, Or.inl rfl⟩
  · rcases recordNew_eq_ok h with ⟨hcreated, hdup, hdb⟩ | ⟨hcreated, hrecorded⟩
    · exact Or.inr (Or.inl ⟨hcreated, hdup, hdb⟩)
    · exact Or.inr (Or.inr ⟨hcreated, hrecorded⟩)

/-- A patched table, row by row. -/
theorem updateCommit_eq_ok {commits commits' : List RevisionCommit} {existing : RevisionCommit}
    {manifest fingerprint : Option String}
    (h : updateCommit commits existing manifest fingerprint = .ok commits') :
    (existing.sourceFingerprint = none → fingerprint ≠ none → ∀ other ∈ commits,
        ¬ (other.datasetId = existing.datasetId ∧ other.revision = existing.revision) →
        ¬ (other.datasetId = existing.datasetId ∧ other.commitKind = existing.commitKind ∧
          other.sourceFingerprint = fingerprint)) ∧
      commits' = updateWhere
        (fun commit => commit.datasetId = existing.datasetId ∧ commit.revision = existing.revision)
        (fun commit => patchCommit commit manifest fingerprint) commits := by
  obtain ⟨_, hreject, h⟩ := bind_eq_ok.mp h
  refine ⟨?_, (pure_eq_ok.mp h).symm⟩
  have hno := rejectIf_eq_ok.mp hreject
  intro hnone hsome other hmem haddr hsame
  exact hno ⟨hnone, hsome, other, hmem, by simpa using haddr, hsame⟩

/-- Rewriting rows without touching what identifies them. -/
structure Rewrites (f : RevisionCommit → RevisionCommit) : Prop where
  datasetId : ∀ commit, (f commit).datasetId = commit.datasetId
  revision : ∀ commit, (f commit).revision = commit.revision
  runId : ∀ commit, (f commit).runId = commit.runId
  commitKind : ∀ commit, (f commit).commitKind = commit.commitKind
  sourceRanges : ∀ commit, (f commit).sourceRanges = commit.sourceRanges
  materializationId : ∀ commit, (f commit).materializationId = commit.materializationId
  sourceBoundary : ∀ commit, (f commit).sourceBoundary = commit.sourceBoundary

theorem Rewrites.id : Rewrites fun commit => commit :=
  ⟨fun _ => rfl, fun _ => rfl, fun _ => rfl, fun _ => rfl, fun _ => rfl, fun _ => rfl, fun _ => rfl⟩

theorem rewrites_patch (p : RevisionCommit → Bool) (manifest fingerprint : Option String) :
    Rewrites fun commit => if p commit then patchCommit commit manifest fingerprint else commit := by
  constructor
  all_goals
    intro commit
    by_cases h : p commit = true
    · simp only [h, if_true, patchCommit]
    · simp only [h, if_false, Bool.false_eq_true]

theorem backfillCatalogRevision_eq_ok
    (h : backfillCatalogRevision env db request = .ok (db', commit)) :
    backfillOnce env db db request = .ok (db', commit) := by
  unfold backfillCatalogRevision at h
  split at h <;> assumption

end

end AskLake.Dashboard

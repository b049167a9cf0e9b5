/-
# `AskLake.ContinuousSql.CrashSafety` — a process that stops between two commits

A publication that puts a batch on the dashboard commits four times, and once
more for the binding:

    1  staged   2  catalog_ready   3  catalog row, revision   4  dashboard_ready   5  binding

An attempt is one run of `reconcileManifest` that stops after some of them.  What
a later run reads is the store of the last commit.  Three of the five points are
not alike:

    before 3    the next run writes over what is there
    at 3        the catalog row has its rows, and the batch does not say so
    from 4 on   the next run writes the worker's commit document over the verified one

`Stops` is the condition on an attempt under which the last run ends where one
run without a stop ends.
-/
import AskLake.ContinuousSql.Redelivery

namespace AskLake.ContinuousSql

open AskLake.Lib AskLake.Python AskLake.Kafka AskLake.Events AskLake.Dashboard

/-- A store with another row for the batch. -/
def SqlStore.withBatch (store : SqlStore) (key : BatchKey) (batch : Batch) : SqlStore :=
  { store with batches := store.batches.put key batch }

/-- One run, in a session of its own. -/
def runManifest (env : SqlEnv) (job : Job) (run : Run) (publication : Publication)
    (store : SqlStore) : Session × Except SqlError Batch :=
  reconcileManifest env job run publication { store }

inductive Attempt
  /-- the process stops after this many commits -/
  | stopped (commits : Nat)
  | finished

/-- What an attempt leaves behind. -/
def attemptManifest (env : SqlEnv) (job : Job) (run : Run) (publication : Publication)
    (store : SqlStore) : Attempt → SqlStore
  | .stopped commits =>
      ((runManifest env job run publication store).1.commits.take commits).getLastD store
  | .finished => (runManifest env job run publication store).1.store

/-- What an outcome is compared by: the rows and the runs of the catalog entry,
the dataset's revision, the revision commits, and the batch. -/
def outcome (job : Job) (evidence : Evidence) (store : SqlStore) :
    Option (String × List RunItem) × Option Nat × List RevisionCommit × Option Batch :=
  ((store.outputs job.outputDatasetId).map fun payload =>
      (payload.rows, payload.materializationRuns),
    (store.live.freshness job.outputDatasetId).map Freshness.latestRevision,
    store.live.commits, store.batches (batchKey job evidence))

/-- The worker's commit document names its snapshot without surrounding space, as
the verified one does. -/
def SameSnapshot (evidence : Evidence) : Prop :=
  ∀ commit, evidence.icebergCommit = some commit → strip commit.snapshotId = commit.snapshotId

def OnDashboard (job : Job) (evidence : Evidence) (store : SqlStore) : Prop :=
  ∃ batch, store.batches (batchKey job evidence) = some batch ∧ batch.stage = .dashboardReady

/-- Where an attempt may stop.  A batch that is not on the dashboard yet must not
be left between the catalog and the dashboard; and once it is there, either the
worker's document is the verified one, or the next run is refused. -/
def Stops (job : Job) (evidence : Evidence) (verified : CommitDocument) (store : SqlStore)
    (attempt : Attempt) : Prop :=
  OnDashboard job evidence store ∨
    match attempt with
    | .stopped 0 => True
    | .stopped 1 => True
    | .stopped 2 => SameSnapshot evidence
    | .stopped 3 => False
    | _ => evidence.icebergCommit = some verified ∨ ¬ SameSnapshot evidence

section
variable {env : SqlEnv} {job : Job} {run : Run} {publication : Publication}
  {evidence : Evidence} {batch : Batch} {verified : CommitDocument} {store : SqlStore}

/-! ## Staging again -/

@[simp] theorem withBatch_withBatch (store : SqlStore) (key : BatchKey) (batch batch' : Batch) :
    (store.withBatch key batch).withBatch key batch' = store.withBatch key batch' := by
  unfold SqlStore.withBatch
  rw [Table.put_put]

@[simp] theorem withBatch_batch (store : SqlStore) (key : BatchKey) (batch : Batch) :
    (store.withBatch key batch).batches key = some batch := Table.put_self ..

theorem withBatch_self {key : BatchKey} (h : store.batches key = some batch) :
    store.withBatch key batch = store := by
  unfold SqlStore.withBatch
  rw [Table.put_eq_self h]

theorem orDefault_orDefault (value default : String) :
    orDefault value (orDefault value default) = orDefault value default := by
  unfold orDefault
  split <;> rfl

/-- The worker's document is there, and names the boundary of the publication. -/
theorem outputCommit_of_valid
    (hvalid : validatePublicationIdentity env.toRuntime job run publication = .ok evidence)
    (hrows : 0 < evidence.rowCount) : ∃ commit, evidence.icebergCommit = some commit ∧
      commit.sourceBoundary = some evidence.sourceBoundary := by
  obtain ⟨⟨batchId, generation, rowCount⟩, -, h⟩ := bind_eq_ok.mp hvalid
  obtain ⟨_, -, h⟩ := bind_eq_ok.mp h
  obtain ⟨_, -, h⟩ := bind_eq_ok.mp h
  obtain ⟨boundary, -, h⟩ := bind_eq_ok.mp h
  obtain ⟨_, -, h⟩ := bind_eq_ok.mp h
  obtain ⟨_, -, h⟩ := bind_eq_ok.mp h
  obtain ⟨_, -, h⟩ := bind_eq_ok.mp h
  obtain ⟨_, -, h⟩ := bind_eq_ok.mp h
  obtain ⟨_, -, h⟩ := bind_eq_ok.mp h
  obtain ⟨_, -, h⟩ := bind_eq_ok.mp h
  obtain ⟨_, -, h⟩ := bind_eq_ok.mp h
  obtain ⟨icebergCommit, houtput, h⟩ := bind_eq_ok.mp h
  have hevidence := pure_eq_ok.mp h
  subst hevidence
  have hrows' : rowCount ≠ 0 := Nat.ne_of_gt hrows
  unfold outputCommit at houtput
  rw [if_neg hrows'] at houtput
  split at houtput
  · rename_i commit _
    split at houtput
    · rename_i hboundary
      exact ⟨commit, (Except.ok.inj houtput).symm, hboundary⟩
    · exact nomatch houtput
  · exact nomatch houtput

/-- A row that a publication staged. -/
structure StagedBy (job : Job) (run : Run) (evidence : Evidence) (batch : Batch) : Prop where
  same : ¬ immutableMismatch batch (newBatch job run evidence)
  restaged_eq : restaged batch (newBatch job run evidence) = batch

/-- Whatever row was there, staging again changes nothing. -/
theorem stagedBy_of_stage {existing : Option Batch}
    (hcommit : ∃ commit, evidence.icebergCommit = some commit)
    (h : stageBatch existing (newBatch job run evidence) = .ok batch) :
    StagedBy job run evidence batch := by
  obtain ⟨commit, hcommit⟩ := hcommit
  have hnew : (newBatch job run evidence).outputCommit = some commit := hcommit
  cases existing with
  | none =>
      cases Except.ok.inj h
      refine ⟨?_, ?_⟩
      · unfold immutableMismatch
        simp only [ne_eq, not_true, and_false, or_false, not_false_eq_true]
      · unfold restaged
        rw [hnew, Option.some_or, ← hnew]
        unfold orDefault
        simp only [ite_self]
  | some existing =>
      obtain ⟨_, hsame, h⟩ := bind_eq_ok.mp h
      have hsame := rejectIf_eq_ok.mp hsame
      cases pure_eq_ok.mp h
      refine ⟨?_, ?_⟩
      · unfold immutableMismatch at hsame ⊢
        simp only [not_or] at hsame ⊢
        obtain ⟨hrun, hplan, hoffsets, hstatic, hboundary, hid, hpath, -, hrows⟩ := hsame
        refine ⟨hrun, hplan, hoffsets, hstatic, hboundary, ?_, ?_, ?_, ?_⟩
        · rintro ⟨-, hnonempty, hne⟩
          simp only [restaged, orDefault, if_neg hnonempty] at hne
          exact hne rfl
        · rintro ⟨-, hnonempty, hne⟩
          simp only [restaged, orDefault, if_neg hnonempty] at hne
          exact hne rfl
        · rintro ⟨-, -, hne⟩
          simp only [restaged, hnew, Option.some_or] at hne
          exact hne rfl
        · exact fun hne => hne rfl
      · simp only [restaged, hnew, Option.some_or, orDefault_orDefault]

/-- Staging the row again, at whatever stage and with whatever document it was
left. -/
theorem StagedBy.stage_left (h : StagedBy job run evidence batch) {left : Stage}
    {document : Option CommitDocument}
    {code message : Option String} (hcommit : ∃ commit, evidence.icebergCommit = some commit)
    (hidentity : document ≠ none → document.map CommitDocument.identity =
      evidence.icebergCommit.map CommitDocument.identity) :
    stageBatch (some { batch with
      stage := left, outputCommit := document, lastErrorCode := code, lastErrorMessage := message })
      (newBatch job run evidence) = .ok { batch with stage := left } := by
  obtain ⟨commit, hcommit⟩ := hcommit
  have hnew : (newBatch job run evidence).outputCommit = some commit := hcommit
  have hsame : ¬ immutableMismatch { batch with
      stage := left, outputCommit := document, lastErrorCode := code, lastErrorMessage := message }
      (newBatch job run evidence) := by
    have hself := h.same
    unfold immutableMismatch at hself ⊢
    simp only [not_or] at hself ⊢
    obtain ⟨hrun, hplan, hoffsets, hstatic, hboundary, hid, hpath, -, hrows⟩ := hself
    refine ⟨hrun, hplan, hoffsets, hstatic, hboundary, hid, hpath, ?_, hrows⟩
    rintro ⟨hsome, -, hne⟩
    exact hne (hidentity hsome)
  refine bind_eq_ok.mpr ⟨(), rejectIf_eq_ok.mpr hsame, congrArg Except.ok ?_⟩
  have hself := congrArg (fun b : Batch => { b with stage := left }) h.restaged_eq
  simp only [restaged, hnew, Option.some_or] at hself ⊢
  exact hself

/-! ## One run, commit by commit -/

/-- A session whose earlier commits are `commits`. -/
def Session.after (s : Session) (commits : List SqlStore) : Session :=
  { s with commits := commits ++ s.commits }

/-- `_publish_verified_commit`, from the `catalog_ready` batch on. -/
def publishCatalogReady (env : SqlEnv) (job : Job) (evidence : Evidence)
    (verified : CommitDocument) (s : Session) : Session × Except SqlError Batch :=
  let existing := s.store.outputs job.outputDatasetId
  let dataset := catalogPayload env job evidence verified (existing.getD {})
  match saveCatalogDatasetAndRevision env dataset existing
      (commitRequest job evidence verified) s with
  | (s, .error e) => (s, .error e)
  | (s, .ok commit) => finishPublication env job evidence commit.revision s

theorem publishVerifiedCommit_eq {s : Session}
    (hbatch : s.store.batches (batchKey job evidence) = some batch) :
    publishVerifiedCommit env job evidence verified s = publishCatalogReady env job evidence verified
      (s.saveBatch (batchKey job evidence) (catalogReadyBatch batch verified)) := by
  unfold publishVerifiedCommit
  rw [hbatch]
  rfl

/-- What makes a first run publish. -/
structure Publishes (env : SqlEnv) (job : Job) (run : Run) (evidence : Evidence)
    (store : SqlStore) (batch : Batch) (verified : CommitDocument) : Prop where
  staged : stageBatch (store.batches (batchKey job evidence)) (newBatch job run evidence) =
    .ok batch
  notReady : batch.stage ≠ .dashboardReady
  scan : ∃ sourceCommits, sourceCommitsForEvidence env.toRuntime job evidence store =
    .ok sourceCommits ∧ sourceCommits ≠ .pending ∧ sourceCommits ≠ .selected []
  expected : expectedSnapshotId evidence ≠ ""
  verified : verification env.writer job evidence = .ok verified

/-- The store between the second commit and the third. -/
def catalogReadyStore (job : Job) (evidence : Evidence) (batch : Batch)
    (verified : CommitDocument) (store : SqlStore) : SqlStore :=
  store.withBatch (batchKey job evidence) (catalogReadyBatch batch verified)

/-- The session after the second commit. -/
def catalogReadySession (job : Job) (evidence : Evidence) (batch : Batch)
    (verified : CommitDocument) (store : SqlStore) : Session where
  store := catalogReadyStore job evidence batch verified store
  commits := [store.withBatch (batchKey job evidence) batch,
    catalogReadyStore job evidence batch verified store]

theorem stageManifest_open {s : Session}
    (hstage : stageBatch (s.store.batches (batchKey job evidence)) (newBatch job run evidence) =
      .ok batch) (hopen : batch.stage ≠ .dashboardReady) (hrows : evidence.rowCount ≠ 0) :
    stageManifestBatch job run evidence s =
      .ok (s.saveBatch (batchKey job evidence) batch, batch) := by
  refine bind_eq_ok.mpr ⟨batch, hstage, ?_⟩
  rw [if_neg hopen, if_neg hrows]
  rfl

theorem Publishes.run_eq (h : Publishes env job run evidence store batch verified)
    (hvalid : validatePublicationIdentity env.toRuntime job run publication = .ok evidence)
    (hrows : evidence.rowCount ≠ 0) : runManifest env job run publication store =
      publishCatalogReady env job evidence verified
        (catalogReadySession job evidence batch verified store) := by
  obtain ⟨sourceCommits, hscan, hpending, hempty⟩ := h.scan
  let s : Session := Session.saveBatch { store } (batchKey job evidence) batch
  have hstage : stageManifestBatch job run evidence { store } = .ok (s, batch) :=
    stageManifest_open h.staged h.notReady hrows
  have hbatch : s.store.batches (batchKey job evidence) = some batch := Table.put_self ..
  have hscan' : sourceCommitsForEvidence env.toRuntime job evidence s.store =
      .ok sourceCommits := (sourceCommits_congr rfl rfl).trans hscan
  have hverify : verifyOutputCommit env job evidence s = (s, .ok (some verified)) := by
    unfold verifyOutputCommit
    rw [if_neg h.expected, h.verified]
  have hgoes : reconcileStaged env job evidence s batch =
      publishVerifiedCommit env job evidence verified s := by
    unfold reconcileStaged
    simp only [hscan']
    rw [if_neg (fun hboth => hempty hboth.1), if_neg h.notReady, if_neg hrows, hverify]
  unfold runManifest reconcileManifest
  simp only [hvalid, hstage, hgoes]
  rw [publishVerifiedCommit_eq hbatch]
  simp only [s, Session.saveBatch, Session.setBatch, Session.commit, catalogReadySession,
    catalogReadyStore, SqlStore.withBatch, Table.put_put, List.nil_append, List.cons_append]

theorem verifyOutputCommit_verified {s t : Session}
    (h : verifyOutputCommit env job evidence s = (t, .ok (some verified))) :
    expectedSnapshotId evidence ≠ "" ∧ verification env.writer job evidence = .ok verified := by
  unfold verifyOutputCommit at h
  split at h
  · cases h
  · rename_i hexpected
    split at h
    · rename_i hok
      cases h
      exact ⟨hexpected, hok⟩
    · cases h
    · cases h

/-- A commit that could not be verified leaves the batch before the catalog. -/
theorem verifyOutputCommit_left {s t : Session}
    (hbatch : s.store.batches (batchKey job evidence) = some batch)
    (h : verifyOutputCommit env job evidence s = (t, .ok none)) : ∃ left,
      t.store.batches (batchKey job evidence) = some left ∧ left.stage = .outputCommitted := by
  unfold verifyOutputCommit at h
  rw [hbatch] at h
  split at h
  · cases h
  · split at h
    · cases h
    · rename_i hnone
      exact nomatch hnone
    · cases h
      exact ⟨_, Table.put_self .., rfl⟩

theorem verifyOutputCommit_error {s t : Session} {e : SqlError}
    (h : verifyOutputCommit env job evidence s = (t, .error e)) : t = s := by
  unfold verifyOutputCommit at h
  split at h
  · exact (Prod.mk.inj h).1.symm
  · split at h
    · cases h
    · exact (Prod.mk.inj h).1.symm
    · cases h

/-- A run that does not end on the dashboard. -/
def EndsBefore (job : Job) (evidence : Evidence) (r : Session × Except SqlError Batch) : Prop :=
  ¬ OnDashboard job evidence r.1.store ∧ ∀ final, r.2 = .ok final → final.stage ≠ .dashboardReady

theorem endsBefore_error {s : Session} {e : SqlError}
    (h : ¬ OnDashboard job evidence s.store) : EndsBefore job evidence (s, .error e) :=
  ⟨h, fun _ hok => nomatch hok⟩

theorem endsBefore_batch {s : Session} (hbatch : s.store.batches (batchKey job evidence) =
    some batch) (hstage : batch.stage ≠ .dashboardReady) :
    EndsBefore job evidence (s, .ok batch) := by
  refine ⟨?_, fun final hok => Except.ok.inj hok ▸ hstage⟩
  rintro ⟨shown, hshown, hready⟩
  cases hbatch.symm.trans hshown
  exact hstage hready

/-- A run from a batch that is not on the dashboard publishes, or ends before. -/
theorem publishes_or_endsBefore
    (hvalid : validatePublicationIdentity env.toRuntime job run publication = .ok evidence)
    (hrows : evidence.rowCount ≠ 0) (hopen : ¬ OnDashboard job evidence store) :
    (∃ batch verified, Publishes env job run evidence store batch verified) ∨
      EndsBefore job evidence (runManifest env job run publication store) := by
  unfold runManifest reconcileManifest
  rw [hvalid]
  simp only
  cases hstage : stageBatch (store.batches (batchKey job evidence))
      (newBatch job run evidence) with
  | error e =>
      have hstage' : stageManifestBatch job run evidence { store } = .error e := by
        unfold stageManifestBatch
        simp only [hstage]
        rfl
      rw [hstage']
      exact Or.inr (endsBefore_error hopen)
  | ok batch =>
      have hnotReady : batch.stage ≠ .dashboardReady := by
        intro hbatch
        cases hold : store.batches (batchKey job evidence) with
        | none =>
            rw [hold] at hstage
            rw [← Except.ok.inj hstage] at hbatch
            cases hbatch
        | some existing =>
            rw [hold] at hstage
            rw [stageBatch_stage hstage] at hbatch
            exact hopen ⟨existing, hold, hbatch⟩
      let s : Session := Session.saveBatch { store } (batchKey job evidence) batch
      have hstage' : stageManifestBatch job run evidence { store } = .ok (s, batch) :=
        stageManifest_open hstage hnotReady hrows
      have hscan : sourceCommitsForEvidence env.toRuntime job evidence s.store =
          sourceCommitsForEvidence env.toRuntime job evidence store := sourceCommits_congr rfl rfl
      have hbatch : s.store.batches (batchKey job evidence) = some batch := Table.put_self ..
      have hstopped : ∀ e, EndsBefore job evidence (s, .error e) :=
        fun e => endsBefore_error (endsBefore_batch hbatch hnotReady).1
      rw [hstage']
      simp only [reconcileStaged, hscan]
      split
      · exact Or.inr (hstopped _)
      · exact Or.inr (endsBefore_batch (Table.put_self ..) hnotReady)
      · rename_i sourceCommits hpending hsome
        split
        · exact Or.inr (endsBefore_batch (Table.put_self ..) (fun h => by cases h))
        · rename_i hnot
          have hempty : sourceCommits ≠ .selected [] := fun h => hnot ⟨h, hnotReady⟩
          rcases hverify : verifyOutputCommit env job evidence s with ⟨t, _ | _ | verified⟩
          · cases verifyOutputCommit_error hverify
            exact Or.inr (hstopped _)
          · obtain ⟨left, hleft, hstage⟩ := verifyOutputCommit_left hbatch hverify
            simp only [hleft]
            exact Or.inr (endsBefore_batch hleft fun h => by cases hstage.symm.trans h)
          · obtain ⟨hexpected, hok⟩ := verifyOutputCommit_verified hverify
            exact Or.inl ⟨batch, verified, hstage, hnotReady,
              ⟨sourceCommits, hsome, hpending, hempty⟩, hexpected, hok⟩

/-! ## The last commits -/

theorem advance_after {sourceCommits : SourceCommits} {revision : Nat} (s : Session)
    (commits : List SqlStore) :
    advanceIncrementalBinding env.toRuntime job evidence sourceCommits revision (s.after commits) =
      ((advanceIncrementalBinding env.toRuntime job evidence sourceCommits revision s).1.after
          commits,
        (advanceIncrementalBinding env.toRuntime job evidence sourceCommits revision s).2) := by
  match sourceCommits with
  | .unbound => rfl
  | .pending => rfl
  | .selected [] => rfl
  | .selected (first :: more) =>
      unfold advanceIncrementalBinding
      simp only [Session.after]
      cases s.store.bindings job.id with
      | none => rfl
      | some binding =>
          simp only
          split
          · rfl
          · simp only [Session.advance, Session.commit, List.append_assoc]

theorem saveBatch_after (s : Session) (commits : List SqlStore) (key : BatchKey) (batch : Batch) :
    (s.after commits).saveBatch key batch = (s.saveBatch key batch).after commits := by
  simp only [Session.saveBatch, Session.setBatch, Session.commit, Session.after, List.append_assoc]

theorem saveCatalog_after {dataset : OutputPayload} {existing : Option OutputPayload}
    {request : CommitRequest} (s : Session) (commits : List SqlStore) :
    saveCatalogDatasetAndRevision env dataset existing request (s.after commits) =
      ((saveCatalogDatasetAndRevision env dataset existing request s).1.after commits,
        (saveCatalogDatasetAndRevision env dataset existing request s).2) := by
  unfold saveCatalogDatasetAndRevision
  simp only [Session.after]
  split
  · simp only [Session.commit, List.append_assoc]
  · rfl

theorem finishPublication_after {revision : Nat} (s : Session) (commits : List SqlStore) :
    finishPublication env job evidence revision (s.after commits) =
      ((finishPublication env job evidence revision s).1.after commits,
        (finishPublication env job evidence revision s).2) := by
  have hstore : (s.after commits).store = s.store := rfl
  unfold finishPublication
  rw [hstore]
  cases s.store.batches (batchKey job evidence) with
  | none => rfl
  | some batch =>
      simp only [saveBatch_after]
      have hstore' : ((s.saveBatch (batchKey job evidence)
          (dashboardReadyBatch batch revision)).after commits).store =
        (s.saveBatch (batchKey job evidence) (dashboardReadyBatch batch revision)).store := rfl
      rw [hstore']
      split
      · rfl
      · rw [advance_after]

theorem publishCatalogReady_after (s : Session) (commits : List SqlStore) :
    publishCatalogReady env job evidence verified (s.after commits) =
      ((publishCatalogReady env job evidence verified s).1.after commits,
        (publishCatalogReady env job evidence verified s).2) := by
  have hstore : (s.after commits).store = s.store := rfl
  unfold publishCatalogReady
  simp only [hstore, saveCatalog_after]
  rcases saveCatalogDatasetAndRevision env (catalogPayload env job evidence verified
    ((s.store.outputs job.outputDatasetId).getD {})) (s.store.outputs job.outputDatasetId)
    (commitRequest job evidence verified) s with ⟨t, _ | commit⟩
  · rfl
  · exact finishPublication_after t commits

/-- An attempt that is saved has been saved with the payload it was given: the
second attempt meets the violated key again. -/
theorem saveOnce_of_save {dataset : OutputPayload} {existing : Option OutputPayload}
    {request : CommitRequest} {s t : Session} {commit : RevisionCommit}
    (h : saveCatalogDatasetAndRevision env dataset existing request s = (t, .ok commit)) :
    ∃ store, saveOnce env dataset existing.isSome request s.store = .ok (store, commit) ∧
      t = { s with store }.commit := by
  unfold saveCatalogDatasetAndRevision at h
  simp only at h
  split at h
  · rename_i store commit' hattempt
    cases h
    refine ⟨store, ?_, rfl⟩
    split at hattempt
    · -- the record does not read the payload
      rename_i hintegrity
      obtain ⟨recorded, hrecord, -⟩ := bind_eq_ok.mp hattempt
      unfold saveOnce at hintegrity
      rw [hrecord] at hintegrity
      simp only [bind, Except.bind] at hintegrity
      split at hintegrity <;> cases hintegrity
    · exact hattempt
  · cases h

/-- The commits after `catalog_ready`: the catalog, the dashboard, and the binding
where it advances. -/
structure Finished (env : SqlEnv) (job : Job) (evidence : Evidence) (verified : CommitDocument)
    (ready saved shown : SqlStore) (t : Session) : Prop where
  save : ∃ commit batch, saveOnce env (catalogPayload env job evidence verified
      ((ready.outputs job.outputDatasetId).getD {})) (ready.outputs job.outputDatasetId).isSome
      (commitRequest job evidence verified) ready = .ok (saved, commit) ∧
    ready.batches (batchKey job evidence) = some batch ∧
    shown = saved.withBatch (batchKey job evidence) (dashboardReadyBatch batch commit.revision)
  scan : ∃ sourceCommits batch, sourceCommitsForEvidence env.toRuntime job evidence shown =
      .ok sourceCommits ∧ shown.batches (batchKey job evidence) = some batch ∧
    advanceIncrementalBinding env.toRuntime job evidence sourceCommits
      (batch.datasetRevision.getD 0) ⟨shown, [saved, shown], []⟩ = (t, .ok ())
  commits : t.store = shown ∧ t.commits = [saved, shown] ∨ t.commits = [saved, shown, t.store]
  same : t.store.outputs = shown.outputs ∧ t.store.live = shown.live ∧
    t.store.batches = shown.batches

theorem advance_same {sourceCommits : SourceCommits} {revision : Nat} {s t : Session}
    {answer : Except SqlError Unit}
    (h : advanceIncrementalBinding env.toRuntime job evidence sourceCommits revision s =
      (t, answer)) : t = s ∨ ∃ binding ranges, t = (s.advance job evidence ranges binding).commit := by
  unfold advanceIncrementalBinding at h
  split at h
  · exact Or.inl (Prod.mk.inj h).1.symm
  · exact Or.inl (Prod.mk.inj h).1.symm
  · exact Or.inl (Prod.mk.inj h).1.symm
  · exact Or.inl (Prod.mk.inj h).1.symm
  · simp only at h
    split at h
    · exact Or.inl (Prod.mk.inj h).1.symm
    · exact Or.inr ⟨_, _, (Prod.mk.inj h).1.symm⟩

theorem finished_of_ok {ready : SqlStore} {final : Batch}
    (hbatch : ready.batches (batchKey job evidence) = some batch)
    (hok : (publishCatalogReady env job evidence verified { store := ready }).2 = .ok final) :
    ∃ saved shown, Finished env job evidence verified ready saved shown
      (publishCatalogReady env job evidence verified { store := ready }).1 := by
  rcases hrun : publishCatalogReady env job evidence verified { store := ready } with ⟨t, answer⟩
  rw [hrun] at hok
  cases hok
  unfold publishCatalogReady at hrun
  simp only at hrun
  split at hrun
  · cases hrun
  · rename_i s commit hsave
    obtain ⟨saved, honce, rfl⟩ := saveOnce_of_save hsave
    obtain ⟨hbatches, -, -⟩ := saveOnce_eq_ok honce
    unfold finishPublication at hrun
    simp only [Session.commit, hbatches, hbatch, Session.saveBatch, Session.setBatch,
      List.nil_append, List.cons_append] at hrun
    split at hrun
    · cases hrun
    · rename_i sourceCommits hscan
      rcases hadvance : advanceIncrementalBinding env.toRuntime job evidence sourceCommits
        commit.revision ⟨saved.withBatch (batchKey job evidence)
          (dashboardReadyBatch batch commit.revision), [saved,
            saved.withBatch (batchKey job evidence) (dashboardReadyBatch batch commit.revision)],
          []⟩ with ⟨t', answer⟩
      have hadvance' := hadvance
      unfold SqlStore.withBatch at hadvance'
      rw [hbatches] at hadvance'
      rw [hadvance'] at hrun
      obtain ⟨rfl, hanswer⟩ := Prod.mk.inj hrun
      cases answer with
      | error e => cases hanswer
      | ok _ =>
          have hscan' : sourceCommitsForEvidence env.toRuntime job evidence
              (saved.withBatch (batchKey job evidence)
                (dashboardReadyBatch batch commit.revision)) = .ok sourceCommits :=
            (sourceCommits_congr rfl rfl).trans hscan
          refine ⟨saved, _, ⟨commit, batch, honce, hbatch, rfl⟩,
            ⟨sourceCommits, _, hscan', Table.put_self .., hadvance⟩, ?_, ?_⟩
          · rcases advance_same hadvance with rfl | ⟨binding, ranges, rfl⟩
            · exact Or.inl ⟨rfl, rfl⟩
            · exact Or.inr rfl
          · rcases advance_same hadvance with rfl | ⟨binding, ranges, rfl⟩
            · exact ⟨rfl, rfl, rfl⟩
            · exact ⟨rfl, rfl, rfl⟩

/-! ## Attempts -/

/-- An uninterrupted run from `first` that puts the batch on the dashboard. -/
structure Course (env : SqlEnv) (job : Job) (run : Run) (publication : Publication)
    (evidence : Evidence) (first : SqlStore) (batch : Batch) (verified : CommitDocument)
    (saved shown : SqlStore) (t : Session) (final : Batch) : Prop where
  valid : validatePublicationIdentity env.toRuntime job run publication = .ok evidence
  rows : evidence.rowCount ≠ 0
  publishes : Publishes env job run evidence first batch verified
  run_eq : publishCatalogReady env job evidence verified
    { store := catalogReadyStore job evidence batch verified first } = (t, .ok final)
  finished : Finished env job evidence verified
    (catalogReadyStore job evidence batch verified first) saved shown t

/-- The rows that agree on everything but the batch. -/
def SameButBatch (job : Job) (evidence : Evidence) (store first : SqlStore) : Prop :=
  ∀ batch, store.withBatch (batchKey job evidence) batch =
    first.withBatch (batchKey job evidence) batch

/-- The states between two attempts: before the catalog, where the row of the
batch can be staged again, or on the dashboard. -/
def Underway (job : Job) (run : Run) (evidence : Evidence) (first : SqlStore) (batch : Batch)
    (verified : CommitDocument) (shown last : SqlStore) (store : SqlStore) : Prop :=
  (SameButBatch job evidence store first ∧ ∃ left, left ≠ .dashboardReady ∧
    stageBatch (store.batches (batchKey job evidence)) (newBatch job run evidence) =
      .ok { batch with stage := left }) ∨
    ((store = shown ∨ store = last) ∧
      (evidence.icebergCommit = some verified ∨ ¬ SameSnapshot evidence))

section
variable {first saved shown : SqlStore} {t : Session} {final : Batch}

/-- What the verified document says. -/
theorem verification_spec {writer : IcebergWriter}
    (h : verification writer job evidence = .ok verified) :
    verified.snapshotId = expectedSnapshotId evidence ∧
      verified.sourceBoundary = some evidence.sourceBoundary := by
  obtain ⟨found, hcommit, h⟩ := bind_eq_ok.mp h
  obtain ⟨_, -, h⟩ := bind_eq_ok.mp h
  cases pure_eq_ok.mp h
  obtain ⟨_, -, h⟩ := bind_eq_ok.mp hcommit
  simp only at h
  split at h
  · obtain ⟨_, -, h⟩ := bind_eq_ok.mp h
    obtain ⟨_, hsame, h⟩ := bind_eq_ok.mp h
    cases pure_eq_ok.mp h
    exact ⟨not_not.mp (rejectIf_eq_ok.mp hsame), rfl⟩
  · split at h
    · cases h
    · cases h

theorem Course.commit (h : Course env job run publication evidence first batch verified saved shown
    t final) : ∃ commit, evidence.icebergCommit = some commit ∧
      commit.sourceBoundary = some evidence.sourceBoundary :=
  outputCommit_of_valid h.valid (Nat.pos_of_ne_zero h.rows)

theorem Course.stagedBy (h : Course env job run publication evidence first batch verified saved
    shown t final) : StagedBy job run evidence batch := by
  obtain ⟨commit, hcommit, -⟩ := h.commit
  exact stagedBy_of_stage ⟨commit, hcommit⟩ h.publishes.staged

/-- The verified document has the identity of the worker's, unless the worker's
names its snapshot with space around it. -/
theorem Course.identity (h : Course env job run publication evidence first batch verified saved
    shown t final) : some (CommitDocument.identity verified) =
      evidence.icebergCommit.map CommitDocument.identity ↔ SameSnapshot evidence := by
  obtain ⟨commit, hcommit, hboundary⟩ := h.commit
  obtain ⟨hsnapshot, hboundary'⟩ := verification_spec h.publishes.verified
  have hexpected : expectedSnapshotId evidence = strip commit.snapshotId := by
    unfold expectedSnapshotId
    rw [hcommit]
    rfl
  rw [hcommit, Option.map_some, Option.some.injEq, CommitDocument.identity,
    CommitDocument.identity, hboundary, hboundary', hsnapshot, hexpected]
  constructor
  · intro heq found hfound
    cases hcommit.symm.trans hfound
    exact (Prod.mk.inj heq).1
  · intro hsame
    rw [hsame commit hcommit]

/-- A run from a state that differs in the batch only. -/
theorem Course.run_open (h : Course env job run publication evidence first batch verified saved
    shown t final) (hsame : SameButBatch job evidence store first) {left : Stage}
    (hleft : left ≠ .dashboardReady)
    (hstage : stageBatch (store.batches (batchKey job evidence)) (newBatch job run evidence) =
      .ok { batch with stage := left }) :
    runManifest env job run publication store =
      (t.after [first.withBatch (batchKey job evidence) { batch with stage := left },
        catalogReadyStore job evidence batch verified first], .ok final) := by
  obtain ⟨sourceCommits, hscan, hpending, hempty⟩ := h.publishes.scan
  have hlive := congrArg SqlStore.live (hsame batch)
  have hbindings := congrArg SqlStore.bindings (hsame batch)
  have hpublishes : Publishes env job run evidence store { batch with stage := left } verified :=
    ⟨hstage, hleft, ⟨sourceCommits, (@sourceCommits_congr job evidence _ first store hlive hbindings).trans
      hscan, hpending, hempty⟩, h.publishes.expected, h.publishes.verified⟩
  have hready : catalogReadyStore job evidence { batch with stage := left } verified store =
      catalogReadyStore job evidence batch verified first := hsame _
  have hsession : catalogReadySession job evidence { batch with stage := left } verified store =
      Session.after { store := catalogReadyStore job evidence batch verified first }
        [first.withBatch (batchKey job evidence) { batch with stage := left },
          catalogReadyStore job evidence batch verified first] := by
    unfold catalogReadySession
    rw [hready, hsame]
    rfl
  rw [hpublishes.run_eq h.valid h.rows, hsession, publishCatalogReady_after, h.run_eq]

/-- The rows of the store after the dashboard commit, and after the last one. -/
theorem Finished.shown_batch (h : Finished env job evidence verified
    (catalogReadyStore job evidence batch verified first) saved shown t) : ∃ revision,
      shown.batches (batchKey job evidence) =
        some (dashboardReadyBatch (catalogReadyBatch batch verified) revision) := by
  obtain ⟨commit, ready, -, hready, rfl⟩ := h.save
  cases (Table.put_self ..).symm.trans hready
  exact ⟨commit.revision, Table.put_self ..⟩

/-- Where the identities differ, a run from the dashboard is refused. -/
theorem Course.run_refused (h : Course env job run publication evidence first batch verified saved
    shown t final) (hsnapshot : ¬ SameSnapshot evidence) {stored : Batch}
    (hstored : store.batches (batchKey job evidence) = some stored)
    (hdocument : stored.outputCommit = some verified) :
    ∃ e, runManifest env job run publication store = ({ store }, .error e) := by
  obtain ⟨commit, hcommit, -⟩ := h.commit
  have hmismatch : immutableMismatch stored (newBatch job run evidence) := by
    refine Or.inr (Or.inr (Or.inr (Or.inr (Or.inr (Or.inr (Or.inr (Or.inl ⟨?_, ?_, ?_⟩)))))))
    · rw [hdocument]
      exact Option.some_ne_none _
    · show evidence.icebergCommit ≠ none
      rw [hcommit]
      exact Option.some_ne_none _
    · rw [hdocument]
      exact fun heq => hsnapshot (h.identity.mp heq)
  unfold runManifest reconcileManifest
  rw [h.valid]
  have hstage : stageManifestBatch job run evidence { store } =
      .error (.value "Continuous SQL batch identity was reused with different lineage evidence") := by
    unfold stageManifestBatch
    simp only [hstored, stageBatch, rejectIf, if_pos hmismatch]
    rfl
  simp only [hstage]
  exact ⟨_, rfl⟩

/-- Where the worker's document is the verified one, the row of the dashboard is
staged as it is. -/
theorem Course.restage (h : Course env job run publication evidence first batch verified saved shown
    t final) (hdocument : evidence.icebergCommit = some verified) (revision : Nat) :
    stageBatch (some (dashboardReadyBatch (catalogReadyBatch batch verified) revision))
      (newBatch job run evidence) =
        .ok (dashboardReadyBatch (catalogReadyBatch batch verified) revision) := by
  have hstaged := h.stagedBy
  have hnew : (newBatch job run evidence).outputCommit = some verified := hdocument
  have hsame : ¬ immutableMismatch (dashboardReadyBatch (catalogReadyBatch batch verified) revision)
      (newBatch job run evidence) := by
    have hself := hstaged.same
    unfold immutableMismatch at hself ⊢
    simp only [not_or] at hself ⊢
    obtain ⟨hrun, hplan, hoffsets, hstatic, hboundary, hid, hpath, -, hrows⟩ := hself
    refine ⟨hrun, hplan, hoffsets, hstatic, hboundary, hid, hpath, ?_, hrows⟩
    rintro ⟨-, -, hne⟩
    rw [hnew] at hne
    exact hne rfl
  refine bind_eq_ok.mpr ⟨(), rejectIf_eq_ok.mpr hsame, congrArg Except.ok ?_⟩
  have hself := congrArg
    (fun b => dashboardReadyBatch (catalogReadyBatch b verified) revision) hstaged.restaged_eq
  simp only [restaged, hnew, Option.some_or, dashboardReadyBatch, catalogReadyBatch] at hself ⊢
  exact hself

/-- A run from the dashboard only advances the binding. -/
theorem run_again {stored : Batch} {sourceCommits : SourceCommits}
    (hvalid : validatePublicationIdentity env.toRuntime job run publication = .ok evidence)
    (hstored : store.batches (batchKey job evidence) = some stored)
    (hready : stored.stage = .dashboardReady)
    (hstage : stageBatch (some stored) (newBatch job run evidence) = .ok stored)
    (hscan : sourceCommitsForEvidence env.toRuntime job evidence store = .ok sourceCommits)
    (hpending : sourceCommits ≠ .pending) :
    (runManifest env job run publication store).1 =
      (advanceIncrementalBinding env.toRuntime job evidence sourceCommits
        (stored.datasetRevision.getD 0) { store }).1 := by
  have hself : Session.setBatch { store } (batchKey job evidence) stored = { store } := by
    show ({ store := store.withBatch (batchKey job evidence) stored } : Session) = _
    rw [withBatch_self hstored]
  have hstage' : stageManifestBatch job run evidence { store } = .ok ({ store }, stored) := by
    refine bind_eq_ok.mpr ⟨stored, by rw [← hstage, ← hstored], ?_⟩
    rw [if_pos hready, hself]
    rfl
  unfold runManifest reconcileManifest
  simp only [hvalid, hstage', reconcileStaged, hscan]
  rw [if_neg (fun hboth => hboth.2 hready), if_pos hready]

/-- An attempt from the dashboard ends there. -/
theorem Course.run_done (h : Course env job run publication evidence first batch verified saved shown
    t final) (hdigest : ∀ text, env.sha256 text ≠ "")
    (hdocument : evidence.icebergCommit = some verified) (hstore : store = shown ∨ store = t.store) :
    (runManifest env job run publication store).1.store = t.store ∧
      ∀ commit ∈ (runManifest env job run publication store).1.commits, commit = t.store := by
  obtain ⟨revision, hshown⟩ := h.finished.shown_batch
  obtain ⟨sourceCommits, stored, hscan, hstored, hadvance⟩ := h.finished.scan
  cases hshown.symm.trans hstored
  have hpending : sourceCommits ≠ .pending := by
    rintro rfl
    cases (Prod.mk.inj hadvance).2
  have hfrom : store = shown → (runManifest env job run publication store).1.store = t.store ∧
      ∀ commit ∈ (runManifest env job run publication store).1.commits, commit = t.store := by
    rintro rfl
    have hrun := run_again h.valid hstored rfl (h.restage hdocument revision) hscan hpending
    have hafter := @advance_after env job evidence sourceCommits revision { store } [saved, store]
    have ht : t = Session.after (runManifest env job run publication store).1 [saved, store] := by
      rw [hrun]
      exact (congrArg Prod.fst hadvance).symm.trans (congrArg Prod.fst hafter)
    have hcommits : t.commits =
        [saved, store] ++ (runManifest env job run publication store).1.commits := by rw [ht]; rfl
    refine ⟨by rw [ht]; rfl, fun commit hcommit => ?_⟩
    rcases h.finished.commits with ⟨-, hnone⟩ | hone
    · rw [hcommits] at hnone
      have hnil : (runManifest env job run publication store).1.commits = [] := by simpa using hnone
      rw [hnil] at hcommit
      cases hcommit
    · rw [hcommits] at hone
      have hlast : (runManifest env job run publication store).1.commits = [t.store] := by
        simpa using hone
      rw [hlast] at hcommit
      exact List.mem_singleton.mp hcommit
  rcases hstore with hstore | rfl
  · exact hfrom hstore
  · have hbatches := h.finished.same.2.2
    rcases advance_cases hscan hadvance with hsame | ⟨first', more, binding, ranges, completed, -,
      hbinding, hnormal, -, -, -, ht⟩
    · exact hfrom (congrArg Session.store hsame)
    · -- the binding has the fingerprint of the ranges now
      have hscan' : sourceCommitsForEvidence env.toRuntime job evidence t.store =
          .ok (.selected []) := by
        have hself : t.store.bindings job.id = some (advancedBy env.toRuntime job binding ranges
            completed revision) := by
          rw [ht]
          exact Table.put_self ..
        have hlast : appliedLast env.toRuntime
            (advancedBy env.toRuntime job binding ranges completed revision) ranges := by
          have hfingerprint : kafkaSourceFingerprint env.toRuntime ranges =
              some (env.sha256 ranges.canonicalText) :=
            if_neg (normalizeKafkaSourceRanges_nonempty hnormal)
          refine ⟨?_, ?_, rfl⟩
          · show kafkaSourceFingerprint env.toRuntime ranges ≠ none
            rw [hfingerprint]
            exact Option.some_ne_none _
          · show kafkaSourceFingerprint env.toRuntime ranges ≠ some ""
            rw [hfingerprint]
            exact fun heq => hdigest _ (Option.some.inj heq)
        rw [sourceCommitsForEvidence, hself]
        show (normalizeKafkaSourceRanges (.list evidence.sourceRanges) true >>= _) = _
        rw [hnormal]
        exact if_pos hlast
      have hrun := run_again h.valid ((congrFun hbatches _).trans hstored) rfl
        (h.restage hdocument revision) hscan' (fun heq => by cases heq)
      rw [hrun]
      exact ⟨rfl, fun commit hcommit => by cases hcommit⟩

/-! ## The step lemma, and the run lemma -/

theorem Course.underway_first (h : Course env job run publication evidence first batch verified saved
    shown t final) : Underway job run evidence first batch verified shown t.store first :=
  Or.inl ⟨fun _ => rfl, batch.stage, h.publishes.notReady, h.publishes.staged⟩

theorem not_onDashboard_of_stage {left : Stage} (hleft : left ≠ .dashboardReady)
    (hstage : stageBatch (store.batches (batchKey job evidence)) (newBatch job run evidence) =
      .ok { batch with stage := left }) : ¬ OnDashboard job evidence store := by
  rintro ⟨stored, hstored, hready⟩
  rw [hstored] at hstage
  exact hleft ((stageBatch_stage hstage).trans hready)

theorem Course.commits_eq (h : Course env job run publication evidence first batch verified saved
    shown t final) : ∃ tail, t.commits = [saved, shown] ++ tail ∧
      (tail = [] ∧ t.store = shown ∨ tail = [t.store]) := by
  rcases h.finished.commits with ⟨hstore, hcommits⟩ | hcommits
  · exact ⟨[], by rw [hcommits]; rfl, Or.inl ⟨rfl, hstore⟩⟩
  · exact ⟨[t.store], by rw [hcommits]; rfl, Or.inr rfl⟩

/-- What an attempt leaves, by the number of its commits. -/
theorem Course.attempt_open (h : Course env job run publication evidence first batch verified saved
    shown t final) (hsame : SameButBatch job evidence store first) {left : Stage}
    (hleft : left ≠ .dashboardReady)
    (hstage : stageBatch (store.batches (batchKey job evidence)) (newBatch job run evidence) =
      .ok { batch with stage := left }) :
    attemptManifest env job run publication store (.stopped 0) = store ∧
      attemptManifest env job run publication store (.stopped 1) =
        first.withBatch (batchKey job evidence) { batch with stage := left } ∧
      attemptManifest env job run publication store (.stopped 2) =
        catalogReadyStore job evidence batch verified first ∧
      attemptManifest env job run publication store (.stopped 3) = saved ∧
      (∀ n, attemptManifest env job run publication store (.stopped (n + 4)) = shown ∨
        attemptManifest env job run publication store (.stopped (n + 4)) = t.store) ∧
      attemptManifest env job run publication store .finished = t.store := by
  obtain ⟨tail, hcommits, htail⟩ := h.commits_eq
  have hrun := h.run_open hsame hleft hstage
  have hall : (runManifest env job run publication store).1.commits =
      [first.withBatch (batchKey job evidence) { batch with stage := left },
        catalogReadyStore job evidence batch verified first, saved, shown] ++ tail := by
    rw [hrun]
    show _ ++ t.commits = _
    rw [hcommits]
    rfl
  refine ⟨rfl, ?_, ?_, ?_, fun n => ?_, ?_⟩
  all_goals unfold attemptManifest
  · simp only [hall, List.cons_append, List.take_succ_cons, List.take_zero, List.getLastD_cons,
      List.getLastD_nil]
  · simp only [hall, List.cons_append, List.take_succ_cons, List.take_zero, List.getLastD_cons,
      List.getLastD_nil]
  · simp only [hall, List.cons_append, List.take_succ_cons, List.take_zero, List.getLastD_cons,
      List.getLastD_nil]
  · simp only [hall, List.cons_append, List.nil_append, List.take_succ_cons, List.getLastD_cons]
    rcases htail with ⟨rfl, -⟩ | rfl
    · rw [List.take_nil]
      exact Or.inl rfl
    · cases n with
      | zero => exact Or.inl rfl
      | succ n =>
          rw [List.take_succ_cons, List.take_nil]
          exact Or.inr rfl
  · rw [hrun]
    rfl

theorem mem_getLastD {commits : List SqlStore} {P : SqlStore → Prop} (hstore : P store)
    (hall : ∀ commit ∈ commits, P commit) (n : Nat) : P ((commits.take n).getLastD store) := by
  cases htake : commits.take n with
  | nil => exact hstore
  | cons head rest =>
      have hlast : (head :: rest).getLast (List.cons_ne_nil _ _) ∈ commits.take n := by
        rw [htake]
        exact List.getLast_mem _
      rw [List.getLastD_eq_getLast?, List.getLast?_eq_getLast_of_ne_nil (List.cons_ne_nil _ _)]
      exact hall _ (List.mem_of_mem_take hlast)

/-- The step lemma. -/
theorem Course.step (h : Course env job run publication evidence first batch verified saved shown
    t final) (hdigest : ∀ text, env.sha256 text ≠ "") {attempt : Attempt}
    (hunderway : Underway job run evidence first batch verified shown t.store store)
    (hstops : Stops job evidence verified store attempt) :
    Underway job run evidence first batch verified shown t.store
      (attemptManifest env job run publication store attempt) := by
  rcases hunderway with ⟨hsame, left, hleft, hstage⟩ | ⟨hstore, hdocument⟩
  · obtain ⟨hzero, hone, htwo, -, hmore, hfinished⟩ := h.attempt_open hsame hleft hstage
    obtain ⟨commit, hcommit, -⟩ := h.commit
    have hstops := hstops.resolve_left (not_onDashboard_of_stage hleft hstage)
    match attempt with
    | .stopped 0 =>
        rw [hzero]
        exact Or.inl ⟨hsame, left, hleft, hstage⟩
    | .stopped 1 =>
        rw [hone]
        refine Or.inl ⟨fun _ => withBatch_withBatch .., left, hleft, ?_⟩
        have hself : batch.outputCommit = evidence.icebergCommit := by
          have hrestaged := congrArg Batch.outputCommit h.stagedBy.restaged_eq
          rw [← hrestaged, hcommit]
          show evidence.icebergCommit.or _ = _
          rw [hcommit, Option.some_or]
        rw [withBatch_batch]
        exact h.stagedBy.stage_left ⟨commit, hcommit⟩ fun _ => by rw [hself]
    | .stopped 2 =>
        rw [htwo]
        refine Or.inl ⟨fun _ => withBatch_withBatch .., .catalogReady, Stage.noConfusion, ?_⟩
        rw [catalogReadyStore, withBatch_batch]
        exact h.stagedBy.stage_left ⟨commit, hcommit⟩ fun _ => h.identity.mpr hstops
    | .stopped 3 => exact hstops.elim
    | .stopped (n + 4) =>
        exact Or.inr ⟨hmore n, hstops⟩
    | .finished =>
        rw [hfinished]
        exact Or.inr ⟨Or.inr rfl, hstops⟩
  · refine Or.inr ⟨?_, hdocument⟩
    rcases hdocument with hdocument | hsnapshot
    · obtain ⟨hlast, hcommits⟩ := h.run_done hdigest hdocument hstore
      cases attempt with
      | stopped n =>
          refine mem_getLastD (P := fun s => s = shown ∨ s = t.store) hstore
            (fun commit hcommit => Or.inr (hcommits commit hcommit)) n
      | finished => exact Or.inr hlast
    · obtain ⟨revision, hshown⟩ := h.finished.shown_batch
      have hstored : store.batches (batchKey job evidence) =
          some (dashboardReadyBatch (catalogReadyBatch batch verified) revision) := by
        rcases hstore with rfl | rfl
        · exact hshown
        · rw [h.finished.same.2.2]
          exact hshown
      obtain ⟨e, hrun⟩ := h.run_refused hsnapshot hstored rfl
      have hstays : attemptManifest env job run publication store attempt = store := by
        unfold attemptManifest
        simp only [hrun]
        cases attempt with
        | stopped n => simp only [List.take_nil, List.getLastD_nil]
        | finished => rfl
      rw [hstays]
      exact hstore

/-- The last run, from any of the states, has the outcome of one run. -/
theorem Course.outcome_last (h : Course env job run publication evidence first batch verified saved
    shown t final) (hdigest : ∀ text, env.sha256 text ≠ "")
    (hunderway : Underway job run evidence first batch verified shown t.store store) :
    outcome job evidence (runManifest env job run publication store).1.store =
      outcome job evidence t.store := by
  rcases hunderway with ⟨hsame, left, hleft, hstage⟩ | ⟨hstore, hdocument⟩
  · rw [h.run_open hsame hleft hstage]
    rfl
  · rcases hdocument with hdocument | hsnapshot
    · rw [(h.run_done hdigest hdocument hstore).1]
    · obtain ⟨revision, hshown⟩ := h.finished.shown_batch
      obtain ⟨houtputs, hlive, hbatches⟩ := h.finished.same
      have hstored : store.batches (batchKey job evidence) =
          some (dashboardReadyBatch (catalogReadyBatch batch verified) revision) := by
        rcases hstore with rfl | rfl
        · exact hshown
        · rw [hbatches]
          exact hshown
      obtain ⟨e, hrun⟩ := h.run_refused hsnapshot hstored rfl
      rw [hrun]
      rcases hstore with rfl | rfl
      · unfold outcome
        rw [houtputs, hlive, hbatches]
      · rfl

theorem Course.run_first (h : Course env job run publication evidence first batch verified saved
    shown t final) : (runManifest env job run publication first).1.store = t.store := by
  rw [h.run_open (fun _ => rfl) h.publishes.notReady h.publishes.staged]
  rfl

/-- Attempts that stop where they may, any number of them. -/
theorem Course.along (h : Course env job run publication evidence first batch verified saved shown
    t final) (hdigest : ∀ text, env.sha256 text ≠ "") :
    ∀ {attempts : List Attempt} {store : SqlStore},
      Underway job run evidence first batch verified shown t.store store →
      Along (Stops job evidence verified) (attemptManifest env job run publication) store attempts →
        Underway job run evidence first batch verified shown t.store
          (play (attemptManifest env job run publication) store attempts) := by
  intro attempts
  induction attempts with
  | nil => exact fun hunderway _ => hunderway
  | cons attempt attempts ih =>
      intro store hunderway halong
      exact ih (h.step hdigest hunderway halong.1) halong.2

/-! ## Stopping elsewhere -/

/-- The rows of the catalog entry, once its payload is saved. -/
theorem rows_of_save {request : CommitRequest} {ready : SqlStore} {commit : RevisionCommit}
    {payload : OutputPayload} (hdelta : ¬ snapshotRefresh evidence)
    (hdataset : request.datasetId = job.outputDatasetId)
    (hsave : saveOnce env (catalogPayload env job evidence verified
      ((ready.outputs job.outputDatasetId).getD {})) (ready.outputs job.outputDatasetId).isSome
      request ready = .ok (saved, commit))
    (hpayload : saved.outputs job.outputDatasetId = some payload) :
    payload.rows = displayCount
      (parseDisplayCount ((ready.outputs job.outputDatasetId).getD {}).rows + evidence.rowCount) := by
  obtain ⟨⟨live, commit', created⟩, -, hsave⟩ := bind_eq_ok.mp hsave
  simp only at hsave
  split at hsave
  · obtain ⟨rfl, -⟩ := Prod.mk.inj (pure_eq_ok.mp hsave)
    simp only [hdataset, Table.put_self, Option.some.injEq] at hpayload
    rw [← hpayload, catalogPayload]
    simp only [if_neg hdelta]
  · rename_i hneither
    obtain ⟨rfl, -⟩ := Prod.mk.inj (pure_eq_ok.mp hsave)
    have hsome : (ready.outputs job.outputDatasetId).isSome = true := by
      rw [Option.isSome_iff_exists]
      exact ⟨payload, hpayload⟩
    exact absurd (Or.inr hsome) hneither

/-- The rows grow once by the rows of the publication. -/
theorem Course.rows_grow (h : Course env job run publication evidence first batch verified saved
    shown t final) (hdelta : ¬ snapshotRefresh evidence) {payload : OutputPayload}
    (hpayload : t.store.outputs job.outputDatasetId = some payload) :
    payload.rows = displayCount
      (parseDisplayCount ((first.outputs job.outputDatasetId).getD {}).rows + evidence.rowCount) := by
  obtain ⟨commit, _, hsave, -, rfl⟩ := h.finished.save
  rw [h.finished.same.1] at hpayload
  have hsaved : saved.outputs job.outputDatasetId = some payload := hpayload
  have hrows := rows_of_save hdelta rfl hsave hsaved
  exact hrows

theorem finishPublication_outputs {revision : Nat} (s : Session) :
    (finishPublication env job evidence revision s).1.store.outputs = s.store.outputs := by
  unfold finishPublication
  split
  · rfl
  · simp only
    split
    · rfl
    · rename_i sourceCommits _
      rcases hadvance : advanceIncrementalBinding env.toRuntime job evidence sourceCommits revision
        (s.saveBatch (batchKey job evidence) _) with ⟨t, answer⟩
      rcases advance_same hadvance with rfl | ⟨_, _, rfl⟩
      · rfl
      · rfl

/-- After the catalog commit the next run counts the rows once more, or ends
before the dashboard. -/
theorem Course.outcome_saved (h : Course env job run publication evidence first batch verified saved
    shown t final) (hdelta : ¬ snapshotRefresh evidence)
    (hcatalog : t.store.outputs job.outputDatasetId ≠ none) :
    outcome job evidence (runManifest env job run publication saved).1.store ≠
      outcome job evidence t.store := by
  intro heq
  obtain ⟨commit, ready, hsave, hready, rfl⟩ := h.finished.save
  obtain ⟨revision, hshown⟩ := h.finished.shown_batch
  obtain ⟨payload, hpayload⟩ := Option.ne_none_iff_exists'.mp hcatalog
  have hsaved : saved.outputs job.outputDatasetId = some payload := by
    rw [← hpayload, h.finished.same.1]
    rfl
  have hfirst := h.rows_grow hdelta hpayload
  have hbatch : saved.batches (batchKey job evidence) = some (catalogReadyBatch batch verified) := by
    rw [(saveOnce_eq_ok hsave).1]
    exact withBatch_batch ..
  have hopen : ¬ OnDashboard job evidence saved := by
    rintro ⟨stored, hstored, hstage⟩
    cases hbatch.symm.trans hstored
    exact nomatch hstage
  -- the last run must have put the batch on the dashboard
  have hon : OnDashboard job evidence (runManifest env job run publication saved).1.store := by
    refine ⟨dashboardReadyBatch (catalogReadyBatch batch verified) revision, ?_, rfl⟩
    have hlast := congrArg (fun o => o.2.2.2) heq
    exact hlast.trans ((congrFun h.finished.same.2.2 _).trans hshown)
  rcases publishes_or_endsBefore h.valid h.rows hopen with ⟨batch', verified', hpublishes⟩ | hends
  · have hrows := congrArg (fun o => o.1.map Prod.fst) heq
    rw [hpublishes.run_eq h.valid h.rows] at hon hrows
    unfold publishCatalogReady at hon hrows
    simp only at hon hrows
    split at hon
    · -- the catalog row could not be saved
      rename_i s e hfailed
      have hstore : s = catalogReadySession job evidence batch' verified' saved := by
        rcases saveCatalog_cases hfailed with ⟨-, hs⟩ | ⟨_, hok, -⟩
        · exact hs
        · exact nomatch hok
      obtain ⟨stored, hstored, hstage⟩ := hon
      rw [hstore] at hstored
      cases (withBatch_batch ..).symm.trans hstored
      exact nomatch hstage
    · rename_i s commit' hsave'
      obtain ⟨saved', honce, rfl⟩ := saveOnce_of_save hsave'
      simp only [hsave', outcome, finishPublication_outputs, Option.map_map, hpayload,
        Option.map_some] at hrows
      obtain ⟨payload', hpayload', hsame⟩ := Option.map_eq_some_iff.mp hrows
      have hagain := rows_of_save hdelta rfl honce hpayload'
      have hready' : (catalogReadySession job evidence batch' verified' saved).store.outputs
          job.outputDatasetId = some payload := hsaved
      rw [hready', Option.getD_some, hfirst, parseDisplayCount_displayCount] at hagain
      have hrows' : payload'.rows = payload.rows := hsame
      have hcount := congrArg parseDisplayCount (hagain.symm.trans (hrows'.trans hfirst))
      rw [parseDisplayCount_displayCount, parseDisplayCount_displayCount] at hcount
      have := h.rows
      omega
  · exact hends.1 hon

/-- A process that stops at `catalog_ready` with a refused document never gets on. -/
theorem Course.outcome_refused (h : Course env job run publication evidence first batch verified
    saved shown t final) (hsnapshot : ¬ SameSnapshot evidence) :
    outcome job evidence (runManifest env job run publication
      (catalogReadyStore job evidence batch verified first)).1.store ≠
        outcome job evidence t.store := by
  intro heq
  obtain ⟨revision, hshown⟩ := h.finished.shown_batch
  have hstored : (catalogReadyStore job evidence batch verified first).batches
      (batchKey job evidence) = some (catalogReadyBatch batch verified) := withBatch_batch ..
  obtain ⟨e, hrun⟩ := h.run_refused hsnapshot hstored rfl
  rw [hrun] at heq
  have hlast := congrArg (fun o => o.2.2.2) heq
  have hboth := hstored.symm.trans (hlast.trans ((congrFun h.finished.same.2.2 _).trans hshown))
  exact nomatch congrArg Batch.stage (Option.some.inj hboth)

/-- A run from the dashboard leaves the document that it staged. -/
theorem reconcileStaged_document {s : Session}
    (hbatch : s.store.batches (batchKey job evidence) = some batch)
    (hready : batch.stage = .dashboardReady) : ∃ left,
      (reconcileStaged env job evidence s batch).1.store.batches (batchKey job evidence) =
        some left ∧ left.outputCommit = batch.outputCommit := by
  unfold reconcileStaged
  simp only
  split
  · exact ⟨batch, hbatch, rfl⟩
  · exact ⟨_, Table.put_self .., rfl⟩
  · rename_i sourceCommits _ _
    rw [if_neg (fun hboth => hboth.2 hready), if_pos hready]
    rcases hadvance : advanceIncrementalBinding env.toRuntime job evidence sourceCommits
      (batch.datasetRevision.getD 0) s with ⟨t, answer⟩
    rcases advance_same hadvance with rfl | ⟨_, _, rfl⟩
    · exact ⟨batch, hbatch, rfl⟩
    · exact ⟨batch, hbatch, rfl⟩

/-- From the dashboard the worker's document is written over the verified one. -/
theorem Course.outcome_restaged (h : Course env job run publication evidence first batch verified
    saved shown t final) (hstore : store = shown ∨ store = t.store)
    (hsnapshot : SameSnapshot evidence) (hdocument : evidence.icebergCommit ≠ some verified) :
    outcome job evidence (runManifest env job run publication store).1.store ≠
      outcome job evidence t.store := by
  intro heq
  obtain ⟨commit, hcommit, -⟩ := h.commit
  obtain ⟨revision, hshown⟩ := h.finished.shown_batch
  have hstored : store.batches (batchKey job evidence) =
      some (dashboardReadyBatch (catalogReadyBatch batch verified) revision) := by
    rcases hstore with rfl | rfl
    · exact hshown
    · rw [h.finished.same.2.2]
      exact hshown
  have hsame : ¬ immutableMismatch (dashboardReadyBatch (catalogReadyBatch batch verified) revision)
      (newBatch job run evidence) := by
    have hself := h.stagedBy.same
    unfold immutableMismatch at hself ⊢
    simp only [not_or] at hself ⊢
    obtain ⟨hrun, hplan, hoffsets, hstatic, hboundary, hid, hpath, -, hrows⟩ := hself
    refine ⟨hrun, hplan, hoffsets, hstatic, hboundary, hid, hpath, ?_, hrows⟩
    rintro ⟨-, -, hne⟩
    exact hne (h.identity.mpr hsnapshot)
  have hagain : Redelivered env job run publication { store } evidence
      (dashboardReadyBatch (catalogReadyBatch batch verified) revision) :=
    ⟨h.valid, hstored, rfl, hsame⟩
  unfold runManifest at heq
  rw [hagain.reconcile_eq] at heq
  obtain ⟨left, hleft, hkept⟩ := @reconcileStaged_document env job evidence _
    (again job run evidence _ { store }) (Table.put_self ..)
    (show (againBatch job run evidence (dashboardReadyBatch (catalogReadyBatch batch verified)
      revision)).stage = .dashboardReady from rfl)
  have hlast := congrArg (fun o => o.2.2.2) heq
  have hboth := hleft.symm.trans (hlast.trans ((congrFun h.finished.same.2.2 _).trans hshown))
  have hleft_document : left.outputCommit = some verified := by rw [Option.some.inj hboth]; rfl
  have hworker : (againBatch job run evidence (dashboardReadyBatch (catalogReadyBatch batch verified)
      revision)).outputCommit = evidence.icebergCommit := by
    show evidence.icebergCommit.or _ = _
    rw [hcommit, Option.some_or]
  exact hdocument (hworker.symm.trans (hkept.symm.trans hleft_document))

/-- One interruption: the outcome is that of one run exactly if the process stops
where it may. -/
theorem Course.outcome_iff (h : Course env job run publication evidence first batch verified saved
    shown t final) (hdigest : ∀ text, env.sha256 text ≠ "") (hdelta : ¬ snapshotRefresh evidence)
    (hcatalog : t.store.outputs job.outputDatasetId ≠ none) (attempt : Attempt) :
    outcome job evidence (runManifest env job run publication
        (attemptManifest env job run publication first attempt)).1.store =
          outcome job evidence t.store ↔ Stops job evidence verified first attempt := by
  constructor
  · intro heq
    refine Or.inr ?_
    obtain ⟨-, -, htwo, hthree, hmore, hfinished⟩ :=
      h.attempt_open (fun _ => rfl) h.publishes.notReady h.publishes.staged
    match attempt with
    | .stopped 0 => trivial
    | .stopped 1 => trivial
    | .stopped 2 =>
        rw [htwo] at heq
        by_contra hsnapshot
        exact h.outcome_refused hsnapshot heq
    | .stopped 3 =>
        rw [hthree] at heq
        exact h.outcome_saved hdelta hcatalog heq
    | .stopped (n + 4) =>
        by_contra hno
        obtain ⟨hdocument, hsnapshot⟩ := not_or.mp hno
        exact h.outcome_restaged (hmore n) (not_not.mp hsnapshot) hdocument heq
    | .finished =>
        by_contra hno
        obtain ⟨hdocument, hsnapshot⟩ := not_or.mp hno
        exact h.outcome_restaged (Or.inr hfinished) (not_not.mp hsnapshot) hdocument heq
  · intro hstops
    exact h.outcome_last hdigest (h.step hdigest h.underway_first hstops)

/-- A run that puts the batch on the dashboard is such a course. -/
theorem course_of_done
    (hvalid : validatePublicationIdentity env.toRuntime job run publication = .ok evidence)
    (hrows : evidence.rowCount ≠ 0) (hopen : ¬ OnDashboard job evidence first)
    (hdone : (runManifest env job run publication first).2 = .ok final)
    (hready : final.stage = .dashboardReady) : ∃ batch verified saved shown t,
      Course env job run publication evidence first batch verified saved shown t final := by
  rcases publishes_or_endsBefore hvalid hrows hopen with ⟨batch, verified, hpublishes⟩ | hends
  · have hrun := hpublishes.run_eq hvalid hrows
    have hsession : catalogReadySession job evidence batch verified first =
        Session.after { store := catalogReadyStore job evidence batch verified first }
          [first.withBatch (batchKey job evidence) batch,
            catalogReadyStore job evidence batch verified first] := rfl
    rw [hsession, publishCatalogReady_after] at hrun
    rw [hrun] at hdone
    have hbatch : (catalogReadyStore job evidence batch verified first).batches
        (batchKey job evidence) = some (catalogReadyBatch batch verified) := withBatch_batch ..
    obtain ⟨saved, shown, hfinished⟩ := finished_of_ok hbatch hdone
    exact ⟨batch, verified, saved, shown, _, hvalid, hrows, hpublishes, Prod.ext rfl hdone,
      hfinished⟩
  · exact absurd hready (hends.2 final hdone)

end

end

/-- The law of interrupted publications.

A delta publication with rows, whose batch is not on the dashboard, and which one
run puts there.  However often the process stops where it may, the last run has
the outcome of one run; one interruption elsewhere, for a dataset that is in the
catalog afterwards, shows; and one run adds the rows of the publication once. -/
theorem interrupted_publication (env : SqlEnv) (job : Job) (run : Run) (publication : Publication)
    (evidence : Evidence) (verified : CommitDocument) (first : SqlStore)
    (hvalid : validatePublicationIdentity env.toRuntime job run publication = .ok evidence)
    (hrows : 0 < evidence.rowCount) (hdelta : ¬ snapshotRefresh evidence)
    (hopen : ¬ OnDashboard job evidence first)
    (hdone : (runManifest env job run publication first).2.toOption.map Batch.stage =
      some .dashboardReady)
    (hverified : verification env.writer job evidence = .ok verified)
    (hdigest : ∀ text, env.sha256 text ≠ "") :
    (∀ attempts,
      Along (Stops job evidence verified) (attemptManifest env job run publication) first attempts →
        outcome job evidence (runManifest env job run publication
          (play (attemptManifest env job run publication) first attempts)).1.store =
            outcome job evidence (runManifest env job run publication first).1.store) ∧
    ((runManifest env job run publication first).1.store.outputs job.outputDatasetId ≠ none →
      ∀ attempt, outcome job evidence (runManifest env job run publication
          (attemptManifest env job run publication first attempt)).1.store =
            outcome job evidence (runManifest env job run publication first).1.store ↔
          Stops job evidence verified first attempt) ∧
    ∀ payload, (runManifest env job run publication first).1.store.outputs job.outputDatasetId =
        some payload →
      payload.rows = displayCount
        (parseDisplayCount ((first.outputs job.outputDatasetId).getD {}).rows +
          evidence.rowCount) := by
  obtain ⟨final, hfinal, hready⟩ := Option.map_eq_some_iff.mp hdone
  have hok : (runManifest env job run publication first).2 = .ok final := by
    rcases h : (runManifest env job run publication first).2 with e | found
    · rw [h] at hfinal
      exact nomatch hfinal
    · rw [h] at hfinal
      exact congrArg Except.ok (Option.some.inj hfinal)
  obtain ⟨batch, found, saved, shown, t, h⟩ := course_of_done hvalid (Nat.ne_of_gt hrows) hopen hok
    hready
  cases hverified.symm.trans h.publishes.verified
  rw [h.run_first]
  exact ⟨fun attempts halong => h.outcome_last hdigest (h.along hdigest h.underway_first halong),
    fun hcatalog => h.outcome_iff hdigest hdelta hcatalog, fun payload => h.rows_grow hdelta⟩

/-! ## Stopping between the catalog and the dashboard -/

/-- The orders store, with a source revision that was not read. -/
def ordersFirst : SqlStore :=
  (sqlStep ordersEnv ordersJob ordersStart (ordersCommit "run-1" [(0, 0, 10)])).store

def ordersBatch : Publication := ordersPublication 1 "out-1" "101" [(0, 0, 10)]

def ordersEvidence : Evidence where
  batchId := 1
  generation := 1
  rowCount := 10
  sourceRanges := ordersRanges [(0, 0, 10)]
  staticSnapshots := []
  sourceBoundary := ordersBoundary 1 "out-1" [(0, 0, 10)]
  publicationRunId := "out-1"
  manifestPath := "s3://lake/hourly/manifest"
  icebergCommit := ordersBatch.icebergCommit
  publishedAt := "2026-01-01T00:00:00"

def ordersVerified : CommitDocument where
  snapshotId := "101"
  sourceBoundary := some (ordersBoundary 1 "out-1" [(0, 0, 10)])
  createdTable := some false
  jobId := some "job-1"
  runId := some "out-1"
  target := some ordersJob.outputTarget
  queryEngineTable := some ordersJob.outputTarget.queryEngineTable
  committedAt := some "2026-01-01T00:00:00"
  warehouseLocation := some "s3://lake/hourly"
  ruleFingerprint := some "plan-1"

theorem ordersEnv_digest (text : String) : ordersEnv.sha256 text ≠ "" := by
  have hall : ∀ entry ∈ ordersDigests, entry.2 ≠ "" := by decide
  show ((ordersDigests.find? _).map Prod.snd).getD _ ≠ ""
  cases hfind : ordersDigests.find? fun entry => entry.1 = text with
  | none => exact fun heq => absurd heq (by decide)
  | some entry => exact hall entry (List.mem_of_find?_eq_some hfind)

theorem interrupted_publication_orders :
    ((runManifest ordersEnv ordersJob ordersRun ordersBatch ordersFirst).1.store.outputs
        "hourly").map OutputPayload.rows = some "10" ∧
      outcome ordersJob ordersEvidence (runManifest ordersEnv ordersJob ordersRun ordersBatch
        (play (attemptManifest ordersEnv ordersJob ordersRun ordersBatch) ordersFirst
          [.stopped 1, .stopped 2, .stopped 0])).1.store =
        outcome ordersJob ordersEvidence
          (runManifest ordersEnv ordersJob ordersRun ordersBatch ordersFirst).1.store := by
  have hvalid : validatePublicationIdentity ordersEnv.toRuntime ordersJob ordersRun ordersBatch =
      .ok ordersEvidence := by decide +kernel
  have hverified : verification ordersEnv.writer ordersJob ordersEvidence = .ok ordersVerified := by
    decide +kernel
  have hopen : ¬ OnDashboard ordersJob ordersEvidence ordersFirst := by
    rintro ⟨batch, hbatch, -⟩
    have hnone : ordersFirst.batches (batchKey ordersJob ordersEvidence) = none := by
      decide +kernel
    exact nomatch hnone.symm.trans hbatch
  have hdone : (runManifest ordersEnv ordersJob ordersRun ordersBatch ordersFirst).2.toOption.map
      Batch.stage = some .dashboardReady := by decide +kernel
  have hsnapshot : SameSnapshot ordersEvidence := by
    intro commit hcommit
    rw [← Option.some.inj hcommit]
    decide
  obtain ⟨halong, -⟩ := interrupted_publication ordersEnv ordersJob ordersRun ordersBatch
    ordersEvidence ordersVerified ordersFirst hvalid (by decide) (by decide) hopen hdone hverified
    ordersEnv_digest
  exact ⟨by decide +kernel,
    halong _ ⟨Or.inr trivial, Or.inr hsnapshot, Or.inr trivial, trivial⟩⟩

/-- The process stops when the catalog row and the revision are written, and the
batch is not on the dashboard: the next run adds the ten rows again. -/
theorem rows_added_twice :
    ((runManifest ordersEnv ordersJob ordersRun ordersBatch ordersFirst).1.store.outputs
        "hourly").map OutputPayload.rows = some "10" ∧
      ((runManifest ordersEnv ordersJob ordersRun ordersBatch
        (attemptManifest ordersEnv ordersJob ordersRun ordersBatch ordersFirst
          (.stopped 3))).1.store.outputs "hourly").map OutputPayload.rows = some "20" ∧
      ((runManifest ordersEnv ordersJob ordersRun ordersBatch
        (attemptManifest ordersEnv ordersJob ordersRun ordersBatch ordersFirst
          (.stopped 3))).1.store.batches ⟨"job-1", 1, 1⟩).map Batch.stage =
            some .dashboardReady := by
  decide +kernel

end AskLake.ContinuousSql

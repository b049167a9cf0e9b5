/-
# `AskLake.ContinuousSql.Delivery` — what one delivery does to the store

`reconcileManifest` has a dozen ways to end.  For the binding there are two:

    nothing             the binding and its ranges stay
    `Advanced`          the ranges of the publication are applied to it, once

and for the revision commits two as well: they stay, or one call of the recorder
grows them.  `reconcile_delivered` puts all of it in one structure, so that the
laws about runs never open the function again.
-/
import AskLake.ContinuousSql.Selection

namespace AskLake.ContinuousSql

open AskLake.Lib AskLake.Python AskLake.Kafka AskLake.Events AskLake.Dashboard

/-- The commits of a source that the scan finds for these ranges. -/
def Selects (live : Db) (binding : IncrementalBinding) (ranges : KafkaRanges)
    (first : RevisionCommit) (more : List RevisionCommit) : Prop :=
  selectCommits ranges [] []
    (listCommits live binding.sourceDatasetId binding.sourceRevision) =
      .ok (.selected (first :: more))

/-- The binding took the ranges of the publication.  The scan has been made on
the store before the delivery, and again on the one after it. -/
structure Advanced (env : SqlEnv) (job : Job) (evidence : Evidence) (s s' : Session)
    (binding : IncrementalBinding) (ranges : KafkaRanges) (completed : Option RevisionCommit)
    (outputRevision : Nat) : Prop where
  bound : s.store.bindings job.id = some binding
  normal : normalizeKafkaSourceRanges (.list evidence.sourceRanges) true = .ok ranges
  fresh : ¬ appliedLast env.toRuntime binding ranges
  before : ∃ first more, Selects s.store.live binding ranges first more
  after : ∃ first more, Selects s'.store.live binding ranges first more ∧
    completedCommit (mergeNextOffsets binding.nextOffsets (nextOffsetsOf ranges))
      (first :: more).reverse = .ok completed
  bindings_eq : s'.store.bindings = s.store.bindings.put job.id
    (advancedBy env.toRuntime job binding ranges completed outputRevision)
  applied_eq : s'.applied = s.applied ++ [(batchKey job evidence, ranges)]
  ready : ∃ batch, s'.store.batches (batchKey job evidence) = some batch ∧
    batch.stage = .dashboardReady

/-- The outcome of a delivery for the binding. -/
def BindingMove (env : SqlEnv) (job : Job) (evidence : Evidence) (s s' : Session) : Prop :=
  (s'.store.bindings = s.store.bindings ∧ s'.applied = s.applied) ∨
    ∃ binding ranges completed outputRevision,
      Advanced env job evidence s s' binding ranges completed outputRevision

structure Delivered (env : SqlEnv) (job : Job) (evidence : Evidence) (s s' : Session) : Prop where
  elsewhere : ∀ key, key ≠ batchKey job evidence → s'.store.batches key = s.store.batches key
  staysReady : ∀ batch, s.store.batches (batchKey job evidence) = some batch →
    batch.stage = .dashboardReady →
      ∃ batch', s'.store.batches (batchKey job evidence) = some batch' ∧
        batch'.stage = .dashboardReady
  live : s'.store.live = s.store.live ∨ ∃ verified,
    perform env.toDeployment s.store.live (.record (commitRequest job evidence verified)) =
      .ok s'.store.live
  binding : BindingMove env job evidence s s'

section
variable {env : SqlEnv} {job : Job} {run : Run} {evidence : Evidence} {s s' : Session}

/-! ## Staging -/

/-- A staged batch is written under its key, and nothing else. -/
structure Staged (job : Job) (evidence : Evidence) (s s' : Session) (batch : Batch) : Prop where
  store_eq : s'.store =
    { s.store with batches := s.store.batches.put (batchKey job evidence) batch }
  applied_eq : s'.applied = s.applied

theorem Staged.save (s : Session) (batch : Batch) :
    Staged job evidence s (s.saveBatch (batchKey job evidence) batch) batch := ⟨rfl, rfl⟩

theorem stageBatch_stage {existing batch staged : Batch}
    (h : stageBatch (some existing) batch = .ok staged) : staged.stage = existing.stage := by
  obtain ⟨_, -, h⟩ := bind_eq_ok.mp h
  rw [← pure_eq_ok.mp h]
  rfl

theorem stageManifestBatch_eq_ok {batch : Batch}
    (h : stageManifestBatch job run evidence s = .ok (s', batch)) :
    Staged job evidence s s' batch ∧
      (∀ old, s.store.batches (batchKey job evidence) = some old →
        old.stage = .dashboardReady → batch.stage = .dashboardReady) ∧
      (evidence.rowCount = 0 → batch.stage = .dashboardReady) := by
  obtain ⟨staged, hstage, h⟩ := bind_eq_ok.mp h
  have hready : ∀ old, s.store.batches (batchKey job evidence) = some old →
      old.stage = .dashboardReady → staged.stage = .dashboardReady := by
    intro old hold hstageOld
    rw [hold] at hstage
    rw [stageBatch_stage hstage, hstageOld]
  split at h
  · rename_i hdone
    obtain ⟨rfl, rfl⟩ := Prod.mk.inj (pure_eq_ok.mp h)
    exact ⟨⟨rfl, rfl⟩, hready, fun _ => hdone⟩
  · rename_i hopen
    split at h
    · obtain ⟨rfl, rfl⟩ := Prod.mk.inj (pure_eq_ok.mp h)
      exact ⟨.save _ _, fun _ _ _ => rfl, fun _ => rfl⟩
    · rename_i hrows
      obtain ⟨rfl, rfl⟩ := Prod.mk.inj (pure_eq_ok.mp h)
      exact ⟨.save _ _, hready, fun hzero => absurd hzero hrows⟩

/-- Only the binding and the commits decide what the scan finds. -/
theorem sourceCommits_congr {rt : Runtime} {store store' : SqlStore}
    (hlive : store'.live = store.live) (hbindings : store'.bindings = store.bindings) :
    sourceCommitsForEvidence rt job evidence store' =
      sourceCommitsForEvidence rt job evidence store := by
  rw [sourceCommitsForEvidence, sourceCommitsForEvidence, hlive, hbindings]

/-- A scan finds commits, or it waits. -/
theorem selectCommits_ne_unbound {target : KafkaRanges} {commits selected : List RevisionCommit}
    {collected : List RangeItem} :
    selectCommits target selected collected commits ≠ .ok .unbound := by
  induction commits generalizing selected collected with
  | nil => exact fun h => by cases h
  | cons commit rest ih =>
      intro h
      rw [selectCommits] at h
      split at h
      · exact ih h
      · obtain ⟨_, -, h⟩ := bind_eq_ok.mp h
        obtain ⟨_, -, h⟩ := bind_eq_ok.mp h
        split at h
        · cases h
        · exact ih h

/-- A list of source commits comes from a scan. -/
theorem sourceCommits_selected {rt : Runtime} {store : SqlStore} {first : RevisionCommit}
    {more : List RevisionCommit}
    (h : sourceCommitsForEvidence rt job evidence store = .ok (.selected (first :: more))) :
    ∃ binding ranges, store.bindings job.id = some binding ∧
      normalizeKafkaSourceRanges (.list evidence.sourceRanges) true = .ok ranges ∧
      ¬ appliedLast rt binding ranges ∧ Selects store.live binding ranges first more := by
  unfold sourceCommitsForEvidence at h
  split at h
  · exact nomatch h
  · rename_i binding hbinding
    obtain ⟨ranges, hnormal, h⟩ := bind_eq_ok.mp h
    split at h
    · exact nomatch h
    · rename_i hfresh
      exact ⟨binding, ranges, hbinding, hnormal, hfresh, h⟩

/-! ## Advancing -/

/-- The binding stays, or it takes the ranges. -/
theorem advance_cases {sourceCommits : SourceCommits} {outputRevision : Nat}
    {outcome : Except SqlError Unit}
    (hcommits : sourceCommitsForEvidence env.toRuntime job evidence s.store = .ok sourceCommits)
    (h : advanceIncrementalBinding env.toRuntime job evidence sourceCommits outputRevision s =
      (s', outcome)) :
    s' = s ∨ ∃ first more binding ranges completed,
      sourceCommits = .selected (first :: more) ∧ s.store.bindings job.id = some binding ∧
      normalizeKafkaSourceRanges (.list evidence.sourceRanges) true = .ok ranges ∧
      ¬ appliedLast env.toRuntime binding ranges ∧
      Selects s.store.live binding ranges first more ∧
      completedCommit (mergeNextOffsets binding.nextOffsets (nextOffsetsOf ranges))
        (first :: more).reverse = .ok completed ∧
      s' = (s.advance job evidence ranges
        (advancedBy env.toRuntime job binding ranges completed outputRevision)).commit := by
  unfold advanceIncrementalBinding at h
  split at h
  · exact Or.inl (Prod.mk.inj h).1.symm
  · exact Or.inl (Prod.mk.inj h).1.symm
  · exact Or.inl (Prod.mk.inj h).1.symm
  · exact Or.inl (Prod.mk.inj h).1.symm
  · rename_i first more binding hbinding
    simp only at h
    split at h
    · exact Or.inl (Prod.mk.inj h).1.symm
    · rename_i ranges completed hcompleted
      obtain ⟨ranges', hnormal, hcompleted⟩ := bind_eq_ok.mp hcompleted
      obtain ⟨completed', hfound, hpair⟩ := bind_eq_ok.mp hcompleted
      obtain ⟨rfl, rfl⟩ := Prod.mk.inj (pure_eq_ok.mp hpair)
      obtain ⟨binding', ranges'', hbinding', hnormal', hfresh, hselects⟩ :=
        sourceCommits_selected hcommits
      cases hbinding.symm.trans hbinding'
      cases hnormal.symm.trans hnormal'
      exact Or.inr ⟨first, more, binding, ranges', completed', rfl, hbinding, hnormal, hfresh,
        hselects, hfound, (Prod.mk.inj h).1.symm⟩

/-- A session that has written the batch, and what the recorder did. -/
structure Written (env : SqlEnv) (job : Job) (evidence : Evidence) (s s' : Session)
    (batch : Batch) : Prop where
  batches_eq : s'.store.batches = s.store.batches.put (batchKey job evidence) batch
  bindings_eq : s'.store.bindings = s.store.bindings
  applied_eq : s'.applied = s.applied
  live : s'.store.live = s.store.live ∨ ∃ verified,
    perform env.toDeployment s.store.live (.record (commitRequest job evidence verified)) =
      .ok s'.store.live
  staysReady : ∀ old, s.store.batches (batchKey job evidence) = some old →
    old.stage = .dashboardReady → batch.stage = .dashboardReady

theorem Staged.written {batch : Batch} (h : Staged job evidence s s' batch)
    (hready : ∀ old, s.store.batches (batchKey job evidence) = some old →
      old.stage = .dashboardReady → batch.stage = .dashboardReady) :
    Written env job evidence s s' batch := by
  obtain ⟨hstore, happlied⟩ := h
  refine ⟨?_, ?_, happlied, Or.inl ?_, hready⟩
  all_goals rw [hstore]

/-- Writing the batch once more. -/
theorem Written.rewrite {batch batch' : Batch} (h : Written env job evidence s s' batch)
    (hready : batch.stage = .dashboardReady → batch'.stage = .dashboardReady) :
    Written env job evidence s (s'.saveBatch (batchKey job evidence) batch') batch' where
  batches_eq := by
    show s'.store.batches.put _ batch' = _
    rw [h.batches_eq]
    funext key
    rw [Table.put_apply, Table.put_apply, Table.put_apply]
    split <;> rfl
  bindings_eq := h.bindings_eq
  applied_eq := h.applied_eq
  live := h.live
  staysReady := fun old hold hstage => hready (h.staysReady old hold hstage)

theorem Written.batch {batch : Batch} (h : Written env job evidence s s' batch) :
    s'.store.batches (batchKey job evidence) = some batch := by
  rw [h.batches_eq, Table.put_self]

/-- A delivery that ends with the batch. -/
theorem Written.delivered {batch : Batch} (h : Written env job evidence s s' batch) :
    Delivered env job evidence s s' where
  elsewhere := fun key hkey => by rw [h.batches_eq, Table.put_ne _ hkey]
  staysReady := fun old hold hstage => ⟨batch, h.batch, h.staysReady old hold hstage⟩
  live := h.live
  binding := Or.inl ⟨h.bindings_eq, h.applied_eq⟩

/-- A delivery that ends with the binding, once the batch is ready. -/
theorem Written.advanced {batch : Batch} {t : Session} (h : Written env job evidence s s' batch)
    (hready : batch.stage = .dashboardReady) {sourceCommits : SourceCommits}
    {outputRevision : Nat} {outcome : Except SqlError Unit}
    (hfirst : ∀ first more, sourceCommits = .selected (first :: more) → ∃ first' more',
      sourceCommitsForEvidence env.toRuntime job evidence s.store =
        .ok (.selected (first' :: more')))
    (hcommits : sourceCommitsForEvidence env.toRuntime job evidence s'.store = .ok sourceCommits)
    (hadvance : advanceIncrementalBinding env.toRuntime job evidence sourceCommits outputRevision
      s' = (t, outcome)) : Delivered env job evidence s t := by
  rcases advance_cases hcommits hadvance with rfl | ⟨first, more, binding, ranges, completed, hsel,
    hbinding, hnormal, hfresh, hselects, hfound, rfl⟩
  · exact h.delivered
  · obtain ⟨first', more', hbefore⟩ := hfirst first more hsel
    obtain ⟨binding', ranges', hbinding', hnormal', -, hselects'⟩ := sourceCommits_selected hbefore
    rw [h.bindings_eq] at hbinding
    cases hbinding.symm.trans hbinding'
    cases hnormal.symm.trans hnormal'
    refine ⟨h.delivered.elsewhere, h.delivered.staysReady, h.live, Or.inr ⟨binding, ranges,
      completed, outputRevision, ?_⟩⟩
    exact
      { bound := hbinding
        normal := hnormal
        fresh := hfresh
        before := ⟨first', more', hselects'⟩
        after := ⟨first, more, hselects, hfound⟩
        bindings_eq := by rw [← h.bindings_eq]; rfl
        applied_eq := by rw [← h.applied_eq]; rfl
        ready := ⟨batch, h.batch, hready⟩ }

/-! ## Publishing -/

theorem saveOnce_eq_ok {dataset : OutputPayload} {attached : Bool} {request : CommitRequest}
    {store store' : SqlStore} {commit : RevisionCommit}
    (h : saveOnce env dataset attached request store = .ok (store', commit)) :
    store'.batches = store.batches ∧ store'.bindings = store.bindings ∧
      ∃ created, recordDatasetCommit env.toDeployment store.live store.live request =
        .ok (store'.live, commit, created) := by
  obtain ⟨⟨live, commit', created⟩, hrecord, h⟩ := bind_eq_ok.mp h
  simp only at h
  split at h
  · obtain ⟨rfl, rfl⟩ := Prod.mk.inj (pure_eq_ok.mp h)
    exact ⟨rfl, rfl, created, hrecord⟩
  · obtain ⟨rfl, rfl⟩ := Prod.mk.inj (pure_eq_ok.mp h)
    exact ⟨rfl, rfl, created, hrecord⟩

theorem saveCatalog_cases {dataset : OutputPayload} {existing : Option OutputPayload}
    {request : CommitRequest} {outcome : Except SqlError RevisionCommit}
    (h : saveCatalogDatasetAndRevision env dataset existing request s = (s', outcome)) :
    ((∃ e, outcome = .error e) ∧ s' = s) ∨ ∃ commit, outcome = .ok commit ∧
      s'.store.batches = s.store.batches ∧ s'.store.bindings = s.store.bindings ∧
      s'.applied = s.applied ∧ ∃ created,
        recordDatasetCommit env.toDeployment s.store.live s.store.live request =
          .ok (s'.store.live, commit, created) := by
  unfold saveCatalogDatasetAndRevision at h
  simp only at h
  split at h
  · rename_i store commit hattempt
    obtain ⟨rfl, rfl⟩ := Prod.mk.inj h
    have honce : ∃ dataset, saveOnce env dataset existing.isSome request s.store =
        .ok (store, commit) := by
      split at hattempt
      · exact ⟨_, hattempt⟩
      · exact ⟨_, hattempt⟩
    obtain ⟨dataset', honce⟩ := honce
    obtain ⟨hbatches, hbindings, hrecord⟩ := saveOnce_eq_ok honce
    exact Or.inr ⟨commit, rfl, hbatches, hbindings, rfl, hrecord⟩
  · obtain ⟨rfl, rfl⟩ := Prod.mk.inj h
    exact Or.inl ⟨⟨_, rfl⟩, rfl⟩

/-- The catalog row and the revision, beside the batch. -/
theorem Written.recorded {batch : Batch} {dataset : OutputPayload}
    {existing : Option OutputPayload} {verified : CommitDocument} {t : Session}
    {commit : RevisionCommit} (h : Written env job evidence s s' batch)
    (hsame : s'.store.live = s.store.live)
    (hsave : saveCatalogDatasetAndRevision env dataset existing
      (commitRequest job evidence verified) s' = (t, .ok commit)) :
    Written env job evidence s t batch := by
  rcases saveCatalog_cases hsave with ⟨⟨e, he⟩, -⟩ | ⟨_, -, hbatches, hbindings, happlied, created,
    hrecord⟩
  · exact nomatch he
  · refine ⟨hbatches.trans h.batches_eq, hbindings.trans h.bindings_eq,
      happlied.trans h.applied_eq, Or.inr ⟨verified, ?_⟩, h.staysReady⟩
    rw [hsame] at hrecord
    show Prod.fst <$> recordDatasetCommit env.toDeployment s.store.live s.store.live
      (commitRequest job evidence verified) = _
    rw [hrecord]
    rfl

/-- From the verified commit on.  The first scan had found its commits, unless
there is no binding. -/
theorem publish_delivered {batch : Batch} {verified : CommitDocument}
    {outcome : Except SqlError Batch} {t : Session} (h : Written env job evidence s s' batch)
    (hsame : s'.store.live = s.store.live) (hopen : batch.stage ≠ .dashboardReady)
    (hfirst : s.store.bindings job.id ≠ none → ∃ first more,
      sourceCommitsForEvidence env.toRuntime job evidence s.store =
        .ok (.selected (first :: more)))
    (hpublish : publishVerifiedCommit env job evidence verified s' = (t, outcome)) :
    Delivered env job evidence s t := by
  unfold publishVerifiedCommit at hpublish
  rw [h.batch] at hpublish
  simp only at hpublish
  have hcatalog : Written env job evidence s _ (catalogReadyBatch batch verified) :=
    h.rewrite fun hready => absurd hready hopen
  split at hpublish
  · rename_i failed e hsave
    obtain ⟨rfl, -⟩ := Prod.mk.inj hpublish
    rcases saveCatalog_cases hsave with ⟨-, rfl⟩ | ⟨_, hok, -⟩
    · exact hcatalog.delivered
    · exact nomatch hok
  · rename_i saved commit hsave
    have hrecorded := hcatalog.recorded hsame hsave
    unfold finishPublication at hpublish
    rw [hrecorded.batch] at hpublish
    simp only at hpublish
    have hready : Written env job evidence s _
        (dashboardReadyBatch (catalogReadyBatch batch verified) commit.revision) :=
      hrecorded.rewrite fun _ => rfl
    split at hpublish
    · obtain ⟨rfl, -⟩ := Prod.mk.inj hpublish
      exact hready.delivered
    · rename_i sourceCommits hcommits
      obtain ⟨rfl, -⟩ := Prod.mk.inj hpublish
      refine hready.advanced rfl (fun first more hsel => hfirst ?_) hcommits rfl
      -- the second scan has read a binding, so the first one has
      rw [hsel] at hcommits
      obtain ⟨binding, _, hbinding, -⟩ := sourceCommits_selected hcommits
      rw [← hready.bindings_eq, hbinding]
      exact Option.some_ne_none binding

theorem verifyOutputCommit_cases {batch : Batch} {t : Session}
    {outcome : Except SqlError (Option CommitDocument)}
    (h : Written env job evidence s s' batch) (hopen : batch.stage ≠ .dashboardReady)
    (hverify : verifyOutputCommit env job evidence s' = (t, outcome)) :
    (∃ verified, outcome = .ok (some verified) ∧ t = s') ∨
      (∃ batch', Written env job evidence s t batch' ∧
        ∀ verified, outcome ≠ .ok (some verified)) := by
  unfold verifyOutputCommit at hverify
  rw [h.batch] at hverify
  split at hverify
  · obtain ⟨rfl, rfl⟩ := Prod.mk.inj hverify
    exact Or.inr ⟨batch, h, fun _ hok => nomatch hok⟩
  · split at hverify
    · rename_i verified _
      obtain ⟨rfl, rfl⟩ := Prod.mk.inj hverify
      exact Or.inl ⟨verified, rfl, rfl⟩
    · rename_i hnone
      exact nomatch hnone
    · rename_i e stored _ hsome
      cases hsome
      obtain ⟨rfl, rfl⟩ := Prod.mk.inj hverify
      exact Or.inr ⟨_, h.rewrite fun hready => absurd hready hopen, fun _ hok => nomatch hok⟩

/-! ## The whole delivery -/

theorem reconcileStaged_delivered {batch : Batch} {t : Session} {outcome : Except SqlError Batch}
    (h : Written env job evidence s s' batch) (hsame : s'.store.live = s.store.live)
    (hrows : evidence.rowCount = 0 → batch.stage = .dashboardReady)
    (hrun : reconcileStaged env job evidence s' batch = (t, outcome)) :
    Delivered env job evidence s t := by
  have hscan : sourceCommitsForEvidence env.toRuntime job evidence s'.store =
      sourceCommitsForEvidence env.toRuntime job evidence s.store :=
    sourceCommits_congr hsame h.bindings_eq
  unfold reconcileStaged at hrun
  simp only at hrun
  split at hrun
  · obtain ⟨rfl, -⟩ := Prod.mk.inj hrun
    exact h.delivered
  · obtain ⟨rfl, -⟩ := Prod.mk.inj hrun
    have hwaiting : Written env job evidence s _ { batch with
        lastErrorCode := some "CONTINUOUS_SQL_SOURCE_COMMIT_PENDING"
        lastErrorMessage := some "Waiting for the matching Kafka Dataset revision commit." } :=
      h.rewrite fun hready => hready
    exact hwaiting.delivered
  · rename_i sourceCommits hpending hcommits
    split at hrun
    · rename_i happlied
      obtain ⟨rfl, -⟩ := Prod.mk.inj hrun
      exact (h.rewrite fun hready => absurd hready happlied.2).delivered
    · rename_i hnot
      split at hrun
      · rename_i hready
        obtain ⟨rfl, -⟩ := Prod.mk.inj hrun
        refine h.advanced hready (fun first more hsel => ⟨first, more, ?_⟩) hcommits rfl
        rw [← hscan, hcommits, hsel]
      · rename_i hopen
        split at hrun
        · rename_i hzero
          exact absurd (hrows hzero) hopen
        · split at hrun
          · rename_i failed e hverify
            obtain ⟨rfl, -⟩ := Prod.mk.inj hrun
            rcases verifyOutputCommit_cases h hopen hverify with ⟨_, hok, -⟩ | ⟨_, hwritten, -⟩
            · exact nomatch hok
            · exact hwritten.delivered
          · rename_i verified hverify
            rcases verifyOutputCommit_cases h hopen hverify with ⟨_, -, rfl⟩ | ⟨_, -, hno⟩
            · refine publish_delivered h hsame hopen (fun hbound => ?_) hrun
              rw [← hscan, hcommits]
              -- of the four answers only a list with commits goes on, or no binding
              match sourceCommits with
              | .unbound =>
                  unfold sourceCommitsForEvidence at hcommits
                  split at hcommits
                  · rename_i hnone
                    exact absurd (h.bindings_eq ▸ hnone) hbound
                  · obtain ⟨ranges, -, hcommits⟩ := bind_eq_ok.mp hcommits
                    split at hcommits
                    · exact nomatch hcommits
                    · exact absurd hcommits selectCommits_ne_unbound
              | .pending => exact absurd rfl hpending
              | .selected [] => exact absurd ⟨rfl, hopen⟩ hnot
              | .selected (first :: more) => exact ⟨first, more, rfl⟩
            · exact absurd rfl (hno _)
          · rename_i stopped hverify
            rcases verifyOutputCommit_cases h hopen hverify with ⟨_, hok, -⟩ | ⟨_, hwritten, -⟩
            · exact nomatch hok
            · rw [hwritten.batch] at hrun
              obtain ⟨rfl, -⟩ := Prod.mk.inj hrun
              exact hwritten.delivered

/-- Every delivery: one that is not accepted leaves the store alone. -/
theorem reconcile_delivered (env : SqlEnv) (job : Job) (run : Run) (publication : Publication)
    (s : Session) : (reconcileManifest env job run publication s).1 = s ∨
      ∃ evidence, validatePublicationIdentity env.toRuntime job run publication = .ok evidence ∧
        Delivered env job evidence s (reconcileManifest env job run publication s).1 := by
  unfold reconcileManifest
  split
  · exact Or.inl rfl
  · rename_i evidence hvalid
    split
    · exact Or.inl rfl
    · rename_i staged batch hstage
      obtain ⟨hstaged, hready, hrows⟩ := stageManifestBatch_eq_ok hstage
      have hsame : staged.store.live = s.store.live := by rw [hstaged.store_eq]
      exact Or.inr ⟨evidence, hvalid,
        reconcileStaged_delivered (hstaged.written hready) hsame hrows rfl⟩

end

/-! ## Runs -/

/-- A run mixes the recorder's own calls with deliveries for the job. -/
inductive SqlCall
  | source (call : StreamCall)
  | deliver (run : Run) (publication : Publication)

/-- One call; a recorder's call that raises is rolled back. -/
def sqlStep (env : SqlEnv) (job : Job) (s : Session) : SqlCall → Session
  | .source call =>
      match perform env.toDeployment s.store.live call with
      | .ok live => { s with store := { s.store with live } }
      | .error _ => s
  | .deliver run publication => (reconcileManifest env job run publication s).1

/-- The ranges a call names, once they are normalized. -/
def SqlCall.ranges : SqlCall → Except Error KafkaRanges
  | source call => call.ranges
  | deliver _ publication =>
      normalizeKafkaSourceRanges (.list (publication.sourceRanges.getD [])) true

/-- The digests of the run are taken of these texts. -/
def TextsOf (texts : Set String) (calls : List SqlCall) : Prop :=
  ∀ call ∈ calls, ∀ ranges, call.ranges = .ok ranges → ranges.canonicalText ∈ texts

/-- Revision commits as the recorder leaves them. -/
structure LiveSound (rt : Runtime) (texts : Set String) (db : Db) : Prop where
  sound : Sound rt texts db
  streams : ∀ commit ∈ db.commits, Streams commit

section
variable {env : SqlEnv} {job : Job} {texts : Set String} {s : Session}

theorem LiveSound.sourceLog {rt : Runtime} {db : Db} (h : LiveSound rt texts db)
    (datasetId : String) : SourceLog db datasetId := h.sound.sourceLog h.streams

theorem validate_ranges {rt : Runtime} {run : Run} {publication : Publication}
    {evidence : Evidence}
    (h : validatePublicationIdentity rt job run publication = .ok evidence) :
    publication.sourceRanges = some evidence.sourceRanges := by
  obtain ⟨_, -, h⟩ := bind_eq_ok.mp h
  obtain ⟨_, -, h⟩ := bind_eq_ok.mp h
  obtain ⟨_, -, h⟩ := bind_eq_ok.mp h
  obtain ⟨_, -, h⟩ := bind_eq_ok.mp h
  obtain ⟨_, -, h⟩ := bind_eq_ok.mp h
  obtain ⟨sourceRanges, hranges, h⟩ := bind_eq_ok.mp h
  obtain ⟨_, -, h⟩ := bind_eq_ok.mp h
  obtain ⟨_, -, h⟩ := bind_eq_ok.mp h
  obtain ⟨_, -, h⟩ := bind_eq_ok.mp h
  obtain ⟨_, -, h⟩ := bind_eq_ok.mp h
  obtain ⟨_, -, h⟩ := bind_eq_ok.mp h
  obtain ⟨_, -, h⟩ := bind_eq_ok.mp h
  rw [← pure_eq_ok.mp h]
  exact orReject_eq_ok.mp hranges

/-- The recorder's own calls leave the tables of the job alone. -/
theorem sqlStep_source (env : SqlEnv) (job : Job) (s : Session) (call : StreamCall) :
    (sqlStep env job s (.source call)).store.bindings = s.store.bindings ∧
      (sqlStep env job s (.source call)).store.batches = s.store.batches ∧
      (sqlStep env job s (.source call)).applied = s.applied := by
  cases hperform : perform env.toDeployment s.store.live call with
  | ok live => simp only [sqlStep, hperform, and_self]
  | error e => simp only [sqlStep, hperform, and_self]

/-- The commits grow by at most one call of the recorder. -/
theorem sqlStep_live (env : SqlEnv) (job : Job) (s : Session) (call : SqlCall) :
    (sqlStep env job s call).store.live = s.store.live ∨ ∃ recorder,
      (∀ ranges, recorder.ranges = .ok ranges → call.ranges = .ok ranges) ∧
      perform env.toDeployment s.store.live recorder = .ok (sqlStep env job s call).store.live := by
  cases call with
  | source call =>
      cases hperform : perform env.toDeployment s.store.live call with
      | ok live => exact Or.inr ⟨call, fun _ h => h, by simp only [sqlStep, hperform]⟩
      | error e => exact Or.inl (by simp only [sqlStep, hperform])
  | deliver run publication =>
      show (reconcileManifest env job run publication s).1.store.live = _ ∨ _
      rcases reconcile_delivered env job run publication s with hsame | ⟨evidence, hvalid, hdel⟩
      · exact Or.inl (by rw [hsame])
      · refine hdel.live.imp id fun ⟨verified, hperform⟩ => ⟨_, fun ranges h => ?_, hperform⟩
        rw [SqlCall.ranges, validate_ranges hvalid]
        exact h

theorem sqlStep_grown (env : SqlEnv) (job : Job) (s : Session) (call : SqlCall) :
    ∃ f new, Grown s.store.live (sqlStep env job s call).store.live f new := by
  rcases sqlStep_live env job s call with hsame | ⟨recorder, -, hperform⟩
  · rw [hsame]
    exact ⟨_, _, .of_same rfl fun _ => le_refl _⟩
  · exact perform_grown hperform

theorem sqlStep_liveSound {call : SqlCall} (hfree : env.toRuntime.CollisionFree texts)
    (htext : ∀ ranges, call.ranges = .ok ranges → ranges.canonicalText ∈ texts)
    (h : LiveSound env.toRuntime texts s.store.live) :
    LiveSound env.toRuntime texts (sqlStep env job s call).store.live := by
  rcases sqlStep_live env job s call with hsame | ⟨recorder, hranges, hperform⟩
  · rw [hsame]
    exact h
  · obtain ⟨hsound, -⟩ := perform_sound hfree h.sound
      (fun ranges hr => htext ranges (hranges ranges hr)) hperform
    obtain ⟨f, new, hgrown⟩ := perform_grown hperform
    exact ⟨hsound, hgrown.all_streams h.streams⟩

/-- The texts of the ranges that a run names. -/
def sqlTexts (calls : List SqlCall) : List String :=
  calls.flatMap fun call =>
    match call.ranges with
    | .ok ranges => [ranges.canonicalText]
    | .error _ => []

theorem textsOf_sqlTexts (calls : List SqlCall) :
    TextsOf { text | text ∈ sqlTexts calls } calls := by
  intro call hcall ranges hranges
  refine List.mem_flatMap.mpr ⟨call, hcall, ?_⟩
  rw [hranges]
  exact List.mem_singleton_self _

/-- A store without revision commits. -/
theorem liveSound_start {rt : Runtime} {db : Db} (hcommits : db.commits = []) :
    LiveSound rt texts db where
  sound := (tracked_start hcommits).1
  streams := by
    intro commit hc
    rw [hcommits] at hc
    exact nomatch hc

end

/-! ## A job on the orders topic -/

/-- SHA-256 of the texts that the runs below take a digest of. -/
def ordersDigests : List (String × String) :=
  [("fence-1", "5efb39cf4a5f8632904875181ba6f83920d522c6e6b678ddbda60f26715f73c3"),
   ("[\x7b\"endOffset\":10,\"partition\":0,\"startOffset\":0,\"topic\":\"orders\"\x7d,\x7b\"endOffset\":10,\"partition\":1,\"startOffset\":0,\"topic\":\"orders\"\x7d]",
    "55fd098566a50b78828252d0e712fe016baf7b2e170ffee4bc2f532a8b6a7f87"),
   ("[\x7b\"endOffset\":20,\"partition\":0,\"startOffset\":10,\"topic\":\"orders\"\x7d]",
    "38420951c97801482c74a785531508dfa9c9a632c04f2f54c2389eaa66d46e3f"),
   ("[\x7b\"endOffset\":20,\"partition\":0,\"startOffset\":0,\"topic\":\"orders\"\x7d]",
    "a46eabb10a4eae224fe2d03a3ce3dabb4e3e09cd2737b159dd3c3862e0bb16cb"),
   ("[\x7b\"endOffset\":10,\"partition\":1,\"startOffset\":0,\"topic\":\"orders\"\x7d]",
    "961a050f1c492f58cb03e3b9188726f222759a3537200ed6877ff8114010429b"),
   ("[\x7b\"endOffset\":10,\"partition\":0,\"startOffset\":0,\"topic\":\"orders\"\x7d]",
    "6228e53fdc075ee6861fea0cbdd6493e9e6f64e0c6830b7681b640e28802e87d"),
   ("[\x7b\"endOffset\":15,\"partition\":0,\"startOffset\":10,\"topic\":\"orders\"\x7d]",
    "57e47fb153fcf89a7602d03fdfa54527742cc92c8e02cfe58a5a9f5c11d9693c")]

/-- Every snapshot that is asked for is there, with ten rows of its run. -/
def ordersWriter : IcebergWriter where
  describeTable := fun _ => .ok ()
  snapshot := fun _ snapshotId => .ok (snapshotId, "2026-01-01T00:00:00", "s3://lake/hourly")
  countRunRows := fun _ _ _ => .ok 10

def ordersEnv : SqlEnv where
  sha256 := fun text => ((ordersDigests.find? fun entry => entry.1 = text).map Prod.snd).getD
    "e3b0c44298fc1c149afbf4c8996fb92427ae41e4649b934ca495991b7852b855"
  lower := fun text => String.ofList (text.toList.map Char.toLower)
  casefold := fun text => String.ofList (text.toList.map Char.toLower)
  writer := ordersWriter
  now := "2026-01-01T00:00:00"

def ordersJob : Job where
  id := "job-1"
  name := "Orders by the hour"
  planHash := "plan-1"
  outputDatasetId := "hourly"
  outputTarget := ⟨"iceberg", "lake", "hourly", "append", []⟩

def ordersRun : Run := ⟨"sql-run-1", 1, "fence-1"⟩

/-- The binding as it is made, before the source has a revision. -/
def ordersStart : Session where
  store :=
    { bindings := Table.put (fun _ => none) "job-1" { sourceDatasetId := "orders" } }

/-- Ranges of the topic: partition, start and end. -/
def ordersRanges (ranges : List (Int × Int × Int)) : List RangeItem :=
  ranges.map fun r => .object ⟨"orders", some r.1, some r.2.1, some r.2.2⟩

/-- A source revision of these ranges. -/
def ordersCommit (runId : String) (ranges : List (Int × Int × Int)) : SqlCall :=
  .source (.record
    { datasetId := "orders", runId, storageLocation := "s3://lake/orders"
      storageFormat := "iceberg", materializationMode := "delta", rowCount := 20
      nextCheckAfterMs := 0, manifestLocation := some "s3://lake/orders/manifest"
      sourceRanges := .list (ordersRanges ranges) })

def ordersBoundary (batchId : Int) (runId : String) (ranges : List (Int × Int × Int)) :
    SqlSourceBoundary where
  kind := "continuous_sql_batch"
  jobId := "job-1"
  batchId := some batchId
  runGeneration := some 1
  planHash := "plan-1"
  fencingTokenHash := ordersEnv.sha256 "fence-1"
  runId := runId
  sourceRanges := some (ordersRanges ranges)
  staticSnapshots := some []

/-- A publication of ten rows over these ranges. -/
def ordersPublication (batchId : Int) (runId snapshotId : String)
    (ranges : List (Int × Int × Int)) : Publication where
  batchId := some batchId
  continuousSqlRunGeneration := some 1
  storedCount := some 10
  continuousSqlPlanHash := "plan-1"
  continuousSqlFencingTokenHash := ordersEnv.sha256 "fence-1"
  sourceBoundary := some (ordersBoundary batchId runId ranges)
  sourceRanges := some (ordersRanges ranges)
  staticSnapshots := some []
  runId := runId
  manifestPath := "s3://lake/hourly/manifest"
  icebergCommit := some
    { snapshotId, sourceBoundary := some (ordersBoundary batchId runId ranges)
      operation := some "append" }
  publishedAt := "2026-01-01T00:00:00"

end AskLake.ContinuousSql

/-
# `AskLake.ContinuousSql.Redelivery` — a publication that is delivered again

The supervisor reads the whole list of publications on every pass, so that a
batch that is on the dashboard comes again.  The only guard is the fingerprint
that the binding was last advanced by:

    A  B          applied, the fingerprint is that of B
    B             stops at the fingerprint
    A             is scanned for once more: either its source commits lie above
                  the watermark and A is applied twice, or they do not and A
                  waits for them with an error code

`RedeliversLast` is the condition under which a second delivery does nothing.
-/
import AskLake.ContinuousSql.Delivery

namespace AskLake.ContinuousSql

open AskLake.Lib AskLake.Python AskLake.Kafka AskLake.Dashboard

/-- A publication that is accepted, and whose batch is on the dashboard. -/
structure Redelivered (env : SqlEnv) (job : Job) (run : Run) (publication : Publication)
    (s : Session) (evidence : Evidence) (batch : Batch) : Prop where
  valid : validatePublicationIdentity env.toRuntime job run publication = .ok evidence
  stored : s.store.batches (batchKey job evidence) = some batch
  ready : batch.stage = .dashboardReady
  same : ¬ immutableMismatch batch (newBatch job run evidence)

/-- What a binding has consumed. -/
def progress (binding : IncrementalBinding) : Nat × List NextOffset × Int × Int :=
  (binding.sourceRevision, binding.nextOffsets, binding.processedRows,
    binding.processedStaticKeys)

/-- On the dashboard, and without an error. -/
def Settled (key : BatchKey) (s : Session) : Prop :=
  ∃ batch, s.store.batches key = some batch ∧ batch.stage = .dashboardReady ∧
    batch.lastErrorCode = none

/-- A redelivery does nothing. -/
def Harmless (env : SqlEnv) (job : Job) (s : Session) : SqlCall → Prop
  | .source _ => True
  | .deliver run publication => ∀ evidence batch,
      Redelivered env job run publication s evidence batch →
        Settled (batchKey job evidence) (sqlStep env job s (.deliver run publication)) ∧
        ((sqlStep env job s (.deliver run publication)).store.bindings job.id).map progress =
          (s.store.bindings job.id).map progress

/-- What is delivered again is what the binding took last. -/
def RedeliversLast (env : SqlEnv) (job : Job) (s : Session) : SqlCall → Prop
  | .source _ => True
  | .deliver run publication => ∀ evidence batch binding ranges,
      Redelivered env job run publication s evidence batch →
      s.store.bindings job.id = some binding →
      normalizeKafkaSourceRanges (.list evidence.sourceRanges) true = .ok ranges →
        appliedLast env.toRuntime binding ranges

/-- The rows of the binding are the offsets of the batches that it took, each of
them once. -/
def CountsApplied (job : Job) (s : Session) : Prop :=
  (s.applied.map Prod.fst).Nodup ∧ ∀ binding, s.store.bindings job.id = some binding →
    binding.processedRows = (s.applied.map fun entry => sourceRowCount entry.2).sum

section
variable {env : SqlEnv} {job : Job} {run : Run} {publication : Publication} {s : Session}
  {evidence : Evidence} {batch : Batch} {texts : Set String}

/-! ## One redelivery -/

/-- The row as a redelivery writes it. -/
def againBatch (job : Job) (run : Run) (evidence : Evidence) (batch : Batch) : Batch :=
  restaged batch (newBatch job run evidence)

/-- The session in which the scan is made. -/
def again (job : Job) (run : Run) (evidence : Evidence) (batch : Batch) (s : Session) : Session :=
  s.setBatch (batchKey job evidence) (againBatch job run evidence batch)

/-- A redelivery goes on from the row that is there. -/
theorem Redelivered.reconcile_eq (h : Redelivered env job run publication s evidence batch) :
    reconcileManifest env job run publication s =
      reconcileStaged env job evidence (again job run evidence batch s)
        (againBatch job run evidence batch) := by
  have hstaged : stageManifestBatch job run evidence s =
      .ok (again job run evidence batch s, againBatch job run evidence batch) := by
    have hstage : stageBatch (s.store.batches (batchKey job evidence))
        (newBatch job run evidence) = .ok (againBatch job run evidence batch) := by
      rw [h.stored]
      exact bind_eq_ok.mpr ⟨(), rejectIf_eq_ok.mpr h.same, rfl⟩
    refine bind_eq_ok.mpr ⟨_, hstage, ?_⟩
    have hready : (againBatch job run evidence batch).stage = .dashboardReady := h.ready
    rw [if_pos hready]
    rfl
  unfold reconcileManifest
  rw [h.valid]
  simp only [hstaged]

theorem again_settled (h : batch.stage = .dashboardReady) :
    Settled (batchKey job evidence) (again job run evidence batch s) :=
  ⟨_, Table.put_self .., h, rfl⟩

theorem again_scan {rt : Runtime} :
    sourceCommitsForEvidence rt job evidence (again job run evidence batch s).store =
      sourceCommitsForEvidence rt job evidence s.store := sourceCommits_congr rfl rfl

/-- What the scan answers, on revision commits as the recorder leaves them. -/
theorem scan_cases {binding : IncrementalBinding} {ranges : KafkaRanges}
    (hlive : LiveSound env.toRuntime texts s.store.live)
    (hbinding : s.store.bindings job.id = some binding)
    (hnormal : normalizeKafkaSourceRanges (.list evidence.sourceRanges) true = .ok ranges)
    (hfresh : ¬ appliedLast env.toRuntime binding ranges) :
    sourceCommitsForEvidence env.toRuntime job evidence s.store = .ok .pending ∨
      ∃ first more completed,
        sourceCommitsForEvidence env.toRuntime job evidence s.store =
          .ok (.selected (first :: more)) ∧
        completedCommit (mergeNextOffsets binding.nextOffsets (nextOffsetsOf ranges))
          (first :: more).reverse = .ok completed := by
  have hlog := hlive.sourceLog binding.sourceDatasetId
  have hreadable := readable_laterCommits hlog binding.sourceRevision
  have hscan : sourceCommitsForEvidence env.toRuntime job evidence s.store =
      selectCommits ranges [] []
        (laterCommits s.store.live binding.sourceDatasetId binding.sourceRevision) := by
    rw [← listCommits_stream hlog, ← selectCommits_filter, sourceCommitsForEvidence, hbinding]
    show (normalizeKafkaSourceRanges (.list evidence.sourceRanges) true >>= _) = _
    rw [hnormal]
    exact if_neg hfresh
  rw [hscan]
  rcases selectCommits_spec (normalizeKafkaSourceRanges_nonempty hnormal) hreadable with
    ⟨front, last, back, heq, hselect, -⟩ | ⟨hpending, -⟩
  · refine Or.inr ?_
    obtain ⟨first, more, hlist⟩ : ∃ first more, front ++ [last] = first :: more := by
      cases front with
      | nil => exact ⟨last, [], rfl⟩
      | cons first front => exact ⟨first, front ++ [last], rfl⟩
    rw [hlist] at hselect
    refine ⟨first, more, _, hselect, completedCommit_eq fun commit hc => ?_⟩
    refine hreadable.kafka commit ?_
    rw [List.mem_reverse, ← hlist] at hc
    rw [heq]
    rcases List.mem_append.mp hc with hin | hin
    · exact List.mem_append_left _ hin
    · exact List.mem_append_right _ (List.mem_cons.mpr (Or.inl (List.mem_singleton.mp hin)))
  · exact Or.inl hpending

/-- A redelivery that the fingerprint does not stop shows. -/
theorem Redelivered.not_harmless {binding : IncrementalBinding} {ranges : KafkaRanges}
    (h : Redelivered env job run publication s evidence batch)
    (hlive : LiveSound env.toRuntime texts s.store.live)
    (hbinding : s.store.bindings job.id = some binding)
    (hnormal : normalizeKafkaSourceRanges (.list evidence.sourceRanges) true = .ok ranges)
    (hfresh : ¬ appliedLast env.toRuntime binding ranges) :
    ¬ Harmless env job s (.deliver run publication) := by
  intro hharmless
  obtain ⟨hsettled, hprogress⟩ := hharmless evidence batch h
  have hrun : sqlStep env job s (.deliver run publication) =
      (reconcileStaged env job evidence (again job run evidence batch s)
        (againBatch job run evidence batch)).1 := congrArg Prod.fst h.reconcile_eq
  rw [hrun] at hsettled hprogress
  rcases scan_cases hlive hbinding hnormal hfresh with hpending | ⟨first, more, completed, hselected,
    hcompleted⟩
  · -- it waits, with an error code
    obtain ⟨stored, hstored, -, hcode⟩ := hsettled
    rw [← @again_scan job run s evidence batch] at hpending
    simp only [reconcileStaged, hpending, Session.saveBatch, Session.setBatch, Session.commit,
      Table.put_self] at hstored
    cases Option.some.inj hstored
    cases hcode
  · -- it is applied once more
    rw [← @again_scan job run s evidence batch] at hselected
    have hready : (againBatch job run evidence batch).stage = .dashboardReady := h.ready
    have hbinding' : (again job run evidence batch s).store.bindings job.id = some binding :=
      hbinding
    have hranges : (do
        let ranges ← normalizeKafkaSourceRanges (.list evidence.sourceRanges) true
        let completed ← completedCommit
          (mergeNextOffsets binding.nextOffsets (nextOffsetsOf ranges)) (first :: more).reverse
        pure (ranges, completed) : Except Error _) = .ok (ranges, completed) :=
      bind_eq_ok.mpr ⟨ranges, hnormal, bind_eq_ok.mpr ⟨completed, hcompleted, rfl⟩⟩
    simp only [reconcileStaged, hselected, hready, if_true, ne_eq, not_true, and_false, if_false,
      advanceIncrementalBinding, hbinding', hranges, Session.advance, Session.commit,
      Table.put_self, hbinding, Option.map_some, Option.some.injEq] at hprogress
    have hrows := congrArg (fun p => p.2.2.1) hprogress
    have hpos := sourceRowCount_pos (normalizeKafkaSourceRanges_nonempty hnormal)
    simp only [progress, advancedBy] at hrows
    omega

/-- A redelivery that the fingerprint stops, or that never reaches the scan. -/
theorem Redelivered.harmless (h : Redelivered env job run publication s evidence batch)
    (hlast : ∀ binding ranges, s.store.bindings job.id = some binding →
      normalizeKafkaSourceRanges (.list evidence.sourceRanges) true = .ok ranges →
        appliedLast env.toRuntime binding ranges) :
    Settled (batchKey job evidence) (sqlStep env job s (.deliver run publication)) ∧
      (sqlStep env job s (.deliver run publication)).store.bindings = s.store.bindings := by
  have hready : (againBatch job run evidence batch).stage = .dashboardReady := h.ready
  have hsame : sqlStep env job s (.deliver run publication) = again job run evidence batch s := by
    show (reconcileManifest env job run publication s).1 = _
    rw [h.reconcile_eq, reconcileStaged]
    simp only [again_scan]
    cases hbinding : s.store.bindings job.id with
    | none => simp only [sourceCommitsForEvidence, hbinding, hready, reduceCtorEq, false_and,
        if_false, if_true, advanceIncrementalBinding]
    | some binding =>
        cases hnormal : normalizeKafkaSourceRanges (.list evidence.sourceRanges) true with
        | error e =>
            have hscan : sourceCommitsForEvidence env.toRuntime job evidence s.store =
                .error e := by
              rw [sourceCommitsForEvidence, hbinding]
              show (normalizeKafkaSourceRanges (.list evidence.sourceRanges) true >>= _) = _
              rw [hnormal]
              rfl
            rw [hscan]
        | ok ranges =>
            have hscan : sourceCommitsForEvidence env.toRuntime job evidence s.store =
                .ok (.selected []) := by
              rw [sourceCommitsForEvidence, hbinding]
              show (normalizeKafkaSourceRanges (.list evidence.sourceRanges) true >>= _) = _
              rw [hnormal]
              exact if_pos (hlast binding ranges hbinding hnormal)
            simp only [hscan, hready, ne_eq, not_true, and_false, if_false, if_true,
              advanceIncrementalBinding]
  rw [hsame]
  exact ⟨again_settled h.ready, rfl⟩

/-- The step lemma: redeliveries are harmless where they are the last ones. -/
theorem harmless_iff (hlive : LiveSound env.toRuntime texts s.store.live) (call : SqlCall) :
    Harmless env job s call ↔ RedeliversLast env job s call := by
  cases call with
  | source _ => exact Iff.rfl
  | deliver run publication =>
      constructor
      · intro hharmless evidence batch binding ranges h hbinding hnormal
        by_contra hfresh
        exact h.not_harmless hlive hbinding hnormal hfresh hharmless
      · intro hlast evidence batch h
        obtain ⟨hsettled, hbindings⟩ :=
          h.harmless fun binding ranges => hlast evidence batch binding ranges h
        exact ⟨hsettled, by rw [hbindings]⟩

/-! ## One call -/

/-- What a run keeps: the batches that the binding took are on the dashboard, and
they are counted once. -/
structure Counted (env : SqlEnv) (texts : Set String) (job : Job) (s : Session) : Prop where
  live : LiveSound env.toRuntime texts s.store.live
  counts : CountsApplied job s
  shown : ∀ entry ∈ s.applied, ∃ batch, s.store.batches entry.1 = some batch ∧
    batch.stage = .dashboardReady

/-- A publication that contradicts the lineage of its batch is not accepted. -/
theorem reconcile_of_mismatch
    (hvalid : validatePublicationIdentity env.toRuntime job run publication = .ok evidence)
    (hstored : s.store.batches (batchKey job evidence) = some batch)
    (hmismatch : immutableMismatch batch (newBatch job run evidence)) :
    (reconcileManifest env job run publication s).1 = s := by
  have hstage : stageManifestBatch job run evidence s =
      .error (.value "Continuous SQL batch identity was reused with different lineage evidence") := by
    unfold stageManifestBatch
    simp only [hstored, stageBatch, rejectIf, if_pos hmismatch]
    rfl
  unfold reconcileManifest
  simp only [hvalid, hstage]

/-- A batch that the binding takes is new to it. -/
theorem Advanced.unapplied {binding : IncrementalBinding} {ranges : KafkaRanges}
    {completed : Option RevisionCommit} {outputRevision : Nat} (hcounted : Counted env texts job s)
    (hvalid : validatePublicationIdentity env.toRuntime job run publication = .ok evidence)
    (h : Advanced env job evidence s (reconcileManifest env job run publication s).1 binding ranges
      completed outputRevision)
    (hlast : RedeliversLast env job s (.deliver run publication)) :
    batchKey job evidence ∉ s.applied.map Prod.fst := by
  intro hmem
  obtain ⟨entry, hentry, hkey⟩ := List.mem_map.mp hmem
  obtain ⟨batch, hstored, hready⟩ := hcounted.shown entry hentry
  rw [hkey] at hstored
  by_cases hmismatch : immutableMismatch batch (newBatch job run evidence)
  · have happlied := h.applied_eq
    rw [reconcile_of_mismatch hvalid hstored hmismatch] at happlied
    exact absurd happlied (by simp)
  · exact h.fresh
      (hlast evidence batch binding ranges ⟨hvalid, hstored, hready, hmismatch⟩ h.bound h.normal)

theorem sqlStep_counted {call : SqlCall} (hfree : env.toRuntime.CollisionFree texts)
    (htext : ∀ ranges, call.ranges = .ok ranges → ranges.canonicalText ∈ texts)
    (hcounted : Counted env texts job s) (hlast : RedeliversLast env job s call) :
    Counted env texts job (sqlStep env job s call) := by
  have hlive' := @sqlStep_liveSound env job _ _ _ hfree htext hcounted.live
  cases call with
  | source call =>
      obtain ⟨hbindings, hbatches, happlied⟩ := sqlStep_source env job s call
      refine ⟨hlive', ?_, ?_⟩
      · unfold CountsApplied
        rw [hbindings, happlied]
        exact hcounted.counts
      · rw [hbatches, happlied]
        exact hcounted.shown
  | deliver run publication =>
      rcases reconcile_delivered env job run publication s with hsame | ⟨evidence, hvalid, hdel⟩
      · have hsame' : sqlStep env job s (.deliver run publication) = s := hsame
        rw [hsame']
        exact hcounted
      · have hshown : ∀ entry ∈ s.applied, ∃ batch,
            (sqlStep env job s (.deliver run publication)).store.batches entry.1 = some batch ∧
              batch.stage = .dashboardReady := by
          intro entry hentry
          obtain ⟨batch, hstored, hready⟩ := hcounted.shown entry hentry
          by_cases hkey : entry.1 = batchKey job evidence
          · rw [hkey] at hstored ⊢
            exact hdel.staysReady batch hstored hready
          · exact ⟨batch, (hdel.elsewhere _ hkey).trans hstored, hready⟩
        rcases hdel.binding with ⟨hbindings, happlied⟩ | ⟨binding, ranges, completed, revision, hadv⟩
        · have happlied' : (sqlStep env job s (.deliver run publication)).applied = s.applied :=
            happlied
          refine ⟨hlive', ?_, ?_⟩
          · have hbindings' : (sqlStep env job s (.deliver run publication)).store.bindings =
                s.store.bindings := hbindings
            unfold CountsApplied
            rw [hbindings', happlied']
            exact hcounted.counts
          · rw [happlied']
            exact hshown
        · have hnew := hadv.unapplied hcounted hvalid hlast
          obtain ⟨hnodup, hrows⟩ := hcounted.counts
          have happlied : (sqlStep env job s (.deliver run publication)).applied =
              s.applied ++ [(batchKey job evidence, ranges)] := hadv.applied_eq
          have hbindings : (sqlStep env job s (.deliver run publication)).store.bindings =
              s.store.bindings.put job.id
                (advancedBy env.toRuntime job binding ranges completed revision) := hadv.bindings_eq
          refine ⟨hlive', ⟨?_, ?_⟩, ?_⟩
          · rw [happlied, List.map_append]
            refine List.nodup_append.mpr ⟨hnodup, List.nodup_singleton _, fun a ha b hb hab => ?_⟩
            rw [hab, List.mem_singleton.mp hb] at ha
            exact hnew ha
          · intro binding' hbinding'
            rw [hbindings, Table.put_self] at hbinding'
            rw [← Option.some.inj hbinding', happlied, List.map_append, List.sum_append,
              ← hrows binding hadv.bound, List.map_singleton, List.sum_singleton]
            rfl
          · rw [happlied]
            intro entry hentry
            rcases List.mem_append.mp hentry with hentry | hentry
            · exact hshown entry hentry
            · rw [List.mem_singleton.mp hentry]
              exact hadv.ready

/-! ## Every run -/

/-- A binding that has just been made. -/
structure Unapplied (env : SqlEnv) (texts : Set String) (job : Job) (s : Session) : Prop where
  live : LiveSound env.toRuntime texts s.store.live
  applied : s.applied = []
  rows : ∀ binding, s.store.bindings job.id = some binding → binding.processedRows = 0

theorem Unapplied.counted (h : Unapplied env texts job s) : Counted env texts job s := by
  refine ⟨h.live, ⟨?_, fun binding hbinding => ?_⟩, ?_⟩
  · rw [h.applied]
    exact .nil
  · rw [h.rows binding hbinding, h.applied]
    rfl
  · intro entry hentry
    rw [h.applied] at hentry
    exact nomatch hentry

theorem always_counted (hfree : env.toRuntime.CollisionFree texts) :
    ∀ {calls : List SqlCall} {s : Session}, TextsOf texts calls → Counted env texts job s →
      Along (RedeliversLast env job) (sqlStep env job) s calls →
        Always (Counted env texts job) (sqlStep env job) s calls
  | [], _, _, hcounted, _ => hcounted
  | _ :: _, _, htexts, hcounted, halong =>
      ⟨hcounted, always_counted hfree (fun call hcall => htexts call (List.mem_cons_of_mem _ hcall))
        (sqlStep_counted hfree (htexts _ List.mem_cons_self) hcounted halong.1) halong.2⟩

/-- Along a run the two conditions agree, as long as the revision commits are
those of the recorder. -/
theorem along_harmless_iff (hfree : env.toRuntime.CollisionFree texts) :
    ∀ {calls : List SqlCall} {s : Session}, TextsOf texts calls →
      LiveSound env.toRuntime texts s.store.live →
        (Along (Harmless env job) (sqlStep env job) s calls ↔
          Along (RedeliversLast env job) (sqlStep env job) s calls)
  | [], _, _, _ => Iff.rfl
  | call :: _, _, htexts, hlive =>
      and_congr (harmless_iff hlive call)
        (along_harmless_iff hfree (fun call hcall => htexts call (List.mem_cons_of_mem _ hcall))
          (sqlStep_liveSound hfree (htexts _ List.mem_cons_self) hlive))

end

/-- The law of redeliveries, over every run of deliveries and of the recorder's
own calls.

A run's redeliveries are harmless exactly if each of them is of the ranges that
the binding took last; and then, in every state of the run, the rows of the
binding are the offsets of the batches that it took, each of them counted once. -/
theorem redelivery_harmless (env : SqlEnv) (job : Job) (s₀ : Session) (calls : List SqlCall)
    (texts : Set String) (hfree : env.toRuntime.CollisionFree texts)
    (htexts : TextsOf texts calls) (hstart : Unapplied env texts job s₀) :
    (Along (Harmless env job) (sqlStep env job) s₀ calls ↔
      Along (RedeliversLast env job) (sqlStep env job) s₀ calls) ∧
    (Along (RedeliversLast env job) (sqlStep env job) s₀ calls →
      Always (CountsApplied job) (sqlStep env job) s₀ calls) :=
  ⟨along_harmless_iff hfree htexts hstart.live, fun halong =>
    (always_counted hfree htexts hstart.counted halong).imp fun _ h => h.counts⟩

/-! ## Two batches of one commit -/

/-- What `RedeliversLast` asks of a call, as a check. -/
def StopsAtFingerprint (env : SqlEnv) (job : Job) (s : Session) : SqlCall → Prop
  | .source _ => True
  | .deliver run publication =>
      match validatePublicationIdentity env.toRuntime job run publication,
          s.store.bindings job.id with
      | .ok evidence, some binding =>
          match s.store.batches (batchKey job evidence),
              normalizeKafkaSourceRanges (.list evidence.sourceRanges) true with
          | some batch, .ok ranges =>
              batch.stage = .dashboardReady → appliedLast env.toRuntime binding ranges
          | _, _ => True
      | _, _ => True

instance (env : SqlEnv) (job : Job) (s : Session) (call : SqlCall) :
    Decidable (StopsAtFingerprint env job s call) := by
  unfold StopsAtFingerprint
  repeat' split
  all_goals infer_instance

theorem StopsAtFingerprint.redeliversLast {env : SqlEnv} {job : Job} {s : Session}
    {call : SqlCall} (h : StopsAtFingerprint env job s call) : RedeliversLast env job s call := by
  cases call with
  | source _ => trivial
  | deliver run publication =>
      intro evidence batch binding ranges hagain hbinding hnormal
      simp only [StopsAtFingerprint, hagain.valid, hbinding, hagain.stored, hnormal] at h
      exact h hagain.ready

/-- Whether a publication is accepted for a batch that is on the dashboard. -/
def comesAgain (env : SqlEnv) (job : Job) (run : Run) (publication : Publication) (s : Session) :
    Bool :=
  match validatePublicationIdentity env.toRuntime job run publication with
  | .error _ => false
  | .ok evidence =>
      (s.store.batches (batchKey job evidence)).any fun batch =>
        batch.stage = .dashboardReady ∧ ¬ immutableMismatch batch (newBatch job run evidence)

theorem redelivered_of_comesAgain {env : SqlEnv} {job : Job} {run : Run}
    {publication : Publication} {s : Session} (h : comesAgain env job run publication s = true) :
    ∃ evidence batch, Redelivered env job run publication s evidence batch := by
  unfold comesAgain at h
  split at h
  · exact nomatch h
  · rename_i evidence hvalid
    obtain ⟨batch, hstored, hcheck⟩ := (Option.any_eq_true _ _).mp h
    obtain ⟨hready, hsame⟩ := of_decide_eq_true hcheck
    exact ⟨evidence, batch, hvalid, hstored, hready, hsame⟩

theorem not_harmless_of_rows {env : SqlEnv} {job : Job} {run : Run} {publication : Publication}
    {s : Session} {rows rows' : Int} (hagain : comesAgain env job run publication s = true)
    (hbefore : (s.store.bindings job.id).map IncrementalBinding.processedRows = some rows)
    (hafter : ((sqlStep env job s (.deliver run publication)).store.bindings job.id).map
      IncrementalBinding.processedRows = some rows') (hne : rows ≠ rows') :
    ¬ Harmless env job s (.deliver run publication) := by
  intro hharmless
  obtain ⟨evidence, batch, hagain⟩ := redelivered_of_comesAgain hagain
  have hsame := congrArg (Option.map fun p : Nat × List NextOffset × Int × Int => p.2.2.1)
    (hharmless evidence batch hagain).2
  rw [Option.map_map, Option.map_map] at hsame
  have hrows : some rows' = some rows := hafter.symm.trans (hsame.trans hbefore)
  exact hne (Option.some.inj hrows).symm

/-- The first half of a commit, and a part of the second half. -/
def halves : List SqlCall :=
  [ordersCommit "run-1" [(0, 0, 20)],
   .deliver ordersRun (ordersPublication 1 "out-1" "101" [(0, 0, 10)]),
   .deliver ordersRun (ordersPublication 2 "out-2" "102" [(0, 10, 15)])]

/-- Each batch is delivered twice before the next one. -/
def repeatedHalves : List SqlCall :=
  [ordersCommit "run-1" [(0, 0, 20)],
   .deliver ordersRun (ordersPublication 1 "out-1" "101" [(0, 0, 10)]),
   .deliver ordersRun (ordersPublication 1 "out-1" "101" [(0, 0, 10)]),
   .deliver ordersRun (ordersPublication 2 "out-2" "102" [(0, 10, 15)]),
   .deliver ordersRun (ordersPublication 2 "out-2" "102" [(0, 10, 15)])]

theorem redelivery_harmless_repeated :
    ((play (sqlStep ordersEnv ordersJob) ordersStart repeatedHalves).store.bindings "job-1").map
        IncrementalBinding.processedRows = some 15 ∧
      Along (Harmless ordersEnv ordersJob) (sqlStep ordersEnv ordersJob) ordersStart
        repeatedHalves ∧
      Always (CountsApplied ordersJob) (sqlStep ordersEnv ordersJob) ordersStart
        repeatedHalves := by
  have hdigests : (sqlTexts repeatedHalves).Pairwise fun a b =>
      ordersEnv.sha256 a = ordersEnv.sha256 b → a = b := by decide +kernel
  have hfree : ordersEnv.toRuntime.CollisionFree { text | text ∈ sqlTexts repeatedHalves } :=
    collisionFree_of_pairwise hdigests
  have hstart : Unapplied ordersEnv { text | text ∈ sqlTexts repeatedHalves } ordersJob
      ordersStart := by
    refine ⟨liveSound_start rfl, rfl, fun binding hbinding => ?_⟩
    cases Option.some.inj hbinding
    rfl
  have hstops : Along (StopsAtFingerprint ordersEnv ordersJob) (sqlStep ordersEnv ordersJob)
      ordersStart repeatedHalves := by decide +kernel
  have hlast := hstops.imp fun _ _ h => h.redeliversLast
  obtain ⟨hiff, hcounts⟩ := redelivery_harmless ordersEnv ordersJob ordersStart repeatedHalves _
    hfree (textsOf_sqlTexts _) hstart
  exact ⟨by decide +kernel, hiff.mpr hlast, hcounts hlast⟩

/-- After both halves the first one comes again: the commit is not consumed, so
that its offsets are found and counted a second time. -/
theorem first_half_counted_twice :
    ((play (sqlStep ordersEnv ordersJob) ordersStart halves).store.batches ⟨"job-1", 1, 1⟩).map
        Batch.stage = some .dashboardReady ∧
      ((play (sqlStep ordersEnv ordersJob) ordersStart halves).store.bindings ordersJob.id).map
        IncrementalBinding.processedRows = some 15 ∧
      ((sqlStep ordersEnv ordersJob (play (sqlStep ordersEnv ordersJob) ordersStart halves)
          (.deliver ordersRun (ordersPublication 1 "out-1" "101" [(0, 0, 10)]))).store.bindings
            ordersJob.id).map IncrementalBinding.processedRows = some 25 ∧
      ¬ Harmless ordersEnv ordersJob (play (sqlStep ordersEnv ordersJob) ordersStart halves)
        (.deliver ordersRun (ordersPublication 1 "out-1" "101" [(0, 0, 10)])) := by
  have hagain : comesAgain ordersEnv ordersJob ordersRun
      (ordersPublication 1 "out-1" "101" [(0, 0, 10)])
      (play (sqlStep ordersEnv ordersJob) ordersStart halves) = true := by decide +kernel
  have hbefore : ((play (sqlStep ordersEnv ordersJob) ordersStart halves).store.bindings
      ordersJob.id).map IncrementalBinding.processedRows = some 15 := by decide +kernel
  have hafter : ((sqlStep ordersEnv ordersJob
      (play (sqlStep ordersEnv ordersJob) ordersStart halves)
      (.deliver ordersRun (ordersPublication 1 "out-1" "101" [(0, 0, 10)]))).store.bindings
        ordersJob.id).map IncrementalBinding.processedRows = some 25 := by decide +kernel
  exact ⟨by decide +kernel, hbefore, hafter,
    not_harmless_of_rows hagain hbefore hafter (by decide)⟩

end AskLake.ContinuousSql

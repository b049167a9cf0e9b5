/-
# `AskLake.Dashboard.StreamOrder` — no Kafka offset in two stream revisions

Three operations write the partition watermarks of a dataset, with different
acceptance rules, and two of them write revisions as well:

    record      a stream revision      raises below the watermark
    progress    no revision            skips below, raises across
    backfill    a backfill revision    raises the watermark to its ranges

`Sound` ties the two tables together: the ranges of the stream revisions lie
below the watermark of their partition and follow one another.  Both replay
paths of a recorded commit return without touching a watermark; there the stored
ranges are the ones asked for, because they were compared, or because a digest
was, and the digests of the run's range lists do not collide.
-/
import AskLake.Dashboard.Record
import AskLake.Lib.Run

namespace AskLake.Dashboard

open AskLake.Lib AskLake.Python AskLake.Kafka AskLake.Events

/-! ## The operations -/

inductive StreamCall
  | record (request : CommitRequest)
  | progress (datasetId : String) (sourceRanges : RangesArgument)
  | backfill (request : CommitRequest)

namespace StreamCall

def datasetId : StreamCall → String
  | record request => request.datasetId
  | progress datasetId _ => datasetId
  | backfill request => request.datasetId

/-- The ranges a call names, once they are normalized. -/
def ranges : StreamCall → Except Error KafkaRanges
  | record request => normalizeKafkaSourceRanges request.sourceRanges true
  | progress _ sourceRanges => normalizeKafkaSourceRanges sourceRanges true
  | backfill request => normalizeKafkaSourceRanges request.sourceRanges false

end StreamCall

def perform (env : Deployment) (db : Db) : StreamCall → Except Error Db
  | .record request =>
      Prod.fst <$> recordDatasetCommit env db db { request with commitKind := .stream }
  | .progress datasetId sourceRanges => Prod.fst <$> recordStreamProgress db datasetId sourceRanges
  | .backfill request => Prod.fst <$> backfillCatalogRevision env db request

/-- One call, and the list of the accepted ones: a rejected call is rolled back. -/
def attempt (env : Deployment) (s : Db × List StreamCall) (call : StreamCall) :
    Db × List StreamCall :=
  match perform env s.1 call with
  | .ok db => (db, s.2 ++ [call])
  | .error _ => s

/-! ## What is kept -/

/-- The stream revisions of a dataset, in the order they were inserted. -/
def streamCommits (db : Db) (datasetId : String) : List RevisionCommit :=
  db.commits.filter fun commit => commit.datasetId = datasetId ∧ commit.commitKind = .stream

/-- The Kafka ranges of a revision on one partition. -/
def rangesAt (commit : RevisionCommit) (key : PartitionKey) : List KafkaRange :=
  match commit.sourceRanges with
  | .kafka ranges => ranges.items.filter fun r => r.key = key
  | .boundary _ => []
  | .ingest _ => []

/-- The ranges of all stream revisions of a dataset on one partition. -/
def streamRanges (db : Db) (datasetId : String) (key : PartitionKey) : List KafkaRange :=
  (streamCommits db datasetId).flatMap fun commit => rangesAt commit key

/-- A watermark at or above `offset`. -/
def Reached (cursors : Cursors) (datasetId : String) (key : PartitionKey) (offset : Int) : Prop :=
  ∃ cursor, cursors (cursorKey datasetId key) = some cursor ∧ offset ≤ cursor.nextOffset

theorem Reached.mono {cursors cursors' : Cursors} {datasetId : String} {key : PartitionKey}
    {offset : Int} (h : Reached cursors datasetId key offset)
    (hmono : ∀ ck cursor, cursors ck = some cursor →
      ∃ cursor', cursors' ck = some cursor' ∧ cursor.nextOffset ≤ cursor'.nextOffset) :
    Reached cursors' datasetId key offset := by
  obtain ⟨cursor, hcursor, hle⟩ := h
  obtain ⟨cursor', hcursor', hle'⟩ := hmono _ cursor hcursor
  exact ⟨cursor', hcursor', hle.trans hle'⟩

/-- A stored revision whose fingerprint is that of its ranges, which are among
the range lists of the run. -/
def Faithful (rt : Runtime) (texts : Set String) (commit : RevisionCommit) : Prop :=
  ∃ ranges, commit.sourceRanges = .kafka ranges ∧
    commit.sourceFingerprint = kafkaSourceFingerprint rt ranges ∧ ranges.canonicalText ∈ texts

structure Sound (rt : Runtime) (texts : Set String) (db : Db) : Prop where
  faithful : ∀ commit ∈ db.commits, Faithful rt texts commit
  counted : ∀ commit ∈ db.commits,
    commit.revision ≤ (db.freshness commit.datasetId).elim 0 Freshness.latestRevision
  growing : db.commits.Pairwise fun a b => a.datasetId = b.datasetId → a.revision < b.revision
  reached : ∀ commit ∈ db.commits, commit.commitKind = .stream →
    ∀ key, ∀ r ∈ rangesAt commit key, Reached db.cursors commit.datasetId key r.endOffset
  ordered : ∀ datasetId key,
    (streamRanges db datasetId key).Pairwise fun a b => a.endOffset ≤ b.startOffset

/-- Watermarks that only went up keep everything. -/
theorem Sound.raise {rt : Runtime} {texts : Set String} {db : Db} {cursors : Cursors}
    (h : Sound rt texts db)
    (hmono : ∀ ck cursor, db.cursors ck = some cursor →
      ∃ cursor', cursors ck = some cursor' ∧ cursor.nextOffset ≤ cursor'.nextOffset) :
    Sound rt texts { db with cursors := cursors } where
  faithful := h.faithful
  counted := h.counted
  growing := h.growing
  reached := fun commit hc hk key r hr => (h.reached commit hc hk key r hr).mono hmono
  ordered := h.ordered

theorem mem_rangesAt {commit : RevisionCommit} {ranges : KafkaRanges} {r : KafkaRange}
    (hranges : commit.sourceRanges = .kafka ranges) (hr : r ∈ ranges.items) :
    r ∈ rangesAt commit r.key := by
  unfold rangesAt
  rw [hranges]
  exact List.mem_filter.mpr ⟨hr, by simp⟩

theorem key_of_mem_rangesAt {commit : RevisionCommit} {key : PartitionKey} {r : KafkaRange}
    (hr : r ∈ rangesAt commit key) : r.key = key := by
  unfold rangesAt at hr
  split at hr
  · simpa using (List.mem_filter.mp hr).2
  · exact nomatch hr
  · exact nomatch hr

/-- A stored stream revision of these ranges has moved the watermarks already. -/
theorem Sound.reaches {rt : Runtime} {texts : Set String} {db : Db} (h : Sound rt texts db)
    {commit : RevisionCommit} {ranges : KafkaRanges} (hmem : commit ∈ db.commits)
    (hkind : commit.commitKind = .stream) (hranges : commit.sourceRanges = .kafka ranges) :
    Moves commit.datasetId ranges db.cursors db.cursors :=
  .refl_of_reached fun r hr => h.reached commit hmem hkind r.key r (mem_rangesAt hranges hr)

/-- The checks before the store is read pass the normalized ranges on. -/
theorem checkRequest_ranges {request : CommitRequest} {ranges : KafkaRanges}
    (h : checkRequest request = .ok ranges) :
    normalizeKafkaSourceRanges request.sourceRanges (CommitKind.fromKafka request.commitKind)
      = .ok ranges := by
  obtain ⟨_, -, h⟩ := bind_eq_ok.mp h
  obtain ⟨ranges', hranges, h⟩ := bind_eq_ok.mp h
  obtain ⟨_, -, h⟩ := bind_eq_ok.mp h
  obtain ⟨_, -, h⟩ := bind_eq_ok.mp h
  cases pure_eq_ok.mp h
  exact hranges

/-! ## A revision that was there before -/

section
variable {env : Deployment} {texts : Set String} {db db' : Db} {request : CommitRequest}
  {ranges : KafkaRanges}

/-- The comparison of a replay finds the stored ranges to be those asked for. -/
theorem checkReplay_ranges {rt : Runtime} {existing : RevisionCommit} {stored : KafkaRanges}
    (hstored : existing.sourceRanges = .kafka stored)
    (h : checkReplay rt existing request ranges = .ok ()) :
    stored = ranges ∧ existing.datasetId = request.datasetId ∧
      existing.commitKind = request.commitKind := by
  obtain ⟨existingRanges, hnormal, h⟩ := bind_eq_ok.mp h
  rw [hstored] at hnormal
  cases hnormal.symm.trans (normalizeKafkaSourceRanges_documents stored)
  have hsame := rejectIf_eq_ok.mp h
  simp only [not_or, not_not] at hsame
  exact ⟨hsame.2.2.2.2.2.2.1, hsame.1, hsame.2.2.2.2.1⟩

/-- The digest of a duplicate's ranges is the digest of those asked for. -/
theorem duplicateSource_ranges {rt : Runtime} {commit : RevisionCommit}
    (hfree : rt.CollisionFree texts) (hsound : Sound rt texts db)
    (htext : ranges.canonicalText ∈ texts)
    (h : duplicateSource rt db request ranges = some commit) :
    commit ∈ db.commits ∧ commit.sourceRanges = .kafka ranges ∧
      commit.datasetId = request.datasetId ∧ commit.commitKind = request.commitKind := by
  obtain ⟨fingerprint, hfingerprint, hfind⟩ := Option.bind_eq_some_iff.mp h
  have hmem : commit ∈ db.commits := List.mem_of_find?_eq_some hfind
  have hkey := List.find?_some hfind
  simp only [decide_eq_true_eq] at hkey
  obtain ⟨hid, hkind, hstored⟩ := hkey
  obtain ⟨stored, hranges, hdigest, hstoredText⟩ := hsound.faithful commit hmem
  rw [hstored] at hdigest
  have hsame : stored = ranges :=
    eq_of_fingerprint hfree hstoredText htext hdigest.symm hfingerprint
  exact ⟨hmem, hsame ▸ hranges, hid, hkind⟩

theorem rangesAt_rewrite {f : RevisionCommit → RevisionCommit} (hf : Rewrites f)
    (commit : RevisionCommit) (key : PartitionKey) : rangesAt (f commit) key = rangesAt commit key := by
  rw [rangesAt, hf.sourceRanges, rangesAt]

theorem streamRanges_rewrite {f : RevisionCommit → RevisionCommit} (hf : Rewrites f)
    (hcommits : db'.commits = db.commits.map f) (datasetId : String) (key : PartitionKey) :
    streamRanges db' datasetId key = streamRanges db datasetId key := by
  have hsame : ((fun commit : RevisionCommit =>
      decide (commit.datasetId = datasetId ∧ commit.commitKind = .stream)) ∘ f) =
      fun commit => decide (commit.datasetId = datasetId ∧ commit.commitKind = .stream) := by
    funext commit
    simp only [Function.comp, hf.datasetId, hf.commitKind]
  unfold streamRanges streamCommits
  rw [hcommits, List.filter_map, hsame, List.flatMap_map]
  simp only [rangesAt_rewrite hf]

/-- Filling in a manifest keeps everything. -/
theorem Sound.patch {existing : RevisionCommit} {commits : List RevisionCommit}
    {manifest : Option String} {stored : KafkaRanges} (hsound : Sound env.toRuntime texts db)
    (hmem : existing ∈ db.commits) (hstored : existing.sourceRanges = .kafka stored)
    (h : updateCommit db.commits existing manifest
      (kafkaSourceFingerprint env.toRuntime stored) = .ok commits) :
    Sound env.toRuntime texts { db with commits := commits } := by
  obtain ⟨-, hcommits⟩ := updateCommit_eq_ok h
  have hf := rewrites_patch
    (fun commit => commit.datasetId = existing.datasetId ∧ commit.revision = existing.revision)
    manifest (kafkaSourceFingerprint env.toRuntime stored)
  generalize hg : (fun commit : RevisionCommit =>
    if decide (commit.datasetId = existing.datasetId ∧ commit.revision = existing.revision) = true
    then patchCommit commit manifest (kafkaSourceFingerprint env.toRuntime stored)
    else commit) = f at hf
  have hmap : commits = db.commits.map f := by rw [hcommits, updateWhere, ← hg]
  constructor
  · intro commit hc
    obtain ⟨old, hold, rfl⟩ := List.mem_map.mp (hmap ▸ hc)
    obtain ⟨ranges, hranges, hdigest, htext⟩ := hsound.faithful old hold
    refine ⟨ranges, (hf.sourceRanges old).trans hranges, ?_, htext⟩
    rw [← hdigest, ← hg]
    by_cases haddressed : old.datasetId = existing.datasetId ∧ old.revision = existing.revision
    · -- the addressed row is the replayed one, whose digest is the one filled in
      have hsame : old = existing :=
        eq_of_ranked hsound.growing hold hmem haddressed.1 haddressed.2
      subst hsame
      rw [hranges] at hstored
      cases hstored
      simp [patchCommit, hdigest]
    · simp only [haddressed, decide_false, Bool.false_eq_true, if_false]
  · intro commit hc
    obtain ⟨old, hold, rfl⟩ := List.mem_map.mp (hmap ▸ hc)
    rw [hf.revision, hf.datasetId]
    exact hsound.counted old hold
  · rw [hmap, List.pairwise_map]
    refine hsound.growing.imp fun {a b} hab => ?_
    rw [hf.datasetId, hf.datasetId, hf.revision, hf.revision]
    exact hab
  · intro commit hc hkind key r hr
    obtain ⟨old, hold, rfl⟩ := List.mem_map.mp (hmap ▸ hc)
    rw [hf.commitKind] at hkind
    rw [rangesAt_rewrite hf] at hr
    rw [hf.datasetId]
    exact hsound.reached old hold hkind key r hr
  · intro datasetId key
    rw [streamRanges_rewrite hf hmap]
    exact hsound.ordered datasetId key

/-- A freshness row that is only locked keeps everything. -/
theorem Sound.ensureFreshness {rt : Runtime} (h : Sound rt texts db) (request : CommitRequest) :
    Sound rt texts (ensureFreshness db request) := by
  obtain ⟨freshness, heq, hself, hother⟩ : ∃ freshness, _ := ensureFreshness_eq db request
  rw [heq]
  refine ⟨h.faithful, fun commit hc => ?_, h.growing, h.reached, h.ordered⟩
  refine (h.counted commit hc).trans (le_of_eq ?_)
  show _ = (freshness commit.datasetId).elim 0 Freshness.latestRevision
  by_cases hid : commit.datasetId = request.datasetId
  · rw [hid, hself, lockedFreshness]
    cases db.freshness request.datasetId <;> rfl
  · rw [hother _ hid]

/-! ## A new revision -/

theorem lockedFreshness_latest :
    (lockedFreshness db request).latestRevision =
      (db.freshness request.datasetId).elim 0 Freshness.latestRevision := by
  rw [lockedFreshness]
  cases db.freshness request.datasetId <;> rfl

theorem Recorded.latest {commit : RevisionCommit}
    (h : Recorded env db request ranges db' commit) (datasetId : String) :
    (db.freshness datasetId).elim 0 Freshness.latestRevision ≤
      (db'.freshness datasetId).elim 0 Freshness.latestRevision := by
  obtain ⟨hself, hother⟩ := h.freshness_eq
  by_cases hid : datasetId = request.datasetId
  · rw [hid, hself, ← lockedFreshness_latest]
    exact Nat.le_succ _
  · rw [hother _ hid]

/-- The ranges of one partition, those of the new revision last. -/
theorem streamRanges_append {commit : RevisionCommit}
    (hcommits : db'.commits = db.commits ++ [commit]) (datasetId : String) (key : PartitionKey) :
    streamRanges db' datasetId key = streamRanges db datasetId key ++
      if commit.datasetId = datasetId ∧ commit.commitKind = .stream then rangesAt commit key
      else [] := by
  unfold streamRanges streamCommits
  rw [hcommits, List.filter_append, List.flatMap_append]
  congr 1
  by_cases h : commit.datasetId = datasetId ∧ commit.commitKind = .stream
  · simp [h]
  · simp [h]

theorem rangesAt_pairwise (commit : RevisionCommit) (key : PartitionKey) :
    (rangesAt commit key).Pairwise fun a b => a.endOffset ≤ b.startOffset := by
  unfold rangesAt
  split
  · rename_i stored _
    refine (stored.disjoint.filter _).imp_of_mem fun {a b} ha hb hbefore => hbefore ?_
    have hkey : a.key = key := by simpa using (List.mem_filter.mp ha).2
    rw [hkey]
    exact (by simpa using (List.mem_filter.mp hb).2 : b.key = key).symm
  · exact .nil
  · exact .nil

theorem datasetId_of_mem_streamCommits {datasetId : String} {commit : RevisionCommit}
    (h : commit ∈ streamCommits db datasetId) : commit.datasetId = datasetId := by
  have hcommit := (List.mem_filter.mp h).2
  simp only [decide_eq_true_eq] at hcommit
  exact hcommit.1

/-- Every range of a stream revision is below the watermark. -/
theorem Sound.reached_of_mem {rt : Runtime} (h : Sound rt texts db) {datasetId : String}
    {key : PartitionKey} {r : KafkaRange} (hr : r ∈ streamRanges db datasetId key) :
    Reached db.cursors datasetId key r.endOffset := by
  obtain ⟨commit, hc, hr⟩ := List.mem_flatMap.mp hr
  obtain ⟨hmem, hcommit⟩ := List.mem_filter.mp hc
  simp only [decide_eq_true_eq] at hcommit
  rw [← hcommit.1]
  exact h.reached commit hmem hcommit.2 key r hr

/-- A new revision keeps everything, when the watermarks only go up and a stream
revision starts at or above them and is reached by them. -/
theorem Sound.insert {commit : RevisionCommit} (h : Sound env.toRuntime texts db)
    (hrec : Recorded env db request ranges db' commit) (htext : ranges.canonicalText ∈ texts)
    (hmono : ∀ ck cursor, db.cursors ck = some cursor →
      ∃ cursor', db'.cursors ck = some cursor' ∧ cursor.nextOffset ≤ cursor'.nextOffset)
    (hfresh : request.commitKind = .stream → ∀ r ∈ ranges.items,
      Reached db'.cursors request.datasetId r.key r.endOffset ∧
        ∀ cursor, db.cursors (cursorKey request.datasetId r.key) = some cursor →
          cursor.nextOffset ≤ r.startOffset) :
    Sound env.toRuntime texts db' := by
  have hcommit := hrec.commit_eq
  have hself : (db'.freshness request.datasetId).elim 0 Freshness.latestRevision =
      (lockedFreshness db request).latestRevision + 1 := by rw [hrec.freshness_eq.1]; rfl
  have hranges : ∀ key, ∀ r ∈ rangesAt commit key, r ∈ ranges.items ∧ r.key = key := by
    intro key r hr
    refine ⟨?_, key_of_mem_rangesAt hr⟩
    rw [hcommit] at hr
    exact (List.mem_filter.mp hr).1
  constructor
  · intro c hc
    rcases List.mem_append.mp (hrec.commits_eq ▸ hc) with hold | hnew
    · exact h.faithful c hold
    · cases List.mem_singleton.mp hnew
      exact ⟨ranges, by rw [hcommit]; rfl, by rw [hcommit]; rfl, htext⟩
  · intro c hc
    rcases List.mem_append.mp (hrec.commits_eq ▸ hc) with hold | hnew
    · exact (h.counted c hold).trans (hrec.latest _)
    · cases List.mem_singleton.mp hnew
      rw [hcommit]
      exact hself.ge
  · rw [hrec.commits_eq, List.pairwise_append]
    refine ⟨h.growing, List.pairwise_singleton .., fun a ha b hb hid => ?_⟩
    cases List.mem_singleton.mp hb
    have hle := h.counted a ha
    have hlatest : (lockedFreshness db request).latestRevision = _ := lockedFreshness_latest
    rw [hid, hcommit] at hle
    rw [hcommit]
    exact Nat.lt_succ_of_le (hlatest ▸ hle)
  · intro c hc hkind key r hr
    rcases List.mem_append.mp (hrec.commits_eq ▸ hc) with hold | hnew
    · exact (h.reached c hold hkind key r hr).mono hmono
    · cases List.mem_singleton.mp hnew
      obtain ⟨hitem, hkey⟩ := hranges key r hr
      rw [hcommit] at hkind ⊢
      exact hkey ▸ (hfresh hkind r hitem).1
  · intro datasetId key
    rw [streamRanges_append hrec.commits_eq]
    split
    · rename_i hnew
      rw [List.pairwise_append]
      refine ⟨h.ordered datasetId key, rangesAt_pairwise commit key, fun a ha r hr => ?_⟩
      obtain ⟨hitem, hkey⟩ := hranges key r hr
      rw [hcommit] at hnew
      obtain ⟨cursor, hcursor, hle⟩ := h.reached_of_mem ha
      have hid : request.datasetId = datasetId := hnew.1
      refine hle.trans ((hfresh hnew.2 r hitem).2 cursor ?_)
      rw [hkey, hid]
      exact hcursor
    · rw [List.append_nil]
      exact h.ordered datasetId key

/-! ## One call -/

/-- What a recorded commit does to the watermarks and the stream revisions. -/
theorem record_sound {commit : RevisionCommit} {created : Bool}
    (hfree : env.toRuntime.CollisionFree texts) (hsound : Sound env.toRuntime texts db)
    (htext : ∀ ranges, checkRequest request = .ok ranges → ranges.canonicalText ∈ texts)
    (h : recordDatasetCommit env db db request = .ok (db', commit, created)) :
    Sound env.toRuntime texts db' ∧
      (request.commitKind ≠ .stream → db'.cursors = db.cursors) ∧
      (request.commitKind = .stream → ∃ ranges, checkRequest request = .ok ranges ∧
        Moves request.datasetId ranges db.cursors db'.cursors) := by
  obtain ⟨ranges, hcheck, hcases⟩ := record_cases h
  have htext := htext ranges hcheck
  rcases hcases with ⟨-, existing, hfind, hreplay, hdb⟩ | ⟨-, hdup, rfl⟩ | ⟨-, hrec⟩
  · -- the run was recorded before: its ranges are the stored ones
    have hmem : existing ∈ db.commits := List.mem_of_find?_eq_some hfind
    obtain ⟨stored, hstored, -, -⟩ := hsound.faithful existing hmem
    obtain ⟨rfl, hid, hkind⟩ := checkReplay_ranges hstored hreplay
    have hreached : request.commitKind = .stream →
        Moves request.datasetId stored db.cursors db.cursors := by
      intro hstream
      exact hid ▸ hsound.reaches hmem (hkind.trans hstream) hstored
    rcases hdb with rfl | ⟨commits, hupdate, rfl⟩
    · exact ⟨hsound, fun _ => rfl, fun hstream => ⟨stored, hcheck, hreached hstream⟩⟩
    · exact ⟨hsound.patch hmem hstored hupdate, fun _ => rfl,
        fun hstream => ⟨stored, hcheck, hreached hstream⟩⟩
  · -- the ranges were recorded before, by another run
    obtain ⟨hmem, hranges, hid, hkind⟩ := duplicateSource_ranges hfree hsound htext hdup
    obtain ⟨freshness, heq, -⟩ : ∃ freshness, _ := ensureFreshness_eq db request
    refine ⟨hsound.ensureFreshness request, fun _ => by rw [heq], fun hstream => ?_⟩
    refine ⟨ranges, hcheck, ?_⟩
    rw [heq]
    exact hid ▸ hsound.reaches hmem (hkind.trans hstream) hranges
  · have hcursors := hrec.cursors
    unfold cursorsAfter at hcursors
    split at hcursors
    · rename_i hstream
      have hmoves := advance_moves hcursors
      refine ⟨hsound.insert hrec htext hmoves.monotone fun _ r hr => ?_,
        fun hne => absurd hstream hne, fun _ => ⟨ranges, hcheck, hmoves⟩⟩
      exact ⟨hmoves.reaches r hr, fun cursor hcursor => advance_fresh hcursors hr hcursor⟩
    · rename_i hother
      have hsame : db'.cursors = db.cursors := (pure_eq_ok.mp hcursors).symm
      refine ⟨hsound.insert hrec htext (fun ck cursor hc => ?_) fun hstream => absurd hstream hother,
        fun _ => hsame, fun hstream => absurd hstream hother⟩
      exact ⟨cursor, hsame ▸ hc, le_refl _⟩

/-- The two last steps of a backfill: the watermarks are raised to its ranges. -/
theorem backfillOnce_eq_ok {commit : RevisionCommit}
    (h : backfillOnce env db db request = .ok (db', commit)) :
    ∃ staged created normalizedRanges,
      recordDatasetCommit env db db { request with commitKind := .backfill }
        = .ok (staged, commit, created) ∧
      normalizeKafkaSourceRanges request.sourceRanges false = .ok normalizedRanges ∧
      db' = { staged with cursors := db'.cursors } ∧
      Moves request.datasetId normalizedRanges staged.cursors db'.cursors := by
  obtain ⟨⟨staged, commit', created⟩, hrecord, h⟩ := bind_eq_ok.mp h
  obtain ⟨normalizedRanges, hranges, h⟩ := bind_eq_ok.mp h
  split at h
  · obtain ⟨cursors, hseed, h⟩ := bind_eq_ok.mp h
    cases pure_eq_ok.mp h
    exact ⟨_, created, normalizedRanges, hrecord, hranges, rfl, seed_moves hseed⟩
  · rename_i hempty
    cases pure_eq_ok.mp h
    refine ⟨_, created, normalizedRanges, hrecord, hranges, rfl, .refl_of_reached ?_⟩
    rw [not_not.mp hempty]
    exact fun r hr => nomatch hr

/-- An accepted call moves the watermarks of the ranges it names. -/
theorem perform_sound {call : StreamCall} (hfree : env.toRuntime.CollisionFree texts)
    (hsound : Sound env.toRuntime texts db)
    (htext : ∀ ranges, call.ranges = .ok ranges → ranges.canonicalText ∈ texts)
    (h : perform env db call = .ok db') :
    Sound env.toRuntime texts db' ∧
      ∃ ranges, call.ranges = .ok ranges ∧ Moves call.datasetId ranges db.cursors db'.cursors := by
  cases call with
  | record request =>
      obtain ⟨⟨commit, created⟩, h⟩ := fst_map_eq_ok h
      have hranges : ∀ ranges, checkRequest { request with commitKind := .stream } = .ok ranges →
          (StreamCall.record request).ranges = .ok ranges :=
        fun ranges hcheck => checkRequest_ranges hcheck
      obtain ⟨hsound', -, hmoves⟩ := record_sound hfree hsound
        (fun ranges hcheck => htext ranges (hranges ranges hcheck)) h
      obtain ⟨ranges, hcheck, hmoves⟩ := hmoves rfl
      exact ⟨hsound', ranges, hranges ranges hcheck, hmoves⟩
  | progress datasetId sourceRanges =>
      obtain ⟨_, h⟩ := fst_map_eq_ok h
      obtain ⟨ranges, hranges, hmoves, hdb⟩ := progress_moves h
      refine ⟨?_, ranges, hranges, hmoves⟩
      rw [hdb]
      exact hsound.raise hmoves.monotone
  | backfill request =>
      obtain ⟨_, h⟩ := fst_map_eq_ok h
      obtain ⟨staged, _, ranges, hrecord, hranges, hdb, hmoves⟩ :=
        backfillOnce_eq_ok (backfillCatalogRevision_eq_ok h)
      have htext' : ∀ ranges, checkRequest { request with commitKind := .backfill } = .ok ranges →
          ranges.canonicalText ∈ texts :=
        fun ranges hcheck => htext ranges (checkRequest_ranges hcheck)
      obtain ⟨hstaged, hsame, -⟩ := record_sound hfree hsound htext' hrecord
      have hcursors : staged.cursors = db.cursors := hsame (fun hkind => nomatch hkind)
      refine ⟨?_, ranges, hranges, hcursors ▸ hmoves⟩
      rw [hdb]
      exact hstaged.raise hmoves.monotone

end

/-! ## Every sequence of calls -/

/-- The range lists that the calls of a run name, as their digests are taken. -/
def rangeTexts (calls : List StreamCall) : List String :=
  calls.filterMap fun call => call.ranges.toOption.map KafkaRanges.canonicalText

theorem mem_rangeTexts {calls : List StreamCall} {call : StreamCall} {ranges : KafkaRanges}
    (hcall : call ∈ calls) (hranges : call.ranges = .ok ranges) :
    ranges.canonicalText ∈ rangeTexts calls :=
  List.mem_filterMap.mpr ⟨call, hcall, by rw [hranges]; rfl⟩

/-- The store of a run, and the watermarks of the calls it accepted. -/
structure Tracked (rt : Runtime) (texts : Set String) (s : Db × List StreamCall) : Prop where
  sound : Sound rt texts s.1
  accepted : ∀ call ∈ s.2, ∃ ranges, call.ranges = .ok ranges ∧
    ∀ r ∈ ranges.items, Reached s.1.cursors call.datasetId r.key r.endOffset

section
variable {env : Deployment} {texts : Set String} {s : Db × List StreamCall}

theorem attempt_tracked {call : StreamCall} (hfree : env.toRuntime.CollisionFree texts)
    (htext : ∀ ranges, call.ranges = .ok ranges → ranges.canonicalText ∈ texts)
    (h : Tracked env.toRuntime texts s) :
    Tracked env.toRuntime texts (attempt env s call) ∧
      ∀ ck cursor, s.1.cursors ck = some cursor → ∃ cursor',
        (attempt env s call).1.cursors ck = some cursor' ∧ cursor.nextOffset ≤ cursor'.nextOffset := by
  unfold attempt
  split
  · rename_i db hperform
    obtain ⟨hsound, ranges, hranges, hmoves⟩ := perform_sound hfree h.sound htext hperform
    refine ⟨⟨hsound, fun call' hcall' => ?_⟩, hmoves.monotone⟩
    rcases List.mem_append.mp hcall' with hold | hnew
    · obtain ⟨ranges', hranges', hreached⟩ := h.accepted call' hold
      exact ⟨ranges', hranges', fun r hr => (hreached r hr).mono hmoves.monotone⟩
    · cases List.mem_singleton.mp hnew
      exact ⟨ranges, hranges, hmoves.reaches⟩
  · exact ⟨h, fun _ cursor hc => ⟨cursor, hc, le_refl _⟩⟩

/-- A run keeps the account, and only ever raises a watermark. -/
theorem play_tracked (hfree : env.toRuntime.CollisionFree texts) {calls : List StreamCall}
    (htexts : ∀ call ∈ calls, ∀ ranges, call.ranges = .ok ranges → ranges.canonicalText ∈ texts)
    (h : Tracked env.toRuntime texts s) :
    Tracked env.toRuntime texts (play (attempt env) s calls) ∧
      ∀ ck cursor, s.1.cursors ck = some cursor → ∃ cursor',
        (play (attempt env) s calls).1.cursors ck = some cursor' ∧
          cursor.nextOffset ≤ cursor'.nextOffset := by
  induction calls generalizing s with
  | nil => exact ⟨h, fun _ cursor hc => ⟨cursor, hc, le_refl _⟩⟩
  | cons call calls ih =>
      obtain ⟨hnext, hraised⟩ := attempt_tracked hfree (htexts call List.mem_cons_self) h
      obtain ⟨hlast, hrest⟩ :=
        ih (fun c hc => htexts c (List.mem_cons_of_mem call hc)) hnext
      refine ⟨hlast, fun ck cursor hc => ?_⟩
      obtain ⟨cursor', hc', hle⟩ := hraised ck cursor hc
      obtain ⟨cursor'', hc'', hle'⟩ := hrest ck cursor' hc'
      exact ⟨cursor'', hc'', hle.trans hle'⟩

end

theorem tracked_start {rt : Runtime} {texts : Set String} {db : Db} (hcommits : db.commits = []) :
    Tracked rt texts (db, []) := by
  have hnone : ∀ commit, commit ∉ db.commits := by simp [hcommits]
  refine ⟨⟨fun c hc => (hnone c hc).elim, fun c hc => (hnone c hc).elim, ?_,
    fun c hc => (hnone c hc).elim, fun datasetId key => ?_⟩, fun _ hcall => nomatch hcall⟩
  · rw [hcommits]
    exact .nil
  · simp [streamRanges, streamCommits, hcommits]

/-- At most one of two revisions counts the offset `o`. -/
def CountedOnce (key : PartitionKey) (o : Int) (a b : RevisionCommit) : Prop :=
  ∀ r ∈ rangesAt a key, ∀ r' ∈ rangesAt b key, ¬ (r.covers o ∧ r'.covers o)

instance (key : PartitionKey) (o : Int) : Std.Symm (CountedOnce key o) where
  symm := fun _ _ h r hr r' hr' hboth => h r' hr' r hr hboth.symm

/-- No offset is counted by two stream revisions of a dataset. -/
theorem Sound.counted_once {rt : Runtime} {texts : Set String} {db : Db} (h : Sound rt texts db)
    {datasetId : String} {a b : RevisionCommit} (ha : a ∈ streamCommits db datasetId)
    (hb : b ∈ streamCommits db datasetId) (hne : a ≠ b) (key : PartitionKey) (o : Int) :
    CountedOnce key o a b := by
  have hpair : (streamCommits db datasetId).Pairwise fun a b =>
      ∀ r ∈ rangesAt a key, ∀ r' ∈ rangesAt b key, r.endOffset ≤ r'.startOffset :=
    (List.pairwise_flatMap.mp (h.ordered datasetId key)).2
  have honce : (streamCommits db datasetId).Pairwise (CountedOnce key o) := by
    refine hpair.imp fun {a b} hab r hr r' hr' hboth => ?_
    have hle : r.endOffset ≤ r'.startOffset := hab r hr r' hr'
    obtain ⟨⟨-, hlt⟩, hge, -⟩ := hboth
    omega
  exact honce.forall ha hb hne

/-- The law of the stream watermarks, over every sequence of the three calls.

On each partition the ranges of a dataset's stream revisions follow one another
in the order of the revisions, so that no offset is counted by two of them; a
stored watermark never goes down; and it lies at or above the end of every range
that an accepted call named.  The digests of the run's range lists are assumed
not to collide, as the duplicate check relies on them. -/
theorem stream_offsets_once (env : Deployment) (db₀ : Db) (hcommits : db₀.commits = [])
    (calls : List StreamCall)
    (hfree : env.toRuntime.CollisionFree { text | text ∈ rangeTexts calls }) :
    (∀ datasetId key, (streamRanges (play (attempt env) (db₀, []) calls).1 datasetId key).Pairwise
        fun a b => a.endOffset ≤ b.startOffset) ∧
    (∀ datasetId, (streamCommits (play (attempt env) (db₀, []) calls).1 datasetId).Pairwise
        fun a b => a.revision < b.revision) ∧
    (∀ datasetId, ∀ a ∈ streamCommits (play (attempt env) (db₀, []) calls).1 datasetId,
      ∀ b ∈ streamCommits (play (attempt env) (db₀, []) calls).1 datasetId,
        a ≠ b → ∀ key o, CountedOnce key o a b) ∧
    (∀ before after, calls = before ++ after → ∀ ck cursor,
      (play (attempt env) (db₀, []) before).1.cursors ck = some cursor →
        ∃ cursor', (play (attempt env) (db₀, []) calls).1.cursors ck = some cursor' ∧
          cursor.nextOffset ≤ cursor'.nextOffset) ∧
    ∀ call ∈ (play (attempt env) (db₀, []) calls).2, ∃ ranges, call.ranges = .ok ranges ∧
      ∀ r ∈ ranges.items, Reached (play (attempt env) (db₀, []) calls).1.cursors
        call.datasetId r.key r.endOffset := by
  have htexts : ∀ call ∈ calls, ∀ ranges, call.ranges = .ok ranges →
      ranges.canonicalText ∈ { text | text ∈ rangeTexts calls } :=
    fun _ hcall _ hranges => mem_rangeTexts hcall hranges
  obtain ⟨⟨hsound, haccepted⟩, -⟩ := play_tracked hfree htexts (tracked_start hcommits)
  refine ⟨hsound.ordered, fun datasetId => ?_, fun _ a ha b hb => hsound.counted_once ha hb,
    fun before after hcalls => ?_, haccepted⟩
  · refine (hsound.growing.filter _).imp_of_mem fun {a b} ha hb hlt => hlt ?_
    exact (datasetId_of_mem_streamCommits ha).trans (datasetId_of_mem_streamCommits hb).symm
  · subst hcalls
    obtain ⟨hbefore, -⟩ := play_tracked hfree
      (fun call hcall => htexts call (List.mem_append_left after hcall)) (tracked_start hcommits)
    rw [play_append]
    exact (play_tracked hfree
      (fun call hcall => htexts call (List.mem_append_right before hcall)) hbefore).2

/-! ## Two calls on one partition -/

def cursorEnv : Deployment where
  sha256 := fun text =>
    if text = "[\x7b\"endOffset\":10,\"partition\":0,\"startOffset\":0,\"topic\":\"orders\"\x7d]" then
      "6228e53fdc075ee6861fea0cbdd6493e9e6f64e0c6830b7681b640e28802e87d"
    else "38420951c97801482c74a785531508dfa9c9a632c04f2f54c2389eaa66d46e3f"
  lower := fun text => String.ofList (text.toList.map Char.toLower)
  casefold := fun text => String.ofList (text.toList.map Char.toLower)

/-- A stream revision of the offsets 0 to 9, then progress over 10 to 19. -/
def ordersCalls : List StreamCall :=
  [.record
    { datasetId := "orders", runId := "run-1", storageLocation := "s3://lake/orders",
      storageFormat := "iceberg", materializationMode := "delta", rowCount := 10,
      nextCheckAfterMs := 0, manifestLocation := some "s3://lake/orders/manifest-1",
      sourceRanges := .list [.object ⟨"orders", some 0, some 0, some 10⟩] },
   .progress "orders" (.list [.object ⟨"orders", some 0, some 10, some 20⟩])]

theorem stream_offsets_once_orders :
    (play (attempt cursorEnv) (({} : Db), []) ordersCalls).2.length = 2 ∧
      ∀ call ∈ (play (attempt cursorEnv) (({} : Db), []) ordersCalls).2, ∃ ranges,
        call.ranges = .ok ranges ∧ ∀ r ∈ ranges.items,
          Reached (play (attempt cursorEnv) (({} : Db), []) ordersCalls).1.cursors
            call.datasetId r.key r.endOffset := by
  have htexts : rangeTexts ordersCalls =
      ["[\x7b\"endOffset\":10,\"partition\":0,\"startOffset\":0,\"topic\":\"orders\"\x7d]",
       "[\x7b\"endOffset\":20,\"partition\":0,\"startOffset\":10,\"topic\":\"orders\"\x7d]"] := by
    decide +kernel
  have hfree : cursorEnv.toRuntime.CollisionFree { text | text ∈ rangeTexts ordersCalls } := by
    rw [htexts]
    intro a ha b hb heq
    simp only [Set.mem_ofPred_eq, List.mem_cons, List.not_mem_nil, or_false] at ha hb
    rcases ha with rfl | rfl <;> rcases hb with rfl | rfl <;>
      first | rfl | exact absurd heq (by decide)
  exact ⟨by decide +kernel,
    (stream_offsets_once cursorEnv {} rfl ordersCalls hfree).2.2.2.2⟩

end AskLake.Dashboard

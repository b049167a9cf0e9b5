/-
# `AskLake.Dashboard.StreamGrowth` — what a reader of the revisions can rely on

A reader that remembers a revision and later asks for the commits after it reads
a table that has grown meanwhile.  `Grown` is what one accepted call does to the
table, for such a reader: the rows it has seen keep what they say, up to a
manifest that is filled in, and new rows have revisions above all of their
dataset.  `SourceLog` is what it finds in the stream revisions of one dataset.
-/
import AskLake.Dashboard.StreamOrder

namespace AskLake.Dashboard

open AskLake.Lib AskLake.Python AskLake.Kafka AskLake.Events

/-- The latest revision of a dataset, 0 before the first one. -/
def latestRevision (db : Db) (datasetId : String) : Nat :=
  (db.freshness datasetId).elim 0 Freshness.latestRevision

/-- The ranges of a stream revision are there. -/
def Streams (commit : RevisionCommit) : Prop :=
  commit.commitKind = .stream → ∃ ranges, commit.sourceRanges = .kafka ranges ∧ ranges.items ≠ []

structure Grown (db db' : Db) (f : RevisionCommit → RevisionCommit) (new : List RevisionCommit) :
    Prop where
  rewrites : Rewrites f
  commits_eq : db'.commits = db.commits.map f ++ new
  above : ∀ commit ∈ new, latestRevision db commit.datasetId < commit.revision
  streams : ∀ commit ∈ new, Streams commit
  latest_le : ∀ datasetId, latestRevision db datasetId ≤ latestRevision db' datasetId

section
variable {env : Deployment} {db db' : Db} {request : CommitRequest}

theorem Grown.of_same (hcommits : db'.commits = db.commits)
    (hlatest : ∀ datasetId, latestRevision db datasetId ≤ latestRevision db' datasetId) :
    Grown db db' (fun commit => commit) [] where
  rewrites := .id
  commits_eq := by rw [hcommits, List.map_id', List.append_nil]
  above := fun _ h => nomatch h
  streams := fun _ h => nomatch h
  latest_le := hlatest

theorem latestRevision_ensureFreshness (request : CommitRequest) (datasetId : String) :
    latestRevision db datasetId = latestRevision (ensureFreshness db request) datasetId := by
  obtain ⟨freshness, heq, hself, hother⟩ : ∃ freshness, _ := ensureFreshness_eq db request
  rw [heq]
  show _ = (freshness datasetId).elim 0 Freshness.latestRevision
  by_cases hid : datasetId = request.datasetId
  · rw [hid, hself, Option.elim_some, lockedFreshness_latest, latestRevision]
  · rw [hother _ hid, latestRevision]

theorem record_grown {commit : RevisionCommit} {created : Bool}
    (h : recordDatasetCommit env db db request = .ok (db', commit, created)) :
    ∃ f new, Grown db db' f new := by
  obtain ⟨ranges, hcheck, hcases⟩ := record_cases h
  rcases hcases with ⟨-, existing, -, -, hdb⟩ | ⟨-, -, rfl⟩ | ⟨-, hrec⟩
  · rcases hdb with rfl | ⟨commits, hupdate, rfl⟩
    · exact ⟨_, _, .of_same rfl fun _ => le_refl _⟩
    · obtain ⟨-, hcommits⟩ := updateCommit_eq_ok hupdate
      refine ⟨_, [], rewrites_patch (fun commit => commit.datasetId = existing.datasetId ∧
        commit.revision = existing.revision) (stripped request.manifestLocation)
        (kafkaSourceFingerprint env.toRuntime ranges), ?_, fun _ h => (nomatch h),
        fun _ h => (nomatch h), fun _ => le_refl _⟩
      rw [List.append_nil]
      exact hcommits
  · refine ⟨_, _, .of_same ensureFreshness_commits fun datasetId => ?_⟩
    exact (latestRevision_ensureFreshness request datasetId).le
  · refine ⟨_, [commit], .id, ?_, fun c hc => ?_, fun c hc hkind => ?_, hrec.latest⟩
    · rw [hrec.commits_eq, List.map_id']
    · rw [List.mem_singleton.mp hc, hrec.commit_eq]
      show latestRevision db request.datasetId < _
      rw [latestRevision, ← lockedFreshness_latest]
      exact Nat.lt_succ_self _
    · rw [List.mem_singleton.mp hc, hrec.commit_eq] at hkind ⊢
      refine ⟨ranges, rfl, ?_⟩
      have hnormal := checkRequest_ranges hcheck
      have hstream : request.commitKind = .stream := hkind
      rw [hstream] at hnormal
      exact normalizeKafkaSourceRanges_nonempty hnormal

theorem perform_grown {call : StreamCall} (h : perform env db call = .ok db') :
    ∃ f new, Grown db db' f new := by
  cases call with
  | record request =>
      obtain ⟨⟨commit, created⟩, h⟩ := fst_map_eq_ok h
      exact record_grown h
  | progress datasetId sourceRanges =>
      obtain ⟨_, h⟩ := fst_map_eq_ok h
      obtain ⟨_, -, -, hdb⟩ := progress_moves h
      rw [hdb]
      exact ⟨_, _, .of_same rfl fun _ => le_refl _⟩
  | backfill request =>
      obtain ⟨_, h⟩ := fst_map_eq_ok h
      obtain ⟨staged, _, _, hrecord, -, hdb, -⟩ :=
        backfillOnce_eq_ok (backfillCatalogRevision_eq_ok h)
      obtain ⟨f, new, hgrown⟩ := record_grown hrecord
      rw [hdb]
      exact ⟨f, new, hgrown.rewrites, hgrown.commits_eq, hgrown.above, hgrown.streams,
        hgrown.latest_le⟩

end

/-! ## The stream revisions of one dataset -/

/-- The stream revisions of a dataset, for a reader: in order, with ranges that do
not overlap, none above the latest revision. -/
structure SourceLog (db : Db) (datasetId : String) : Prop where
  growing : (streamCommits db datasetId).Pairwise fun a b => a.revision < b.revision
  streams : ∀ commit ∈ streamCommits db datasetId, Streams commit
  ordered : ∀ key, (streamRanges db datasetId key).Pairwise fun a b => a.endOffset ≤ b.startOffset
  counted : ∀ commit ∈ streamCommits db datasetId, commit.revision ≤ latestRevision db datasetId

section
variable {db db' : Db} {datasetId : String}

theorem mem_streamCommits {commit : RevisionCommit} :
    commit ∈ streamCommits db datasetId ↔
      commit ∈ db.commits ∧ commit.datasetId = datasetId ∧ commit.commitKind = .stream := by
  rw [streamCommits, List.mem_filter, decide_eq_true_eq]

/-- The stream revisions a reader has seen are there again, and new ones above. -/
theorem Grown.streamCommits_eq {f : RevisionCommit → RevisionCommit} {new : List RevisionCommit}
    (h : Grown db db' f new) (datasetId : String) : streamCommits db' datasetId =
      (streamCommits db datasetId).map f ++ streamCommits { db with commits := new } datasetId := by
  unfold streamCommits
  rw [h.commits_eq, List.filter_append, List.filter_map]
  congr 2
  refine List.filter_congr fun commit _ => ?_
  rw [Function.comp_apply, h.rewrites.datasetId, h.rewrites.commitKind]

theorem Sound.sourceLog {rt : Runtime} {texts : Set String} (h : Sound rt texts db)
    (hstreams : ∀ commit ∈ db.commits, Streams commit) : SourceLog db datasetId where
  growing := by
    refine (h.growing.filter _).imp_of_mem fun {a b} ha hb hlt => hlt ?_
    exact (datasetId_of_mem_streamCommits ha).trans (datasetId_of_mem_streamCommits hb).symm
  streams := fun commit hc => hstreams commit (mem_streamCommits.mp hc).1
  ordered := h.ordered datasetId
  counted := by
    intro commit hc
    obtain ⟨hmem, hid, -⟩ := mem_streamCommits.mp hc
    rw [← hid]
    exact h.counted commit hmem

theorem Streams.rewrite {f : RevisionCommit → RevisionCommit} (hf : Rewrites f)
    {commit : RevisionCommit} (h : Streams commit) : Streams (f commit) := by
  intro hkind
  rw [hf.commitKind] at hkind
  obtain ⟨ranges, hranges, hne⟩ := h hkind
  exact ⟨ranges, (hf.sourceRanges commit).trans hranges, hne⟩

/-- Stream revisions keep their ranges. -/
theorem Grown.all_streams {f : RevisionCommit → RevisionCommit} {new : List RevisionCommit}
    (h : Grown db db' f new) (hstreams : ∀ commit ∈ db.commits, Streams commit) :
    ∀ commit ∈ db'.commits, Streams commit := by
  intro commit hc
  rw [h.commits_eq] at hc
  rcases List.mem_append.mp hc with hseen | hnew
  · obtain ⟨old, hold, rfl⟩ := List.mem_map.mp hseen
    exact (hstreams old hold).rewrite h.rewrites
  · exact h.streams commit hnew

end

end AskLake.Dashboard

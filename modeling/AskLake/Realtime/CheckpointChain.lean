/-
# `AskLake.Realtime.CheckpointChain` — every source offset is published once

The publications of one pipeline version advance its partition checkpoints by
compare-and-set.  Over any run of the store, whoever else writes to it,

    last_applied (start) = a₁ < b₁ = a₂ < b₂ = … < bₙ = last_applied (now)

on every partition, where `(aᵢ, bᵢ]` are the intervals of the publications in
the order of their commits.  The invariant is this chain itself, and it is kept
because an accepted publication leads from the old checkpoint to the new one
(`advanceCheckpoints_linked`) and nobody else moves it.
-/
import AskLake.Realtime.Transactions

namespace AskLake.Realtime

open AskLake.Lib AskLake.Python AskLake.Kafka AskLake.Events AskLake.Dashboard

/-- The intervals published on the partition of a checkpoint row. -/
def publishedAt (key : CheckpointKey) (log : List (Request × Receipt)) : List (Int × Int) :=
  (newPublications log).flatMap fun entry =>
    entry.1.boundary.intervalsAt entry.1.pipelineVersionId key

theorem publishedAt_append (key : CheckpointKey) (log : List (Request × Receipt))
    (entry : Request × Receipt) :
    publishedAt key (log ++ [entry]) = publishedAt key log ++
      (newPublication entry).toList.flatMap fun e =>
        e.1.boundary.intervalsAt e.1.pipelineVersionId key := by
  unfold publishedAt
  rw [newPublications_append, List.flatMap_append]

/-! ## One transaction -/

/-- What a committed transaction does to the checkpoints: a new publication links
its own intervals on, every other transaction leaves them alone. -/
theorem exec_linked {env : Deployment} {snapshot db db' : Db} {request : Request}
    {receipt : Receipt} (h : exec env snapshot db request = .ok (db', receipt))
    (key : CheckpointKey) :
    Linked (lastApplied db.checkpoints key)
      ((newPublication (request, receipt)).toList.flatMap fun e =>
        e.1.boundary.intervalsAt e.1.pipelineVersionId key)
      (lastApplied db'.checkpoints key) := by
  have hout := exec_outcome h
  cases hout with
  | publishedBefore hold =>
      simp only [newPublication, hold]
      rfl
  | published hnew =>
      have hchain := advanceCheckpoints_linked hnew.checkpoints key
      simp only [newPublication, hnew.created]
      simpa using hchain
  | switchedBefore _ => rfl
  | switched hnew =>
      rw [hnew.elsewhere.2.1]
      rfl
  | recordedBefore => rfl
  | patched _ => rfl
  | @duplicate request _ =>
      obtain ⟨freshness, heq, -⟩ := ensureFreshness_eq db request
      rw [heq]
      rfl
  | recorded hnew =>
      rw [hnew.elsewhere.2.1]
      rfl

/-! ## Revisions of the publications -/

/-- The stored row of a publication. -/
def IsPublicationRow (entry : RealtimePublication × PublicationResult) (row : RevisionCommit) :
    Prop :=
  row.datasetId = entry.1.datasetId ∧ row.revision = entry.2.revision ∧
    row.commitKind = .realtime ∧ row.materializationId = some entry.1.materializationId ∧
    row.sourceBoundary = some entry.1.boundary

theorem IsPublicationRow.rewrite {entry : RealtimePublication × PublicationResult}
    {row : RevisionCommit} {f : RevisionCommit → RevisionCommit} (hf : Rewrites f)
    (h : IsPublicationRow entry row) : IsPublicationRow entry (f row) := by
  unfold IsPublicationRow
  rw [hf.datasetId, hf.revision, hf.commitKind, hf.materializationId, hf.sourceBoundary]
  exact h

/-- The publications of a log, against the store: each has its row, none is ahead
of the dataset's latest revision, and those of one dataset come in the order of
their revisions. -/
structure Accounted (db : Db) (log : List (Request × Receipt)) : Prop where
  stored : ∀ entry ∈ newPublications log, ∃ row ∈ db.commits, IsPublicationRow entry row
  counted : ∀ entry ∈ newPublications log, entry.2.revision ≤ latest db entry.1.datasetId
  ordered : (newPublications log).Pairwise fun a b =>
    a.1.datasetId = b.1.datasetId → a.2.revision < b.2.revision

/-- The row a new publication inserts. -/
theorem exec_publication_row {env : Deployment} {snapshot db db' : Db} {request : Request}
    {receipt : Receipt} (h : exec env snapshot db request = .ok (db', receipt))
    {publication : RealtimePublication × PublicationResult}
    (hpub : newPublication (request, receipt) = some publication) :
    Extends db db' (publicationCommit publication.1 publication.2.revision) := by
  have hout := exec_outcome h
  cases hout with
  | publishedBefore hold => simp [newPublication, hold] at hpub
  | published hnew =>
      simp only [newPublication, hnew.created, if_true, Option.some.injEq] at hpub
      subst hpub
      exact hnew.extends
  | switchedBefore _ => exact nomatch hpub
  | switched _ => exact nomatch hpub
  | recordedBefore => exact nomatch hpub
  | patched _ => exact nomatch hpub
  | duplicate => exact nomatch hpub
  | recorded _ => exact nomatch hpub

/-- A log entry that is no publication keeps the account. -/
theorem Accounted.step {db db' : Db} {log : List (Request × Receipt)} (h : Accounted db log)
    (hlatest : ∀ datasetId, latest db datasetId ≤ latest db' datasetId)
    (hrows : ∃ f, Rewrites f ∧ ∀ row ∈ db.commits, f row ∈ db'.commits) : Accounted db' log where
  stored := by
    intro entry hentry
    obtain ⟨f, hf, hmem⟩ := hrows
    obtain ⟨row, hrow, his⟩ := h.stored entry hentry
    exact ⟨f row, hmem row hrow, his.rewrite hf⟩
  counted := fun entry hentry => (h.counted entry hentry).trans (hlatest _)
  ordered := h.ordered

theorem Untouched.accounted {db db' : Db} {log : List (Request × Receipt)} (h : Untouched db db')
    (hacc : Accounted db log) : Accounted db' log := by
  obtain ⟨f, hf, hcommits⟩ := h.commits
  refine hacc.step (fun id => (h.latest_eq id).ge) ⟨f, hf, fun row hrow => ?_⟩
  rw [hcommits]
  exact List.mem_map_of_mem hrow

theorem Extends.accounted {db db' : Db} {commit : RevisionCommit} {log : List (Request × Receipt)}
    (h : Extends db db' commit) (hacc : Accounted db log) : Accounted db' log := by
  refine hacc.step h.latest_le ⟨_, .id, fun row hrow => ?_⟩
  rw [h.commits]
  exact List.mem_append_left _ hrow

theorem exec_accounted {env : Deployment} {snapshot db db' : Db} {request : Request}
    {receipt : Receipt} {log : List (Request × Receipt)} (hacc : Accounted db log)
    (h : exec env snapshot db request = .ok (db', receipt)) :
    Accounted db' (log ++ [(request, receipt)]) := by
  cases hpub : newPublication (request, receipt) with
  | none =>
      have hlog : newPublications (log ++ [(request, receipt)]) = newPublications log := by
        rw [newPublications_append, hpub]
        exact List.append_nil _
      have hkept : Accounted db' log := by
        rcases exec_revisions h with ⟨-, hun⟩ | ⟨commit, -, hext⟩
        · exact hun.accounted hacc
        · exact hext.accounted hacc
      exact ⟨hlog ▸ hkept.stored, hlog ▸ hkept.counted, hlog ▸ hkept.ordered⟩
  | some publication =>
      have hext := exec_publication_row h hpub
      have hkept : Accounted db' log := hext.accounted hacc
      have hrow : IsPublicationRow publication
          (publicationCommit publication.1 publication.2.revision) :=
        ⟨rfl, rfl, rfl, rfl, rfl⟩
      have hlog : newPublications (log ++ [(request, receipt)]) =
          newPublications log ++ [publication] := by
        rw [newPublications_append, hpub]
        rfl
      constructor
      · intro entry hentry
        rw [hlog] at hentry
        rcases List.mem_append.mp hentry with hold | hnew
        · exact hkept.stored entry hold
        · cases List.mem_singleton.mp hnew
          exact ⟨_, by rw [hext.commits]; simp, hrow⟩
      · intro entry hentry
        rw [hlog] at hentry
        rcases List.mem_append.mp hentry with hold | hnew
        · exact hkept.counted entry hold
        · cases List.mem_singleton.mp hnew
          exact hext.latest_self.ge
      · rw [hlog, List.pairwise_append]
        refine ⟨hkept.ordered, List.pairwise_singleton _ _, ?_⟩
        intro a ha b hb hsame
        cases List.mem_singleton.mp hb
        -- the new revision is the one after everything counted so far
        have hle := hacc.counted a ha
        have hnext := hext.revision
        simp only [publicationCommit] at hnext
        rw [hsame] at hle
        omega

/-! ## Runs -/

/-- The chain from the checkpoints of the start, and the account of the log. -/
def ChainFrom (db₀ db : Db) (log : List (Request × Receipt)) : Prop :=
  (∀ key, Linked (lastApplied db₀.checkpoints key) (publishedAt key log)
    (lastApplied db.checkpoints key)) ∧ Accounted db log

theorem chainFrom_keeps (env : Deployment) (db₀ : Db) : Keeps (store env) (ChainFrom db₀) where
  exec := by
    intro snapshot db db' request receipt log hI hexec
    refine ⟨fun key => ?_, exec_accounted hI.2 hexec⟩
    rw [publishedAt_append]
    exact (hI.1 key).append (exec_linked hexec key)
  env := by
    intro db db' log hI henv
    refine ⟨fun key => ?_, henv.untouched.accounted hI.2⟩
    rw [henv.lastApplied key]
    exact hI.1 key

theorem chainFrom_start (db : Db) : ChainFrom db db [] :=
  ⟨fun _ => rfl, ⟨fun _ h => (nomatch h), fun _ h => (nomatch h), .nil⟩⟩

/-- A publication with a stale partition writes nothing. -/
theorem publish_stale {env : Deployment} {snapshot db : Db} {p : RealtimePublication}
    (hstale : StaleAt p.pipelineVersionId p.leaseGeneration db.checkpoints p.boundary.partitions) :
    settled db (exec env snapshot db (.publish p)) = db := by
  rcases h : exec env snapshot db (.publish p) with e | ⟨db', receipt⟩
  · rfl
  · have hout := exec_outcome h
    cases hout with
    | publishedBefore _ => rfl
    | published hnew => exact absurd hnew.checkpoints (advanceAll_stale hstale)

/-- The exactly-once law of a pipeline version's checkpoints, over every run.

On each partition the published intervals follow one another in the order of
their commits, which for one dataset is the order of their revisions; an offset
between the start's `last_applied_offset` and the current one lies in exactly
one of them, and any other offset in none.  A publication that meets a stale
partition leaves the store as it is. -/
theorem checkpoints_chain (env : Deployment) (db₀ : Db) {c : Config Db Request Receipt}
    (h : Steps (store env) (Config.start db₀) c) :
    (∀ key, (publishedAt key c.log).IsChain (fun i j => j.1 = i.2) ∧
      Linked (lastApplied db₀.checkpoints key) (publishedAt key c.log)
        (lastApplied c.db.checkpoints key) ∧
      ∀ o, (publishedAt key c.log).countP (covers o) =
        if lastApplied db₀.checkpoints key < o ∧ o ≤ lastApplied c.db.checkpoints key then 1
        else 0) ∧
    (∀ entry ∈ newPublications c.log, ∃ row ∈ c.db.commits, IsPublicationRow entry row) ∧
    ((newPublications c.log).Pairwise fun a b =>
      a.1.datasetId = b.1.datasetId → a.2.revision < b.2.revision) ∧
    ∀ snapshot p,
      StaleAt p.pipelineVersionId p.leaseGeneration c.db.checkpoints p.boundary.partitions →
        settled c.db (exec env snapshot c.db (.publish p)) = c.db := by
  obtain ⟨hchain, hacc⟩ := Steps.induct (chainFrom_keeps env db₀) (chainFrom_start db₀) h
  exact ⟨fun key => ⟨(hchain key).isChain, hchain key, (hchain key).count_covers⟩, hacc.stored,
    hacc.ordered, fun snapshot p hstale => publish_stale hstale⟩

/-- One publication of the offsets 0 to 9: each of them is published once. -/
theorem checkpoints_chain_orders :
    lastApplied (served (store ordersEnv) ordersDb [.publish ordersPublication]).db.checkpoints
        ⟨"pv1", "orders", 0⟩ = 9 ∧
      ∀ o, (publishedAt ⟨"pv1", "orders", 0⟩
        (served (store ordersEnv) ordersDb [.publish ordersPublication]).log).countP (covers o) =
          if -1 < o ∧ o ≤ 9 then 1 else 0 := by
  have hnow : lastApplied (served (store ordersEnv) ordersDb
      [.publish ordersPublication]).db.checkpoints ⟨"pv1", "orders", 0⟩ = 9 := by decide +kernel
  have hstart : lastApplied ordersDb.checkpoints ⟨"pv1", "orders", 0⟩ = -1 := by decide +kernel
  refine ⟨hnow, fun o => ?_⟩
  have hcount := ((checkpoints_chain ordersEnv ordersDb (served_steps (store ordersEnv) ordersDb
    [.publish ordersPublication])).1 ⟨"pv1", "orders", 0⟩).2.2 o
  rw [hnow, hstart] at hcount
  exact hcount

end AskLake.Realtime

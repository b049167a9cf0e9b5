/-
# `AskLake.Realtime.Revisions` — the revision numbers of a dataset

Three writers allocate revision numbers, each with an idempotency check of its
own.  What they share is the freshness row: a writer that creates a revision
takes the number after `latest_revision`, inserts the commit, and writes the
number back, in one transaction.

    created     one commit more, the next number, the run that made it
    replayed    no commit more; a manifest may be filled in
    raised      nothing

`Numbered` is the invariant.  It counts the events of a revision as well: a
publication and a switch append theirs in the transaction that creates the
revision, and no other transaction appends one with that number.
-/
import AskLake.Realtime.Transactions

namespace AskLake.Realtime

open AskLake.Lib AskLake.Python AskLake.Kafka AskLake.Events AskLake.Dashboard

/-- The commits of a dataset, in the order they were inserted. -/
def datasetCommits (db : Db) (datasetId : String) : List RevisionCommit :=
  db.commits.filter fun commit => commit.datasetId = datasetId

/-- The events of a dataset that carry a revision number. -/
def revisionEvents (db : Db) (datasetId : String) (revision : Nat) : List Event :=
  db.events.filter fun e => e.resourceType = "dataset" ∧ e.resourceId = datasetId ∧
    e.aggregateRevision = revision

/-- The dataset and revision that a publication or a switch created. -/
def announcedRevision : Request × Receipt → Option (String × Nat)
  | (.record _, _) => none
  | entry => createdRevision entry

theorem created_of_announced {entry : Request × Receipt} {created : String × Nat}
    (h : announcedRevision entry = some created) : createdRevision entry = some created := by
  match entry with
  | (.publish _, _) => exact h
  | (.switch _, _) => exact h
  | (.record _, _) => exact nomatch h

theorem createdRevision_publish {p : RealtimePublication} {result : PublicationResult}
    (h : result.created = true) :
    createdRevision (.publish p, .published result) = some (p.datasetId, result.revision) := by
  simp [createdRevision, h]

theorem createdRevision_switch {request : BindingSwitchRequest} {result : BindingSwitchResult}
    (h : result.created = true) :
    createdRevision (.switch request, .switched result)
      = some (request.datasetId, result.revision) := by
  simp [createdRevision, h]

/-! ## The events of one transaction -/

/-- At most one event more, of this dataset and revision. -/
def Announces (db db' : Db) (datasetId : String) (revision : Nat) : Prop :=
  ∃ e : Event, db'.events = db.events ++ [e] ∧ e.resourceType = "dataset" ∧
    e.resourceId = datasetId ∧ e.aggregateRevision = revision

section
variable {env : Deployment} {snapshot db db' : Db} {request : Request} {receipt : Receipt}

theorem ensureFreshness_events (db : Db) (request : CommitRequest) :
    (ensureFreshness db request).events = db.events := by
  obtain ⟨freshness, heq, -⟩ : ∃ freshness, _ := ensureFreshness_eq db request
  rw [heq]

/-- A committed transaction appends the event of the revision it created, or no
event; a publication and a switch always append it. -/
theorem exec_events (h : exec env snapshot db request = .ok (db', receipt)) :
    (announcedRevision (request, receipt) = none ∧ db'.events = db.events) ∨
      ∃ datasetId revision, createdRevision (request, receipt) = some (datasetId, revision) ∧
        Announces db db' datasetId revision := by
  have hout := exec_outcome h
  cases hout with
  | publishedBefore hold => exact Or.inl ⟨by simp [announcedRevision, createdRevision, hold], rfl⟩
  | published hnew =>
      refine Or.inr ⟨_, _, createdRevision_publish hnew.created, _, hnew.events_eq, rfl, rfl, ?_⟩
      rw [hnew.result_eq]
      rfl
  | switchedBefore hold => exact Or.inl ⟨by simp [announcedRevision, createdRevision, hold], rfl⟩
  | switched hnew =>
      refine Or.inr ⟨_, _, createdRevision_switch hnew.created, _, hnew.events_eq, rfl, rfl, ?_⟩
      rw [hnew.result_eq]
      rfl
  | recordedBefore => exact Or.inl ⟨rfl, rfl⟩
  | patched _ => exact Or.inl ⟨rfl, rfl⟩
  | duplicate => exact Or.inl ⟨rfl, ensureFreshness_events _ _⟩
  | recorded hnew =>
      rcases hnew.events_eq with ⟨hsame, -⟩ | ⟨hmore, -⟩
      · exact Or.inl ⟨rfl, hsame⟩
      · refine Or.inr ⟨_, _, rfl, _, hmore, rfl, ?_, ?_⟩
        · rw [hnew.commit_eq]
          rfl
        · rw [hnew.commit_eq]
          rfl

/-! ## What an event more and a commit more do to the two lists -/

theorem revisionEvents_announced {datasetId : String} {revision : Nat}
    (h : Announces db db' datasetId revision) (id : String) (n : Nat) :
    (revisionEvents db' id n).length = (revisionEvents db id n).length +
      if datasetId = id ∧ revision = n then 1 else 0 := by
  obtain ⟨e, hevents, htype, hid, hrevision⟩ := h
  unfold revisionEvents
  rw [hevents, List.filter_append, List.length_append]
  congr 1
  by_cases hsame : datasetId = id ∧ revision = n
  · obtain ⟨rfl, rfl⟩ := hsame
    simp [htype, hid, hrevision]
  · rw [if_neg hsame]
    simp only [not_and] at hsame
    simp only [List.length_eq_zero_iff, List.filter_eq_nil_iff, List.mem_singleton, forall_eq,
      decide_eq_true_eq, not_and]
    intro _ hid' hrevision'
    exact hsame (hid.symm.trans hid') (Int.ofNat.inj (hrevision.symm.trans hrevision'))

theorem revisionEvents_of_other {more : List Event} (hevents : db'.events = db.events ++ more)
    (hother : ∀ e ∈ more, e.resourceType ≠ "dataset") (id : String) (n : Nat) :
    revisionEvents db' id n = revisionEvents db id n := by
  have hempty : more.filter (fun e => decide (e.resourceType = "dataset" ∧ e.resourceId = id ∧
      e.aggregateRevision = (n : Int))) = [] := by
    rw [List.filter_eq_nil_iff]
    intro e he
    simp [hother e he]
  unfold revisionEvents
  rw [hevents, List.filter_append, hempty, List.append_nil]

theorem revisionEvents_of_same (hevents : db'.events = db.events) (id : String) (n : Nat) :
    revisionEvents db' id n = revisionEvents db id n := by
  unfold revisionEvents
  rw [hevents]

theorem datasetCommits_append {commit : RevisionCommit} (h : db'.commits = db.commits ++ [commit])
    (datasetId : String) :
    datasetCommits db' datasetId = datasetCommits db datasetId ++
      if commit.datasetId = datasetId then [commit] else [] := by
  unfold datasetCommits
  rw [h, List.filter_append]
  by_cases hid : commit.datasetId = datasetId
  · simp [hid]
  · simp [hid]

theorem datasetCommits_rewrite {f : RevisionCommit → RevisionCommit} (hf : Rewrites f)
    (h : db'.commits = db.commits.map f) (datasetId : String) :
    datasetCommits db' datasetId = (datasetCommits db datasetId).map f := by
  have hsame : ((fun commit : RevisionCommit => decide (commit.datasetId = datasetId)) ∘ f) =
      fun commit => decide (commit.datasetId = datasetId) := by
    funext commit
    simp only [Function.comp, hf.datasetId]
  unfold datasetCommits
  rw [h, List.filter_map, hsame]

end

/-! ## The invariant -/

/-- The commits of the dataset carry the numbers from 1 to the latest revision,
and the events those of the revisions that were announced. -/
structure Numbered (db₀ : Db) (datasetId : String) (db : Db) (log : List (Request × Receipt)) :
    Prop where
  revisions : (datasetCommits db datasetId).map RevisionCommit.revision =
    List.range' 1 (latest db datasetId)
  latestRun_eq : ∀ commit ∈ datasetCommits db datasetId,
    commit.revision = latest db datasetId → latestRun db datasetId = some commit.runId
  runs : ((datasetCommits db datasetId).map RevisionCommit.runId).Nodup
  materializations :
    ((datasetCommits db datasetId).filterMap RevisionCommit.materializationId).Nodup
  ahead : ∀ n, latest db datasetId < n →
    (revisionEvents db datasetId n).length = (revisionEvents db₀ datasetId n).length
  announced : ∀ entry ∈ log, ∀ n, announcedRevision entry = some (datasetId, n) →
    n ≤ latest db datasetId ∧
      (revisionEvents db datasetId n).length = (revisionEvents db₀ datasetId n).length + 1

theorem numbered_start {db : Db} {datasetId : String} (hzero : latest db datasetId = 0)
    (hnone : ∀ commit ∈ db.commits, commit.datasetId ≠ datasetId) :
    Numbered db datasetId db [] := by
  have hempty : datasetCommits db datasetId = [] := by
    simpa [datasetCommits, List.filter_eq_nil_iff] using hnone
  constructor
  · rw [hempty, hzero]
    rfl
  · rw [hempty]
    exact fun _ h => nomatch h
  · rw [hempty]
    exact .nil
  · rw [hempty]
    exact .nil
  · exact fun _ _ => rfl
  · exact fun _ h => nomatch h

section
variable {db₀ db db' : Db} {datasetId : String} {log : List (Request × Receipt)}

/-- The numbers and the ids, after one commit more. -/
theorem Numbered.extends {commit : RevisionCommit} (h : Numbered db₀ datasetId db log)
    (hext : Extends db db' commit) :
    ((datasetCommits db' datasetId).map RevisionCommit.revision =
      List.range' 1 (latest db' datasetId)) ∧
    (∀ c ∈ datasetCommits db' datasetId, c.revision = latest db' datasetId →
      latestRun db' datasetId = some c.runId) ∧
    ((datasetCommits db' datasetId).map RevisionCommit.runId).Nodup ∧
    ((datasetCommits db' datasetId).filterMap RevisionCommit.materializationId).Nodup := by
  have hcommits := datasetCommits_append hext.commits datasetId
  by_cases hid : commit.datasetId = datasetId
  · subst hid
    rw [if_pos rfl] at hcommits
    have hstored : ∀ c ∈ datasetCommits db commit.datasetId, Apart c commit :=
      fun c hc => hext.apart c (List.mem_of_mem_filter hc)
    rw [hcommits, hext.latest_self, hext.run_self]
    refine ⟨?_, ?_, ?_, ?_⟩
    · rw [List.map_append, h.revisions, hext.revision, List.range'_concat]
      simp [hext.revision, Nat.add_comm]
    · intro c hc hrevision
      rcases List.mem_append.mp hc with hold | hnew
      · exact absurd ⟨of_decide_eq_true (List.mem_filter.mp hold).2, hrevision⟩
          (hstored c hold).revision
      · rw [List.mem_singleton.mp hnew]
    · rw [List.map_append, List.nodup_append]
      refine ⟨h.runs, List.nodup_singleton _, fun a ha b hb => ?_⟩
      obtain ⟨c, hc, rfl⟩ := List.mem_map.mp ha
      cases List.mem_singleton.mp hb
      exact (hstored c hc).runId
    · rw [List.filterMap_append, List.nodup_append]
      refine ⟨h.materializations, ?_, fun a ha b hb hab => ?_⟩
      · cases hm : commit.materializationId <;> simp [hm]
      · obtain ⟨c, hc, hcm⟩ := List.mem_filterMap.mp ha
        obtain ⟨c', hc', hcm'⟩ := List.mem_filterMap.mp hb
        cases List.mem_singleton.mp hc'
        refine (hstored c hc).materialization ⟨by rw [hcm']; rfl, ?_⟩
        rw [hcm, hcm', hab]
  · rw [if_neg hid, List.append_nil] at hcommits
    have hother : datasetId ≠ commit.datasetId := fun heq => hid heq.symm
    rw [hcommits, hext.latest_other _ hother, hext.run_other _ hother]
    exact ⟨h.revisions, h.latestRun_eq, h.runs, h.materializations⟩

/-- The numbers and the ids, when no commit is new. -/
theorem Numbered.untouched (h : Numbered db₀ datasetId db log) (hsame : Untouched db db') :
    ((datasetCommits db' datasetId).map RevisionCommit.revision =
      List.range' 1 (latest db' datasetId)) ∧
    (∀ c ∈ datasetCommits db' datasetId, c.revision = latest db' datasetId →
      latestRun db' datasetId = some c.runId) ∧
    ((datasetCommits db' datasetId).map RevisionCommit.runId).Nodup ∧
    ((datasetCommits db' datasetId).filterMap RevisionCommit.materializationId).Nodup := by
  obtain ⟨f, hf, hcommits⟩ := hsame.commits
  rw [datasetCommits_rewrite hf hcommits, hsame.latest_eq, hsame.run_eq, List.map_map, List.map_map,
    List.filterMap_map]
  have hrevision : RevisionCommit.revision ∘ f = RevisionCommit.revision := funext hf.revision
  have hrun : RevisionCommit.runId ∘ f = RevisionCommit.runId := funext hf.runId
  have hmaterialization : RevisionCommit.materializationId ∘ f = RevisionCommit.materializationId :=
    funext hf.materializationId
  rw [hrevision, hrun, hmaterialization]
  refine ⟨h.revisions, fun c hc hlatest => ?_, h.runs, h.materializations⟩
  obtain ⟨old, hold, rfl⟩ := List.mem_map.mp hc
  rw [hf.revision] at hlatest
  rw [hf.runId]
  exact h.latestRun_eq old hold hlatest

/-- The events, after a transaction that appended none. -/
theorem Numbered.quiet {entry : Request × Receipt} (h : Numbered db₀ datasetId db log)
    (hlatest : latest db datasetId ≤ latest db' datasetId)
    (hevents : ∀ n, revisionEvents db' datasetId n = revisionEvents db datasetId n)
    (hentry : announcedRevision entry = none) :
    (∀ n, latest db' datasetId < n →
      (revisionEvents db' datasetId n).length = (revisionEvents db₀ datasetId n).length) ∧
    ∀ e ∈ log ++ [entry], ∀ n, announcedRevision e = some (datasetId, n) →
      n ≤ latest db' datasetId ∧
        (revisionEvents db' datasetId n).length = (revisionEvents db₀ datasetId n).length + 1 := by
  refine ⟨fun n hn => ?_, fun e he n hann => ?_⟩
  · rw [hevents]
    exact h.ahead n (hlatest.trans_lt hn)
  · rcases List.mem_append.mp he with hold | hnew
    · obtain ⟨hle, hcount⟩ := h.announced e hold n hann
      exact ⟨hle.trans hlatest, by rw [hevents, hcount]⟩
    · cases List.mem_singleton.mp hnew
      rw [hentry] at hann
      exact nomatch hann

/-- The events, after a transaction that appended that of the revision it
created. -/
theorem Numbered.announce {entry : Request × Receipt} {commit : RevisionCommit}
    (h : Numbered db₀ datasetId db log) (hext : Extends db db' commit)
    (hcreated : createdRevision entry = some (commit.datasetId, commit.revision))
    (hann : Announces db db' commit.datasetId commit.revision) :
    (∀ n, latest db' datasetId < n →
      (revisionEvents db' datasetId n).length = (revisionEvents db₀ datasetId n).length) ∧
    ∀ e ∈ log ++ [entry], ∀ n, announcedRevision e = some (datasetId, n) →
      n ≤ latest db' datasetId ∧
        (revisionEvents db' datasetId n).length = (revisionEvents db₀ datasetId n).length + 1 := by
  have hcount := revisionEvents_announced hann datasetId
  by_cases hid : commit.datasetId = datasetId
  · subst hid
    have hself := hext.latest_self
    have hnext := hext.revision
    refine ⟨fun n hn => ?_, fun e he n hannounced => ?_⟩
    · rw [hcount, if_neg (by omega), h.ahead n (by omega), Nat.add_zero]
    · rcases List.mem_append.mp he with hold | hnew
      · obtain ⟨hle, hold⟩ := h.announced e hold n hannounced
        exact ⟨by omega, by rw [hcount, if_neg (by omega), hold]⟩
      · cases List.mem_singleton.mp hnew
        have hsame := (created_of_announced hannounced).symm.trans hcreated
        simp only [Option.some.injEq, Prod.mk.injEq, true_and] at hsame
        subst hsame
        exact ⟨hself.ge, by rw [hcount, if_pos ⟨rfl, rfl⟩, h.ahead _ (by omega)]⟩
  · have hother : latest db' datasetId = latest db datasetId :=
      hext.latest_other _ fun heq => hid heq.symm
    refine ⟨fun n hn => ?_, fun e he n hannounced => ?_⟩
    · rw [hcount, if_neg fun hboth => hid hboth.1, h.ahead n (hother ▸ hn), Nat.add_zero]
    · rcases List.mem_append.mp he with hold | hnew
      · obtain ⟨hle, hold⟩ := h.announced e hold n hannounced
        exact ⟨hother.symm ▸ hle, by rw [hcount, if_neg fun hboth => hid hboth.1, hold]⟩
      · cases List.mem_singleton.mp hnew
        have hsame := (created_of_announced hannounced).symm.trans hcreated
        simp only [Option.some.injEq, Prod.mk.injEq] at hsame
        exact absurd hsame.1.symm hid

end

theorem numbered_keeps (env : Deployment) (db₀ : Db) (datasetId : String) :
    Keeps (store env) (Numbered db₀ datasetId) where
  exec := by
    intro snapshot db db' request receipt log h hexec
    rcases exec_revisions hexec with ⟨hnone, hsame⟩ | ⟨commit, hcreated, hext⟩
    · obtain ⟨hrevisions, hrun, hruns, hmaterializations⟩ := h.untouched hsame
      rcases exec_events hexec with ⟨hquiet, hevents⟩ | ⟨_, _, hcreated, _⟩
      · obtain ⟨hahead, hannounced⟩ := h.quiet (hsame.latest_eq datasetId).ge
          (revisionEvents_of_same hevents datasetId) hquiet
        exact ⟨hrevisions, hrun, hruns, hmaterializations, hahead, hannounced⟩
      · exact nomatch hnone.symm.trans hcreated
    · obtain ⟨hrevisions, hrun, hruns, hmaterializations⟩ := h.extends hext
      rcases exec_events hexec with ⟨hquiet, hevents⟩ | ⟨_, _, hcreated', hann⟩
      · obtain ⟨hahead, hannounced⟩ := h.quiet (hext.latest_le datasetId)
          (revisionEvents_of_same hevents datasetId) hquiet
        exact ⟨hrevisions, hrun, hruns, hmaterializations, hahead, hannounced⟩
      · have hsame := hcreated.symm.trans hcreated'
        simp only [Option.some.injEq, Prod.mk.injEq] at hsame
        obtain ⟨rfl, rfl⟩ := hsame
        obtain ⟨hahead, hannounced⟩ := h.announce hext hcreated hann
        exact ⟨hrevisions, hrun, hruns, hmaterializations, hahead, hannounced⟩
  env := by
    intro db db' log h henv
    have hsame := henv.untouched
    obtain ⟨more, hevents, hother⟩ := henv.events
    obtain ⟨hrevisions, hrun, hruns, hmaterializations⟩ := h.untouched hsame
    have hquiet := revisionEvents_of_other hevents hother datasetId
    have hlatest := hsame.latest_eq datasetId
    refine ⟨hrevisions, hrun, hruns, hmaterializations, fun n hn => ?_, fun e he n hann => ?_⟩
    · rw [hquiet]
      exact h.ahead n (hlatest ▸ hn)
    · rw [hquiet, hlatest]
      exact h.announced e he n hann

/-- The revision numbers of a dataset, over every interleaving of the three
writers: they run from 1 to the latest one without a gap, the latest run is that
of the last commit, no run and no materialization is there twice, and a revision
that a publication or a switch created has exactly one event more than the start
had. -/
theorem revisions_numbered (env : Deployment) (db₀ : Db) (datasetId : String)
    (hzero : latest db₀ datasetId = 0)
    (hnone : ∀ commit ∈ db₀.commits, commit.datasetId ≠ datasetId)
    {c : Config Db Request Receipt} (h : Steps (store env) (Config.start db₀) c) :
    (datasetCommits c.db datasetId).map RevisionCommit.revision =
      List.range' 1 (latest c.db datasetId) ∧
    (∀ commit ∈ datasetCommits c.db datasetId, commit.revision = latest c.db datasetId →
      latestRun c.db datasetId = some commit.runId) ∧
    ((datasetCommits c.db datasetId).map RevisionCommit.runId).Nodup ∧
    ((datasetCommits c.db datasetId).filterMap RevisionCommit.materializationId).Nodup ∧
    ∀ entry ∈ c.log, ∀ n, announcedRevision entry = some (datasetId, n) →
      (revisionEvents c.db datasetId n).length = (revisionEvents db₀ datasetId n).length + 1 := by
  have hnumbered : Numbered db₀ datasetId c.db c.log :=
    Steps.induct (numbered_keeps env db₀ datasetId) (numbered_start hzero hnone) h
  exact ⟨hnumbered.revisions, hnumbered.latestRun_eq, hnumbered.runs, hnumbered.materializations,
    fun entry hentry n hann => (hnumbered.announced entry hentry n hann).2⟩

/-- One publication: the revision 1. -/
theorem revisions_numbered_orders :
    latest (served (store ordersEnv) ordersDb [.publish ordersPublication]).db "orders" = 1 ∧
      (datasetCommits (served (store ordersEnv) ordersDb [.publish ordersPublication]).db
        "orders").map RevisionCommit.revision = [1] := by
  have hlatest : latest (served (store ordersEnv) ordersDb [.publish ordersPublication]).db
      "orders" = 1 := by decide +kernel
  have hrevisions := (revisions_numbered ordersEnv ordersDb "orders" (by decide +kernel)
    (fun _ h => nomatch h) (served_steps (store ordersEnv) ordersDb
      [.publish ordersPublication])).1
  rw [hlatest] at hrevisions
  exact ⟨hlatest, hrevisions⟩

end AskLake.Realtime

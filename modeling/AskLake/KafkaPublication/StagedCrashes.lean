/-
# `AskLake.KafkaPublication.StagedCrashes` — batches that are published by halves

The batches of a job are published in their order.  A call may stop after either commit, or a
stage of it may raise, and the batch is tried again until a call succeeds:

    clean        catalog and dashboard know the finished batches
    registered   the catalog knows the next one besides
    recorded     both do

From each of the three a further call leads to one of the three (`Halfway.step`), whichever kind
of commit it records.  Only a later batch with the same Iceberg snapshot takes a run out of the
catalog again, which is how `upsert_materialization_run` keeps one run for a snapshot.
-/
import AskLake.Dashboard.StreamOrder
import AskLake.KafkaPublication.Stages

namespace AskLake.KafkaPublication

open AskLake.Lib AskLake.Python AskLake.Kafka AskLake.Events AskLake.Dashboard

/-! ## Publications, and the calls that publish them -/

namespace StreamPublication

def textRunId (publication : StreamPublication) : String :=
  (optionalString publication.runId).elim "" Text.text

/-- The Iceberg snapshot that the worker names. -/
def snapshotId (publication : StreamPublication) : String :=
  publication.icebergCommit.elim "" fun commit => strip commit.snapshotId

def normalized (publication : StreamPublication) : Except Error KafkaRanges :=
  normalizeKafkaSourceRanges (rangesList publication.sourceRanges) true

/-- The ranges of a publication, none where they are not valid. -/
def ranges (publication : StreamPublication) : List KafkaRange :=
  match publication.normalized with
  | .ok ranges => ranges.items
  | .error _ => []

/-- A later publication, by its batch, with ranges after those of an earlier one. -/
structure Precedes (earlier later : StreamPublication) : Prop where
  batch : ∀ m n, earlier.batchId = some m → later.batchId = some n → m < n
  ranges : ∀ r ∈ earlier.ranges, ∀ s ∈ later.ranges, r.key = s.key → r.endOffset ≤ s.startOffset

end StreamPublication

/-- A call: what it is told, and the number of commits after which it stops. -/
structure PublicationCall where
  answers : StageAnswers
  cut : Option Nat := none

/-- The batches of a job. -/
structure Deliveries where
  store : KafkaStore
  finished : List StreamPublication := []
  waiting : List StreamPublication

namespace Deliveries

section
variable (env : StreamEnv) (job : StreamJob) (runtime : StreamRuntime)

/-- What a call leaves of the store. -/
def attempt (publication : StreamPublication) (call : PublicationCall) (store : KafkaStore) :
    KafkaStore :=
  let executed := executeContinuousPublication env job runtime publication call.answers store
  match call.cut with
  | none => executed.commits.getLastD store
  | some commits => (executed.commits.take commits).getLastD store

/-- The call returns `True`. -/
def succeeds (publication : StreamPublication) (call : PublicationCall) (store : KafkaStore) : Bool :=
  call.cut.isNone &&
    (executeContinuousPublication env job runtime publication call.answers store).failure.isNone

/-- The first of the waiting batches is tried. -/
def step (s : Deliveries) (call : PublicationCall) : Deliveries :=
  match s.waiting with
  | [] => s
  | publication :: rest =>
      let store := attempt env job runtime publication call s.store
      if succeeds env job runtime publication call s.store then
        ⟨store, s.finished ++ [publication], rest⟩
      else { s with store }

end

end Deliveries

/-! ## What is published in the end -/

/-- The revisions of the job's dataset, in the order in which they were recorded. -/
def revisionsOf (job : StreamJob) (live : Db) : List RevisionCommit :=
  live.commits.filter fun commit => commit.datasetId = job.datasetId

/-- A later publication of the same snapshot. -/
def Superseded (publication : StreamPublication) (later : List StreamPublication) : Prop :=
  ∃ next ∈ later, next.snapshotId = publication.snapshotId

instance (publication : StreamPublication) (later : List StreamPublication) :
    Decidable (Superseded publication later) := inferInstanceAs (Decidable (∃ _ ∈ _, _))

/-- How many runs of the catalog have the publication's run id. -/
def runCount (runs : List MaterializationRun) (publication : StreamPublication) : Nat :=
  runs.countP fun run => run.runId = publication.textRunId

def cursorOf (job : StreamJob) (live : Db) (key : PartitionKey) : Option Int :=
  (live.cursors (cursorKey job.datasetId key)).map StreamCursor.nextOffset

/-- Each publication has its run, until another one of its snapshot; one revision for each, in
their order; the cursors are where the last ranges end. -/
structure AllPublished (job : StreamJob) (publications : List StreamPublication)
    (store : KafkaStore) : Prop where
  runs : ∀ earlier publication later, publications = earlier ++ publication :: later →
    runCount store.runs publication = if Superseded publication later then 0 else 1
  revisions : (revisionsOf job store.live).map RevisionCommit.runId =
    publications.map StreamPublication.textRunId
  ordered : (revisionsOf job store.live).Pairwise fun a b => a.revision < b.revision
  cursors : ∀ key, cursorOf job store.live key =
    lastEnd (publications.flatMap StreamPublication.ranges) key

/-- A store in which nothing of the job is published. -/
structure Unpublished (job : StreamJob) (publications : List StreamPublication)
    (store : KafkaStore) : Prop where
  runs : ∀ run ∈ store.runs, ∀ publication ∈ publications, run.runId ≠ publication.textRunId
  commits : ∀ commit ∈ store.live.commits, commit.datasetId ≠ job.datasetId ∧
    ∀ publication ∈ publications, commit.runId ≠ publication.textRunId
  cursors : ∀ key, store.live.cursors (cursorKey job.datasetId key) = none

/-- The range lists whose digests are taken. -/
def publicationTexts (publications : List StreamPublication) : List String :=
  publications.filterMap fun publication =>
    publication.normalized.toOption.map KafkaRanges.canonicalText

theorem mem_publicationTexts {publications : List StreamPublication}
    {publication : StreamPublication} {ranges : KafkaRanges} (hmem : publication ∈ publications)
    (hranges : publication.normalized = .ok ranges) :
    ranges.canonicalText ∈ publicationTexts publications :=
  List.mem_filterMap.mpr ⟨publication, hmem, by rw [hranges]; rfl⟩

/-! ## Run ids -/

/-- The publication's own run id and batch. -/
def Identified (job : StreamJob) (publication : StreamPublication) : Prop :=
  ∃ identity, buildPublicationIdentity job publication = .ok identity

theorem identity_eq_ok {job : StreamJob} {publication : StreamPublication}
    {identity : PublicationIdentity} (h : buildPublicationIdentity job publication = .ok identity) :
    publication.batchId = some (identity.batchId : Int) ∧ identity.runId = publication.textRunId ∧
      runIdPrefix job.id identity.batchId <+: publication.textRunId.toList := by
  unfold buildPublicationIdentity at h
  split at h
  · exact nomatch h
  · rename_i batchId hbatch
    split at h
    · exact nomatch h
    · rename_i hnonneg
      simp only at h
      split at h
      · rename_i hprefix
        cases h
        refine ⟨?_, rfl, List.isPrefixOf_iff_prefix.mp hprefix⟩
        rw [hbatch, Option.some.injEq]
        show batchId = (batchId.toNat : Int)
        omega
      · exact nomatch h

/-- The digits up to the next colon say which number it is. -/
theorem digits_before_colon {m n : Nat} {text : List Char}
    (hm : Nat.toDigits 10 m ++ [':'] <+: text) (hn : Nat.toDigits 10 n ++ [':'] <+: text) :
    m = n := by
  have htake : ∀ k, Nat.toDigits 10 k ++ [':'] <+: text →
      text.takeWhile (· ≠ ':') = Nat.toDigits 10 k := by
    rintro k ⟨rest, rfl⟩
    have hdigits : ∀ c ∈ Nat.toDigits 10 k, decide (c ≠ ':') = true := by
      intro c hc
      have hdigit := Nat.isDigit_of_mem_toDigits (by decide) (by decide) hc
      refine decide_eq_true fun hcolon => ?_
      rw [hcolon] at hdigit
      exact nomatch hdigit
    rw [List.append_assoc, List.takeWhile_append_of_pos hdigits, List.singleton_append,
      List.takeWhile_cons_of_neg (by simp), List.append_nil]
  have hsame : Nat.toDigits 10 m = Nat.toDigits 10 n := (htake m hm).symm.trans (htake n hn)
  rw [← Nat.ofDigitChars_ten_toDigits (n := m), hsame, Nat.ofDigitChars_ten_toDigits]

theorem runIdPrefix_eq (jobId : String) : ∃ front, ∀ batchId,
    runIdPrefix jobId batchId = front ++ (Nat.toDigits 10 batchId ++ [':']) :=
  ⟨_, fun _ => List.append_assoc ..⟩

/-- Run ids of different batches differ. -/
theorem runId_ne {job : StreamJob} {earlier later : StreamPublication}
    (hearlier : Identified job earlier) (hlater : Identified job later)
    (h : earlier.Precedes later) : earlier.textRunId ≠ later.textRunId := by
  obtain ⟨first, hfirst⟩ := hearlier
  obtain ⟨second, hsecond⟩ := hlater
  obtain ⟨hbatch, -, hprefix⟩ := identity_eq_ok hfirst
  obtain ⟨hbatch', -, hprefix'⟩ := identity_eq_ok hsecond
  obtain ⟨front, hfront⟩ := runIdPrefix_eq job.id
  intro heq
  rw [heq, hfront] at hprefix
  rw [hfront] at hprefix'
  have hlt := h.batch _ _ hbatch hbatch'
  obtain ⟨rest, hrest⟩ := hprefix
  have hfirst' : Nat.toDigits 10 first.batchId ++ [':'] <+:
      Nat.toDigits 10 first.batchId ++ [':'] ++ rest := List.prefix_append _ _
  have hsecond' : Nat.toDigits 10 second.batchId ++ [':'] <+:
      Nat.toDigits 10 first.batchId ++ [':'] ++ rest := by
    rw [← hrest, List.append_assoc front] at hprefix'
    exact (List.prefix_append_right_inj front).mp hprefix'
  have hsame : first.batchId = second.batchId := digits_before_colon hfirst' hsecond'
  omega

theorem textRunId_ne_empty {job : StreamJob} {publication : StreamPublication}
    (h : Identified job publication) : publication.textRunId ≠ "" := by
  obtain ⟨identity, hidentity⟩ := h
  obtain ⟨-, -, hprefix⟩ := identity_eq_ok hidentity
  obtain ⟨front, hfront⟩ := runIdPrefix_eq job.id
  intro hempty
  rw [hempty, hfront] at hprefix
  have hnil := List.prefix_nil.mp hprefix
  exact absurd (List.append_eq_nil_iff.mp (List.append_eq_nil_iff.mp hnil).2).2
    (List.cons_ne_nil _ _)

/-! ## The catalog's runs -/

/-- The run of a publication. -/
structure RunOf (publication : StreamPublication) (run : MaterializationRun) : Prop where
  runId : run.runId = publication.textRunId
  snapshot : run.icebergSnapshotId = publication.snapshotId

/-- The catalog has the runs of these publications, and those from the start. -/
structure Registered (start : List MaterializationRun) (published : List StreamPublication)
    (runs : List MaterializationRun) : Prop where
  known : ∀ run ∈ runs, run ∈ start ∨ ∃ publication ∈ published, RunOf publication run
  counted : ∀ earlier publication later, published = earlier ++ publication :: later →
    runCount runs publication = if Superseded publication later then 0 else 1

section
variable {env : StreamEnv} {start runs : List MaterializationRun}
  {published : List StreamPublication} {publication : StreamPublication}

theorem runCount_newestFirst (runs : List MaterializationRun) (publication : StreamPublication) :
    runCount (newestFirst env runs) publication = runCount runs publication :=
  (List.perm_insertionSort _ runs).countP_eq _

theorem mem_newestFirst {run : MaterializationRun} :
    run ∈ newestFirst env runs ↔ run ∈ runs := List.mem_insertionSort _

theorem registered_nil (h : ∀ run ∈ runs, run ∈ start) : Registered start [] runs where
  known run hrun := Or.inl (h run hrun)
  counted earlier _ later heq := by
    cases earlier with
    | nil => exact nomatch heq
    | cons first rest => exact nomatch heq

/-- A run that has the id of a publication is the run of that publication. -/
theorem Registered.runOf (h : Registered start published runs)
    (hids : (published.map StreamPublication.textRunId).Nodup)
    (hstart : ∀ run ∈ start, ∀ publication ∈ published, run.runId ≠ publication.textRunId)
    (hmem : publication ∈ published) {run : MaterializationRun} (hrun : run ∈ runs)
    (hid : run.runId = publication.textRunId) : RunOf publication run := by
  rcases h.known run hrun with hold | ⟨other, hother, hof⟩
  · exact absurd hid (hstart run hold publication hmem)
  · have hsame : other = publication :=
      eq_of_nodup_map hids hother hmem (hof.runId.symm.trans hid)
    exact hsame ▸ hof

theorem Registered.existingRun_none (h : Registered start published runs)
    (hstart : ∀ run ∈ start, run.runId ≠ publication.textRunId)
    (hnew : ∀ other ∈ published, other.textRunId ≠ publication.textRunId) :
    existingRun runs publication.textRunId = none := by
  refine List.find?_eq_none.mpr fun run hrun => ?_
  simp only [decide_eq_true_eq]
  intro hid
  rcases h.known run hrun with hold | ⟨other, hother, hof⟩
  · exact hstart run hold hid
  · exact hnew other hother (hof.runId.symm.trans hid)

theorem Registered.existingRun_some (h : Registered start (published ++ [publication]) runs) :
    ∃ run, existingRun runs publication.textRunId = some run := by
  have hcount := h.counted published publication [] rfl
  rw [if_neg fun ⟨_, hmem, _⟩ => nomatch hmem] at hcount
  have hpos : 0 < runCount runs publication := hcount ▸ Nat.one_pos
  obtain ⟨run, hrun, hid⟩ := List.countP_pos_iff.mp hpos
  exact Option.isSome_iff_exists.mp (List.find?_isSome.mpr ⟨run, hrun, hid⟩)

theorem superseded_snoc {later : List StreamPublication} {next : StreamPublication} :
    Superseded publication (later ++ [next]) ↔
      Superseded publication later ∨ next.snapshotId = publication.snapshotId := by
  simp only [Superseded, List.mem_append, List.mem_singleton, or_and_right, exists_or,
    exists_eq_left]

/-- Of the runs of an earlier publication, those of another snapshot stay. -/
theorem runCount_survives {next : MaterializationRun} {later : StreamPublication}
    (hruns : ∀ run ∈ runs, run.runId = publication.textRunId → RunOf publication run)
    (hnext : RunOf later next) (hne : publication.textRunId ≠ later.textRunId)
    (hkafka : next.kafkaSnapshotId = "") (hsnapshot : later.snapshotId ≠ "") :
    runCount (runs.filter fun run => survives next run) publication =
      if later.snapshotId = publication.snapshotId then 0 else runCount runs publication := by
  unfold runCount
  rw [List.countP_filter]
  have hiff : ∀ run ∈ runs, run.runId = publication.textRunId →
      (survives next run ↔ publication.snapshotId ≠ later.snapshotId) := by
    intro run hrun hid
    have hof := hruns run hrun hid
    simp only [survives, hid, hkafka, hof.snapshot, hnext.runId, hnext.snapshot, ne_eq, hne,
      not_false_eq_true, true_or, true_and, hsnapshot, false_or]
  split
  · rename_i hsame
    refine List.countP_eq_zero.mpr fun run hrun hboth => ?_
    simp only [Bool.and_eq_true, decide_eq_true_eq] at hboth
    exact (hiff run hrun hboth.1).mp hboth.2 hsame.symm
  · rename_i hother
    refine List.countP_congr fun run hrun => ?_
    simp only [Bool.and_eq_true, decide_eq_true_eq, and_iff_left_iff_imp]
    exact fun hid => (hiff run hrun hid).mpr fun heq => hother heq.symm

/-- One more run. -/
theorem Registered.snoc {next : MaterializationRun} (h : Registered start published runs)
    (hids : ((published ++ [publication]).map StreamPublication.textRunId).Nodup)
    (hstart : ∀ run ∈ start, ∀ publication ∈ published, run.runId ≠ publication.textRunId)
    (hnext : RunOf publication next) (hkafka : next.kafkaSnapshotId = "")
    (hid : publication.textRunId ≠ "") (hsnapshot : publication.snapshotId ≠ "") :
    Registered start (published ++ [publication]) (upsertMaterializationRun env runs next) := by
  have hupsert : upsertMaterializationRun env runs next =
      newestFirst env (next :: runs.filter fun run => survives next run) := by
    rw [upsertMaterializationRun, if_neg (by rw [hnext.runId]; exact hid)]
  rw [List.map_append, List.nodup_append] at hids
  have hnew : ∀ other ∈ published, other.textRunId ≠ publication.textRunId :=
    fun other hother => hids.2.2 _ (List.mem_map_of_mem hother) _ List.mem_cons_self
  constructor
  · intro run hrun
    rw [hupsert, mem_newestFirst] at hrun
    rcases List.mem_cons.mp hrun with rfl | hold
    · exact Or.inr ⟨publication, List.mem_append_right _ List.mem_cons_self, hnext⟩
    · rcases h.known run (List.mem_of_mem_filter hold) with hfirst | ⟨other, hother, hof⟩
      · exact Or.inl hfirst
      · exact Or.inr ⟨other, List.mem_append_left _ hother, hof⟩
  · intro earlier other later heq
    rw [hupsert, runCount_newestFirst]
    have hcons : runCount (next :: runs.filter fun run => survives next run) other =
        runCount (runs.filter fun run => survives next run) other +
          if publication.textRunId = other.textRunId then 1 else 0 := by
      rw [runCount, List.countP_cons, runCount, hnext.runId]
      simp only [decide_eq_true_eq]
    rw [hcons]
    rcases List.eq_nil_or_concat later with rfl | ⟨between, last, rfl⟩
    · -- the new publication itself
      obtain ⟨rfl, hlast⟩ := List.append_inj' heq rfl
      cases hlast
      rw [if_pos rfl, if_neg fun ⟨_, hmem, _⟩ => nomatch hmem]
      have hnone : runCount (runs.filter fun run => survives next run) publication = 0 := by
        refine List.countP_eq_zero.mpr fun run hrun hsame => ?_
        have hsurvives := (List.mem_filter.mp hrun).2
        simp only [decide_eq_true_eq] at hsurvives hsame
        exact hsurvives.1 (hsame.trans hnext.runId.symm)
      rw [hnone]
    · -- one of those before it
      rw [List.concat_eq_append, ← List.cons_append, ← List.append_assoc] at heq
      obtain ⟨rfl, hlast⟩ := List.append_inj' heq rfl
      cases hlast
      have hmem : other ∈ earlier ++ other :: between := by simp
      have hne := hnew other hmem
      rw [if_neg (Ne.symm hne), Nat.add_zero,
        runCount_survives (fun run hrun => h.runOf hids.1 hstart hmem hrun) hnext hne hkafka
          hsnapshot, h.counted earlier other between rfl, List.concat_eq_append]
      by_cases hsame : publication.snapshotId = other.snapshotId
      · rw [if_pos hsame, if_pos (superseded_snoc.mpr (Or.inr hsame))]
      · rw [if_neg hsame]
        exact if_congr (by rw [superseded_snoc, or_iff_left hsame]) rfl rfl

end

/-! ## The dashboard's revisions -/

/-- The revision of a publication. -/
structure RevisionOf (rt : Runtime) (publication : StreamPublication) (commit : RevisionCommit) :
    Prop where
  runId : commit.runId = publication.textRunId
  stored : ∃ ranges, publication.normalized = .ok ranges ∧
    commit.sourceFingerprint = kafkaSourceFingerprint rt ranges
  manifest : commit.commitKind = .stream → stripped commit.manifestLocation ≠ none

/-- The dashboard has the revisions of these publications. -/
structure Committed (rt : Runtime) (job : StreamJob) (start : List RevisionCommit)
    (published : List StreamPublication) (live : Db) : Prop where
  known : ∀ commit ∈ live.commits, commit.datasetId ≠ job.datasetId → commit ∈ start
  revisions : List.Forall₂ (RevisionOf rt) published (revisionsOf job live)
  ordered : (revisionsOf job live).Pairwise fun a b => a.revision < b.revision
  counted : ∀ commit ∈ revisionsOf job live,
    commit.revision ≤ (live.freshness job.datasetId).elim 0 Freshness.latestRevision
  cursors : ∀ key, cursorOf job live key =
    lastEnd (published.flatMap StreamPublication.ranges) key

section
variable {env : Deployment} {job : StreamJob} {start : List RevisionCommit}
  {published : List StreamPublication} {publication : StreamPublication} {live live' : Db}
  {ranges : KafkaRanges}

theorem ranges_of_normalized (h : publication.normalized = .ok ranges) :
    publication.ranges = ranges.items := by
  rw [StreamPublication.ranges, h]

theorem exists_of_lastEnd {items : List KafkaRange} {key : PartitionKey} {last : Int}
    (h : lastEnd items key = some last) :
    ∃ r ∈ items, r.key = key ∧ r.endOffset = last := by
  obtain ⟨r, hr, hlast⟩ := Option.map_eq_some_iff.mp h
  obtain ⟨hmem, hkey⟩ := List.mem_filter.mp (List.mem_of_getLast? hr)
  exact ⟨r, hmem, by simpa using hkey, hlast⟩

/-- A cursor that is moved to the end of new ranges, or stays above it. -/
theorem lastEnd_next (hprecedes : ∀ other ∈ published, other.Precedes publication)
    (hnormal : publication.normalized = .ok ranges) (key : PartitionKey) :
    lastEnd ((published ++ [publication]).flatMap StreamPublication.ranges) key =
      match lastEnd ranges.items key with
      | none => lastEnd (published.flatMap StreamPublication.ranges) key
      | some last => some ((lastEnd (published.flatMap StreamPublication.ranges) key).elim last
          fun before => max before last) := by
  rw [List.flatMap_append, List.flatMap_singleton, lastEnd_append, ranges_of_normalized hnormal]
  cases hnew : lastEnd ranges.items key with
  | none => rfl
  | some last =>
      cases hold : lastEnd (published.flatMap StreamPublication.ranges) key with
      | none => rfl
      | some before =>
          -- the new ranges start where the old ones end, or later
          obtain ⟨s, hs, hskey, rfl⟩ := exists_of_lastEnd hnew
          obtain ⟨r, hr, hrkey, rfl⟩ := exists_of_lastEnd hold
          obtain ⟨other, hother, hr⟩ := List.mem_flatMap.mp hr
          have hle := (hprecedes other hother).ranges r hr s
            (ranges_of_normalized hnormal ▸ hs) (hrkey.trans hskey.symm)
          have := s.nonempty
          exact congrArg some (max_eq_right (by omega)).symm

theorem revisionsOf_append {commit : RevisionCommit}
    (hcommits : live'.commits = live.commits ++ [commit])
    (hdataset : commit.datasetId = job.datasetId) :
    revisionsOf job live' = revisionsOf job live ++ [commit] := by
  rw [revisionsOf, hcommits, List.filter_append, revisionsOf,
    List.filter_cons_of_pos (by simpa using hdataset), List.filter_nil]

/-- One more revision, with the cursors moved to its ranges. -/
theorem Committed.snoc {request : CommitRequest} {staged : Db} {commit : RevisionCommit}
    (h : Committed env.toRuntime job start published live)
    (hrecorded : Recorded env live request ranges staged commit)
    (hdataset : request.datasetId = job.datasetId) (hrun : request.runId = publication.textRunId)
    (hnormal : publication.normalized = .ok ranges)
    (hmanifest : request.commitKind = .stream → stripped request.manifestLocation ≠ none)
    {cursors : Cursors}
    (hcursors : ∀ key, (cursors (cursorKey job.datasetId key)).map StreamCursor.nextOffset =
      lastEnd ((published ++ [publication]).flatMap StreamPublication.ranges) key) :
    Committed env.toRuntime job start (published ++ [publication])
      { staged with cursors := cursors } := by
  have hcommit := hrecorded.commit_eq
  have hdataset' : commit.datasetId = job.datasetId := by
    rw [hcommit]
    exact hdataset
  have hrevisions : revisionsOf job { staged with cursors := cursors } =
      revisionsOf job live ++ [commit] := revisionsOf_append hrecorded.commits_eq hdataset'
  have hrevision : commit.revision =
      (live.freshness job.datasetId).elim 0 Freshness.latestRevision + 1 := by
    rw [hcommit, ← hdataset, ← lockedFreshness_latest]
    rfl
  have hlatest : (staged.freshness job.datasetId).elim 0 Freshness.latestRevision =
      commit.revision := by
    rw [← hdataset, hrecorded.freshness_eq.1, hcommit]
    rfl
  constructor
  · intro old hold hother
    rw [hrecorded.commits_eq] at hold
    rcases List.mem_append.mp hold with hbefore | hlast
    · exact h.known old hbefore hother
    · rw [List.mem_singleton.mp hlast] at hother
      exact absurd hdataset' hother
  · rw [hrevisions]
    refine List.rel_append h.revisions (.cons ?_ .nil)
    rw [hcommit]
    refine ⟨hrun, ⟨ranges, hnormal, rfl⟩, fun hkind => ?_⟩
    have hmanifest' := hmanifest hkind
    have hlocation : (recordedCommit env.toRuntime request ranges
        ((lockedFreshness live request).latestRevision + 1)).manifestLocation =
          stripped request.manifestLocation := rfl
    rw [hlocation, stripped_stripped]
    exact hmanifest hkind
  · rw [hrevisions]
    refine List.pairwise_append.mpr ⟨h.ordered, List.pairwise_singleton .., ?_⟩
    intro old hold last hlast
    rw [List.mem_singleton.mp hlast, hrevision]
    exact Nat.lt_succ_of_le (h.counted old hold)
  · intro old hold
    rw [hrevisions] at hold
    show _ ≤ (staged.freshness job.datasetId).elim 0 Freshness.latestRevision
    rw [hlatest]
    rcases List.mem_append.mp hold with hbefore | hlast
    · have := h.counted old hbefore
      omega
    · rw [List.mem_singleton.mp hlast]
  · exact hcursors

/-- No revision has been recorded of ranges after those of all publications. -/
theorem Committed.noDuplicate {rt : Runtime} {texts : Set String} {request : CommitRequest}
    (h : Committed rt job start published live) (hfree : rt.CollisionFree texts)
    (htexts : ∀ other ∈ published, ∀ ranges, other.normalized = .ok ranges →
      ranges.canonicalText ∈ texts)
    (hprecedes : ∀ other ∈ published, other.Precedes publication)
    (hdataset : request.datasetId = job.datasetId) (hnormal : publication.normalized = .ok ranges)
    (htext : ranges.canonicalText ∈ texts) : duplicateSource rt live request ranges = none := by
  cases hdup : duplicateSource rt live request ranges with
  | none => rfl
  | some duplicate =>
      obtain ⟨fingerprint, hfingerprint, hfind⟩ := Option.bind_eq_some_iff.mp hdup
      have hmem : duplicate ∈ live.commits := List.mem_of_find?_eq_some hfind
      have hkey := List.find?_some hfind
      simp only [decide_eq_true_eq] at hkey
      have hrevision : duplicate ∈ revisionsOf job live :=
        List.mem_filter.mpr ⟨hmem, by simpa [hdataset] using hkey.1⟩
      obtain ⟨other, hother, hof⟩ := exists_left_of_mem h.revisions hrevision
      obtain ⟨stored, hstored, hdigest⟩ := hof.stored
      have hsame : stored = ranges := eq_of_fingerprint hfree (htexts other hother stored hstored)
        htext (hdigest.symm.trans hkey.2.2) hfingerprint
      -- the same ranges would lie before themselves
      obtain ⟨r, hr⟩ := List.exists_mem_of_ne_nil _ (normalizeKafkaSourceRanges_nonempty hnormal)
      have hbefore := (hprecedes other hother).ranges r
        (by rw [ranges_of_normalized hstored, hsame]; exact hr) r
        (ranges_of_normalized hnormal ▸ hr) rfl
      have := r.nonempty
      omega

theorem checkRequest_manifest {request : CommitRequest} (h : checkRequest request = .ok ranges)
    (hkind : CommitKind.fromKafka request.commitKind = true) :
    stripped request.manifestLocation ≠ none := by
  obtain ⟨_, -, h⟩ := bind_eq_ok.mp h
  obtain ⟨_, -, h⟩ := bind_eq_ok.mp h
  obtain ⟨_, -, h⟩ := bind_eq_ok.mp h
  obtain ⟨_, hreject, -⟩ := bind_eq_ok.mp h
  exact fun hnone => rejectIf_eq_ok.mp hreject ⟨hkind, hnone⟩

/-- A run that is not known, with ranges that are not, becomes a new revision. -/
theorem recorded_of_unknown {request : CommitRequest} {commit : RevisionCommit} {created : Bool}
    (hnone : commitByRunId live request.runId = none)
    (hnew : duplicateSource env.toRuntime live request ranges = none)
    (hchecked : ∀ checked, checkRequest request = .ok checked → checked = ranges)
    (h : recordDatasetCommit env live live request = .ok (live', commit, created)) :
    checkRequest request = .ok ranges ∧ Recorded env live request ranges live' commit := by
  obtain ⟨checked, hcheck, hcases⟩ := record_cases h
  cases hchecked checked hcheck
  refine ⟨hcheck, ?_⟩
  rcases hcases with ⟨-, existing, hexisting, -⟩ | ⟨-, hduplicate, -⟩ | ⟨-, hrecorded⟩
  · exact nomatch hnone.symm.trans hexisting
  · exact nomatch hnew.symm.trans hduplicate
  · exact hrecorded

end

/-! ## One publication on the dashboard -/

section
variable {env : StreamEnv} {job : StreamJob} {start : List RevisionCommit}
  {published : List StreamPublication} {publication : StreamPublication} {live live' : Db}
  {identity : PublicationIdentity} {inputs : PublicationInputs} {output : VerifiedOutput}
  {evidence : CatalogEvidence} {run : MaterializationRun} {texts : Set String}

/-- As the catalog's answer has it, a commit of kind `stream` or of kind `backfill`. -/
theorem Committed.publish (h : Committed env.toRuntime job start published live)
    (hfree : env.toRuntime.CollisionFree texts)
    (htexts : ∀ other ∈ published ++ [publication], ∀ ranges, other.normalized = .ok ranges →
      ranges.canonicalText ∈ texts)
    (hprecedes : ∀ other ∈ published, other.Precedes publication)
    (hrun : identity.runId = publication.textRunId)
    (hnormal : publication.normalized = .ok inputs.sourceRanges)
    (hnone : commitByRunId live identity.runId = none)
    (hok : publishRevision env job publication identity inputs output evidence run live
      = .ok live') :
    Committed env.toRuntime job start (published ++ [publication]) live' := by
  have hnew : ∀ request : CommitRequest, request.datasetId = job.datasetId →
      duplicateSource env.toRuntime live request inputs.sourceRanges = none := fun _ hdataset =>
    h.noDuplicate hfree (fun other hother => htexts other (List.mem_append_left _ hother))
      hprecedes hdataset hnormal
      (htexts publication (List.mem_append_right _ List.mem_cons_self) _ hnormal)
  unfold publishRevision at hok
  rw [hnone] at hok
  simp only at hok
  split at hok
  · -- a stream revision advances the cursors
    obtain ⟨⟨commit, created⟩, hrecord⟩ := fst_map_eq_ok hok
    have hchecked : ∀ checked, checkRequest (streamRequest job publication identity inputs output
        evidence.materializationMode) = .ok checked → checked = inputs.sourceRanges := by
      intro checked hcheck
      have hranges := checkRequest_ranges hcheck
      have hstored := normalizeKafkaSourceRanges_required
        (normalizeKafkaSourceRanges_nonempty hnormal)
      exact Except.ok.inj (hranges.symm.trans hstored)
    obtain ⟨hcheck, hrecorded⟩ := recorded_of_unknown hnone (hnew _ rfl) hchecked hrecord
    refine h.snoc hrecorded rfl hrun hnormal
      (fun _ => checkRequest_manifest hcheck rfl) fun key => ?_
    have hkind : (streamRequest job publication identity inputs output
        evidence.materializationMode).commitKind = .stream := rfl
    have hcursors := hrecorded.cursors
    rw [cursorsAfter, if_pos hkind] at hcursors
    change advanceStreamPartitionCursors live.cursors job.datasetId inputs.sourceRanges _ = _
      at hcursors
    have hcursor := advance_cursor hcursors key
    have hspan := spanAt_lastEnd inputs.sourceRanges key
    have hold := h.cursors key
    rw [cursorOf] at hold
    rw [lastEnd_next hprecedes hnormal, ← hold, ← hspan]
    show (live'.cursors (cursorKey job.datasetId key)).map StreamCursor.nextOffset = _
    rw [hcursor]
    cases spanAt inputs.sourceRanges.items key with
    | none => rfl
    | some span =>
        show some _ = some _
        cases live.cursors (cursorKey job.datasetId key) <;> rfl
  · -- a backfill revision, and the cursors are seeded
    obtain ⟨commit, hbackfill⟩ := fst_map_eq_ok hok
    obtain ⟨⟨staged, commit', created⟩, hrecord, hseed⟩ :=
      bind_eq_ok.mp (backfillCatalogRevision_eq_ok hbackfill)
    have hchecked : ∀ checked, checkRequest { backfillRequest job publication identity inputs
        output run with commitKind := .backfill } = .ok checked →
        checked = inputs.sourceRanges := by
      intro checked hcheck
      exact Except.ok.inj ((checkRequest_ranges hcheck).symm.trans
        (normalizeKafkaSourceRanges_documents inputs.sourceRanges))
    obtain ⟨hcheck, hrecorded⟩ := recorded_of_unknown hnone (hnew _ rfl) hchecked hrecord
    obtain ⟨normalizedRanges, hranges, hseed⟩ := bind_eq_ok.mp hseed
    have hsame : normalizedRanges = inputs.sourceRanges := Except.ok.inj
      (hranges.symm.trans (normalizeKafkaSourceRanges_documents inputs.sourceRanges))
    rw [hsame, if_pos (normalizeKafkaSourceRanges_nonempty hnormal)] at hseed
    obtain ⟨cursors, hcursors, hdone⟩ := bind_eq_ok.mp hseed
    cases pure_eq_ok.mp hdone
    refine h.snoc hrecorded rfl hrun hnormal (fun hkind => nomatch hkind) fun key => ?_
    have hstaged : staged.cursors = live.cursors := by
      have hkept := hrecorded.cursors
      rw [cursorsAfter, if_neg (fun hkind => nomatch hkind)] at hkept
      exact (pure_eq_ok.mp hkept).symm
    rw [hstaged] at hcursors
    change seedStreamPartitionCursors live.cursors job.datasetId inputs.sourceRanges _ = _
      at hcursors
    have hcursor := seed_cursor hcursors key
    have hend := endAt_lastEnd inputs.sourceRanges key
    have hold := h.cursors key
    rw [cursorOf] at hold
    rw [lastEnd_next hprecedes hnormal, ← hold, ← hend]
    rw [hcursor]
    cases endAt inputs.sourceRanges.items key with
    | none => rfl
    | some last =>
        show some _ = some _
        cases live.cursors (cursorKey job.datasetId key) <;> rfl

/-- A publication that has its revision keeps it, and nothing is recorded again. -/
theorem Committed.republish
    (h : Committed env.toRuntime job start (published ++ [publication]) live)
    (hstart : ∀ commit ∈ start, commit.runId ≠ publication.textRunId)
    (hrun : identity.runId = publication.textRunId)
    (hok : publishRevision env job publication identity inputs output evidence run live
      = .ok live') : live' = live := by
  obtain ⟨commit, hcommit, hof⟩ := exists_right_of_mem h.revisions
    (List.mem_append_right _ List.mem_cons_self)
  have hsome : (commitByRunId live identity.runId).isSome = true :=
    List.find?_isSome.mpr ⟨commit, List.mem_of_mem_filter hcommit,
      by simpa [hrun] using hof.runId⟩
  obtain ⟨existing, hexisting⟩ := Option.isSome_iff_exists.mp hsome
  unfold publishRevision at hok
  rw [hexisting] at hok
  simp only at hok
  split at hok
  · rename_i hkind
    obtain ⟨⟨commit', created⟩, hrecord⟩ := fst_map_eq_ok hok
    have hid : existing.runId = publication.textRunId := by
      have hfound := List.find?_some hexisting
      simpa [hrun] using hfound
    have hmem : existing ∈ live.commits := List.mem_of_find?_eq_some hexisting
    have hrevision : existing ∈ revisionsOf job live := by
      refine List.mem_filter.mpr ⟨hmem, ?_⟩
      by_contra hother
      exact hstart existing (h.known existing hmem (by simpa using hother)) hid
    obtain ⟨other, -, hother⟩ := exists_left_of_mem h.revisions hrevision
    obtain ⟨checked, -, hrecord⟩ := bind_eq_ok.mp hrecord
    have hlookup : commitByRunId live (streamRequest job publication identity inputs output
        evidence.materializationMode).runId = some existing := hexisting
    rw [hlookup] at hrecord
    obtain ⟨_, -, hreplay⟩ := bind_eq_ok.mp hrecord
    rw [if_neg fun hboth => hother.manifest hkind hboth.2] at hreplay
    exact (congrArg Prod.fst (pure_eq_ok.mp hreplay)).symm
  · exact (Except.ok.inj hok).symm

end

/-! ## The stages of a call -/

section
variable {env : StreamEnv} {job : StreamJob} {runtime : StreamRuntime}
  {publication : StreamPublication} {answers : StageAnswers}

/-- A publication with rows that passes the first two stages. -/
structure PreparedFor (job : StreamJob) (publication : StreamPublication) (prepared : Prepared)
    (output : VerifiedOutput) : Prop where
  identified : Identified job publication
  runId : prepared.identity.runId = publication.textRunId
  ranges : publication.normalized = .ok prepared.inputs.sourceRanges
  verified : prepared.output = some output
  snapshot : output.snapshotId = publication.snapshotId
  named : publication.snapshotId ≠ ""

theorem verifySparkIcebergResult_eq_ok {target : ContinuousSql.IcebergWriterTarget}
    {runId endedAt : String} {commit : StreamCommit} {expectedRowCount : Nat}
    {output : VerifiedOutput}
    (h : verifySparkIcebergResult answers job runtime target runId endedAt commit expectedRowCount
      = .ok output) : output.snapshotId = strip commit.snapshotId ∧ strip commit.snapshotId ≠ "" := by
  obtain ⟨_, -, h⟩ := bind_eq_ok.mp h
  obtain ⟨_, -, h⟩ := bind_eq_ok.mp h
  obtain ⟨_, -, h⟩ := bind_eq_ok.mp h
  obtain ⟨_, hnamed, h⟩ := bind_eq_ok.mp h
  obtain ⟨_, -, h⟩ := bind_eq_ok.mp h
  obtain ⟨_, -, h⟩ := bind_eq_ok.mp h
  obtain ⟨_, -, h⟩ := bind_eq_ok.mp h
  obtain ⟨_, -, h⟩ := bind_eq_ok.mp h
  obtain ⟨_, -, h⟩ := bind_eq_ok.mp h
  cases pure_eq_ok.mp h
  exact ⟨rfl, rejectIf_eq_ok.mp hnamed⟩

theorem verifyPublicationOutput_eq_ok {identity : PublicationIdentity} {inputs : PublicationInputs}
    {output : VerifiedOutput}
    (h : verifyPublicationOutput job runtime publication identity inputs answers = .ok output) :
    output.snapshotId = publication.snapshotId ∧ publication.snapshotId ≠ "" := by
  obtain ⟨_, -, h⟩ := bind_eq_ok.mp h
  obtain ⟨_, -, h⟩ := bind_eq_ok.mp h
  obtain ⟨commit, hcommit, h⟩ := bind_eq_ok.mp h
  obtain ⟨_, -, h⟩ := bind_eq_ok.mp h
  obtain ⟨_, -, h⟩ := bind_eq_ok.mp h
  obtain ⟨_, -, h⟩ := bind_eq_ok.mp h
  obtain ⟨_, -, h⟩ := bind_eq_ok.mp h
  have hverified := verifySparkIcebergResult_eq_ok h
  rw [StreamPublication.snapshotId, orReject_eq_ok.mp hcommit]
  exact hverified

theorem preparePublication_eq_ok {identity : PublicationIdentity} {inputs : PublicationInputs}
    (h : preparePublication env job publication identity = .ok inputs) :
    publication.normalized = .ok inputs.sourceRanges := by
  obtain ⟨_, -, h⟩ := bind_eq_ok.mp h
  obtain ⟨ranges, hranges, h⟩ := bind_eq_ok.mp h
  obtain ⟨_, -, h⟩ := bind_eq_ok.mp h
  obtain ⟨_, -, h⟩ := bind_eq_ok.mp h
  obtain ⟨_, -, h⟩ := bind_eq_ok.mp h
  obtain ⟨_, -, h⟩ := bind_eq_ok.mp h
  cases pure_eq_ok.mp h
  exact hranges

theorem prepared_eq_ok {prepared : Prepared} (hstored : 0 < publication.stored)
    (h : preparePublicationContext env job runtime publication answers = .ok prepared) :
    ∃ output, PreparedFor job publication prepared output := by
  obtain ⟨identity, hidentity, h⟩ := bind_eq_ok.mp h
  obtain ⟨inputs, hinputs, h⟩ := bind_eq_ok.mp h
  obtain ⟨verified, hverified, h⟩ := bind_eq_ok.mp h
  obtain ⟨_, -, h⟩ := bind_eq_ok.mp h
  cases pure_eq_ok.mp h
  rw [verifyOutputStage, if_neg (by omega)] at hverified
  obtain ⟨output, houtput, hsome⟩ := bind_eq_ok.mp hverified
  cases pure_eq_ok.mp hsome
  have hidentity' := mapError_eq_ok.mp (mapError_eq_ok.mp hidentity)
  obtain ⟨hsnapshot, hnamed⟩ := verifyPublicationOutput_eq_ok (mapError_eq_ok.mp houtput)
  exact ⟨output, ⟨identity, hidentity'⟩, (identity_eq_ok hidentity').2.1,
    preparePublication_eq_ok (mapError_eq_ok.mp (mapError_eq_ok.mp hinputs)), rfl, hsnapshot, hnamed⟩

theorem datasetPayload_runs {previous : Option DatasetPayload} {next : MaterializationRun}
    {output : VerifiedOutput} :
    (datasetPayload env previous next output).materializationRuns =
      upsertMaterializationRun env (previous.elim [] DatasetPayload.materializationRuns) next := by
  unfold datasetPayload
  simp only
  split
  · split <;> rfl
  · rfl

/-- The run that was there, or a new one. -/
theorem registerCatalog_eq_ok {identity : PublicationIdentity} {output : VerifiedOutput}
    {store : KafkaStore} {catalog : Option DatasetPayload} {evidence : CatalogEvidence}
    (h : registerCatalog env job publication identity (some output) answers store.catalog
      = .ok (catalog, evidence)) :
    (existingRun store.runs identity.runId ≠ none ∧ catalog = store.catalog) ∨
      (existingRun store.runs identity.runId = none ∧ ∃ mode,
        catalog.elim [] DatasetPayload.materializationRuns =
          upsertMaterializationRun env store.runs
            (sparkMaterializationRun publication identity output mode)) := by
  obtain ⟨_, -, h⟩ := bind_eq_ok.mp h
  simp only at h
  split at h
  · rename_i run hrun
    cases pure_eq_ok.mp h
    exact Or.inl ⟨fun hnone => (nomatch hnone.symm.trans hrun), rfl⟩
  · rename_i hnone
    cases pure_eq_ok.mp h
    exact Or.inr ⟨hnone, _, datasetPayload_runs⟩

theorem publishDashboard_eq_ok {identity : PublicationIdentity} {inputs : PublicationInputs}
    {output : VerifiedOutput} {evidence : CatalogEvidence} {store : KafkaStore} {live : Db}
    (h : publishDashboard env job publication identity inputs (some output) evidence answers store
      = .ok live) :
    ∃ run, publishRevision env job publication identity inputs output evidence run store.live
      = .ok live := by
  obtain ⟨_, -, h⟩ := bind_eq_ok.mp h
  simp only at h
  obtain ⟨_, -, h⟩ := bind_eq_ok.mp h
  obtain ⟨run, -, h⟩ := bind_eq_ok.mp h
  exact ⟨run, h⟩

end

/-! ## Every run of calls -/

/-- How far the batches are, between two calls. -/
inductive Reached (rt : Runtime) (job : StreamJob) (start : KafkaStore) :
    List StreamPublication → List StreamPublication → KafkaStore → Prop
  | clean {finished waiting : List StreamPublication} {store : KafkaStore}
      (hcatalog : Registered start.runs finished store.runs)
      (hlive : Committed rt job start.live.commits finished store.live) :
      Reached rt job start finished waiting store
  | registered {finished rest : List StreamPublication} {next : StreamPublication}
      {store : KafkaStore} (hcatalog : Registered start.runs (finished ++ [next]) store.runs)
      (hlive : Committed rt job start.live.commits finished store.live) :
      Reached rt job start finished (next :: rest) store
  | recorded {finished rest : List StreamPublication} {next : StreamPublication}
      {store : KafkaStore} (hcatalog : Registered start.runs (finished ++ [next]) store.runs)
      (hlive : Committed rt job start.live.commits (finished ++ [next]) store.live) :
      Reached rt job start finished (next :: rest) store

/-- What is assumed of the batches, and of the store they start from. -/
structure Admissible (rt : Runtime) (job : StreamJob) (publications : List StreamPublication)
    (start : KafkaStore) : Prop where
  free : rt.CollisionFree { text | text ∈ publicationTexts publications }
  ascending : publications.Pairwise StreamPublication.Precedes
  stored : ∀ publication ∈ publications, 0 < publication.stored
  unpublished : Unpublished job publications start

structure Halfway (rt : Runtime) (job : StreamJob) (publications : List StreamPublication)
    (start : KafkaStore) (s : Deliveries) : Prop where
  split : s.finished ++ s.waiting = publications
  identified : ∀ publication ∈ s.finished, Identified job publication
  reached : Reached rt job start s.finished s.waiting s.store

section
variable {env : StreamEnv} {job : StreamJob} {runtime : StreamRuntime}
  {publications finished rest : List StreamPublication} {next : StreamPublication}
  {start store : KafkaStore} {answers : StageAnswers}

theorem runIds_nodup (hascending : publications.Pairwise StreamPublication.Precedes)
    (hidentified : ∀ publication ∈ publications, Identified job publication) :
    (publications.map StreamPublication.textRunId).Nodup := by
  rw [List.Nodup, List.pairwise_map]
  exact hascending.imp_of_mem fun ha hb hprecedes =>
    runId_ne (hidentified _ ha) (hidentified _ hb) hprecedes

/-- No revision has the run id of a publication that has none. -/
theorem Committed.unknown {rt : Runtime} {commits : List RevisionCommit} {live : Db}
    (h : Committed rt job commits finished live)
    (hstart : ∀ commit ∈ commits, commit.runId ≠ next.textRunId)
    (hnew : ∀ other ∈ finished, other.textRunId ≠ next.textRunId) :
    commitByRunId live next.textRunId = none := by
  refine List.find?_eq_none.mpr fun commit hcommit => ?_
  simp only [decide_eq_true_eq]
  intro hid
  by_cases hdataset : commit.datasetId = job.datasetId
  · obtain ⟨other, hother, hof⟩ := exists_left_of_mem h.revisions
      (List.mem_filter.mpr ⟨hcommit, by simpa using hdataset⟩)
    exact hnew other hother (hof.runId.symm.trans hid)
  · exact hstart commit (h.known commit hcommit hdataset) hid

/-- The catalog's commit: afterwards the run is there, whichever call has written it. -/
theorem Reached.register {identity : PublicationIdentity} {output : VerifiedOutput}
    {catalog : Option DatasetPayload} {evidence : CatalogEvidence}
    (h : Reached env.toRuntime job start finished (next :: rest) store)
    (hids : ((finished ++ [next]).map StreamPublication.textRunId).Nodup)
    (hruns : ∀ run ∈ start.runs, ∀ publication ∈ finished ++ [next],
      run.runId ≠ publication.textRunId)
    (hidentified : Identified job next) (hrun : identity.runId = next.textRunId)
    (hsnapshot : output.snapshotId = next.snapshotId) (hnamed : next.snapshotId ≠ "")
    (hok : registerCatalog env job next identity (some output) answers store.catalog
      = .ok (catalog, evidence)) :
    Registered start.runs (finished ++ [next]) (KafkaStore.runs { store with catalog }) ∧
      (Committed env.toRuntime job start.live.commits finished store.live ∨
        Committed env.toRuntime job start.live.commits (finished ++ [next]) store.live) := by
  rcases registerCatalog_eq_ok hok with ⟨hthere, rfl⟩ | ⟨hnone, mode, hnew⟩
  · rw [hrun] at hthere
    cases h with
    | clean hcatalog hlive =>
        rw [List.map_append, List.nodup_append] at hids
        refine absurd (hcatalog.existingRun_none (fun run hold => ?_) fun other hother => ?_) hthere
        · exact hruns run hold next (List.mem_append_right _ List.mem_cons_self)
        · exact hids.2.2 _ (List.mem_map_of_mem hother) _ List.mem_cons_self
    | registered hcatalog hlive => exact ⟨hcatalog, Or.inl hlive⟩
    | recorded hcatalog hlive => exact ⟨hcatalog, Or.inr hlive⟩
  · rw [hrun] at hnone
    cases h with
    | clean hcatalog hlive =>
        refine ⟨?_, Or.inl hlive⟩
        show Registered start.runs (finished ++ [next])
          (catalog.elim [] DatasetPayload.materializationRuns)
        rw [hnew]
        exact hcatalog.snoc hids
          (fun run hold publication hmem =>
            hruns run hold publication (List.mem_append_left _ hmem))
          ⟨hrun, hsnapshot⟩ rfl (textRunId_ne_empty hidentified) hnamed
    | registered hcatalog _ =>
        obtain ⟨run, hsome⟩ := hcatalog.existingRun_some
        exact nomatch hnone.symm.trans hsome
    | recorded hcatalog _ =>
        obtain ⟨run, hsome⟩ := hcatalog.existingRun_some
        exact nomatch hnone.symm.trans hsome

/-- What the commits of a call leave. -/
structure Leaves (rt : Runtime) (job : StreamJob) (start : KafkaStore)
    (finished rest : List StreamPublication) (next : StreamPublication) (store : KafkaStore)
    (executed : Executed) : Prop where
  between : ∀ left ∈ executed.commits, Reached rt job start finished (next :: rest) left
  done : executed.failure = none → Identified job next ∧
    Reached rt job start (finished ++ [next]) rest (executed.commits.getLastD store)

theorem Reached.execute (hadmissible : Admissible env.toRuntime job publications start)
    (hsplit : finished ++ next :: rest = publications)
    (hfinished : ∀ publication ∈ finished, Identified job publication)
    (h : Reached env.toRuntime job start finished (next :: rest) store) :
    Leaves env.toRuntime job start finished rest next store
      (executeContinuousPublication env job runtime next answers store) := by
  have hmem : ∀ publication ∈ finished ++ [next], publication ∈ publications := by
    intro publication hpublication
    rw [← hsplit]
    rcases List.mem_append.mp hpublication with hold | hlast
    · exact List.mem_append_left _ hold
    · rw [List.mem_singleton.mp hlast]
      exact List.mem_append_right _ List.mem_cons_self
  have hlast : next ∈ finished ++ [next] := List.mem_append_right _ List.mem_cons_self
  have hascending : (finished ++ next :: rest).Pairwise StreamPublication.Precedes :=
    hsplit ▸ hadmissible.ascending
  have hprecedes : ∀ other ∈ finished, other.Precedes next := fun other hother =>
    (List.pairwise_append.mp hascending).2.2 other hother next List.mem_cons_self
  have hascending' : (finished ++ [next]).Pairwise StreamPublication.Precedes :=
    List.pairwise_append.mpr ⟨(List.pairwise_append.mp hascending).1, List.pairwise_singleton ..,
      fun other hother last hsingle => List.mem_singleton.mp hsingle ▸ hprecedes other hother⟩
  unfold executeContinuousPublication
  split
  · exact ⟨fun _ hleft => (nomatch hleft), fun hnone => (nomatch hnone)⟩
  · rename_i prepared hprepared
    obtain ⟨output, hfor⟩ := prepared_eq_ok (hadmissible.stored next (hmem next hlast)) hprepared
    have hidentified : ∀ publication ∈ finished ++ [next], Identified job publication := by
      intro publication hpublication
      rcases List.mem_append.mp hpublication with hold | hsingle
      · exact hfinished publication hold
      · exact List.mem_singleton.mp hsingle ▸ hfor.identified
    have hids := runIds_nodup hascending' hidentified
    split
    · exact ⟨fun _ hleft => (nomatch hleft), fun hnone => (nomatch hnone)⟩
    · rename_i catalog evidence hcatalog
      rw [hfor.verified] at hcatalog
      obtain ⟨hregistered, hlive⟩ := h.register hids
        (fun run hrun publication hpublication =>
          hadmissible.unpublished.runs run hrun publication (hmem publication hpublication))
        hfor.identified hfor.runId hfor.snapshot hfor.named hcatalog
      have hbetween : Reached env.toRuntime job start finished (next :: rest)
          { store with catalog } := by
        rcases hlive with hbefore | hafter
        · exact .registered hregistered hbefore
        · exact .recorded hregistered hafter
      have hstart : ∀ commit ∈ start.live.commits, commit.runId ≠ next.textRunId :=
        fun commit hcommit =>
          (hadmissible.unpublished.commits commit hcommit).2 next (hmem next hlast)
      simp only
      split
      · exact ⟨fun left hleft => List.mem_singleton.mp hleft ▸ hbetween,
          fun hnone => (nomatch hnone)⟩
      · rename_i live hdashboard
        rw [hfor.verified] at hdashboard
        obtain ⟨run, hpublish⟩ := publishDashboard_eq_ok hdashboard
        have hpublished : Committed env.toRuntime job start.live.commits (finished ++ [next]) live := by
          rcases hlive with hbefore | hafter
          · have hnew : ∀ other ∈ finished, other.textRunId ≠ next.textRunId := by
              rw [List.map_append, List.nodup_append] at hids
              exact fun other hother =>
                hids.2.2 _ (List.mem_map_of_mem hother) _ List.mem_cons_self
            exact hbefore.publish hadmissible.free
              (fun other hother _ hranges => mem_publicationTexts (hmem other hother) hranges)
              hprecedes hfor.runId hfor.ranges
              (hfor.runId ▸ hbefore.unknown hstart hnew) hpublish
          · exact (hafter.republish hstart hfor.runId hpublish) ▸ hafter
        refine ⟨fun left hleft => ?_, fun _ => ⟨hfor.identified, .clean hregistered hpublished⟩⟩
        rcases List.mem_cons.mp hleft with rfl | hsecond
        · exact hbetween
        · rw [List.mem_singleton.mp hsecond]
          exact .recorded hregistered hpublished

theorem Halfway.step {s : Deliveries} (hadmissible : Admissible env.toRuntime job publications start)
    (h : Halfway env.toRuntime job publications start s) (call : PublicationCall) :
    Halfway env.toRuntime job publications start (s.step env job runtime call) := by
  obtain ⟨store, finished, waiting⟩ := s
  cases waiting with
  | nil => exact h
  | cons next rest =>
      have hleaves : Leaves env.toRuntime job start finished rest next store
          (executeContinuousPublication env job runtime next call.answers store) :=
        h.reached.execute hadmissible h.split h.identified
      unfold Deliveries.step
      simp only
      split
      · rename_i hsucceeds
        simp only [Deliveries.succeeds, Bool.and_eq_true, Option.isNone_iff_eq_none] at hsucceeds
        obtain ⟨hidentified, hreached⟩ := hleaves.done hsucceeds.2
        refine ⟨?_, ?_, ?_⟩
        · rw [← h.split]
          exact List.append_assoc ..
        · intro publication hpublication
          rcases List.mem_append.mp hpublication with hold | hlast
          · exact h.identified publication hold
          · exact List.mem_singleton.mp hlast ▸ hidentified
        · rw [Deliveries.attempt, hsucceeds.1]
          exact hreached
      · refine ⟨h.split, h.identified, ?_⟩
        show Reached env.toRuntime job start finished (next :: rest)
          (Deliveries.attempt env job runtime next call store)
        have hleft : ∀ commits : List KafkaStore, (∀ left ∈ commits, left ∈
            (executeContinuousPublication env job runtime next call.answers store).commits) →
            Reached env.toRuntime job start finished (next :: rest) (commits.getLastD store) := by
          intro commits hcommits
          rcases List.mem_cons.mp (@List.getLastD_mem_cons _ commits store) with hsame | hlast
          · rw [hsame]
            exact h.reached
          · exact hleaves.between _ (hcommits _ hlast)
        unfold Deliveries.attempt
        simp only
        split
        · exact hleft _ fun _ hmem => hmem
        · exact hleft _ fun _ hmem => List.mem_of_mem_take hmem

theorem Admissible.halfway (h : Admissible env.toRuntime job publications start) :
    Halfway env.toRuntime job publications start ⟨start, [], publications⟩ := by
  have hnone : revisionsOf job start.live = [] := by
    refine List.filter_eq_nil_iff.mpr fun commit hcommit => ?_
    simpa using (h.unpublished.commits commit hcommit).1
  refine ⟨rfl, fun _ hmem => (nomatch hmem), .clean (registered_nil fun _ hrun => hrun) ?_⟩
  refine ⟨fun _ hcommit _ => hcommit, ?_, ?_, ?_, fun key => ?_⟩
  · rw [hnone]
    exact .nil
  · rw [hnone]
    exact .nil
  · rw [hnone]
    exact fun _ hmem => nomatch hmem
  · rw [cursorOf, h.unpublished.cursors key]
    rfl

theorem Registered.allPublished (hcatalog : Registered start.runs publications store.runs)
    (hlive : Committed env.toRuntime job start.live.commits publications store.live) :
    AllPublished job publications store where
  runs := hcatalog.counted
  revisions := by
    have hsame : ∀ {xs : List StreamPublication} {ys : List RevisionCommit},
        List.Forall₂ (RevisionOf env.toRuntime) xs ys →
          ys.map RevisionCommit.runId = xs.map StreamPublication.textRunId := by
      intro xs ys hforall
      induction hforall with
      | nil => rfl
      | cons hfirst _ ih => rw [List.map_cons, List.map_cons, hfirst.runId, ih]
    exact hsame hlive.revisions
  ordered := hlive.ordered
  cursors := hlive.cursors

end

/-- Once the last batch has succeeded, all are published, wherever calls have stopped. -/
theorem staged_batches_published (env : StreamEnv) (job : StreamJob) (runtime : StreamRuntime)
    (publications : List StreamPublication) (start : KafkaStore)
    (hadmissible : Admissible env.toRuntime job publications start) (calls : List PublicationCall)
    (hdone : (play (Deliveries.step env job runtime) ⟨start, [], publications⟩ calls).waiting = []) :
    AllPublished job publications
      (play (Deliveries.step env job runtime) ⟨start, [], publications⟩ calls).store := by
  have hkeep : ∀ (s : Deliveries) call, Halfway env.toRuntime job publications start s →
      Halfway env.toRuntime job publications start (s.step env job runtime call) :=
    fun _ call hs => hs.step hadmissible call
  have hend : Halfway env.toRuntime job publications start
      (play (Deliveries.step env job runtime) ⟨start, [], publications⟩ calls) :=
    play_induct hkeep hadmissible.halfway
  generalize play (Deliveries.step env job runtime) ⟨start, [], publications⟩ calls = final
    at hdone hend
  obtain ⟨store, finished, waiting⟩ := final
  simp only at hdone
  subst hdone
  have hsplit : finished = publications := by
    have hall := hend.split
    rwa [List.append_nil] at hall
  subst hsplit
  cases hend.reached with
  | clean hcatalog hlive => exact hcatalog.allPublished hlive

/-! ## Two batches -/

/-- SHA-256 of the range lists of the batches below. -/
def ticketDigests : List (String × String) :=
  [("[\x7b\"endOffset\":1,\"partition\":0,\"startOffset\":0,\"topic\":\"tickets\"\x7d]",
    "ee7af188ca4b9cdd170abf2543d8ee2611e896337d363ec79461d0a21f28ceab"),
   ("[\x7b\"endOffset\":2,\"partition\":0,\"startOffset\":1,\"topic\":\"tickets\"\x7d]",
    "2e445ae1aa88073f41d84934e3bb4bdc58629701ece09268296a2311c067cbb0")]

def ticketsEnv : StreamEnv where
  sha256 := fun text => ((ticketDigests.find? fun entry => entry.1 = text).map Prod.snd).getD
    "e3b0c44298fc1c149afbf4c8996fb92427ae41e4649b934ca495991b7852b855"
  lower := fun text => String.ofList (text.toList.map Char.toLower)
  casefold := fun text => String.ofList (text.toList.map Char.toLower)
  fromIsoFormat := fun text => if text = "2026-07-14T14:54:58+00:00" then some 1 else none
  canonicalStoragePath := fun path => path

def ticketsTarget : ContinuousSql.IcebergWriterTarget where
  catalog := "iceberg"
  namespace_ := "lake"
  table := "tickets"
  writeMode := "append"

def ticketsJob : StreamJob where
  id := "tickets-job"
  datasetId := "tickets"
  targetRoot := "s3a://lake/tickets"
  icebergTarget := some ticketsTarget
  schemaFingerprint := ""
  ruleFingerprint := .ok "rules-1"
  triggerIntervalSeconds := some 10

def ticketsRuntime : StreamRuntime where
  checkpointPath := "s3a://lake/checkpoints/tickets"
  consumerGroupId := "tickets-group"
  topic := "tickets"
  storedCount := 2

/-- A batch of one row, at the offset of its number. -/
def ticketsBatch (n : Nat) (snapshotId : String) : StreamPublication :=
  let runId := s!"continuous:tickets-job:batch:{n}:b"
  let ranges := RangesArgument.list [.object ⟨"tickets", some 0, some n, some (n + 1)⟩]
  let boundary : StreamBoundary :=
    { kind := "kafka_continuous_batch"
      jobId := "tickets-job"
      batchId := some (n : Int)
      runId
      checkpointPath := "s3a://lake/checkpoints/tickets"
      consumerGroupId := "tickets-group"
      topic := "tickets"
      boundaryId := "b"
      sourceRanges := ranges }
  { batchId := some (n : Int)
    runId := some runId
    storedCount := some 1
    dataPath := some "iceberg://iceberg/lake/tickets"
    manifestPath := some s!"s3a://lake/tickets/_batch-manifests/batch_id={n}"
    sourceRanges := ranges
    sourceBoundary := some boundary
    icebergCommit := some
      ⟨"tickets-job", runId, some ticketsTarget, snapshotId, "", "rules-1", some boundary⟩ }

def ticketsAnswers : StageAnswers where
  writer :=
    { describeTable := fun _ => .ok ()
      snapshot := fun _ id => .ok (id, "2026-07-14T14:54:58Z", "s3a://warehouse/tickets")
      countRunRows := fun _ _ _ => .ok 1 }
  storageMetrics := .ok (2, 200)
  now := "2026-07-14T15:00:00Z"

/-- The first call of each batch stops, after one commit and after two. -/
def ticketsCalls : List PublicationCall :=
  [⟨ticketsAnswers, some 1⟩, ⟨ticketsAnswers, none⟩, ⟨ticketsAnswers, some 2⟩,
    ⟨ticketsAnswers, none⟩]

def ticketsEnd (publications : List StreamPublication) (calls : List PublicationCall) :
    Deliveries :=
  play (Deliveries.step ticketsEnv ticketsJob ticketsRuntime) ⟨{}, [], publications⟩ calls

theorem tickets_normalized (n : Nat) (snapshotId : String) :
    (ticketsBatch n snapshotId).normalized = (ticketsBatch n "").normalized := rfl

theorem tickets_admissible (first second : String) :
    Admissible ticketsEnv.toRuntime ticketsJob [ticketsBatch 0 first, ticketsBatch 1 second] {} where
  free := by
    refine collisionFree_of_pairwise ?_
    simp only [publicationTexts, List.filterMap_cons, tickets_normalized]
    decide +kernel
  ascending := by
    refine List.pairwise_pair.mpr ⟨?_, ?_⟩
    · rintro m n ⟨⟩ ⟨⟩
      decide
    · simp only [StreamPublication.ranges, tickets_normalized]
      decide +kernel
  stored := by
    intro publication hmem
    rcases List.mem_cons.mp hmem with rfl | hmem
    · exact Nat.one_pos
    · rw [List.mem_singleton.mp hmem]
      exact Nat.one_pos
  unpublished := ⟨fun _ h => (nomatch h), fun _ h => (nomatch h), fun _ => rfl⟩

theorem tickets_published :
    AllPublished ticketsJob [ticketsBatch 0 "101", ticketsBatch 1 "102"]
      (ticketsEnd [ticketsBatch 0 "101", ticketsBatch 1 "102"] ticketsCalls).store :=
  staged_batches_published ticketsEnv ticketsJob ticketsRuntime _ {} (tickets_admissible _ _) _
    (List.isEmpty_iff.mp (by decide +kernel))

/-- Two batches that name one snapshot: the run of the first one is dropped by the second. -/
theorem tickets_dropped :
    Admissible ticketsEnv.toRuntime ticketsJob [ticketsBatch 0 "101", ticketsBatch 1 "101"] {} ∧
      (ticketsEnd [ticketsBatch 0 "101", ticketsBatch 1 "101"]
        [⟨ticketsAnswers, none⟩, ⟨ticketsAnswers, none⟩]).waiting = [] ∧
      ¬ ∀ publication ∈ [ticketsBatch 0 "101", ticketsBatch 1 "101"],
        runCount (ticketsEnd [ticketsBatch 0 "101", ticketsBatch 1 "101"]
          [⟨ticketsAnswers, none⟩, ⟨ticketsAnswers, none⟩]).store.runs publication = 1 := by
  refine ⟨tickets_admissible _ _, ?_⟩
  simp only [← List.isEmpty_iff]
  decide +kernel

end AskLake.KafkaPublication

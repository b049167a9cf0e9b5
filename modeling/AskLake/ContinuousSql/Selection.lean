/-
# `AskLake.ContinuousSql.Selection` — the scan for source commits

`_source_commits_for_evidence` scans the stream commits above the watermark of
the binding, in the order of their revisions, until their ranges cover those of
the publication.  `Readable` commits are those the scan can read together: Kafka
ranges, none of which overlap.  On them the scan never raises, and

    selected    the shortest prefix that covers the target
    pending     all of the commits together do not cover it

(`selectCommits_spec`).  `completedCommit_eq` says the same of the search for the
commit whose end the merged offsets have passed.
-/
import Mathlib.Data.List.Flatten
import AskLake.ContinuousSql.Publication
import AskLake.Dashboard.StreamGrowth

namespace AskLake.ContinuousSql

open AskLake.Lib AskLake.Python AskLake.Kafka AskLake.Dashboard

/-- The Kafka ranges of a commit. -/
def kafkaItems (commit : RevisionCommit) : List KafkaRange :=
  match commit.sourceRanges with
  | .kafka ranges => ranges.items
  | .boundary _ => []
  | .ingest _ => []

/-- An offset of one of the commits. -/
def Offers (commits : List RevisionCommit) (key : PartitionKey) (o : Int) : Prop :=
  ∃ commit ∈ commits, CoveredBy (kafkaItems commit) key o

/-- The commits offer every offset of the target. -/
def Covered (commits : List RevisionCommit) (target : KafkaRanges) : Prop :=
  ∀ key o, CoveredBy target.items key o → Offers commits key o

/-- Ranges that do not overlap. -/
def ApartRanges (a b : KafkaRange) : Prop :=
  a.key = b.key → a.endOffset ≤ b.startOffset ∨ b.endOffset ≤ a.startOffset

structure Readable (commits : List RevisionCommit) : Prop where
  stream : ∀ commit ∈ commits, commit.commitKind = .stream
  kafka : ∀ commit ∈ commits, ∃ ranges, commit.sourceRanges = .kafka ranges ∧ ranges.items ≠ []
  apart : (commits.flatMap kafkaItems).Pairwise ApartRanges

/-- The stream commits above a revision. -/
def laterCommits (db : Db) (datasetId : String) (afterRevision : Nat) : List RevisionCommit :=
  (streamCommits db datasetId).filter fun commit => afterRevision < commit.revision

section
variable {commits before rest : List RevisionCommit} {target : KafkaRanges}

theorem Readable.sublist {some : List RevisionCommit} (h : Readable commits)
    (hsub : some.Sublist commits) : Readable some where
  stream := fun commit hc => h.stream commit (hsub.subset hc)
  kafka := fun commit hc => h.kafka commit (hsub.subset hc)
  apart := h.apart.sublist (hsub.flatMap kafkaItems)

theorem items_of_kafka {commit : RevisionCommit} {ranges : KafkaRanges}
    (h : commit.sourceRanges = .kafka ranges) :
    commit.sourceRanges.items = (kafkaItems commit).map KafkaRange.item := by
  unfold kafkaItems
  rw [h]
  rfl

/-- The documents of readable commits are those of their ranges. -/
theorem Readable.items (h : Readable commits) :
    commits.flatMap (fun commit => commit.sourceRanges.items) =
      (commits.flatMap kafkaItems).map KafkaRange.item := by
  rw [List.map_flatMap]
  refine List.flatMap_congr fun commit hc => ?_
  obtain ⟨ranges, hranges, -⟩ := h.kafka commit hc
  exact items_of_kafka hranges

/-- Readable commits have a coverage, and it is their offsets. -/
theorem Readable.coverage (h : Readable commits) (hne : commits ≠ []) : ∃ ranges,
    sourceRangeCoverage (commits.flatMap fun commit => commit.sourceRanges.items) =
      .ok (coverageOf ranges) ∧ ∀ key o, CoveredBy ranges.items key o ↔ Offers commits key o := by
  have hitems : commits.flatMap kafkaItems ≠ [] := by
    obtain ⟨commit, hc⟩ := List.exists_mem_of_ne_nil _ hne
    obtain ⟨ranges, hranges, hsome⟩ := h.kafka commit hc
    intro hnil
    refine hsome ?_
    have hempty := List.flatMap_eq_nil_iff.mp hnil commit hc
    unfold kafkaItems at hempty
    rw [hranges] at hempty
    exact hempty
  obtain ⟨ranges, hnormal, hmem⟩ := normalizeKafkaSourceRanges_apart hitems h.apart
  refine ⟨ranges, ?_, fun key o => ?_⟩
  · rw [h.items, sourceRangeCoverage, hnormal]
    rfl
  · constructor
    · rintro ⟨r, hr, hkey, ho⟩
      obtain ⟨commit, hc, hr⟩ := List.mem_flatMap.mp ((hmem r).mp hr)
      exact ⟨commit, hc, r, hr, hkey, ho⟩
    · rintro ⟨commit, hc, r, hr, hkey, ho⟩
      exact ⟨r, (hmem r).mpr (List.mem_flatMap.mpr ⟨commit, hc, hr⟩), hkey, ho⟩

/-- Commits of other kinds are passed over. -/
theorem selectCommits_filter (target : KafkaRanges) (selected : List RevisionCommit)
    (collected : List RangeItem) (commits : List RevisionCommit) :
    selectCommits target selected collected commits = selectCommits target selected collected
      (commits.filter fun commit => commit.commitKind = .stream) := by
  induction commits generalizing selected collected with
  | nil => rfl
  | cons commit rest ih =>
      by_cases hkind : commit.commitKind = .stream
      · rw [List.filter_cons_of_pos (by simpa using hkind), selectCommits, selectCommits,
          if_neg (not_not.mpr hkind), if_neg (not_not.mpr hkind)]
        simp only [ih]
      · rw [List.filter_cons_of_neg (by simpa using hkind), selectCommits, if_pos hkind, ih]

/-- The scan, after the commits `before`. -/
theorem selectCommits_from (hne : target.items ≠ []) (h : Readable (before ++ rest)) :
    (∃ front last back, rest = front ++ last :: back ∧
      selectCommits target before
        (before.flatMap fun commit => commit.sourceRanges.items) rest =
          .ok (.selected (before ++ front ++ [last])) ∧
      Covered (before ++ front ++ [last]) target ∧
      (front = [] ∨ ¬ Covered (before ++ front) target)) ∨
    (selectCommits target before
        (before.flatMap fun commit => commit.sourceRanges.items) rest = .ok .pending ∧
      (rest = [] ∨ ¬ Covered (before ++ rest) target)) := by
  induction rest generalizing before with
  | nil => exact Or.inr ⟨rfl, Or.inl rfl⟩
  | cons commit rest ih =>
      have hsplit : before ++ commit :: rest = before ++ [commit] ++ rest := by simp
      have hread : Readable (before ++ [commit]) :=
        h.sublist (hsplit ▸ List.sublist_append_left _ _)
      have hstream : commit.commitKind = .stream := h.stream commit (by simp)
      obtain ⟨ranges, hcoverage, hoffers⟩ := hread.coverage (by simp)
      have hitems : (before ++ [commit]).flatMap (fun commit => commit.sourceRanges.items) =
          (before.flatMap fun commit => commit.sourceRanges.items) ++
            commit.sourceRanges.items := by simp
      have htarget : sourceRangeCoverage target.documents = .ok (coverageOf target) := by
        rw [sourceRangeCoverage, normalizeKafkaSourceRanges_required hne]
        rfl
      have hcovered : coverageContains (coverageOf ranges) (coverageOf target) = true ↔
          Covered (before ++ [commit]) target := by
        rw [coverageContains_iff]
        refine forall_congr' fun key => forall_congr' fun o => imp_congr_right fun _ => ?_
        exact hoffers key o
      have hstep : selectCommits target before
          (before.flatMap fun commit => commit.sourceRanges.items) (commit :: rest) =
          if coverageContains (coverageOf ranges) (coverageOf target) = true then
            .ok (.selected (before ++ [commit]))
          else selectCommits target (before ++ [commit])
            ((before ++ [commit]).flatMap fun commit => commit.sourceRanges.items) rest := by
        rw [selectCommits, if_neg (not_not.mpr hstream), ← hitems, hcoverage, htarget]
        rfl
      rw [hstep]
      by_cases hcontains : coverageContains (coverageOf ranges) (coverageOf target) = true
      · refine Or.inl ⟨[], commit, rest, rfl, ?_, ?_, Or.inl rfl⟩
        · rw [if_pos hcontains, List.append_nil]
        · rw [List.append_nil]
          exact hcovered.mp hcontains
      · have hshort : ¬ Covered (before ++ [commit]) target := fun hc => hcontains (hcovered.mpr hc)
        rw [if_neg hcontains]
        rcases ih (hsplit ▸ h) with ⟨front, last, back, rfl, hselect, hall, hprefix⟩ |
            ⟨hpending, hrest⟩
        · refine Or.inl ⟨commit :: front, last, back, rfl, ?_, ?_, Or.inr ?_⟩
          · rw [hselect]
            simp
          · simpa using hall
          · rcases hprefix with rfl | hprefix
            · exact hshort
            · simpa using hprefix
        · refine Or.inr ⟨hpending, Or.inr ?_⟩
          rcases hrest with rfl | hrest
          · exact hshort
          · rw [hsplit]
            exact hrest

theorem not_covered_nil (hne : target.items ≠ []) : ¬ Covered [] target := by
  intro h
  obtain ⟨r, hr⟩ := List.exists_mem_of_ne_nil _ hne
  obtain ⟨_, hc, -⟩ := h r.key r.startOffset ⟨r, hr, rfl, le_refl _, r.nonempty⟩
  exact nomatch hc

/-- The whole scan. -/
theorem selectCommits_spec (hne : target.items ≠ []) (h : Readable commits) :
    (∃ front last back, commits = front ++ last :: back ∧
      selectCommits target [] [] commits = .ok (.selected (front ++ [last])) ∧
      Covered (front ++ [last]) target ∧ ¬ Covered front target) ∨
    (selectCommits target [] [] commits = .ok .pending ∧ ¬ Covered commits target) := by
  have hscan := @selectCommits_from [] commits target hne h
  simp only [List.flatMap_nil, List.nil_append] at hscan
  rcases hscan with ⟨front, last, back, heq, hselect, hall, hprefix⟩ | ⟨hpending, hrest⟩
  · refine Or.inl ⟨front, last, back, heq, hselect, hall, ?_⟩
    rcases hprefix with rfl | hprefix
    · exact not_covered_nil hne
    · exact hprefix
  · refine Or.inr ⟨hpending, ?_⟩
    rcases hrest with rfl | hrest
    · exact not_covered_nil hne
    · exact hrest

/-! ## The commit that was passed -/

/-- The offsets have passed the end of every range of the commit. -/
def Passed (nextOffsets : List NextOffset) (commit : RevisionCommit) : Prop :=
  ∀ r ∈ kafkaItems commit, r.endOffset ≤ cursorAt nextOffsets r.key

instance (nextOffsets : List NextOffset) (commit : RevisionCommit) :
    Decidable (Passed nextOffsets commit) := inferInstanceAs (Decidable (∀ r ∈ _, _))

theorem sourceRangesConsumed_eq {nextOffsets : List NextOffset} {commit : RevisionCommit}
    {ranges : KafkaRanges} (hranges : commit.sourceRanges = .kafka ranges)
    (hne : ranges.items ≠ []) : sourceRangesConsumed commit.sourceRanges.items nextOffsets =
      .ok (decide (Passed nextOffsets commit)) := by
  have hitems : kafkaItems commit = ranges.items := by
    unfold kafkaItems
    rw [hranges]
  rw [hranges]
  show sourceRangesConsumed ranges.documents nextOffsets = _
  rw [sourceRangesConsumed, normalizeKafkaSourceRanges_required hne]
  show Except.ok (consumedBy ranges nextOffsets) = _
  congr 1
  rw [consumedBy, Bool.eq_iff_iff, List.all_eq_true, decide_eq_true_eq, Passed, hitems]
  simp only [decide_eq_true_eq]

theorem completedCommit_eq {nextOffsets : List NextOffset}
    (h : ∀ commit ∈ commits, ∃ ranges, commit.sourceRanges = .kafka ranges ∧ ranges.items ≠ []) :
    completedCommit nextOffsets commits =
      .ok (commits.find? fun commit => Passed nextOffsets commit) := by
  induction commits with
  | nil => rfl
  | cons commit older ih =>
      obtain ⟨ranges, hranges, hne⟩ := h commit List.mem_cons_self
      rw [completedCommit, sourceRangesConsumed_eq hranges hne, List.find?_cons,
        ih fun older hold => h older (List.mem_cons_of_mem _ hold)]
      by_cases hpassed : Passed nextOffsets commit
      · simp only [hpassed, decide_true]
        rfl
      · simp only [hpassed, decide_false]
        rfl

end

/-! ## Commits of the store -/

section
variable {db : Db} {datasetId : String}

theorem rangesAt_eq (commit : RevisionCommit) (key : PartitionKey) :
    rangesAt commit key = (kafkaItems commit).filter fun r => r.key = key := by
  unfold rangesAt kafkaItems
  cases commit.sourceRanges <;> rfl

theorem mem_laterCommits {afterRevision : Nat} {commit : RevisionCommit} :
    commit ∈ laterCommits db datasetId afterRevision ↔
      commit ∈ streamCommits db datasetId ∧ afterRevision < commit.revision := by
  rw [laterCommits, List.mem_filter, decide_eq_true_eq]

theorem pairwise_of_filters {κ α : Type} [DecidableEq κ] (key : α → κ) {R : α → α → Prop} :
    ∀ {items : List α}, (∀ k, (items.filter fun x => key x = k).Pairwise R) →
      items.Pairwise fun a b => key a = key b → R a b
  | [], _ => .nil
  | x :: items, h => by
      refine List.pairwise_cons.mpr ⟨fun y hy hkey => ?_, pairwise_of_filters key fun k => ?_⟩
      · have hx := h (key x)
        rw [List.filter_cons_of_pos (by simp), List.pairwise_cons] at hx
        exact hx.1 y (List.mem_filter.mpr ⟨hy, decide_eq_true hkey.symm⟩)
      · exact (h k).sublist ((List.sublist_cons_self _ _).filter _)

theorem readable_streamCommits (h : SourceLog db datasetId) :
    Readable (streamCommits db datasetId) where
  stream := fun commit hc => (mem_streamCommits.mp hc).2.2
  kafka := fun commit hc => h.streams commit hc (mem_streamCommits.mp hc).2.2
  apart := by
    have hfilters : ∀ key, (((streamCommits db datasetId).flatMap kafkaItems).filter
        fun r => r.key = key).Pairwise fun a b => a.endOffset ≤ b.startOffset := by
      intro key
      have hordered := h.ordered key
      unfold streamRanges at hordered
      simp only [rangesAt_eq] at hordered
      rw [List.filter_flatMap]
      exact hordered
    exact (pairwise_of_filters KafkaRange.key hfilters).imp fun hle hkey => Or.inl (hle hkey)

theorem readable_laterCommits (h : SourceLog db datasetId) (afterRevision : Nat) :
    Readable (laterCommits db datasetId afterRevision) :=
  (readable_streamCommits h).sublist List.filter_sublist

/-- The stream commits that `list_commits` finds, in order. -/
theorem listCommits_stream (h : SourceLog db datasetId) (afterRevision : Nat) :
    (listCommits db datasetId afterRevision).filter (fun commit => commit.commitKind = .stream) =
      laterCommits db datasetId afterRevision := by
  have hlater : (laterCommits db datasetId afterRevision).Pairwise
      fun a b => a.revision < b.revision := h.growing.filter _
  have hsorted : ((listCommits db datasetId afterRevision).filter
      fun commit => commit.commitKind = .stream).Pairwise fun a b => a.revision ≤ b.revision :=
    (List.pairwise_insertionSort _ _).filter _
  have hperm : ((listCommits db datasetId afterRevision).filter
      fun commit => commit.commitKind = .stream).Perm
        (laterCommits db datasetId afterRevision) := by
    refine ((List.perm_insertionSort _ _).filter _).trans (List.Perm.of_eq ?_)
    rw [laterCommits, streamCommits, List.filter_filter, List.filter_filter]
    refine List.filter_congr fun commit _ => ?_
    by_cases h₁ : commit.datasetId = datasetId <;> by_cases h₂ : commit.commitKind = .stream <;>
      simp [h₁, h₂]
  refine hperm.eq_of_pairwise (fun a b ha hb hab hba => ?_) hsorted (hlater.imp fun h => h.le)
  have hranked : (laterCommits db datasetId afterRevision).Pairwise
      fun a b => () = () → a.revision < b.revision := hlater.imp fun h _ => h
  exact eq_of_ranked hranked (hperm.subset ha) hb rfl (le_antisymm hab hba)

end

end AskLake.ContinuousSql

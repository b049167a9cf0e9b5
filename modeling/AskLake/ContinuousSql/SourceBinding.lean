/-
# `AskLake.ContinuousSql.SourceBinding` — one watermark over several partitions

The binding remembers a revision of its source and, per partition, the next
offset.  A publication may take part of several commits, and the watermark moves
to the newest commit that it selected and whose ends the offsets have passed:

    commit 1     p0 [0, 10)     p1 [0, 10)
    commit 2     p0 [10, 20)
    publication  p0 [0, 20)                    watermark 2, p1 [0, 10) never read

`NothingBehind` is the condition under which this does not happen: where the
offsets pass the end of a commit that the scan selects, no offset of it, or of a
commit between it and the watermark, is left unread.
-/
import AskLake.ContinuousSql.Delivery

namespace AskLake.ContinuousSql

open AskLake.Lib AskLake.Python AskLake.Kafka AskLake.Events AskLake.Dashboard

/-- An offset in the ranges that the binding was advanced by. -/
def AppliedOffset (s : Session) (key : PartitionKey) (o : Int) : Prop :=
  ∃ entry ∈ s.applied, CoveredBy entry.2.items key o

/-- Every offset of the commit was applied. -/
def FullyApplied (s : Session) (commit : RevisionCommit) : Prop :=
  ∀ key o, CoveredBy (kafkaItems commit) key o → AppliedOffset s key o

/-- The commits up to the watermark are consumed: the next offsets have passed
their ranges, and these were applied. -/
def Consumed (base : Nat) (job : Job) (s : Session) : Prop :=
  ∀ binding, s.store.bindings job.id = some binding →
    ∀ commit ∈ streamCommits s.store.live binding.sourceDatasetId,
      base < commit.revision → commit.revision ≤ binding.sourceRevision →
        Passed binding.nextOffsets commit ∧ FullyApplied s commit

/-- Ranges in commits that are not consumed find their commits. -/
def Findable (base : Nat) (env : SqlEnv) (job : Job) (s : Session) : Prop :=
  ∀ binding evidence ranges, s.store.bindings job.id = some binding →
    normalizeKafkaSourceRanges (.list evidence.sourceRanges) true = .ok ranges →
    (∀ key o, CoveredBy ranges.items key o →
      ∃ commit ∈ streamCommits s.store.live binding.sourceDatasetId, base < commit.revision ∧
        CoveredBy (kafkaItems commit) key o ∧ ¬ FullyApplied s commit) →
    ∃ commits, sourceCommitsForEvidence env.toRuntime job evidence s.store =
      .ok (.selected commits)

/-- The stream commits above the watermark. -/
def openCommits (s : Session) (binding : IncrementalBinding) : List RevisionCommit :=
  laterCommits s.store.live binding.sourceDatasetId binding.sourceRevision

/-- The commits before a revision. -/
def earlier (commits : List RevisionCommit) (revision : Nat) : List RevisionCommit :=
  commits.filter fun commit => commit.revision < revision

/-- No commit is left half read behind one that the ranges complete. -/
def CompletesInOrder (s : Session) (binding : IncrementalBinding) (ranges : KafkaRanges) : Prop :=
  ∀ last ∈ openCommits s binding,
    Passed (mergeNextOffsets binding.nextOffsets (nextOffsetsOf ranges)) last →
    ¬ Covered (earlier (openCommits s binding) last.revision) ranges →
      ∀ commit ∈ openCommits s binding, commit.revision ≤ last.revision →
        ∀ key o, CoveredBy (kafkaItems commit) key o →
          AppliedOffset s key o ∨ CoveredBy ranges.items key o

/-- The condition on a call: what it would apply is in order. -/
def NothingBehind (env : SqlEnv) (job : Job) (s : Session) : SqlCall → Prop
  | .source _ => True
  | .deliver run publication => ∀ evidence binding ranges,
      validatePublicationIdentity env.toRuntime job run publication = .ok evidence →
      s.store.bindings job.id = some binding →
      normalizeKafkaSourceRanges (.list evidence.sourceRanges) true = .ok ranges →
      ¬ appliedLast env.toRuntime binding ranges → Covered (openCommits s binding) ranges →
        CompletesInOrder s binding ranges

/-- What a run keeps. -/
structure Bound (env : SqlEnv) (texts : Set String) (base : Nat) (job : Job) (s : Session) :
    Prop where
  live : LiveSound env.toRuntime texts s.store.live
  consumed : Consumed base job s
  passed : ∀ binding, s.store.bindings job.id = some binding → ∀ entry ∈ s.applied,
    ∀ r ∈ entry.2.items, r.endOffset ≤ cursorAt binding.nextOffsets r.key
  above : ∀ binding, s.store.bindings job.id = some binding → base ≤ binding.sourceRevision
  below : ∀ binding, s.store.bindings job.id = some binding →
    binding.sourceRevision ≤ latestRevision s.store.live binding.sourceDatasetId

/-! ## Commits that grow -/

section
variable {db db' : Db} {f : RevisionCommit → RevisionCommit} {new : List RevisionCommit}
  {datasetId : String} {revision : Nat} {ranges : KafkaRanges}

theorem kafkaItems_rewrite (hf : Dashboard.Rewrites f) (commit : RevisionCommit) :
    kafkaItems (f commit) = kafkaItems commit := by
  unfold kafkaItems
  rw [hf.sourceRanges]

/-- A commit up to the latest revision was there before. -/
theorem mem_streamCommits_grown (h : Grown db db' f new) {commit : RevisionCommit}
    (hc : commit ∈ streamCommits db' datasetId) :
    (∃ old ∈ streamCommits db datasetId, commit = f old) ∨
      latestRevision db datasetId < commit.revision := by
  rw [h.streamCommits_eq] at hc
  rcases List.mem_append.mp hc with hseen | hnew
  · obtain ⟨old, hold, rfl⟩ := List.mem_map.mp hseen
    exact Or.inl ⟨old, hold, rfl⟩
  · obtain ⟨hmem, hid, -⟩ := Dashboard.mem_streamCommits.mp hnew
    exact Or.inr (hid ▸ h.above commit hmem)

/-- The commits above a watermark: those of before, and new ones. -/
theorem laterCommits_grown (h : Grown db db' f new) (datasetId : String) (revision : Nat) :
    laterCommits db' datasetId revision = (laterCommits db datasetId revision).map f ++
      laterCommits { db with commits := new } datasetId revision := by
  unfold laterCommits
  rw [h.streamCommits_eq, List.filter_append, List.filter_map]
  congr 2
  refine List.filter_congr fun commit _ => ?_
  rw [Function.comp_apply, h.rewrites.revision]

theorem covered_rewrite (hf : Dashboard.Rewrites f) {commits : List RevisionCommit} :
    Covered (commits.map f) ranges ↔ Covered commits ranges := by
  refine forall_congr' fun key => forall_congr' fun o => imp_congr_right fun _ => ?_
  constructor
  · rintro ⟨commit, hc, ho⟩
    obtain ⟨old, hold, rfl⟩ := List.mem_map.mp hc
    exact ⟨old, hold, kafkaItems_rewrite hf old ▸ ho⟩
  · rintro ⟨old, hold, ho⟩
    exact ⟨f old, List.mem_map_of_mem hold, (kafkaItems_rewrite hf old).symm ▸ ho⟩

theorem Covered.mono {commits more : List RevisionCommit} (h : Covered commits ranges)
    (hsub : ∀ commit ∈ commits, commit ∈ more) : Covered more ranges := by
  intro key o ho
  obtain ⟨commit, hc, ho⟩ := h key o ho
  exact ⟨commit, hsub commit hc, ho⟩

/-- The shortest prefix with a property is found once. -/
theorem shortest_unique {α : Type} {P : List α → Prop}
    (mono : ∀ xs ys, P xs → (∀ x ∈ xs, x ∈ ys) → P ys) {front front' back back' : List α}
    {last last' : α} (heq : front ++ last :: back = front' ++ last' :: back')
    (h : P (front ++ [last])) (hshort : ¬ P front) (h' : P (front' ++ [last']))
    (hshort' : ¬ P front') : front = front' ∧ last = last' := by
  rcases List.append_eq_append_iff.mp heq with ⟨between, hfront, hback⟩ | ⟨between, hfront, hback⟩
  · rcases between with _ | ⟨x, between⟩
    · rw [List.append_nil] at hfront
      exact ⟨hfront.symm, (List.cons.inj hback).1⟩
    · obtain ⟨rfl, -⟩ := List.cons.inj hback
      refine absurd (mono _ front' h fun y hy => ?_) hshort'
      rw [hfront]
      rcases List.mem_append.mp hy with hy | hy
      · exact List.mem_append_left _ hy
      · exact List.mem_append_right _ (List.mem_cons.mpr (Or.inl (List.mem_singleton.mp hy)))
  · rcases between with _ | ⟨x, between⟩
    · rw [List.append_nil] at hfront
      exact ⟨hfront, (List.cons.inj hback).1.symm⟩
    · obtain ⟨rfl, -⟩ := List.cons.inj hback
      refine absurd (mono _ front h' fun y hy => ?_) hshort
      rw [hfront]
      rcases List.mem_append.mp hy with hy | hy
      · exact List.mem_append_left _ hy
      · exact List.mem_append_right _ (List.mem_cons.mpr (Or.inl (List.mem_singleton.mp hy)))

/-- What the scan finds: the shortest prefix of the open commits that covers the
ranges.  It is read on the store after the delivery, and was there before. -/
theorem Selects.prefix_of {binding : IncrementalBinding} {first : RevisionCommit}
    {more : List RevisionCommit} (hgrown : Grown db db' f new)
    (hlog : SourceLog db binding.sourceDatasetId) (hlog' : SourceLog db' binding.sourceDatasetId)
    (hne : ranges.items ≠ [])
    (hcovered : Covered (laterCommits db binding.sourceDatasetId binding.sourceRevision) ranges)
    (hafter : Selects db' binding ranges first more) : ∃ front last back,
      laterCommits db binding.sourceDatasetId binding.sourceRevision = front ++ last :: back ∧
      first :: more = (front ++ [last]).map f ∧ Covered (front ++ [last]) ranges ∧
      ¬ Covered front ranges := by
  unfold Selects at hafter
  rw [selectCommits_filter, listCommits_stream hlog'] at hafter
  have hreadable := readable_laterCommits hlog binding.sourceRevision
  have hreadable' := readable_laterCommits hlog' binding.sourceRevision
  rcases selectCommits_spec hne hreadable with ⟨front, last, back, heq, -, hall, hshort⟩ | ⟨-, hno⟩
  · refine ⟨front, last, back, heq, ?_, hall, hshort⟩
    rcases selectCommits_spec hne hreadable' with ⟨front', last', back', heq', hselect, hall',
      hshort'⟩ | ⟨hpending, -⟩
    · have hsame : first :: more = front' ++ [last'] := by
        have hboth := hafter.symm.trans hselect
        injection hboth with hlist
        injection hlist
      have hlist : front.map f ++ f last :: (back.map f ++
          laterCommits { db with commits := new } binding.sourceDatasetId
            binding.sourceRevision) = front' ++ last' :: back' := by
        have hgrows := laterCommits_grown hgrown binding.sourceDatasetId binding.sourceRevision
        rw [heq', heq] at hgrows
        rw [hgrows]
        simp
      obtain ⟨rfl, rfl⟩ := @shortest_unique _ (fun commits => Covered commits ranges)
        (fun _ _ h hsub => h.mono hsub) _ _ _ _ _ _ hlist
        (by simpa using (covered_rewrite hgrown.rewrites).mpr hall)
        (fun h => hshort ((covered_rewrite hgrown.rewrites).mp h)) hall' hshort'
      rw [hsame, List.map_append]
      rfl
    · exact nomatch hafter.symm.trans hpending
  · exact absurd hcovered hno

end

/-! ## One call -/

section
variable {env : SqlEnv} {job : Job} {texts : Set String} {base : Nat} {s s' : Session}
  {evidence : Evidence} {binding : IncrementalBinding} {ranges : KafkaRanges}
  {completed : Option RevisionCommit} {outputRevision : Nat}

/-- The open commits had covered the ranges. -/
theorem Advanced.covered
    (h : Advanced env job evidence s s' binding ranges completed outputRevision)
    (hlive : LiveSound env.toRuntime texts s.store.live) :
    Covered (openCommits s binding) ranges := by
  have hne := normalizeKafkaSourceRanges_nonempty h.normal
  have hlog := hlive.sourceLog binding.sourceDatasetId
  obtain ⟨first, more, hselects⟩ := h.before
  unfold Selects at hselects
  rw [selectCommits_filter, listCommits_stream hlog] at hselects
  have hreadable := readable_laterCommits hlog binding.sourceRevision
  rcases selectCommits_spec hne hreadable with ⟨front, last, back, heq, -, hall, -⟩ | ⟨hpending, -⟩
  · refine hall.mono fun commit hc => ?_
    unfold openCommits
    rw [heq]
    rcases List.mem_append.mp hc with hc | hc
    · exact List.mem_append_left _ hc
    · exact List.mem_append_right _ (List.mem_cons.mpr (Or.inl (List.mem_singleton.mp hc)))
  · exact nomatch hselects.symm.trans hpending

theorem advancedBy_dataset {rt : Runtime} :
    (advancedBy rt job binding ranges completed outputRevision).sourceDatasetId =
      binding.sourceDatasetId := by
  show (movedWatermark binding completed).sourceDatasetId = _
  unfold movedWatermark
  split
  · rfl
  · split <;> rfl

/-- The watermark only moves up, to the completed commit. -/
theorem advancedBy_revision {rt : Runtime} :
    (advancedBy rt job binding ranges completed outputRevision).sourceRevision =
      max binding.sourceRevision (completed.elim 0 RevisionCommit.revision) := by
  show (movedWatermark binding completed).sourceRevision = _
  cases completed with
  | none => exact (max_eq_left (Nat.zero_le _)).symm
  | some commit =>
      rw [Option.elim_some, movedWatermark]
      split
      · rename_i hlt
        exact (max_eq_right hlt.le).symm
      · rename_i hnot
        exact (max_eq_left (not_lt.mp hnot)).symm

/-- The commit that was completed: the newest of the selected ones whose ends the
merged offsets have passed. -/
theorem Advanced.completed_eq {f : RevisionCommit → RevisionCommit} {new : List RevisionCommit}
    (h : Advanced env job evidence s s' binding ranges completed outputRevision)
    (hgrown : Grown s.store.live s'.store.live f new)
    (hlive : LiveSound env.toRuntime texts s.store.live)
    (hlive' : LiveSound env.toRuntime texts s'.store.live) :
    ∃ front last back, openCommits s binding = front ++ last :: back ∧
      Covered (front ++ [last]) ranges ∧ ¬ Covered front ranges ∧
      completed = ((front ++ [last]).map f).reverse.find? fun commit =>
        Passed (mergeNextOffsets binding.nextOffsets (nextOffsetsOf ranges)) commit := by
  obtain ⟨first, more, hselects, hfound⟩ := h.after
  obtain ⟨front, last, back, heq, hsel, hall, hshort⟩ := hselects.prefix_of hgrown
    (hlive.sourceLog _) (hlive'.sourceLog _) (normalizeKafkaSourceRanges_nonempty h.normal)
    (h.covered hlive)
  refine ⟨front, last, back, heq, hall, hshort, ?_⟩
  have hkafka : ∀ commit ∈ (first :: more).reverse, ∃ ranges,
      commit.sourceRanges = .kafka ranges ∧ ranges.items ≠ [] := by
    intro commit hc
    rw [List.mem_reverse, hsel] at hc
    obtain ⟨old, hold, rfl⟩ := List.mem_map.mp hc
    have hopen : old ∈ laterCommits s.store.live binding.sourceDatasetId
        binding.sourceRevision := by
      rw [heq]
      rcases List.mem_append.mp hold with hin | hin
      · exact List.mem_append_left _ hin
      · rw [List.mem_singleton.mp hin]
        exact List.mem_append_right _ List.mem_cons_self
    obtain ⟨stored, hstored, hne⟩ := (readable_laterCommits (hlive.sourceLog _) _).kafka old hopen
    exact ⟨stored, (hgrown.rewrites.sourceRanges old).trans hstored, hne⟩
  rw [completedCommit_eq hkafka] at hfound
  rw [← hsel]
  exact (Except.ok.inj hfound).symm

/-- A completed commit was open, was selected, and is passed. -/
theorem Advanced.completed_mem {f : RevisionCommit → RevisionCommit} {new : List RevisionCommit}
    {commit : RevisionCommit}
    (h : Advanced env job evidence s s' binding ranges (some commit) outputRevision)
    (hgrown : Grown s.store.live s'.store.live f new)
    (hlive : LiveSound env.toRuntime texts s.store.live)
    (hlive' : LiveSound env.toRuntime texts s'.store.live) :
    ∃ done ∈ openCommits s binding, commit.revision = done.revision ∧
      Passed (mergeNextOffsets binding.nextOffsets (nextOffsetsOf ranges)) done ∧
      ¬ Covered (earlier (openCommits s binding) done.revision) ranges := by
  obtain ⟨front, last, back, hopen, -, hshort, hcompleted⟩ := h.completed_eq hgrown hlive hlive'
  have hgrowing : (openCommits s binding).Pairwise fun a b => a.revision < b.revision :=
    (hlive.sourceLog binding.sourceDatasetId).growing.filter _
  have hfound := List.mem_of_find?_eq_some hcompleted.symm
  have hpassed := List.find?_some hcompleted.symm
  rw [List.mem_reverse] at hfound
  obtain ⟨done, hin, rfl⟩ := List.mem_map.mp hfound
  rw [decide_eq_true_eq, Passed, kafkaItems_rewrite hgrown.rewrites] at hpassed
  rw [hopen] at hgrowing
  obtain ⟨-, hright, hcross⟩ := List.pairwise_append.mp hgrowing
  have hle : done.revision ≤ last.revision := by
    rcases List.mem_append.mp hin with hfront | hlast
    · exact (hcross done hfront last List.mem_cons_self).le
    · rw [List.mem_singleton.mp hlast]
  refine ⟨done, ?_, hgrown.rewrites.revision done, hpassed, fun hcovered => hshort ?_⟩
  · rw [hopen]
    rcases List.mem_append.mp hin with hfront | hlast
    · exact List.mem_append_left _ hfront
    · rw [List.mem_singleton.mp hlast]
      exact List.mem_append_right _ List.mem_cons_self
  · -- what is earlier than a selected commit lies in the prefix before the last one
    refine hcovered.mono fun x hx => ?_
    obtain ⟨hmem, hlt⟩ := List.mem_filter.mp hx
    have hlt : x.revision < done.revision := of_decide_eq_true hlt
    rw [hopen] at hmem
    rcases List.mem_append.mp hmem with hfront | hback
    · exact hfront
    · rcases List.mem_cons.mp hback with rfl | hback
      · omega
      · have := (List.pairwise_cons.mp hright).1 x hback
        omega

/-- An applied offset stays applied, and the new ranges are. -/
theorem Advanced.appliedOffset
    (h : Advanced env job evidence s s' binding ranges completed outputRevision)
    {key : PartitionKey} {o : Int} :
    AppliedOffset s' key o ↔ AppliedOffset s key o ∨ CoveredBy ranges.items key o := by
  simp only [AppliedOffset, h.applied_eq, List.mem_append, List.mem_singleton, or_and_right,
    exists_or, exists_eq_left]

/-- The next offsets pass a commit whose offsets were all applied. -/
theorem passed_of_applied {nextOffsets : List NextOffset} {commit : RevisionCommit}
    (hpassed : ∀ entry ∈ s.applied, ∀ r ∈ entry.2.items,
      r.endOffset ≤ cursorAt nextOffsets r.key)
    (happlied : FullyApplied s commit) : Passed nextOffsets commit := by
  intro r hr
  -- the last offset of the range lies in an applied range, which ends no earlier
  have hlast : CoveredBy (kafkaItems commit) r.key (r.endOffset - 1) := by
    have := r.nonempty
    exact ⟨r, hr, rfl, by omega, by omega⟩
  obtain ⟨entry, hentry, r', hr', hkey, -, hend⟩ := happlied r.key _ hlast
  have hle := hpassed entry hentry r' hr'
  rw [hkey] at hle
  omega

/-- The next offsets pass everything that was applied. -/
theorem Advanced.passed
    (h : Advanced env job evidence s s' binding ranges completed outputRevision)
    (hbound : Bound env texts base job s) : ∀ entry ∈ s'.applied, ∀ r ∈ entry.2.items,
      r.endOffset ≤ cursorAt (mergeNextOffsets binding.nextOffsets (nextOffsetsOf ranges)) r.key := by
  intro entry hentry r hr
  rw [h.applied_eq] at hentry
  rcases List.mem_append.mp hentry with hold | hnew
  · have hle := hbound.passed binding h.bound entry hold r hr
    have := r.start_nonneg
    have := r.nonempty
    exact hle.trans (cursorAt_le_merge _ _ r.topic_named (by omega))
  · rw [List.mem_singleton.mp hnew] at hr
    exact end_le_merge _ hr

/-- The new watermark is a revision that was there before the call. -/
theorem Advanced.watermark_le {f : RevisionCommit → RevisionCommit} {new : List RevisionCommit}
    (h : Advanced env job evidence s s' binding ranges completed outputRevision)
    (hbound : Bound env texts base job s) (hgrown : Grown s.store.live s'.store.live f new)
    (hlive' : LiveSound env.toRuntime texts s'.store.live) :
    max binding.sourceRevision (completed.elim 0 RevisionCommit.revision) ≤
      latestRevision s.store.live binding.sourceDatasetId := by
  refine max_le (hbound.below binding h.bound) ?_
  cases completed with
  | none => exact Nat.zero_le _
  | some commit =>
      obtain ⟨done, hdone, hrevision, -⟩ := h.completed_mem hgrown hbound.live hlive'
      rw [Option.elim_some, hrevision]
      exact (hbound.live.sourceLog _).counted done (mem_laterCommits.mp hdone).1

/-- Every commit up to the new watermark is applied in full. -/
theorem Advanced.fullyApplied {f : RevisionCommit → RevisionCommit} {new : List RevisionCommit}
    (h : Advanced env job evidence s s' binding ranges completed outputRevision)
    (hbound : Bound env texts base job s) (hgrown : Grown s.store.live s'.store.live f new)
    (hlive' : LiveSound env.toRuntime texts s'.store.live)
    (horder : CompletesInOrder s binding ranges) {commit : RevisionCommit}
    (hc : commit ∈ streamCommits s'.store.live binding.sourceDatasetId)
    (hbase : base < commit.revision)
    (hle : commit.revision ≤ max binding.sourceRevision
      (completed.elim 0 RevisionCommit.revision)) : FullyApplied s' commit := by
  intro key o ho
  refine h.appliedOffset.mpr ?_
  rcases mem_streamCommits_grown hgrown hc with ⟨old, hold, rfl⟩ | habove
  · rw [hgrown.rewrites.revision] at hbase hle
    rw [kafkaItems_rewrite hgrown.rewrites] at ho
    rcases le_or_gt old.revision binding.sourceRevision with hseen | hnew
    · exact Or.inl ((hbound.consumed binding h.bound old hold hbase hseen).2 key o ho)
    · -- above the old watermark: at or before the completed commit
      have hmem : old ∈ openCommits s binding := mem_laterCommits.mpr ⟨hold, hnew⟩
      cases completed with
      | none =>
          rw [Option.elim_none] at hle
          omega
      | some commit =>
          obtain ⟨done, hdone, hrevision, hpassed, hshort⟩ :=
            h.completed_mem hgrown hbound.live hlive'
          rw [Option.elim_some, hrevision] at hle
          exact horder done hdone hpassed hshort old hmem (by omega) key o ho
  · -- a new commit is above both watermarks
    have := h.watermark_le hbound hgrown hlive'
    omega

/-- The step lemma, where the binding takes the ranges. -/
theorem Advanced.step {f : RevisionCommit → RevisionCommit} {new : List RevisionCommit}
    (h : Advanced env job evidence s s' binding ranges completed outputRevision)
    (hbound : Bound env texts base job s) (hgrown : Grown s.store.live s'.store.live f new)
    (hlive' : LiveSound env.toRuntime texts s'.store.live)
    (horder : CompletesInOrder s binding ranges) : Bound env texts base job s' := by
  have hself : ∀ binding', s'.store.bindings job.id = some binding' → binding' =
      advancedBy env.toRuntime job binding ranges completed outputRevision := by
    intro binding' hb
    rw [h.bindings_eq, Table.put_self] at hb
    exact (Option.some.inj hb).symm
  have hpassed := h.passed hbound
  refine ⟨hlive', ?_, ?_, ?_, ?_⟩
  all_goals
    intro binding' hb
    rw [hself binding' hb]
  · intro commit hc hbase hle
    rw [advancedBy_dataset] at hc
    rw [advancedBy_revision] at hle
    have hfull := h.fullyApplied hbound hgrown hlive' horder hc hbase hle
    exact ⟨passed_of_applied hpassed hfull, hfull⟩
  · exact hpassed
  · rw [advancedBy_revision]
    exact (hbound.above binding h.bound).trans (le_max_left _ _)
  · rw [advancedBy_revision, advancedBy_dataset]
    exact (h.watermark_le hbound hgrown hlive').trans (hgrown.latest_le _)

/-- The step lemma, where the binding stays. -/
theorem Bound.grow {f : RevisionCommit → RevisionCommit} {new : List RevisionCommit}
    (hbound : Bound env texts base job s) (hgrown : Grown s.store.live s'.store.live f new)
    (hlive' : LiveSound env.toRuntime texts s'.store.live)
    (hbindings : s'.store.bindings = s.store.bindings) (happlied : s'.applied = s.applied) :
    Bound env texts base job s' := by
  refine ⟨hlive', ?_, ?_, ?_, ?_⟩
  all_goals
    intro binding hb
    rw [hbindings] at hb
  · intro commit hc hbase hle
    rcases mem_streamCommits_grown hgrown hc with ⟨old, hold, rfl⟩ | habove
    · rw [hgrown.rewrites.revision] at hbase hle
      obtain ⟨hpassed, hfull⟩ := hbound.consumed binding hb old hold hbase hle
      unfold Passed FullyApplied AppliedOffset
      rw [kafkaItems_rewrite hgrown.rewrites, happlied]
      exact ⟨hpassed, hfull⟩
    · have := hbound.below binding hb
      omega
  · rw [happlied]
    exact hbound.passed binding hb
  · exact hbound.above binding hb
  · exact (hbound.below binding hb).trans (hgrown.latest_le _)

theorem sqlStep_bound {call : SqlCall} (hfree : env.toRuntime.CollisionFree texts)
    (htext : ∀ ranges, call.ranges = .ok ranges → ranges.canonicalText ∈ texts)
    (hbound : Bound env texts base job s) (hcall : NothingBehind env job s call) :
    Bound env texts base job (sqlStep env job s call) := by
  have hlive' := @sqlStep_liveSound env job _ _ _ hfree htext hbound.live
  obtain ⟨f, new, hgrown⟩ := sqlStep_grown env job s call
  cases call with
  | source call =>
      obtain ⟨hbindings, -, happlied⟩ := sqlStep_source env job s call
      exact hbound.grow hgrown hlive' hbindings happlied
  | deliver run publication =>
      rcases reconcile_delivered env job run publication s with hsame | ⟨evidence, hvalid, hdel⟩
      · refine hbound.grow hgrown hlive' ?_ ?_
        · show (reconcileManifest env job run publication s).1.store.bindings = _
          rw [hsame]
        · show (reconcileManifest env job run publication s).1.applied = _
          rw [hsame]
      · rcases hdel.binding with ⟨hbindings, happlied⟩ | ⟨binding, ranges, completed, revision, hadv⟩
        · exact hbound.grow hgrown hlive' hbindings happlied
        · have horder := hcall evidence binding ranges hvalid hadv.bound hadv.normal hadv.fresh
            (hadv.covered hbound.live)
          exact hadv.step hbound hgrown hlive' horder

/-- Ranges in commits that are not consumed lie above the watermark, where the
scan covers them. -/
theorem Bound.findable (h : Bound env texts base job s) : Findable base env job s := by
  intro binding evidence ranges hbinding hnormal hoffers
  have hlog := h.live.sourceLog binding.sourceDatasetId
  have hcovered : Covered (laterCommits s.store.live binding.sourceDatasetId
      binding.sourceRevision) ranges := by
    intro key o ho
    obtain ⟨commit, hc, hbase, hin, hopen⟩ := hoffers key o ho
    refine ⟨commit, mem_laterCommits.mpr ⟨hc, not_le.mp fun hle => hopen ?_⟩, hin⟩
    exact (h.consumed binding hbinding commit hc hbase hle).2
  have hscan : sourceCommitsForEvidence env.toRuntime job evidence s.store =
      if appliedLast env.toRuntime binding ranges then .ok (.selected [])
      else selectCommits ranges [] []
        (listCommits s.store.live binding.sourceDatasetId binding.sourceRevision) := by
    rw [sourceCommitsForEvidence, hbinding]
    show (normalizeKafkaSourceRanges (.list evidence.sourceRanges) true >>= _) = _
    rw [hnormal]
    rfl
  rw [hscan]
  split
  · exact ⟨[], rfl⟩
  · rw [selectCommits_filter, listCommits_stream hlog]
    rcases selectCommits_spec (normalizeKafkaSourceRanges_nonempty hnormal)
      (readable_laterCommits hlog binding.sourceRevision) with
      ⟨front, last, back, -, hselect, -⟩ | ⟨-, hno⟩
    · exact ⟨_, hselect⟩
    · exact absurd hcovered hno

/-- The watermark reaches every selected commit whose ends are passed. -/
theorem Advanced.reaches {f : RevisionCommit → RevisionCommit} {new : List RevisionCommit}
    (h : Advanced env job evidence s s' binding ranges completed outputRevision)
    (hgrown : Grown s.store.live s'.store.live f new)
    (hlive : LiveSound env.toRuntime texts s.store.live)
    (hlive' : LiveSound env.toRuntime texts s'.store.live) {last : RevisionCommit}
    (hmem : last ∈ openCommits s binding)
    (hpassed : Passed (mergeNextOffsets binding.nextOffsets (nextOffsetsOf ranges)) last)
    (hshort : ¬ Covered (earlier (openCommits s binding) last.revision) ranges) :
    last.revision ≤ completed.elim 0 RevisionCommit.revision := by
  obtain ⟨front, final, back, hopen, hall, -, hcompleted⟩ := h.completed_eq hgrown hlive hlive'
  have hgrowing : (openCommits s binding).Pairwise fun a b => a.revision < b.revision :=
    (hlive.sourceLog binding.sourceDatasetId).growing.filter _
  have hsplit : openCommits s binding = (front ++ [final]) ++ back := by
    rw [hopen, List.append_assoc]
    rfl
  rw [hsplit] at hmem hgrowing
  obtain ⟨hleft, -, hcross⟩ := List.pairwise_append.mp hgrowing
  rcases List.mem_append.mp hmem with hin | hbehind
  · have hpassed' : Passed (mergeNextOffsets binding.nextOffsets (nextOffsetsOf ranges))
        (f last) := by
      unfold Passed
      rw [kafkaItems_rewrite hgrown.rewrites]
      exact hpassed
    have hfin : f last ∈ ((front ++ [final]).map f).reverse :=
      List.mem_reverse.mpr (List.mem_map_of_mem hin)
    have hdescending : ((front ++ [final]).map f).reverse.Pairwise
        fun a b => b.revision < a.revision := by
      rw [List.pairwise_reverse, List.pairwise_map]
      refine hleft.imp fun hlt => ?_
      rw [hgrown.rewrites.revision, hgrown.rewrites.revision]
      exact hlt
    cases completed with
    | none =>
        have hnone := List.find?_eq_none.mp hcompleted.symm (f last) hfin
        exact absurd (decide_eq_true hpassed') hnone
    | some done =>
        obtain ⟨-, newer, older, hlist, hnewer⟩ := List.find?_eq_some_iff_append.mp hcompleted.symm
        rw [hlist] at hfin hdescending
        rw [Option.elim_some, ← hgrown.rewrites.revision last]
        rcases List.mem_append.mp hfin with hbefore | hafter
        · have hnot := hnewer (f last) hbefore
          rw [decide_eq_true hpassed'] at hnot
          exact nomatch hnot
        · rcases List.mem_cons.mp hafter with heq | hafter
          · rw [heq]
          · obtain ⟨-, hright, -⟩ := List.pairwise_append.mp hdescending
            exact ((List.pairwise_cons.mp hright).1 _ hafter).le
  · -- behind the prefix everything selected is earlier
    refine absurd (hall.mono fun x hx => ?_) hshort
    refine List.mem_filter.mpr ⟨?_, decide_eq_true (hcross x hx last hbehind)⟩
    rw [hsplit]
    exact List.mem_append_left _ hx

/-- Where a call applies ranges against the condition, a commit at or below the
new watermark is not consumed. -/
theorem not_consumed_of_behind {run : Run} {publication : Publication}
    (hfree : env.toRuntime.CollisionFree texts)
    (htext : ∀ ranges, (SqlCall.deliver run publication).ranges = .ok ranges →
      ranges.canonicalText ∈ texts)
    (hbound : Bound env texts base job s)
    (happlied : (sqlStep env job s (.deliver run publication)).applied ≠ s.applied)
    (hbehind : ¬ NothingBehind env job s (.deliver run publication)) :
    ¬ Consumed base job (sqlStep env job s (.deliver run publication)) := by
  have hlive' := @sqlStep_liveSound env job _ _ _ hfree htext hbound.live
  obtain ⟨f, new, hgrown⟩ := sqlStep_grown env job s (.deliver run publication)
  intro hconsumed
  rcases reconcile_delivered env job run publication s with hsame | ⟨evidence, hvalid, hdel⟩
  · exact happlied (congrArg Session.applied hsame)
  · rcases hdel.binding with ⟨-, hstays⟩ | ⟨binding, ranges, completed, revision, hadv⟩
    · exact happlied hstays
    · refine hbehind ?_
      intro evidence' binding' ranges' hvalid' hbinding' hnormal' _ _
      cases hvalid.symm.trans hvalid'
      cases hadv.bound.symm.trans hbinding'
      cases hadv.normal.symm.trans hnormal'
      intro last hlast hpassed hshort commit hc hle key o ho
      refine hadv.appliedOffset.mp ?_
      have hreach := hadv.reaches hgrown hbound.live hlive' hlast hpassed hshort
      obtain ⟨hstream, habove⟩ := mem_laterCommits.mp hc
      have hbinding := hadv.bindings_eq
      have hself := congrFun hbinding job.id
      rw [Table.put_self] at hself
      have hstream' : f commit ∈ streamCommits
          (sqlStep env job s (.deliver run publication)).store.live binding.sourceDatasetId := by
        rw [hgrown.streamCommits_eq]
        exact List.mem_append_left _ (List.mem_map_of_mem hstream)
      have hfull := (hconsumed _ hself (f commit) (by rw [advancedBy_dataset]; exact hstream')
        (by
          rw [hgrown.rewrites.revision]
          exact (hbound.above binding hadv.bound).trans_lt habove)
        (by
          rw [hgrown.rewrites.revision, advancedBy_revision]
          exact (hle.trans hreach).trans (le_max_right _ _))).2
      exact hfull key o ((kafkaItems_rewrite hgrown.rewrites commit).symm ▸ ho)

end

/-! ## Every run -/

/-- A binding that has just been made: nothing was applied, and its watermark is a
revision of the source. -/
structure AtBaseline (env : SqlEnv) (texts : Set String) (base : Nat) (job : Job) (s : Session) :
    Prop where
  live : LiveSound env.toRuntime texts s.store.live
  unapplied : s.applied = []
  revision : ∀ binding, s.store.bindings job.id = some binding → binding.sourceRevision = base ∧
    base ≤ latestRevision s.store.live binding.sourceDatasetId

section
variable {env : SqlEnv} {job : Job} {texts : Set String} {base : Nat} {s₀ : Session}

theorem AtBaseline.bound (h : AtBaseline env texts base job s₀) : Bound env texts base job s₀ where
  live := h.live
  consumed := by
    intro binding hbinding commit _ hbase hle
    rw [(h.revision binding hbinding).1] at hle
    omega
  passed := by
    intro _ _ entry hentry
    rw [h.unapplied] at hentry
    exact nomatch hentry
  above := fun binding hbinding => (h.revision binding hbinding).1.ge
  below := by
    intro binding hbinding
    obtain ⟨hrevision, hle⟩ := h.revision binding hbinding
    rw [hrevision]
    exact hle

theorem always_bound (hfree : env.toRuntime.CollisionFree texts) :
    ∀ {calls : List SqlCall} {s : Session}, TextsOf texts calls → Bound env texts base job s →
      Along (NothingBehind env job) (sqlStep env job) s calls →
        Always (Bound env texts base job) (sqlStep env job) s calls
  | [], _, _, hbound, _ => hbound
  | _ :: _, _, htexts, hbound, halong =>
      ⟨hbound, always_bound hfree (fun call hcall => htexts call (List.mem_cons_of_mem _ hcall))
        (sqlStep_bound hfree (htexts _ List.mem_cons_self) hbound halong.1) halong.2⟩

/-- The law of the source watermark, over every run of deliveries and of the
recorder's own calls.

While no delivery leaves an offset behind a commit that it completes, every
commit between the baseline and the watermark is consumed, and ranges in commits
that are not consumed find their commits.  The first delivery that is applied
against the condition leaves a commit below the watermark that is not consumed. -/
theorem source_commits_consumed (env : SqlEnv) (job : Job) (base : Nat) (s₀ : Session)
    (calls : List SqlCall) (texts : Set String) (hfree : env.toRuntime.CollisionFree texts)
    (htexts : TextsOf texts calls) (hstart : AtBaseline env texts base job s₀) :
    (Along (NothingBehind env job) (sqlStep env job) s₀ calls →
      Always (fun s => Consumed base job s ∧ Findable base env job s) (sqlStep env job) s₀ calls) ∧
    ∀ before run publication after, calls = before ++ .deliver run publication :: after →
      Along (NothingBehind env job) (sqlStep env job) s₀ before →
      (sqlStep env job (play (sqlStep env job) s₀ before) (.deliver run publication)).applied ≠
        (play (sqlStep env job) s₀ before).applied →
      ¬ NothingBehind env job (play (sqlStep env job) s₀ before) (.deliver run publication) →
        ¬ Consumed base job
          (sqlStep env job (play (sqlStep env job) s₀ before) (.deliver run publication)) := by
  constructor
  · intro halong
    have hbound := always_bound hfree htexts hstart.bound halong
    exact Always.imp (fun s h => ⟨h.consumed, h.findable⟩) hbound
  · rintro before run publication after rfl halong happlied hbehind
    have hbefore := always_bound hfree
      (fun call hcall => htexts call (List.mem_append_left _ hcall)) hstart.bound halong
    exact not_consumed_of_behind hfree
      (htexts _ (List.mem_append_right _ List.mem_cons_self)) hbefore.last happlied hbehind

end

/-! ## Two partitions, taken in order and out of order -/

/-- One of the ranges holds the whole of `r`. -/
def HeldWhole (items : List KafkaRange) (r : KafkaRange) : Prop :=
  ∃ r' ∈ items, r'.key = r.key ∧ r'.startOffset ≤ r.startOffset ∧ r.endOffset ≤ r'.endOffset

/-- A check that is enough for `CompletesInOrder`: the ranges of the commits that
are passed are held whole. -/
def TakenWhole (s : Session) (binding : IncrementalBinding) (ranges : KafkaRanges) : Prop :=
  ∀ last ∈ openCommits s binding,
    Passed (mergeNextOffsets binding.nextOffsets (nextOffsetsOf ranges)) last →
      ∀ commit ∈ openCommits s binding, commit.revision ≤ last.revision →
        ∀ r ∈ kafkaItems commit,
          HeldWhole (s.applied.flatMap (fun entry => entry.2.items) ++ ranges.items) r

instance (s : Session) (binding : IncrementalBinding) (ranges : KafkaRanges) :
    Decidable (TakenWhole s binding ranges) :=
  have (items : List KafkaRange) (r : KafkaRange) : Decidable (HeldWhole items r) :=
    inferInstanceAs (Decidable (∃ r' ∈ items, _))
  inferInstanceAs (Decidable (∀ last ∈ _, _))

theorem TakenWhole.inOrder {s : Session} {binding : IncrementalBinding} {ranges : KafkaRanges}
    (h : TakenWhole s binding ranges) : CompletesInOrder s binding ranges := by
  rintro last hlast hpassed - commit hc hle key o ⟨r, hr, rfl, hge, hlt⟩
  obtain ⟨r', hr', hkey, hstart, hend⟩ := h last hlast hpassed commit hc hle r hr
  have hcovers : r'.covers o := ⟨hstart.trans hge, hlt.trans_le hend⟩
  rcases List.mem_append.mp hr' with hr' | hr'
  · obtain ⟨entry, hentry, hr'⟩ := List.mem_flatMap.mp hr'
    exact Or.inl ⟨entry, hentry, r', hr', hkey, hcovers⟩
  · exact Or.inr ⟨r', hr', hkey, hcovers⟩

/-- The check, on what a call would apply. -/
def CallTakesWhole (env : SqlEnv) (job : Job) (s : Session) : SqlCall → Prop
  | .source _ => True
  | .deliver run publication =>
      match validatePublicationIdentity env.toRuntime job run publication,
          s.store.bindings job.id with
      | .ok evidence, some binding =>
          match normalizeKafkaSourceRanges (.list evidence.sourceRanges) true with
          | .ok ranges => TakenWhole s binding ranges
          | .error _ => True
      | _, _ => True

instance (env : SqlEnv) (job : Job) (s : Session) :
    (call : SqlCall) → Decidable (CallTakesWhole env job s call)
  | .source _ => instDecidableTrue
  | .deliver run publication => by
      delta CallTakesWhole
      dsimp only
      exact
        match validatePublicationIdentity env.toRuntime job run publication,
            s.store.bindings job.id with
        | .ok evidence, some binding => by
            dsimp only
            exact
              match normalizeKafkaSourceRanges (.list evidence.sourceRanges) true with
              | .ok ranges => (inferInstance : Decidable (TakenWhole s binding ranges))
              | .error _ => instDecidableTrue
        | .ok _, none => instDecidableTrue
        | .error _, _ => instDecidableTrue

theorem CallTakesWhole.nothingBehind {env : SqlEnv} {job : Job} {s : Session} {call : SqlCall}
    (h : CallTakesWhole env job s call) : NothingBehind env job s call := by
  cases call with
  | source _ => trivial
  | deliver run publication =>
      intro evidence binding ranges hvalid hbinding hnormal _ _
      simp only [CallTakesWhole, hvalid, hbinding, hnormal] at h
      exact h.inOrder

/-- Both partitions of the first commit in one batch, then the second commit. -/
def inOrderCalls : List SqlCall :=
  [ordersCommit "run-1" [(0, 0, 10), (1, 0, 10)],
   .deliver ordersRun (ordersPublication 1 "out-1" "101" [(0, 0, 10), (1, 0, 10)]),
   ordersCommit "run-2" [(0, 10, 20)],
   .deliver ordersRun (ordersPublication 2 "out-2" "102" [(0, 10, 20)])]

theorem source_commits_consumed_in_order :
    (play (sqlStep ordersEnv ordersJob) ordersStart inOrderCalls).applied.length = 2 ∧
      Always (fun s => Consumed 0 ordersJob s ∧ Findable 0 ordersEnv ordersJob s)
        (sqlStep ordersEnv ordersJob) ordersStart inOrderCalls := by
  have hdigests : (sqlTexts inOrderCalls).Pairwise fun a b =>
      ordersEnv.sha256 a = ordersEnv.sha256 b → a = b := by decide +kernel
  have hfree : ordersEnv.toRuntime.CollisionFree { text | text ∈ sqlTexts inOrderCalls } :=
    collisionFree_of_pairwise hdigests
  have hstart : AtBaseline ordersEnv { text | text ∈ sqlTexts inOrderCalls } 0 ordersJob
      ordersStart := by
    refine ⟨liveSound_start rfl, rfl, fun binding hbinding => ?_⟩
    cases Option.some.inj hbinding
    exact ⟨rfl, Nat.zero_le _⟩
  have hwhole : Along (CallTakesWhole ordersEnv ordersJob) (sqlStep ordersEnv ordersJob)
      ordersStart inOrderCalls := by decide +kernel
  exact ⟨by decide +kernel,
    (source_commits_consumed ordersEnv ordersJob 0 ordersStart inOrderCalls _ hfree
      (textsOf_sqlTexts _) hstart).1 (hwhole.imp fun _ _ h => h.nothingBehind)⟩

/-- A commit at or below the watermark has a range whose first offset was not
applied. -/
def leavesBehind (job : Job) (s : Session) : Bool :=
  match s.store.bindings job.id with
  | none => false
  | some binding =>
      (streamCommits s.store.live binding.sourceDatasetId).any fun commit =>
        0 < commit.revision && commit.revision ≤ binding.sourceRevision &&
          (kafkaItems commit).any fun r => s.applied.all fun entry =>
            entry.2.items.all fun r' =>
              ¬ (r'.key = r.key ∧ r'.startOffset ≤ r.startOffset ∧ r.startOffset < r'.endOffset)

theorem not_consumed_of_leavesBehind {job : Job} {s : Session} (h : leavesBehind job s = true) :
    ¬ Consumed 0 job s := by
  intro hconsumed
  unfold leavesBehind at h
  split at h
  · exact nomatch h
  · rename_i binding hbinding
    obtain ⟨commit, hc, hbehind⟩ := List.any_eq_true.mp h
    simp only [Bool.and_eq_true, decide_eq_true_eq] at hbehind
    obtain ⟨⟨hbase, hle⟩, hany⟩ := hbehind
    obtain ⟨r, hr, hall⟩ := List.any_eq_true.mp hany
    obtain ⟨entry, hentry, r', hr', hkey, hge, hlt⟩ :=
      (hconsumed binding hbinding commit hc hbase hle).2 r.key r.startOffset
        ⟨r, hr, rfl, le_refl _, r.nonempty⟩
    have hno := List.all_eq_true.mp (List.all_eq_true.mp hall entry hentry) r' hr'
    exact of_decide_eq_true hno ⟨hkey, hge, hlt⟩

/-- The first batch takes partition 0 of both commits. -/
def outOfOrderCalls : List SqlCall :=
  [ordersCommit "run-1" [(0, 0, 10), (1, 0, 10)], ordersCommit "run-2" [(0, 10, 20)],
   .deliver ordersRun (ordersPublication 1 "out-1" "101" [(0, 0, 20)])]

/-- Partition 1 of the first commit stays behind the watermark, and the batch
that brings it waits for its source commit for ever. -/
theorem partition_left_behind :
    ¬ Consumed 0 ordersJob (play (sqlStep ordersEnv ordersJob) ordersStart outOfOrderCalls) ∧
      ((play (sqlStep ordersEnv ordersJob) ordersStart outOfOrderCalls).store.bindings
        "job-1").map IncrementalBinding.sourceRevision = some 2 ∧
      ((play (sqlStep ordersEnv ordersJob) ordersStart (outOfOrderCalls ++
        [.deliver ordersRun (ordersPublication 2 "out-2" "102" [(1, 0, 10)])])).store.batches
          ⟨"job-1", 1, 2⟩).bind Batch.lastErrorCode =
            some "CONTINUOUS_SQL_SOURCE_COMMIT_PENDING" := by
  refine ⟨not_consumed_of_leavesBehind ?_, ?_⟩
  · decide +kernel
  · decide +kernel

end AskLake.ContinuousSql

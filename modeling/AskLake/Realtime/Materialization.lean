/-
# `AskLake.Realtime.Materialization` — advancing the partition checkpoints

`advanceCheckpoints` is one `UPDATE … WHERE` for each partition of a boundary.
Each one is a compare-and-set on three columns,

    last_applied_offset = from      last_contiguously_received_offset ≥ to
    lease_generation = generation

and the first one that matches no row raises.  `advanceCheckpoints_linked` says
what a completed loop has done: on every partition, the boundary's intervals
lead from the old `last_applied_offset` to the new one.
-/
import AskLake.Store

namespace AskLake.Realtime

open AskLake.Lib AskLake.Python

abbrev Checkpoints := Table CheckpointKey Checkpoint

/-- `last_applied_offset`, or its default where the row is missing. -/
def lastApplied (checkpoints : Checkpoints) (key : CheckpointKey) : Int :=
  (checkpoints key).elim (-1) Checkpoint.lastAppliedOffset

def PartitionBoundary.checkpointKey (item : PartitionBoundary) (pipelineVersionId : String) :
    CheckpointKey :=
  ⟨pipelineVersionId, item.topic, item.partition⟩

/-- The condition of the `UPDATE`, on the row it addresses. -/
def casMatches (item : PartitionBoundary) (leaseGeneration : Nat) (row : Checkpoint) : Bool :=
  row.lastAppliedOffset == item.fromOffsetExclusive &&
    decide (item.toOffsetInclusive ≤ row.lastContiguouslyReceivedOffset) &&
    row.leaseGeneration == leaseGeneration

/-- One `UPDATE` of the loop. -/
def advancePartition (pipelineVersionId : String) (leaseGeneration : Nat)
    (checkpoints : Checkpoints) (item : PartitionBoundary) : Except Error Checkpoints := do
  let row ← orReject
    ((checkpoints (item.checkpointKey pipelineVersionId)).filter (casMatches item leaseGeneration))
    (.value s!"stale checkpoint CAS for {item.topic}[{item.partition}]")
  pure (checkpoints.put (item.checkpointKey pipelineVersionId)
    { row with lastAppliedOffset := item.toOffsetInclusive })

def advanceAll (pipelineVersionId : String) (leaseGeneration : Nat) :
    Checkpoints → List PartitionBoundary → Except Error Checkpoints
  | checkpoints, [] => .ok checkpoints
  | checkpoints, item :: rest => do
      let checkpoints ← advancePartition pipelineVersionId leaseGeneration checkpoints item
      advanceAll pipelineVersionId leaseGeneration checkpoints rest

/-- `MaterializationRepository.advance_checkpoints` -/
def advanceCheckpoints (checkpoints : Checkpoints) (pipelineVersionId : String)
    (boundary : SourceBoundary) (leaseGeneration : Nat) : Except Error Checkpoints :=
  advanceAll pipelineVersionId leaseGeneration checkpoints boundary.partitions

/-! ## One `UPDATE` -/

section
variable {pipelineVersionId : String} {leaseGeneration : Nat} {checkpoints checkpoints' : Checkpoints}

theorem casMatches_iff {item : PartitionBoundary} {row : Checkpoint} :
    casMatches item leaseGeneration row = true ↔
      row.lastAppliedOffset = item.fromOffsetExclusive ∧
        item.toOffsetInclusive ≤ row.lastContiguouslyReceivedOffset ∧
        row.leaseGeneration = leaseGeneration := by
  simp [casMatches, and_assoc]

theorem advancePartition_eq_ok {item : PartitionBoundary} :
    advancePartition pipelineVersionId leaseGeneration checkpoints item = .ok checkpoints' ↔
      ∃ row, checkpoints (item.checkpointKey pipelineVersionId) = some row ∧
        casMatches item leaseGeneration row = true ∧
        checkpoints' = checkpoints.put (item.checkpointKey pipelineVersionId)
          { row with lastAppliedOffset := item.toOffsetInclusive } := by
  rw [advancePartition, bind_eq_ok]
  constructor
  · rintro ⟨row, hrow, hput⟩
    obtain ⟨hsome, hcas⟩ := Option.filter_eq_some_iff.mp (orReject_eq_ok.mp hrow)
    exact ⟨row, hsome, hcas, (pure_eq_ok.mp hput).symm⟩
  · rintro ⟨row, hsome, hcas, rfl⟩
    exact ⟨row, orReject_eq_ok.mpr (Option.filter_eq_some_iff.mpr ⟨hsome, hcas⟩), rfl⟩

/-- The partition the `UPDATE` addresses moves over the item's interval; the
others stay. -/
theorem advancePartition_lastApplied {item : PartitionBoundary}
    (h : advancePartition pipelineVersionId leaseGeneration checkpoints item = .ok checkpoints')
    (key : CheckpointKey) :
    if key = item.checkpointKey pipelineVersionId then
      lastApplied checkpoints key = item.fromOffsetExclusive ∧
        lastApplied checkpoints' key = item.toOffsetInclusive
    else lastApplied checkpoints' key = lastApplied checkpoints key := by
  obtain ⟨row, hrow, hcas, rfl⟩ := advancePartition_eq_ok.mp h
  split
  · rename_i hkey
    subst hkey
    refine ⟨?_, ?_⟩
    · rw [lastApplied, hrow]
      exact (casMatches_iff.mp hcas).1
    · rw [lastApplied, Table.put_self]
      rfl
  · rename_i hkey
    rw [lastApplied, Table.put_ne _ hkey, lastApplied]

end

/-! ## The loop -/

/-- The intervals a boundary of pipeline version `pipelineVersionId` names on the
partition of a checkpoint row. -/
def SourceBoundary.intervalsAt (boundary : SourceBoundary) (pipelineVersionId : String)
    (key : CheckpointKey) : List (Int × Int) :=
  if key.pipelineVersionId = pipelineVersionId then boundary.intervals key.topic key.partition
  else []

theorem intervalsAt_cons (item : PartitionBoundary) (rest : List PartitionBoundary)
    (pipelineVersionId : String) (key : CheckpointKey) :
    SourceBoundary.intervalsAt ⟨item :: rest⟩ pipelineVersionId key =
      (if key = item.checkpointKey pipelineVersionId then [item.interval] else []) ++
        SourceBoundary.intervalsAt ⟨rest⟩ pipelineVersionId key := by
  obtain ⟨version, topic, partition⟩ := key
  unfold SourceBoundary.intervalsAt SourceBoundary.intervals PartitionBoundary.checkpointKey
  by_cases hversion : version = pipelineVersionId
  · subst hversion
    by_cases hitem : item.topic = topic ∧ item.partition = partition
    · obtain ⟨rfl, rfl⟩ := hitem
      simp
    · have hkey : ¬ (topic = item.topic ∧ partition = item.partition) :=
        fun h => hitem ⟨h.1.symm, h.2.symm⟩
      simp [hitem, hkey]
  · simp [hversion]

theorem advanceAll_linked {pipelineVersionId : String} {leaseGeneration : Nat}
    {items : List PartitionBoundary} {checkpoints checkpoints' : Checkpoints}
    (h : advanceAll pipelineVersionId leaseGeneration checkpoints items = .ok checkpoints')
    (key : CheckpointKey) :
    Linked (lastApplied checkpoints key)
      (SourceBoundary.intervalsAt ⟨items⟩ pipelineVersionId key) (lastApplied checkpoints' key) := by
  induction items generalizing checkpoints with
  | nil =>
      cases h
      unfold SourceBoundary.intervalsAt
      split <;> rfl
  | cons item rest ih =>
      obtain ⟨middle, hitem, hrest⟩ := bind_eq_ok.mp h
      have htail := ih hrest
      have hmove := advancePartition_lastApplied hitem key
      have hhead : Linked (lastApplied checkpoints key)
          (if key = item.checkpointKey pipelineVersionId then [item.interval] else [])
          (lastApplied middle key) := by
        split at hmove
        · rename_i hkey
          rw [if_pos hkey]
          exact ⟨hmove.1.symm, by rw [hmove.1]; exact item.nonempty, hmove.2.symm⟩
        · rename_i hkey
          rw [if_neg hkey]
          exact hmove.symm
      rw [intervalsAt_cons]
      exact hhead.append htail

/-- What a completed loop has done, on every partition. -/
theorem advanceCheckpoints_linked {pipelineVersionId : String} {leaseGeneration : Nat}
    {boundary : SourceBoundary} {checkpoints checkpoints' : Checkpoints}
    (h : advanceCheckpoints checkpoints pipelineVersionId boundary leaseGeneration = .ok checkpoints')
    (key : CheckpointKey) :
    Linked (lastApplied checkpoints key) (boundary.intervalsAt pipelineVersionId key)
      (lastApplied checkpoints' key) :=
  advanceAll_linked h key

/-! ## A stale partition -/

/-- Some `UPDATE` of the loop, on the rows as the earlier ones left them, matches
no row. -/
def StaleAt (pipelineVersionId : String) (leaseGeneration : Nat) :
    Checkpoints → List PartitionBoundary → Prop
  | _, [] => False
  | checkpoints, item :: rest =>
      (∀ row, checkpoints (item.checkpointKey pipelineVersionId) = some row →
        casMatches item leaseGeneration row = false) ∨
      ∃ checkpoints', advancePartition pipelineVersionId leaseGeneration checkpoints item
        = .ok checkpoints' ∧ StaleAt pipelineVersionId leaseGeneration checkpoints' rest

/-- The loop completes unless one of its partitions is stale. -/
theorem advanceAll_stale {pipelineVersionId : String} {leaseGeneration : Nat}
    {items : List PartitionBoundary} {checkpoints checkpoints' : Checkpoints}
    (hstale : StaleAt pipelineVersionId leaseGeneration checkpoints items) :
    advanceAll pipelineVersionId leaseGeneration checkpoints items ≠ .ok checkpoints' := by
  induction items generalizing checkpoints with
  | nil => exact hstale.elim
  | cons item rest ih =>
      intro h
      obtain ⟨middle, hitem, hrest⟩ := bind_eq_ok.mp h
      rcases hstale with hnone | ⟨middle', hitem', hlater⟩
      · obtain ⟨row, hrow, hcas, -⟩ := advancePartition_eq_ok.mp hitem
        exact absurd hcas (by rw [hnone row hrow]; decide)
      · cases hitem.symm.trans hitem'
        exact ih hlater hrest

end AskLake.Realtime

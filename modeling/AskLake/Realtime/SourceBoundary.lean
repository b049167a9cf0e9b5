/-
# `AskLake.Realtime.SourceBoundary` — the source positions one materialization covers

A boundary names, for each partition, the offsets `(from_offset_exclusive,
to_offset_inclusive]`.  `PartitionBoundary` holds what its `__post_init__`
checks.  `SourceBoundary` is the plain record of the source: `build` sorts its
partitions and rejects repeated ones, but the class can be constructed without
it, and no result below assumes that it was not.
-/
import Mathlib.Data.Prod.Lex
import Mathlib.Data.List.Nodup
import Mathlib.Data.String.Basic
import AskLake.Lib.Chain
import AskLake.Lib.Outcome
import AskLake.Python.Basic
import AskLake.Python.Json

namespace AskLake.Realtime

open AskLake.Lib AskLake.Python

@[ext] structure PartitionBoundary where
  topic : String
  partition : Int
  fromOffsetExclusive : Int
  toOffsetInclusive : Int
  identity : blank topic = false ∧ 0 ≤ partition
  floor : -1 ≤ fromOffsetExclusive
  nonempty : fromOffsetExclusive < toOffsetInclusive

instance : DecidableEq PartitionBoundary := fun a b =>
  decidable_of_iff
    (a.topic = b.topic ∧ a.partition = b.partition ∧
      a.fromOffsetExclusive = b.fromOffsetExclusive ∧
      a.toOffsetInclusive = b.toOffsetInclusive)
    PartitionBoundary.ext_iff.symm

namespace PartitionBoundary

/-- The offsets of the boundary, as an interval. -/
def interval (b : PartitionBoundary) : Int × Int := (b.fromOffsetExclusive, b.toOffsetInclusive)

/-- The order the dataclass derives from its fields. -/
def sortKey (b : PartitionBoundary) : String ×ₗ Int ×ₗ Int ×ₗ Int :=
  toLex (b.topic, toLex (b.partition, toLex (b.fromOffsetExclusive, b.toOffsetInclusive)))

def document (b : PartitionBoundary) : Json :=
  .obj [("topic", .str b.topic), ("partition", .int b.partition),
    ("fromOffsetExclusive", .int b.fromOffsetExclusive),
    ("toOffsetInclusive", .int b.toOffsetInclusive)]

/-- `f"{topic}|{partition}|{from_offset_exclusive}|{to_offset_inclusive}"` -/
def line (b : PartitionBoundary) : String :=
  s!"{b.topic}|{b.partition}|{b.fromOffsetExclusive}|{b.toOffsetInclusive}"

end PartitionBoundary

structure SourceBoundary where
  partitions : List PartitionBoundary
  deriving DecidableEq

namespace SourceBoundary

def build (partitions : List PartitionBoundary) : Except Error SourceBoundary := do
  let ordered := partitions.insertionSort fun a b => a.sortKey ≤ b.sortKey
  rejectIf (ordered = [] ∨ ¬ (ordered.map fun item => (item.topic, item.partition)).Nodup)
    (.value "source boundary requires unique non-empty partitions")
  pure ⟨ordered⟩

/-- A built boundary names each partition once, and at least one. -/
theorem build_eq_ok {partitions : List PartitionBoundary} {boundary : SourceBoundary}
    (h : build partitions = .ok boundary) :
    boundary.partitions.Perm partitions ∧ boundary.partitions ≠ [] ∧
      (boundary.partitions.map fun item => (item.topic, item.partition)).Nodup := by
  obtain ⟨_, hreject, hpure⟩ := bind_eq_ok.mp h
  have hok := rejectIf_eq_ok.mp hreject
  cases pure_eq_ok.mp hpure
  rw [not_or, not_not] at hok
  exact ⟨List.perm_insertionSort _ partitions, hok.1, hok.2⟩

def document (boundary : SourceBoundary) : Json :=
  .obj [("partitions", .arr (boundary.partitions.map PartitionBoundary.document))]

/-- The text a boundary is fingerprinted by, within one pipeline version. -/
def material (boundary : SourceBoundary) (pipelineVersionId : String) : String :=
  "|".intercalate (pipelineVersionId :: boundary.partitions.map PartitionBoundary.line)

def fingerprint (rt : Runtime) (boundary : SourceBoundary) (pipelineVersionId : String) :
    Except Error String := do
  rejectIf (blank pipelineVersionId) (.value "pipeline version is required")
  pure (rt.sha256 (boundary.material pipelineVersionId))

/-- The intervals the boundary names on one partition. -/
def intervals (boundary : SourceBoundary) (topic : String) (partition : Int) : List (Int × Int) :=
  (boundary.partitions.filter fun b => b.topic = topic ∧ b.partition = partition).map
    PartitionBoundary.interval

end SourceBoundary

/-! ## The boundary of a Kafka Connect ingestion -/

/-- Offsets `[startOffset, endOffset)`. -/
structure IngestPartition where
  partition : Int
  startOffset : Int
  endOffset : Int
  deriving DecidableEq

def IngestPartition.document (p : IngestPartition) : Json :=
  .obj [("partition", .int p.partition), ("startOffset", .int p.startOffset),
    ("endOffset", .int p.endOffset)]

/-- The document `kafka_connect_clickhouse_v2`. -/
structure IngestBoundary where
  jobId : String
  topic : String
  partitions : List IngestPartition
  deriving DecidableEq

def IngestBoundary.document (boundary : IngestBoundary) : Json :=
  .obj [("kind", .str "kafka_connect_clickhouse_v2"), ("jobId", .str boundary.jobId),
    ("topic", .str boundary.topic),
    ("partitions", .arr (boundary.partitions.map IngestPartition.document))]

end AskLake.Realtime

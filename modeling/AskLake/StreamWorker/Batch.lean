/-
# `AskLake.StreamWorker.Batch` — micro-batches, their ranges, and the cursors

Spark hands the worker a micro-batch: records with their Kafka positions.  The
worker drops what its cursors say it has committed, and names what is left by one
range for each partition:

    retainUncommittedOffsets    the records at or above the cursor of their partition
    batchSourceRanges           first offset to last offset + 1, per partition
    advance…Cursors             each cursor to the end of the range, if that is later

A partition without a cursor is read from offset 0, so that `nextOffset` says all
that a cursor says.
-/
import AskLake.ContinuousSql.SourceRanges
import AskLake.Lib.Table

namespace AskLake.StreamWorker

open AskLake.Lib AskLake.Kafka AskLake.Python AskLake.ContinuousSql

/-- A record of a Kafka topic; topics have plain names. -/
@[ext] structure Record (Row : Type) where
  topic : String
  partition : Int
  offset : Int
  row : Row
  topic_stripped : strip topic = topic
  topic_named : topic ≠ ""
  topic_short : topic.length ≤ 512
  partition_nonneg : 0 ≤ partition
  offset_nonneg : 0 ≤ offset

instance {Row : Type} [DecidableEq Row] : DecidableEq (Record Row) := fun a b =>
  decidable_of_iff
    (a.topic = b.topic ∧ a.partition = b.partition ∧ a.offset = b.offset ∧
      a.row = b.row)
    Record.ext_iff.symm

section
variable {Row : Type}

namespace Record

def key (record : Record Row) : PartitionKey := (record.topic, record.partition)

/-- The range of one record. -/
def range (record : Record Row) : KafkaRange where
  topic := record.topic
  partition := record.partition
  startOffset := record.offset
  endOffset := record.offset + 1
  topic_stripped := record.topic_stripped
  topic_named := record.topic_named
  topic_short := record.topic_short
  partition_nonneg := record.partition_nonneg
  start_nonneg := record.offset_nonneg
  nonempty := Int.lt_succ _

/-- `min(offset)` and `max(offset) + 1`, with one more record. -/
def extend (record : Record Row) (range : KafkaRange) : KafkaRange :=
  { range with
    startOffset := min range.startOffset record.offset
    endOffset := max range.endOffset (record.offset + 1)
    start_nonneg := le_min range.start_nonneg record.offset_nonneg
    nonempty := (min_le_left _ _).trans_lt (range.nonempty.trans_le (le_max_left _ _)) }

end Record

/-! ## `batch_source_ranges` -/

/-- `sorted(…, key=lambda item: (item["topic"], item["partition"]))` -/
def normalizedSourceRanges (ranges : List KafkaRange) : List KafkaRange :=
  ranges.insertionSort fun a b => toLex a.key ≤ toLex b.key

def batchSourceRanges (batch : List (Record Row)) : List KafkaRange :=
  normalizedSourceRanges ((collect Record.key Record.range Record.extend batch).map Prod.snd)

theorem normalizedSourceRanges_idem (ranges : List KafkaRange) :
    normalizedSourceRanges (normalizedSourceRanges ranges) = normalizedSourceRanges ranges := by
  have hsorted := List.pairwise_insertionSort
    (fun a b : KafkaRange => toLex a.key ≤ toLex b.key) ranges
  exact hsorted.insertionSort_eq

theorem normalizedSourceRanges_batch (batch : List (Record Row)) :
    normalizedSourceRanges (batchSourceRanges batch) = batchSourceRanges batch :=
  normalizedSourceRanges_idem _

/-- The range of some records of one partition covers each of them. -/
theorem combine_range {key : PartitionKey} {records : List (Record Row)} {range : KafkaRange}
    (hkey : ∀ record ∈ records, record.key = key)
    (h : combine Record.range Record.extend records = some range) :
    range.key = key ∧ ∀ record ∈ records, range.covers record.offset := by
  induction records using List.reverseRecOn generalizing range with
  | nil => exact nomatch h
  | append_singleton records last ih =>
      rw [combine_append, Option.some.injEq] at h
      have hlast : last.key = key := hkey last (List.mem_append_right _ List.mem_cons_self)
      have hrecords : ∀ record ∈ records, record.key = key :=
        fun record hrecord => hkey record (List.mem_append_left _ hrecord)
      cases hprev : combine Record.range Record.extend records with
      | none =>
          have hnil : records = [] := by
            cases records with
            | nil => rfl
            | cons first rest => exact nomatch hprev
          subst hnil
          rw [hprev, Option.elim_none] at h
          subst h
          refine ⟨hlast, fun record hrecord => ?_⟩
          rw [List.nil_append] at hrecord
          rw [List.mem_singleton.mp hrecord]
          exact ⟨le_refl _, Int.lt_succ _⟩
      | some previous =>
          obtain ⟨hprevKey, hcovers⟩ := ih hrecords hprev
          rw [hprev, Option.elim_some] at h
          subst h
          refine ⟨hprevKey, fun record hrecord => ?_⟩
          rcases List.mem_append.mp hrecord with hrecord | hrecord
          · obtain ⟨hstart, hend⟩ := hcovers record hrecord
            exact ⟨(min_le_left _ _).trans hstart, hend.trans_le (le_max_left _ _)⟩
          · rw [List.mem_singleton.mp hrecord]
            exact ⟨min_le_right _ _, (Int.lt_succ _).trans_le (le_max_right _ _)⟩

/-- The ranges of a batch cover its records. -/
theorem coveredBy_batchSourceRanges {batch : List (Record Row)} {record : Record Row}
    (h : record ∈ batch) : CoveredBy (batchSourceRanges batch) record.key record.offset := by
  have hentry : ∃ range, (record.key, range) ∈
      collect Record.key Record.range Record.extend batch := exists_mem_collect h
  obtain ⟨range, hrange⟩ := hentry
  obtain ⟨hkey, hcovers⟩ := combine_range
    (fun other hother => of_decide_eq_true (List.mem_filter.mp hother).2) (mem_collect.mp hrange)
  refine ⟨range, ?_, hkey, hcovers record (List.mem_filter.mpr ⟨h, decide_eq_true rfl⟩)⟩
  exact (List.mem_insertionSort _).mpr (List.mem_map.mpr ⟨_, hrange, rfl⟩)

/-! ## Cursors -/

/-- `STREAM_PARTITION_CURSORS` -/
abbrev Cursors := Table PartitionKey Int

/-- The first offset of a partition that is not behind its cursor. -/
def nextOffset (cursors : Cursors) (key : PartitionKey) : Int := (cursors key).getD 0

/-- `cursors[key] = max(cursors.get(key, 0), next_offset)` -/
def raiseCursor (cursors : Cursors) (key : PartitionKey) (next : Int) : Cursors :=
  cursors.put key (max (nextOffset cursors key) next)

def advanceWorkerStreamPartitionCursors (cursors : Cursors) (ranges : List KafkaRange) : Cursors :=
  ranges.foldl (fun cursors range => raiseCursor cursors range.key range.endOffset) cursors

/-- The cursors that the control plane hands over at the start of a process. -/
def normalizeStreamPartitionCursors (items : List (PartitionKey × Int)) : Cursors :=
  (items.filter fun item => strip item.1.1 ≠ "" ∧ 0 ≤ item.1.2 ∧ 0 ≤ item.2).foldl
    (fun cursors item => raiseCursor cursors (strip item.1.1, item.1.2) item.2) fun _ => none

def retainUncommittedOffsets (cursors : Cursors) (batch : List (Record Row)) :
    List (Record Row) :=
  batch.filter fun record => !((cursors record.key).any fun next => record.offset < next)

theorem mem_retainUncommittedOffsets {cursors : Cursors} {batch : List (Record Row)}
    {record : Record Row} : record ∈ retainUncommittedOffsets cursors batch ↔
      record ∈ batch ∧ nextOffset cursors record.key ≤ record.offset := by
  rw [retainUncommittedOffsets, List.mem_filter, nextOffset]
  refine and_congr_right fun _ => ?_
  cases cursors record.key with
  | none => simpa using record.offset_nonneg
  | some next => simp

/-- What is retained depends on the next offsets alone. -/
theorem retainUncommittedOffsets_congr {cursors cursors' : Cursors}
    (h : ∀ key, nextOffset cursors key = nextOffset cursors' key) (batch : List (Record Row)) :
    retainUncommittedOffsets cursors batch = retainUncommittedOffsets cursors' batch := by
  refine List.filter_congr fun record _ => ?_
  have hnext := h record.key
  have hnonneg := record.offset_nonneg
  rw [nextOffset, nextOffset] at hnext
  cases hc : cursors record.key with
  | none =>
      cases hc' : cursors' record.key with
      | none => rfl
      | some next =>
          rw [hc, hc'] at hnext
          have hzero : next = 0 := hnext.symm
          simpa [hzero] using hnonneg
  | some next =>
      cases hc' : cursors' record.key with
      | none =>
          rw [hc, hc'] at hnext
          have hzero : next = 0 := hnext
          simpa [hzero] using hnonneg
      | some next' =>
          rw [hc, hc'] at hnext
          have hsame : next = next' := hnext
          rw [hsame]

theorem nextOffset_raiseCursor (cursors : Cursors) (key other : PartitionKey) (next : Int) :
    nextOffset (raiseCursor cursors key next) other =
      if other = key then max (nextOffset cursors key) next else nextOffset cursors other := by
  rw [nextOffset, raiseCursor, Table.put_apply]
  split <;> rfl

/-- An offset is behind the cursor when it was, or when a range ends after it. -/
theorem lt_nextOffset_advance (cursors : Cursors) (ranges : List KafkaRange) (key : PartitionKey)
    (o : Int) : o < nextOffset (advanceWorkerStreamPartitionCursors cursors ranges) key ↔
      o < nextOffset cursors key ∨ ∃ range ∈ ranges, range.key = key ∧ o < range.endOffset := by
  induction ranges generalizing cursors with
  | nil =>
      constructor
      · exact Or.inl
      · rintro (h | ⟨range, hrange, -⟩)
        · exact h
        · exact nomatch hrange
  | cons range rest ih =>
      have hstep : advanceWorkerStreamPartitionCursors cursors (range :: rest) =
          advanceWorkerStreamPartitionCursors (raiseCursor cursors range.key range.endOffset)
            rest := rfl
      have hraise : o < nextOffset (raiseCursor cursors range.key range.endOffset) key ↔
          o < nextOffset cursors key ∨ range.key = key ∧ o < range.endOffset := by
        rw [nextOffset_raiseCursor]
        by_cases hkey : key = range.key
        · rw [if_pos hkey, lt_max_iff, hkey]
          simp
        · rw [if_neg hkey]
          simp [Ne.symm hkey]
      rw [hstep, ih, hraise, or_assoc]
      simp

end

end AskLake.StreamWorker

/-
# `AskLake.ContinuousSql.SourceRanges` — coverage and next offsets

What the publication service asks of source ranges:

    sourceRangeCoverage    per partition, the ranges joined where they touch
    coverageContains       every target span inside one available span
    nextOffsets            per partition, the greatest end
    mergeNextOffsets       the same, of two such lists
    sourceRangesConsumed   every end at or below the offset of its partition

`coverageContains_iff` reads the second as a question about offsets, and
`cursorAt_merge` the fourth as a maximum.
-/
import AskLake.Kafka.SourceRanges
import AskLake.Lib.Dict
import AskLake.Lib.Spans
import Mathlib.Algebra.Ring.Int.Defs

namespace AskLake.ContinuousSql

open AskLake.Lib AskLake.Kafka AskLake.Python

/-- The offset `o` of the partition is in one of the ranges. -/
def CoveredBy (items : List KafkaRange) (key : PartitionKey) (o : Int) : Prop :=
  ∃ r ∈ items, r.key = key ∧ r.covers o

/-! ## `_source_range_coverage` -/

abbrev Coverage := List (PartitionKey × List (Int × Int))

def span (r : KafkaRange) : Int × Int := (r.startOffset, r.endOffset)

/-- `grouped.setdefault(…, []).append(…)` -/
def groupSpans (items : List KafkaRange) : List (PartitionKey × List (Int × Int)) :=
  collect KafkaRange.key (fun r => [span r]) (fun r spans => spans ++ [span r]) items

/-- `sorted(grouped.items())`, of a dictionary -/
def sortedItems {β : Type} (dict : List (PartitionKey × β)) : List (PartitionKey × β) :=
  dict.insertionSort fun a b => toLex a.1 ≤ toLex b.1

/-- `sorted(ranges)` -/
def sortedSpans (spans : List (Int × Int)) : List (Int × Int) :=
  spans.insertionSort fun a b => toLex a ≤ toLex b

def coverageOf (ranges : KafkaRanges) : Coverage :=
  (sortedItems (groupSpans ranges.items)).map fun entry =>
    (entry.1, joinTouching (sortedSpans entry.2))

def sourceRangeCoverage (sourceRanges : List RangeItem) : Except Error Coverage := do
  let ranges ← normalizeKafkaSourceRanges (.list sourceRanges) true
  pure (coverageOf ranges)

def coverageContains (available target : Coverage) : Bool :=
  target.all fun entry => entry.2.all fun t =>
    ((valueAt available entry.1).getD []).any fun a => a.1 ≤ t.1 && t.2 ≤ a.2

section
variable {ranges : KafkaRanges} {key : PartitionKey} {o : Int}

/-- The spans of one partition, as the grouping leaves them. -/
def spansAt (ranges : KafkaRanges) (key : PartitionKey) : List (Int × Int) :=
  (ranges.items.filter fun r => r.key = key).map span

theorem foldl_spans (rest : List KafkaRange) (spans : List (Int × Int)) :
    rest.foldl (fun spans r => spans ++ [span r]) spans = spans ++ rest.map span := by
  induction rest generalizing spans with
  | nil => rw [List.foldl_nil, List.map_nil, List.append_nil]
  | cons r rest ih =>
      rw [List.foldl_cons, ih, List.map_cons, List.append_assoc]
      rfl

theorem combine_spans (items : List KafkaRange) :
    combine (fun r => [span r]) (fun r spans => spans ++ [span r]) items =
      if items = [] then none else some (items.map span) := by
  cases items with
  | nil => rfl
  | cons r rest =>
      rw [combine, foldl_spans, if_neg (List.cons_ne_nil _ _)]
      rfl

theorem spansAt_inOrder (ranges : KafkaRanges) (key : PartitionKey) :
    InOrder (spansAt ranges key) := by
  constructor
  · intro s hs
    obtain ⟨r, -, rfl⟩ := List.mem_map.mp hs
    exact r.nonempty
  · refine List.pairwise_map.mpr ?_
    refine (ranges.disjoint.filter _).imp_of_mem fun {a b} ha hb hbefore => hbefore ?_
    have hkey : a.key = key := of_decide_eq_true (List.mem_filter.mp ha).2
    exact hkey.trans (of_decide_eq_true (List.mem_filter.mp hb).2).symm

/-- The ranges are sorted already. -/
theorem sortedSpans_spansAt (ranges : KafkaRanges) (key : PartitionKey) :
    sortedSpans (spansAt ranges key) = spansAt ranges key := by
  have hin := spansAt_inOrder ranges key
  have hsorted : (spansAt ranges key).Pairwise fun a b => toLex a ≤ toLex b := by
    refine hin.ordered.imp_of_mem fun {a b} ha _ hle => ?_
    have hne := hin.nonempty a ha
    exact (Prod.Lex.toLex_lt_toLex.mpr (Or.inl (hne.trans_le hle))).le
  exact hsorted.insertionSort_eq

theorem held_spansAt : Held (spansAt ranges key) o ↔ CoveredBy ranges.items key o := by
  constructor
  · rintro ⟨s, hs, hin⟩
    obtain ⟨r, hr, rfl⟩ := List.mem_map.mp hs
    obtain ⟨hmem, hkey⟩ := List.mem_filter.mp hr
    exact ⟨r, hmem, of_decide_eq_true hkey, hin⟩
  · rintro ⟨r, hmem, hkey, hin⟩
    exact ⟨span r, List.mem_map.mpr ⟨r, List.mem_filter.mpr ⟨hmem, decide_eq_true hkey⟩, rfl⟩, hin⟩

/-- What the coverage says of a partition. -/
theorem mem_coverageOf {spans : List (Int × Int)} :
    (key, spans) ∈ coverageOf ranges ↔
      spansAt ranges key ≠ [] ∧ spans = joinTouching (spansAt ranges key) := by
  have hgroup : ∀ group, (key, group) ∈ groupSpans ranges.items ↔
      spansAt ranges key ≠ [] ∧ group = spansAt ranges key := by
    intro group
    rw [groupSpans, mem_collect, combine_spans, spansAt, ne_eq, List.map_eq_nil_iff]
    split
    · rename_i hnil
      exact ⟨fun h => (nomatch h), fun h => absurd hnil h.1⟩
    · rename_i hne
      rw [Option.some.injEq]
      exact ⟨fun h => ⟨hne, h.symm⟩, fun h => h.2.symm⟩
  constructor
  · intro hmem
    obtain ⟨entry, hentry, heq⟩ := List.mem_map.mp hmem
    obtain ⟨rfl, rfl⟩ := Prod.mk.inj heq
    obtain ⟨hne, hspans⟩ := (hgroup entry.2).mp ((List.mem_insertionSort _).mp hentry)
    refine ⟨hne, ?_⟩
    rw [hspans, sortedSpans_spansAt]
  · rintro ⟨hne, rfl⟩
    refine List.mem_map.mpr ⟨(key, spansAt ranges key), ?_, ?_⟩
    · exact (List.mem_insertionSort _).mpr ((hgroup _).mpr ⟨hne, rfl⟩)
    · rw [sortedSpans_spansAt]

theorem nodup_coverageOf (ranges : KafkaRanges) : ((coverageOf ranges).map Prod.fst).Nodup := by
  have hperm : ((sortedItems (groupSpans ranges.items)).map Prod.fst).Perm
      ((groupSpans ranges.items).map Prod.fst) := (List.perm_insertionSort _ _).map Prod.fst
  rw [coverageOf, List.map_map]
  exact hperm.nodup_iff.mpr (nodup_collect _)

/-- The spans available at a partition hold the offsets of its ranges. -/
theorem valueAt_coverageOf (ranges : KafkaRanges) (key : PartitionKey) :
    (valueAt (coverageOf ranges) key).getD [] = joinTouching (spansAt ranges key) := by
  by_cases hnil : spansAt ranges key = []
  · cases hvalue : valueAt (coverageOf ranges) key with
    | none => rw [hnil]; rfl
    | some spans =>
        have hmem := (mem_iff_valueAt (nodup_coverageOf ranges)).mpr hvalue
        exact absurd hnil (mem_coverageOf.mp hmem).1
  · have hmem : (key, joinTouching (spansAt ranges key)) ∈ coverageOf ranges :=
      mem_coverageOf.mpr ⟨hnil, rfl⟩
    rw [(mem_iff_valueAt (nodup_coverageOf ranges)).mp hmem, Option.getD_some]

/-- Containment of coverages is containment of offsets. -/
theorem coverageContains_iff {available target : KafkaRanges} :
    coverageContains (coverageOf available) (coverageOf target) = true ↔
      ∀ key o, CoveredBy target.items key o → CoveredBy available.items key o := by
  have hone : ∀ (key : PartitionKey) (t : Int × Int), t.1 < t.2 →
      (((valueAt (coverageOf available) key).getD []).any (fun a => a.1 ≤ t.1 && t.2 ≤ a.2) = true ↔
        ∀ o, t.1 ≤ o → o < t.2 → CoveredBy available.items key o) := by
    intro key t ht
    have hin := spansAt_inOrder available key
    rw [valueAt_coverageOf, List.any_eq_true]
    simp only [Bool.and_eq_true, decide_eq_true_eq]
    rw [within_one_iff (separate_joinTouching hin) ht]
    refine forall_congr' fun o => imp_congr_right fun _ => imp_congr_right fun _ => ?_
    rw [held_joinTouching hin, held_spansAt]
  rw [coverageContains, List.all_eq_true]
  constructor
  · intro hall key o hcovered
    have hin := spansAt_inOrder target key
    obtain ⟨t, ht, hstart, hend⟩ := (held_joinTouching hin).mpr (held_spansAt.mpr hcovered)
    have hne : spansAt target key ≠ [] := by
      intro hnil
      rw [hnil] at ht
      exact nomatch ht
    have hentry := hall _ (mem_coverageOf.mpr ⟨hne, rfl⟩)
    have hspan := List.all_eq_true.mp hentry t ht
    exact (hone key t ((separate_joinTouching hin).nonempty t ht)).mp hspan o hstart hend
  · rintro hall ⟨key, spans⟩ hentry
    obtain ⟨-, rfl⟩ := mem_coverageOf.mp hentry
    have hin := spansAt_inOrder target key
    refine List.all_eq_true.mpr fun t ht => ?_
    refine (hone key t ((separate_joinTouching hin).nonempty t ht)).mpr fun o hstart hend => ?_
    exact hall key o (held_spansAt.mp ((held_joinTouching hin).mp ⟨t, ht, hstart, hend⟩))

end

/-! ## Rows and next offsets -/

/-- `_source_row_count` -/
def sourceRowCount (ranges : KafkaRanges) : Int :=
  (ranges.items.map fun r => r.endOffset - r.startOffset).sum

/-- An entry of `next_offsets` -/
structure NextOffset where
  topic : String
  partition : Int
  nextOffset : Int
  deriving DecidableEq

def NextOffset.key (n : NextOffset) : PartitionKey := (n.topic, n.partition)

/-- The list of a `next_by_partition` dictionary -/
def offsetItems (nextByPartition : List (PartitionKey × Int)) : List NextOffset :=
  (sortedItems nextByPartition).map fun entry => ⟨entry.1.1, entry.1.2, entry.2⟩

/-- `_next_offsets` -/
def nextOffsetsOf (ranges : KafkaRanges) : List NextOffset :=
  offsetItems (collect KafkaRange.key (fun r => max 0 r.endOffset)
    (fun r next => max next r.endOffset) ranges.items)

/-- `_merge_next_offsets` -/
def mergeNextOffsets (previous current : List NextOffset) : List NextOffset :=
  offsetItems (collect NextOffset.key (fun n => max 0 n.nextOffset)
    (fun n next => max next n.nextOffset) ((previous ++ current).filter fun n => n.topic ≠ ""))

/-- `cursors.get(key, -1)` -/
def cursorAt (nextOffsets : List NextOffset) (key : PartitionKey) : Int :=
  (valueAt (collect NextOffset.key NextOffset.nextOffset (fun n _ => n.nextOffset) nextOffsets)
    key).getD (-1)

/-- `_source_ranges_consumed`, of normalized ranges -/
def consumedBy (ranges : KafkaRanges) (nextOffsets : List NextOffset) : Bool :=
  ranges.items.all fun r => r.endOffset ≤ cursorAt nextOffsets r.key

def sourceRangesConsumed (sourceRanges : List RangeItem) (nextOffsets : List NextOffset) :
    Except Error Bool := do
  let ranges ← normalizeKafkaSourceRanges (.list sourceRanges) true
  pure (consumedBy ranges nextOffsets)

section
variable {ranges : KafkaRanges} {previous current : List NextOffset}

theorem sum_rows_nonneg (items : List KafkaRange) :
    0 ≤ (items.map fun r => r.endOffset - r.startOffset).sum := by
  induction items with
  | nil => exact le_refl _
  | cons r rest ih =>
      have := r.nonempty
      rw [List.map_cons, List.sum_cons]
      omega

theorem sourceRowCount_pos (hne : ranges.items ≠ []) : 0 < sourceRowCount ranges := by
  unfold sourceRowCount
  cases hitems : ranges.items with
  | nil => exact absurd hitems hne
  | cons r rest =>
      have hrest := sum_rows_nonneg rest
      have := r.nonempty
      rw [List.map_cons, List.sum_cons]
      omega

/-- An entry of the list is an item of the dictionary. -/
theorem mem_offsetItems {dict : List (PartitionKey × Int)} {n : NextOffset} :
    n ∈ offsetItems dict ↔ (n.key, n.nextOffset) ∈ dict := by
  constructor
  · intro hn
    obtain ⟨entry, hentry, rfl⟩ := List.mem_map.mp hn
    exact (List.mem_insertionSort _).mp hentry
  · intro hn
    exact List.mem_map.mpr ⟨_, (List.mem_insertionSort _).mpr hn, rfl⟩

/-- A cursor is read from one of the entries, unless there is none. -/
theorem cursorAt_cases (nextOffsets : List NextOffset) (key : PartitionKey) :
    ((∀ n ∈ nextOffsets, n.key ≠ key) ∧ cursorAt nextOffsets key = -1) ∨
      ∃ n ∈ nextOffsets, n.key = key ∧ n.nextOffset = cursorAt nextOffsets key := by
  unfold cursorAt
  rw [valueAt, lookup_collect]
  rcases List.eq_nil_or_concat (nextOffsets.filter fun n => n.key = key) with hnil | ⟨front, n, hn⟩
  · refine Or.inl ⟨fun n hn hkey => ?_, by rw [hnil]; rfl⟩
    have hmem : n ∈ nextOffsets.filter fun n => n.key = key :=
      List.mem_filter.mpr ⟨hn, decide_eq_true hkey⟩
    rw [hnil] at hmem
    exact nomatch hmem
  · refine Or.inr ⟨n, ?_⟩
    have hmem : n ∈ nextOffsets.filter fun n => n.key = key := by rw [hn]; simp
    obtain ⟨hin, hkey⟩ := List.mem_filter.mp hmem
    refine ⟨hin, of_decide_eq_true hkey, ?_⟩
    rw [hn, List.concat_eq_append, combine_append]
    cases combine NextOffset.nextOffset (fun n _ => n.nextOffset) front <;> rfl

/-- The cursors of a list that was built from a dictionary. -/
theorem cursorAt_offsetItems {dict : List (PartitionKey × Int)} (h : (dict.map Prod.fst).Nodup)
    {key : PartitionKey} {next : Int} (hmem : (key, next) ∈ dict) :
    cursorAt (offsetItems dict) key = next := by
  rcases cursorAt_cases (offsetItems dict) key with ⟨hnone, -⟩ | ⟨n, hn, hkey, hnext⟩
  · have hn : (⟨key.1, key.2, next⟩ : NextOffset) ∈ offsetItems dict := mem_offsetItems.mpr hmem
    exact absurd rfl (hnone _ hn)
  · have hentry := mem_offsetItems.mp hn
    rw [hkey] at hentry
    have hsame := (mem_iff_valueAt h).mp hentry
    rw [(mem_iff_valueAt h).mp hmem, Option.some.injEq] at hsame
    rw [← hnext, ← hsame]

/-- No entry of either list is above the merged offset of its partition. -/
theorem le_cursorAt_merge {n : NextOffset} (hn : n ∈ previous ++ current) (hnamed : n.topic ≠ "") :
    n.nextOffset ≤ cursorAt (mergeNextOffsets previous current) n.key := by
  have hkept : n ∈ (previous ++ current).filter fun n => n.topic ≠ "" :=
    List.mem_filter.mpr ⟨hn, decide_eq_true hnamed⟩
  obtain ⟨next, hnext⟩ := @exists_mem_collect _ _ _ _ NextOffset.key
    (fun n => max 0 n.nextOffset) (fun n next => max next n.nextOffset) _ _ hkept
  unfold mergeNextOffsets
  rw [cursorAt_offsetItems (nodup_collect _) hnext]
  exact le_of_combine_max (mem_collect.mp hnext) n
    (List.mem_filter.mpr ⟨hkept, decide_eq_true rfl⟩)

/-- Merging only raises the offset of a partition. -/
theorem cursorAt_le_merge (previous current : List NextOffset) {key : PartitionKey}
    (hnamed : key.1 ≠ "") (hzero : 0 ≤ cursorAt previous key) :
    cursorAt previous key ≤ cursorAt (mergeNextOffsets previous current) key := by
  rcases cursorAt_cases previous key with ⟨-, hnone⟩ | ⟨n, hn, rfl, hnext⟩
  · omega
  · rw [← hnext]
    exact le_cursorAt_merge (List.mem_append_left _ hn) hnamed

/-- The merged offsets reach the end of every new range. -/
theorem end_le_merge (previous : List NextOffset) {r : KafkaRange} (hr : r ∈ ranges.items) :
    r.endOffset ≤ cursorAt (mergeNextOffsets previous (nextOffsetsOf ranges)) r.key := by
  obtain ⟨next, hnext⟩ := @exists_mem_collect _ _ _ _ KafkaRange.key
    (fun r => max 0 r.endOffset) (fun r next => max next r.endOffset) _ _ hr
  have hle : r.endOffset ≤ next := le_of_combine_max (mem_collect.mp hnext) r
    (List.mem_filter.mpr ⟨hr, decide_eq_true rfl⟩)
  have hentry : (⟨r.topic, r.partition, next⟩ : NextOffset) ∈ nextOffsetsOf ranges :=
    mem_offsetItems.mpr hnext
  exact hle.trans (le_cursorAt_merge (List.mem_append_right previous hentry) r.topic_named)

end

end AskLake.ContinuousSql

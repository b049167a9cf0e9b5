/-
# `AskLake.Kafka.CompactRanges` — the source ranges of a frame of rows

The compaction writes the ranges of a frame with a loop over its sorted rows, the
quarantine replay with a query that groups by offset less row number:

    compactKafkaSourceRanges    a range grows while the next row has its end offset
    replaySourceRanges          `range_group = offset - row_number() over (partition …)`

Both feed one publication identity, and both are the maximal runs of the frame.
A frame is the list of its rows; `distinct` and `orderBy` make its order and its
repetitions irrelevant.
-/
import AskLake.Lib.Runs
import Mathlib.Data.List.Sort
import Mathlib.Data.String.Basic

namespace AskLake.Kafka

open AskLake.Lib

/-- The columns both functions select. -/
structure FrameRow where
  topic : String
  partition : Int
  offset : Int
  deriving DecidableEq

structure SourceRange where
  topic : String
  partition : Int
  startOffset : Int
  endOffset : Int
  deriving DecidableEq

/-- Rows in the order of `orderBy("topic", "partition", "offset")`. -/
abbrev Point : Type := String ×ₗ (Int ×ₗ Int)

def point (topic : String) (partition offset : Int) : Point :=
  toLex (topic, toLex (partition, offset))

def FrameRow.point (row : FrameRow) : Point := Kafka.point row.topic row.partition row.offset

/-! ## `compact_kafka_source_ranges` -/

/-- `.distinct().orderBy("topic", "partition", "offset").collect()` -/
def collectRows (frame : List FrameRow) : List FrameRow :=
  frame.dedup.insertionSort fun a b => a.point ≤ b.point

/-- The loop body; `ranges[-1]` is the range that may grow. -/
def compactStep (ranges : List SourceRange) (row : FrameRow) : List SourceRange :=
  match ranges.getLast? with
  | some previous =>
      if previous.topic = row.topic ∧ previous.partition = row.partition ∧
          previous.endOffset = row.offset then
        ranges.dropLast ++ [{ previous with endOffset := row.offset + 1 }]
      else
        ranges ++ [⟨row.topic, row.partition, row.offset, row.offset + 1⟩]
  | none => ranges ++ [⟨row.topic, row.partition, row.offset, row.offset + 1⟩]

def compactKafkaSourceRanges (frame : List FrameRow) : List SourceRange :=
  (collectRows frame).foldl compactStep []

/-! ## `replay_source_ranges` -/

/-- A row of the grouped frame; `endOffset` is the greatest offset of the group. -/
structure GroupedRow where
  topic : String
  partition : Int
  startOffset : Int
  endOffset : Int

/-- `row_number() over (partition by topic, partition order by offset)`, on rows that are
distinct. -/
def rowNumber (distinctOffsets : List FrameRow) (row : FrameRow) : Nat :=
  (distinctOffsets.filter fun other =>
    other.topic = row.topic ∧ other.partition = row.partition ∧ other.offset ≤ row.offset).length

def rangeGroup (distinctOffsets : List FrameRow) (row : FrameRow) : Int :=
  row.offset - rowNumber distinctOffsets row

/-- The columns of `groupBy("topic", "partition", "range_group")`. -/
def groupKey (distinctOffsets : List FrameRow) (row : FrameRow) : String × Int × Int :=
  (row.topic, row.partition, rangeGroup distinctOffsets row)

/-- `min` and `max` of one group; a group has a row. -/
def aggregate (distinctOffsets : List FrameRow) (key : String × Int × Int) : GroupedRow :=
  let offsets := (distinctOffsets.filter fun row => groupKey distinctOffsets row = key).map
    FrameRow.offset
  ⟨key.1, key.2.1, offsets.min?.getD 0, offsets.max?.getD 0⟩

def groupedRows (distinctOffsets : List FrameRow) : List GroupedRow :=
  ((distinctOffsets.map (groupKey distinctOffsets)).dedup.map
    (aggregate distinctOffsets)).insertionSort fun a b =>
      point a.topic a.partition a.startOffset ≤ point b.topic b.partition b.startOffset

def replaySourceRanges (frame : List FrameRow) : List SourceRange :=
  (groupedRows frame.dedup).map fun row =>
    ⟨row.topic, row.partition, row.startOffset, row.endOffset + 1⟩

/-! ## Points -/

theorem point_lt {t t' : String} {p p' o o' : Int} :
    point t p o < point t' p' o' ↔ t < t' ∨ t = t' ∧ (p < p' ∨ p = p' ∧ o < o') := by
  rw [point, point, Prod.Lex.toLex_lt_toLex, Prod.Lex.toLex_lt_toLex]

theorem point_le {t t' : String} {p p' o o' : Int} :
    point t p o ≤ point t' p' o' ↔ t < t' ∨ t = t' ∧ (p < p' ∨ p = p' ∧ o ≤ o') := by
  rw [point, point, Prod.Lex.toLex_le_toLex, Prod.Lex.toLex_le_toLex]

theorem point_inj {t t' : String} {p p' o o' : Int} :
    point t p o = point t' p' o' ↔ t = t' ∧ p = p' ∧ o = o' := by
  rw [point, point, toLex_inj, Prod.mk.injEq, toLex_inj, Prod.mk.injEq]

theorem exists_point (x : Point) : ∃ t p o, x = point t p o :=
  ⟨(ofLex x).1, (ofLex (ofLex x).2).1, (ofLex (ofLex x).2).2, rfl⟩

/-- Between two points of a partition lie only points of the partition. -/
theorem point_between {t t' : String} {p p' a b o : Int} :
    point t p a ≤ point t' p' o ∧ point t' p' o < point t p b ↔
      t = t' ∧ p = p' ∧ a ≤ o ∧ o < b := by
  rw [point_le, point_lt]
  constructor
  · rintro ⟨hstart, hend⟩
    rcases hstart with htopic | ⟨rfl, hstart⟩
    · rcases hend with htopic' | ⟨rfl, _⟩
      · exact absurd htopic' (lt_asymm htopic)
      · exact absurd htopic (lt_irrefl _)
    · rcases hend with htopic' | ⟨_, hend⟩
      · exact absurd htopic' (lt_irrefl _)
      · refine ⟨rfl, ?_⟩
        omega
  · rintro ⟨rfl, rfl, hstart, hend⟩
    exact ⟨Or.inr ⟨rfl, Or.inr ⟨rfl, hstart⟩⟩, Or.inr ⟨rfl, Or.inr ⟨rfl, hend⟩⟩⟩

theorem FrameRow.point_injective : Function.Injective FrameRow.point := by
  rintro ⟨t, p, o⟩ ⟨t', p', o'⟩ h
  obtain ⟨rfl, rfl, rfl⟩ := point_inj.mp h
  rfl

/-- The point of the next offset of the partition. -/
def nextPoint (x : Point) : Point :=
  toLex ((ofLex x).1, toLex ((ofLex (ofLex x).2).1, (ofLex (ofLex x).2).2 + 1))

theorem isNext_nextPoint : IsNext nextPoint :=
  IsNext.lex (IsNext.lex fun _ _ => Int.lt_iff_add_one_le)

namespace SourceRange

def span (r : SourceRange) : Point × Point :=
  (point r.topic r.partition r.startOffset, point r.topic r.partition r.endOffset)

theorem span_injective : Function.Injective span := by
  rintro ⟨t, p, a, b⟩ ⟨t', p', a', b'⟩ h
  obtain ⟨hstart, hend⟩ := Prod.mk.inj h
  obtain ⟨rfl, rfl, rfl⟩ := point_inj.mp hstart
  obtain ⟨-, -, rfl⟩ := point_inj.mp hend
  rfl

end SourceRange

/-! ## The loop -/

variable {frame rows : List FrameRow} {row : FrameRow}

theorem mem_collectRows : row ∈ collectRows frame ↔ row ∈ frame :=
  (List.mem_insertionSort _).trans List.mem_dedup

theorem sorted_collectRows :
    ((collectRows frame).map FrameRow.point).Pairwise (· < ·) := by
  have hle : (collectRows frame).Pairwise fun a b => a.point ≤ b.point :=
    List.pairwise_insertionSort _ _
  have hnodup : (collectRows frame).Nodup :=
    (List.perm_insertionSort _ _).nodup_iff.mpr (List.nodup_dedup _)
  refine List.pairwise_map.mpr ((hle.and hnodup).imp fun {a b} h => ?_)
  exact lt_of_le_of_ne h.1 fun heq => h.2 (FrameRow.point_injective heq)

/-- One row, seen from the range that may grow. -/
theorem compactStep_concat (ranges : List SourceRange) (previous : SourceRange) (row : FrameRow) :
    compactStep (ranges ++ [previous]) row =
      if row.point = previous.span.2 then
        ranges ++ [{ previous with endOffset := row.offset + 1 }]
      else ranges ++ [previous] ++ [⟨row.topic, row.partition, row.offset, row.offset + 1⟩] := by
  have hpoint : row.point = previous.span.2 ↔ previous.topic = row.topic ∧
      previous.partition = row.partition ∧ previous.endOffset = row.offset :=
    eq_comm.trans point_inj
  simp only [compactStep, List.getLast?_concat, List.dropLast_concat, hpoint]

theorem map_span_foldl (rows : List FrameRow) (ranges : List SourceRange)
    (previous : SourceRange) :
    (rows.foldl compactStep (ranges ++ [previous])).map SourceRange.span =
      ranges.map SourceRange.span ++
        joinFrom previous.span (rows.map fun row => (row.point, nextPoint row.point)) := by
  induction rows generalizing ranges previous with
  | nil => rw [List.foldl_nil, List.map_append]; rfl
  | cons row rows ih =>
      rw [List.foldl_cons, compactStep_concat, List.map_cons, joinFrom]
      split
      · next htouch =>
        obtain ⟨htopic, hpartition, -⟩ := point_inj.mp htouch
        have hgrown : ({ previous with endOffset := row.offset + 1 } : SourceRange).span =
            (previous.span.1, nextPoint row.point) :=
          Prod.ext rfl (point_inj.mpr ⟨htopic.symm, hpartition.symm, rfl⟩)
        rw [ih, hgrown]
      · rw [ih, List.map_append, List.append_assoc]
        rfl

/-- The loop joins the unit ranges of the rows. -/
theorem map_span_compact (frame : List FrameRow) :
    (compactKafkaSourceRanges frame).map SourceRange.span =
      joinTouching ((collectRows frame).map fun row => (row.point, nextPoint row.point)) := by
  rw [compactKafkaSourceRanges]
  cases collectRows frame with
  | nil => rfl
  | cons row rows =>
      have hfirst : compactStep [] row =
          [] ++ [⟨row.topic, row.partition, row.offset, row.offset + 1⟩] := rfl
      rw [List.foldl_cons, hfirst, map_span_foldl]
      rfl

theorem units_eq (rows : List FrameRow) :
    (rows.map fun row => (row.point, nextPoint row.point)) =
      (rows.map FrameRow.point).map fun x => (x, nextPoint x) := by
  rw [List.map_map]
  rfl

theorem separate_compact (frame : List FrameRow) :
    Separate ((compactKafkaSourceRanges frame).map SourceRange.span) := by
  rw [map_span_compact, units_eq]
  exact separate_joinTouching (inOrder_units isNext_nextPoint sorted_collectRows)

theorem held_compact {x : Point} :
    Held ((compactKafkaSourceRanges frame).map SourceRange.span) x ↔
      x ∈ frame.map FrameRow.point := by
  rw [map_span_compact, units_eq,
    held_joinTouching (inOrder_units isNext_nextPoint sorted_collectRows),
    held_units isNext_nextPoint, List.mem_map, List.mem_map]
  exact exists_congr fun _ => and_congr_left fun _ => mem_collectRows

/-! ## The groups -/

/-- The offsets of a partition. -/
def offsetsOf (rows : List FrameRow) (topic : String) (partition : Int) : Finset Int :=
  ((rows.filter fun row => row.topic = topic ∧ row.partition = partition).map
    FrameRow.offset).toFinset

theorem mem_offsetsOf {topic : String} {partition o : Int} :
    o ∈ offsetsOf rows topic partition ↔ (⟨topic, partition, o⟩ : FrameRow) ∈ rows := by
  simp only [offsetsOf, List.mem_toFinset, List.mem_map, List.mem_filter, decide_eq_true_eq]
  constructor
  · rintro ⟨⟨t, p, o⟩, ⟨hmem, rfl, rfl⟩, rfl⟩
    exact hmem
  · intro hmem
    exact ⟨_, ⟨hmem, rfl, rfl⟩, rfl⟩

/-- The row number is the rank of the offset in its partition. -/
theorem rowNumber_eq_rank (h : rows.Nodup) (row : FrameRow) :
    rowNumber rows row = rank (offsetsOf rows row.topic row.partition) row.offset := by
  have hnodup : ((rows.filter fun other => other.topic = row.topic ∧
      other.partition = row.partition ∧ other.offset ≤ row.offset).map FrameRow.offset).Nodup := by
    refine (List.nodup_map_iff_inj_on (h.filter _)).mpr ?_
    rintro ⟨t, p, o⟩ ha ⟨t', p', o'⟩ hb rfl
    obtain ⟨-, rfl, rfl, -⟩ := by simpa using ha
    obtain ⟨-, rfl, rfl, -⟩ := by simpa using hb
    rfl
  rw [rowNumber, ← List.length_map FrameRow.offset, ← List.toFinset_card_of_nodup hnodup, rank]
  congr 1
  ext x
  simp only [Finset.mem_filter, mem_offsetsOf, List.mem_toFinset, List.mem_map, List.mem_filter,
    decide_eq_true_eq]
  constructor
  · rintro ⟨⟨t, p, o⟩, ⟨hmem, rfl, rfl, hle⟩, rfl⟩
    exact ⟨hmem, hle⟩
  · rintro ⟨hmem, hle⟩
    exact ⟨_, ⟨hmem, rfl, rfl, hle⟩, rfl⟩

/-- Rows of a partition are in one group when no offset between them is missing. -/
theorem groupKey_eq_iff (h : rows.Nodup) {topic : String} {partition o o' : Int} (hle : o ≤ o') :
    groupKey rows ⟨topic, partition, o⟩ = groupKey rows ⟨topic, partition, o'⟩ ↔
      ∀ x, o < x → x ≤ o' → (⟨topic, partition, x⟩ : FrameRow) ∈ rows := by
  rw [groupKey, groupKey, Prod.mk.injEq, Prod.mk.injEq, rangeGroup, rangeGroup,
    rowNumber_eq_rank h, rowNumber_eq_rank h]
  simp only [true_and, sub_rank_eq_iff hle, mem_offsetsOf]

/-- The offsets a group spans. -/
structure Spans (rows : List FrameRow) (key : String × Int × Int) (first last : Int) :
    Prop where
  first_mem : (⟨key.1, key.2.1, first⟩ : FrameRow) ∈ rows
  last_mem : (⟨key.1, key.2.1, last⟩ : FrameRow) ∈ rows
  first_key : groupKey rows ⟨key.1, key.2.1, first⟩ = key
  last_key : groupKey rows ⟨key.1, key.2.1, last⟩ = key
  bounds : ∀ row ∈ rows, groupKey rows row = key → first ≤ row.offset ∧ row.offset ≤ last

theorem mem_group {key : String × Int × Int} {o : Int} :
    o ∈ (rows.filter fun row => groupKey rows row = key).map FrameRow.offset ↔
      (⟨key.1, key.2.1, o⟩ : FrameRow) ∈ rows ∧ groupKey rows ⟨key.1, key.2.1, o⟩ = key := by
  simp only [List.mem_map, List.mem_filter, decide_eq_true_eq]
  constructor
  · rintro ⟨⟨t, p, o⟩, ⟨hmem, rfl⟩, rfl⟩
    exact ⟨hmem, rfl⟩
  · intro h
    exact ⟨_, h, rfl⟩

/-- A group has a first and a last offset, and these are what it is reduced to. -/
theorem aggregate_spans {key : String × Int × Int} (h : key ∈ rows.map (groupKey rows)) :
    ∃ first last, Spans rows key first last ∧
      aggregate rows key = ⟨key.1, key.2.1, first, last⟩ := by
  obtain ⟨row, hrow, hkey⟩ := List.mem_map.mp h
  have hoffset : row.offset ∈
      (rows.filter fun row => groupKey rows row = key).map FrameRow.offset :=
    List.mem_map.mpr ⟨row, List.mem_filter.mpr ⟨hrow, decide_eq_true hkey⟩, rfl⟩
  have hbounded : ∀ row ∈ rows, groupKey rows row = key → row.offset ∈
      (rows.filter fun row => groupKey rows row = key).map FrameRow.offset :=
    fun row hmem hkey => List.mem_map.mpr
      ⟨row, List.mem_filter.mpr ⟨hmem, decide_eq_true hkey⟩, rfl⟩
  rw [aggregate]
  cases hmin : ((rows.filter fun row => groupKey rows row = key).map FrameRow.offset).min? with
  | none => exact absurd hoffset (List.min?_eq_none_iff.mp hmin ▸ List.not_mem_nil)
  | some first =>
      cases hmax : ((rows.filter fun row => groupKey rows row = key).map
          FrameRow.offset).max? with
      | none => exact absurd hoffset (List.max?_eq_none_iff.mp hmax ▸ List.not_mem_nil)
      | some last =>
          obtain ⟨hfirst, hleast⟩ := List.min?_eq_some_iff.mp hmin
          obtain ⟨hlast, hgreatest⟩ := List.max?_eq_some_iff.mp hmax
          obtain ⟨hfirstmem, hfirstkey⟩ := mem_group.mp hfirst
          obtain ⟨hlastmem, hlastkey⟩ := mem_group.mp hlast
          refine ⟨first, last, ⟨hfirstmem, hlastmem, hfirstkey, hlastkey, ?_⟩, rfl⟩
          intro row hmem hkey
          exact ⟨hleast _ (hbounded row hmem hkey), hgreatest _ (hbounded row hmem hkey)⟩

namespace Spans

variable {key key' : String × Int × Int} {first last first' last' : Int}

theorem le (h : Spans rows key first last) : first ≤ last :=
  (h.bounds _ h.first_mem h.first_key).2

/-- No offset of the span is missing. -/
theorem mem (hrows : rows.Nodup) (h : Spans rows key first last) {o : Int} (hfirst : first ≤ o)
    (hlast : o ≤ last) : (⟨key.1, key.2.1, o⟩ : FrameRow) ∈ rows := by
  rcases eq_or_lt_of_le hfirst with rfl | hlt
  · exact h.first_mem
  · exact (groupKey_eq_iff hrows h.le).mp (h.first_key.trans h.last_key.symm) o hlt hlast

/-- A later group of the partition starts after a gap. -/
theorem gap (hrows : rows.Nodup) (h : Spans rows key first last)
    (h' : Spans rows key' first' last') (hne : key ≠ key') (htopic : key.1 = key'.1)
    (hpartition : key.2.1 = key'.2.1) (hle : first ≤ first') : last + 1 < first' := by
  by_contra hnear
  refine hne ?_
  have hfirst' : groupKey rows ⟨key.1, key.2.1, first'⟩ = key' := by
    rw [htopic, hpartition]
    exact h'.first_key
  rw [← h.first_key, ← hfirst', groupKey_eq_iff hrows hle]
  intro x hlt hx
  -- only the first offset of the later group can lie past the last of this one
  rcases le_or_gt x last with hinside | hpast
  · exact h.mem hrows hlt.le hinside
  · have hx' : x = first' := by omega
    rw [hx', htopic, hpartition]
    exact h'.first_mem

/-- Any two groups have a gap between them. -/
theorem apart (hrows : rows.Nodup) (h : Spans rows key first last)
    (h' : Spans rows key' first' last') (hne : key ≠ key') :
    point key.1 key.2.1 (last + 1) < point key'.1 key'.2.1 first' ∨
      point key'.1 key'.2.1 (last' + 1) < point key.1 key.2.1 first := by
  rw [point_lt, point_lt]
  rcases lt_trichotomy key.1 key'.1 with htopic | htopic | htopic
  · exact Or.inl (Or.inl htopic)
  · rcases lt_trichotomy key.2.1 key'.2.1 with hpartition | hpartition | hpartition
    · exact Or.inl (Or.inr ⟨htopic, Or.inl hpartition⟩)
    · rcases le_total first first' with hle | hle
      · exact Or.inl (Or.inr ⟨htopic, Or.inr
          ⟨hpartition, h.gap hrows h' hne htopic hpartition hle⟩⟩)
      · exact Or.inr (Or.inr ⟨htopic.symm, Or.inr
          ⟨hpartition.symm, h'.gap hrows h hne.symm htopic.symm hpartition.symm hle⟩⟩)
    · exact Or.inr (Or.inr ⟨htopic.symm, Or.inl hpartition⟩)
  · exact Or.inr (Or.inl htopic)

end Spans

namespace GroupedRow

def sourceRange (row : GroupedRow) : SourceRange :=
  ⟨row.topic, row.partition, row.startOffset, row.endOffset + 1⟩

end GroupedRow

theorem mem_groupedRows {g : GroupedRow} :
    g ∈ groupedRows rows ↔ ∃ key ∈ rows.map (groupKey rows), aggregate rows key = g := by
  rw [groupedRows, List.mem_insertionSort, List.mem_map]
  exact exists_congr fun _ => and_congr_left fun _ => List.mem_dedup

theorem apart_groupedRows (h : rows.Nodup) :
    (groupedRows rows).Pairwise fun a b =>
      a.sourceRange.span.2 < b.sourceRange.span.1 ∨
        b.sourceRange.span.2 < a.sourceRange.span.1 := by
  rw [groupedRows, (List.perm_insertionSort _ _).pairwise_iff fun {_ _} h => h.symm,
    List.pairwise_map]
  refine (List.nodup_dedup _).imp_of_mem fun {key key'} hkey hkey' hne => ?_
  obtain ⟨first, last, hspans, haggregate⟩ := aggregate_spans (List.mem_dedup.mp hkey)
  obtain ⟨first', last', hspans', haggregate'⟩ := aggregate_spans (List.mem_dedup.mp hkey')
  rw [haggregate, haggregate']
  exact hspans.apart h hspans' hne

theorem separate_replay (frame : List FrameRow) :
    Separate ((replaySourceRanges frame).map SourceRange.span) := by
  rw [replaySourceRanges, List.map_map]
  refine separate_of_sorted (List.forall_mem_map.mpr fun g hg => ?_) (List.pairwise_map.mpr ?_)
    (List.pairwise_map.mpr (apart_groupedRows (List.nodup_dedup frame)))
  · obtain ⟨key, hkey, rfl⟩ := mem_groupedRows.mp hg
    obtain ⟨first, last, hspans, haggregate⟩ := aggregate_spans hkey
    rw [Function.comp_apply, haggregate]
    exact point_lt.mpr (Or.inr ⟨rfl, Or.inr ⟨rfl, Int.lt_add_one_of_le hspans.le⟩⟩)
  · exact List.pairwise_insertionSort _ _

theorem held_replay {x : Point} :
    Held ((replaySourceRanges frame).map SourceRange.span) x ↔
      x ∈ frame.map FrameRow.point := by
  have hnodup := List.nodup_dedup frame
  rw [replaySourceRanges, List.map_map]
  constructor
  · rintro ⟨s, hs, hstart, hend⟩
    obtain ⟨g, hg, rfl⟩ := List.mem_map.mp hs
    obtain ⟨key, hkey, rfl⟩ := mem_groupedRows.mp hg
    obtain ⟨first, last, hspans, haggregate⟩ := aggregate_spans hkey
    rw [Function.comp_apply, haggregate] at hstart hend
    obtain ⟨t, p, o, rfl⟩ := exists_point x
    obtain ⟨rfl, rfl, hfirst, hlast⟩ := point_between.mp ⟨hstart, hend⟩
    exact List.mem_map.mpr
      ⟨_, List.mem_dedup.mp (hspans.mem hnodup hfirst (Int.le_of_lt_add_one hlast)), rfl⟩
  · intro hx
    obtain ⟨row, hrow, rfl⟩ := List.mem_map.mp hx
    have hrow' := List.mem_dedup.mpr hrow
    have hkey : groupKey frame.dedup row ∈ frame.dedup.map (groupKey frame.dedup) :=
      List.mem_map_of_mem hrow'
    obtain ⟨first, last, hspans, haggregate⟩ := aggregate_spans hkey
    obtain ⟨hfirst, hlast⟩ := hspans.bounds row hrow' rfl
    refine ⟨_, List.mem_map.mpr ⟨_, mem_groupedRows.mpr ⟨_, hkey, rfl⟩, rfl⟩, ?_⟩
    rw [Function.comp_apply, haggregate]
    exact point_between.mpr ⟨rfl, rfl, hfirst, Int.lt_add_one_of_le hlast⟩

/-! ## One list of maximal runs -/

/-- The maximal runs of consecutive offsets of a frame. -/
structure MaximalRuns (frame : List FrameRow) (ranges : List SourceRange) : Prop where
  nonempty : ∀ r ∈ ranges, r.startOffset < r.endOffset
  /-- Sorted, and two ranges of a partition neither overlap nor touch. -/
  sorted : ranges.Pairwise fun a b => a.topic < b.topic ∨ a.topic = b.topic ∧
    (a.partition < b.partition ∨ a.partition = b.partition ∧ a.endOffset < b.startOffset)
  covers : ∀ topic partition offset, (∃ r ∈ ranges, r.topic = topic ∧ r.partition = partition ∧
    r.startOffset ≤ offset ∧ offset < r.endOffset) ↔ (⟨topic, partition, offset⟩ : FrameRow) ∈ frame
  maximal : ∀ r ∈ ranges, (⟨r.topic, r.partition, r.startOffset - 1⟩ : FrameRow) ∉ frame ∧
    (⟨r.topic, r.partition, r.endOffset⟩ : FrameRow) ∉ frame

theorem held_spans {ranges : List SourceRange} {topic : String} {partition offset : Int} :
    Held (ranges.map SourceRange.span) (point topic partition offset) ↔
      ∃ r ∈ ranges, r.topic = topic ∧ r.partition = partition ∧
        r.startOffset ≤ offset ∧ offset < r.endOffset := by
  simp only [Held, List.mem_map, exists_exists_and_eq_and]
  exact exists_congr fun _ => and_congr_right fun _ => point_between

theorem mem_points {topic : String} {partition offset : Int} :
    point topic partition offset ∈ frame.map FrameRow.point ↔
      (⟨topic, partition, offset⟩ : FrameRow) ∈ frame :=
  List.mem_map_of_injective (a := ⟨topic, partition, offset⟩) FrameRow.point_injective

/-- A range that meets or touches another is that range. -/
theorem eq_of_touch {ranges : List SourceRange}
    (h : Separate (ranges.map SourceRange.span)) {a b : SourceRange} (ha : a ∈ ranges)
    (hb : b ∈ ranges) (htopic : a.topic = b.topic) (hpartition : a.partition = b.partition)
    (hstart : a.startOffset ≤ b.endOffset) (hend : b.startOffset ≤ a.endOffset) : a = b := by
  by_contra hne
  have : Std.Symm fun a b : SourceRange => a.span.2 < b.span.1 ∨ b.span.2 < a.span.1 :=
    ⟨fun _ _ h => h.symm⟩
  have hpairs : ranges.Pairwise fun a b => a.span.2 < b.span.1 ∨ b.span.2 < a.span.1 :=
    (List.pairwise_map.mp h.apart).imp Or.inl
  rcases hpairs.forall ha hb hne with hbefore | hafter
  · obtain htopic' | ⟨_, hpartition' | ⟨_, hlt⟩⟩ := point_lt.mp hbefore
    · exact lt_irrefl _ (htopic ▸ htopic')
    · omega
    · omega
  · obtain htopic' | ⟨_, hpartition' | ⟨_, hlt⟩⟩ := point_lt.mp hafter
    · exact lt_irrefl _ (htopic ▸ htopic')
    · omega
    · omega

/-- Separate ranges with the offsets of the frame are its maximal runs. -/
theorem maximalRuns_iff {ranges : List SourceRange} :
    MaximalRuns frame ranges ↔ Separate (ranges.map SourceRange.span) ∧
      ∀ x, Held (ranges.map SourceRange.span) x ↔ x ∈ frame.map FrameRow.point := by
  constructor
  · intro h
    refine ⟨⟨List.forall_mem_map.mpr fun r hr => ?_, List.pairwise_map.mpr ?_⟩, fun x => ?_⟩
    · exact point_lt.mpr (Or.inr ⟨rfl, Or.inr ⟨rfl, h.nonempty r hr⟩⟩)
    · exact h.sorted.imp fun hab => point_lt.mpr hab
    · obtain ⟨t, p, o, rfl⟩ := exists_point x
      rw [held_spans, mem_points]
      exact h.covers t p o
  · rintro ⟨hseparate, hheld⟩
    have hcovers : ∀ t p o, (∃ r ∈ ranges, r.topic = t ∧ r.partition = p ∧
        r.startOffset ≤ o ∧ o < r.endOffset) ↔ (⟨t, p, o⟩ : FrameRow) ∈ frame := by
      intro t p o
      rw [← held_spans, ← mem_points]
      exact hheld _
    have hnonempty : ∀ r ∈ ranges, r.startOffset < r.endOffset := by
      intro r hr
      obtain htopic | ⟨_, hpartition | ⟨_, hlt⟩⟩ :=
        point_lt.mp (hseparate.nonempty _ (List.mem_map_of_mem hr))
      · exact absurd htopic (lt_irrefl _)
      · exact absurd hpartition (lt_irrefl _)
      · exact hlt
    refine ⟨hnonempty, ?_, hcovers, fun r hr => ⟨fun hmem => ?_, fun hmem => ?_⟩⟩
    · exact (List.pairwise_map.mp hseparate.apart).imp fun hab => point_lt.mp hab
    · -- the offset before the range lies in a range that touches it
      obtain ⟨other, hother, htopic, hpartition, hstart, hend⟩ := (hcovers _ _ _).mpr hmem
      have hne := hnonempty r hr
      have heq := eq_of_touch hseparate hother hr htopic hpartition (by omega) (by omega)
      subst heq
      omega
    · obtain ⟨other, hother, htopic, hpartition, hstart, hend⟩ := (hcovers _ _ _).mpr hmem
      have hne := hnonempty r hr
      have heq := eq_of_touch hseparate hother hr htopic hpartition (by omega) (by omega)
      subst heq
      omega

/-- A frame has one list of maximal runs. -/
theorem MaximalRuns.unique {ranges others : List SourceRange} (h : MaximalRuns frame ranges)
    (ho : MaximalRuns frame others) : ranges = others := by
  obtain ⟨hseparate, hheld⟩ := maximalRuns_iff.mp h
  obtain ⟨hseparate', hheld'⟩ := maximalRuns_iff.mp ho
  refine List.map_injective_iff.mpr SourceRange.span_injective ?_
  exact hseparate.ext hseparate' fun x => (hheld x).trans (hheld' x).symm

/-- Only the set of the rows matters. -/
theorem MaximalRuns.congr {frame' : List FrameRow} {ranges : List SourceRange}
    (h : MaximalRuns frame' ranges) (hrows : ∀ row, row ∈ frame' ↔ row ∈ frame) :
    MaximalRuns frame ranges := by
  obtain ⟨hseparate, hheld⟩ := maximalRuns_iff.mp h
  refine maximalRuns_iff.mpr ⟨hseparate, fun x => (hheld x).trans ?_⟩
  rw [List.mem_map, List.mem_map]
  exact exists_congr fun row => and_congr_left fun _ => hrows row

theorem maximalRuns_compact (frame : List FrameRow) :
    MaximalRuns frame (compactKafkaSourceRanges frame) :=
  maximalRuns_iff.mpr ⟨separate_compact frame, fun _ => held_compact⟩

theorem maximalRuns_replay (frame : List FrameRow) :
    MaximalRuns frame (replaySourceRanges frame) :=
  maximalRuns_iff.mpr ⟨separate_replay frame, fun _ => held_replay⟩

/-- The loop and the query find the same list, the maximal runs of the frame, whatever the order
of its rows and however often one is repeated. -/
theorem source_ranges_are_maximal_runs (frame : List FrameRow) :
    replaySourceRanges frame = compactKafkaSourceRanges frame ∧
      MaximalRuns frame (compactKafkaSourceRanges frame) ∧
      ∀ frame' : List FrameRow, (∀ row, row ∈ frame' ↔ row ∈ frame) →
        compactKafkaSourceRanges frame' = compactKafkaSourceRanges frame ∧
          replaySourceRanges frame' = replaySourceRanges frame := by
  refine ⟨(maximalRuns_replay frame).unique (maximalRuns_compact frame),
    maximalRuns_compact frame, fun frame' hrows => ⟨?_, ?_⟩⟩
  · exact ((maximalRuns_compact frame').congr hrows).unique (maximalRuns_compact frame)
  · exact ((maximalRuns_replay frame').congr hrows).unique (maximalRuns_replay frame)

example : replaySourceRanges [⟨"b", 0, 5⟩, ⟨"a", 1, 4⟩, ⟨"a", 1, 3⟩, ⟨"a", 1, 4⟩, ⟨"a", 1, 6⟩] =
    [⟨"a", 1, 3, 5⟩, ⟨"a", 1, 6, 7⟩, ⟨"b", 0, 5, 6⟩] := by decide +kernel

end AskLake.Kafka

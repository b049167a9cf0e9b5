/-
# `AskLake.ContinuousSql.Containment` — containment of coverages, on the lists themselves

`coverageContains_iff` speaks of normalized ranges.  Here the same is said of the lists that
`_source_range_coverage` is called with: a range object has the offsets from its start up to its
end, in the partition of its topic without the blanks around it.
-/
import AskLake.ContinuousSql.SourceRanges
import AskLake.Kafka.NormalForm

namespace AskLake.ContinuousSql

open AskLake.Lib AskLake.Kafka AskLake.Python

/-- One of the range objects has the offset `o` of the partition. -/
def HasOffset (items : List RangeItem) (topic : String) (partition o : Int) : Prop :=
  ∃ f : RangeFields, f.item ∈ items ∧ f.Has topic partition o

/-- What is accepted is an object with integer fields. -/
theorem fields_of_normalizeItem {item : RangeItem} {r : KafkaRange}
    (h : normalizeItem item = .ok r) : ∃ f : RangeFields, item = f.item := by
  cases item with
  | other => cases h
  | object d =>
      obtain ⟨topic, partition, startOffset, endOffset⟩ := d
      cases partition with
      | none => cases h
      | some partition =>
          cases startOffset with
          | none => cases h
          | some startOffset =>
              cases endOffset with
              | none => cases h
              | some endOffset => exact ⟨⟨topic, partition, startOffset, endOffset⟩, rfl⟩

/-- Normalizing keeps the offsets. -/
theorem hasOffset_iff_coveredBy {items : List RangeItem} {required : Bool} {ranges : KafkaRanges}
    (h : normalizeKafkaSourceRanges (.list items) required = .ok ranges) {topic : String}
    {partition o : Int} :
    HasOffset items topic partition o ↔ CoveredBy ranges.items (topic, partition) o := by
  obtain ⟨normalized, hall, hperm⟩ := normalizeKafkaSourceRanges_perm h
  constructor
  · rintro ⟨f, hf, hhas⟩
    obtain ⟨r, hr, hrange⟩ : ∃ r ∈ normalized, normalizeItem f.item = .ok r := by
      obtain ⟨i, hi, hget⟩ := List.getElem_of_mem hf
      have hlen : i < normalized.length := hall.length_eq ▸ hi
      refine ⟨normalized[i], List.getElem_mem hlen, ?_⟩
      rw [← hget]
      exact hall.get hi hlen
    obtain ⟨hvalid, rfl⟩ := RangeFields.normalizeItem_eq_ok.mp hrange
    exact ⟨_, hperm.mem_iff.mpr hr, (RangeFields.covers_toRange hvalid).mpr hhas⟩
  · rintro ⟨r, hr, hcovers⟩
    obtain ⟨i, hi, hget⟩ := List.getElem_of_mem (hperm.mem_iff.mp hr)
    have hlen : i < items.length := hall.length_eq ▸ hi
    have hrange : normalizeItem items[i] = .ok r := hget ▸ hall.get hlen hi
    obtain ⟨f, hf⟩ := fields_of_normalizeItem hrange
    rw [hf] at hrange
    obtain ⟨hvalid, rfl⟩ := RangeFields.normalizeItem_eq_ok.mp hrange
    exact ⟨f, hf ▸ List.getElem_mem hlen, (RangeFields.covers_toRange hvalid).mp hcovers⟩

theorem sourceRangeCoverage_eq_ok {items : List RangeItem} {coverage : Coverage} :
    sourceRangeCoverage items = .ok coverage ↔
      ∃ ranges, normalizeKafkaSourceRanges (.list items) true = .ok ranges ∧
        coverage = coverageOf ranges := by
  rw [sourceRangeCoverage, bind_eq_ok]
  exact exists_congr fun ranges => and_congr_right fun _ =>
    ⟨fun h => (Except.ok.inj h).symm, fun h => congrArg _ h.symm⟩

/-- Of two accepted lists, one contains the other exactly if it has all of its offsets. -/
theorem coverage_contains_offsets {available target : List RangeItem}
    {availableCoverage targetCoverage : Coverage}
    (havailable : sourceRangeCoverage available = .ok availableCoverage)
    (htarget : sourceRangeCoverage target = .ok targetCoverage) :
    coverageContains availableCoverage targetCoverage = true ↔
      ∀ topic partition o, HasOffset target topic partition o → HasOffset available topic partition o := by
  obtain ⟨ranges, hranges, rfl⟩ := sourceRangeCoverage_eq_ok.mp havailable
  obtain ⟨ranges', hranges', rfl⟩ := sourceRangeCoverage_eq_ok.mp htarget
  rw [coverageContains_iff]
  constructor
  · intro h topic partition o hhas
    exact (hasOffset_iff_coveredBy hranges).mpr
      (h (topic, partition) o ((hasOffset_iff_coveredBy hranges').mp hhas))
  · rintro h ⟨topic, partition⟩ o hcovered
    exact (hasOffset_iff_coveredBy hranges).mp
      (h topic partition o ((hasOffset_iff_coveredBy hranges').mpr hcovered))

/-- Adjacent ranges in any order contain what they make together. -/
theorem coverage_contains_adjacent :
    coverageContains [(("orders", 0), [(0, 9)])] [(("orders", 0), [(2, 6)])] = true ∧
      ∀ topic partition o, HasOffset [RangeFields.item ⟨"orders", 0, 2, 6⟩] topic partition o →
        HasOffset [RangeFields.item ⟨"orders", 0, 5, 9⟩, RangeFields.item ⟨"orders", 0, 0, 5⟩]
          topic partition o := by
  have havailable : sourceRangeCoverage
      [RangeFields.item ⟨"orders", 0, 5, 9⟩, RangeFields.item ⟨"orders", 0, 0, 5⟩] =
        .ok [(("orders", 0), [(0, 9)])] := by decide +kernel
  have htarget : sourceRangeCoverage [RangeFields.item ⟨"orders", 0, 2, 6⟩] =
      .ok [(("orders", 0), [(2, 6)])] := by decide +kernel
  have hcontains : coverageContains [(("orders", 0), [(0, 9)])] [(("orders", 0), [(2, 6)])] =
      true := by decide
  exact ⟨hcontains, (coverage_contains_offsets havailable htarget).mp hcontains⟩

/-- The same, of the topics as they are written. -/
def HasOffsetAsWritten (items : List RangeItem) (topic : String) (partition o : Int) : Prop :=
  ∃ f : RangeFields, f.item ∈ items ∧ f.topic = topic ∧ f.partition = partition ∧
    f.startOffset ≤ o ∧ o < f.endOffset

/-- A topic with a blank before it is the topic. -/
theorem blank_topic_contained :
    sourceRangeCoverage [RangeFields.item ⟨" orders", 0, 0, 5⟩] = .ok [(("orders", 0), [(0, 5)])] ∧
      sourceRangeCoverage [RangeFields.item ⟨"orders", 0, 0, 5⟩] =
        .ok [(("orders", 0), [(0, 5)])] ∧
      coverageContains [(("orders", 0), [(0, 5)])] [(("orders", 0), [(0, 5)])] = true ∧
      HasOffsetAsWritten [RangeFields.item ⟨"orders", 0, 0, 5⟩] "orders" 0 0 ∧
      ¬ HasOffsetAsWritten [RangeFields.item ⟨" orders", 0, 0, 5⟩] "orders" 0 0 := by
  refine ⟨by decide +kernel, by decide +kernel, by decide +kernel,
    ⟨⟨"orders", 0, 0, 5⟩, List.mem_singleton_self _, rfl, rfl, by decide, by decide⟩, ?_⟩
  rintro ⟨⟨topic, partition, startOffset, endOffset⟩, hmem, htopic, -⟩
  have hitem := List.mem_singleton.mp hmem
  simp only [RangeFields.item, RangeItem.object.injEq, RangeDocument.mk.injEq] at hitem
  have hwritten : " orders" = "orders" := hitem.1.symm.trans htopic
  exact absurd hwritten (by decide)

end AskLake.ContinuousSql

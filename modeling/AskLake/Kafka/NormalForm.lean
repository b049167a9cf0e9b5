/-
# `AskLake.Kafka.NormalForm` — the normal form of a list of source ranges

`normalizeKafkaSourceRanges` on objects whose fields are integers:

    accepted    exactly the lists of valid ranges of which no two share an offset
    the result  sorted, the same offsets, the same for every order, its own normal form

A topic is read without the blanks around it, here and by every check: two ranges of
`"orders"` and `" orders"` are of one partition.
-/
import AskLake.Kafka.SourceRanges

namespace AskLake.Kafka

open AskLake.Lib AskLake.Python

/-- A range object with integer fields. -/
structure RangeFields where
  topic : String
  partition : Int
  startOffset : Int
  endOffset : Int

namespace RangeFields

def item (f : RangeFields) : RangeItem :=
  .object ⟨f.topic, some f.partition, some f.startOffset, some f.endOffset⟩

/-- The range has the offset `o` of the partition. -/
def Has (f : RangeFields) (topic : String) (partition o : Int) : Prop :=
  strip f.topic = topic ∧ f.partition = partition ∧ f.startOffset ≤ o ∧ o < f.endOffset

structure Valid (f : RangeFields) : Prop where
  named : strip f.topic ≠ ""
  short : (strip f.topic).length ≤ 512
  partition : 0 ≤ f.partition
  start : 0 ≤ f.startOffset
  nonempty : f.startOffset < f.endOffset

/-- No offset is in both. -/
def Disjoint (a b : RangeFields) : Prop :=
  ∀ topic partition o, ¬ (a.Has topic partition o ∧ b.Has topic partition o)

/-- What a valid range is normalized to. -/
def toRange (f : RangeFields) (h : f.Valid) : KafkaRange :=
  ⟨strip f.topic, f.partition, f.startOffset, f.endOffset, strip_strip f.topic, h.named, h.short,
    h.partition, h.start, h.nonempty⟩

@[simp] theorem startOffset_toRange {f : RangeFields} (h : f.Valid) :
    (f.toRange h).startOffset = f.startOffset := rfl

@[simp] theorem endOffset_toRange {f : RangeFields} (h : f.Valid) :
    (f.toRange h).endOffset = f.endOffset := rfl

theorem normalizeItem_eq_ok {f : RangeFields} {r : KafkaRange} :
    normalizeItem f.item = .ok r ↔ ∃ h : f.Valid, r = f.toRange h := by
  simp only [item, normalizeItem]
  split
  · next hempty =>
    refine ⟨fun h => (by cases h), ?_⟩
    rintro ⟨h, -⟩
    exact absurd hempty h.named
  · next hnamed =>
    split
    · next hlong =>
      refine ⟨fun h => (by cases h), ?_⟩
      rintro ⟨h, -⟩
      exact absurd h.short (not_le.mpr hlong)
    · next hshort =>
      split
      · next hrange =>
        refine ⟨fun h => (by cases h), ?_⟩
        rintro ⟨h, -⟩
        have := h.partition
        have := h.start
        have := h.nonempty
        omega
      · next hrange =>
        have hvalid : f.Valid := ⟨hnamed, by omega, by omega, by omega, by omega⟩
        refine ⟨fun h => ⟨hvalid, (Except.ok.inj h).symm⟩, ?_⟩
        rintro ⟨_, h⟩
        exact congrArg _ h.symm

/-- The normal form covers the offsets of the range. -/
theorem covers_toRange {f : RangeFields} (h : f.Valid) {topic : String} {partition o : Int} :
    (f.toRange h).key = (topic, partition) ∧ (f.toRange h).covers o ↔ f.Has topic partition o := by
  rw [KafkaRange.key, Prod.mk.injEq, and_assoc]
  rfl

end RangeFields

/-- Ranges of one partition, one before the other. -/
def Apart (a b : KafkaRange) : Prop :=
  a.key = b.key → a.endOffset ≤ b.startOffset ∨ b.endOffset ≤ a.startOffset

theorem Apart.symm {a b : KafkaRange} (h : Apart a b) : Apart b a :=
  fun hkey => (h hkey.symm).symm

namespace RangeFields

/-- Ranges share no offset exactly if one is before the other. -/
theorem apart_iff_disjoint {a b : RangeFields} (ha : a.Valid) (hb : b.Valid) :
    Apart (a.toRange ha) (b.toRange hb) ↔ a.Disjoint b := by
  rw [Apart, startOffset_toRange, startOffset_toRange, endOffset_toRange, endOffset_toRange]
  constructor
  · rintro hapart topic partition o ⟨⟨hta, hpa, hstart, hend⟩, ⟨htb, hpb, hstart', hend'⟩⟩
    have hkey : (a.toRange ha).key = (b.toRange hb).key :=
      Prod.ext (hta.trans htb.symm) (hpa.trans hpb.symm)
    rcases hapart hkey with h | h <;> omega
  · intro hdisjoint hkey
    obtain ⟨htopic, hpartition⟩ := Prod.mk.inj hkey
    by_contra hmeet
    rw [not_or, not_le, not_le] at hmeet
    have hna := ha.nonempty
    have hnb := hb.nonempty
    -- the later start is in both
    refine hdisjoint (strip a.topic) a.partition (max a.startOffset b.startOffset) ⟨⟨rfl, rfl, ?_⟩,
      ⟨htopic.symm, hpartition.symm, ?_⟩⟩
    · omega
    · omega

end RangeFields

/-- Every list that is accepted has only valid ranges. -/
theorem mapM_fields {fields : List RangeFields} {normalized : List KafkaRange} :
    (fields.map RangeFields.item).mapM normalizeItem = .ok normalized ↔
      ∃ h : ∀ f ∈ fields, f.Valid, normalized = fields.pmap RangeFields.toRange h := by
  rw [mapM_eq_ok, List.forall₂_map_left_iff]
  induction fields generalizing normalized with
  | nil =>
      rw [List.forall₂_nil_left_iff]
      exact ⟨fun h => ⟨fun _ hf => (nomatch hf), h⟩, fun ⟨_, h⟩ => h⟩
  | cons f fields ih =>
      rw [List.forall₂_cons_left_iff]
      constructor
      · rintro ⟨r, rest, hr, hrest, rfl⟩
        obtain ⟨hf, rfl⟩ := RangeFields.normalizeItem_eq_ok.mp hr
        obtain ⟨hall, rfl⟩ := ih.mp hrest
        exact ⟨List.forall_mem_cons.mpr ⟨hf, hall⟩, rfl⟩
      · rintro ⟨hall, rfl⟩
        obtain ⟨hf, hrest⟩ := List.forall_mem_cons.mp hall
        exact ⟨_, _, RangeFields.normalizeItem_eq_ok.mpr ⟨hf, rfl⟩, ih.mpr ⟨hrest, rfl⟩, rfl⟩

/-! ## Sorting -/

theorem items_of_arrange {items : List KafkaRange} {ranges : KafkaRanges}
    (h : arrange items = .ok ranges) : ranges.items = sortRanges items := by
  unfold arrange at h
  split at h
  · cases h
    rfl
  · cases h

/-- The order before sorting does not matter. -/
theorem sortRanges_perm {items items' : List KafkaRange} (h : items.Perm items') :
    sortRanges items = sortRanges items' := by
  have hperm : (sortRanges items).Perm (sortRanges items') :=
    (List.perm_insertionSort _ items).trans (h.trans (List.perm_insertionSort _ items').symm)
  refine hperm.eq_of_pairwise (fun a b _ _ hab hba => ?_) (sortRanges_sorted items)
    (sortRanges_sorted items')
  exact KafkaRange.eq_of_sortKey (le_antisymm hab hba)

/-! ## Acceptance -/

/-- Valid ranges, no two of which share an offset. -/
structure Acceptable (fields : List RangeFields) : Prop where
  valid : ∀ f ∈ fields, f.Valid
  disjoint : fields.Pairwise RangeFields.Disjoint

theorem Acceptable.apart {fields : List RangeFields} (h : Acceptable fields) :
    (fields.pmap RangeFields.toRange h.valid).Pairwise Apart := by
  rw [List.pairwise_pmap]
  refine h.disjoint.imp fun {a b} hab ha hb => ?_
  exact (RangeFields.apart_iff_disjoint ha hb).mpr hab

theorem Acceptable.perm {fields fields' : List RangeFields} (h : Acceptable fields)
    (hperm : fields'.Perm fields) : Acceptable fields' := by
  refine ⟨fun f hf => h.valid f (hperm.mem_iff.mp hf), ?_⟩
  exact (hperm.pairwise_iff fun hab topic partition o hboth =>
    hab topic partition o hboth.symm).mpr h.disjoint

/-- What is accepted, and what becomes of it. -/
theorem normalize_fields {fields : List RangeFields} (hne : fields ≠ []) {required : Bool}
    {ranges : KafkaRanges} :
    normalizeKafkaSourceRanges (.list (fields.map RangeFields.item)) required = .ok ranges ↔
      ∃ h : Acceptable fields,
        ranges.items = sortRanges (fields.pmap RangeFields.toRange h.valid) := by
  have hdo : normalizeKafkaSourceRanges (.list (fields.map RangeFields.item)) required =
      (fields.map RangeFields.item).mapM normalizeItem >>= arrange := by
    cases fields with
    | nil => exact absurd rfl hne
    | cons f rest => rfl
  rw [hdo, bind_eq_ok]
  constructor
  · rintro ⟨normalized, hmap, harrange⟩
    obtain ⟨hvalid, rfl⟩ := mapM_fields.mp hmap
    have hitems := items_of_arrange harrange
    refine ⟨⟨hvalid, ?_⟩, hitems⟩
    -- the sorted ranges are one before the other, so that any two are apart
    have hapart : ranges.items.Pairwise Apart :=
      ranges.disjoint.imp fun hbefore hkey => Or.inl (hbefore hkey)
    rw [hitems, sortRanges, (List.perm_insertionSort _ _).pairwise_iff Apart.symm,
      List.pairwise_pmap] at hapart
    refine hapart.imp_of_mem fun {a b} ha hb h => ?_
    exact (RangeFields.apart_iff_disjoint (hvalid a ha) (hvalid b hb)).mp
      (h (hvalid a ha) (hvalid b hb))
  · rintro ⟨h, hitems⟩
    obtain ⟨ranges', harrange, hitems'⟩ := arrange_apart h.apart
    refine ⟨_, mapM_fields.mpr ⟨h.valid, rfl⟩, ?_⟩
    rw [harrange, KafkaRanges.ext (hitems'.trans hitems.symm)]

/-- The offset `o` of the partition is in one of the ranges. -/
def Covers (items : List KafkaRange) (topic : String) (partition o : Int) : Prop :=
  ∃ r ∈ items, r.key = (topic, partition) ∧ r.covers o

/-- A list of range objects is accepted exactly if all of them are valid and no two share an
offset.  The result is sorted and has their offsets; it is the same for every order of the list,
and its own normal form. -/
theorem source_ranges_normal_form {fields : List RangeFields} (hne : fields ≠ [])
    (required : Bool) :
    ((∃ ranges, normalizeKafkaSourceRanges (.list (fields.map RangeFields.item)) required =
        .ok ranges) ↔
      (∀ f ∈ fields, f.Valid) ∧ fields.Pairwise RangeFields.Disjoint) ∧
    ∀ ranges, normalizeKafkaSourceRanges (.list (fields.map RangeFields.item)) required =
        .ok ranges →
      (ranges.items.Pairwise fun a b => a.sortKey ≤ b.sortKey) ∧
      (∀ topic partition o, Covers ranges.items topic partition o ↔
        ∃ f ∈ fields, f.Has topic partition o) ∧
      (∀ fields' : List RangeFields, fields'.Perm fields →
        normalizeKafkaSourceRanges (.list (fields'.map RangeFields.item)) required =
          .ok ranges) ∧
      normalizeKafkaSourceRanges (.list ranges.documents) required = .ok ranges := by
  refine ⟨⟨?_, ?_⟩, fun ranges h => ?_⟩
  · rintro ⟨ranges, h⟩
    obtain ⟨haccept, -⟩ := (normalize_fields hne).mp h
    exact ⟨haccept.valid, haccept.disjoint⟩
  · rintro ⟨hvalid, hdisjoint⟩
    have haccept : Acceptable fields := ⟨hvalid, hdisjoint⟩
    obtain ⟨ranges, -, hitems⟩ := arrange_apart haccept.apart
    exact ⟨ranges, (normalize_fields hne).mpr ⟨haccept, hitems⟩⟩
  · obtain ⟨haccept, hitems⟩ := (normalize_fields hne).mp h
    refine ⟨ranges.sorted, fun topic partition o => ?_, fun fields' hperm => ?_, ?_⟩
    · rw [Covers, hitems]
      simp only [sortRanges, List.mem_insertionSort, List.mem_pmap]
      constructor
      · rintro ⟨r, ⟨f, hf, rfl⟩, hcovers⟩
        exact ⟨f, hf, (RangeFields.covers_toRange _).mp hcovers⟩
      · rintro ⟨f, hf, hhas⟩
        exact ⟨_, ⟨f, hf, rfl⟩, (RangeFields.covers_toRange _).mpr hhas⟩
    · have hne' : fields' ≠ [] := fun hnil => hne (by simpa [hnil] using hperm.symm)
      refine (normalize_fields hne').mpr ⟨haccept.perm hperm, ?_⟩
      rw [hitems]
      exact sortRanges_perm (hperm.symm.pmap _)
    · cases required with
      | false => exact normalizeKafkaSourceRanges_documents ranges
      | true => exact normalizeKafkaSourceRanges_required (normalizeKafkaSourceRanges_nonempty h)

/-! ## Topics as they are written -/

/-- Two ranges of one partition, whose topics are not written alike. -/
def blankTopics : List RangeFields := [⟨"orders", 0, 0, 5⟩, ⟨" orders", 0, 3, 7⟩]

theorem blankTopics_rejected :
    (∀ f ∈ blankTopics, f.topic ≠ "" ∧ f.topic.length ≤ 512 ∧ f.Valid) ∧
      (blankTopics.map RangeFields.topic).Nodup ∧
      normalizeKafkaSourceRanges (.list (blankTopics.map RangeFields.item)) false =
        .error (.value "Kafka source ranges overlap inside one publication") := by
  refine ⟨fun f hf => ?_, by decide, by decide +kernel⟩
  rcases List.mem_pair.mp hf with rfl | rfl
  · exact ⟨by decide, by decide, by decide, by decide, by decide, by decide, by decide⟩
  · exact ⟨by decide, by decide, by decide, by decide, by decide, by decide, by decide⟩

/-- Two partitions, one of them in two parts. -/
def shownFields : List RangeFields :=
  [⟨"orders", 1, 0, 5⟩, ⟨"orders", 0, 5, 7⟩, ⟨"orders", 0, 0, 5⟩]

theorem source_ranges_normal_form_shown :
    ∃ ranges, normalizeKafkaSourceRanges (.list (shownFields.map RangeFields.item)) true =
        .ok ranges ∧ normalizeKafkaSourceRanges (.list ranges.documents) true = .ok ranges := by
  have hne : shownFields ≠ [] := List.cons_ne_nil _ _
  have haccept : normalizeKafkaSourceRanges (.list (shownFields.map RangeFields.item)) true =
      .ok (((normalizeKafkaSourceRanges (.list (shownFields.map RangeFields.item)) true).toOption).getD
        .empty) := by decide +kernel
  exact ⟨_, haccept, ((source_ranges_normal_form hne true).2 _ haccept).2.2.2⟩

end AskLake.Kafka

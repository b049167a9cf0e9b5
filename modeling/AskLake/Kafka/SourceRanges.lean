/-
# `AskLake.Kafka.SourceRanges` — end-exclusive Kafka offset ranges

A publication names the Kafka positions it read as a list of documents

    {topic, partition, startOffset, endOffset}        startOffset ≤ offset < endOffset

`normalizeKafkaSourceRanges` is the only way in: it strips and bounds the topic,
checks the integers, sorts, and rejects two ranges of one partition that
overlap.  What it returns is a `KafkaRanges`, which carries these facts, so
that nothing after it checks them again.

`canonicalText` is what a publication is fingerprinted by; it determines the
ranges (`canonicalText_injective`).
-/
import Mathlib.Data.Prod.Lex
import Mathlib.Data.String.Basic
import AskLake.Lib.Outcome
import AskLake.Lib.Table
import AskLake.Python.Basic
import AskLake.Python.Json

namespace AskLake.Kafka

open AskLake.Lib AskLake.Python

/-- A partition of a topic. -/
abbrev PartitionKey := String × Int

/-! ## Documents, before any check -/

/-- One document, as `dict.get` and `int()` read it: a field is `none` where
`int()` raises. -/
structure RangeDocument where
  /-- `str(item.get("topic") or "")` -/
  topic : String
  partition : Option Int
  startOffset : Option Int
  endOffset : Option Int
  deriving DecidableEq

inductive RangeItem
  | object (document : RangeDocument)
  | other
  deriving DecidableEq

/-- The argument `source_ranges`. -/
inductive RangesArgument
  | missing
  | list (items : List RangeItem)
  | other

/-! ## Ranges -/

@[ext] structure KafkaRange where
  topic : String
  partition : Int
  startOffset : Int
  endOffset : Int
  topic_stripped : strip topic = topic
  topic_named : topic ≠ ""
  topic_short : topic.length ≤ 512
  partition_nonneg : 0 ≤ partition
  start_nonneg : 0 ≤ startOffset
  nonempty : startOffset < endOffset

instance : DecidableEq KafkaRange := fun a b =>
  decidable_of_iff
    (a.topic = b.topic ∧ a.partition = b.partition ∧ a.startOffset = b.startOffset ∧
      a.endOffset = b.endOffset)
    KafkaRange.ext_iff.symm

namespace KafkaRange

def key (r : KafkaRange) : PartitionKey := (r.topic, r.partition)

/-- The offsets of the range, in its partition. -/
def covers (r : KafkaRange) (o : Int) : Prop := r.startOffset ≤ o ∧ o < r.endOffset

def sortKey (r : KafkaRange) : String ×ₗ Int ×ₗ Int ×ₗ Int :=
  toLex (r.topic, toLex (r.partition, toLex (r.startOffset, r.endOffset)))

def document (r : KafkaRange) : Json :=
  .obj [("topic", .str r.topic), ("partition", .int r.partition),
    ("startOffset", .int r.startOffset), ("endOffset", .int r.endOffset)]

/-- The range as a stored document. -/
def item (r : KafkaRange) : RangeItem :=
  .object ⟨r.topic, some r.partition, some r.startOffset, some r.endOffset⟩

theorem eq_of_sortKey {a b : KafkaRange} (h : a.sortKey = b.sortKey) : a = b := by
  cases a; cases b
  simp only [sortKey, EmbeddingLike.apply_eq_iff_eq, Prod.mk.injEq] at h
  obtain ⟨rfl, rfl, rfl, rfl⟩ := h
  rfl

/-- Ranges of one partition, one after the other. -/
def Before (a b : KafkaRange) : Prop := a.key = b.key → a.endOffset ≤ b.startOffset

end KafkaRange

/-- A sorted list of ranges, those of one partition apart from each other. -/
structure KafkaRanges where
  items : List KafkaRange
  sorted : items.Pairwise fun a b => a.sortKey ≤ b.sortKey
  disjoint : items.Pairwise KafkaRange.Before
  deriving DecidableEq

def KafkaRanges.empty : KafkaRanges := ⟨[], .nil, .nil⟩

/-! ## `normalize_kafka_source_ranges` -/

theorem partition_nonneg_of_range {partition startOffset endOffset : Int}
    (h : ¬ (partition < 0 ∨ startOffset < 0 ∨ endOffset ≤ startOffset)) : 0 ≤ partition := by
  omega

theorem start_nonneg_of_range {partition startOffset endOffset : Int}
    (h : ¬ (partition < 0 ∨ startOffset < 0 ∨ endOffset ≤ startOffset)) : 0 ≤ startOffset := by
  omega

theorem nonempty_of_range {partition startOffset endOffset : Int}
    (h : ¬ (partition < 0 ∨ startOffset < 0 ∨ endOffset ≤ startOffset)) :
    startOffset < endOffset := by
  omega

/-- The checks on one item. -/
def normalizeItem : RangeItem → Except Error KafkaRange
  | .other => .error (.value "Kafka source range must be an object")
  | .object d =>
      match d.partition, d.startOffset, d.endOffset with
      | some partition, some startOffset, some endOffset =>
          if hnamed : strip d.topic = "" then .error (.value "Kafka source range requires topic")
          else if hshort : 512 < (strip d.topic).length then
            .error (.value "Kafka source range topic is too long")
          else if hrange : partition < 0 ∨ startOffset < 0 ∨ endOffset ≤ startOffset then
            .error (.value
              "Kafka source range must satisfy partition >= 0 and 0 <= startOffset < endOffset")
          else
            .ok ⟨strip d.topic, partition, startOffset, endOffset, strip_strip d.topic, hnamed,
              Nat.le_of_not_lt hshort, partition_nonneg_of_range hrange,
              start_nonneg_of_range hrange, nonempty_of_range hrange⟩
      | _, _, _ => .error (.value "Kafka source range offsets must be integers")

/-- The loop over the sorted ranges, with the last range of each partition. -/
def checkOverlaps (previousByPartition : Table PartitionKey KafkaRange) :
    List KafkaRange → Except Error Unit
  | [] => .ok ()
  | item :: rest => do
      rejectIf ((previousByPartition item.key).any fun p => item.startOffset < p.endOffset)
        (.value "Kafka source ranges overlap inside one publication")
      checkOverlaps (previousByPartition.put item.key item) rest

theorem checkOverlaps_eq_ok {previous : Table PartitionKey KafkaRange} {items : List KafkaRange} :
    checkOverlaps previous items = .ok () ↔
      (∀ r ∈ items, ∀ p, previous r.key = some p → p.endOffset ≤ r.startOffset) ∧
        items.Pairwise KafkaRange.Before := by
  induction items generalizing previous with
  | nil => simp [checkOverlaps]
  | cons item rest ih =>
      rw [checkOverlaps, bind_eq_ok, List.pairwise_cons]
      simp only [rejectIf_eq_ok, Option.any_eq_true, decide_eq_true_eq, not_exists, not_and,
        Int.not_lt, exists_and_left, exists_const, ih]
      constructor
      · rintro ⟨hitem, hprev, hrest⟩
        refine ⟨?_, ⟨fun r hr hkey => ?_, hrest⟩⟩
        · intro r hr p hp
          rcases List.mem_cons.mp hr with rfl | hr
          · exact hitem p hp
          · by_cases hkey : r.key = item.key
            · -- the range in between is not empty, so the older bound is the weaker one
              have h₁ := hitem p (hkey ▸ hp)
              have h₂ := hprev r hr item (by rw [hkey, Table.put_self])
              have := item.nonempty
              omega
            · exact hprev r hr p (by rw [Table.put_ne _ hkey, hp])
        · exact hprev r hr item (by rw [← hkey, Table.put_self])
      · rintro ⟨hprev, hitem, hrest⟩
        refine ⟨hprev item List.mem_cons_self, ?_, hrest⟩
        intro r hr p hp
        by_cases hkey : r.key = item.key
        · rw [hkey, Table.put_self] at hp
          cases hp
          exact hitem r hr hkey.symm
        · rw [Table.put_ne _ hkey] at hp
          exact hprev r (List.mem_cons_of_mem _ hr) p hp

/-- `normalized.sort(key=…)` -/
def sortRanges (items : List KafkaRange) : List KafkaRange :=
  items.insertionSort fun a b => a.sortKey ≤ b.sortKey

instance : Std.Total fun a b : KafkaRange => a.sortKey ≤ b.sortKey :=
  ⟨fun a b => le_total a.sortKey b.sortKey⟩

instance : IsTrans KafkaRange fun a b => a.sortKey ≤ b.sortKey :=
  ⟨fun _ _ _ h h' => le_trans h h'⟩

theorem sortRanges_sorted (items : List KafkaRange) :
    (sortRanges items).Pairwise fun a b => a.sortKey ≤ b.sortKey :=
  List.pairwise_insertionSort _ items

/-- The sorted ranges, once no two of them overlap. -/
def arrange (items : List KafkaRange) : Except Error KafkaRanges :=
  match h : checkOverlaps (fun _ => none) (sortRanges items) with
  | .ok () => .ok ⟨sortRanges items, sortRanges_sorted items, (checkOverlaps_eq_ok.mp h).2⟩
  | .error e => .error e

/-- Validate and canonicalize end-exclusive Kafka offset ranges. -/
def normalizeKafkaSourceRanges (sourceRanges : RangesArgument) (required : Bool) :
    Except Error KafkaRanges :=
  match sourceRanges with
  | .missing | .list [] =>
      if required then .error (.value "Kafka stream revision requires source ranges")
      else .ok .empty
  | .other => .error (.value "Kafka source ranges must be a list")
  | .list items => do
      let normalized ← items.mapM normalizeItem
      arrange normalized

/-! ## A normal form is its own normal form -/

namespace KafkaRanges

/-- The ranges as stored documents. -/
def documents (ranges : KafkaRanges) : List RangeItem :=
  ranges.items.map KafkaRange.item

theorem ext {a b : KafkaRanges} (h : a.items = b.items) : a = b := by
  cases a; cases b
  cases h
  rfl

end KafkaRanges

theorem normalizeItem_item (r : KafkaRange) : normalizeItem r.item = .ok r := by
  have hrange : ¬ (r.partition < 0 ∨ r.startOffset < 0 ∨ r.endOffset ≤ r.startOffset) := by
    have := r.partition_nonneg
    have := r.start_nonneg
    have := r.nonempty
    omega
  cases r with
  | mk topic partition startOffset endOffset hstrip hnamed hshort _ _ _ =>
      simp only [normalizeItem, KafkaRange.item]
      rw [dif_neg (by rw [hstrip]; exact hnamed), dif_neg (by rw [hstrip]; omega), dif_neg hrange]
      simp only [hstrip]

theorem mapM_normalizeItem (items : List KafkaRange) :
    (items.map KafkaRange.item).mapM normalizeItem = .ok items := by
  induction items with
  | nil => rfl
  | cons r rest ih =>
      rw [List.map_cons, List.mapM_cons, normalizeItem_item, ih]
      rfl

theorem arrange_items (ranges : KafkaRanges) : arrange ranges.items = .ok ranges := by
  have hsort : sortRanges ranges.items = ranges.items := ranges.sorted.insertionSort_eq
  have hcheck : checkOverlaps (fun _ => none) (sortRanges ranges.items) = .ok () :=
    checkOverlaps_eq_ok.mpr ⟨fun _ _ _ h => (nomatch h), hsort.symm ▸ ranges.disjoint⟩
  unfold arrange
  split
  · exact congrArg _ (KafkaRanges.ext hsort)
  · rename_i h
    exact nomatch hcheck.symm.trans h

/-- Stored ranges are read back as they were normalized. -/
theorem normalizeKafkaSourceRanges_documents (ranges : KafkaRanges) :
    normalizeKafkaSourceRanges (.list ranges.documents) false = .ok ranges := by
  rcases hitems : ranges.items with _ | ⟨r, rest⟩
  · have hempty : ranges = .empty := KafkaRanges.ext hitems
    subst hempty
    rfl
  · have hmap := mapM_normalizeItem ranges.items
    have harr := arrange_items ranges
    rw [hitems] at hmap harr
    simp only [normalizeKafkaSourceRanges, KafkaRanges.documents, hitems, List.map_cons] at hmap ⊢
    rw [hmap]
    exact harr

theorem normalizeKafkaSourceRanges_required {ranges : KafkaRanges} (hne : ranges.items ≠ []) :
    normalizeKafkaSourceRanges (.list ranges.documents) true = .ok ranges := by
  have hstored := normalizeKafkaSourceRanges_documents ranges
  rcases hitems : ranges.items with _ | ⟨r, rest⟩
  · exact absurd hitems hne
  · simp only [normalizeKafkaSourceRanges, KafkaRanges.documents, hitems, List.map_cons]
      at hstored ⊢
    exact hstored

/-- Ranges that do not overlap are accepted in any order. -/
theorem arrange_apart {items : List KafkaRange}
    (hapart : items.Pairwise fun a b =>
      a.key = b.key → a.endOffset ≤ b.startOffset ∨ b.endOffset ≤ a.startOffset) :
    ∃ ranges, arrange items = .ok ranges ∧ ranges.items = sortRanges items := by
  have hperm : (sortRanges items).Perm items := List.perm_insertionSort _ items
  have hapart' := (hperm.pairwise_iff fun h hkey => (h hkey.symm).symm).mpr hapart
  have hsorted : (sortRanges items).Pairwise KafkaRange.Before := by
    refine ((sortRanges_sorted items).and hapart').imp fun {a b} h hkey => ?_
    obtain ⟨hle, hab⟩ := h
    rcases hab hkey with hbefore | hafter
    · exact hbefore
    · -- the later one would start first, against the order
      have hstart : a.startOffset ≤ b.startOffset := by
        obtain ⟨htopic, hpartition⟩ := Prod.mk.inj hkey
        simp only [KafkaRange.sortKey, htopic, hpartition, Prod.Lex.toLex_le_toLex, lt_irrefl,
          true_and, false_or] at hle
        rcases hle with hlt | ⟨heq, -⟩
        · exact hlt.le
        · exact heq.le
      have := b.nonempty
      omega
  have hcheck : checkOverlaps (fun _ => none) (sortRanges items) = .ok () :=
    checkOverlaps_eq_ok.mpr ⟨fun _ _ _ h => (nomatch h), hsorted⟩
  unfold arrange
  split
  · exact ⟨_, rfl, rfl⟩
  · rename_i h
    exact nomatch hcheck.symm.trans h

theorem normalizeKafkaSourceRanges_apart {items : List KafkaRange} (hne : items ≠ [])
    (hapart : items.Pairwise fun a b =>
      a.key = b.key → a.endOffset ≤ b.startOffset ∨ b.endOffset ≤ a.startOffset) :
    ∃ ranges, normalizeKafkaSourceRanges (.list (items.map KafkaRange.item)) true = .ok ranges ∧
      ∀ r, r ∈ ranges.items ↔ r ∈ items := by
  obtain ⟨ranges, harrange, hitems⟩ := arrange_apart hapart
  have hmap := mapM_normalizeItem items
  rcases items with _ | ⟨r, rest⟩
  · exact absurd rfl hne
  · refine ⟨ranges, ?_, fun s => ?_⟩
    · rw [List.map_cons] at hmap ⊢
      exact bind_eq_ok.mpr ⟨_, hmap, harrange⟩
    · rw [hitems]
      exact List.mem_insertionSort _

/-- What is accepted is the normal form of each item, in another order. -/
theorem normalizeKafkaSourceRanges_perm {items : List RangeItem} {required : Bool}
    {ranges : KafkaRanges} (h : normalizeKafkaSourceRanges (.list items) required = .ok ranges) :
    ∃ normalized, List.Forall₂ (fun item r => normalizeItem item = .ok r) items normalized ∧
      ranges.items.Perm normalized := by
  match items with
  | [] =>
      refine ⟨[], .nil, ?_⟩
      cases required with
      | true => exact nomatch h
      | false =>
          cases Except.ok.inj h
          exact .refl _
  | item :: items =>
      simp only [normalizeKafkaSourceRanges] at h
      obtain ⟨normalized, hmap, harr⟩ := bind_eq_ok.mp h
      refine ⟨normalized, mapM_eq_ok.mp hmap, ?_⟩
      unfold arrange at harr
      split at harr
      · cases Except.ok.inj harr
        exact List.perm_insertionSort _ normalized
      · exact nomatch harr

/-- Required ranges are never empty. -/
theorem normalizeKafkaSourceRanges_nonempty {arg : RangesArgument} {ranges : KafkaRanges}
    (h : normalizeKafkaSourceRanges arg true = .ok ranges) : ranges.items ≠ [] := by
  match arg with
  | .missing => exact nomatch h
  | .other => exact nomatch h
  | .list [] => exact nomatch h
  | .list (item :: items) =>
      simp only [normalizeKafkaSourceRanges] at h
      obtain ⟨normalized, hmap, harr⟩ := bind_eq_ok.mp h
      unfold arrange at harr
      split at harr
      · cases harr
        intro hnil
        have hlen : (sortRanges normalized).length = normalized.length :=
          List.length_insertionSort _ normalized
        rw [show sortRanges normalized = [] from hnil] at hlen
        rw [List.mapM_cons] at hmap
        obtain ⟨r, -, hrest⟩ := bind_eq_ok.mp hmap
        obtain ⟨rs, -, hcons⟩ := bind_eq_ok.mp hrest
        cases hcons
        exact nomatch hlen
      · exact nomatch harr

/-! ## `kafka_source_fingerprint` -/

def KafkaRanges.canonicalText (ranges : KafkaRanges) : String :=
  Json.dumpsSorted true (.arr (ranges.items.map KafkaRange.document))

def kafkaSourceFingerprint (rt : Runtime) (ranges : KafkaRanges) : Option String :=
  if ranges.items = [] then none else some (rt.sha256 ranges.canonicalText)

theorem sortKeys_document (r : KafkaRange) :
    r.document.sortKeys = .obj [("endOffset", .int r.endOffset), ("partition", .int r.partition),
      ("startOffset", .int r.startOffset), ("topic", .str r.topic)] := by
  have h₁ : ¬ ("partition" ≤ "endOffset") := by decide
  have h₂ : ¬ ("startOffset" ≤ "endOffset") := by decide
  have h₃ : ¬ ("topic" ≤ "endOffset") := by decide
  have h₄ : ¬ ("topic" ≤ "partition") := by decide
  have h₅ : ¬ ("topic" ≤ "startOffset") := by decide
  have h₆ : "partition" ≤ "startOffset" := by decide
  simp only [KafkaRange.document, Json.sortKeys, Json.sortFields, List.insertionSort_cons,
    List.insertionSort_nil, List.orderedInsert, h₁, h₂, h₃, h₄, h₅, h₆, if_true, if_false]

theorem eq_of_sortKeys_document {a b : KafkaRange} (h : a.document.sortKeys = b.document.sortKeys) :
    a = b := by
  simp only [sortKeys_document, Json.obj.injEq, List.cons.injEq, Prod.mk.injEq, Json.str.injEq,
    Json.int.injEq, true_and, and_true] at h
  obtain ⟨hend, hpart, hstart, htopic⟩ := h
  cases a; cases b
  cases hend; cases hpart; cases hstart; cases htopic
  rfl

theorem sortItems_documents_injective : ∀ {as bs : List KafkaRange},
    Json.sortItems (as.map KafkaRange.document) = Json.sortItems (bs.map KafkaRange.document) →
      as = bs
  | [], [], _ => rfl
  | [], _ :: _, h => nomatch h
  | _ :: _, [], h => nomatch h
  | a :: as, b :: bs, h => by
      simp only [List.map_cons, Json.sortItems, List.cons.injEq] at h
      rw [eq_of_sortKeys_document h.1, sortItems_documents_injective h.2]

/-- The canonical text determines the ranges. -/
theorem canonicalText_injective {a b : KafkaRanges} (h : a.canonicalText = b.canonicalText) :
    a = b := by
  have hsorted := Json.dumps_injective true h
  simp only [Json.sortKeys, Json.arr.injEq] at hsorted
  exact KafkaRanges.ext (sortItems_documents_injective hsorted)

/-- Among texts whose digests are told apart, a fingerprint says which ranges it is of. -/
theorem eq_of_fingerprint {rt : Runtime} {texts : Set String} (hfree : rt.CollisionFree texts)
    {a b : KafkaRanges} (ha : a.canonicalText ∈ texts) (hb : b.canonicalText ∈ texts)
    {fingerprint : String} (hafter : kafkaSourceFingerprint rt a = some fingerprint)
    (hbefore : kafkaSourceFingerprint rt b = some fingerprint) : a = b := by
  unfold kafkaSourceFingerprint at hafter hbefore
  split at hafter
  · exact nomatch hafter
  · split at hbefore
    · exact nomatch hbefore
    · refine canonicalText_injective (hfree ha hb ?_)
      rw [Option.some.inj hafter, Option.some.inj hbefore]

end AskLake.Kafka

/-
# `AskLake.KafkaPublication.PartitionCursors` — one list of cursors, read on both sides

The control plane merges the ends of published ranges into its list of cursors, and the worker
reads that list when it starts:

    mergeStreamPartitionCursorMetrics    items of `current` by `nextOffset`, then the ranges
                                         by `endOffset`; the maximum per topic and partition
    normalizeStreamPartitionCursors      items by `nextOffset`, the maximum again

Items that name no cursor are skipped: no topic, a negative number, a value that `int()` refuses
with a `TypeError` or a `ValueError`.  An infinite float is refused with an `OverflowError`, which
neither side catches.
-/
import AskLake.KafkaPublication.Identity

namespace AskLake.KafkaPublication.PartitionCursors

open AskLake.Lib AskLake.Python AskLake.KafkaPublication.Identity

/-- `(topic, partition)` -/
abbrev CursorKey := String × Int

/-- `dict[tuple[str, int], int]`, in insertion order -/
abbrev CursorDict := List (CursorKey × Int)

variable (host : PublicationHost)

/-- `if not topic or partition < 0 or next_offset < 0: continue` -/
def counted (topic : String) (partition nextOffset : Int) : Option (CursorKey × Int) :=
  if topic = "" ∨ partition < 0 ∨ nextOffset < 0 then none
  else some ((topic, partition), nextOffset)

/-- One round of either loop, up to the assignment; `none` is a `continue`. -/
def readItem (item : Value) (offsetKey : String) : Except Error (Option (CursorKey × Int)) := do
  let topic := strip (host.textOf (item.get "topic"))
  match ← optionalInt host (item.get "partition") with
  | none => return none
  | some partition =>
      match ← optionalInt host (item.get offsetKey) with
      | none => return none
      | some nextOffset => return counted topic partition nextOffset

/-- `merged[key] = max(merged.get(key, 0), next_offset)` -/
def raise (merged : CursorDict) (entry : CursorKey × Int) : CursorDict :=
  upsert entry.1 (max 0 entry.2) (fun next => max next entry.2) merged

def visit (merged : CursorDict) (candidate : Value × String) : Except Error CursorDict := do
  match ← readItem host candidate.1 candidate.2 with
  | none => return merged
  | some entry => return raise merged entry

/-- `sorted(cursors.items())` -/
def sortedItems (cursors : CursorDict) : CursorDict :=
  cursors.insertionSort fun a b => toLex (toLex a.1, a.2) ≤ toLex (toLex b.1, b.2)

def cursorItem (entry : CursorKey × Int) : Value :=
  .obj [("topic", .str entry.1.1), ("partition", .int entry.1.2), ("nextOffset", .int entry.2)]

/-- `merge_stream_partition_cursor_metrics` -/
def mergeStreamPartitionCursorMetrics (current sourceRanges : Value) : Except Error Value := do
  let candidates := (rangeItems current).map (fun item => (item, "nextOffset")) ++
    (rangeItems sourceRanges).map fun item => (item, "endOffset")
  let merged ← candidates.foldlM (visit host) []
  return .arr ((sortedItems merged).map cursorItem)

/-- `normalize_stream_partition_cursors` -/
def normalizeStreamPartitionCursors (value : Value) : Except Error CursorDict :=
  ((rangeItems value).map fun item => (item, "nextOffset")).foldlM (visit host) []

/-- `stream_partition_cursor_payload` -/
def streamPartitionCursorPayload (cursors : CursorDict) : Value :=
  .arr ((sortedItems cursors).map cursorItem)

/-- The control plane's list after the ranges of one batch after the other. -/
def mergeAll (current : Value) (ranges : List Value) : Except Error Value :=
  ranges.foldlM (mergeStreamPartitionCursorMetrics host) current

/-! ## What an item names -/

/-- `int(value)` raises what the loops do not catch. -/
def Overflows (value : Value) : Prop := ∃ e, optionalInt host value = .error e

/-- The loops stop at the item. -/
def Stops (candidate : Value × String) : Prop :=
  Overflows host (candidate.1.get "partition") ∨
    (∃ partition, optionalInt host (candidate.1.get "partition") = .ok (some partition)) ∧
      Overflows host (candidate.1.get candidate.2)

/-- The item has the cursor `next` of the partition under `offsetKey`. -/
structure NamesCursor (candidate : Value × String) (key : CursorKey) (next : Int) : Prop where
  topic : strip (host.textOf (candidate.1.get "topic")) = key.1
  named : key.1 ≠ ""
  partition : optionalInt host (candidate.1.get "partition") = .ok (some key.2)
  partition_nonneg : 0 ≤ key.2
  nonneg : 0 ≤ next
  offset : optionalInt host (candidate.1.get candidate.2) = .ok (some next)

/-- The entry an item is counted as. -/
def entry (candidate : Value × String) : Option (CursorKey × Int) :=
  match readItem host candidate.1 candidate.2 with
  | .ok found => found
  | .error _ => none

variable {host} {candidate : Value × String} {key : CursorKey} {next : Int}

theorem readItem_returns :
    (∃ found, readItem host candidate.1 candidate.2 = .ok found) ↔ ¬ Stops host candidate := by
  rw [readItem, Stops, Overflows, Overflows]
  cases hpartition : optionalInt host (candidate.1.get "partition") with
  | error e => exact ⟨fun ⟨_, h⟩ => (nomatch h), fun h => absurd (Or.inl ⟨e, rfl⟩) h⟩
  | ok found =>
      cases found with
      | none =>
          refine ⟨fun _ => ?_, fun _ => ⟨none, rfl⟩⟩
          rintro (⟨_, h⟩ | ⟨⟨_, h⟩, _⟩)
          · exact nomatch h
          · exact nomatch h
      | some partition =>
          cases hnext : optionalInt host (candidate.1.get candidate.2) with
          | error e =>
              refine ⟨?_, fun h => absurd (Or.inr ⟨⟨partition, rfl⟩, e, rfl⟩) h⟩
              rintro ⟨_, h⟩
              exact nomatch h
          | ok found =>
              refine ⟨fun _ => ?_, fun _ => ?_⟩
              · rintro (⟨_, h⟩ | ⟨_, _, h⟩)
                · exact nomatch h
                · exact nomatch h
              · cases found with
                | none => exact ⟨none, rfl⟩
                | some next => exact ⟨_, rfl⟩

theorem counted_eq_some {topic : String} {partition nextOffset : Int} :
    counted topic partition nextOffset = some (key, next) ↔
      (topic = key.1 ∧ partition = key.2 ∧ nextOffset = next) ∧
        key.1 ≠ "" ∧ 0 ≤ key.2 ∧ 0 ≤ next := by
  rw [counted]
  constructor
  · intro h
    split at h
    · exact nomatch h
    · next hpass =>
      obtain ⟨rfl, rfl⟩ := Prod.mk.inj (Option.some.inj h)
      simp only [not_or, not_lt] at hpass
      exact ⟨⟨rfl, rfl, rfl⟩, hpass⟩
  · rintro ⟨⟨rfl, rfl, rfl⟩, hnamed, hpartition, hnext⟩
    rw [if_neg]
    rintro (h | h | h)
    · exact hnamed h
    · exact not_lt.mpr hpartition h
    · exact not_lt.mpr hnext h

theorem entry_eq_some : entry host candidate = some (key, next) ↔
    NamesCursor host candidate key next := by
  rw [entry, readItem]
  cases hpartition : optionalInt host (candidate.1.get "partition") with
  | error e =>
      exact ⟨fun h => (nomatch h), fun h => nomatch hpartition.symm.trans h.partition⟩
  | ok found =>
      cases found with
      | none =>
          exact ⟨fun h => (nomatch h), fun h => nomatch hpartition.symm.trans h.partition⟩
      | some partition =>
          cases hnext : optionalInt host (candidate.1.get candidate.2) with
          | error e =>
              exact ⟨fun h => (nomatch h), fun h => nomatch hnext.symm.trans h.offset⟩
          | ok found =>
              cases found with
              | none => exact ⟨fun h => (nomatch h), fun h => nomatch hnext.symm.trans h.offset⟩
              | some offset =>
                  refine counted_eq_some.trans ⟨?_, fun h => ?_⟩
                  · rintro ⟨⟨htopic, rfl, rfl⟩, hnamed, hpartition', hnext'⟩
                    exact ⟨htopic, hnamed, hpartition, hpartition', hnext', hnext⟩
                  · have hp := Option.some.inj (Except.ok.inj (hpartition.symm.trans h.partition))
                    have hn := Option.some.inj (Except.ok.inj (hnext.symm.trans h.offset))
                    exact ⟨⟨h.topic, hp, hn⟩, h.named, h.partition_nonneg, h.nonneg⟩

/-! ## The loops -/

/-- No item of the list stops a loop that reads `offsetKey`. -/
def Readable (host : PublicationHost) (value : Value) (offsetKey : String) : Prop :=
  ∀ item ∈ rangeItems value, ¬ Stops host (item, offsetKey)

/-- What the items of a list are counted as. -/
def entriesOf (host : PublicationHost) (value : Value) (offsetKey : String) : CursorDict :=
  (rangeItems value).filterMap fun item => entry host (item, offsetKey)

/-- The maximum of the entries, key by key. -/
def dictOf (entries : CursorDict) : CursorDict := entries.foldl raise []

theorem visit_eq_ok {merged merged' : CursorDict} :
    visit host merged candidate = .ok merged' ↔
      ¬ Stops host candidate ∧ (entry host candidate).elim merged (raise merged) = merged' := by
  rw [← readItem_returns, visit, entry]
  cases readItem host candidate.1 candidate.2 with
  | error e => exact ⟨fun h => (nomatch h), fun ⟨⟨_, h⟩, _⟩ => (nomatch h)⟩
  | ok found =>
      cases found with
      | none => exact ⟨fun h => ⟨⟨_, rfl⟩, Except.ok.inj h⟩, fun h => congrArg Except.ok h.2⟩
      | some e => exact ⟨fun h => ⟨⟨_, rfl⟩, Except.ok.inj h⟩, fun h => congrArg Except.ok h.2⟩

theorem foldlM_visit_eq_ok {candidates : List (Value × String)} {start merged : CursorDict} :
    candidates.foldlM (visit host) start = .ok merged ↔
      (∀ c ∈ candidates, ¬ Stops host c) ∧
        (candidates.filterMap (entry host)).foldl raise start = merged := by
  induction candidates generalizing start with
  | nil =>
      rw [List.foldlM_nil, pure_eq_ok]
      exact ⟨fun h => ⟨fun _ hc => (nomatch hc), h⟩, fun h => h.2⟩
  | cons c candidates ih =>
      rw [List.foldlM_cons, bind_eq_ok, List.forall_mem_cons, and_assoc]
      constructor
      · rintro ⟨middle, hvisit, hrest⟩
        obtain ⟨hstop, rfl⟩ := visit_eq_ok.mp hvisit
        obtain ⟨hstops, hfold⟩ := ih.mp hrest
        refine ⟨hstop, hstops, ?_⟩
        rw [List.filterMap_cons]
        cases hentry : entry host c with
        | none => rw [hentry] at hfold; exact hfold
        | some e => rw [hentry] at hfold; exact hfold
      · rintro ⟨hstop, hstops, hfold⟩
        refine ⟨_, visit_eq_ok.mpr ⟨hstop, rfl⟩, ih.mpr ⟨hstops, ?_⟩⟩
        rw [List.filterMap_cons] at hfold
        cases hentry : entry host c with
        | none => rw [hentry] at hfold; exact hfold
        | some e => rw [hentry] at hfold; exact hfold

theorem normalize_eq_ok {value : Value} {cursors : CursorDict} :
    normalizeStreamPartitionCursors host value = .ok cursors ↔
      Readable host value "nextOffset" ∧ dictOf (entriesOf host value "nextOffset") = cursors := by
  rw [normalizeStreamPartitionCursors, foldlM_visit_eq_ok, List.forall_mem_map,
    List.filterMap_map]
  rfl

theorem merge_eq_ok {current sourceRanges final : Value} :
    mergeStreamPartitionCursorMetrics host current sourceRanges = .ok final ↔
      (Readable host current "nextOffset" ∧ Readable host sourceRanges "endOffset") ∧
        streamPartitionCursorPayload (dictOf (entriesOf host current "nextOffset" ++
          entriesOf host sourceRanges "endOffset")) = final := by
  rw [mergeStreamPartitionCursorMetrics, bind_eq_ok]
  simp only [foldlM_visit_eq_ok, List.forall_mem_append, List.forall_mem_map,
    List.filterMap_append, List.filterMap_map, pure_eq_ok]
  constructor
  · rintro ⟨merged, ⟨hreadable, rfl⟩, hfinal⟩
    exact ⟨hreadable, hfinal⟩
  · rintro ⟨hreadable, hfinal⟩
    exact ⟨_, ⟨hreadable, rfl⟩, hfinal⟩

/-! ## The dictionary of maxima -/

variable {entries entries' : CursorDict}

/-- An entry that is read as it is written. -/
structure Proper (e : CursorKey × Int) : Prop where
  topic : strip e.1.1 = e.1.1
  named : e.1.1 ≠ ""
  partition : 0 ≤ e.1.2
  next : 0 ≤ e.2

theorem mem_entriesOf {value : Value} {offsetKey : String} :
    (key, next) ∈ entriesOf host value offsetKey ↔
      ∃ item ∈ rangeItems value, NamesCursor host (item, offsetKey) key next := by
  rw [entriesOf, List.mem_filterMap]
  exact exists_congr fun _ => and_congr_right fun _ => entry_eq_some

theorem proper_entriesOf (host : PublicationHost) (value : Value) (offsetKey : String) :
    ∀ e ∈ entriesOf host value offsetKey, Proper e := by
  rintro ⟨key, next⟩ he
  obtain ⟨item, _, hnames⟩ := mem_entriesOf.mp he
  exact ⟨hnames.topic ▸ strip_strip _, hnames.named, hnames.partition_nonneg, hnames.nonneg⟩

theorem dictOf_eq_collect (entries : CursorDict) : dictOf entries =
    collect Prod.fst (fun e => max 0 e.2) (fun e next => max next e.2) entries := rfl

theorem nodup_dictOf (entries : CursorDict) : ((dictOf entries).map Prod.fst).Nodup := by
  rw [dictOf_eq_collect]
  exact nodup_collect entries

/-- The offsets of the entries of a key. -/
def offsets (entries : CursorDict) (key : CursorKey) : Set Int := { n | (key, n) ∈ entries }

theorem mem_dictOf (h : ∀ e ∈ entries, Proper e) :
    (key, next) ∈ dictOf entries ↔ IsGreatest (offsets entries key) next := by
  have hset : { c | ∃ e ∈ entries, e.1 = key ∧ e.2 = c } = offsets entries key := by
    ext n
    constructor
    · rintro ⟨⟨k, m⟩, he, rfl, rfl⟩
      exact he
    · intro hn
      exact ⟨_, hn, rfl, rfl⟩
  rw [mem_iff_lookup (nodup_dictOf entries), dictOf_eq_collect,
    lookup_collect_max fun e he => (h e he).next, hset]

theorem proper_dictOf (h : ∀ e ∈ entries, Proper e) : ∀ e ∈ dictOf entries, Proper e :=
  fun _ he => h _ ((mem_dictOf h).mp he).1

/-- Each key with an entry has a greatest one. -/
theorem exists_greatest (h : ∀ e ∈ entries, Proper e) (hnext : next ∈ offsets entries key) :
    ∃ m, IsGreatest (offsets entries key) m := by
  have hkept : ∃ m, (key, m) ∈ dictOf entries := by
    rw [dictOf_eq_collect]
    exact exists_mem_collect hnext
  obtain ⟨m, hm⟩ := hkept
  exact ⟨m, (mem_dictOf h).mp hm⟩

/-! ## The list that is written -/

theorem mem_sortedItems {cursors : CursorDict} {e : CursorKey × Int} :
    e ∈ sortedItems cursors ↔ e ∈ cursors := List.mem_insertionSort _

/-- The maxima determine the list. -/
theorem payload_congr (h : ∀ e ∈ entries, Proper e) (h' : ∀ e ∈ entries', Proper e)
    (hsame : ∀ key n, IsGreatest (offsets entries key) n ↔ IsGreatest (offsets entries' key) n) :
    streamPartitionCursorPayload (dictOf entries) =
      streamPartitionCursorPayload (dictOf entries') := by
  have hmem : ∀ e, e ∈ dictOf entries ↔ e ∈ dictOf entries' := by
    rintro ⟨key, next⟩
    rw [mem_dictOf h, mem_dictOf h', hsame]
  have hperm : (dictOf entries).Perm (dictOf entries') :=
    (List.perm_ext_iff_of_nodup (nodup_dictOf _).of_map (nodup_dictOf _).of_map).mpr hmem
  have hsorted : (sortedItems (dictOf entries)).Perm (sortedItems (dictOf entries')) :=
    ((List.perm_insertionSort _ _).trans hperm).trans (List.perm_insertionSort _ _).symm
  refine congrArg (fun items => Value.arr (items.map cursorItem)) (hsorted.eq_of_pairwise
    (fun a b _ _ hab hba => ?_) (List.pairwise_insertionSort _ _)
    (List.pairwise_insertionSort _ _))
  obtain ⟨hkey, hnext⟩ := Prod.mk.inj (toLex_inj.mp (le_antisymm hab hba))
  exact Prod.ext (toLex_inj.mp hkey) hnext

theorem rangeItems_payload (cursors : CursorDict) :
    rangeItems (streamPartitionCursorPayload cursors) = (sortedItems cursors).map cursorItem := by
  rw [streamPartitionCursorPayload, rangeItems, List.filter_eq_self]
  exact List.forall_mem_map.mpr fun _ _ => rfl

theorem readItem_cursorItem (e : CursorKey × Int) : readItem host (cursorItem e) "nextOffset" =
    .ok (counted (strip e.1.1) e.1.2 e.2) := by
  have htopic : host.textOf ((cursorItem e).get "topic") = e.1.1 := Host.textOf_str _ _
  rw [readItem, htopic]
  rfl

/-- Each side can read the list that is written. -/
theorem readable_payload (cursors : CursorDict) :
    Readable host (streamPartitionCursorPayload cursors) "nextOffset" := by
  rw [Readable, rangeItems_payload, List.forall_mem_map]
  intro e _
  exact readItem_returns.mp ⟨_, readItem_cursorItem e⟩

/-- The list that is written is read as the dictionary it was written from. -/
theorem entriesOf_payload {cursors : CursorDict} (h : ∀ e ∈ cursors, Proper e) :
    entriesOf host (streamPartitionCursorPayload cursors) "nextOffset" = sortedItems cursors := by
  rw [entriesOf, rangeItems_payload, List.filterMap_map]
  refine (List.filterMap_congr fun e he => ?_).trans List.filterMap_some
  have hproper := h e (mem_sortedItems.mp he)
  rw [Function.comp_apply, entry, readItem_cursorItem, hproper.topic]
  exact counted_eq_some.mpr ⟨⟨rfl, rfl, rfl⟩, hproper.named, hproper.partition, hproper.next⟩

/-- Entries that are replaced by their maxima leave the maxima of all as they are. -/
theorem greatest_absorb (h : ∀ e ∈ entries, Proper e) (more : CursorDict) :
    IsGreatest (offsets (sortedItems (dictOf entries) ++ more) key) next ↔
      IsGreatest (offsets (entries ++ more) key) next := by
  have hmem : ∀ n, n ∈ offsets (sortedItems (dictOf entries) ++ more) key ↔
      IsGreatest (offsets entries key) n ∨ n ∈ offsets more key := by
    intro n
    rw [← mem_dictOf h, ← mem_sortedItems]
    exact List.mem_append
  have hmem' : ∀ n, n ∈ offsets (entries ++ more) key ↔
      n ∈ offsets entries key ∨ n ∈ offsets more key := fun n => List.mem_append
  constructor
  · rintro ⟨hin, hbound⟩
    refine ⟨(hmem' next).mpr (((hmem next).mp hin).imp_left fun hm => hm.1), fun n hn => ?_⟩
    rcases (hmem' n).mp hn with hold | hmore
    · obtain ⟨m, hm⟩ := exists_greatest h hold
      exact (hm.2 hold).trans (hbound ((hmem m).mpr (Or.inl hm)))
    · exact hbound ((hmem n).mpr (Or.inr hmore))
  · rintro ⟨hin, hbound⟩
    refine ⟨(hmem next).mpr (((hmem' next).mp hin).imp_left fun hold => ⟨hold, fun n hn => ?_⟩),
      fun n hn => ?_⟩
    · exact hbound ((hmem' n).mpr (Or.inl hn))
    · exact hbound ((hmem' n).mpr (((hmem n).mp hn).imp_left fun hm => hm.1))

/-! ## One batch after the other -/

/-- The ranges of a list of batches. -/
def rangeEntries (host : PublicationHost) (ranges : List Value) : CursorDict :=
  ranges.flatMap fun r => entriesOf host r "endOffset"

theorem proper_append {more : CursorDict} (h : ∀ e ∈ entries, Proper e)
    (hmore : ∀ e ∈ more, Proper e) : ∀ e ∈ entries ++ more, Proper e := by
  intro e he
  rcases List.mem_append.mp he with hold | hnew
  · exact h e hold
  · exact hmore e hnew

/-- The step: a list of maxima takes up the ranges of one batch. -/
theorem merge_payload (h : ∀ e ∈ entries, Proper e) {r final : Value} :
    mergeStreamPartitionCursorMetrics host (streamPartitionCursorPayload (dictOf entries)) r =
        .ok final ↔ Readable host r "endOffset" ∧
      streamPartitionCursorPayload (dictOf (entries ++ entriesOf host r "endOffset")) = final := by
  have hr := proper_entriesOf host r "endOffset"
  have hsorted : ∀ e ∈ sortedItems (dictOf entries), Proper e :=
    fun e he => proper_dictOf h e (mem_sortedItems.mp he)
  rw [merge_eq_ok, entriesOf_payload (proper_dictOf h),
    payload_congr (proper_append hsorted hr) (proper_append h hr) fun _ _ => greatest_absorb h _]
  exact and_congr_left fun _ => and_iff_right (readable_payload _)

/-- The run: it takes up one batch after the other. -/
theorem mergeAll_payload (h : ∀ e ∈ entries, Proper e) {ranges : List Value} {final : Value} :
    mergeAll host (streamPartitionCursorPayload (dictOf entries)) ranges = .ok final ↔
      (∀ r ∈ ranges, Readable host r "endOffset") ∧
        streamPartitionCursorPayload (dictOf (entries ++ rangeEntries host ranges)) = final := by
  induction ranges generalizing entries with
  | nil =>
      rw [mergeAll, List.foldlM_nil, pure_eq_ok, rangeEntries, List.flatMap_nil, List.append_nil]
      exact ⟨fun heq => ⟨fun _ hr => (nomatch hr), heq⟩, fun heq => heq.2⟩
  | cons r ranges ih =>
      have happend : entries ++ rangeEntries host (r :: ranges) =
          entries ++ entriesOf host r "endOffset" ++ rangeEntries host ranges := by
        rw [rangeEntries, List.flatMap_cons, List.append_assoc]
        rfl
      have hnext := proper_append h (proper_entriesOf host r "endOffset")
      rw [mergeAll, List.foldlM_cons, bind_eq_ok, List.forall_mem_cons, happend, and_assoc]
      constructor
      · rintro ⟨middle, hmerge, hrest⟩
        obtain ⟨hreadable, rfl⟩ := (merge_payload h).mp hmerge
        exact ⟨hreadable, (ih hnext).mp hrest⟩
      · rintro ⟨hreadable, hrest⟩
        exact ⟨_, (merge_payload h).mpr ⟨hreadable, rfl⟩, (ih hnext).mpr hrest⟩

/-- All entries of the control plane's list and of the batches. -/
def allEntries (host : PublicationHost) (current : Value) (ranges : List Value) : CursorDict :=
  entriesOf host current "nextOffset" ++ rangeEntries host ranges

/-- Neither the list nor a batch stops a loop. -/
def AllReadable (host : PublicationHost) (current : Value) (ranges : List Value) : Prop :=
  Readable host current "nextOffset" ∧ ∀ r ∈ ranges, Readable host r "endOffset"

theorem proper_allEntries (host : PublicationHost) (current : Value) (ranges : List Value) :
    ∀ e ∈ allEntries host current ranges, Proper e := by
  refine proper_append (proper_entriesOf _ current _) fun e he => ?_
  obtain ⟨r, _, hr⟩ := List.mem_flatMap.mp he
  exact proper_entriesOf _ r _ e hr

/-- After a batch the list holds the maxima of all entries so far. -/
theorem mergeAll_cons_eq_ok {current r final : Value} {ranges : List Value} :
    mergeAll host current (r :: ranges) = .ok final ↔ AllReadable host current (r :: ranges) ∧
      streamPartitionCursorPayload (dictOf (allEntries host current (r :: ranges))) = final := by
  have hfirst := proper_append (proper_entriesOf host current "nextOffset")
    (proper_entriesOf host r "endOffset")
  have hall : allEntries host current (r :: ranges) =
      entriesOf host current "nextOffset" ++ entriesOf host r "endOffset" ++
        rangeEntries host ranges := by
    rw [allEntries, rangeEntries, List.flatMap_cons, List.append_assoc]
    rfl
  rw [mergeAll, List.foldlM_cons, bind_eq_ok, AllReadable, List.forall_mem_cons, ← and_assoc,
    hall, and_assoc]
  constructor
  · rintro ⟨middle, hmerge, hrest⟩
    obtain ⟨hreadable, rfl⟩ := merge_eq_ok.mp hmerge
    exact ⟨hreadable, (mergeAll_payload hfirst).mp hrest⟩
  · rintro ⟨hreadable, hrest⟩
    exact ⟨_, merge_eq_ok.mpr ⟨hreadable, rfl⟩, (mergeAll_payload hfirst).mpr hrest⟩

/-- The worker reads the maxima of all entries, before the first batch and after any. -/
theorem normalize_mergeAll {current final : Value} {ranges : List Value} {cursors : CursorDict}
    (hfinal : mergeAll host current ranges = .ok final)
    (hread : normalizeStreamPartitionCursors host final = .ok cursors) :
    valueAt cursors key = some next ↔
      IsGreatest (offsets (allEntries host current ranges) key) next := by
  obtain ⟨-, rfl⟩ := normalize_eq_ok.mp hread
  rw [← mem_iff_valueAt (nodup_dictOf _), mem_dictOf (proper_entriesOf _ _ _)]
  cases ranges with
  | nil =>
      rw [mergeAll, List.foldlM_nil, pure_eq_ok] at hfinal
      rw [hfinal, allEntries, rangeEntries, List.flatMap_nil, List.append_nil]
  | cons r ranges =>
      obtain ⟨-, rfl⟩ := mergeAll_cons_eq_ok.mp hfinal
      have hproper := proper_allEntries host current (r :: ranges)
      rw [entriesOf_payload (proper_dictOf hproper), ← List.append_nil (sortedItems _),
        greatest_absorb hproper, List.append_nil]

/-- Both sides return where nothing stops a loop. -/
theorem mergeAll_returns {current : Value} {ranges : List Value} :
    (∃ final cursors, mergeAll host current ranges = .ok final ∧
      normalizeStreamPartitionCursors host final = .ok cursors) ↔
        AllReadable host current ranges := by
  cases ranges with
  | nil =>
      simp only [mergeAll, List.foldlM_nil, pure_eq_ok, normalize_eq_ok]
      constructor
      · rintro ⟨_, _, rfl, hreadable, _⟩
        exact ⟨hreadable, fun _ h => (nomatch h)⟩
      · rintro ⟨hreadable, _⟩
        exact ⟨_, _, rfl, hreadable, rfl⟩
  | cons r ranges =>
      simp only [mergeAll_cons_eq_ok, normalize_eq_ok]
      constructor
      · rintro ⟨_, _, ⟨hall, _⟩, _⟩
        exact hall
      · intro hall
        exact ⟨_, _, ⟨hall, rfl⟩, readable_payload _, rfl⟩

/-! ## Agreement -/

/-- The offsets that items of the list or of a batch name for a partition. -/
def namedOffsets (host : PublicationHost) (current : Value) (ranges : List Value)
    (key : CursorKey) : Set Int :=
  { next | (∃ item ∈ rangeItems current, NamesCursor host (item, "nextOffset") key next) ∨
    ∃ r ∈ ranges, ∃ item ∈ rangeItems r, NamesCursor host (item, "endOffset") key next }

theorem offsets_allEntries (current : Value) (ranges : List Value) (key : CursorKey) :
    offsets (allEntries host current ranges) key = namedOffsets host current ranges key := by
  ext next
  refine List.mem_append.trans (or_congr mem_entriesOf (List.mem_flatMap.trans ?_))
  exact exists_congr fun _ => and_congr_right fun _ => mem_entriesOf

/-- Control plane and worker agree on every cursor, after any number of batches. -/
structure CursorsAgree (host : PublicationHost) (current : Value) (ranges : List Value) :
    Prop where
  /-- The worker reads the greatest offset that is named, key by key, and the list is what the
  worker itself would write. -/
  read : ∃ final cursors, mergeAll host current ranges = .ok final ∧
    normalizeStreamPartitionCursors host final = .ok cursors ∧
    (∀ key next, valueAt cursors key = some next ↔
      IsGreatest (namedOffsets host current ranges key) next) ∧
    (ranges ≠ [] → final = streamPartitionCursorPayload cursors)
  /-- The order of the batches and their repetition do not show. -/
  order : ∀ ranges', (∀ r, r ∈ ranges' ↔ r ∈ ranges) →
    mergeAll host current ranges' = mergeAll host current ranges
  /-- No batch lowers a cursor or drops one. -/
  grows : ∀ before r after, ranges = before ++ r :: after → ∃ final final' cursors cursors',
    mergeAll host current before = .ok final ∧
    mergeStreamPartitionCursorMetrics host final r = .ok final' ∧
    normalizeStreamPartitionCursors host final = .ok cursors ∧
    normalizeStreamPartitionCursors host final' = .ok cursors' ∧
    ∀ key next, valueAt cursors key = some next →
      ∃ next', next ≤ next' ∧ valueAt cursors' key = some next'

theorem namedOffsets_congr {current : Value} {ranges ranges' : List Value}
    (h : ∀ r, r ∈ ranges' ↔ r ∈ ranges) (key : CursorKey) :
    namedOffsets host current ranges' key = namedOffsets host current ranges key := by
  ext next
  exact or_congr_right (exists_congr fun r => and_congr_left fun _ => h r)

/-- The list is what the worker would write after reading it. -/
theorem payload_normalize {current r final : Value} {ranges : List Value} {cursors : CursorDict}
    (hfinal : mergeAll host current (r :: ranges) = .ok final)
    (hread : normalizeStreamPartitionCursors host final = .ok cursors) :
    final = streamPartitionCursorPayload cursors := by
  obtain ⟨-, rfl⟩ := mergeAll_cons_eq_ok.mp hfinal
  obtain ⟨-, rfl⟩ := normalize_eq_ok.mp hread
  have hproper := proper_allEntries host current (r :: ranges)
  have hsorted : ∀ e ∈ sortedItems (dictOf (allEntries host current (r :: ranges))), Proper e :=
    fun e he => proper_dictOf hproper e (mem_sortedItems.mp he)
  rw [entriesOf_payload (proper_dictOf hproper)]
  refine payload_congr hproper hsorted fun key next => ?_
  rw [← List.append_nil (sortedItems _), greatest_absorb hproper, List.append_nil]

/-- The order of the batches and their repetition do not show. -/
theorem mergeAll_of_same {current : Value} {ranges ranges' : List Value}
    (hall : AllReadable host current ranges) (hsame : ∀ r, r ∈ ranges' ↔ r ∈ ranges) :
    mergeAll host current ranges' = mergeAll host current ranges := by
  cases ranges with
  | nil =>
      cases ranges' with
      | nil => rfl
      | cons r' _ => exact nomatch (hsame r').mp List.mem_cons_self
  | cons r ranges =>
      cases ranges' with
      | nil => exact nomatch (hsame r).mpr List.mem_cons_self
      | cons r' ranges' =>
          have hall' : AllReadable host current (r' :: ranges') :=
            ⟨hall.1, fun x hx => hall.2 x ((hsame x).mp hx)⟩
          rw [mergeAll_cons_eq_ok.mpr ⟨hall, rfl⟩, mergeAll_cons_eq_ok.mpr ⟨hall', rfl⟩]
          refine congrArg Except.ok (payload_congr (proper_allEntries host _ _)
            (proper_allEntries host _ _) fun key next => ?_)
          rw [offsets_allEntries, offsets_allEntries, namedOffsets_congr hsame]

/-- No batch lowers a cursor or drops one. -/
theorem mergeAll_grows {current r : Value} {before : List Value}
    (hall : AllReadable host current before) (hr : Readable host r "endOffset") :
    ∃ final final' cursors cursors',
      mergeAll host current before = .ok final ∧
      mergeStreamPartitionCursorMetrics host final r = .ok final' ∧
      normalizeStreamPartitionCursors host final = .ok cursors ∧
      normalizeStreamPartitionCursors host final' = .ok cursors' ∧
      ∀ key next, valueAt cursors key = some next →
        ∃ next', next ≤ next' ∧ valueAt cursors' key = some next' := by
  have hmore : AllReadable host current (before ++ [r]) :=
    ⟨hall.1, List.forall_mem_append.mpr ⟨hall.2, List.forall_mem_singleton.mpr hr⟩⟩
  obtain ⟨final', cursors', hfinal', hread'⟩ := mergeAll_returns.mpr hmore
  obtain ⟨final, hbefore, hstep⟩ : ∃ final, mergeAll host current before = .ok final ∧
      mergeStreamPartitionCursorMetrics host final r = .ok final' := by
    have happend := hfinal'
    rw [mergeAll, List.foldlM_append, bind_eq_ok] at happend
    obtain ⟨final, hbefore, hlast⟩ := happend
    rw [List.foldlM_cons, bind_eq_ok] at hlast
    obtain ⟨_, hstep, hnil⟩ := hlast
    exact ⟨final, hbefore, pure_eq_ok.mp hnil ▸ hstep⟩
  have hfinal : Readable host final "nextOffset" := (merge_eq_ok.mp hstep).1.1
  have hread := normalize_eq_ok.mpr ⟨hfinal, rfl⟩
  refine ⟨final, final', _, cursors', hbefore, hstep, hread, hread', fun key next hvalue => ?_⟩
  have hgreatest := (normalize_mergeAll hbefore hread).mp hvalue
  have hmem : next ∈ offsets (allEntries host current (before ++ [r])) key := by
    rw [offsets_allEntries]
    have hold := hgreatest.1
    rw [offsets_allEntries] at hold
    exact hold.imp_right fun ⟨r', hr', hnames⟩ => ⟨r', List.mem_append_left _ hr', hnames⟩
  obtain ⟨next', hnext'⟩ := exists_greatest (proper_allEntries host _ _) hmem
  exact ⟨next', hnext'.2 hmem, (normalize_mergeAll hfinal' hread').mpr hnext'⟩

/-- The two sides agree exactly if no item stops a loop: no object has an infinite float as its
partition, or as its offset next to a partition that is a number. -/
theorem cursors_agree_iff (host : PublicationHost) (current : Value) (ranges : List Value) :
    CursorsAgree host current ranges ↔ AllReadable host current ranges := by
  constructor
  · intro h
    obtain ⟨final, cursors, hfinal, hread, _⟩ := h.read
    exact mergeAll_returns.mp ⟨final, cursors, hfinal, hread⟩
  · intro hall
    refine ⟨?_, fun _ hsame => mergeAll_of_same hall hsame, ?_⟩
    · obtain ⟨final, cursors, hfinal, hread⟩ := mergeAll_returns.mpr hall
      refine ⟨final, cursors, hfinal, hread, fun key next => ?_, fun hne => ?_⟩
      · rw [normalize_mergeAll hfinal hread, offsets_allEntries]
      · cases ranges with
        | nil => exact absurd rfl hne
        | cons r ranges => exact payload_normalize hfinal hread
    · rintro before r after rfl
      obtain ⟨hcurrent, hranges⟩ := hall
      obtain ⟨hbefore, hrest⟩ := List.forall_mem_append.mp hranges
      exact mergeAll_grows ⟨hcurrent, hbefore⟩ (List.forall_mem_cons.mp hrest).1

/-- Floats that `int()` refuses with an `OverflowError`. -/
def infinityHost : PublicationHost where
  str _ := ""
  float _ := .refused
  compilePattern _ := .done ()
  lower := asciiLower
  upper := asciiUpper
  lower_ascii := asciiLower_agrees
  upper_ascii := asciiUpper_agrees
  sha256 := id
  floatText _ := "Infinity"
  intOfText _ := none
  intOfFloat _ := .error (.runtime "cannot convert float infinity to integer")

/-- A range whose end `json.loads` reads as infinity. -/
def infiniteRange : Value :=
  .obj [("topic", .str "orders"), ("partition", .int 0), ("endOffset", .float 1e999)]

/-- One such range stops the merge: none of the other cursors is written. -/
theorem infinite_offset_stops_merge :
    ¬ CursorsAgree infinityHost (.arr []) [.arr [infiniteRange]] := by
  intro h
  obtain ⟨final, _, hfinal, _⟩ := h.read
  have hraised : mergeAll infinityHost (.arr []) [.arr [infiniteRange]] =
      .error (.runtime "cannot convert float infinity to integer") := rfl
  exact nomatch hraised.symm.trans hfinal

end AskLake.KafkaPublication.PartitionCursors

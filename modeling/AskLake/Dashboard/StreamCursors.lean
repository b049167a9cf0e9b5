/-
# `AskLake.Dashboard.StreamCursors` — the committed watermark of a partition

For each dataset and partition one row holds `next_offset`, the end of what has
been committed.  Three loops write it.  All of them group the ranges of one
publication by partition and then treat the partitions one by one; they differ
in the rule for one partition:

    advance    raise when the ranges start below the watermark
    progress   skip ranges that lie below it, raise when they straddle it
    seed       the maximum, never raise

`Moves` is what the three have in common: no watermark goes down, and every
range given lies below its partition's watermark afterwards.
-/
import AskLake.Lib.Dict
import AskLake.Store

namespace AskLake.Dashboard

open AskLake.Lib AskLake.Python AskLake.Kafka

abbrev Cursors := Table CursorKey StreamCursor

/-- The row of a range's partition. -/
def cursorKey (datasetId : String) (key : PartitionKey) : CursorKey :=
  ⟨datasetId, key.1, key.2⟩

/-! ## Grouping by partition -/

/-- The lowest start and the highest end of each partition's ranges. -/
def spans (ranges : List KafkaRange) : List (PartitionKey × (Int × Int)) :=
  collect KafkaRange.key (fun r => (r.startOffset, r.endOffset))
    (fun r span => (min span.1 r.startOffset, max span.2 r.endOffset)) ranges

/-- The highest end of each partition's ranges. -/
def ends (ranges : List KafkaRange) : List (PartitionKey × Int) :=
  collect KafkaRange.key (fun r => max 0 r.endOffset) (fun r last => max last r.endOffset) ranges

/-- A loop that only ever widens a span covers every range it saw. -/
theorem foldl_span (rest : List KafkaRange) (span : Int × Int) :
    let final := rest.foldl
      (fun span r => (min span.1 r.startOffset, max span.2 r.endOffset)) span
    final.1 ≤ span.1 ∧ span.2 ≤ final.2 ∧
      (∀ r ∈ rest, final.1 ≤ r.startOffset ∧ r.endOffset ≤ final.2) ∧
      (final.1 = span.1 ∨ ∃ r ∈ rest, final.1 = r.startOffset) := by
  induction rest generalizing span with
  | nil => simp
  | cons r rest ih =>
      obtain ⟨hlo, hhi, hall, hex⟩ := ih (min span.1 r.startOffset, max span.2 r.endOffset)
      simp only [List.foldl_cons] at hlo hhi hall hex ⊢
      refine ⟨hlo.trans (min_le_left ..), (le_max_left ..).trans hhi, ?_, ?_⟩
      · intro r' hr'
        rcases List.mem_cons.mp hr' with rfl | hr'
        · exact ⟨hlo.trans (min_le_right ..), (le_max_right ..).trans hhi⟩
        · exact hall r' hr'
      · rcases hex with hex | ⟨r', hr', hex⟩
        · rcases min_choice span.1 r.startOffset with h | h
          · exact Or.inl (hex.trans h)
          · exact Or.inr ⟨r, List.mem_cons_self, hex.trans h⟩
        · exact Or.inr ⟨r', List.mem_cons_of_mem _ hr', hex⟩

/-- An entry of `spans` covers the ranges of its partition, and starts where one
of them does. -/
theorem mem_spans {ranges : List KafkaRange} {key : PartitionKey} {span : Int × Int}
    (h : (key, span) ∈ spans ranges) :
    (∀ r ∈ ranges, r.key = key → span.1 ≤ r.startOffset ∧ r.endOffset ≤ span.2) ∧
      ∃ r ∈ ranges, r.key = key ∧ span.1 = r.startOffset := by
  have hcombine := mem_collect.mp h
  rcases hfilter : ranges.filter (fun r => r.key = key) with _ | ⟨r₀, rest⟩
  · rw [hfilter] at hcombine
    exact nomatch hcombine
  · rw [hfilter] at hcombine
    simp only [combine, Option.some.injEq] at hcombine
    have hmem : ∀ r, r ∈ r₀ :: rest ↔ r ∈ ranges ∧ r.key = key := by
      intro r
      rw [← hfilter, List.mem_filter, decide_eq_true_eq]
    obtain ⟨hlo, hhi, hall, hex⟩ := foldl_span rest (r₀.startOffset, r₀.endOffset)
    rw [hcombine] at hlo hhi hall hex
    refine ⟨fun r hr hkey => ?_, ?_⟩
    · rcases List.mem_cons.mp ((hmem r).mpr ⟨hr, hkey⟩) with rfl | hr'
      · exact ⟨hlo, hhi⟩
      · exact hall r hr'
    · rcases hex with hex | ⟨r, hr, hex⟩
      · obtain ⟨hr₀, hkey⟩ := (hmem r₀).mp List.mem_cons_self
        exact ⟨r₀, hr₀, hkey, hex⟩
      · obtain ⟨hr', hkey⟩ := (hmem r).mp (List.mem_cons_of_mem _ hr)
        exact ⟨r, hr', hkey, hex⟩

theorem le_foldl_max (rest : List KafkaRange) (last : Int) :
    last ≤ rest.foldl (fun last r => max last r.endOffset) last ∧
      ∀ r ∈ rest, r.endOffset ≤ rest.foldl (fun last r => max last r.endOffset) last := by
  induction rest generalizing last with
  | nil => simp
  | cons r rest ih =>
      obtain ⟨hlast, hall⟩ := ih (max last r.endOffset)
      rw [List.foldl_cons]
      refine ⟨by omega, fun r' hr' => ?_⟩
      rcases List.mem_cons.mp hr' with rfl | hr'
      · omega
      · exact hall r' hr'

theorem mem_ends {ranges : List KafkaRange} {key : PartitionKey} {last : Int}
    (h : (key, last) ∈ ends ranges) : ∀ r ∈ ranges, r.key = key → r.endOffset ≤ last := by
  have hcombine := mem_collect.mp h
  intro r hr hkey
  have hmem : r ∈ ranges.filter fun r => r.key = key := List.mem_filter.mpr ⟨hr, by simpa using hkey⟩
  rcases hfilter : ranges.filter (fun r => r.key = key) with _ | ⟨r₀, rest⟩
  · rw [hfilter] at hmem
    exact nomatch hmem
  · rw [hfilter] at hcombine hmem
    simp only [combine, Option.some.injEq] at hcombine
    obtain ⟨hlast, hall⟩ := le_foldl_max rest (max 0 r₀.endOffset)
    rw [hcombine] at hlast hall
    rcases List.mem_cons.mp hmem with rfl | hr'
    · omega
    · exact hall r hr'

/-! ## The loop over the partitions -/

/-- Treat the partitions one by one: `rule` answers the row to write, or `none`
to leave the partition alone.  The flag says whether a row was written. -/
def moveCursors {β : Type} (rule : Option StreamCursor → β → Except Error (Option StreamCursor))
    (datasetId : String) : Cursors → List (PartitionKey × β) → Except Error (Cursors × Bool)
  | cursors, [] => .ok (cursors, false)
  | cursors, (key, b) :: rest => do
      let moved ← rule (cursors (cursorKey datasetId key)) b
      let (cursors', advanced) ← moveCursors rule datasetId
        (moved.elim cursors fun cursor => cursors.put (cursorKey datasetId key) cursor) rest
      pure (cursors', moved.isSome || advanced)

theorem cursorKey_inj {datasetId : String} {k k' : PartitionKey} :
    cursorKey datasetId k = cursorKey datasetId k' ↔ k = k' := by
  simp [cursorKey, Prod.ext_iff]

/-- A completed loop: each listed partition has been treated by the rule, on the
row it had before the loop; the others are as they were. -/
theorem moveCursors_eq_ok {β : Type}
    {rule : Option StreamCursor → β → Except Error (Option StreamCursor)} {datasetId : String}
    {entries : List (PartitionKey × β)} {cursors cursors' : Cursors} {advanced : Bool}
    (hnodup : (entries.map Prod.fst).Nodup)
    (h : moveCursors rule datasetId cursors entries = .ok (cursors', advanced)) :
    (∀ key b, (key, b) ∈ entries → ∃ moved,
      rule (cursors (cursorKey datasetId key)) b = .ok moved ∧
        cursors' (cursorKey datasetId key) = moved.or (cursors (cursorKey datasetId key))) ∧
      ∀ ck, (∀ key ∈ entries.map Prod.fst, ck ≠ cursorKey datasetId key) →
        cursors' ck = cursors ck := by
  induction entries generalizing cursors advanced with
  | nil =>
      cases h
      exact ⟨fun _ _ hmem => (nomatch hmem), fun _ _ => rfl⟩
  | cons entry rest ih =>
      obtain ⟨key, b⟩ := entry
      obtain ⟨moved, hrule, h⟩ := bind_eq_ok.mp h
      obtain ⟨⟨cursors'', advanced'⟩, hrest, h⟩ := bind_eq_ok.mp h
      have hpair := pure_eq_ok.mp h
      simp only [Prod.mk.injEq] at hpair
      obtain ⟨rfl, -⟩ := hpair
      rw [List.map_cons, List.nodup_cons] at hnodup
      obtain ⟨hmoved, hother⟩ := ih hnodup.2 hrest
      have hself : moved.elim cursors (fun cursor => cursors.put (cursorKey datasetId key) cursor)
          (cursorKey datasetId key) = moved.or (cursors (cursorKey datasetId key)) := by
        cases moved with
        | none => rfl
        | some cursor => exact Table.put_self ..
      have hne : ∀ ck, ck ≠ cursorKey datasetId key →
          moved.elim cursors (fun cursor => cursors.put (cursorKey datasetId key) cursor) ck =
            cursors ck := by
        intro ck hck
        cases moved with
        | none => rfl
        | some cursor => exact Table.put_ne _ hck _
      constructor
      · intro k b' hmem
        rcases List.mem_cons.mp hmem with heq | hlater
        · simp only [Prod.mk.injEq] at heq
          obtain ⟨rfl, rfl⟩ := heq
          refine ⟨moved, hrule, ?_⟩
          rw [hother _ fun k' hk' heq => hnodup.1 (by rw [cursorKey_inj.mp heq]; exact hk'), hself]
        · have hk : k ≠ key := by
            rintro rfl
            exact hnodup.1 (List.mem_map.mpr ⟨_, hlater, rfl⟩)
          obtain ⟨moved', hrule', heq⟩ := hmoved k b' hlater
          rw [hne _ fun h => hk (cursorKey_inj.mp h)] at hrule' heq
          exact ⟨moved', hrule', heq⟩
      · intro ck hck
        rw [List.map_cons] at hck
        rw [hother ck fun k hk => hck k (List.mem_cons_of_mem _ hk),
          hne ck (hck key List.mem_cons_self)]

/-! ## The three rules -/

def advanceRule (revision : Nat) (row : Option StreamCursor) (span : Int × Int) :
    Except Error (Option StreamCursor) :=
  match row with
  | some cursor =>
      if span.1 < cursor.nextOffset then
        .error (.value
          "Kafka stream source range precedes or overlaps the committed partition watermark")
      else .ok (some ⟨max cursor.nextOffset span.2, revision⟩)
  | none => .ok (some ⟨span.2, revision⟩)

def progressRule (revision : Nat) (row : Option StreamCursor) (span : Int × Int) :
    Except Error (Option StreamCursor) :=
  match row with
  | some cursor =>
      if span.2 ≤ cursor.nextOffset then .ok none
      else if span.1 < cursor.nextOffset then
        .error (.value
          "Kafka stream source range partially overlaps the committed partition watermark")
      else .ok (some ⟨span.2, max cursor.updatedRevision revision⟩)
  | none => .ok (some ⟨span.2, revision⟩)

def seedRule (revision : Nat) (row : Option StreamCursor) (last : Int) :
    Except Error (Option StreamCursor) :=
  match row with
  | some cursor => .ok (some ⟨max cursor.nextOffset last, max cursor.updatedRevision revision⟩)
  | none => .ok (some ⟨last, revision⟩)

/-- `advance_stream_partition_cursors` -/
def advanceStreamPartitionCursors (cursors : Cursors) (datasetId : String)
    (sourceRanges : KafkaRanges) (revision : Nat) : Except Error Cursors :=
  Prod.fst <$> moveCursors (advanceRule revision) datasetId cursors (spans sourceRanges.items)

/-- `seed_stream_partition_cursors` -/
def seedStreamPartitionCursors (cursors : Cursors) (datasetId : String)
    (sourceRanges : KafkaRanges) (revision : Nat) : Except Error Cursors :=
  Prod.fst <$> moveCursors (seedRule revision) datasetId cursors (ends sourceRanges.items)

/-- `record_stream_progress` -/
def recordStreamProgress (db : Db) (datasetId : String) (sourceRanges : RangesArgument) :
    Except Error (Db × Bool) := do
  let normalizedRanges ← normalizeKafkaSourceRanges sourceRanges true
  let revision := (db.freshness datasetId).elim 0 Freshness.latestRevision
  let (cursors, advanced) ←
    moveCursors (progressRule revision) datasetId db.cursors (spans normalizedRanges.items)
  pure ({ db with cursors := cursors }, advanced)

/-! ## What they have in common -/

/-- The committed watermark, before and after one of the loops has treated
`ranges`. -/
structure Moves (datasetId : String) (ranges : KafkaRanges) (cursors cursors' : Cursors) :
    Prop where
  monotone : ∀ ck cursor, cursors ck = some cursor →
    ∃ cursor', cursors' ck = some cursor' ∧ cursor.nextOffset ≤ cursor'.nextOffset
  reaches : ∀ r ∈ ranges.items, ∃ cursor', cursors' (cursorKey datasetId r.key) = some cursor' ∧
    r.endOffset ≤ cursor'.nextOffset

theorem Moves.refl_of_reached {datasetId : String} {ranges : KafkaRanges} {cursors : Cursors}
    (h : ∀ r ∈ ranges.items, ∃ cursor, cursors (cursorKey datasetId r.key) = some cursor ∧
      r.endOffset ≤ cursor.nextOffset) : Moves datasetId ranges cursors cursors where
  monotone := fun _ cursor hc => ⟨cursor, hc, le_refl _⟩
  reaches := h

/-- A loop moves the watermarks when its rule does so on each partition. -/
theorem moves_of_rule {β : Type}
    {rule : Option StreamCursor → β → Except Error (Option StreamCursor)} {datasetId : String}
    {ranges : KafkaRanges} {entries : List (PartitionKey × β)} {cursors cursors' : Cursors}
    {advanced : Bool} {last : β → Int}
    (hnodup : (entries.map Prod.fst).Nodup)
    (hentry : ∀ r ∈ ranges.items, ∃ b, (r.key, b) ∈ entries ∧ r.endOffset ≤ last b)
    (hrule : ∀ row b moved, rule row b = .ok moved → ∃ cursor', moved.or row = some cursor' ∧
      last b ≤ cursor'.nextOffset ∧ ∀ cursor, row = some cursor →
        cursor.nextOffset ≤ cursor'.nextOffset)
    (h : moveCursors rule datasetId cursors entries = .ok (cursors', advanced)) :
    Moves datasetId ranges cursors cursors' := by
  obtain ⟨hmoved, hother⟩ := moveCursors_eq_ok hnodup h
  constructor
  · intro ck cursor hck
    by_cases hlisted : ∃ key ∈ entries.map Prod.fst, ck = cursorKey datasetId key
    · obtain ⟨key, hkey, rfl⟩ := hlisted
      obtain ⟨⟨_, b⟩, hmem, rfl⟩ := List.mem_map.mp hkey
      obtain ⟨moved, hok, heq⟩ := hmoved _ b hmem
      obtain ⟨cursor', hcursor', -, hmono⟩ := hrule _ _ _ hok
      exact ⟨cursor', heq.trans hcursor', hmono cursor hck⟩
    · rw [not_exists] at hlisted
      refine ⟨cursor, ?_, le_refl _⟩
      rw [hother ck fun key hkey heq => hlisted key ⟨hkey, heq⟩, hck]
  · intro r hr
    obtain ⟨b, hmem, hle⟩ := hentry r hr
    obtain ⟨moved, hok, heq⟩ := hmoved _ b hmem
    obtain ⟨cursor', hcursor', hlast, -⟩ := hrule _ _ _ hok
    exact ⟨cursor', heq.trans hcursor', hle.trans hlast⟩

theorem spans_entry {ranges : List KafkaRange} {r : KafkaRange} (hr : r ∈ ranges) :
    ∃ span, (r.key, span) ∈ spans ranges ∧ r.endOffset ≤ span.2 := by
  obtain ⟨span, hmem⟩ : ∃ span, (r.key, span) ∈ spans ranges := exists_mem_collect hr
  exact ⟨span, hmem, ((mem_spans hmem).1 r hr rfl).2⟩

theorem ends_entry {ranges : List KafkaRange} {r : KafkaRange} (hr : r ∈ ranges) :
    ∃ last, (r.key, last) ∈ ends ranges ∧ r.endOffset ≤ last := by
  obtain ⟨last, hmem⟩ : ∃ last, (r.key, last) ∈ ends ranges := exists_mem_collect hr
  exact ⟨last, hmem, mem_ends hmem r hr rfl⟩

theorem advanceRule_moves {revision : Nat} {row moved : Option StreamCursor} {span : Int × Int}
    (h : advanceRule revision row span = .ok moved) :
    ∃ cursor', moved.or row = some cursor' ∧ span.2 ≤ cursor'.nextOffset ∧
      ∀ cursor, row = some cursor → cursor.nextOffset ≤ cursor'.nextOffset := by
  unfold advanceRule at h
  split at h
  · split at h
    · exact nomatch h
    · cases h
      exact ⟨_, rfl, le_max_right .., fun _ hc => by cases hc; exact le_max_left ..⟩
  · cases h
    exact ⟨_, rfl, le_refl _, fun _ hc => nomatch hc⟩

theorem progressRule_moves {revision : Nat} {row moved : Option StreamCursor} {span : Int × Int}
    (h : progressRule revision row span = .ok moved) :
    ∃ cursor', moved.or row = some cursor' ∧ span.2 ≤ cursor'.nextOffset ∧
      ∀ cursor, row = some cursor → cursor.nextOffset ≤ cursor'.nextOffset := by
  unfold progressRule at h
  split at h
  · rename_i cursor
    split at h
    · rename_i hcovered
      cases h
      exact ⟨cursor, rfl, hcovered, fun _ hc => by cases hc; exact le_refl _⟩
    · rename_i hcovered
      split at h
      · exact nomatch h
      · cases h
        exact ⟨_, rfl, le_refl _, fun _ hc => by cases hc; exact (not_le.mp hcovered).le⟩
  · cases h
    exact ⟨_, rfl, le_refl _, fun _ hc => nomatch hc⟩

theorem seedRule_moves {revision : Nat} {row moved : Option StreamCursor} {last : Int}
    (h : seedRule revision row last = .ok moved) :
    ∃ cursor', moved.or row = some cursor' ∧ last ≤ cursor'.nextOffset ∧
      ∀ cursor, row = some cursor → cursor.nextOffset ≤ cursor'.nextOffset := by
  unfold seedRule at h
  split at h
  · cases h
    exact ⟨_, rfl, le_max_right .., fun _ hc => by cases hc; exact le_max_left ..⟩
  · cases h
    exact ⟨_, rfl, le_refl _, fun _ hc => nomatch hc⟩

section
variable {cursors cursors' : Cursors} {datasetId : String} {ranges : KafkaRanges} {revision : Nat}

theorem fst_map_eq_ok {α β : Type} {x : Except Error (α × β)} {a : α}
    (h : Prod.fst <$> x = .ok a) : ∃ b, x = .ok (a, b) := by
  cases x with
  | error e => exact nomatch h
  | ok p =>
      cases h
      exact ⟨p.2, rfl⟩

theorem advance_moves
    (h : advanceStreamPartitionCursors cursors datasetId ranges revision = .ok cursors') :
    Moves datasetId ranges cursors cursors' := by
  obtain ⟨_, h⟩ := fst_map_eq_ok h
  exact moves_of_rule (nodup_collect _) (fun _ hr => spans_entry hr)
    (fun _ _ _ => advanceRule_moves) h

/-- What an advance has checked: the ranges start at their watermark or above. -/
theorem advance_fresh
    (h : advanceStreamPartitionCursors cursors datasetId ranges revision = .ok cursors')
    {r : KafkaRange} (hr : r ∈ ranges.items) {cursor : StreamCursor}
    (hcursor : cursors (cursorKey datasetId r.key) = some cursor) :
    cursor.nextOffset ≤ r.startOffset := by
  obtain ⟨_, h⟩ := fst_map_eq_ok h
  obtain ⟨hmoved, -⟩ := moveCursors_eq_ok (nodup_collect _) h
  obtain ⟨span, hmem, -⟩ := spans_entry hr
  obtain ⟨moved, hok, -⟩ := hmoved _ _ hmem
  rw [hcursor, advanceRule] at hok
  have hlow : span.1 ≤ r.startOffset := ((mem_spans hmem).1 r hr rfl).1
  split at hok
  · exact nomatch hok
  · rename_i hspan
    omega

/-- The span of one partition's ranges. -/
def spanAt (ranges : List KafkaRange) (key : PartitionKey) : Option (Int × Int) :=
  combine (fun r => (r.startOffset, r.endOffset))
    (fun r span => (min span.1 r.startOffset, max span.2 r.endOffset))
    (ranges.filter fun r => r.key = key)

theorem mem_spans_iff {ranges : List KafkaRange} {key : PartitionKey} {span : Int × Int} :
    (key, span) ∈ spans ranges ↔ spanAt ranges key = some span := mem_collect

/-- The row of each partition after an advance: at the highest end of its ranges, or above. -/
theorem advance_cursor
    (h : advanceStreamPartitionCursors cursors datasetId ranges revision = .ok cursors')
    (key : PartitionKey) : cursors' (cursorKey datasetId key) =
      match spanAt ranges.items key with
      | none => cursors (cursorKey datasetId key)
      | some span => some ⟨(cursors (cursorKey datasetId key)).elim span.2
          fun cursor => max cursor.nextOffset span.2, revision⟩ := by
  obtain ⟨_, h⟩ := fst_map_eq_ok h
  obtain ⟨hmoved, hother⟩ := moveCursors_eq_ok (nodup_collect _) h
  cases hspan : spanAt ranges.items key with
  | none =>
      refine hother _ fun listed hlisted heq => ?_
      obtain ⟨⟨listed, span⟩, hmem, rfl⟩ := List.mem_map.mp hlisted
      cases cursorKey_inj.mp heq
      exact nomatch hspan.symm.trans (mem_spans_iff.mp hmem)
  | some span =>
      obtain ⟨moved, hrule, heq⟩ := hmoved key span (mem_spans_iff.mpr hspan)
      rw [heq]
      unfold advanceRule at hrule
      split at hrule
      · split at hrule
        · exact nomatch hrule
        · rename_i hrow _
          cases hrule
          rw [hrow]
          rfl
      · rename_i hrow
        cases hrule
        rw [hrow]
        rfl

/-- The highest end of one partition's ranges. -/
def endAt (ranges : List KafkaRange) (key : PartitionKey) : Option Int :=
  combine (fun r => max 0 r.endOffset) (fun r last => max last r.endOffset)
    (ranges.filter fun r => r.key = key)

theorem mem_ends_iff {ranges : List KafkaRange} {key : PartitionKey} {last : Int} :
    (key, last) ∈ ends ranges ↔ endAt ranges key = some last := mem_collect

/-- The row of each partition after a seed. -/
theorem seed_cursor
    (h : seedStreamPartitionCursors cursors datasetId ranges revision = .ok cursors')
    (key : PartitionKey) : cursors' (cursorKey datasetId key) =
      match endAt ranges.items key with
      | none => cursors (cursorKey datasetId key)
      | some last => some ((cursors (cursorKey datasetId key)).elim ⟨last, revision⟩
          fun cursor => ⟨max cursor.nextOffset last, max cursor.updatedRevision revision⟩) := by
  obtain ⟨_, h⟩ := fst_map_eq_ok h
  obtain ⟨hmoved, hother⟩ := moveCursors_eq_ok (nodup_collect _) h
  cases hend : endAt ranges.items key with
  | none =>
      refine hother _ fun listed hlisted heq => ?_
      obtain ⟨⟨listed, last⟩, hmem, rfl⟩ := List.mem_map.mp hlisted
      cases cursorKey_inj.mp heq
      exact nomatch hend.symm.trans (mem_ends_iff.mp hmem)
  | some last =>
      obtain ⟨moved, hrule, heq⟩ := hmoved key last (mem_ends_iff.mpr hend)
      rw [heq]
      unfold seedRule at hrule
      split at hrule
      · rename_i hrow
        cases hrule
        rw [hrow]
        rfl
      · rename_i hrow
        cases hrule
        rw [hrow]
        rfl

/-! ## The last range of a partition -/

/-- Where the last of these ranges on a partition ends. -/
def lastEnd (ranges : List KafkaRange) (key : PartitionKey) : Option Int :=
  ((ranges.filter fun r => r.key = key).getLast?).map KafkaRange.endOffset

theorem lastEnd_append (ranges more : List KafkaRange) (key : PartitionKey) :
    lastEnd (ranges ++ more) key = (lastEnd more key).or (lastEnd ranges key) := by
  unfold lastEnd
  rw [List.filter_append, List.getLast?_append]
  cases (more.filter fun r => r.key = key).getLast? <;> rfl

/-- One after the other, the last range is the highest. -/
theorem foldl_max_ascending {rest : List KafkaRange} {last : Int}
    (hlast : ∀ r ∈ rest, last ≤ r.endOffset)
    (hascending : rest.Pairwise fun a b => a.endOffset ≤ b.endOffset) :
    rest.foldl (fun last r => max last r.endOffset) last =
      (rest.getLast?).elim last KafkaRange.endOffset := by
  induction rest generalizing last with
  | nil => rfl
  | cons r rest ih =>
      obtain ⟨hr, hrest⟩ := List.pairwise_cons.mp hascending
      rw [List.foldl_cons, max_eq_right (hlast r List.mem_cons_self), ih hr hrest,
        List.getLast?_cons]
      cases rest.getLast? <;> rfl

theorem foldl_span_snd (rest : List KafkaRange) (span : Int × Int) :
    (rest.foldl (fun span r => (min span.1 r.startOffset, max span.2 r.endOffset)) span).2 =
      rest.foldl (fun last r => max last r.endOffset) span.2 := by
  induction rest generalizing span with
  | nil => rfl
  | cons r rest ih => rw [List.foldl_cons, List.foldl_cons, ih]

theorem ascending_at (ranges : KafkaRanges) (key : PartitionKey) :
    (ranges.items.filter fun r => r.key = key).Pairwise
      fun a b => a.endOffset ≤ b.endOffset := by
  refine (ranges.disjoint.filter _).imp_of_mem fun {a b} ha hb hbefore => ?_
  have hkey : a.key = b.key := by
    have hka := (List.mem_filter.mp ha).2
    have hkb := (List.mem_filter.mp hb).2
    simp only [decide_eq_true_eq] at hka hkb
    rw [hka, hkb]
  have := b.nonempty
  have := hbefore hkey
  omega

theorem spanAt_lastEnd (ranges : KafkaRanges) (key : PartitionKey) :
    (spanAt ranges.items key).map Prod.snd = lastEnd ranges.items key := by
  have hascending := ascending_at ranges key
  unfold spanAt lastEnd
  cases hfilter : ranges.items.filter fun r => r.key = key with
  | nil => rfl
  | cons r rest =>
      rw [hfilter] at hascending
      obtain ⟨hr, hrest⟩ := List.pairwise_cons.mp hascending
      rw [combine, Option.map_some, foldl_span_snd, foldl_max_ascending hr hrest,
        List.getLast?_cons]
      cases rest.getLast? <;> rfl

theorem endAt_lastEnd (ranges : KafkaRanges) (key : PartitionKey) :
    endAt ranges.items key = lastEnd ranges.items key := by
  have hascending := ascending_at ranges key
  unfold endAt lastEnd
  cases hfilter : ranges.items.filter fun r => r.key = key with
  | nil => rfl
  | cons r rest =>
      rw [hfilter] at hascending
      obtain ⟨hr, hrest⟩ := List.pairwise_cons.mp hascending
      have hpos : max 0 r.endOffset = r.endOffset := by
        have := r.start_nonneg
        have := r.nonempty
        omega
      rw [combine, hpos, foldl_max_ascending hr hrest, List.getLast?_cons]
      cases rest.getLast? <;> rfl

theorem seed_moves (h : seedStreamPartitionCursors cursors datasetId ranges revision = .ok cursors') :
    Moves datasetId ranges cursors cursors' := by
  obtain ⟨_, h⟩ := fst_map_eq_ok h
  exact moves_of_rule (nodup_collect _) (fun _ hr => ends_entry hr)
    (fun _ _ _ => seedRule_moves) h

theorem progress_moves {db db' : Db} {arg : RangesArgument} {advanced : Bool}
    (h : recordStreamProgress db datasetId arg = .ok (db', advanced)) :
    ∃ ranges, normalizeKafkaSourceRanges arg true = .ok ranges ∧
      Moves datasetId ranges db.cursors db'.cursors ∧ db' = { db with cursors := db'.cursors } := by
  obtain ⟨ranges, hranges, h⟩ := bind_eq_ok.mp h
  obtain ⟨⟨cursors, _⟩, hmove, h⟩ := bind_eq_ok.mp h
  have hpair := pure_eq_ok.mp h
  simp only [Prod.mk.injEq] at hpair
  obtain ⟨rfl, rfl⟩ := hpair
  exact ⟨ranges, hranges, moves_of_rule (nodup_collect _) (fun _ hr => spans_entry hr)
    (fun _ _ _ => progressRule_moves) hmove, rfl⟩

end

end AskLake.Dashboard

/-
# `AskLake.Dashboard.WidgetRefresh` — saved results over the revisions of a dataset

A refresh takes one revision into the saved state, or computes all anew:

    saved at r   +   rows of revision r + 1     →   saved at r + 1
    table of the latest revision                →   saved at the latest

A merge computes the columns of a group only where something is counted in it, and a delta is
read by the name of its run from a table that may have been replaced since.
-/
import AskLake.Dashboard.IncrementalRefresh
import AskLake.Store

namespace AskLake.Dashboard

open AskLake.Lib AskLake.Python

section
variable {Row Cell : Type}

/-! ## The code -/

/-- A row of `dataset_revision_commits`, and the rows that its run wrote. -/
structure Revision (Row : Type) where
  commit : RevisionCommit
  rows : List Row

/-- `materialization_mode` is `"delta"`. -/
def Revision.isDelta (engine : SqlEngine Row Cell) (revision : Revision Row) : Bool :=
  engine.lower (strip revision.commit.materializationMode) = "delta"

/-- The refresh may merge it: neither a backfill nor a legacy row. -/
def Revision.merges (engine : SqlEngine Row Cell) (revision : Revision Row) : Bool :=
  revision.isDelta engine && revision.commit.commitKind ≠ .backfill &&
    revision.commit.commitKind ≠ .legacy

/-- The dataset as of its last revision. -/
def tableOf (engine : SqlEngine Row Cell) (revisions : List (Revision Row)) : List Row :=
  revisions.foldl
    (fun table revision => if revision.isDelta engine then table ++ revision.rows
      else revision.rows) []

/-- What `DashboardDatasetQuerySession` is opened on. -/
inductive DashboardSource
  | clickhouse
  /-- with a column `_asklake_run_id`, or without -/
  | iceberg (runColumn : Bool)
  | segments
  deriving DecidableEq

/-- The rows that the session of a delta reads, if `revision_delta_available`; `table` is
`query_table`, each row with its run. -/
def DashboardSource.deltaRows (engine : SqlEngine Row Cell) (source : DashboardSource)
    (revision : Revision Row) (table : List (String × Row)) : Option (List Row) :=
  let written := engine.lower (strip revision.commit.storageFormat) = "iceberg"
  match source with
  | .clickhouse => none
  | .segments => if written then none else some revision.rows
  | .iceberg runColumn =>
      if ¬ written then some (table.map Prod.snd)
      else if runColumn then
        some ((table.filter fun row => row.1 = revision.commit.runId).map Prod.snd)
      else none

/-- What one refresh is told by the engine. -/
structure WidgetReads (Row Cell : Type) where
  source : DashboardSource
  table : List (String × Row)
  /-- `read_aggregate_state` of the dataset, and of the delta -/
  full : Option (AggregateState Cell)
  delta : Option (AggregateState Cell)
  /-- `read_widget` -/
  shown : WidgetResult Cell
  raises : Bool

structure SavedResult (Cell : Type) where
  appliedRevision : Nat
  result : WidgetResult Cell
  /-- `{}` is `none` -/
  state : Option (AggregateState Cell)

structure LiveWidget (Row Cell : Type) where
  revisions : List (Revision Row) := []
  saved : Option (SavedResult Cell) := none

variable [DecidableEq Cell]

/-- `_full_widget_result` -/
def fullWidgetResult (engine : SqlEngine Row Cell) (reads : WidgetReads Row Cell) :
    WidgetResult Cell × Option (AggregateState Cell) :=
  match reads.full with
  | some full =>
      let state := pruneDashboardAggregateState engine full
      (dashboardResultFromAggregateState engine state, some state)
  | none => (reads.shown, none)

/-- `_incremental_widget_result` -/
def incrementalWidgetResult (engine : SqlEngine Row Cell) (widgetType : WidgetType)
    (config : WidgetConfig) (revisions : List (Revision Row)) (reads : WidgetReads Row Cell)
    (saved : SavedResult Cell) : Option (SavedResult Cell) := do
  guard (dashboardWidgetSupportsIncrementalMerge engine widgetType config)
  let current ← saved.state
  let revision ← revisions[saved.appliedRevision]?
  guard (revision.merges engine)
  let _ ← reads.source.deltaRows engine revision reads.table
  let delta ← reads.delta
  guard (¬ (0 < revision.commit.rowCount ∧ delta.rows = []))
  let merged ← mergeDashboardAggregateStates engine current delta
  pure ⟨saved.appliedRevision + 1, dashboardResultFromAggregateState engine merged, some merged⟩

inductive WidgetEvent (Row Cell : Type)
  | commit (revision : Revision Row)
  | refresh (reads : WidgetReads Row Cell)

namespace LiveWidget

/-- A commit, or a refresh (`_live_widget_to_schema`): the locks on the Catalog row, the
freshness and the result keep them apart, and what raises is rolled back. -/
def step (engine : SqlEngine Row Cell) (widgetType : WidgetType) (config : WidgetConfig)
    (s : LiveWidget Row Cell) : WidgetEvent Row Cell → LiveWidget Row Cell
  | .commit revision => { s with revisions := s.revisions ++ [revision] }
  | .refresh reads =>
      if (s.saved.any fun saved => s.revisions.length ≤ saved.appliedRevision) ∨ reads.raises then s
      else
        let (result, state) := fullWidgetResult engine reads
        let saved := s.saved.bind
          (incrementalWidgetResult engine widgetType config s.revisions reads)
        { s with saved := some (saved.getD ⟨s.revisions.length, result, state⟩) }

end LiveWidget

/-! ## What is promised, and what is asked -/

/-- What the session answers for a table: a state of it, or the widget's rows (`shows`) where
there is no state, or too many groups. -/
def WidgetReads.Answers (query : StateQuery Row Cell) (shows : List Row → WidgetResult Cell → Prop)
    (table : List Row) (reads : WidgetReads Row Cell) : Prop :=
  match reads.full with
  | some full => reads.source ≠ .clickhouse ∧ query.Yields table full
  | none => (reads.source = .clickhouse ∨
      maxDashboardIncrementalGroups < (query.groups table).length) ∧ shows table reads.shown

/-- What the full calculation over a table yields. -/
def FullCalculation (engine : SqlEngine Row Cell) (query : StateQuery Row Cell)
    (shows : List Row → WidgetResult Cell → Prop) (table : List Row) (saved : SavedResult Cell) :
    Prop :=
  ∃ reads : WidgetReads Row Cell, reads.Answers query shows table ∧
    fullWidgetResult engine reads = (saved.result, saved.state)

/-- A merge computes every column of the group: something is counted. -/
def Measure.Divides : Measure Row → List Row → Prop
  | numeric _, _ => True
  | measure, group => measure.count group ≠ 0

/-- Of the groups that the merge joins each counts something; with a window, which the merge
counts after, there are not too many. -/
def StateQuery.Merges (engine : SqlEngine Row Cell) (query : StateQuery Row Cell)
    (table more : List Row) : Prop :=
  (query.template.Windowed →
      (query.keysOf (table ++ more)).length ≤ maxDashboardIncrementalGroups) ∧
    ∀ key ∈ query.keysOf table, key ∈ query.keysOf more →
      ¬ query.Stale engine (table ++ more) key →
        query.measure.Divides (query.groupAt (table ++ more) key)

namespace LiveWidget
variable (engine : SqlEngine Row Cell) (query : StateQuery Row Cell)
  (shows : List Row → WidgetResult Cell → Prop) (s : LiveWidget Row Cell)

/-- The saved result is that of its revision. -/
def Right : Prop :=
  ∀ saved ∈ s.saved, saved.appliedRevision ≤ s.revisions.length ∧
    FullCalculation engine query shows
      (tableOf engine (s.revisions.take saved.appliedRevision)) saved

/-- What the engine tells of the tables it reads. -/
def Answered : WidgetEvent Row Cell → Prop
  | .commit _ => True
  | .refresh reads => reads.Answers query shows (reads.table.map Prod.snd) ∧
      ∀ saved ∈ s.saved, ∀ revision ∈ s.revisions[saved.appliedRevision]?,
        ∀ rows ∈ reads.source.deltaRows engine revision reads.table,
          ∀ delta ∈ reads.delta, query.Yields rows delta

/-- The tables read are those of the revisions, and their states can be merged. -/
def Mergeable : WidgetEvent Row Cell → Prop
  | .commit _ => True
  | .refresh reads => reads.table.map Prod.snd = tableOf engine s.revisions ∧
      ∀ saved ∈ s.saved, saved.state.isSome → ∀ revision ∈ s.revisions[saved.appliedRevision]?,
        revision.merges engine → ∀ rows ∈ reads.source.deltaRows engine revision reads.table,
          ∀ delta ∈ reads.delta, (0 < revision.commit.rowCount → delta.rows ≠ []) →
            rows = revision.rows ∧
              query.Merges engine (tableOf engine (s.revisions.take saved.appliedRevision)) rows

/-- The revision and the state advance together, or neither does. -/
def Together (s' : LiveWidget Row Cell) : Prop :=
  s'.saved = s.saved ∨ ∃ saved', s'.saved = some saved' ∧
    ∀ saved ∈ s.saved, saved.appliedRevision < saved'.appliedRevision

end LiveWidget

/-! ## One merge -/

omit [DecidableEq Cell] in
/-- Two rows of one group, merged, are the row of both groups. -/
theorem Measure.mergeRow_row (measure : Measure Row) (key : List Cell) {group more : List Row}
    (h : measure.Divides (group ++ more)) :
    mergeRow (measure.row key more) (measure.row key group) = measure.row key (group ++ more) := by
  have hfits := fits_merge (fits_row measure key group)
    (keeps_row measure key group) (fits_row measure key more) (keeps_row measure key more)
  cases measure with
  | rows =>
      have hpos : 0 < group.length + more.length := by
        rw [← List.length_append]
        exact Nat.pos_of_ne_zero h
      simp [mergeRow, row, numericState, stateMin, stateMax, hpos]
  | ratio numerator denominator =>
      have hne : group ++ more ≠ [] := fun hnil => h (by rw [hnil]; rfl)
      have hcount : _ = (group ++ more).countP denominator := hfits.count
      have hsum := hfits.sum h
      have hpos : 0 < (group ++ more).countP denominator := Nat.pos_of_ne_zero h
      simp only [mergeRow, Option.getD_some] at hcount hsum
      rw [hcount, if_pos hpos] at hsum
      have hrow : (ratio numerator denominator).row key (group ++ more) =
          ⟨key, some ((group ++ more).countP denominator),
            some ((group ++ more).countP numerator : ℚ), none, none⟩ := by
        simp only [row, sumWhere, if_neg hne]
        rfl
      simp only [mergeRow, hcount, if_pos hpos]
      rw [hrow, ← hsum]
      rfl
  | numeric value =>
      have hcount : (group.filterMap value).length + (more.filterMap value).length =
          ((group ++ more).filterMap value).length := by
        rw [List.filterMap_append, List.length_append]
      simp only [mergeRow, row, Option.getD_some, hcount]
      rw [List.filterMap_append, sumNumbers_append, min?_append, max?_append, List.length_append]

omit [DecidableEq Cell] in
theorem AggregateState.prune_prune (engine : SqlEngine Row Cell) (state : AggregateState Cell) :
    pruneDashboardAggregateState engine (pruneDashboardAggregateState engine state) =
      pruneDashboardAggregateState engine state := by
  by_cases hwindowed : state.Windowed
  · have hwindow := @window_append_expired _ (fun row => bucketOf engine state row.cells) _
      state.rows [] (span_nonneg hwindowed) (List.forall_mem_nil _)
    rw [List.append_nil] at hwindow
    rw [prune_eq engine state, if_pos hwindowed]
    refine (prune_eq engine _).trans ((if_pos hwindowed).trans ?_)
    exact congrArg (fun rows => { state with rows }) hwindow
  · rw [prune_eq engine state, if_neg hwindowed, prune_eq, if_neg hwindowed]

theorem AggregateState.merge_eq_some {engine : SqlEngine Row Cell}
    {current delta merged : AggregateState Cell}
    (h : mergeDashboardAggregateStates engine current delta = some merged) :
    (mergedRows current.rows delta.rows).length ≤ maxDashboardIncrementalGroups ∧
      merged = pruneDashboardAggregateState engine
        { current with rows := (mergedRows current.rows delta.rows).map Prod.snd } := by
  rw [mergeDashboardAggregateStates] at h
  split at h
  · cases h
  · dsimp only at h
    split at h
    · cases h
    · rename_i hle
      exact ⟨not_lt.mp hle, (Option.some.inj h).symm⟩

namespace StateQuery
variable {engine : SqlEngine Row Cell} {query : StateQuery Row Cell} {table more : List Row}
  {read delta merged : AggregateState Cell}

theorem eq_rowAt (hbuilt : query.Built) (h : query.Yields table read) {row : StateRow Cell}
    (hrow : row ∈ read.rows) : row = query.rowAt table row.cells := by
  obtain ⟨key, -, rfl⟩ := (mem_of_yields hbuilt h).mp hrow
  rw [cells_rowAt]

/-- A row of the merge that the window keeps is the row of both tables. -/
theorem rowAt_joined (hbuilt : query.Built) (hread : query.Yields table read)
    (hdelta : query.Yields more delta) (hmerges : query.Merges engine table more)
    {row : StateRow Cell} (hjoin : row ∈
      (mergedRows (pruneDashboardAggregateState engine read).rows delta.rows).map Prod.snd)
    (hfresh : ¬ query.Stale engine (table ++ more) row.cells) :
    query.rowAt (table ++ more) row.cells = row := by
  have hall := represents_of_yields engine hbuilt hread
  have hmore := represents_of_yields engine hbuilt hdelta
  obtain ⟨⟨key, row⟩, hentry, rfl⟩ := List.mem_map.mp hjoin
  obtain ⟨hcells, hfrom⟩ := mem_mergedRows hall.prune.nodup hmore.nodup hentry
  rw [hcells] at hfresh ⊢
  rw [rowAt, groupAt_append]
  rcases hfrom with ⟨hold, hnone⟩ | ⟨hnew, hnone⟩ | ⟨old, hold, new, hnew, rfl, hkey, rfl⟩
  · rw [hmore.groupAt_eq_nil hbuilt (fun hstale => hfresh hstale.append_left) hnone,
      List.append_nil, ← hcells]
    exact (eq_rowAt hbuilt hread (hall.mem_prune.mp hold).1).symm
  · rw [hall.prune.groupAt_eq_nil hbuilt (fun hstale => hfresh hstale.append_right) hnone,
      List.nil_append, ← hcells]
    exact (eq_rowAt hbuilt hdelta hnew).symm
  · have hdivides := hmerges.2 old.cells (hall.prune.known old hold)
      (hkey ▸ hmore.known new hnew) hfresh
    rw [groupAt_append] at hdivides
    rw [eq_rowAt hbuilt hread (hall.mem_prune.mp hold).1, eq_rowAt hbuilt hdelta hnew, hkey,
      cells_rowAt]
    exact (Measure.mergeRow_row _ _ hdivides).symm

/-- The merge of what was read of a table and of more rows is what may be read of both. -/
theorem merge_exact (hbuilt : query.Built) (hread : query.Yields table read)
    (hdelta : query.Yields more delta) (hmerges : query.Merges engine table more)
    (hmerged : mergeDashboardAggregateStates engine (pruneDashboardAggregateState engine read)
      delta = some merged) :
    ∃ full, query.Yields (table ++ more) full ∧
      merged = pruneDashboardAggregateState engine full := by
  obtain ⟨hlength, rfl⟩ := AggregateState.merge_eq_some hmerged
  have hall := represents_of_yields engine hbuilt hread
  have hjoined := hall.prune.joined hbuilt
    (fun row hrow => lossless_of_yields engine hbuilt hread row (hall.mem_prune.mp hrow).1)
    (represents_of_yields engine hbuilt hdelta) (lossless_of_yields engine hbuilt hdelta)
  have hgroups : (query.keysOf (table ++ more)).length ≤ maxDashboardIncrementalGroups := by
    by_cases hwindowed : query.template.Windowed
    · exact hmerges.1 hwindowed
    rw [← List.length_map Prod.snd, ← List.length_map StateRow.cells] at hlength
    refine (List.subperm_of_subset (nodup_keysOf ..) fun key hkey => ?_).length_le.trans hlength
    obtain ⟨row, hrow, rfl⟩ := hjoined.present key hkey fun hstale => hwindowed hstale.1
    exact List.mem_map_of_mem hrow
  have hyields := hjoined.prune.yields_reread hbuilt hgroups
  have hsame : ∀ row ∈ (pruneDashboardAggregateState engine _).rows,
      (query.rowAt (table ++ more) ∘ StateRow.cells) row = id row := fun row hrow =>
    rowAt_joined hbuilt hread hdelta hmerges (hjoined.mem_prune.mp hrow).1
      (hjoined.mem_prune.mp hrow).2
  refine ⟨_, hyields, ?_⟩
  rw [(represents_of_yields engine hbuilt hyields).shape_prune, hjoined.prune.prune_reread,
    AggregateState.prune_prune, List.map_map, List.map_congr_left hsame, List.map_id]
  exact hjoined.prune.shape

end StateQuery

/-! ## A run -/

section
variable {engine : SqlEngine Row Cell} {widgetType : WidgetType} {config : WidgetConfig}
  {query : StateQuery Row Cell} {shows : List Row → WidgetResult Cell → Prop}

/-- What an incremental result was merged from. -/
theorem incrementalWidgetResult_eq_some {revisions : List (Revision Row)}
    {reads : WidgetReads Row Cell} {saved saved' : SavedResult Cell}
    (h : incrementalWidgetResult engine widgetType config revisions reads saved = some saved') :
    ∃ current revision rows delta merged, saved.state = some current ∧
      revisions[saved.appliedRevision]? = some revision ∧ revision.merges engine = true ∧
      reads.source.deltaRows engine revision reads.table = some rows ∧ reads.delta = some delta ∧
      (0 < revision.commit.rowCount → delta.rows ≠ []) ∧
      mergeDashboardAggregateStates engine current delta = some merged ∧
      saved' = ⟨saved.appliedRevision + 1, dashboardResultFromAggregateState engine merged,
        some merged⟩ := by
  simp only [incrementalWidgetResult, Option.bind_eq_bind, Option.bind_eq_some_iff] at h
  obtain ⟨_, -, current, hcurrent, revision, hrevision, _, hmerges, rows, hrows, delta, hdelta, _,
    hempty, merged, hmerged, h⟩ := h
  refine ⟨current, revision, rows, delta, merged, hcurrent, hrevision, ?_, hrows, hdelta,
    fun hpos hnil => ?_, hmerged, (Option.some.inj h).symm⟩
  · exact (Option.guard_eq_some' _).mp hmerges
  · exact (Option.guard_eq_some' _).mp hempty ⟨hpos, hnil⟩

/-- A full calculation that saves a state has read it. -/
theorem FullCalculation.read {table : List Row} {saved : SavedResult Cell}
    {current : AggregateState Cell} (h : FullCalculation engine query shows table saved)
    (hcurrent : saved.state = some current) :
    ∃ read, query.Yields table read ∧ current = pruneDashboardAggregateState engine read := by
  obtain ⟨reads, hanswers, hresult⟩ := h
  rw [WidgetReads.Answers] at hanswers
  rw [fullWidgetResult, hcurrent] at hresult
  cases hfull : reads.full with
  | none =>
      rw [hfull] at hresult
      cases congrArg Prod.snd hresult
  | some read =>
      rw [hfull] at hanswers hresult
      exact ⟨read, hanswers.2, (Option.some.inj (congrArg Prod.snd hresult)).symm⟩

namespace LiveWidget
variable {s : LiveWidget Row Cell} {event : WidgetEvent Row Cell}

theorem together_step : Together s (s.step engine widgetType config event) := by
  cases event with
  | commit revision => exact Or.inl rfl
  | refresh reads =>
      unfold Together
      rw [step]
      split
      · exact Or.inl rfl
      · rename_i hnot
        refine Or.inr ⟨_, rfl, fun saved hsaved => ?_⟩
        have hsaved : s.saved = some saved := hsaved
        have hlt : saved.appliedRevision < s.revisions.length := by
          by_contra hle
          exact hnot (Or.inl (by rw [hsaved]; simpa using hle))
        rw [hsaved, Option.bind_some]
        cases hincremental : incrementalWidgetResult engine widgetType config s.revisions reads
            saved with
        | none => exact hlt
        | some saved' =>
            obtain ⟨_, _, _, _, _, _, _, _, _, _, _, _, rfl⟩ :=
              incrementalWidgetResult_eq_some hincremental
            exact Nat.lt_succ_self _

theorem Right.step (hbuilt : query.Built) (h : Right engine query shows s)
    (hanswered : Answered engine query shows s event)
    (hmergeable : Mergeable engine query s event) :
    Right engine query shows (s.step engine widgetType config event) := by
  cases event with
  | commit revision =>
      intro saved hsaved
      obtain ⟨hle, hfull⟩ := h saved hsaved
      refine ⟨hle.trans ?_, ?_⟩
      · show _ ≤ (s.revisions ++ [revision]).length
        rw [List.length_append]
        exact Nat.le_add_right ..
      · show FullCalculation engine query shows
          (tableOf engine ((s.revisions ++ [revision]).take saved.appliedRevision)) saved
        rwa [List.take_append_of_le_length hle]
  | refresh reads =>
      rw [LiveWidget.step]
      split
      · exact h
      cases hbind : s.saved.bind
          (incrementalWidgetResult engine widgetType config s.revisions reads) with
      | none =>
          rintro _ ⟨⟩
          refine ⟨le_rfl, reads, ?_, rfl⟩
          show reads.Answers query shows (tableOf engine (s.revisions.take s.revisions.length))
          rw [List.take_length, ← hmergeable.1]
          exact hanswered.1
      | some saved' =>
          obtain ⟨saved, hsaved, hincremental⟩ := Option.bind_eq_some_iff.mp hbind
          obtain ⟨current, revision, rows, delta, merged, hcurrent, hrevision, hmerges, hrows,
            hdelta, hempty, hmerged, rfl⟩ := incrementalWidgetResult_eq_some hincremental
          rintro _ ⟨⟩
          obtain ⟨read, hread, rfl⟩ := (h saved hsaved).2.read hcurrent
          have hyields := hanswered.2 saved hsaved revision hrevision rows hrows delta hdelta
          obtain ⟨rfl, hgroups⟩ := hmergeable.2 saved hsaved (by rw [hcurrent]; rfl) revision
            hrevision hmerges rows hrows delta hdelta hempty
          obtain ⟨full, hfull, rfl⟩ :=
            StateQuery.merge_exact hbuilt hread hyields hgroups hmerged
          refine ⟨(List.getElem?_eq_some_iff.mp hrevision).1, ⟨.segments, [], some full, none,
            saved.result, false⟩, ⟨(by rintro ⟨⟩), ?_⟩, rfl⟩
          have hdelta : revision.isDelta engine = true := by
            simp only [Revision.merges, Bool.and_eq_true] at hmerges
            exact hmerges.1.1
          show query.Yields (tableOf engine (s.revisions.take (saved.appliedRevision + 1))) full
          rw [List.take_add_one, hrevision, tableOf, List.foldl_append]
          show query.Yields (if revision.isDelta engine then _ else _) full
          rwa [if_pos hdelta]

end LiveWidget

end

/-! ## Purchases before the first click -/

namespace LiveWidget

def eventsRevision (revision : Nat) (mode : String) (rows : List (String × String)) :
    Revision (String × String) where
  commit :=
    { datasetId := "", revision, runId := "", storageLocation := ""
      materializationMode := mode, commitKind := .stream, rowCount := rows.length }
  rows

def eventsReads (table delta : List (String × String)) :
    WidgetReads (String × String) (Option String) where
  source := .segments
  table := table.map (Prod.mk "")
  full := some (eventsQuery.read table)
  delta := some (eventsQuery.read delta)
  shown := dashboardResultFromAggregateState eventsEngine (eventsQuery.read table)
  raises := false

abbrev eventsStep := step eventsEngine .donutChart eventsConfig

/-- A snapshot and then a delta, with a refresh after each. -/
def eventsRun (first more : List (String × String)) :
    List (WidgetEvent (String × String) (Option String)) :=
  [.commit (eventsRevision 1 "snapshot" first), .refresh (eventsReads first first),
    .commit (eventsRevision 2 "delta" more), .refresh (eventsReads (first ++ more) more)]

abbrev purchasesRun := eventsRun [("vip", "purchase")] [("vip", "purchase")]

def eventsShown (rows : List (String × String)) (result : WidgetResult (Option String)) : Prop :=
  result = dashboardResultFromAggregateState eventsEngine (eventsQuery.read rows)

theorem table_eventsReads (table delta : List (String × String)) :
    (eventsReads table delta).table.map Prod.snd = table := by
  rw [eventsReads, List.map_map]
  exact List.map_id _

theorem deltaRows_eventsReads (table delta more : List (String × String)) (revision : Nat)
    (mode : String) : (eventsReads table delta).source.deltaRows eventsEngine
      (eventsRevision revision mode more) (eventsReads table delta).table = some more :=
  if_neg (show ¬ eventsEngine.lower (strip "parquet") = "iceberg" by decide +kernel)

theorem answered_eventsRun {first more : List (String × String)}
    (hfirst : (eventsQuery.groups first).length ≤ maxDashboardIncrementalGroups)
    (hmore : (eventsQuery.groups more).length ≤ maxDashboardIncrementalGroups)
    (hall : (eventsQuery.groups (first ++ more)).length ≤ maxDashboardIncrementalGroups) :
    Along (Answered eventsEngine eventsQuery eventsShown) eventsStep {} (eventsRun first more) := by
  refine ⟨trivial, ⟨⟨(by rintro ⟨⟩), ?_⟩, fun saved hsaved => ?_⟩, trivial,
    ⟨⟨(by rintro ⟨⟩), ?_⟩, ?_⟩, trivial⟩
  · rw [table_eventsReads]
    exact StateQuery.yields_read hfirst
  · cases hsaved
  · rw [table_eventsReads]
    exact StateQuery.yields_read hall
  · rintro _ ⟨⟩ _ ⟨⟩ rows hrows delta ⟨⟩
    cases (deltaRows_eventsReads ..).symm.trans hrows
    exact StateQuery.yields_read hmore

end LiveWidget

end

end AskLake.Dashboard

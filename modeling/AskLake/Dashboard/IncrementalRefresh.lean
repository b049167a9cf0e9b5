/-
# `AskLake.Dashboard.IncrementalRefresh` — merged states show what one state shows

A widget is refreshed by merging the state of each new revision into the state so
far.  `Represents` says what the merged state is to the table that all revisions
make: one row for every group that the window has not dropped, each with the
count and the sum of its group:

    state(A)  +  state(B)      represents      A ++ B

For a ratio the sum is kept only while there are denominators: a merge of two
rows without one drops the numerators of both.  This does not show at once, since
a ratio without denominators is empty; it shows when the first denominator comes.
`NothingLost` is the condition on a merge that excludes this, and only merges
that others follow need it.
-/
import AskLake.Dashboard.StateGroups
import AskLake.Lib.Run

namespace AskLake.Dashboard

open AskLake.Lib AskLake.Python

section
variable {Row Cell : Type}

/-! ## What a row says of its group -/

theorem min?_append (xs ys : List ℚ) : (xs ++ ys).min? = stateMin xs.min? ys.min? := by
  cases xs with
  | nil => cases ys <;> rfl
  | cons x xs =>
      cases ys with
      | nil => rw [List.append_nil]; rfl
      | cons y ys =>
          show some ((xs ++ y :: ys).foldl min x) = some (min (xs.foldl min x) (ys.foldl min y))
          rw [List.foldl_append, List.foldl_cons, List.foldl_assoc]

theorem max?_append (xs ys : List ℚ) : (xs ++ ys).max? = stateMax xs.max? ys.max? := by
  cases xs with
  | nil => cases ys <;> rfl
  | cons x xs =>
      cases ys with
      | nil => rw [List.append_nil]; rfl
      | cons y ys =>
          show some ((xs ++ y :: ys).foldl max x) = some (max (xs.foldl max x) (ys.foldl max y))
          rw [List.foldl_append, List.foldl_cons, List.foldl_assoc]

namespace Measure

def least : Measure Row → List Row → Option ℚ
  | numeric value, group => (group.filterMap value).min?
  | _, _ => none

def greatest : Measure Row → List Row → Option ℚ
  | numeric value, group => (group.filterMap value).max?
  | _, _ => none

/-- The sum is that of the group: for a ratio, where there is a denominator. -/
def Sums : Measure Row → List Row → Option ℚ → Prop
  | rows, _, _ => True
  | ratio numerator denominator, group, sum =>
      group.countP denominator ≠ 0 → numericState sum = group.countP numerator
  | numeric value, group, sum => sum = sumNumbers (group.filterMap value)

/-- The numerators are there, whether there is a denominator or not. -/
def Keeps : Measure Row → List Row → Option ℚ → Prop
  | ratio numerator _, group, sum => numericState sum = group.countP numerator
  | _, _, _ => True

/-- There is no numerator without a denominator. -/
def Covers : Measure Row → List Row → Prop
  | ratio numerator denominator, group =>
      group.countP denominator = 0 → group.countP numerator = 0
  | _, _ => True

/-- A row has the columns of a group. -/
structure Fits (measure : Measure Row) (group : List Row) (row : StateRow Cell) : Prop where
  count : row.count.getD 0 = measure.count group
  sum : measure.Sums group row.sum
  least : row.min = measure.least group
  greatest : row.max = measure.greatest group

variable {measure : Measure Row} {group more : List Row} {row row' : StateRow Cell}

theorem keeps_row (measure : Measure Row) (cells : List Cell) (group : List Row) :
    measure.Keeps group (measure.row cells group).sum := by
  cases measure with
  | rows => trivial
  | ratio numerator denominator =>
      show numericState ((sumWhere numerator group).map fun n => (n : ℚ)) = group.countP numerator
      rw [sumWhere]
      split
      · rename_i hnil
        rw [hnil]
        rfl
      · rfl
  | numeric value => trivial

theorem fits_row (measure : Measure Row) (cells : List Cell) (group : List Row) :
    measure.Fits group (measure.row cells group) := by
  have hkeeps := keeps_row measure cells group
  cases measure with
  | rows => exact ⟨rfl, trivial, rfl, rfl⟩
  | ratio numerator denominator =>
      refine ⟨?_, fun _ => hkeeps, rfl, rfl⟩
      show (sumWhere denominator group).getD 0 = group.countP denominator
      rw [sumWhere]
      split
      · rename_i hnil
        rw [hnil]
        rfl
      · rfl
  | numeric value => exact ⟨rfl, rfl, rfl, rfl⟩

theorem sumNumbers_append (xs ys : List ℚ) : sumNumbers (xs ++ ys) =
    if 0 < xs.length + ys.length then
      some (numericState (sumNumbers xs) + numericState (sumNumbers ys))
    else none := by
  have hsum : ∀ zs : List ℚ, numericState (sumNumbers zs) = zs.sum := by
    intro zs
    rw [sumNumbers]
    split
    · rename_i hnil
      rw [hnil]
      rfl
    · rfl
  rw [hsum, hsum, sumNumbers, List.sum_append]
  cases xs with
  | nil =>
      cases ys with
      | nil => rfl
      | cons y ys =>
          rw [if_neg (show ¬ [] ++ y :: ys = [] from List.cons_ne_nil _ _), if_pos (by simp)]
  | cons x xs =>
      rw [if_neg (show ¬ x :: xs ++ ys = [] from List.cons_ne_nil _ _),
        if_pos (by rw [List.length_cons]; omega)]

/-- Two rows of one group, merged. -/
theorem fits_merge (hfits : measure.Fits group row') (hkeeps : measure.Keeps group row'.sum)
    (hfits' : measure.Fits more row) (hkeeps' : measure.Keeps more row.sum) :
    measure.Fits (group ++ more) (mergeRow row row') := by
  have hcount : row'.count.getD 0 + row.count.getD 0 = measure.count (group ++ more) := by
    rw [hfits.count, hfits'.count, count_append]
  refine ⟨hcount, ?_, ?_, ?_⟩
  · rw [mergeRow]
    simp only [hcount]
    cases measure with
    | rows => trivial
    | ratio numerator denominator =>
        intro hdenominator
        have hpos : 0 < (ratio numerator denominator).count (group ++ more) :=
          Nat.pos_of_ne_zero hdenominator
        rw [if_pos hpos, List.countP_append, Nat.cast_add,
          ← show numericState row'.sum = group.countP numerator from hkeeps,
          ← show numericState row.sum = more.countP numerator from hkeeps']
        rfl
    | numeric value =>
        show _ = sumNumbers ((group ++ more).filterMap value)
        rw [List.filterMap_append, sumNumbers_append,
          ← show row'.sum = _ from hfits.sum, ← show row.sum = _ from hfits'.sum,
          ← List.length_append, ← List.filterMap_append]
        rfl
  · show stateMin row'.min row.min = _
    rw [hfits.least, hfits'.least]
    cases measure with
    | rows => rfl
    | ratio _ _ => rfl
    | numeric value =>
        show _ = ((group ++ more).filterMap value).min?
        rw [List.filterMap_append, min?_append]
        rfl
  · show stateMax row'.max row.max = _
    rw [hfits.greatest, hfits'.greatest]
    cases measure with
    | rows => rfl
    | ratio _ _ => rfl
    | numeric value =>
        show _ = ((group ++ more).filterMap value).max?
        rw [List.filterMap_append, max?_append]
        rfl

/-- The numerators survive the merge where there is a denominator for them. -/
theorem keeps_merge (hfits : measure.Fits group row') (hkeeps : measure.Keeps group row'.sum)
    (hfits' : measure.Fits more row) (hkeeps' : measure.Keeps more row.sum)
    (hcovers : measure.Covers (group ++ more)) :
    measure.Keeps (group ++ more) (mergeRow row row').sum := by
  cases measure with
  | rows => trivial
  | numeric value => trivial
  | ratio numerator denominator =>
      by_cases hdenominator : (group ++ more).countP denominator = 0
      · have hcount : row'.count.getD 0 + row.count.getD 0 = 0 := by
          rw [hfits.count, hfits'.count, ← count_append]
          exact hdenominator
        show numericState (mergeRow row row').sum = (group ++ more).countP numerator
        rw [hcovers hdenominator, mergeRow]
        simp only [hcount]
        rfl
      · exact (fits_merge hfits hkeeps hfits' hkeeps').sum hdenominator

/-- Rows that fit one group are shown as one. -/
theorem Fits.shownNumber_eq {aggregation : Aggregation} (hmeasures : measure.Measures aggregation)
    (h : measure.Fits group row) (h' : measure.Fits group row') :
    shownNumber aggregation row = shownNumber aggregation row' := by
  have hcount : row.count.getD 0 = row'.count.getD 0 := h.count.trans h'.count.symm
  cases measure with
  | rows =>
      cases show aggregation = .count from hmeasures
      show some _ = some _
      rw [hcount]
  | ratio numerator denominator =>
      cases show aggregation = .ratio from hmeasures
      unfold shownNumber
      simp only
      rw [← hcount]
      split
      · rename_i hne
        have hdenominator : group.countP denominator ≠ 0 := by
          rw [h.count] at hne
          exact hne
        rw [h.sum hdenominator, h'.sum hdenominator]
      · rfl
  | numeric value =>
      have hsum : row.sum = row'.sum :=
        (show row.sum = _ from h.sum).trans (show row'.sum = _ from h'.sum).symm
      have hmin : row.min = row'.min := h.least.trans h'.least.symm
      have hmax : row.max = row'.max := h.greatest.trans h'.greatest.symm
      unfold shownNumber
      rw [hcount, hsum, hmin, hmax]

end Measure

/-! ## What the window drops -/

variable [DecidableEq Cell] {engine : SqlEngine Row Cell} {query : StateQuery Row Cell}
  {table more : List Row} {state current delta : AggregateState Cell} {key : List Cell}

namespace AggregateState

/-- The state has a window. -/
def Windowed (state : AggregateState Cell) : Prop :=
  ¬ (state.windowDays.getD 0 < 1 ∨ strip (state.windowDimensionKey.getD "") = "")

omit [DecidableEq Cell] in
instance (state : AggregateState Cell) : Decidable state.Windowed :=
  inferInstanceAs (Decidable (¬ _))

/-- How far a window reaches back. -/
def span (state : AggregateState Cell) : Int :=
  ((state.windowDays.getD 0 : Int) - 1) * dayMicroseconds

omit [DecidableEq Cell] in
theorem span_nonneg (h : state.Windowed) : 0 ≤ state.span := by
  have hdays : ¬ state.windowDays.getD 0 < 1 := fun hlt => h (Or.inl hlt)
  refine mul_nonneg ?_ (by decide)
  omega

omit [DecidableEq Cell] in
theorem prune_eq (engine : SqlEngine Row Cell) (state : AggregateState Cell) :
    pruneDashboardAggregateState engine state =
      if state.Windowed then
        { state with
          rows := window (fun row => bucketOf engine state row.cells) state.span state.rows }
      else state := by
  unfold pruneDashboardAggregateState
  by_cases hwindowed : state.Windowed
  · rw [if_pos hwindowed]
    by_cases hrows : state.rows = []
    · rw [if_pos (Or.inr (Or.inr hrows)), hrows]
      show state = { state with rows := [] }
      rw [← hrows]
    · have hno : ¬ (state.windowDays.getD 0 < 1 ∨ strip (state.windowDimensionKey.getD "") = "" ∨
          state.rows = []) := by
        rintro (hdays | hkey | hnil)
        · exact hwindowed (Or.inl hdays)
        · exact hwindowed (Or.inr hkey)
        · exact hrows hnil
      rw [if_neg hno]
      rfl
  · rw [if_neg hwindowed]
    rcases not_not.mp hwindowed with hdays | hkey
    · exact if_pos (Or.inl hdays)
    · exact if_pos (Or.inr (Or.inl hkey))

end AggregateState

namespace StateQuery

/-- The window drops the key from a state of the table. -/
def Stale (engine : SqlEngine Row Cell) (query : StateQuery Row Cell) (table : List Row)
    (key : List Cell) : Prop :=
  query.template.Windowed ∧
    Expired (bucketOf engine query.template) query.template.span (query.keysOf table) key

/-- What the window drops stays dropped when rows come. -/
theorem Stale.append_right (h : query.Stale engine table key) :
    query.Stale engine (table ++ more) key :=
  ⟨h.1, h.2.mono fun key hkey => ⟨key, mem_keysOf_append.mpr (Or.inl hkey), rfl⟩⟩

theorem Stale.append_left (h : query.Stale engine more key) :
    query.Stale engine (table ++ more) key :=
  ⟨h.1, h.2.mono fun key hkey => ⟨key, mem_keysOf_append.mpr (Or.inr hkey), rfl⟩⟩

/-! ## States of a table -/

/-- The state is one of the table: a row for every key that is not stale. -/
structure Represents (engine : SqlEngine Row Cell) (query : StateQuery Row Cell)
    (table : List Row) (state : AggregateState Cell) : Prop where
  shape : state = { query.template with rows := state.rows }
  nodup : (state.rows.map StateRow.cells).Nodup
  known : ∀ row ∈ state.rows, row.cells ∈ query.keysOf table
  present : ∀ key ∈ query.keysOf table, ¬ query.Stale engine table key →
    ∃ row ∈ state.rows, row.cells = key
  fits : ∀ row ∈ state.rows, ¬ query.Stale engine table row.cells →
    query.measure.Fits (query.groupAt table row.cells) row

/-- No row of the state has lost its numerators. -/
def Lossless (engine : SqlEngine Row Cell) (query : StateQuery Row Cell) (table : List Row)
    (state : AggregateState Cell) : Prop :=
  ∀ row ∈ state.rows, ¬ query.Stale engine table row.cells →
    query.measure.Keeps (query.groupAt table row.cells) row.sum

theorem mem_of_yields (hbuilt : query.Built) (h : query.Yields table state) {row : StateRow Cell} :
    row ∈ state.rows ↔ ∃ key ∈ query.keysOf table, query.rowAt table key = row := by
  rw [(h.2.1.trans (groupRows_perm hbuilt table)).mem_iff, List.mem_map]

/-- What the query reads represents the table. -/
theorem represents_of_yields (engine : SqlEngine Row Cell) (hbuilt : query.Built)
    (h : query.Yields table state) : query.Represents engine table state := by
  refine ⟨h.1, ?_, fun row hrow => ?_, fun key hkey _ => ?_, fun row hrow _ => ?_⟩
  · have hperm := (h.2.1.trans (groupRows_perm hbuilt table)).map StateRow.cells
    refine hperm.nodup_iff.mpr ?_
    have hcells : StateRow.cells ∘ query.rowAt table = id := funext fun key => cells_rowAt ..
    rw [List.map_map, hcells, List.map_id]
    exact nodup_keysOf query table
  · obtain ⟨key, hkey, rfl⟩ := (mem_of_yields hbuilt h).mp hrow
    rw [cells_rowAt]
    exact hkey
  · exact ⟨_, (mem_of_yields hbuilt h).mpr ⟨key, hkey, rfl⟩, cells_rowAt ..⟩
  · obtain ⟨key, -, rfl⟩ := (mem_of_yields hbuilt h).mp hrow
    rw [cells_rowAt]
    exact Measure.fits_row ..

theorem lossless_of_yields (engine : SqlEngine Row Cell) (hbuilt : query.Built)
    (h : query.Yields table state) : query.Lossless engine table state := by
  intro row hrow _
  obtain ⟨key, -, rfl⟩ := (mem_of_yields hbuilt h).mp hrow
  rw [cells_rowAt]
  exact Measure.keeps_row ..

namespace Represents

theorem template_eq (h : query.Represents engine table state) :
    state.Windowed = query.template.Windowed ∧ state.span = query.template.span ∧
      bucketOf engine state = bucketOf engine query.template := by
  rw [h.shape]
  exact ⟨rfl, rfl, rfl⟩

/-- The rows of a state and the keys of its table have one latest date. -/
theorem expired_iff (h : query.Represents engine table state) (hwindowed : query.template.Windowed)
    (row : StateRow Cell) :
    Expired (fun row => bucketOf engine query.template row.cells) query.template.span state.rows
      row ↔ query.Stale engine table row.cells := by
  have hlatest : latest (bucketOf engine query.template) (state.rows.map StateRow.cells) =
      latest (bucketOf engine query.template) (query.keysOf table) := by
    refine latest_between (AggregateState.span_nonneg hwindowed) (fun key hkey => ?_)
      fun key hkey hfresh => ?_
    · obtain ⟨row, hrow, rfl⟩ := List.mem_map.mp hkey
      exact ⟨row.cells, h.known row hrow, rfl⟩
    · obtain ⟨row, hrow, rfl⟩ := h.present key hkey fun hstale => hfresh hstale.2
      exact ⟨row.cells, List.mem_map_of_mem hrow, rfl⟩
  have hrows : latest (fun row => bucketOf engine query.template row.cells) state.rows =
      latest (bucketOf engine query.template) (query.keysOf table) :=
    (latest_map StateRow.cells state.rows).symm.trans hlatest
  unfold Stale Expired
  rw [hrows]
  exact ⟨fun hexpired => ⟨hwindowed, hexpired⟩, fun hstale => hstale.2⟩

/-- Pruning a state drops the stale rows. -/
theorem mem_prune (h : query.Represents engine table state) {row : StateRow Cell} :
    row ∈ (pruneDashboardAggregateState engine state).rows ↔
      row ∈ state.rows ∧ ¬ query.Stale engine table row.cells := by
  obtain ⟨hwindow, hspan, hbucket⟩ := h.template_eq
  rw [AggregateState.prune_eq]
  by_cases hwindowed : query.template.Windowed
  · rw [if_pos (hwindow.mpr hwindowed), hspan, hbucket]
    show row ∈ window _ _ _ ↔ _
    rw [mem_window, h.expired_iff hwindowed]
  · rw [if_neg fun hw => hwindowed (hwindow.mp hw)]
    exact ⟨fun hrow => ⟨hrow, fun hstale => hwindowed hstale.1⟩, fun hrow => hrow.1⟩

theorem shape_prune (h : query.Represents engine table state) :
    pruneDashboardAggregateState engine state =
      { query.template with rows := (pruneDashboardAggregateState engine state).rows } := by
  have hshape : pruneDashboardAggregateState engine state =
      { state with rows := (pruneDashboardAggregateState engine state).rows } := by
    rw [AggregateState.prune_eq]
    split <;> rfl
  rw [hshape, h.shape]

theorem prune (h : query.Represents engine table state) :
    query.Represents engine table (pruneDashboardAggregateState engine state) := by
  refine ⟨h.shape_prune, ?_, fun row hrow => ?_, fun key hkey hfresh => ?_,
    fun row hrow hfresh => ?_⟩
  · rw [AggregateState.prune_eq]
    split
    · obtain ⟨rows, hsub, hperm⟩ := exists_sublist_perm_window _ _ _
      exact (hperm.map StateRow.cells).nodup_iff.mp (h.nodup.sublist (hsub.map StateRow.cells))
    · exact h.nodup
  · exact h.known row (h.mem_prune.mp hrow).1
  · obtain ⟨row, hrow, rfl⟩ := h.present key hkey hfresh
    exact ⟨row, h.mem_prune.mpr ⟨hrow, hfresh⟩, rfl⟩
  · exact h.fits row (h.mem_prune.mp hrow).1 hfresh

end Represents

/-! ## One merge -/

theorem filter_cells {rows : List (StateRow Cell)} (h : (rows.map StateRow.cells).Nodup)
    (key : List Cell) :
    ((rows.filter fun row => row.cells = key) = [] ∧ ∀ row ∈ rows, row.cells ≠ key) ∨
      ∃ row ∈ rows, row.cells = key ∧ (rows.filter fun row => row.cells = key) = [row] := by
  induction rows with
  | nil => exact Or.inl ⟨rfl, fun row hrow => nomatch hrow⟩
  | cons row rows ih =>
      rw [List.map_cons, List.nodup_cons] at h
      by_cases hkey : row.cells = key
      · have hrest : (rows.filter fun row => row.cells = key) = [] := by
          refine List.filter_eq_nil_iff.mpr fun row' hrow' hkey' => h.1 ?_
          rw [hkey, ← of_decide_eq_true hkey']
          exact List.mem_map_of_mem hrow'
        refine Or.inr ⟨row, List.mem_cons_self, hkey, ?_⟩
        rw [List.filter_cons_of_pos (by simpa using hkey), hrest]
      · rw [List.filter_cons_of_neg (by simpa using hkey)]
        rcases ih h.2 with ⟨hnil, hnone⟩ | ⟨row', hrow', hkey', hfilter⟩
        · refine Or.inl ⟨hnil, fun row' hrow' => ?_⟩
          rcases List.mem_cons.mp hrow' with rfl | hrow'
          · exact hkey
          · exact hnone row' hrow'
        · exact Or.inr ⟨row', List.mem_cons_of_mem _ hrow', hkey', hfilter⟩

/-- A merged row is a row of one state, or two rows merged. -/
theorem mem_mergedRows {rows rows' : List (StateRow Cell)} (h : (rows.map StateRow.cells).Nodup)
    (h' : (rows'.map StateRow.cells).Nodup) {row : StateRow Cell}
    (hrow : (key, row) ∈ mergedRows rows rows') : row.cells = key ∧
      ((row ∈ rows ∧ ∀ row' ∈ rows', row'.cells ≠ key) ∨
        (row ∈ rows' ∧ ∀ row' ∈ rows, row'.cells ≠ key) ∨
        ∃ old ∈ rows, ∃ new ∈ rows', old.cells = key ∧ new.cells = key ∧ row = mergeRow new old) := by
  have hcombine := mem_collect.mp hrow
  rw [List.filter_append] at hcombine
  rcases filter_cells h key with ⟨hnil, hnone⟩ | ⟨old, hold, holdKey, hfilter⟩
  · rcases filter_cells h' key with ⟨hnil', -⟩ | ⟨new, hnew, hnewKey, hfilter'⟩
    · rw [hnil, hnil'] at hcombine
      exact nomatch hcombine
    · rw [hnil, hfilter'] at hcombine
      cases hcombine
      exact ⟨hnewKey, Or.inr (Or.inl ⟨hnew, hnone⟩)⟩
  · rcases filter_cells h' key with ⟨hnil', hnone'⟩ | ⟨new, hnew, hnewKey, hfilter'⟩
    · rw [hfilter, hnil'] at hcombine
      cases hcombine
      exact ⟨holdKey, Or.inl ⟨hold, hnone'⟩⟩
    · rw [hfilter, hfilter'] at hcombine
      cases hcombine
      exact ⟨holdKey, Or.inr (Or.inr ⟨old, hold, new, hnew, holdKey, hnewKey, rfl⟩)⟩

theorem exists_mem_mergedRows {rows rows' : List (StateRow Cell)} {row : StateRow Cell}
    (hrow : row ∈ rows ++ rows') : ∃ merged, (row.cells, merged) ∈ mergedRows rows rows' :=
  exists_mem_collect hrow

theorem nodup_mergedRows (rows rows' : List (StateRow Cell)) :
    ((mergedRows rows rows').map Prod.fst).Nodup := nodup_collect _

/-- A merge loses no numerators: where both states have a group and it is not
stale, there is a denominator in one of them, or no numerator in any. -/
def NothingLost (engine : SqlEngine Row Cell) (query : StateQuery Row Cell)
    (table more : List Row) : Prop :=
  ∀ key ∈ query.keysOf table, key ∈ query.keysOf more →
    ¬ query.Stale engine (table ++ more) key →
      query.measure.Covers (query.groupAt (table ++ more) key)

namespace Represents

/-- A fresh key without a row has no group. -/
theorem groupAt_eq_nil (hbuilt : query.Built) (h : query.Represents engine table state)
    (hfresh : ¬ query.Stale engine table key) (hnone : ∀ row ∈ state.rows, row.cells ≠ key) :
    query.groupAt table key = [] := by
  refine StateQuery.groupAt_eq_nil hbuilt fun hkey => ?_
  obtain ⟨row, hrow, hcells⟩ := h.present key hkey hfresh
  exact hnone row hrow hcells

/-- A merged row of a fresh key fits the groups of both tables. -/
theorem fits_mergedRows (hbuilt : query.Built) (h : query.Represents engine table current)
    (hlossless : query.Lossless engine table current)
    (h' : query.Represents engine more delta) (hlossless' : query.Lossless engine more delta)
    (hfresh : ¬ query.Stale engine (table ++ more) key) {row : StateRow Cell}
    (hrow : (key, row) ∈ mergedRows current.rows delta.rows) :
    query.measure.Fits (query.groupAt (table ++ more) key) row ∧
      (query.NothingLost engine table more →
        query.measure.Keeps (query.groupAt (table ++ more) key) row.sum) := by
  have hleft : ¬ query.Stale engine table key := fun hstale => hfresh hstale.append_right
  have hright : ¬ query.Stale engine more key := fun hstale => hfresh hstale.append_left
  obtain ⟨hcells, hrow⟩ := mem_mergedRows h.nodup h'.nodup hrow
  rw [groupAt_append]
  rcases hrow with ⟨hold, hnone⟩ | ⟨hnew, hnone⟩ | ⟨old, hold, new, hnew, holdKey, hnewKey, rfl⟩
  · rw [h'.groupAt_eq_nil hbuilt hright hnone, List.append_nil, ← hcells]
    rw [← hcells] at hleft
    exact ⟨h.fits row hold hleft, fun _ => hlossless row hold hleft⟩
  · rw [h.groupAt_eq_nil hbuilt hleft hnone, List.nil_append, ← hcells]
    rw [← hcells] at hright
    exact ⟨h'.fits row hnew hright, fun _ => hlossless' row hnew hright⟩
  · have hfits := h.fits old hold (by rwa [holdKey])
    have hkeeps := hlossless old hold (by rwa [holdKey])
    have hfits' := h'.fits new hnew (by rwa [hnewKey])
    have hkeeps' := hlossless' new hnew (by rwa [hnewKey])
    rw [holdKey] at hfits hkeeps
    rw [hnewKey] at hfits' hkeeps'
    refine ⟨Measure.fits_merge hfits hkeeps hfits' hkeeps', fun hnothing => ?_⟩
    refine Measure.keeps_merge hfits hkeeps hfits' hkeeps' ?_
    rw [← groupAt_append]
    refine hnothing key ?_ ?_ hfresh
    · rw [← holdKey]
      exact h.known old hold
    · rw [← hnewKey]
      exact h'.known new hnew

/-- The rows of both states, merged, are a state of both tables. -/
theorem joined (hbuilt : query.Built) (h : query.Represents engine table current)
    (hlossless : query.Lossless engine table current)
    (h' : query.Represents engine more delta) (hlossless' : query.Lossless engine more delta) :
    query.Represents engine (table ++ more)
      { current with rows := (mergedRows current.rows delta.rows).map Prod.snd } := by
  have hkeys : ((mergedRows current.rows delta.rows).map Prod.snd).map StateRow.cells =
      (mergedRows current.rows delta.rows).map Prod.fst := by
    rw [List.map_map]
    exact List.map_congr_left fun entry hentry => (mem_mergedRows h.nodup h'.nodup hentry).1
  refine ⟨by rw [h.shape], ?_, fun row hrow => ?_, fun key hkey hfresh => ?_,
    fun row hrow hfresh => ?_⟩
  · show (List.map StateRow.cells _).Nodup
    rw [hkeys]
    exact nodup_mergedRows ..
  · obtain ⟨⟨key, _⟩, hentry, rfl⟩ := List.mem_map.mp hrow
    obtain ⟨hcells, hrow⟩ := mem_mergedRows h.nodup h'.nodup hentry
    show StateRow.cells _ ∈ _
    rw [hcells, mem_keysOf_append, ← hcells]
    rcases hrow with ⟨hold, -⟩ | ⟨hnew, -⟩ | ⟨old, hold, -, -, holdKey, -, -⟩
    · exact Or.inl (h.known _ hold)
    · exact Or.inr (h'.known _ hnew)
    · rw [hcells, ← holdKey]
      exact Or.inl (h.known old hold)
  · have hrow : ∃ row ∈ current.rows ++ delta.rows, row.cells = key := by
      rcases mem_keysOf_append.mp hkey with hkey | hkey
      · obtain ⟨row, hrow, hcells⟩ := h.present key hkey fun hstale => hfresh hstale.append_right
        exact ⟨row, List.mem_append_left _ hrow, hcells⟩
      · obtain ⟨row, hrow, hcells⟩ := h'.present key hkey fun hstale => hfresh hstale.append_left
        exact ⟨row, List.mem_append_right _ hrow, hcells⟩
    obtain ⟨row, hrow, rfl⟩ := hrow
    obtain ⟨merged, hentry⟩ := exists_mem_mergedRows hrow
    exact ⟨merged, List.mem_map_of_mem hentry, (mem_mergedRows h.nodup h'.nodup hentry).1⟩
  · obtain ⟨⟨key, _⟩, hentry, rfl⟩ := List.mem_map.mp hrow
    obtain ⟨hcells, -⟩ := mem_mergedRows h.nodup h'.nodup hentry
    rw [hcells] at hfresh ⊢
    exact (h.fits_mergedRows hbuilt hlossless h' hlossless' hfresh hentry).1

theorem lossless_joined (hbuilt : query.Built) (h : query.Represents engine table current)
    (hlossless : query.Lossless engine table current)
    (h' : query.Represents engine more delta) (hlossless' : query.Lossless engine more delta)
    (hnothing : query.NothingLost engine table more) :
    query.Lossless engine (table ++ more)
      { current with rows := (mergedRows current.rows delta.rows).map Prod.snd } := by
  intro row hrow hfresh
  obtain ⟨⟨key, _⟩, hentry, rfl⟩ := List.mem_map.mp hrow
  obtain ⟨hcells, -⟩ := mem_mergedRows h.nodup h'.nodup hentry
  rw [hcells] at hfresh ⊢
  exact (h.fits_mergedRows hbuilt hlossless h' hlossless' hfresh hentry).2 hnothing

/-- A state has at most one row for each key of its table. -/
theorem length_le (h : query.Represents engine table state) :
    state.rows.length ≤ (query.keysOf table).length := by
  rw [← List.length_map StateRow.cells]
  refine (List.subperm_of_subset h.nodup fun key hkey => ?_).length_le
  obtain ⟨row, hrow, rfl⟩ := List.mem_map.mp hkey
  exact h.known row hrow

/-- The merge of two states is a state of both tables. -/
theorem merge (hbuilt : query.Built) (h : query.Represents engine table current)
    (hlossless : query.Lossless engine table current)
    (h' : query.Represents engine more delta) (hlossless' : query.Lossless engine more delta)
    (hgroups : (query.keysOf (table ++ more)).length ≤ maxDashboardIncrementalGroups) :
    ∃ merged, mergeDashboardAggregateStates engine current delta = some merged ∧
      query.Represents engine (table ++ more) merged ∧
        (query.NothingLost engine table more → query.Lossless engine (table ++ more) merged) := by
  have hjoined := h.joined hbuilt hlossless h' hlossless'
  have hidentity : sameIdentity current delta := by
    rw [h.shape, h'.shape]
    exact ⟨rfl, rfl, rfl, rfl, rfl, rfl⟩
  have hlength : (mergedRows current.rows delta.rows).length ≤ maxDashboardIncrementalGroups := by
    rw [← List.length_map Prod.snd]
    exact hjoined.length_le.trans hgroups
  refine ⟨pruneDashboardAggregateState engine
    { current with rows := (mergedRows current.rows delta.rows).map Prod.snd }, ?_,
    hjoined.prune, fun hnothing row hrow hfresh => ?_⟩
  · rw [mergeDashboardAggregateStates, if_neg (not_not.mpr hidentity), if_neg (not_lt.mpr hlength)]
  · exact h.lossless_joined hbuilt hlossless h' hlossless' hnothing row
      (hjoined.mem_prune.mp hrow).1 hfresh

end Represents

/-! ## Runs of merges -/

theorem length_keysOf_le (table more : List Row) :
    (query.keysOf table).length ≤ (query.keysOf (table ++ more)).length := by
  refine (List.subperm_of_subset (nodup_keysOf query table) fun key hkey => ?_).length_le
  exact mem_keysOf_append.mpr (Or.inl hkey)

/-- The states of revisions, merged one after another, are a state of all their
rows. -/
theorem represents_run (hbuilt : query.Built) {revisions : List (List Row × AggregateState Cell)}
    (h : query.Represents engine table current) (hlossless : query.Lossless engine table current)
    (hyields : ∀ revision ∈ revisions, query.Yields revision.1 revision.2)
    (hgroups : (query.keysOf (table ++ (revisions.map Prod.fst).flatten)).length ≤
      maxDashboardIncrementalGroups)
    (hnothing : Along (query.NothingLost engine) (fun table more => table ++ more) table
      (revisions.map Prod.fst).dropLast) :
    ∃ merged,
      (revisions.map Prod.snd).foldlM (mergeDashboardAggregateStates engine) current = some merged ∧
        query.Represents engine (table ++ (revisions.map Prod.fst).flatten) merged := by
  induction revisions generalizing table current with
  | nil =>
      refine ⟨current, rfl, ?_⟩
      rw [List.map_nil, List.flatten_nil, List.append_nil]
      exact h
  | cons revision rest ih =>
      have hrevision := hyields revision List.mem_cons_self
      rw [List.map_cons, List.flatten_cons, ← List.append_assoc] at hgroups
      obtain ⟨merged, hmerged, hrepresents, hkeeps⟩ :=
        h.merge hbuilt hlossless (represents_of_yields engine hbuilt hrevision)
          (lossless_of_yields engine hbuilt hrevision) ((length_keysOf_le _ _).trans hgroups)
      rw [List.map_cons, List.map_cons, List.flatten_cons, ← List.append_assoc, List.foldlM_cons,
        hmerged]
      cases rest with
      | nil =>
          refine ⟨merged, rfl, ?_⟩
          rw [List.map_nil, List.flatten_nil, List.append_nil]
          exact hrepresents
      | cons next rest =>
          rw [List.map_cons, List.map_cons, List.dropLast_cons_cons] at hnothing
          exact ih hrepresents (hkeeps hnothing.1)
            (fun later hlater => hyields later (List.mem_cons_of_mem _ hlater)) hgroups hnothing.2

/-! ## What is shown -/

namespace Represents

/-- The shown keys of a state. -/
theorem mem_shown (h : query.Represents engine table state) :
    key ∈ (pruneDashboardAggregateState engine state).rows.map StateRow.cells ↔
      key ∈ query.keysOf table ∧ ¬ query.Stale engine table key := by
  rw [List.mem_map]
  constructor
  · rintro ⟨row, hrow, rfl⟩
    obtain ⟨hrow, hfresh⟩ := h.mem_prune.mp hrow
    exact ⟨h.known row hrow, hfresh⟩
  · rintro ⟨hkey, hfresh⟩
    obtain ⟨row, hrow, rfl⟩ := h.present key hkey hfresh
    exact ⟨row, h.mem_prune.mpr ⟨hrow, hfresh⟩, rfl⟩

/-- A state shows the rows of its table, for the keys it has. -/
theorem shown_eq (hbuilt : query.Built) (h : query.Represents engine table state) :
    (pruneDashboardAggregateState engine state).rows.map
        (shownRow query.template.aggregation) =
      ((pruneDashboardAggregateState engine state).rows.map StateRow.cells).map
        fun key => shownRow query.template.aggregation (query.rowAt table key) := by
  rw [List.map_map]
  refine List.map_congr_left fun row hrow => ?_
  have hfits := h.prune.fits row hrow (h.mem_prune.mp hrow).2
  have hrowAt : query.measure.Fits (query.groupAt table row.cells) (query.rowAt table row.cells) :=
    Measure.fits_row ..
  show (row.cells, _) = ((query.rowAt table row.cells).cells, _)
  rw [cells_rowAt, hfits.shownNumber_eq hbuilt.measure hrowAt]

/-- Two states of one table show the same rows. -/
theorem shown_perm (hbuilt : query.Built) (h : query.Represents engine table state)
    (h' : query.Represents engine table current) :
    ((pruneDashboardAggregateState engine state).rows.map
        (shownRow query.template.aggregation)).Perm
      ((pruneDashboardAggregateState engine current).rows.map
        (shownRow query.template.aggregation)) := by
  rw [h.shown_eq hbuilt, h'.shown_eq hbuilt]
  refine List.Perm.map _ ((List.perm_ext_iff_of_nodup h.prune.nodup h'.prune.nodup).mpr ?_)
  exact fun key => h.mem_shown.trans h'.mem_shown.symm

theorem result_eq (h : query.Represents engine table state)
    (h' : query.Represents engine table current)
    (hshown : (pruneDashboardAggregateState engine state).rows.map
        (shownRow query.template.aggregation) =
      (pruneDashboardAggregateState engine current).rows.map
        (shownRow query.template.aggregation)) :
    dashboardResultFromAggregateState engine state =
      dashboardResultFromAggregateState engine current := by
  unfold dashboardResultFromAggregateState
  rw [h.shape_prune, h'.shape_prune]
  simp only [hshown]
  rfl

/-- What the query may give for the table: the rows that the state shows, in its
order, and then those that are stale. -/
def reread (engine : SqlEngine Row Cell) (query : StateQuery Row Cell) (table : List Row)
    (state : AggregateState Cell) : AggregateState Cell :=
  let shown := (pruneDashboardAggregateState engine state).rows.map StateRow.cells
  { query.template with
    rows := (shown ++ (query.keysOf table).filter fun key => key ∉ shown).map
      (query.rowAt table) }

theorem yields_reread (hbuilt : query.Built) (h : query.Represents engine table state)
    (hgroups : (query.keysOf table).length ≤ maxDashboardIncrementalGroups) :
    query.Yields table (reread engine query table state) := by
  have hperm : ((pruneDashboardAggregateState engine state).rows.map StateRow.cells ++
      (query.keysOf table).filter fun key =>
        key ∉ (pruneDashboardAggregateState engine state).rows.map StateRow.cells).Perm
      (query.keysOf table) := by
    refine (List.perm_ext_iff_of_nodup ?_ (nodup_keysOf query table)).mpr fun key => ?_
    · refine h.prune.nodup.append ((nodup_keysOf query table).filter _) fun key hkey hrest => ?_
      exact of_decide_eq_true (List.mem_filter.mp hrest).2 hkey
    · rw [List.mem_append, List.mem_filter, decide_eq_true_eq]
      constructor
      · rintro (hkey | hkey)
        · exact (h.mem_shown.mp hkey).1
        · exact hkey.1
      · intro hkey
        by_cases hshown : key ∈ (pruneDashboardAggregateState engine state).rows.map StateRow.cells
        · exact Or.inl hshown
        · exact Or.inr ⟨hkey, hshown⟩
  refine ⟨rfl, (hperm.map _).trans (groupRows_perm hbuilt table).symm, ?_⟩
  show (List.map _ _).length ≤ _
  rw [List.length_map, hperm.length_eq]
  exact hgroups

/-- The rows that are stale are dropped from it again. -/
theorem prune_reread (h : query.Represents engine table state) :
    (pruneDashboardAggregateState engine (reread engine query table state)).rows =
      ((pruneDashboardAggregateState engine state).rows.map StateRow.cells).map
        (query.rowAt table) := by
  have hstale : ∀ key ∈ (query.keysOf table).filter fun key =>
      key ∉ (pruneDashboardAggregateState engine state).rows.map StateRow.cells,
      query.Stale engine table key := by
    intro key hkey
    obtain ⟨hkey, hnot⟩ := List.mem_filter.mp hkey
    by_contra hfresh
    exact of_decide_eq_true hnot (h.mem_shown.mpr ⟨hkey, hfresh⟩)
  obtain ⟨hwindow, hspan, hbucket⟩ := h.template_eq
  rw [AggregateState.prune_eq]
  by_cases hwindowed : query.template.Windowed
  · rw [if_pos (show (reread engine query table state).Windowed from hwindowed)]
    have hdate : (fun row : StateRow Cell => bucketOf engine query.template row.cells) ∘
        (query.rowAt table ∘ StateRow.cells) =
          fun row => bucketOf engine query.template row.cells := by
      funext row
      show bucketOf engine query.template (query.rowAt table row.cells).cells = _
      rw [cells_rowAt]
    have hrows : (pruneDashboardAggregateState engine state).rows =
        window (fun row => bucketOf engine query.template row.cells) query.template.span
          state.rows := by
      rw [AggregateState.prune_eq, if_pos (hwindow.mpr hwindowed), hspan, hbucket]
    have hshown : ((pruneDashboardAggregateState engine state).rows.map StateRow.cells).map
        (query.rowAt table) =
          window (fun row => bucketOf engine query.template row.cells) query.template.span
            (state.rows.map (query.rowAt table ∘ StateRow.cells)) := by
      rw [← window_map, hdate, hrows, List.map_map]
    show window (fun row => bucketOf engine query.template row.cells) query.template.span
      (List.map (query.rowAt table) (_ ++ _)) = _
    rw [List.map_append, hshown]
    refine window_append_expired (AggregateState.span_nonneg hwindowed) fun row hrow => ?_
    obtain ⟨key, hkey, rfl⟩ := List.mem_map.mp hrow
    have hexpired := (h.expired_iff hwindowed (query.rowAt table key)).mpr
      (by rw [cells_rowAt]; exact hstale key hkey)
    refine (expired_congr ?_ _).mpr hexpired
    rw [latest_map, hdate]
  · have hnone : ((query.keysOf table).filter fun key =>
        key ∉ (pruneDashboardAggregateState engine state).rows.map StateRow.cells) = [] := by
      refine List.eq_nil_iff_forall_not_mem.mpr fun key hkey => ?_
      exact hwindowed (hstale key hkey).1
    rw [if_neg (show ¬ (reread engine query table state).Windowed from hwindowed)]
    show List.map (query.rowAt table) (_ ++ _) = _
    rw [hnone, List.append_nil]

/-- A state shows a result that the query may give for the table. -/
theorem result_reread (hbuilt : query.Built) (h : query.Represents engine table state)
    (hgroups : (query.keysOf table).length ≤ maxDashboardIncrementalGroups) :
    dashboardResultFromAggregateState engine state =
      dashboardResultFromAggregateState engine (reread engine query table state) := by
  have hreread := represents_of_yields engine hbuilt (h.yields_reread hbuilt hgroups)
  refine h.result_eq hreread ?_
  rw [h.shown_eq hbuilt, h.prune_reread]
  show List.map (shownRow query.template.aggregation ∘ query.rowAt table) _ = _
  exact List.map_map.symm

end Represents

end StateQuery

/-- The state that the query reads when it gives the groups in their order. -/
def StateQuery.read (query : StateQuery Row Cell) (table : List Row) : AggregateState Cell :=
  { query.template with rows := (query.groups table).map query.groupRow }

theorem StateQuery.yields_read (h : (query.groups table).length ≤ maxDashboardIncrementalGroups) :
    query.Yields table (query.read table) := by
  refine ⟨rfl, List.Perm.refl _, ?_⟩
  show (List.map _ _).length ≤ _
  rw [List.length_map]
  exact h

end

/-- Rows of a segment and an event, both texts. -/
def eventsEngine : SqlEngine (String × String) (Option String) where
  sha256 := id
  lower := id
  casefold := id
  column := fun name row => if name = "segment" then some row.1 else some row.2
  null := none
  isNull := Option.isNone
  tryDouble := fun _ => none
  varchar := id
  dateTrunc := fun _ _ => none
  text := fun cell => cell.getD "None"
  bucketDatetime := fun _ => none
  filterPredicates := fun _ => .ok fun _ => true
  str := fun value => match value with
    | .str text => text
    | _ => ""
  int := fun _ => none

/-- Purchases for each click, by segment. -/
def eventsConfig : WidgetConfig :=
  [("aggregation", .str "ratio"), ("labelKey", .str "segment"), ("valueKey", .str "event"),
    ("numeratorValue", .str "purchase"), ("denominatorValue", .str "click")]

def eventsQuery : StateQuery (String × String) (Option String) where
  group := fun row => [some row.1]
  shown := fun row => [some row.1]
  grouped := true
  keep := fun _ => true
  measure := .ratio (fun row => some row.2 = some "purchase") fun row => some row.2 = some "click"
  template :=
    { widgetType := .donutChart
      aggregation := .ratio
      dimensionKeys := ["segment"]
      valueConfigKey := "valueKey"
      valueAlias := "event"
      sourceConfig := eventsConfig
      windowDays := none
      windowDimensionKey := none }

theorem eventsQuery_eq :
    dashboardAggregateStateQuery eventsEngine ["segment", "event"] .donutChart eventsConfig =
      .ok eventsQuery := by
  rfl

end AskLake.Dashboard

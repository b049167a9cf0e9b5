/-
# `AskLake.Dashboard.WindowPruning` — the window of a merged state

`prune_dashboard_aggregate_state` drops the groups that are too old for the newest one.  It
runs on the states of the revisions, inside each merge and on what is shown:

    prune (merge (prune a) (prune b))     =     prune (merge a b)

A group that is too old for the newest group of one state is too old for that of both, and a
group has one date, so that it goes from both states or from none.

The threshold is a `datetime`.  Where it would lie before `datetime.min` the subtraction raises,
and nothing catches it: here the two functions are those of `AskLake.Dashboard.AggregateState`
with that error.
-/
import AskLake.Dashboard.AggregateState
import AskLake.Lib.GroupedWindow

namespace AskLake.Dashboard.WindowPruning

open AskLake.Lib AskLake.Python

section
variable {Row Cell : Type} [DecidableEq Cell]

/-! ## The functions, with what they raise -/

/-- `latest - timedelta(days=window_days - 1)`, in microseconds since `datetime.min` -/
def thresholdOf (windowDays : Nat) (latest : Int) : Except Error Int :=
  if 999999999 < windowDays - 1 then
    .error (.value s!"days={windowDays - 1}; must have magnitude <= 999999999")
  else if latest - (windowDays - 1 : Nat) * dayMicroseconds < 0 then
    .error (.value "date value out of range")
  else .ok (latest - (windowDays - 1 : Nat) * dayMicroseconds)

/-- The state has a window. -/
def Windowed (state : AggregateState Cell) : Prop :=
  1 ≤ state.windowDays.getD 0 ∧ strip (state.windowDimensionKey.getD "") ≠ ""

omit [DecidableEq Cell] in
instance (state : AggregateState Cell) : Decidable (Windowed state) :=
  inferInstanceAs (Decidable (_ ∧ _))

/-- `dated_rows` from the threshold on, and `undated_rows` -/
def retained (engine : SqlEngine Row Cell) (state : AggregateState Cell) (threshold : Int) :
    List (StateRow Cell) :=
  (state.rows.filter fun row => (bucketOf engine state row.cells).any fun t => threshold ≤ t) ++
    state.rows.filter fun row => (bucketOf engine state row.cells).isNone

/-- `prune_dashboard_aggregate_state` -/
def pruneDashboardAggregateState (engine : SqlEngine Row Cell) (state : AggregateState Cell) :
    Except Error (AggregateState Cell) :=
  if Windowed state then
    match latest (fun row : StateRow Cell => bucketOf engine state row.cells) state.rows with
    | none => .ok state
    | some latest => do
        let threshold ← thresholdOf (state.windowDays.getD 0) latest
        .ok { state with rows := retained engine state threshold }
  else .ok state

/-- `merge_dashboard_aggregate_states` -/
def mergeDashboardAggregateStates (engine : SqlEngine Row Cell)
    (current delta : AggregateState Cell) : Except Error (Option (AggregateState Cell)) :=
  if ¬ sameIdentity current delta then .ok none
  else
    let merged := mergedRows current.rows delta.rows
    if maxDashboardIncrementalGroups < merged.length then .ok none
    else do
      let state ← pruneDashboardAggregateState engine { current with rows := merged.map Prod.snd }
      .ok (some state)

/-- Deltas merged into a base, one after the other. -/
def mergeAll (engine : SqlEngine Row Cell) (base : AggregateState Cell) :
    List (AggregateState Cell) → Except Error (Option (AggregateState Cell))
  | [] => .ok (some base)
  | delta :: deltas => do
      match ← mergeDashboardAggregateStates engine base delta with
      | none => .ok none
      | some state => mergeAll engine state deltas

/-- `prune (merge a b)` -/
def prunedMerge (engine : SqlEngine Row Cell) (a b : AggregateState Cell) :
    Except Error (Option (AggregateState Cell)) := do
  match ← mergeDashboardAggregateStates engine a b with
  | none => .ok none
  | some state => do
      let state ← pruneDashboardAggregateState engine state
      .ok (some state)

/-- `prune (merge (prune a) (prune b))` -/
def prunedFirst (engine : SqlEngine Row Cell) (a b : AggregateState Cell) :
    Except Error (Option (AggregateState Cell)) := do
  let a ← pruneDashboardAggregateState engine a
  let b ← pruneDashboardAggregateState engine b
  prunedMerge engine a b

/-! ## The date of a group -/

/-- The dates by which a state is pruned: none without a window. -/
def dates (engine : SqlEngine Row Cell) (state : AggregateState Cell) (cells : List Cell) :
    Option Int :=
  if Windowed state then bucketOf engine state cells else none

/-- How far the window reaches back. -/
def reach (state : AggregateState Cell) : Int :=
  (state.windowDays.getD 0 - 1 : Nat) * dayMicroseconds

/-- The newest bucket of a state with these groups is far enough from `datetime.min`. -/
def Reaches (engine : SqlEngine Row Cell) (state : AggregateState Cell) (keys : List (List Cell)) :
    Prop :=
  ∀ last, latest (dates engine state) keys = some last →
    (thresholdOf (state.windowDays.getD 0) last).toBool = true

omit [DecidableEq Cell] in
instance (engine : SqlEngine Row Cell) (state : AggregateState Cell) (keys : List (List Cell)) :
    Decidable (Reaches engine state keys) :=
  decidable_of_iff
    ((latest (dates engine state) keys).all
      fun last => (thresholdOf (state.windowDays.getD 0) last).toBool)
    (Option.all_eq_true _ _)

def InRange (engine : SqlEngine Row Cell) (state : AggregateState Cell) : Prop :=
  Reaches engine state (state.rows.map StateRow.cells)

omit [DecidableEq Cell] in
instance (engine : SqlEngine Row Cell) (state : AggregateState Cell) :
    Decidable (InRange engine state) :=
  inferInstanceAs (Decidable (Reaches ..))

omit [DecidableEq Cell] in
theorem reach_nonneg (state : AggregateState Cell) : 0 ≤ reach state :=
  mul_nonneg (Int.natCast_nonneg _) (by decide)

/-- The pruned rows. -/
def prunedRows (engine : SqlEngine Row Cell) (state : AggregateState Cell)
    (rows : List (StateRow Cell)) : List (StateRow Cell) :=
  window (dates engine state ∘ StateRow.cells) (reach state) rows

theorem threshold_eq {windowDays : Nat} {last : Int}
    (h : (thresholdOf windowDays last).toBool = true) :
    thresholdOf windowDays last = .ok (last - (windowDays - 1 : Nat) * dayMicroseconds) := by
  unfold thresholdOf at h ⊢
  split at h
  · cases h
  · next hdays =>
    rw [if_neg hdays]
    split at h
    · cases h
    · next hlast => rw [if_neg hlast]

omit [DecidableEq Cell] in
theorem latest_rows (engine : SqlEngine Row Cell) (state : AggregateState Cell)
    (h : Windowed state) :
    latest (fun row : StateRow Cell => bucketOf engine state row.cells) state.rows =
      latest (dates engine state) (state.rows.map StateRow.cells) := by
  rw [latest_map]
  congr 1
  funext row
  exact (if_pos h).symm

omit [DecidableEq Cell] in
theorem prunedRows_windowed (engine : SqlEngine Row Cell) {state : AggregateState Cell}
    (h : Windowed state) (rows : List (StateRow Cell)) :
    prunedRows engine state rows =
      window (fun row : StateRow Cell => bucketOf engine state row.cells) (reach state) rows := by
  rw [prunedRows]
  congr 1
  funext row
  exact if_pos h

omit [DecidableEq Cell] in
theorem latest_unwindowed (engine : SqlEngine Row Cell) {state : AggregateState Cell}
    (h : ¬ Windowed state) (keys : List (List Cell)) : latest (dates engine state) keys = none :=
  latest_eq_none_iff.mpr fun _ _ => if_neg h

omit [DecidableEq Cell] in
/-- Pruning raises, or it is the window. -/
theorem prune_cases (engine : SqlEngine Row Cell) (state : AggregateState Cell) :
    (InRange engine state ∧ pruneDashboardAggregateState engine state =
      .ok { state with rows := prunedRows engine state state.rows }) ∨
    (¬ InRange engine state ∧ ∃ e, pruneDashboardAggregateState engine state = .error e) := by
  rw [pruneDashboardAggregateState, InRange, Reaches]
  by_cases hwindowed : Windowed state
  · rw [if_pos hwindowed, latest_rows engine state hwindowed, prunedRows_windowed engine hwindowed,
      window, latest_rows engine state hwindowed]
    cases hlatest : latest (dates engine state) (state.rows.map StateRow.cells) with
    | none => exact Or.inl ⟨fun last h => (by cases h), rfl⟩
    | some last =>
        dsimp only
        cases hthreshold : thresholdOf (state.windowDays.getD 0) last with
        | ok threshold =>
            refine Or.inl ⟨?_, ?_⟩
            · rintro last' ⟨⟩
              rw [hthreshold]
              rfl
            · have hfits : (thresholdOf (state.windowDays.getD 0) last).toBool = true := by
                rw [hthreshold]
                rfl
              obtain rfl : threshold = last - reach state :=
                Except.ok.inj (hthreshold.symm.trans (threshold_eq hfits))
              rfl
        | error e =>
            refine Or.inr ⟨fun h => ?_, e, rfl⟩
            have hfits := h last rfl
            rw [hthreshold] at hfits
            cases hfits
  · rw [if_neg hwindowed, latest_unwindowed engine hwindowed, prunedRows, window]
    refine Or.inl ⟨fun last h => (by cases h), ?_⟩
    rw [← latest_map, latest_unwindowed engine hwindowed]

/-! ## Merged rows -/

/-- A merged row has the cells of its group. -/
theorem cells_merged {rows rows' : List (StateRow Cell)} :
    ∀ entry ∈ mergedRows rows rows', entry.2.cells = entry.1 := by
  have hcombine : ∀ (key : List Cell) (group : List (StateRow Cell)) (row : StateRow Cell),
      (∀ x ∈ group, x.cells = key) → combine id mergeRow group = some row → row.cells = key := by
    intro key group
    induction group using List.reverseRecOn with
    | nil => intro row _ h; exact nomatch h
    | append_singleton group x ih =>
        intro row hgroup h
        rw [combine_append, Option.some.injEq] at h
        rw [← h]
        cases hprev : combine id mergeRow group with
        | none => exact hgroup x (List.mem_append_right _ List.mem_cons_self)
        | some existing =>
            exact ih existing (fun y hy => hgroup y (List.mem_append_left _ hy)) hprev
  rintro ⟨key, row⟩ hmem
  exact hcombine key _ row (fun x hx => of_decide_eq_true (List.mem_filter.mp hx).2)
    (mem_collect.mp hmem)

/-- The keys of the merged rows. -/
theorem map_cells_merged (rows rows' : List (StateRow Cell)) :
    ((mergedRows rows rows').map Prod.snd).map StateRow.cells =
      (mergedRows rows rows').map Prod.fst := by
  rw [List.map_map]
  exact List.map_congr_left cells_merged

/-- The window of the merged rows, by the keys of their groups. -/
theorem prunedRows_merged (engine : SqlEngine Row Cell) (state : AggregateState Cell)
    (rows rows' : List (StateRow Cell)) :
    prunedRows engine state ((mergedRows rows rows').map Prod.snd) =
      (window (dates engine state ∘ Prod.fst) (reach state) (mergedRows rows rows')).map
        Prod.snd := by
  rw [prunedRows, ← window_map]
  congr 1
  exact window_congr fun entry hentry => congrArg (dates engine state) (cells_merged entry hentry)

theorem reaches_merged {engine : SqlEngine Row Cell} {state : AggregateState Cell}
    {rows rows' : List (StateRow Cell)} :
    Reaches engine state (((mergedRows rows rows').map Prod.snd).map StateRow.cells) ↔
      Reaches engine state ((rows ++ rows').map StateRow.cells) := by
  rw [Reaches, map_cells_merged, mergedRows, latest_keys_collect, Reaches]

/-! ## One merge -/

/-- The merge of `current` and `delta`, where nothing raises. -/
def mergedState (engine : SqlEngine Row Cell) (current delta : AggregateState Cell) :
    AggregateState Cell :=
  { current with
    rows := prunedRows engine current ((mergedRows current.rows delta.rows).map Prod.snd) }

theorem merge_ne_none {engine : SqlEngine Row Cell} {current delta : AggregateState Cell} :
    mergeDashboardAggregateStates engine current delta ≠ .ok none ↔
      sameIdentity current delta ∧
        (mergedRows current.rows delta.rows).length ≤ maxDashboardIncrementalGroups := by
  rw [mergeDashboardAggregateStates]
  by_cases hidentity : sameIdentity current delta
  · rw [if_neg (not_not.mpr hidentity)]
    dsimp only
    by_cases hlength : maxDashboardIncrementalGroups < (mergedRows current.rows delta.rows).length
    · rw [if_pos hlength]
      exact ⟨fun h => absurd rfl h, fun h => absurd h.2 (not_le.mpr hlength)⟩
    · rw [if_neg hlength]
      refine ⟨fun _ => ⟨hidentity, not_lt.mp hlength⟩, fun _ => ?_⟩
      rcases prune_cases engine
        { current with rows := (mergedRows current.rows delta.rows).map Prod.snd } with
        ⟨-, hpruned⟩ | ⟨-, e, hraised⟩
      · rw [hpruned]
        rintro ⟨⟩
      · rw [hraised]
        rintro ⟨⟩
  · rw [if_pos hidentity]
    exact ⟨fun h => absurd rfl h, fun h => absurd h.1 hidentity⟩

/-- A merge that does not refuse raises, or it is the window of the merged rows. -/
theorem merge_cases {engine : SqlEngine Row Cell} {current delta : AggregateState Cell}
    (h : mergeDashboardAggregateStates engine current delta ≠ .ok none) :
    (Reaches engine current ((current.rows ++ delta.rows).map StateRow.cells) ∧
        mergeDashboardAggregateStates engine current delta =
          .ok (some (mergedState engine current delta))) ∨
      (¬ Reaches engine current ((current.rows ++ delta.rows).map StateRow.cells) ∧
        ∃ e, mergeDashboardAggregateStates engine current delta = .error e) := by
  obtain ⟨hidentity, hlength⟩ := merge_ne_none.mp h
  rw [mergeDashboardAggregateStates, if_neg (not_not.mpr hidentity)]
  dsimp only
  rw [if_neg (not_lt.mpr hlength)]
  rcases prune_cases engine
    { current with rows := (mergedRows current.rows delta.rows).map Prod.snd } with
    ⟨hreach, hpruned⟩ | ⟨hreach, e, hraised⟩
  · rw [hpruned]
    exact Or.inl ⟨reaches_merged.mp hreach, rfl⟩
  · rw [hraised]
    exact Or.inr ⟨fun hr => hreach (reaches_merged.mpr hr), e, rfl⟩

/-! ## Pruning twice -/

omit [DecidableEq Cell] in
theorem keys_prunedRows (engine : SqlEngine Row Cell) (state : AggregateState Cell)
    (rows : List (StateRow Cell)) :
    (prunedRows engine state rows).map StateRow.cells =
      window (dates engine state) (reach state) (rows.map StateRow.cells) :=
  window_map StateRow.cells rows

omit [DecidableEq Cell] in
theorem reaches_pruned {engine : SqlEngine Row Cell} {state : AggregateState Cell}
    {rows : List (StateRow Cell)} :
    Reaches engine state ((prunedRows engine state rows).map StateRow.cells) ↔
      Reaches engine state (rows.map StateRow.cells) := by
  rw [Reaches, keys_prunedRows, latest_window _ (reach_nonneg state), Reaches]

omit [DecidableEq Cell] in
theorem prune_eq {engine : SqlEngine Row Cell} {state : AggregateState Cell}
    (h : InRange engine state) : pruneDashboardAggregateState engine state =
      .ok { state with rows := prunedRows engine state state.rows } := by
  rcases prune_cases engine state with ⟨-, hpruned⟩ | ⟨hnot, -⟩
  · exact hpruned
  · exact absurd h hnot

omit [DecidableEq Cell] in
theorem inRange_of_prune {engine : SqlEngine Row Cell} {state pruned : AggregateState Cell}
    (h : pruneDashboardAggregateState engine state = .ok pruned) : InRange engine state := by
  rcases prune_cases engine state with ⟨hrange, -⟩ | ⟨-, e, hraised⟩
  · exact hrange
  · rw [hraised] at h
    cases h

omit [DecidableEq Cell] in
theorem prunedRows_prunedRows (engine : SqlEngine Row Cell) (state : AggregateState Cell)
    (rows : List (StateRow Cell)) :
    prunedRows engine state (prunedRows engine state rows) = prunedRows engine state rows :=
  window_window _ (reach_nonneg state) rows

omit [DecidableEq Cell] in
/-- What has been pruned is pruned. -/
theorem prune_pruned {engine : SqlEngine Row Cell} {state : AggregateState Cell}
    {rows : List (StateRow Cell)} (h : Reaches engine state (rows.map StateRow.cells)) :
    pruneDashboardAggregateState engine { state with rows := prunedRows engine state rows } =
      .ok { state with rows := prunedRows engine state rows } := by
  have hrange : InRange engine { state with rows := prunedRows engine state rows } :=
    reaches_pruned.mpr h
  rw [prune_eq hrange]
  show Except.ok { state with rows := prunedRows engine state (prunedRows engine state rows) } = _
  rw [prunedRows_prunedRows]

/-! ## Pruning before the merge -/

theorem prunedMerge_eq {engine : SqlEngine Row Cell} {a b : AggregateState Cell}
    (h : mergeDashboardAggregateStates engine a b ≠ .ok none)
    (hreach : Reaches engine a ((a.rows ++ b.rows).map StateRow.cells)) :
    prunedMerge engine a b = .ok (some (mergedState engine a b)) := by
  rcases merge_cases h with ⟨-, hmerge⟩ | ⟨hnot, -⟩
  · rw [prunedMerge, hmerge]
    show (do
      let state ← pruneDashboardAggregateState engine (mergedState engine a b)
      Except.ok (some state)) = _
    rw [mergedState, prune_pruned (reaches_merged.mpr hreach)]
    rfl
  · exact absurd hreach hnot

/-- The two states have one window. -/
def SameWindow (a b : AggregateState Cell) : Prop :=
  a.windowDays = b.windowDays ∧ a.windowDimensionKey = b.windowDimensionKey

omit [DecidableEq Cell] in
theorem dates_eq {engine : SqlEngine Row Cell} {a b : AggregateState Cell}
    (hidentity : sameIdentity a b) (h : SameWindow a b) : dates engine b = dates engine a := by
  have hwindowed : Windowed b ↔ Windowed a := by
    rw [Windowed, Windowed, h.1, h.2]
  funext cells
  rw [dates, dates, bucketOf, bucketOf, ← hidentity.2.2.2.1, ← h.2]
  simp only [hwindowed]

/-- Two computations return states with the same rows, in some order. -/
def SameRows (left right : Except Error (Option (AggregateState Cell))) : Prop :=
  ∃ l r : AggregateState Cell, left = .ok (some l) ∧ right = .ok (some r) ∧ l.rows.Perm r.rows

/-- Pruning first does not make more groups. -/
theorem length_merged_pruned (engine : SqlEngine Row Cell) (a b : AggregateState Cell) :
    (mergedRows (prunedRows engine a a.rows) (prunedRows engine b b.rows)).length ≤
      (mergedRows a.rows b.rows).length := by
  have hsub : (mergedRows (prunedRows engine a a.rows) (prunedRows engine b b.rows)).map Prod.fst ⊆
      (mergedRows a.rows b.rows).map Prod.fst := by
    intro key hkey
    obtain ⟨row, hrow, rfl⟩ := List.mem_map.mp (mem_keys_collect.mp hkey)
    refine mem_keys_collect.mpr (List.mem_map_of_mem ?_)
    rcases List.mem_append.mp hrow with hrow | hrow
    · exact List.mem_append_left _ (mem_window.mp hrow).1
    · exact List.mem_append_right _ (mem_window.mp hrow).1
  have hle := (List.subperm_of_subset (nodup_collect _) hsub).length_le
  rwa [List.length_map, List.length_map] at hle

omit [DecidableEq Cell] in
theorem expired_append {date : List Cell → Option Int} {span : Int}
    {rows rows' : List (StateRow Cell)} {key : List Cell}
    (h : Expired date span (rows.map StateRow.cells) key ∨
      Expired date span (rows'.map StateRow.cells) key) :
    Expired date span ((rows ++ rows').map StateRow.cells) key := by
  rw [List.map_append]
  rcases h with h | h
  · exact h.mono fun k hk => ⟨k, List.mem_append_left _ hk, rfl⟩
  · exact h.mono fun k hk => ⟨k, List.mem_append_right _ hk, rfl⟩

/-- The groups that both ways leave, and what they hold. -/
theorem perm_pruned_first {engine : SqlEngine Row Cell} {a b : AggregateState Cell}
    (hdates : dates engine b = dates engine a) (hreach : reach b = reach a) :
    (prunedRows engine a ((mergedRows (prunedRows engine a a.rows)
      (prunedRows engine b b.rows)).map Prod.snd)).Perm
      (prunedRows engine a ((mergedRows a.rows b.rows).map Prod.snd)) := by
  rw [prunedRows_merged, prunedRows_merged]
  refine List.Perm.map _ (window_collect_perm (reach_nonneg a) ?_ ?_)
  · intro key hkey
    obtain ⟨row, hrow, rfl⟩ := List.mem_map.mp hkey
    refine List.mem_map_of_mem ?_
    rcases List.mem_append.mp hrow with hrow | hrow
    · exact List.mem_append_left _ (mem_window.mp hrow).1
    · exact List.mem_append_right _ (mem_window.mp hrow).1
  · intro key hfresh
    rw [List.filter_append, List.filter_append]
    congr 1
    · exact filter_window fun hexpired => hfresh (expired_append (Or.inl hexpired))
    · rw [prunedRows, hdates, hreach]
      exact filter_window fun hexpired => hfresh (expired_append (Or.inr hexpired))

omit [DecidableEq Cell] in
/-- The newest bucket of two states is that of one of them. -/
theorem reaches_append {engine : SqlEngine Row Cell} {state : AggregateState Cell}
    {keys keys' : List (List Cell)} (h : Reaches engine state keys)
    (h' : Reaches engine state keys') : Reaches engine state (keys ++ keys') := by
  intro last hlast
  have happend : latest (dates engine state) ([] ++ keys ++ keys') = some last := hlast
  rcases latest_append happend with hone | hone
  · exact h last hone
  · exact h' last hone

theorem prunedFirst_iff {engine : SqlEngine Row Cell} {a b : AggregateState Cell}
    (hwindow : SameWindow a b) (h : mergeDashboardAggregateStates engine a b ≠ .ok none) :
    SameRows (prunedFirst engine a b) (prunedMerge engine a b) ↔
      InRange engine a ∧ InRange engine b := by
  obtain ⟨hidentity, hlength⟩ := merge_ne_none.mp h
  have hdates : dates engine b = dates engine a := dates_eq hidentity hwindow
  have hreach : reach b = reach a := by rw [reach, reach, hwindow.1]
  constructor
  · rintro ⟨l, r, hleft, -, -⟩
    rw [prunedFirst] at hleft
    obtain ⟨pa, ha, hleft⟩ := bind_eq_ok.mp hleft
    obtain ⟨pb, hb, -⟩ := bind_eq_ok.mp hleft
    exact ⟨inRange_of_prune ha, inRange_of_prune hb⟩
  · rintro ⟨ha, hb⟩
    have hb' : Reaches engine a (b.rows.map StateRow.cells) := by
      intro last hlast
      rw [hwindow.1]
      exact hb last (by rw [hdates]; exact hlast)
    have hboth : Reaches engine a ((a.rows ++ b.rows).map StateRow.cells) := by
      rw [List.map_append]
      exact reaches_append ha hb'
    have hright := prunedMerge_eq h hboth
    let pa : AggregateState Cell := { a with rows := prunedRows engine a a.rows }
    let pb : AggregateState Cell := { b with rows := prunedRows engine b b.rows }
    have hmerge : mergeDashboardAggregateStates engine pa pb ≠ .ok none :=
      merge_ne_none.mpr ⟨hidentity, (length_merged_pruned engine a b).trans hlength⟩
    have hpruned : Reaches engine pa ((pa.rows ++ pb.rows).map StateRow.cells) := by
      rw [List.map_append]
      refine reaches_append (reaches_pruned.mpr ha) ?_
      show Reaches engine a ((prunedRows engine b b.rows).map StateRow.cells)
      rw [prunedRows, hdates, hreach]
      exact reaches_pruned.mpr hb'
    have hleft : prunedFirst engine a b = .ok (some (mergedState engine pa pb)) := by
      rw [prunedFirst, prune_eq ha, prune_eq hb]
      exact prunedMerge_eq hmerge hpruned
    exact ⟨_, _, hleft, hright, perm_pruned_first hdates hreach⟩

omit [DecidableEq Cell] in
theorem prune_twice_iff {engine : SqlEngine Row Cell} {state : AggregateState Cell} :
    (∃ pruned, pruneDashboardAggregateState engine state = .ok pruned ∧
      pruneDashboardAggregateState engine pruned = .ok pruned) ↔ InRange engine state := by
  constructor
  · rintro ⟨pruned, hpruned, -⟩
    exact inRange_of_prune hpruned
  · intro h
    exact ⟨_, prune_eq h, prune_pruned h⟩

/-! ## Merging one delta after the other -/

def keysOf (rows : List (StateRow Cell)) : List (List Cell) := rows.map StateRow.cells

/-- The groups of `rows` are some of `keys`, and all that the window keeps. -/
structure Between (engine : SqlEngine Row Cell) (base : AggregateState Cell)
    (rows : List (StateRow Cell)) (keys : List (List Cell)) : Prop where
  sub : ∀ k ∈ keysOf rows, k ∈ keys
  kept : ∀ k ∈ keys, ¬ Expired (dates engine base) (reach base) keys k → k ∈ keysOf rows

/-- The groups of `rows` are those that the window keeps of `keys`, each once. -/
structure Left (engine : SqlEngine Row Cell) (base : AggregateState Cell)
    (rows : List (StateRow Cell)) (keys : List (List Cell)) : Prop where
  nodup : (keysOf rows).Nodup
  mem : ∀ k, k ∈ keysOf rows ↔
    k ∈ keys ∧ ¬ Expired (dates engine base) (reach base) keys k

omit [DecidableEq Cell] in
theorem Left.between {engine : SqlEngine Row Cell} {base : AggregateState Cell}
    {rows : List (StateRow Cell)} {keys : List (List Cell)} (h : Left engine base rows keys) :
    Between engine base rows keys :=
  ⟨fun k hk => ((h.mem k).mp hk).1, fun k hk hfresh => (h.mem k).mpr ⟨hk, hfresh⟩⟩

omit [DecidableEq Cell] in
theorem Between.latest_append {engine : SqlEngine Row Cell} {base : AggregateState Cell}
    {rows : List (StateRow Cell)} {keys : List (List Cell)} (h : Between engine base rows keys)
    (more : List (List Cell)) :
    latest (dates engine base) (keysOf rows ++ more) = latest (dates engine base) (keys ++ more) := by
  refine latest_between (reach_nonneg base) ?_ ?_
  · intro k hk
    rcases List.mem_append.mp hk with hk | hk
    · exact ⟨k, List.mem_append_left _ (h.sub k hk), rfl⟩
    · exact ⟨k, List.mem_append_right _ hk, rfl⟩
  · intro k hk hfresh
    rcases List.mem_append.mp hk with hmem | hmem
    · refine ⟨k, List.mem_append_left _ (h.kept k hmem fun hexpired => hfresh ?_), rfl⟩
      exact hexpired.mono fun k hk => ⟨k, List.mem_append_left _ hk, rfl⟩
    · exact ⟨k, List.mem_append_right _ hmem, rfl⟩

/-- One merge leaves what the window keeps of all groups so far. -/
theorem Between.merge {engine : SqlEngine Row Cell} {base delta : AggregateState Cell}
    {rows : List (StateRow Cell)} {keys : List (List Cell)} (h : Between engine base rows keys) :
    Left engine base (mergedState engine { base with rows } delta).rows
      (keys ++ keysOf delta.rows) := by
  have hkeys : keysOf (mergedState engine { base with rows } delta).rows =
      (window (dates engine base ∘ Prod.fst) (reach base) (mergedRows rows delta.rows)).map
        Prod.fst := by
    show (prunedRows engine base ((mergedRows rows delta.rows).map Prod.snd)).map StateRow.cells = _
    rw [keys_prunedRows, map_cells_merged, ← window_map]
  have hmap : (rows ++ delta.rows).map StateRow.cells = keysOf rows ++ keysOf delta.rows :=
    List.map_append
  refine ⟨hkeys ▸ nodup_keys_window_collect _, fun k => ?_⟩
  rw [hkeys, mergedRows, mem_keys_window_collect, hmap, expired_congr (h.latest_append _)]
  refine and_congr_left fun hfresh => ?_
  rw [List.mem_append, List.mem_append]
  refine or_congr_left ⟨h.sub k, fun hk => h.kept k hk fun hexpired => hfresh ?_⟩
  exact hexpired.mono fun k hk => ⟨k, List.mem_append_left _ hk, rfl⟩

omit [DecidableEq Cell] in
theorem reaches_three {engine : SqlEngine Row Cell} {base : AggregateState Cell}
    {keys keys' keys'' : List (List Cell)} (h : Reaches engine base (keys ++ keys'))
    (h' : Reaches engine base (keys ++ keys'')) :
    Reaches engine base (keys ++ keys' ++ keys'') := by
  intro last hlast
  rcases latest_append hlast with hone | hone
  · exact h last hone
  · exact h' last hone

/-- A whole run of merges leaves what the window keeps of all groups. -/
theorem left_mergeAll {engine : SqlEngine Row Cell} {base : AggregateState Cell}
    {deltas : List (AggregateState Cell)} {rows : List (StateRow Cell)} {keys : List (List Cell)}
    (h : Between engine base rows keys)
    (hreach : ∀ delta ∈ deltas, Reaches engine base (keys ++ keysOf delta.rows))
    (hsome : mergeAll engine { base with rows } deltas ≠ .ok none) (hne : deltas ≠ []) :
    ∃ state : AggregateState Cell, mergeAll engine { base with rows } deltas = .ok (some state) ∧
      Left engine base state.rows (keys ++ deltas.flatMap fun delta => keysOf delta.rows) := by
  induction deltas generalizing rows keys with
  | nil => exact absurd rfl hne
  | cons delta deltas ih =>
      have hdelta := hreach delta List.mem_cons_self
      have hmerged : mergeDashboardAggregateStates engine { base with rows } delta =
          .ok (some (mergedState engine { base with rows } delta)) := by
        have hnot : mergeDashboardAggregateStates engine { base with rows } delta ≠ .ok none := by
          intro hnone
          rw [mergeAll, hnone] at hsome
          exact hsome rfl
        rcases merge_cases hnot with ⟨-, hmerge⟩ | ⟨hraise, -⟩
        · exact hmerge
        · refine absurd (fun last hlast => ?_) hraise
          refine hdelta last ((h.latest_append _).symm.trans ?_)
          rw [← hlast, List.map_append]
          rfl
      have hleft : Left engine base (mergedState engine { base with rows } delta).rows
          (keys ++ keysOf delta.rows) := h.merge
      have hstep : mergeAll engine { base with rows } (delta :: deltas) =
          mergeAll engine (mergedState engine { base with rows } delta) deltas := by
        rw [mergeAll, hmerged]
        rfl
      rw [hstep] at hsome ⊢
      rw [List.flatMap_cons, ← List.append_assoc]
      cases deltas with
      | nil => exact ⟨_, rfl, by simpa using hleft⟩
      | cons next deltas =>
          exact ih hleft.between (fun delta' hdelta' =>
            reaches_three hdelta (hreach delta' (List.mem_cons_of_mem _ hdelta'))) hsome
            (List.cons_ne_nil _ _)

/-- Two runs of merges return states with the same groups, in some order. -/
def SameGroups (left right : Except Error (Option (AggregateState Cell))) : Prop :=
  ∃ l r : AggregateState Cell, left = .ok (some l) ∧ right = .ok (some r) ∧
    (keysOf l.rows).Perm (keysOf r.rows)

theorem mergeAll_orders_iff {engine : SqlEngine Row Cell} {base : AggregateState Cell}
    {deltas : List (AggregateState Cell)}
    (hsome : ∀ order : List (AggregateState Cell), order.Perm deltas →
      mergeAll engine base order ≠ .ok none) :
    (∀ order order' : List (AggregateState Cell), order.Perm deltas → order'.Perm deltas →
      SameGroups (mergeAll engine base order) (mergeAll engine base order')) ↔
      ∀ delta ∈ deltas, InRange engine { base with rows := base.rows ++ delta.rows } := by
  have hbase : Between engine base base.rows (keysOf base.rows) :=
    ⟨fun k hk => hk, fun k hk _ => hk⟩
  have hkeys : ∀ delta : AggregateState Cell,
      InRange engine { base with rows := base.rows ++ delta.rows } ↔
        Reaches engine base (keysOf base.rows ++ keysOf delta.rows) := by
    intro delta
    show Reaches engine base ((base.rows ++ delta.rows).map StateRow.cells) ↔ _
    rw [List.map_append]
    rfl
  constructor
  · intro h delta hdelta
    -- the order that begins with `delta`
    obtain ⟨before, after, rfl⟩ := List.append_of_mem hdelta
    have hperm : (delta :: (before ++ after)).Perm (before ++ delta :: after) :=
      List.perm_middle.symm
    obtain ⟨l, -, hleft, -, -⟩ := h _ _ hperm hperm
    have hnot : mergeDashboardAggregateStates engine base delta ≠ .ok none := by
      intro hnone
      rw [mergeAll, hnone] at hleft
      cases hleft
    rcases merge_cases hnot with ⟨hreach, -⟩ | ⟨-, e, hraised⟩
    · exact hreach
    · rw [mergeAll, hraised] at hleft
      cases hleft
  · intro h order order' horder horder'
    by_cases hnil : deltas = []
    · subst hnil
      obtain rfl := List.perm_nil.mp horder
      obtain rfl := List.perm_nil.mp horder'
      exact ⟨base, base, rfl, rfl, List.Perm.refl _⟩
    · have hrun : ∀ order : List (AggregateState Cell), order.Perm deltas →
          ∃ state : AggregateState Cell, mergeAll engine base order = .ok (some state) ∧
            Left engine base state.rows
              (keysOf base.rows ++ order.flatMap fun delta => keysOf delta.rows) := by
        intro order hperm
        refine left_mergeAll hbase (fun delta hdelta => ?_) (hsome order hperm) ?_
        · exact (hkeys delta).mp (h delta (hperm.mem_iff.mp hdelta))
        · rintro rfl
          exact hnil (List.nil_perm.mp hperm)
      obtain ⟨l, hl, hleft⟩ := hrun order horder
      obtain ⟨r, hr, hright⟩ := hrun order' horder'
      refine ⟨l, r, hl, hr, (List.perm_ext_iff_of_nodup hleft.nodup hright.nodup).mpr fun k => ?_⟩
      have hmem : ∀ k, k ∈ keysOf base.rows ++ order.flatMap (fun delta => keysOf delta.rows) ↔
          k ∈ keysOf base.rows ++ order'.flatMap fun delta => keysOf delta.rows := by
        intro k
        rw [List.mem_append, List.mem_append, List.mem_flatMap, List.mem_flatMap]
        simp only [(horder.trans horder'.symm).mem_iff]
      rw [hleft.mem, hright.mem, hmem, expired_congr (latest_eq_of_mem hmem)]

/-- Where the newest bucket of what is pruned is far enough from `datetime.min`, pruning before a
merge changes nothing, pruning twice is pruning once, and deltas may be merged in any order; and
nowhere else. -/
theorem window_pruning_iff (engine : SqlEngine Row Cell) :
    (∀ a b : AggregateState Cell, SameWindow a b →
      mergeDashboardAggregateStates engine a b ≠ .ok none →
        (SameRows (prunedFirst engine a b) (prunedMerge engine a b) ↔
          InRange engine a ∧ InRange engine b)) ∧
    (∀ state : AggregateState Cell,
      (∃ pruned, pruneDashboardAggregateState engine state = .ok pruned ∧
        pruneDashboardAggregateState engine pruned = .ok pruned) ↔ InRange engine state) ∧
    ∀ (base : AggregateState Cell) (deltas : List (AggregateState Cell)),
      (∀ order : List (AggregateState Cell), order.Perm deltas →
        mergeAll engine base order ≠ .ok none) →
      ((∀ order order' : List (AggregateState Cell), order.Perm deltas → order'.Perm deltas →
        SameGroups (mergeAll engine base order) (mergeAll engine base order')) ↔
        ∀ delta ∈ deltas, InRange engine { base with rows := base.rows ++ delta.rows }) :=
  ⟨fun _ _ => prunedFirst_iff, fun _ => prune_twice_iff, fun _ _ => mergeAll_orders_iff⟩

end

/-! ## A state of one early bucket -/

def microsecondsOf (days : Int) : Int := days * dayMicroseconds

/-- Days as the texts that the buckets are stored as. -/
def dayEngine : SqlEngine String String where
  sha256 := id
  lower := id
  casefold := id
  column := fun _ row => row
  null := ""
  isNull := fun cell => cell = ""
  tryDouble := fun _ => none
  varchar := some
  dateTrunc := fun _ => some
  text := id
  bucketDatetime := fun cell =>
    if cell = "0001-01-01" then some (microsecondsOf 0)
    else if cell = "2025-12-01" then some (microsecondsOf 739585)
    else if cell = "2026-01-31" then some (microsecondsOf 739646)
    else none
  filterPredicates := fun _ => .ok fun _ => true
  str := fun value => match value with
    | .str text => text
    | _ => ""
  int := fun _ => none

/-- A line over 30 days, with one point for each of `days`. -/
def lineState (days : List String) : AggregateState String where
  widgetType := .lineChart
  aggregation := .count
  dimensionKeys := ["day"]
  valueConfigKey := "yKey"
  valueAlias := "__asklake_widget_value"
  sourceConfig := []
  windowDays := some 30
  windowDimensionKey := some "day"
  rows := days.map fun day => ⟨[day], some 1, some 1, none, none⟩

def daysOf (result : Except Error (Option (AggregateState String))) : Option (List (List String)) :=
  match result with
  | .ok (some state) => some (keysOf state.rows)
  | _ => none

/-- The newest day of the first state is the first of all; that of both is not. -/
theorem early_bucket_raises :
    SameWindow (lineState ["0001-01-01"]) (lineState ["2026-01-31"]) ∧
      daysOf (mergeDashboardAggregateStates dayEngine (lineState ["0001-01-01"])
        (lineState ["2026-01-31"])) = some [["2026-01-31"]] ∧
      daysOf (prunedMerge dayEngine (lineState ["0001-01-01"]) (lineState ["2026-01-31"])) =
        some [["2026-01-31"]] ∧
      ¬ SameRows (prunedFirst dayEngine (lineState ["0001-01-01"]) (lineState ["2026-01-31"]))
        (prunedMerge dayEngine (lineState ["0001-01-01"]) (lineState ["2026-01-31"])) := by
  refine ⟨⟨rfl, rfl⟩, by decide +kernel, by decide +kernel, ?_⟩
  rintro ⟨l, r, hleft, -, -⟩
  have hnone : (prunedFirst dayEngine (lineState ["0001-01-01"])
      (lineState ["2026-01-31"])).toBool = false := by decide +kernel
  rw [hleft] at hnone
  cases hnone

theorem window_pruning_recent :
    SameRows (prunedFirst dayEngine (lineState ["2025-12-01", "2026-01-31"])
        (lineState ["2025-12-01", ""]))
      (prunedMerge dayEngine (lineState ["2025-12-01", "2026-01-31"])
        (lineState ["2025-12-01", ""])) ∧
      SameGroups
        (mergeAll dayEngine (lineState []) [lineState ["2025-12-01"], lineState ["2026-01-31"]])
        (mergeAll dayEngine (lineState []) [lineState ["2026-01-31"], lineState ["2025-12-01"]]) := by
  constructor
  · have hmerge : mergeDashboardAggregateStates dayEngine (lineState ["2025-12-01", "2026-01-31"])
        (lineState ["2025-12-01", ""]) ≠ .ok none :=
      merge_ne_none.mpr ⟨by decide +kernel, by decide +kernel⟩
    refine ((window_pruning_iff dayEngine).1 (lineState ["2025-12-01", "2026-01-31"])
      (lineState ["2025-12-01", ""]) ⟨rfl, rfl⟩ hmerge).mpr ⟨?_, ?_⟩
    · decide +kernel
    · decide +kernel
  · have hsome : ∀ a ∈ [lineState ["2025-12-01"], lineState ["2026-01-31"]],
        ∀ b ∈ [lineState ["2025-12-01"], lineState ["2026-01-31"]],
          (daysOf (mergeAll dayEngine (lineState []) [a, b])).isSome = true := by decide +kernel
    refine ((window_pruning_iff dayEngine).2.2 _ _ fun order horder hmerge => ?_).mpr ?_ _ _
      (List.Perm.refl _) (List.Perm.swap _ _ _)
    · obtain ⟨a, b, rfl⟩ := List.length_eq_two.mp horder.length_eq
      have ha := horder.mem_iff.mp (List.mem_cons_self (a := a) (l := [b]))
      have hb := horder.mem_iff.mp (List.mem_cons_of_mem a (List.mem_singleton_self b))
      have hboth := hsome a ha b hb
      rw [hmerge] at hboth
      cases hboth
    · decide +kernel

end AskLake.Dashboard.WindowPruning

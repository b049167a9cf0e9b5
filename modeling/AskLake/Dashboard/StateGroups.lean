/-
# `AskLake.Dashboard.StateGroups` — the groups of a state query

The rows of a state query are told apart by their shown dimensions, though it
groups by expressions: only the first dimension has a date unit, and a column
that is named twice is shown as the second has it.  So a state has one row for
each key, and that row is the measure of the table's rows with this key:

    keysOf query table    the keys, once each
    rowAt query table     the row of a key

What a measure counts and adds up for a table is the sum of what it does for the
parts of the table.
-/
import AskLake.Dashboard.AggregateState

namespace AskLake.Dashboard

open AskLake.Lib AskLake.Python

section
variable {Row Cell : Type} [DecidableEq Cell]

/-! ## Groups -/

/-- What a measure divides by. -/
def Measure.count : Measure Row → List Row → Nat
  | rows, group => group.length
  | ratio _ denominator, group => group.countP denominator
  | numeric value, group => (group.filterMap value).length

/-- The measure that an aggregation asks for. -/
def Measure.Measures : Measure Row → Aggregation → Prop
  | rows, aggregation => aggregation = .count
  | ratio _ _, aggregation => aggregation = .ratio
  | numeric _, aggregation => aggregation ≠ .count ∧ aggregation ≠ .ratio

theorem Measure.count_append (measure : Measure Row) (a b : List Row) :
    measure.count (a ++ b) = measure.count a + measure.count b := by
  cases measure with
  | rows => exact List.length_append
  | ratio _ _ => exact List.countP_append
  | numeric value => rw [count, List.filterMap_append, List.length_append]; rfl

namespace StateQuery

/-- The dimensions of the groups of a table. -/
def keysOf (query : StateQuery Row Cell) (table : List Row) : List (List Cell) :=
  if query.grouped then ((query.kept table).map query.shown).dedup else [[]]

def groupAt (query : StateQuery Row Cell) (table : List Row) (key : List Cell) : List Row :=
  (query.kept table).filter fun row => query.shown row = key

def rowAt (query : StateQuery Row Cell) (table : List Row) (key : List Cell) : StateRow Cell :=
  query.measure.row key (query.groupAt table key)

/-- What a query has by its construction. -/
structure Built (query : StateQuery Row Cell) : Prop where
  /-- the shown dimensions tell the groups apart -/
  same : ∀ row row', query.shown row = query.shown row' ↔ query.group row = query.group row'
  ungrouped : query.grouped = false → ∀ row, query.shown row = []
  unwindowed : query.grouped = false → query.template.windowDimensionKey = none
  measure : query.measure.Measures query.template.aggregation

variable {query : StateQuery Row Cell} {table more : List Row} {key : List Cell}

theorem nodup_keysOf (query : StateQuery Row Cell) (table : List Row) :
    (query.keysOf table).Nodup := by
  unfold keysOf
  split
  · exact List.nodup_dedup _
  · exact List.nodup_singleton _

theorem mem_keysOf : key ∈ query.keysOf table ↔
    (query.grouped = true ∧ ∃ row ∈ query.kept table, query.shown row = key) ∨
      (query.grouped = false ∧ key = []) := by
  unfold keysOf
  cases query.grouped with
  | true =>
      rw [if_pos rfl, List.mem_dedup, List.mem_map]
      simp only [true_and, Bool.true_eq_false, false_and, or_false]
  | false =>
      rw [if_neg Bool.false_ne_true, List.mem_singleton]
      simp only [Bool.false_eq_true, false_and, true_and, false_or]

theorem mem_keysOf_append :
    key ∈ query.keysOf (table ++ more) ↔ key ∈ query.keysOf table ∨ key ∈ query.keysOf more := by
  rw [mem_keysOf, mem_keysOf, mem_keysOf, kept, kept, kept, List.filter_append]
  constructor
  · rintro (⟨hgrouped, row, hrow, hkey⟩ | hnone)
    · rcases List.mem_append.mp hrow with hrow | hrow
      · exact Or.inl (Or.inl ⟨hgrouped, row, hrow, hkey⟩)
      · exact Or.inr (Or.inl ⟨hgrouped, row, hrow, hkey⟩)
    · exact Or.inl (Or.inr hnone)
  · rintro ((⟨hgrouped, row, hrow, hkey⟩ | hnone) | (⟨hgrouped, row, hrow, hkey⟩ | hnone))
    · exact Or.inl ⟨hgrouped, row, List.mem_append_left _ hrow, hkey⟩
    · exact Or.inr hnone
    · exact Or.inl ⟨hgrouped, row, List.mem_append_right _ hrow, hkey⟩
    · exact Or.inr hnone

theorem groupAt_append (query : StateQuery Row Cell) (table more : List Row) (key : List Cell) :
    query.groupAt (table ++ more) key = query.groupAt table key ++ query.groupAt more key := by
  rw [groupAt, kept, List.filter_append, List.filter_append]
  rfl

/-- A key of no group has no rows. -/
theorem groupAt_eq_nil (h : query.Built) (hkey : key ∉ query.keysOf table) :
    query.groupAt table key = [] := by
  refine List.filter_eq_nil_iff.mpr fun row hrow hshown => hkey ?_
  have hshown := of_decide_eq_true hshown
  rw [mem_keysOf]
  cases hgrouped : query.grouped with
  | true => exact Or.inl ⟨rfl, row, hrow, hshown⟩
  | false => exact Or.inr ⟨rfl, hshown.symm.trans (h.ungrouped hgrouped row)⟩

omit [DecidableEq Cell] in
@[simp] theorem cells_row (measure : Measure Row) (cells : List Cell) (group : List Row) :
    (measure.row cells group).cells = cells := by
  cases measure <;> rfl

@[simp] theorem cells_rowAt (query : StateQuery Row Cell) (table : List Row) (key : List Cell) :
    (query.rowAt table key).cells = key := cells_row ..

/-- The rows of a query, by their dimensions. -/
theorem groupRows_perm (h : query.Built) (table : List Row) :
    ((query.groups table).map query.groupRow).Perm
      ((query.keysOf table).map (query.rowAt table)) := by
  unfold groups keysOf
  by_cases hgrouped : query.grouped = true
  · rw [if_pos hgrouped, if_pos hgrouped]
    have hrow : ∀ row ∈ query.kept table, query.groupRow ((query.kept table).filter fun row' =>
        query.group row' = query.group row) = query.rowAt table (query.shown row) := by
      intro row hrow
      have hfilter : (query.kept table).filter (fun row' => query.group row' = query.group row) =
          query.groupAt table (query.shown row) :=
        List.filter_congr fun row' _ => by simp only [h.same]
      have hmem : row ∈ query.groupAt table (query.shown row) :=
        List.mem_filter.mpr ⟨hrow, decide_eq_true rfl⟩
      rw [hfilter, groupRow, rowAt]
      congr 1
      cases hgroup : query.groupAt table (query.shown row) with
      | nil =>
          rw [hgroup] at hmem
          exact nomatch hmem
      | cons first rest =>
          have hfirst : first ∈ query.groupAt table (query.shown row) := by
            rw [hgroup]
            exact List.mem_cons_self
          exact of_decide_eq_true (List.mem_filter.mp hfirst).2
    refine (List.perm_ext_iff_of_nodup ?_ ?_).mpr fun stateRow => ?_
    · rw [List.map_map]
      refine (List.nodup_dedup _).map_on fun a ha b hb heq => ?_
      obtain ⟨row, hmem, rfl⟩ := List.mem_map.mp (List.mem_dedup.mp ha)
      obtain ⟨row', hmem', rfl⟩ := List.mem_map.mp (List.mem_dedup.mp hb)
      have hcells := congrArg StateRow.cells heq
      simp only [Function.comp_apply] at hcells
      rw [hrow row hmem, hrow row' hmem', cells_rowAt, cells_rowAt] at hcells
      exact (h.same row row').mp hcells
    · refine (List.nodup_dedup _).map_on fun a _ b _ heq => ?_
      have hcells := congrArg StateRow.cells heq
      rwa [cells_rowAt, cells_rowAt] at hcells
    · simp only [List.map_map, List.mem_map, List.mem_dedup, Function.comp_apply]
      constructor
      · rintro ⟨_, ⟨row, hmem, rfl⟩, rfl⟩
        exact ⟨_, ⟨row, hmem, rfl⟩, (hrow row hmem).symm⟩
      · rintro ⟨_, ⟨row, hmem, rfl⟩, rfl⟩
        exact ⟨_, ⟨row, hmem, rfl⟩, hrow row hmem⟩
  · rw [if_neg hgrouped, if_neg hgrouped]
    have hungrouped : query.grouped = false := Bool.eq_false_iff.mpr hgrouped
    have hall : query.groupAt table [] = query.kept table :=
      List.filter_eq_self.mpr fun row _ => decide_eq_true (h.ungrouped hungrouped row)
    refine List.Perm.of_eq ?_
    rw [List.map_singleton, List.map_singleton, groupRow, rowAt, hall]
    congr 2
    cases query.kept table with
    | nil => rfl
    | cons row rest => exact h.ungrouped hungrouped row

end StateQuery

/-! ## Queries of the dashboard -/

/-- Only the first dimension of a widget has a date unit. -/
theorem unit_of_fields {widgetType : WidgetType} {config : WidgetConfig}
    {fields : List (String × Option String)} {valueConfigKey : String}
    (h : dashboardWidgetQueryFields widgetType config = .ok (fields, valueConfigKey)) :
    fields = [] ∨ ∃ first, fields = [first] ∨ ∃ second, fields = [first, (second, none)] := by
  cases widgetType with
  | metric =>
      cases h
      exact Or.inl rfl
  | barChart =>
      obtain ⟨x, -, h⟩ := bind_eq_ok.mp h
      cases pure_eq_ok.mp h
      exact Or.inr ⟨_, Or.inr ⟨_, rfl⟩⟩
  | lineChart =>
      obtain ⟨x, -, h⟩ := bind_eq_ok.mp h
      cases pure_eq_ok.mp h
      exact Or.inr ⟨_, Or.inr ⟨_, rfl⟩⟩
  | areaChart =>
      obtain ⟨x, -, h⟩ := bind_eq_ok.mp h
      cases pure_eq_ok.mp h
      exact Or.inr ⟨_, Or.inr ⟨_, rfl⟩⟩
  | donutChart =>
      obtain ⟨x, -, h⟩ := bind_eq_ok.mp h
      cases pure_eq_ok.mp h
      exact Or.inr ⟨_, Or.inl rfl⟩
  | pieChart =>
      obtain ⟨x, -, h⟩ := bind_eq_ok.mp h
      cases pure_eq_ok.mp h
      exact Or.inr ⟨_, Or.inl rfl⟩
  | treemapChart =>
      obtain ⟨x, -, h⟩ := bind_eq_ok.mp h
      cases pure_eq_ok.mp h
      exact Or.inr ⟨_, Or.inl rfl⟩
  | radialBarChart =>
      cases h
      exact Or.inr ⟨_, Or.inl rfl⟩
  | heatmapChart =>
      obtain ⟨x, -, h⟩ := bind_eq_ok.mp h
      obtain ⟨y, -, h⟩ := bind_eq_ok.mp h
      cases pure_eq_ok.mp h
      exact Or.inr ⟨_, Or.inr ⟨_, rfl⟩⟩
  | table => exact nomatch h
  | other name => exact nomatch h

/-- The dimensions that are left when those without a column are dropped. -/
theorem specs_cases {fields : List (String × Option String)}
    (h : fields = [] ∨ ∃ first, fields = [first] ∨ ∃ second, fields = [first, (second, none)]) :
    (fields.filter fun spec => spec.1 ≠ "") = [] ∨ ∃ first,
      (fields.filter fun spec => spec.1 ≠ "") = [first] ∨
        ∃ second, (fields.filter fun spec => spec.1 ≠ "") = [first, (second, none)] := by
  rcases h with rfl | ⟨first, rfl | ⟨second, rfl⟩⟩
  · exact Or.inl rfl
  · by_cases hfirst : first.1 = ""
    · exact Or.inl (List.filter_cons_of_neg (by simpa using hfirst))
    · refine Or.inr ⟨first, Or.inl ?_⟩
      rw [List.filter_cons_of_pos (by simpa using hfirst)]
      rfl
  · by_cases hsecond : second = ""
    · have htail : List.filter (fun spec : String × Option String => spec.1 ≠ "")
          [(second, none)] = [] := List.filter_cons_of_neg (by simpa using hsecond)
      by_cases hfirst : first.1 = ""
      · rw [List.filter_cons_of_neg (by simpa using hfirst), htail]
        exact Or.inl rfl
      · rw [List.filter_cons_of_pos (by simpa using hfirst), htail]
        exact Or.inr ⟨first, Or.inl rfl⟩
    · have htail : List.filter (fun spec : String × Option String => spec.1 ≠ "")
          [(second, none)] = [(second, none)] :=
        List.filter_cons_of_pos (by simpa using hsecond)
      by_cases hfirst : first.1 = ""
      · rw [List.filter_cons_of_neg (by simpa using hfirst), htail]
        exact Or.inr ⟨_, Or.inl rfl⟩
      · rw [List.filter_cons_of_pos (by simpa using hfirst), htail]
        exact Or.inr ⟨first, Or.inr ⟨second, rfl⟩⟩

omit [DecidableEq Cell] in
/-- A dimension without a unit is a column; and of two dimensions on one column
the second decides both. -/
theorem shown_iff_group (engine : SqlEngine Row Cell) {specs : List (String × Option String)}
    (h : specs = [] ∨ ∃ first, specs = [first] ∨ ∃ second, specs = [first, (second, none)])
    (row row' : Row) :
    ((specs.map Prod.fst).map (shownValue engine specs row) =
        (specs.map Prod.fst).map (shownValue engine specs row')) ↔
      (specs.map fun spec => dimensionValue engine spec row) =
        specs.map fun spec => dimensionValue engine spec row' := by
  have hself : ∀ (row : Row) (first : String × Option String),
      shownValue engine [first] row first.1 = dimensionValue engine first row := by
    intro row first
    simp only [shownValue, List.reverse_singleton, List.find?_cons, decide_true]
  rcases h with rfl | ⟨first, rfl | ⟨second, rfl⟩⟩
  · exact Iff.rfl
  · simp only [List.map_cons, List.map_nil, hself]
  · have hsecond : ∀ row, shownValue engine [first, (second, none)] row second =
        engine.column second row := by
      intro row
      simp [shownValue, dimensionValue]
    by_cases hsame : first.1 = second
    · have hfirst : ∀ row, shownValue engine [first, (second, none)] row first.1 =
          engine.column second row := by
        intro row
        rw [hsame]
        exact hsecond row
      simp only [List.map_cons, List.map_nil, hfirst, hsecond, List.cons.injEq, and_true, and_self]
      constructor
      · intro hcolumn
        refine ⟨?_, hcolumn⟩
        simp only [dimensionValue, hsame, hcolumn]
      · exact fun hboth => hboth.2
    · have hfirst : ∀ row, shownValue engine [first, (second, none)] row first.1 =
          dimensionValue engine first row := by
        intro row
        simp [shownValue, Ne.symm hsame]
      simp only [List.map_cons, List.map_nil, hfirst, hsecond]
      rfl

omit [DecidableEq Cell] in
theorem measureOf_measures {engine : SqlEngine Row Cell} {config : WidgetConfig}
    {aggregation : Aggregation} {value : String} {measure : Measure Row}
    (h : measureOf engine config aggregation value = .ok measure) :
    measure.Measures aggregation := by
  cases aggregation with
  | count =>
      cases pure_eq_ok.mp h
      exact rfl
  | ratio =>
      obtain ⟨⟨numerator, denominator⟩, -, h⟩ := bind_eq_ok.mp h
      cases pure_eq_ok.mp h
      exact rfl
  | sum =>
      cases pure_eq_ok.mp h
      exact ⟨nofun, nofun⟩
  | avg =>
      cases pure_eq_ok.mp h
      exact ⟨nofun, nofun⟩
  | min =>
      cases pure_eq_ok.mp h
      exact ⟨nofun, nofun⟩
  | max =>
      cases pure_eq_ok.mp h
      exact ⟨nofun, nofun⟩

omit [DecidableEq Cell] in
theorem built_of_query {engine : SqlEngine Row Cell} {columns : List String}
    {widgetType : WidgetType} {config : WidgetConfig} {query : StateQuery Row Cell}
    (h : dashboardAggregateStateQuery engine columns widgetType config = .ok query) :
    query.Built := by
  obtain ⟨aggregation, -, h⟩ := bind_eq_ok.mp h
  obtain ⟨⟨fields, valueConfigKey⟩, hfields, h⟩ := bind_eq_ok.mp h
  obtain ⟨_, -, h⟩ := bind_eq_ok.mp h
  obtain ⟨value, -, h⟩ := bind_eq_ok.mp h
  obtain ⟨measure, hmeasure, h⟩ := bind_eq_ok.mp h
  obtain ⟨predicate, -, h⟩ := bind_eq_ok.mp h
  obtain ⟨windowDays, -, h⟩ := bind_eq_ok.mp h
  have hspecs := specs_cases (unit_of_fields hfields)
  cases pure_eq_ok.mp h
  have hempty : (!(fields.filter fun spec => spec.1 ≠ "").isEmpty) = false →
      (fields.filter fun spec => spec.1 ≠ "") = [] := by
    intro hnot
    exact List.isEmpty_iff.mp (by simpa using hnot)
  refine ⟨shown_iff_group engine hspecs, fun hnot row => ?_, fun hnot => ?_,
    measureOf_measures hmeasure⟩
  · show ((fields.filter fun spec => spec.1 ≠ "").map Prod.fst).map _ = []
    rw [hempty hnot]
    rfl
  · show (if (fields.filter fun spec => spec.1 ≠ "").any timeDimension then _ else _) = none
    rw [hempty hnot]
    rfl

end

end AskLake.Dashboard

/-
# `AskLake.Dashboard.AggregateState` — the mergeable state of a widget

A widget that aggregates is computed from one state row for each group:

    count     what the value is divided by
    sum       what is divided, or added
    min, max

and the columns mean another thing for each aggregation: under `ratio` the count
is that of the denominators and the sum that of the numerators.  The state of a
revision is merged into the state so far, group by group, and the shown result is
computed from the merged state.

SQL is asked through a `SqlEngine`: the columns of a row, the casts, and the
`WHERE` clause.  Its rows come in no particular order, so that the state of a
table is any list of its groups (`Yields`).  Rational numbers stand for floats.
-/
import Mathlib.Algebra.Order.Floor.Ring
import Mathlib.Data.List.Dedup
import Mathlib.Data.Rat.Floor
import AskLake.Lib.Dict
import AskLake.Lib.Outcome
import AskLake.Lib.Window
import AskLake.Python.Basic
import AskLake.Python.Json

namespace AskLake.Dashboard

open AskLake.Lib AskLake.Python

/-! ## The configuration -/

inductive WidgetType
  | metric
  | barChart
  | lineChart
  | areaChart
  | donutChart
  | pieChart
  | treemapChart
  | radialBarChart
  | heatmapChart
  | table
  | other (name : String)
  deriving DecidableEq

def WidgetType.name : WidgetType → String
  | metric => "metric"
  | barChart => "bar_chart"
  | lineChart => "line_chart"
  | areaChart => "area_chart"
  | donutChart => "donut_chart"
  | pieChart => "pie_chart"
  | treemapChart => "treemap_chart"
  | radialBarChart => "radial_bar_chart"
  | heatmapChart => "heatmap_chart"
  | table => "table"
  | other name => name

inductive Aggregation
  | sum
  | avg
  | count
  | ratio
  | min
  | max
  deriving DecidableEq, Repr

def Aggregation.ofName : String → Option Aggregation
  | "sum" => some sum
  | "avg" => some avg
  | "count" => some count
  | "ratio" => some ratio
  | "min" => some min
  | "max" => some max
  | _ => none

/-- The `config` dictionary. -/
abbrev WidgetConfig := List (String × Json)

/-- `bool(value)` -/
def truthy : Json → Bool
  | .null => false
  | .bool b => b
  | .int n => n ≠ 0
  | .str s => s ≠ ""
  | .arr items => !items.isEmpty
  | .obj fields => !fields.isEmpty

/-- `camel_to_snake_key` -/
def camelToSnakeKey (value : String) : String :=
  match value.toList with
  | [] => ""
  | c :: rest => String.ofList (c.toLower :: rest.flatMap fun c =>
      if 'A' ≤ c ∧ c ≤ 'Z' then ['_', c.toLower] else [c.toLower])

/-- `config.get(key) or config.get(camel_to_snake_key(key))` -/
def configured (config : WidgetConfig) (key : String) : Option Json :=
  match (valueAt config key).filter truthy with
  | some value => some value
  | none => valueAt config (camelToSnakeKey key)

/-- The text under a key, `""` where there is none. -/
def configuredText (config : WidgetConfig) (key : String) : String :=
  match configured config key with
  | some (.str text) => text
  | _ => ""

def requiredText (widgetType : WidgetType) (config : WidgetConfig) (key : String) :
    Except Error String := do
  let value := configuredText config key
  rejectIf (value = "") (.value s!"Dashboard {widgetType.name} requires {key}")
  pure value

/-- `value or None` -/
def orNone (text : String) : Option String := if text = "" then none else some text

/-- `dashboard_widget_query_fields`: the dimensions with their date units, and the
key of the value. -/
def dashboardWidgetQueryFields (widgetType : WidgetType) (config : WidgetConfig) :
    Except Error (List (String × Option String) × String) :=
  match widgetType with
  | .metric => pure ([], "valueKey")
  | .barChart => do
      let x ← requiredText widgetType config "xKey"
      pure ([(x, none), (configuredText config "groupKey", none)], "yKey")
  | .lineChart | .areaChart => do
      let x ← requiredText widgetType config "xKey"
      pure ([(x, orNone (configuredText config "dateUnit")),
        (configuredText config "seriesKey", none)], "yKey")
  | .donutChart | .pieChart | .treemapChart => do
      let label ← requiredText widgetType config "labelKey"
      pure ([(label, none)], "valueKey")
  | .radialBarChart => pure ([(configuredText config "labelKey", none)], "valueKey")
  | .heatmapChart => do
      let x ← requiredText widgetType config "xKey"
      let y ← requiredText widgetType config "yKey"
      pure ([(x, none), (y, none)], "valueKey")
  | .table | .other _ =>
      .error (.value s!"Unsupported dashboard widget type: {widgetType.name}")

def dateUnits : List String := ["minute", "hour", "day", "month", "year"]

/-! ## The engine -/

/-- What SQL and Python make of values. -/
structure SqlEngine (Row Cell : Type) extends Runtime where
  /-- a column of a row, as the JSON cell that it is shown as -/
  column : String → Row → Cell
  null : Cell
  isNull : Cell → Bool
  /-- `TRY_CAST(… AS DOUBLE)` -/
  tryDouble : Cell → Option ℚ
  /-- `CAST(… AS VARCHAR)` -/
  varchar : Cell → Option String
  /-- `date_trunc(unit, TRY_CAST(… AS TIMESTAMP))` -/
  dateTrunc : String → Cell → Option Cell
  /-- `str(value)` of a cell -/
  text : Cell → String
  /-- `dashboard_bucket_datetime`, in microseconds -/
  bucketDatetime : Cell → Option Int
  /-- `dashboard_widget_filter_predicates` and the `where_sql` of the caller -/
  filterPredicates : WidgetConfig → Except Error (Row → Bool)
  /-- `str(value)` of a configured value -/
  str : Json → String
  /-- `int(value)` of a configured value -/
  int : Json → Option Int

section
variable {Row Cell : Type}

/-- `dashboard_window_days` -/
def dashboardWindowDays (engine : SqlEngine Row Cell) (config : WidgetConfig) :
    Except Error (Option Nat) :=
  match configured config "windowDays" with
  | none | some .null | some (.str "") => .ok none
  | some value =>
      match engine.int value with
      | none => .error (.value "Dashboard windowDays must be an integer")
      | some days =>
          if days < 1 ∨ 3650 < days then
            .error (.value "Dashboard windowDays must be between 1 and 3650")
          else .ok (some days.toNat)

/-! ## State -/

structure StateRow (Cell : Type) where
  /-- the values of the dimensions, in their order -/
  cells : List Cell
  count : Option Nat
  sum : Option ℚ
  min : Option ℚ
  max : Option ℚ

structure AggregateState (Cell : Type) where
  version : Nat := 1
  widgetType : WidgetType
  aggregation : Aggregation
  dimensionKeys : List String
  valueConfigKey : String
  valueAlias : String
  sourceConfig : WidgetConfig
  windowDays : Option Nat
  windowDimensionKey : Option String
  rows : List (StateRow Cell) := []

/-- The columns of a state row, as SQL computes them from a group. -/
inductive Measure (Row : Type)
  /-- `COUNT(*)` -/
  | rows
  /-- the rows with the numerator's value, and with the denominator's -/
  | ratio (numerator denominator : Row → Bool)
  /-- `COUNT`, `SUM`, `MIN` and `MAX` of a number -/
  | numeric (value : Row → Option ℚ)

/-- `SUM` of the rows with a property: `NULL` where there is no row. -/
def sumWhere (p : Row → Bool) (group : List Row) : Option Nat :=
  if group = [] then none else some (group.countP p)

/-- `SUM` of numbers: `NULL` where there is none. -/
def sumNumbers (numbers : List ℚ) : Option ℚ := if numbers = [] then none else some numbers.sum

def Measure.row (measure : Measure Row) (cells : List Cell) (group : List Row) : StateRow Cell :=
  match measure with
  | .rows => ⟨cells, some group.length, some group.length, none, none⟩
  | .ratio numerator denominator =>
      ⟨cells, sumWhere denominator group, (sumWhere numerator group).map fun n => (n : ℚ),
        none, none⟩
  | .numeric value =>
      let numbers := group.filterMap value
      ⟨cells, some numbers.length, sumNumbers numbers, numbers.min?, numbers.max?⟩

/-- A state query: `SELECT … FROM table WHERE … GROUP BY …`, and the state its
rows go into. -/
structure StateQuery (Row Cell : Type) where
  /-- the `GROUP BY` expressions -/
  group : Row → List Cell
  /-- the dimensions by their names, the last column of a name last -/
  shown : Row → List Cell
  /-- there are `GROUP BY` expressions -/
  grouped : Bool
  keep : Row → Bool
  measure : Measure Row
  template : AggregateState Cell

/-! ## `dashboard_aggregate_state_query` -/

/-- The expression of a dimension. -/
def dimensionValue (engine : SqlEngine Row Cell) (spec : String × Option String) (row : Row) :
    Cell :=
  match spec.2.filter fun unit => unit ∈ dateUnits with
  | some unit => (engine.dateTrunc unit (engine.column spec.1 row)).getD engine.null
  | none => engine.column spec.1 row

/-- The `IS NOT NULL` of a time dimension. -/
def dimensionKept (engine : SqlEngine Row Cell) (spec : String × Option String) (row : Row) :
    Bool :=
  match spec.2.filter fun unit => unit ∈ dateUnits with
  | some unit => (engine.dateTrunc unit (engine.column spec.1 row)).isSome
  | none => true

/-- `row.get(key)` of a fetched row: of two columns with one name the last. -/
def shownValue (engine : SqlEngine Row Cell) (specs : List (String × Option String)) (row : Row)
    (key : String) : Cell :=
  match specs.reverse.find? fun spec => spec.1 = key with
  | some spec => dimensionValue engine spec row
  | none => engine.null

def timeDimension (spec : String × Option String) : Bool :=
  spec.2.any fun unit => unit ∈ dateUnits

/-- `dashboard_ratio_values` -/
def dashboardRatioValues (config : WidgetConfig) : Except Error (String × String) := do
  let numerator := configuredText config "numeratorValue"
  let denominator := configuredText config "denominatorValue"
  rejectIf (numerator = "") (.value "Dashboard ratio requires numeratorValue")
  rejectIf (denominator = "") (.value "Dashboard ratio requires denominatorValue")
  pure (numerator, denominator)

/-- `str(config.get("aggregation") or "sum").lower()`, looked up. -/
def configuredAggregation (engine : SqlEngine Row Cell) (config : WidgetConfig) :
    Except Error Aggregation :=
  let name := engine.lower (((valueAt config "aggregation").filter truthy).elim "sum" engine.str)
  orReject (Aggregation.ofName name) (.value ("Unsupported dashboard aggregation: " ++ name))

/-- `require_dashboard_column` -/
def requireDashboardColumn (columns : List String) (column : String) : Except Error Unit :=
  rejectIf (column ∉ columns) (.value ("Dashboard column does not exist: " ++ column))

def requireColumns (columns : List String) : List (String × Option String) → Except Error Unit
  | [] => .ok ()
  | spec :: specs => do
      requireDashboardColumn columns spec.1
      requireColumns columns specs

/-- The measured column; `count` needs none. -/
def configuredValueKey (columns : List String) (widgetType : WidgetType) (config : WidgetConfig)
    (valueConfigKey : String) (aggregation : Aggregation) : Except Error String :=
  let value := configuredText config valueConfigKey
  if aggregation = .count then pure value
  else do
    rejectIf (value = "") (.value s!"Dashboard {widgetType.name} requires {valueConfigKey}")
    requireDashboardColumn columns value
    pure value

def windowDaysOf (engine : SqlEngine Row Cell) (config : WidgetConfig) (timed : Bool) :
    Except Error (Option Nat) :=
  if timed then dashboardWindowDays engine config else pure none

def valueAliasOf (aggregation : Aggregation) (dimensionKeys : List String) (value : String) :
    String :=
  if aggregation = .count ∨ value ∈ dimensionKeys then "__asklake_widget_value" else value

def measureOf (engine : SqlEngine Row Cell) (config : WidgetConfig) (aggregation : Aggregation)
    (value : String) : Except Error (Measure Row) :=
  match aggregation with
  | .count => pure .rows
  | .ratio => do
      let (numerator, denominator) ← dashboardRatioValues config
      pure (.ratio (fun row => engine.varchar (engine.column value row) = some numerator)
        fun row => engine.varchar (engine.column value row) = some denominator)
  | .sum | .avg | .min | .max =>
      pure (.numeric fun row => engine.tryDouble (engine.column value row))

def dashboardAggregateStateQuery (engine : SqlEngine Row Cell) (columns : List String)
    (widgetType : WidgetType) (config : WidgetConfig) : Except Error (StateQuery Row Cell) := do
  let aggregation ← configuredAggregation engine config
  let (fields, valueConfigKey) ← dashboardWidgetQueryFields widgetType config
  let specs := fields.filter fun spec => spec.1 ≠ ""
  requireColumns columns specs
  let dimensionKeys := specs.map Prod.fst
  let value ← configuredValueKey columns widgetType config valueConfigKey aggregation
  let measure ← measureOf engine config aggregation value
  let predicate ← engine.filterPredicates config
  let timed := specs.any timeDimension
  let windowDays ← windowDaysOf engine config timed
  pure
    { group := fun row => specs.map fun spec => dimensionValue engine spec row
      shown := fun row => dimensionKeys.map (shownValue engine specs row)
      grouped := !specs.isEmpty
      keep := fun row => predicate row && specs.all fun spec => dimensionKept engine spec row
      measure
      template :=
        { widgetType, aggregation, dimensionKeys, valueConfigKey
          valueAlias := valueAliasOf aggregation dimensionKeys value
          sourceConfig := config
          windowDays
          windowDimensionKey := if timed then dimensionKeys.head? else none } }

/-! ## The rows of a query -/

variable [DecidableEq Cell]

def maxDashboardIncrementalGroups : Nat := 10000

namespace StateQuery

def kept (query : StateQuery Row Cell) (table : List Row) : List Row := table.filter query.keep

/-- The groups of a table; without `GROUP BY` there is one, also of no rows. -/
def groups (query : StateQuery Row Cell) (table : List Row) : List (List Row) :=
  if query.grouped then
    (((query.kept table).map query.group).dedup).map fun key =>
      (query.kept table).filter fun row => query.group row = key
  else [query.kept table]

/-- The row of a group, with the dimensions of its rows. -/
def groupRow (query : StateQuery Row Cell) (group : List Row) : StateRow Cell :=
  query.measure.row ((group.head?.map query.shown).getD []) group

/-- `read_aggregate_state` may give this state for the table: the rows of the
query in some order, and not too many. -/
def Yields (query : StateQuery Row Cell) (table : List Row) (state : AggregateState Cell) : Prop :=
  state = { query.template with rows := state.rows } ∧
    state.rows.Perm ((query.groups table).map query.groupRow) ∧
    state.rows.length ≤ maxDashboardIncrementalGroups

end StateQuery

/-! ## `prune_dashboard_aggregate_state` -/

/-- The date of a row's bucket. -/
def bucketOf (engine : SqlEngine Row Cell) (state : AggregateState Cell) (cells : List Cell) :
    Option Int :=
  ((state.dimensionKeys.zip cells).find? fun item =>
    item.1 = strip (state.windowDimensionKey.getD "")).bind fun item =>
      engine.bucketDatetime item.2

def dayMicroseconds : Int := 86400000000

def pruneDashboardAggregateState (engine : SqlEngine Row Cell) (state : AggregateState Cell) :
    AggregateState Cell :=
  let days := state.windowDays.getD 0
  if days < 1 ∨ strip (state.windowDimensionKey.getD "") = "" ∨ state.rows = [] then state
  else
    { state with
      rows := window (fun row => bucketOf engine state row.cells) ((days - 1) * dayMicroseconds)
        state.rows }

/-! ## `merge_dashboard_aggregate_states` -/

/-- `numeric_state` -/
def numericState (value : Option ℚ) : ℚ := value.getD 0

def stateMin : Option ℚ → Option ℚ → Option ℚ
  | some a, some b => some (min a b)
  | a, b => a.or b

def stateMax : Option ℚ → Option ℚ → Option ℚ
  | some a, some b => some (max a b)
  | a, b => a.or b

/-- `merge_row`, for a row whose group is there. -/
def mergeRow (row existing : StateRow Cell) : StateRow Cell :=
  let existingCount := existing.count.getD 0
  let deltaCount := row.count.getD 0
  { existing with
    count := some (existingCount + deltaCount)
    sum :=
      if 0 < existingCount + deltaCount then some (numericState existing.sum + numericState row.sum)
      else none
    min := stateMin existing.min row.min
    max := stateMax existing.max row.max }

/-- The rows of both states by the identity of their groups; the JSON text of
the cells is one for each list of cells. -/
def mergedRows (current delta : List (StateRow Cell)) : List (List Cell × StateRow Cell) :=
  collect StateRow.cells id mergeRow (current ++ delta)

def sameIdentity (current delta : AggregateState Cell) : Prop :=
  current.version = delta.version ∧ current.widgetType = delta.widgetType ∧
    current.aggregation = delta.aggregation ∧ current.dimensionKeys = delta.dimensionKeys ∧
    current.valueConfigKey = delta.valueConfigKey ∧ current.valueAlias = delta.valueAlias

instance (current delta : AggregateState Cell) : Decidable (sameIdentity current delta) :=
  inferInstanceAs (Decidable (_ ∧ _))

def mergeDashboardAggregateStates (engine : SqlEngine Row Cell)
    (current delta : AggregateState Cell) : Option (AggregateState Cell) :=
  if ¬ sameIdentity current delta then none
  else
    let merged := mergedRows current.rows delta.rows
    if maxDashboardIncrementalGroups < merged.length then none
    else
      some (pruneDashboardAggregateState engine { current with rows := merged.map Prod.snd })

/-! ## `dashboard_result_from_aggregate_state` -/

/-- `round(value, 2)`: to the nearest, and a tie to the even one. -/
def roundTwo (value : ℚ) : ℚ :=
  let low := ⌊value * 100⌋
  let rest := value * 100 - low
  let rounded := if rest < 1 / 2 then low else if 1 / 2 < rest then low + 1
    else if low % 2 = 0 then low else low + 1
  rounded / 100

/-- The shown value of a group. -/
def shownNumber (aggregation : Aggregation) (row : StateRow Cell) : Option ℚ :=
  let count := row.count.getD 0
  let total := numericState row.sum
  match aggregation with
  | .count => some count
  | .avg => if count ≠ 0 then some (total / count) else none
  | .ratio => if count ≠ 0 then some (roundTwo (100 * total / count)) else none
  | .min => row.min
  | .max => row.max
  | .sum => row.sum

/-- A shown group: its cells and its value. -/
def shownRow (aggregation : Aggregation) (row : StateRow Cell) : List Cell × Option ℚ :=
  (row.cells, shownNumber aggregation row)

/-- `sortable_dashboard_value`, compared as tuples are. -/
def cellsLe (engine : SqlEngine Row Cell) : List Cell → List Cell → Bool
  | [], _ => true
  | _ :: _, [] => false
  | a :: as, b :: bs =>
      let left := if engine.isNull a then (1, "") else (0, engine.text a)
      let right := if engine.isNull b then (1, "") else (0, engine.text b)
      if left = right then cellsLe engine as bs
      else left.1 < right.1 || (left.1 == right.1 && left.2 < right.2)

/-- `sortable_dashboard_number`, largest first. -/
def valueGe : Option ℚ → Option ℚ → Bool
  | _, none => true
  | none, some _ => false
  | some a, some b => b ≤ a

def dashboardChartRowLimit : Nat := 500

/-- The order of the chart, and its cut. -/
def arrange (engine : SqlEngine Row Cell) (widgetType : WidgetType) (dimensionKeys : List String)
    (data : List (List Cell × Option ℚ)) : List (List Cell × Option ℚ) :=
  if dimensionKeys = [] then data
  else
    let sorted :=
      if widgetType = .lineChart ∨ widgetType = .areaChart ∨ widgetType = .heatmapChart then
        data.insertionSort fun a b => cellsLe engine a.1 b.1 = true
      else data.insertionSort fun a b => valueGe a.2 b.2 = true
    if widgetType = .lineChart ∨ widgetType = .areaChart then
      sorted.drop (sorted.length - dashboardChartRowLimit)
    else sorted.take dashboardChartRowLimit

structure WidgetResult (Cell : Type) where
  config : WidgetConfig
  /-- the names of a data row: those of its cells, and that of its value -/
  dimensionKeys : List String
  valueAlias : String
  data : List (List Cell × Option ℚ)

/-- `d[key] = value` -/
def setItem (key : String) (value : Json) (config : WidgetConfig) : WidgetConfig :=
  upsert key value (fun _ => value) config

def runtimeConfig (state : AggregateState Cell) : WidgetConfig :=
  let config := state.sourceConfig
  let config := if state.aggregation = .count then setItem "aggregation" (.str "sum") config
    else config
  let named := match valueAt state.sourceConfig state.valueConfigKey with
    | some (.str text) => decide (text = state.valueAlias)
    | _ => false
  let config := if named then config else setItem state.valueConfigKey (.str state.valueAlias) config
  setItem "sourceConfig" (.obj state.sourceConfig)
    (setItem "dataMode" (.str "server_aggregated") config)

def dashboardResultFromAggregateState (engine : SqlEngine Row Cell) (state : AggregateState Cell) :
    WidgetResult Cell :=
  let state := pruneDashboardAggregateState engine state
  { config := runtimeConfig state
    dimensionKeys := state.dimensionKeys
    valueAlias := state.valueAlias
    data := arrange engine state.widgetType state.dimensionKeys
      (state.rows.map (shownRow state.aggregation)) }

/-- `dashboard_widget_supports_incremental_merge` -/
def dashboardWidgetSupportsIncrementalMerge (engine : SqlEngine Row Cell) (widgetType : WidgetType)
    (config : WidgetConfig) : Bool :=
  widgetType ≠ .table &&
    engine.lower (strip (((valueAt config "aggregation").filter truthy).elim "sum" engine.str)) ∈
      ["count", "sum", "avg", "ratio"]

end

end AskLake.Dashboard

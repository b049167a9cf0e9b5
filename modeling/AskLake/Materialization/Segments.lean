/-
# `AskLake.Materialization.Segments` — the storage a dashboard reads

The dashboard cuts the run history with a reader of its own, and reads what the runs it keeps
have stored, oldest first:

    runs    newest first, up to the newest successful snapshot
    segments    (location, format) of the runs that have a usable location, each pair once

Where no run of the cut has a usable location, it reads the dataset's own.

`str.lower` and `str.casefold` differ on some letters (`ſ`, `ß`), so that the two readers agree on
statuses that both mappings read alike.
-/
import AskLake.Materialization.Projection

namespace AskLake.Materialization

open AskLake.Lib AskLake.Python

variable (host : ProjectionHost)

/-! ## Reading fields -/

/-- `dataset_value(value, *keys)`; a dataset row is read by its attributes, as an object by its
keys. -/
def datasetValue (value : Value) : List String → Value
  | [] => .null
  | key :: keys =>
      match value.get key with
      | .null => datasetValue value keys
      | found => found

/-- `normalized_text` -/
def normalizedText (value : Value) : String := host.lower (strip (host.textOf value))

/-- `clean_text` -/
def cleanText (value : Value) : String := strip (host.textOf value)

/-- `Path(path).name` -/
def pathName (path : Chars) : Chars :=
  (((segments path).filter fun part => part ≠ ['.']).getLast?).getD []

/-- `Path(path).suffix`: from the last dot of the name, where something stands on both sides. -/
def pathSuffix (path : Chars) : Chars :=
  let extension := ((pathName path).reverse.takeWhile (· ≠ '.')).reverse
  if extension = [] ∨ (pathName path).length ≤ extension.length + 1 then [] else '.' :: extension

/-- `normalize_storage_format` -/
def normalizeStorageFormat (value : Value) (storageLocation : String) : Except Error String :=
  let normalized := normalizedText host value
  if normalized = "ndjson" then .ok "jsonl"
  else if normalized ≠ "" then .ok normalized
  else
    match urlparse storageLocation.toList with
    | none => .error (.value "Invalid IPv6 URL")
    | some url =>
        let lowered := host.lower (String.ofList (pathSuffix url.path))
        let suffix := String.ofList (lowered.toList.dropWhile (· = '.'))
        .ok (if suffix = "ndjson" then "jsonl" else suffix)

/-! ## The dashboard's cut -/

/-- `canonical_materialization_mode` of the dashboard -/
def dashboardMode (run : Value) : MaterializationMode :=
  let explicitMode := normalizedText host ((datasetValue run ["materializationMode"]).orElse
    (datasetValue run ["materialization_mode"]))
  if explicitMode ≠ "" then
    if explicitMode = "snapshot" then .snapshot
    else if explicitMode = "delta" then .delta
    else .snapshot
  else
    let sourceKind := normalizedText host ((datasetValue run ["sourceKind"]).orElse
      (datasetValue run ["source_kind"]))
    if sourceKind = "kafka" then .delta else .snapshot

/-- The first loop of `dataset_storage_segments`. -/
def dashboardActiveRuns : List Value → List Value
  | [] => []
  | run :: rest =>
      if normalizedText host (datasetValue run ["status"]) ≠ "success" then
        dashboardActiveRuns rest
      else if dashboardMode host run = .snapshot then [run]
      else run :: dashboardActiveRuns rest

/-! ## The segments -/

/-- `(location, storage_format)` -/
abbrev Segment := String × String

def usable (segment : Segment) : Bool :=
  segment.1 ≠ "" && segment.1 ≠ "-" && segment.1 ≠ "pending"

def segmentOf (fallbackFormat : String) (run : Value) : Except Error Segment := do
  let location := cleanText host (datasetValue run ["storage_location", "storageLocation"])
  let storageFormat ← normalizeStorageFormat host
    ((datasetValue run ["storage_format", "storageFormat"]).orElse (.str fallbackFormat)) location
  return (location, storageFormat)

/-- `if location and location not in {"-", "pending"} and segment not in segments` -/
def addSegment (segments : List Segment) (segment : Segment) : List Segment :=
  if usable segment = true ∧ segment ∉ segments then segments ++ [segment] else segments

/-- The dataset's own location, where it is usable. -/
def ownSegments (dataset : Value) (fallbackFormat : String) : Except Error (List Segment) :=
  let fallbackLocation :=
    cleanText host (datasetValue dataset ["storage_location", "storageLocation"])
  if fallbackLocation = "" ∨ fallbackLocation = "-" ∨ fallbackLocation = "pending" then .ok []
  else do
    let storageFormat ← normalizeStorageFormat host (.str fallbackFormat) fallbackLocation
    return [(fallbackLocation, storageFormat)]

def fallbackFormatOf (dataset : Value) : Except Error String :=
  normalizeStorageFormat host (datasetValue dataset ["storage_format", "storageFormat"]) ""

/-- `dataset_storage_segments` -/
def datasetStorageSegments (dataset : Value) : Except Error (List Segment) := do
  let fallbackFormat ← fallbackFormatOf host dataset
  let activeRuns :=
    match datasetValue dataset ["materialization_runs", "materializationRuns"] with
    | .arr runs => dashboardActiveRuns host runs
    | _ => []
  let found ← activeRuns.reverse.foldlM (fun found run => do
    return addSegment found (← segmentOf host fallbackFormat run)) []
  if found ≠ [] then return found
  else ownSegments host dataset fallbackFormat

/-! ## One cut -/

variable {host} {run : Run} {runs : List Run}

theorem datasetValue_one (run : Run) (key : String) :
    datasetValue (.obj run) [key] = run.get key := by
  rw [datasetValue]
  split
  · next hnull => exact hnull.symm
  · rfl

/-- Both mappings find success in the status, or none does. -/
def StatusReadAlike (host : ProjectionHost) (run : Run) : Prop :=
  normalizedText host (run.get "status") = "success" ↔ folded host (run.get "status") = "success"

theorem normalizedText_empty {value : Value} :
    normalizedText host value = "" ↔ folded host value = "" :=
  (host.lower_empty _).trans (host.casefold_empty _).symm

theorem normalizedText_delta {value : Value} :
    normalizedText host value = "delta" ↔ folded host value = "delta" := host.fold_delta _

theorem normalizedText_kafka {value : Value} :
    normalizedText host value = "kafka" ↔ folded host value = "kafka" := host.fold_kafka _

/-- The two readers of the mode agree. -/
theorem dashboardMode_eq (run : Run) :
    dashboardMode host (.obj run) = canonicalMaterializationMode host run := by
  have hsnapshot : ∀ text : String,
      (if text = "snapshot" then MaterializationMode.snapshot
        else if text = "delta" then .delta else .snapshot) =
        if text = "delta" then .delta else .snapshot := by
    intro text
    split
    · next htext => rw [htext]; rfl
    · rfl
  simp only [dashboardMode, canonicalMaterializationMode, datasetValue_one, hsnapshot]
  simp only [ne_eq, normalizedText_empty, normalizedText_delta, normalizedText_kafka]

/-- The dashboard cuts the history where the projection does. -/
theorem dashboardActiveRuns_eq (h : ∀ run ∈ runs, StatusReadAlike host run) :
    dashboardActiveRuns host (runs.map .obj) =
      (activeMaterializationRuns host runs).map .obj := by
  induction runs with
  | nil => rfl
  | cons run rest ih =>
      obtain ⟨hrun, hrest⟩ := List.forall_mem_cons.mp h
      rw [List.map_cons, dashboardActiveRuns, activeMaterializationRuns, datasetValue_one,
        dashboardMode_eq, ih hrest]
      by_cases hstatus : folded host (run.get "status") = "success"
      · rw [if_neg (not_not.mpr (hrun.mpr hstatus)), if_neg (not_not.mpr hstatus)]
        split
        · rfl
        · rfl
      · rw [if_pos (mt hrun.mp hstatus), if_pos hstatus]

/-! ## One list of segments -/

/-- What a dashboard is to read of these runs: the pairs of usable location and format, oldest
first and each once, or the dataset's own location where there are none. -/
def segmentsOfRuns (host : ProjectionHost) (dataset : Value) (active : List Run) :
    Except Error (List Segment) := do
  let fallbackFormat ← fallbackFormatOf host dataset
  let pairs ← active.reverse.mapM fun run => segmentOf host fallbackFormat (.obj run)
  if pairs.any usable then return (pairs.filter usable).eraseDups
  else ownSegments host dataset fallbackFormat

theorem addSegment_of_usable {found : List Segment} {segment : Segment} :
    addSegment found segment =
      if usable segment then (if segment ∈ found then found else found ++ [segment])
      else found := by
  rw [addSegment]
  by_cases husable : usable segment = true
  · by_cases hmem : segment ∈ found
    · simp [husable, hmem]
    · simp [husable, hmem]
  · simp [husable]

theorem removeAll_singleton (segment : Segment) (kept : List Segment) :
    ([segment].removeAll kept).eraseDups = if segment ∈ kept then [] else [segment] := by
  by_cases hmem : segment ∈ kept
  · simp [List.removeAll, hmem]
  · simp [List.removeAll, hmem, List.eraseDups_cons]

/-- The loop keeps each usable pair where it comes first. -/
theorem foldl_addSegment (pairs : List Segment) :
    pairs.foldl addSegment [] = (pairs.filter usable).eraseDups := by
  induction pairs using List.reverseRecOn with
  | nil => rfl
  | append_singleton pairs segment ih =>
      rw [List.foldl_append, ih, List.foldl_cons, List.foldl_nil, addSegment_of_usable,
        List.filter_append]
      by_cases husable : usable segment = true
      · rw [if_pos husable, List.filter_cons_of_pos husable, List.filter_nil,
          List.eraseDups_append, removeAll_singleton]
        simp only [List.mem_eraseDups]
        split
        · rw [List.append_nil]
        · rfl
      · rw [if_neg husable, List.filter_cons_of_neg husable, List.filter_nil, List.append_nil]

/-- A loop that reads each run and adds what it read. -/
theorem foldlM_addSegment (fallbackFormat : String) (active : List Value) :
    active.foldlM (fun found run => do
        return addSegment found (← segmentOf host fallbackFormat run)) [] = do
      let pairs ← active.mapM (segmentOf host fallbackFormat)
      return (pairs.filter usable).eraseDups := by
  have hgrow : ∀ start : List Segment, active.foldlM (fun found run => do
      return addSegment found (← segmentOf host fallbackFormat run)) start = do
        let pairs ← active.mapM (segmentOf host fallbackFormat)
        return pairs.foldl addSegment start := by
    induction active with
    | nil => exact fun start => rfl
    | cons run active ih =>
        intro start
        rw [List.foldlM_cons, List.mapM_cons]
        cases segmentOf host fallbackFormat run with
        | error e => rfl
        | ok segment =>
            refine (ih (addSegment start segment)).trans ?_
            cases active.mapM (segmentOf host fallbackFormat) with
            | error e => rfl
            | ok pairs => rfl
  rw [hgrow]
  simp only [foldl_addSegment]

theorem eraseDups_ne_nil {pairs : List Segment} :
    (pairs.filter usable).eraseDups ≠ [] ↔ pairs.any usable = true := by
  rw [List.any_eq_true, ne_eq, List.eq_nil_iff_forall_not_mem]
  simp only [List.mem_eraseDups, List.mem_filter, not_forall, not_not]

/-- The dashboard reads the runs that the projection counts. -/
theorem datasetStorageSegments_eq {dataset : Value}
    (hruns : datasetValue dataset ["materialization_runs", "materializationRuns"] =
      .arr (runs.map .obj))
    (h : ∀ run ∈ runs, StatusReadAlike host run) :
    datasetStorageSegments host dataset =
      segmentsOfRuns host dataset (activeMaterializationRuns host runs) := by
  rw [datasetStorageSegments, segmentsOfRuns, hruns]
  refine congrArg _ (funext fun fallbackFormat => ?_)
  dsimp only
  have hread : ((activeMaterializationRuns host runs).reverse.map Value.obj).mapM
      (segmentOf host fallbackFormat) = (activeMaterializationRuns host runs).reverse.mapM
        fun run => segmentOf host fallbackFormat (.obj run) := List.mapM_map
  rw [dashboardActiveRuns_eq h, ← List.map_reverse, foldlM_addSegment, hread]
  cases (activeMaterializationRuns host runs).reverse.mapM
      fun run => segmentOf host fallbackFormat (.obj run) with
  | error e => rfl
  | ok pairs =>
      show (if (pairs.filter usable).eraseDups ≠ [] then
          (Except.ok (pairs.filter usable).eraseDups : Except Error (List Segment))
        else ownSegments host dataset fallbackFormat) =
        if pairs.any usable then .ok (pairs.filter usable).eraseDups
        else ownSegments host dataset fallbackFormat
      simp only [eraseDups_ne_nil]

/-! ## One meaning -/

/-- What a dashboard reads of a run list, next to what the projection counts. -/
structure SegmentsLaw (host : ProjectionHost) (dataset : Value) (runs : List Run) : Prop where
  read : datasetStorageSegments host dataset =
    segmentsOfRuns host dataset (activeMaterializationRuns host runs)
  /-- The rows that are counted are those of the runs that are read. -/
  counted : ∀ total, aggregateMaterializationRuns host runs = .ok total →
    (total.activeRunIds = (dashboardActiveRuns host (runs.map .obj)).map fun run =>
      host.textOf (run.get "runId")) ∧
    ∃ counts, (dashboardActiveRuns host (runs.map .obj)).mapM (fun run =>
      parseCountValue host (run.get "rowCount")) = .ok counts ∧ total.rowCount = counts.sum

theorem counts_of_aggregate {total : Aggregate}
    (h : aggregateMaterializationRuns host runs = .ok total) :
    (total.activeRunIds = (activeMaterializationRuns host runs).map fun run =>
      host.textOf (run.get "runId")) ∧
    ∃ counts, (activeMaterializationRuns host runs).mapM (fun run =>
      parseCountValue host (run.get "rowCount")) = .ok counts ∧ total.rowCount = counts.sum := by
  rw [aggregateMaterializationRuns, bind_eq_ok] at h
  obtain ⟨counts, hcounts, h⟩ := h
  obtain ⟨sizes, _, h⟩ := bind_eq_ok.mp h
  obtain rfl := pure_eq_ok.mp h
  exact ⟨rfl, counts, hcounts, rfl⟩

/-- A run history is a set with one meaning: it is the same for every order in which its runs
arrive, an upsert replaces just the runs with an identity of the new one, and what is counted is
what is read. -/
theorem materialization_history_law (host : ProjectionHost) :
    (∀ runs, DistinctRuns host runs → HistoryLaw host runs) ∧
    (∀ previousRuns nextRun, UpsertLaw host previousRuns nextRun) ∧
    ∀ dataset runs, datasetValue dataset ["materialization_runs", "materializationRuns"] =
        .arr (runs.map .obj) →
      (∀ run ∈ runs, StatusReadAlike host run) → SegmentsLaw host dataset runs := by
  refine ⟨fun _ => history_law, upsert_law host, fun dataset runs hruns halike => ?_⟩
  refine ⟨datasetStorageSegments_eq hruns halike, fun total htotal => ?_⟩
  obtain ⟨hids, counts, hcounts, hsum⟩ := counts_of_aggregate htotal
  rw [dashboardActiveRuns_eq halike, List.map_map, List.mapM_map]
  exact ⟨hids, counts, hcounts, hsum⟩

/-! ## Where more or less is read -/

/-- The segments are the distinct usable locations of the active runs, oldest first. -/
def ReadsActiveLocations (host : ProjectionHost) (dataset : Value) (runs : List Run) : Prop :=
  ∀ segments, datasetStorageSegments host dataset = .ok segments →
    segments.map Prod.fst =
      (((activeMaterializationRuns host runs).reverse.map fun run =>
        cleanText host (datasetValue (.obj run) ["storage_location", "storageLocation"])).filter
          fun location => usable (location, "")).eraseDups

/-- An upsert leaves no other run of the Kafka snapshot. -/
def ReplacesSnapshot (host : ProjectionHost) (previousRuns : Value) (nextRun : Run) : Prop :=
  ∀ history, upsertMaterializationRun host previousRuns nextRun = .ok history →
    ∀ run ∈ history, kafkaSnapshotIdOf host run = kafkaSnapshotIdOf host nextRun →
      run.get "rowCount" = nextRun.get "rowCount"

theorem asciiLower_empty (s : String) : asciiLower s = "" ↔ s = "" := by
  constructor
  · intro h
    have hmap : s.toList.map Char.toLower = [] := by
      rw [← String.toList_ofList (l := s.toList.map Char.toLower)]
      exact congrArg String.toList h
    exact String.toList_inj.mp (List.map_eq_nil_iff.mp hmap)
  · rintro rfl
    rfl

/-- A host for ASCII text without dates. -/
def asciiHost : ProjectionHost where
  str _ := ""
  float _ := .refused
  compilePattern _ := .done ()
  lower := asciiLower
  upper := asciiUpper
  casefold := asciiLower
  lower_ascii := asciiLower_agrees
  upper_ascii := asciiUpper_agrees
  fromIsoFormat _ := none
  intOfFloat _ := .ok 0
  isDigit := Char.isDigit
  intOfDigits _ := .ok 0
  lower_empty := asciiLower_empty
  casefold_empty := asciiLower_empty
  fold_delta _ := Iff.rfl
  fold_kafka _ := Iff.rfl

/-- A dataset whose history holds no run. -/
def emptyHistory : Value := .obj [("storageLocation", .str "s3://lake/orders.parquet")]

def deltaRun (storageFormat : String) : Run :=
  [("runId", .str storageFormat), ("status", .str "success"), ("materializationMode", .str "delta"),
    ("storageLocation", .str "s3://lake/orders"), ("storageFormat", .str storageFormat)]

/-- A dataset with two runs that stored at one location. -/
def oneLocation : Value :=
  .obj [("materializationRuns", .arr [.obj (deltaRun "csv"), .obj (deltaRun "parquet")])]

def snapshotRun (runId : String) (rowCount : Int) : Run :=
  [("runId", .str runId), ("kafkaSnapshot", .obj [("snapshotId", .str "snapshot-1")]),
    ("rowCount", .int rowCount)]

/-- The dataset's own location is read where no run is active, a location with two formats is
read twice, and a run without a run id replaces nothing. -/
theorem segments_of_no_run :
    ¬ ReadsActiveLocations asciiHost emptyHistory [] ∧
    ¬ ReadsActiveLocations asciiHost oneLocation [deltaRun "csv", deltaRun "parquet"] ∧
    ¬ ReplacesSnapshot asciiHost (stored [snapshotRun "run-1" 10]) (snapshotRun "" 12) := by
  refine ⟨fun h => ?_, fun h => ?_, fun h => ?_⟩
  · have hread : datasetStorageSegments asciiHost emptyHistory =
        .ok [("s3://lake/orders.parquet", "parquet")] := by decide +kernel
    exact absurd (h _ hread) (by decide +kernel)
  · have hread : datasetStorageSegments asciiHost oneLocation =
        .ok [("s3://lake/orders", "parquet"), ("s3://lake/orders", "csv")] := by decide +kernel
    exact absurd (h _ hread) (by decide +kernel)
  · have hkept : upsertMaterializationRun asciiHost (stored [snapshotRun "run-1" 10])
        (snapshotRun "" 12) = .ok [snapshotRun "run-1" 10] := rfl
    exact nomatch h _ hkept _ List.mem_cons_self rfl

end AskLake.Materialization

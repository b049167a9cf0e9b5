/-
# `AskLake.Materialization.Projection` — the run history of a dataset

A dataset keeps its materialization runs, newest first.  A run has up to three identities:

    runId                          every run that is kept has one
    kafkaSnapshot.snapshotId       where it came from a Kafka snapshot
    icebergSnapshotId              where it was committed to Iceberg

`upsertMaterializationRun` puts a run in the place of all runs it shares an identity with;
`activeMaterializationRuns` cuts the history below its newest successful snapshot.
-/
import AskLake.Lib.SortedBy
import AskLake.Python.Value
import Mathlib.Data.Prod.Lex
import Mathlib.Data.String.Basic
import Mathlib.Algebra.Ring.Int.Defs

namespace AskLake.Materialization

open AskLake.Lib AskLake.Python

/-- A `datetime`: microseconds since year 1 on its clock, and what the clock is ahead of UTC. -/
structure DateTime where
  wall : Int
  offset : Option Int

/-- The microsecond after `datetime.max`. -/
def yearTenThousand : Int := 315537897600000000

/-- The interpreter and its library. -/
structure ProjectionHost extends Host where
  /-- `str.casefold` -/
  casefold : String → String
  /-- `datetime.fromisoformat(text)`, `none` for a `ValueError` -/
  fromIsoFormat : String → Option DateTime
  /-- `int(x)` -/
  intOfFloat : Float → Except Error Int
  /-- `str.isdigit` of one character -/
  isDigit : Char → Bool
  /-- `int(digits)` -/
  intOfDigits : String → Except Error Int
  lower_empty : ∀ s, lower s = "" ↔ s = ""
  casefold_empty : ∀ s, casefold s = "" ↔ s = ""
  /-- No character outside ASCII is folded to a letter of these two words by one of the mappings
  only. -/
  fold_delta : ∀ s, lower s = "delta" ↔ casefold s = "delta"
  fold_kafka : ∀ s, lower s = "kafka" ↔ casefold s = "kafka"

/-- `dict[str, Any]` -/
abbrev Run := List (String × Value)

/-- `run.get(name)` -/
def Run.get (run : Run) (name : String) : Value := (Value.obj run).get name

variable (host : ProjectionHost)

/-! ## Modes and active runs -/

inductive MaterializationMode
  | snapshot
  | delta
  deriving DecidableEq

/-- `str(value or "").strip().casefold()` -/
def folded (value : Value) : String := host.casefold (strip (host.textOf value))

/-- `canonical_materialization_mode` -/
def canonicalMaterializationMode (run : Run) : MaterializationMode :=
  let explicitMode :=
    folded host ((run.get "materializationMode").orElse (run.get "materialization_mode"))
  if explicitMode ≠ "" then
    if explicitMode = "delta" then .delta else .snapshot
  else
    let sourceKind := folded host ((run.get "sourceKind").orElse (run.get "source_kind"))
    if sourceKind = "kafka" then .delta else .snapshot

/-- `active_materialization_runs` -/
def activeMaterializationRuns : List Run → List Run
  | [] => []
  | run :: rest =>
      if folded host (run.get "status") ≠ "success" then activeMaterializationRuns rest
      else if canonicalMaterializationMode host run = .snapshot then [run]
      else run :: activeMaterializationRuns rest

/-- `parse_count_value` -/
def parseCountValue : Value → Except Error Int
  | .bool _ | .null => .ok 0
  | .int n => .ok (max n 0)
  | .float x => return max (← host.intOfFloat x) 0
  | value =>
      let digits := String.ofList ((host.text value).toList.filter host.isDigit)
      if digits = "" then .ok 0 else host.intOfDigits digits

structure Aggregate where
  activeRunIds : List String
  latestRunId : Value
  latestStorageFormat : Value
  latestStorageLocation : Value
  lastUpdated : Value
  rowCount : Int
  storageSizeBytes : Int

/-- `aggregate_materialization_runs` -/
def aggregateMaterializationRuns (runs : List Run) : Except Error Aggregate := do
  let activeRuns := activeMaterializationRuns host runs
  let latest (name : String) : Value := activeRuns.head?.elim .null fun run => run.get name
  let counts ← activeRuns.mapM fun run => parseCountValue host (run.get "rowCount")
  let sizes ← activeRuns.mapM fun run => parseCountValue host (run.get "storageSizeBytes")
  return { activeRunIds := activeRuns.map fun run => host.textOf (run.get "runId"),
           latestRunId := latest "runId",
           latestStorageFormat := latest "storageFormat",
           latestStorageLocation := latest "storageLocation",
           lastUpdated := latest "createdAt",
           rowCount := counts.sum,
           storageSizeBytes := sizes.sum }

/-! ## The order of runs -/

/-- `text.replace("Z", "+00:00")` -/
def zuluOffset (text : String) : String :=
  String.ofList (text.toList.flatMap fun c => if c = 'Z' then "+00:00".toList else [c])

/-- `parse_materialization_timestamp`, in microseconds since `datetime.min`; `astimezone` raises
where the instant in UTC is outside the years 1 to 9999. -/
def parseMaterializationTimestamp (value : Value) : Except Error Int :=
  let text := strip (host.textOf value)
  if text = "" then .ok 0
  else
    let text := if " UTC".toList <:+ (host.upper text).toList then
      String.ofList (text.toList.take (text.toList.length - 4)) ++ "+00:00" else text
    match host.fromIsoFormat (zuluOffset text) with
    | none => .ok 0
    | some ⟨wall, none⟩ => .ok wall
    | some ⟨wall, some offset⟩ =>
        if 0 ≤ wall - offset ∧ wall - offset < yearTenThousand then .ok (wall - offset)
        else .error (.runtime "date value out of range")

/-- `(timestamp, snapshot_id, run_id)` -/
abbrev SortKey := Int ×ₗ String ×ₗ String

/-- `materialization_run_sort_key` -/
def materializationRunSortKey (run : Run) : Except Error SortKey := do
  let timestamp ← parseMaterializationTimestamp host
    ((((run.get "icebergCommittedAt").orElse (run.get "iceberg_committed_at")).orElse
      (run.get "createdAt")).orElse (run.get "created_at"))
  let snapshotId :=
    host.textOf ((run.get "icebergSnapshotId").orElse (run.get "iceberg_snapshot_id"))
  let runId := host.textOf ((run.get "runId").orElse (run.get "run_id"))
  return toLex (timestamp, toLex (snapshotId, runId))

/-! ## The history -/

/-- `nested_identity` -/
def nestedIdentity (run : Run) (objectKey valueKey : String) : String :=
  match run.get objectKey with
  | .obj fields => host.textOf (Run.get fields valueKey)
  | _ => ""

def runIdOf (run : Run) : String := host.textOf (run.get "runId")

def kafkaSnapshotIdOf (run : Run) : String := nestedIdentity host run "kafkaSnapshot" "snapshotId"

def icebergSnapshotIdOf (run : Run) : String := host.textOf (run.get "icebergSnapshotId")

/-- `[dict(run) for run in previous_runs if isinstance(run, dict)]` -/
def dictRuns : Value → List Run
  | .arr items => items.filterMap fun item =>
      match item with
      | .obj fields => some fields
      | _ => none
  | _ => []

/-- What the comprehension of `upsert_materialization_run` keeps. -/
def keeps (nextRun run : Run) : Bool :=
  runIdOf host run ≠ runIdOf host nextRun &&
    (kafkaSnapshotIdOf host nextRun = "" ||
      kafkaSnapshotIdOf host run ≠ kafkaSnapshotIdOf host nextRun) &&
    (icebergSnapshotIdOf host nextRun = "" ||
      icebergSnapshotIdOf host run ≠ icebergSnapshotIdOf host nextRun)

/-- `upsert_materialization_run` -/
def upsertMaterializationRun (previousRuns : Value) (nextRun : Run) : Except Error (List Run) :=
  let runs := dictRuns previousRuns
  if runIdOf host nextRun = "" then sortedBy (materializationRunSortKey host) runs
  else
    sortedBy (materializationRunSortKey host) (nextRun :: runs.filter (keeps host nextRun))

/-- The history as it is stored. -/
def stored (history : List Run) : Value := .arr (history.map Value.obj)

/-- A history that is built from nothing, run by run. -/
def foldRuns (runs : List Run) : Except Error (List Run) :=
  runs.foldlM (fun history run => upsertMaterializationRun host (stored history) run) []

/-! ## Identities -/

/-- The runs are one by run id, by Kafka snapshot or by Iceberg snapshot. -/
def SharesIdentity (a b : Run) : Prop :=
  runIdOf host a = runIdOf host b ∨
    (kafkaSnapshotIdOf host a ≠ "" ∧ kafkaSnapshotIdOf host a = kafkaSnapshotIdOf host b) ∨
    (icebergSnapshotIdOf host a ≠ "" ∧ icebergSnapshotIdOf host a = icebergSnapshotIdOf host b)

instance (a b : Run) : Decidable (SharesIdentity host a b) :=
  inferInstanceAs (Decidable (_ ∨ _))

variable {host} {run nextRun : Run} {runs runs' history : List Run}

theorem keeps_iff : keeps host nextRun run = true ↔ ¬ SharesIdentity host nextRun run := by
  simp only [keeps, SharesIdentity, Bool.and_eq_true, Bool.or_eq_true, decide_eq_true_eq, not_or,
    not_and, ne_eq, and_assoc, eq_comm (b := runIdOf host nextRun),
    eq_comm (b := kafkaSnapshotIdOf host nextRun), eq_comm (b := icebergSnapshotIdOf host nextRun),
    imp_iff_not_or, not_not]

@[simp] theorem dictRuns_stored (history : List Run) : dictRuns (stored history) = history := by
  rw [stored, dictRuns, List.filterMap_map]
  exact List.filterMap_some

/-! ## Keys -/

/-- The timestamp of the run can be converted to UTC. -/
def Dated (host : ProjectionHost) (run : Run) : Prop :=
  ∃ key, materializationRunSortKey host run = .ok key

theorem textOf_orElse {a b : Value} (h : host.textOf a ≠ "") :
    host.textOf (a.orElse b) = host.textOf a := by
  rw [Value.orElse]
  split
  · rfl
  · next hfalse =>
    refine absurd ?_ h
    rw [Host.textOf, Value.orElse, if_neg hfalse]
    rfl

theorem runId_of_sortKey {key : SortKey} (h : materializationRunSortKey host run = .ok key)
    (hid : runIdOf host run ≠ "") : (ofLex (ofLex key).2).2 = runIdOf host run := by
  rw [materializationRunSortKey, bind_eq_ok] at h
  obtain ⟨timestamp, _, hkey⟩ := h
  obtain rfl := pure_eq_ok.mp hkey
  exact textOf_orElse hid

theorem sortKey_error {e : Error} (h : materializationRunSortKey host run = .error e) :
    e = .runtime "date value out of range" := by
  rw [materializationRunSortKey] at h
  cases htimestamp : parseMaterializationTimestamp host
      ((((run.get "icebergCommittedAt").orElse (run.get "iceberg_committed_at")).orElse
        (run.get "createdAt")).orElse (run.get "created_at")) with
  | ok timestamp =>
      rw [htimestamp] at h
      exact nomatch h
  | error e' =>
      rw [htimestamp] at h
      obtain rfl : e' = e := Except.error.inj h
      rw [parseMaterializationTimestamp] at htimestamp
      split at htimestamp
      · exact nomatch htimestamp
      · dsimp only at htimestamp
        split at htimestamp
        · exact nomatch htimestamp
        · exact nomatch htimestamp
        · split at htimestamp
          · exact nomatch htimestamp
          · exact (Except.error.inj htimestamp).symm

/-! ## One upsert -/

/-- What an upsert does to any history. -/
structure UpsertLaw (host : ProjectionHost) (previousRuns : Value) (nextRun : Run) : Prop where
  /-- A run with a run id takes the place of the runs it shares an identity with. -/
  replaces : runIdOf host nextRun ≠ "" → ∀ history,
    upsertMaterializationRun host previousRuns nextRun = .ok history →
      history.Perm (nextRun ::
        (dictRuns previousRuns).filter fun run => ¬ SharesIdentity host nextRun run)
  /-- A run without one is ignored. -/
  ignores : runIdOf host nextRun = "" → ∀ history,
    upsertMaterializationRun host previousRuns nextRun = .ok history →
      history.Perm (dictRuns previousRuns)

theorem upsert_law (host : ProjectionHost) (previousRuns : Value) (nextRun : Run) :
    UpsertLaw host previousRuns nextRun := by
  constructor
  · intro hid history h
    rw [upsertMaterializationRun, if_neg hid] at h
    refine (perm_of_sortedBy h).trans (.of_eq (congrArg _ (List.filter_congr fun run _ => ?_)))
    rw [Bool.eq_iff_iff, keeps_iff, decide_eq_true_eq]
  · intro hid history h
    rw [upsertMaterializationRun, if_pos hid] at h
    exact perm_of_sortedBy h

/-! ## A history of distinct runs -/

/-- Run ids and snapshot ids are pairwise distinct where present. -/
def DistinctRuns (host : ProjectionHost) (runs : List Run) : Prop :=
  ∀ a ∈ runs, ∀ b ∈ runs, runIdOf host a ≠ "" → runIdOf host b ≠ "" →
    SharesIdentity host a b → a = b

/-- The runs with a run id, newest first. -/
structure IsHistory (host : ProjectionHost) (runs history : List Run) : Prop where
  newestFirst : Descending (materializationRunSortKey host) history
  mem : ∀ run, run ∈ history ↔ run ∈ runs ∧ runIdOf host run ≠ ""

namespace IsHistory

/-- Each run id occurs once. -/
theorem nodup_runIds (h : IsHistory host runs history) (hdistinct : DistinctRuns host runs) :
    (history.map (runIdOf host)).Nodup := by
  refine (List.nodup_map_iff_inj_on h.newestFirst.nodup).mpr fun a ha b hb heq => ?_
  obtain ⟨hamem, haid⟩ := (h.mem a).mp ha
  obtain ⟨hbmem, hbid⟩ := (h.mem b).mp hb
  exact hdistinct a hamem b hbmem haid hbid (Or.inl heq)

theorem unique {history' : List Run} (h : IsHistory host runs history)
    (h' : IsHistory host runs' history') (hsame : ∀ run, run ∈ runs' ↔ run ∈ runs) :
    history' = history := by
  refine h'.newestFirst.ext h.newestFirst fun run => ?_
  rw [h'.mem, h.mem, hsame]

end IsHistory

/-- The step: one more run. -/
theorem IsHistory.upsert (h : IsHistory host runs history)
    (hdistinct : DistinctRuns host (runs ++ [nextRun])) {history' : List Run}
    (hupsert : upsertMaterializationRun host (stored history) nextRun = .ok history') :
    IsHistory host (runs ++ [nextRun]) history' := by
  have hmemlast : nextRun ∈ runs ++ [nextRun] := List.mem_append_right _ List.mem_cons_self
  have hmemold : ∀ run ∈ runs, run ∈ runs ++ [nextRun] := fun _ => List.mem_append_left _
  -- two runs of the new history with one key have one run id
  have hkeys : ∀ xs : List Run, (∀ x ∈ xs, x ∈ runs ++ [nextRun] ∧ runIdOf host x ≠ "") →
      ∀ a ∈ xs, ∀ b ∈ xs, ∀ k, materializationRunSortKey host a = .ok k →
        materializationRunSortKey host b = .ok k → a = b := by
    intro xs hxs a ha b hb k hka hkb
    have hids := (runId_of_sortKey hka (hxs a ha).2).symm.trans (runId_of_sortKey hkb (hxs b hb).2)
    exact hdistinct a (hxs a ha).1 b (hxs b hb).1 (hxs a ha).2 (hxs b hb).2 (Or.inl hids)
  have hold : ∀ x ∈ history, x ∈ runs ++ [nextRun] ∧ runIdOf host x ≠ "" := fun x hx =>
    ⟨hmemold x ((h.mem x).mp hx).1, ((h.mem x).mp hx).2⟩
  have hmem : ∀ run, run ∈ runs ++ [nextRun] ↔ run ∈ runs ∨ run = nextRun := fun run => by
    rw [List.mem_append, List.mem_singleton]
  rw [upsertMaterializationRun, dictRuns_stored] at hupsert
  by_cases hid : runIdOf host nextRun = ""
  · rw [if_pos hid] at hupsert
    refine ⟨strict_of_sortedBy hupsert h.newestFirst.nodup (hkeys history hold), fun run => ?_⟩
    rw [(perm_of_sortedBy hupsert).mem_iff, h.mem, hmem]
    refine and_congr_left fun hrun => (or_iff_left ?_).symm
    rintro rfl
    exact hrun hid
  · rw [if_neg hid] at hupsert
    have hnew : ∀ x ∈ nextRun :: history.filter (keeps host nextRun),
        x ∈ runs ++ [nextRun] ∧ runIdOf host x ≠ "" := by
      intro x hx
      rcases List.mem_cons.mp hx with rfl | hrest
      · exact ⟨hmemlast, hid⟩
      · exact hold x (List.mem_of_mem_filter hrest)
    have hnodup : (nextRun :: history.filter (keeps host nextRun)).Nodup := by
      refine List.nodup_cons.mpr ⟨fun hin => ?_, h.newestFirst.nodup.filter _⟩
      exact keeps_iff.mp (List.mem_filter.mp hin).2 (Or.inl rfl)
    refine ⟨strict_of_sortedBy hupsert hnodup (hkeys _ hnew), fun run => ?_⟩
    rw [(perm_of_sortedBy hupsert).mem_iff]
    constructor
    · exact hnew run
    · rintro ⟨hrun, hrunid⟩
      rcases (hmem run).mp hrun with hmemrun | rfl
      · by_cases hshares : SharesIdentity host nextRun run
        · exact hdistinct nextRun hmemlast run hrun hid hrunid hshares ▸ List.mem_cons_self
        · exact List.mem_cons_of_mem _ (List.mem_filter.mpr
            ⟨(h.mem run).mpr ⟨hmemrun, hrunid⟩, keeps_iff.mpr hshares⟩)
      · exact List.mem_cons_self

theorem foldRuns_append (runs : List Run) (nextRun : Run) : foldRuns host (runs ++ [nextRun]) =
    foldRuns host runs >>= fun history =>
      upsertMaterializationRun host (stored history) nextRun := by
  rw [foldRuns, foldRuns, List.foldlM_append]
  refine congrArg _ (funext fun history => ?_)
  rw [List.foldlM_cons]
  exact bind_pure _

theorem DistinctRuns.init (h : DistinctRuns host (runs ++ [nextRun])) : DistinctRuns host runs :=
  fun a ha b hb => h a (List.mem_append_left _ ha) b (List.mem_append_left _ hb)

/-- The run: whatever is folded is the history of the runs. -/
theorem isHistory_foldRuns (hdistinct : DistinctRuns host runs)
    (h : foldRuns host runs = .ok history) : IsHistory host runs history := by
  induction runs using List.reverseRecOn generalizing history with
  | nil =>
      obtain rfl : [] = history := Except.ok.inj h
      exact ⟨.nil, fun run => ⟨fun hrun => (nomatch hrun), fun hrun => (nomatch hrun.1)⟩⟩
  | append_singleton runs nextRun ih =>
      rw [foldRuns_append, bind_eq_ok] at h
      obtain ⟨middle, hfold, hupsert⟩ := h
      exact (ih hdistinct.init hfold).upsert hdistinct hupsert

/-- An upsert returns where the kept runs and the new one are dated. -/
theorem upsert_returns (h : ∀ run ∈ history, Dated host run)
    (hnext : runIdOf host nextRun ≠ "" → Dated host nextRun) :
    ∃ history', upsertMaterializationRun host (stored history) nextRun = .ok history' := by
  rw [upsertMaterializationRun, dictRuns_stored]
  split
  · exact sortedBy_returns.mpr h
  · next hid =>
    refine sortedBy_returns.mpr fun run hrun => ?_
    rcases List.mem_cons.mp hrun with rfl | hrest
    · exact hnext hid
    · exact h run (List.mem_of_mem_filter hrest)

/-- The fold returns exactly if the runs that are kept are dated. -/
theorem foldRuns_returns (hdistinct : DistinctRuns host runs) :
    (∃ history, foldRuns host runs = .ok history) ↔
      ∀ run ∈ runs, runIdOf host run ≠ "" → Dated host run := by
  induction runs using List.reverseRecOn with
  | nil => exact ⟨fun _ _ hrun => (nomatch hrun), fun _ => ⟨[], rfl⟩⟩
  | append_singleton runs nextRun ih =>
      simp only [foldRuns_append, bind_eq_ok]
      constructor
      · rintro ⟨history', middle, hfold, hupsert⟩ run hrun hid
        rcases List.mem_append.mp hrun with hold | hlast
        · exact (ih hdistinct.init).mp ⟨middle, hfold⟩ run hold hid
        · obtain rfl := List.mem_singleton.mp hlast
          rw [upsertMaterializationRun, if_neg hid] at hupsert
          exact sortedBy_returns.mp ⟨_, hupsert⟩ run List.mem_cons_self
      · intro hdated
        obtain ⟨middle, hfold⟩ := (ih hdistinct.init).mpr
          fun run hrun => hdated run (List.mem_append_left _ hrun)
        have hmiddle : ∀ run ∈ middle, Dated host run := by
          intro run hrun
          obtain ⟨hmem, hid⟩ := ((isHistory_foldRuns hdistinct.init hfold).mem run).mp hrun
          exact hdated run (List.mem_append_left _ hmem) hid
        obtain ⟨history', hupsert⟩ := upsert_returns hmiddle
          (hdated nextRun (List.mem_append_right _ List.mem_cons_self))
        exact ⟨history', middle, hfold, hupsert⟩

theorem foldRuns_error {e : Error} (h : foldRuns host runs = .error e) :
    e = .runtime "date value out of range" := by
  induction runs using List.reverseRecOn generalizing e with
  | nil => exact nomatch h
  | append_singleton runs nextRun ih =>
      rw [foldRuns_append] at h
      cases hfold : foldRuns host runs with
      | error e' =>
          rw [hfold] at h
          exact ih (hfold.trans h)
      | ok middle =>
          rw [hfold] at h
          change upsertMaterializationRun host (stored middle) nextRun = .error e at h
          rw [upsertMaterializationRun] at h
          split at h
          · obtain ⟨_, _, hkey⟩ := exists_of_sortedBy_error h
            exact sortKey_error hkey
          · obtain ⟨_, _, hkey⟩ := exists_of_sortedBy_error h
            exact sortKey_error hkey

/-- What the history of distinct runs is. -/
structure HistoryLaw (host : ProjectionHost) (runs : List Run) : Prop where
  /-- Order and repetition do not show. -/
  order : ∀ runs', (∀ run, run ∈ runs' ↔ run ∈ runs) → foldRuns host runs' = foldRuns host runs
  /-- Where the runs are dated, they are all there, newest first and each run id once. -/
  returns : (∀ run ∈ runs, runIdOf host run ≠ "" → Dated host run) →
    ∃ history, foldRuns host runs = .ok history ∧ IsHistory host runs history ∧
      (history.map (runIdOf host)).Nodup

theorem DistinctRuns.congr (h : DistinctRuns host runs)
    (hsame : ∀ run, run ∈ runs' ↔ run ∈ runs) : DistinctRuns host runs' :=
  fun a ha b hb => h a ((hsame a).mp ha) b ((hsame b).mp hb)

theorem history_law (h : DistinctRuns host runs) : HistoryLaw host runs := by
  refine ⟨fun runs' hsame => ?_, fun hdated => ?_⟩
  · have h' := h.congr hsame
    have hdated : (∀ run ∈ runs', runIdOf host run ≠ "" → Dated host run) ↔
        ∀ run ∈ runs, runIdOf host run ≠ "" → Dated host run :=
      forall_congr' fun run => imp_congr_left (hsame run)
    cases hfold : foldRuns host runs with
    | ok history =>
        obtain ⟨history', hfold'⟩ := (foldRuns_returns h').mpr
          (hdated.mpr ((foldRuns_returns h).mp ⟨history, hfold⟩))
        rw [hfold']
        exact congrArg Except.ok
          ((isHistory_foldRuns h hfold).unique (isHistory_foldRuns h' hfold') hsame)
    | error e =>
        cases hfold' : foldRuns host runs' with
        | error e' => rw [foldRuns_error hfold, foldRuns_error hfold']
        | ok history' =>
            obtain ⟨_, hreturned⟩ := (foldRuns_returns h).mpr
              (hdated.mp ((foldRuns_returns h').mp ⟨history', hfold'⟩))
            exact nomatch hfold.symm.trans hreturned
  · obtain ⟨history, hfold⟩ := (foldRuns_returns h).mpr hdated
    have hhistory := isHistory_foldRuns h hfold
    exact ⟨history, hfold, hhistory, hhistory.nodup_runIds h⟩

end AskLake.Materialization

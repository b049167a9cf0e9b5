/-
# `AskLake.ContinuousRuntime.ReplayCounters` — what the counters of replays add up to

Two writers share `stored_count`: a replay adds its rows, a report takes the maximum with
the count of the stream.

    right        replayedCount = rows of the replays counted,  each of them once
                 storedCount   = largest stream count + the same rows

One commit can break this in two ways, and only so (`right_step_iff`):

    a row is overwritten from a copy that was made before its replay was counted
    a report raises the stream count after a replay was counted
-/
import AskLake.ContinuousRuntime.QuarantineReplay
import AskLake.Lib.Run
import Mathlib.Algebra.GroupWithZero.Nat

namespace AskLake.ContinuousRuntime

open AskLake.Lib AskLake.Python AskLake.ContinuousSql

/-! ## The flag of the counters -/

/-- `countersApplied` of a row -/
def MaintenanceRun.flag (run : MaintenanceRun) : Option Bool :=
  run.result.bind ReplayResult.countersApplied

section
variable {runId : Text} {evidence : ReplayEvidence} {durable : Text → Nat}

/-- Rows of the run, if the result is durable. -/
def ReplayResult.RowsOf (durable : Text → Nat) (runId : Text) (result : ReplayResult) : Prop :=
  result.IsDurable → result.storedRows = durable runId

/-- A result as the worker of the run wrote it: the rows are those of the run, and the
flag of the control plane is not there. -/
structure ReplayResult.FromWorker (durable : Text → Nat) (runId : Text) (result : ReplayResult) :
    Prop where
  rows : result.RowsOf durable runId
  counters : result.countersApplied = none

/-- What is outside of the rows was written by the worker of the run. -/
structure ReplayEvidence.FromWorker (durable : Text → Nat) (runId : Text)
    (evidence : ReplayEvidence) : Prop where
  local_ : ∀ result, evidence.localResult = some result → result.FromWorker durable runId
  manifest : evidence.manifestState = .found → evidence.manifestResult.FromWorker durable runId

theorem fromManifest_spec (he : evidence.FromWorker durable runId) {current : ReplayResult}
    (hcurrent : current.RowsOf durable runId) :
    (evidence.fromManifest current).2.RowsOf durable runId ∧
      (evidence.fromManifest current).2.countersApplied = current.countersApplied := by
  rw [ReplayEvidence.fromManifest]
  split
  · rename_i hfound
    have hworker := he.manifest hfound
    refine ⟨hworker.rows, ?_⟩
    rw [ReplayResult.withFlagsOf, hworker.counters, Option.or_none]
  · exact ⟨hcurrent, rfl⟩

/-- Recovery keeps the rows of the run and the flag of its row. -/
theorem recover_spec (he : evidence.FromWorker durable runId) {current : Option ReplayResult}
    (hcurrent : ∀ result, current = some result → result.RowsOf durable runId) :
    (recoverContinuousReplayResult runId evidence current).2.RowsOf durable runId ∧
      (recoverContinuousReplayResult runId evidence current).2.countersApplied =
        current.bind ReplayResult.countersApplied := by
  have hrows : (current.getD {}).RowsOf durable runId := by
    cases current with
    | none =>
        intro hdurable
        exact absurd hdurable.1 (by simp [ReplayResult.storedRows, nonnegativeInt])
    | some result => exact hcurrent result rfl
  have hflag : (current.getD {}).countersApplied = current.bind ReplayResult.countersApplied := by
    cases current <;> rfl
  have hown : ReplayResult.RowsOf durable runId
      { current.getD {} with runId := some runId.text } := hrows
  have hmanifest := fromManifest_spec he hown
  rw [recoverContinuousReplayResult]
  dsimp only
  split
  · exact ⟨hrows, hflag⟩
  split
  · exact ⟨hrows, hflag⟩
  split
  · rename_i candidate hlocal
    have hworker := he.local_ candidate hlocal
    split
    · exact ⟨hrows, hflag⟩
    split
    · refine ⟨hworker.rows, ?_⟩
      rw [ReplayResult.withFlagsOf, hworker.counters, Option.or_none]
      exact hflag
    · exact ⟨hmanifest.1, hmanifest.2.trans hflag⟩
  · exact ⟨hmanifest.1, hmanifest.2.trans hflag⟩

theorem not_isDurable_empty : ¬ ReplayResult.IsDurable {} := fun h =>
  absurd h.1 (by simp [ReplayResult.storedRows, nonnegativeInt])

/-- The row of a lost run: rows of the run, and never the flag if it was not there. -/
theorem failedRun_spec (he : evidence.FromWorker durable runId) {current : Option ReplayResult}
    (hcurrent : ∀ result, current = some result → result.RowsOf durable runId)
    (hflag : current.bind ReplayResult.countersApplied ≠ some true) (pendingRetry otherwise : String) :
    (failedRun runId evidence current pendingRetry otherwise).status = .failed ∧
      (∀ result, (failedRun runId evidence current pendingRetry otherwise).result = some result →
        result.RowsOf durable runId) ∧
      (failedRun runId evidence current pendingRetry otherwise).flag ≠ some true := by
  obtain ⟨hrows, hcounters⟩ := recover_spec he hcurrent
  have hempty : ∀ result, some ({} : ReplayResult) = some result → result.RowsOf durable runId := by
    rintro result ⟨⟩ hdurable
    exact absurd hdurable not_isDurable_empty
  rw [failedRun]
  cases hstate : recoverContinuousReplayResult runId evidence current with
  | mk state recovered =>
      rw [hstate] at hrows hcounters
      cases state with
      | found =>
          dsimp only
          split
          · refine ⟨rfl, ?_, ?_⟩
            · rintro result ⟨⟩
              exact hrows
            · simp only [MaintenanceRun.flag, Option.bind_some, ReplayResult.withDefaults]
              rw [show recovered.countersApplied = _ from hcounters]
              cases hc : current.bind ReplayResult.countersApplied with
              | none => simp
              | some applied => simpa [hc] using hflag
          · exact ⟨rfl, hempty, by simp [MaintenanceRun.flag]⟩
      | missing => exact ⟨rfl, hempty, by simp [MaintenanceRun.flag]⟩
      | unavailable reason =>
          refine ⟨rfl, ?_, ?_⟩
          · rintro result ⟨⟩
            exact hrows
          · simp only [MaintenanceRun.flag, Option.bind_some]
            rw [show recovered.countersApplied = _ from hcounters]
            exact hflag

/-- A row that a retry only annotates keeps its rows, its flag and its status. -/
theorem readPending_kept (he : evidence.FromWorker durable runId) {run kept : MaintenanceRun}
    (hrun : ∀ result, run.result = some result → result.RowsOf durable runId)
    (h : readPending runId evidence run = .kept kept) :
    (∀ result, kept.result = some result → result.RowsOf durable runId) ∧
      kept.flag = run.flag ∧ kept.status = run.status ∧ run.status ≠ .running := by
  obtain ⟨hrows, hcounters⟩ := recover_spec he hrun
  rw [readPending] at h
  split at h
  · cases h
  rename_i hstatus
  dsimp only at h
  split at h
  · cases h
  split at h
  · rename_i result hstate
    rw [hstate] at hrows hcounters
    split at h
    · cases h
      refine ⟨?_, hcounters, rfl, hstatus⟩
      rintro result ⟨⟩
      exact hrows
    · cases h
  · rename_i reason result hstate
    rw [hstate] at hrows hcounters
    cases h
    refine ⟨?_, hcounters, rfl, hstatus⟩
    rintro result ⟨⟩
    exact hrows
  · split at h <;> cases h

/-- A retry starts with the rows of the run, and takes the flag of the row along. -/
theorem readPending_pending (he : evidence.FromWorker durable runId) {run : MaintenanceRun}
    {result : ReplayResult} (hrun : ∀ result, run.result = some result → result.RowsOf durable runId)
    (h : readPending runId evidence run = .pending result) :
    result.storedRows = durable runId ∧ 0 < result.storedRows ∧
      (result.countersApplied = some true → run.flag = some true) := by
  obtain ⟨hrows, hcounters⟩ := recover_spec he hrun
  rw [readPending] at h
  split at h
  · cases h
  dsimp only at h
  split at h
  · cases h
  split at h
  · split at h <;> cases h
  · cases h
  · rename_i recovered hstate
    rw [hstate] at hrows hcounters
    split at h
    · rename_i hdurable
      cases h
      refine ⟨hrows hdurable, hdurable.1, ?_⟩
      intro happlied
      have hgetD : recovered.countersApplied.getD false = true := by
        simpa [ReplayResult.withDefaults] using happlied
      rw [MaintenanceRun.flag, ← hcounters]
      cases hc : recovered.countersApplied with
      | none => simp [hc] at hgetD
      | some applied => simpa [hc] using hgetD
    · cases h

end

/-! ## The law -/

namespace ReplayWorld

/-- The row says that the counters have the replay, and there was something to count. -/
def Marked (durable : Text → Nat) (w : ReplayWorld) (runId : Text) : Prop :=
  (w.runs runId).bind MaintenanceRun.flag = some true ∧ 0 < durable runId

/-- The rows of all replays counted so far. -/
def replayedRows (w : ReplayWorld) : Nat := (w.counted.map Prod.snd).sum

/-- What the counters are meant to be. -/
structure Right (durable : Text → Nat) (w : ReplayWorld) : Prop where
  /-- no replay is counted twice -/
  once : (w.counted.map Prod.fst).Nodup
  /-- each with its own rows -/
  rows : ∀ entry ∈ w.counted, entry.2 = durable entry.1
  /-- the replays counted are those whose row says so -/
  marked : ∀ runId, runId ∈ w.counted.map Prod.fst ↔ w.Marked durable runId
  replayed : w.runtime.metrics.progress.replayedCount = w.replayedRows
  stored : w.runtime.storedCount = w.stream + w.replayedRows
  /-- a replay that is not counted yet is, by any retry that reaches its last commit -/
  retried : ∀ p runId run result evidence, w.passes p = none → w.runs runId = some run →
    run.status ≠ .running → run.result = some result → ¬ result.ForeignTo runId →
    result.IsDurable → run.flag ≠ some true →
    runId ∈ (play step w [.read p runId evidence, .materialize p .applied, .counters p]).counted.map
      Prod.fst

/-- What the calls are promised to be: the worker's results are those of its run, and a
worker reports as `replayedCount` what it was started with. -/
def Promised (durable : Text → Nat) (w : ReplayWorld) : ReplayCall → Prop
  | .finish p result => ∀ runId, w.passes p = some (.executing runId) →
      result.storedRows = durable runId
  | .fail p evidence _ => ∀ runId, w.passes p = some (.executing runId) →
      evidence.FromWorker durable runId
  | .stale runId evidence _ => evidence.FromWorker durable runId
  | .read _ runId evidence => evidence.FromWorker durable runId
  | .report payload => nonnegativeInt payload.replayedCount 0 ∈ w.handed
  | _ => True

/-- The row that a call overwrites from the copy of its pass, and the flag in that copy. -/
def overwrites (w : ReplayWorld) : ReplayCall → Option (Text × Option Bool)
  | .finish p _ | .fail p _ _ =>
      match w.passes p with
      | some (.executing runId) => some (runId, none)
      | _ => none
  | .materialize p outcome =>
      match w.passes p with
      | some (.pending runId result own) =>
          if result.catalogApplied = some true then none
          else match outcome with
            | .applied => if own then none else some (runId, result.countersApplied)
            | .refused _ committed =>
                if own ∨ committed then some (runId, result.countersApplied) else none
      | _ => none
  | .counters p =>
      match w.passes p with
      | some (.cataloged runId result _) => some (runId, result.countersApplied)
      | _ => none
  | .save p =>
      match w.passes p with
      | some (.closing runId result) => some (runId, result.countersApplied)
      | _ => none
  | _ => none

/-- The copy that a row is overwritten from knows if the replay was counted. -/
def Knows (durable : Text → Nat) (w : ReplayWorld) : Option (Text × Option Bool) → Prop
  | some (runId, copy) => w.Marked durable runId → copy = some true
  | none => True

/-- No row is overwritten from a copy that does not know that its replay was counted, and
no report raises the stream count once a replay was counted. -/
structure Undisturbed (durable : Text → Nat) (w : ReplayWorld) (call : ReplayCall) : Prop where
  current : w.Knows durable (w.overwrites call)
  report : ∀ payload, call = .report payload → w.stream < nonnegativeInt payload.storedCount 0 →
    w.counted = []

/-! ## What the passes know -/

/-- A pass past the worker has the rows of its run, and its flag is never ahead of the row. -/
def Holds (durable : Text → Nat) (w : ReplayWorld) : ReplayPass → Prop
  | .executing _ => True
  | .pending runId result _ | .cataloged runId result _ | .closing runId result =>
      result.storedRows = durable runId ∧ 0 < result.storedRows ∧
        (result.countersApplied = some true → w.Marked durable runId)

structure RowSound (durable : Text → Nat) (runId : Text) (run : MaintenanceRun) : Prop where
  rows : ∀ result, run.result = some result → result.RowsOf durable runId
  running : run.status = .running → run.flag ≠ some true

/-- The invariant behind the law. -/
structure Sound (durable : Text → Nat) (w : ReplayWorld) : Prop where
  runs : ∀ runId run, w.runs runId = some run → RowSound durable runId run
  passes : ∀ p pass, w.passes p = some pass → w.Holds durable pass
  handed : ∀ count ∈ w.handed, count ≤ w.runtime.metrics.progress.replayedCount

section
variable {durable : Text → Nat} {w : ReplayWorld} {runId : Text} {run : MaintenanceRun}
  {result : ReplayResult}

theorem marked_setRun {other : Text} :
    (w.setRun runId run).Marked durable other ↔
      if other = runId then run.flag = some true ∧ 0 < durable runId
      else w.Marked durable other := by
  rw [Marked, setRun_runs]
  split
  · rename_i h
    subst h
    exact Iff.rfl
  · exact Iff.rfl

theorem marked_setRun_self :
    (w.setRun runId run).Marked durable runId ↔ run.flag = some true ∧ 0 < durable runId := by
  rw [marked_setRun, if_pos rfl]

theorem Holds.mono {w' : ReplayWorld} (hmono : ∀ r, w.Marked durable r → w'.Marked durable r)
    {pass : ReplayPass} (h : w.Holds durable pass) : w'.Holds durable pass := by
  cases pass with
  | executing _ => trivial
  | pending runId _ _ => exact ⟨h.1, h.2.1, fun ha => hmono runId (h.2.2 ha)⟩
  | cataloged runId _ _ => exact ⟨h.1, h.2.1, fun ha => hmono runId (h.2.2 ha)⟩
  | closing runId _ => exact ⟨h.1, h.2.1, fun ha => hmono runId (h.2.2 ha)⟩

theorem Sound.setPass (hS : w.Sound durable) {p : Nat} {next : Option ReplayPass}
    (hnext : ∀ pass, next = some pass → w.Holds durable pass) :
    (w.setPass p next).Sound durable where
  runs := hS.runs
  passes q pass hq := by
    rw [setPass_passes] at hq
    split at hq
    · exact hnext pass hq
    · exact hS.passes q pass hq
  handed := hS.handed

/-- A row may be written that keeps the mark, if the row had it. -/
theorem Sound.setRun (hS : w.Sound durable) (hrun : RowSound durable runId run)
    (hmark : w.Marked durable runId → run.flag = some true) :
    (w.setRun runId run).Sound durable := by
  have hmono : ∀ r, w.Marked durable r → (w.setRun runId run).Marked durable r := by
    intro r hr
    rw [marked_setRun]
    split
    · rename_i h
      subst h
      exact ⟨hmark hr, hr.2⟩
    · exact hr
  refine ⟨?_, fun p pass hp => (hS.passes p pass hp).mono hmono, hS.handed⟩
  intro r row hr
  rw [setRun_runs] at hr
  split at hr
  · rename_i h
    subst h
    cases hr
    exact hrun
  · exact hS.runs r row hr

/-- A retry reaches the counters. -/
theorem counted_of_retry {p : Nat} {evidence : ReplayEvidence} (hpass : w.passes p = none)
    (hrow : w.runs runId = some run) (hstatus : run.status ≠ .running)
    (hresult : run.result = some result) (hown : ¬ result.ForeignTo runId)
    (hdurable : result.IsDurable) (hflag : run.flag ≠ some true) :
    runId ∈ (play step w [.read p runId evidence, .materialize p .applied, .counters p]).counted.map
      Prod.fst := by
  have hcounters : result.countersApplied ≠ some true := by
    rwa [MaintenanceRun.flag, hresult] at hflag
  have hread : readPending runId evidence run = .pending
      { { result with runId := some runId.text } with replayManifestRecovery := none }.withDefaults := by
    have hdurable' : ReplayResult.IsDurable { result with runId := some runId.text } := hdurable
    rw [readPending, if_neg hstatus]
    simp only [hresult, Option.getD_some, hcounters, and_false, if_false,
      recoverContinuousReplayResult, hown, hdurable', if_true]
  have hdefault : result.countersApplied.getD false = false := by
    cases h : result.countersApplied with
    | none => rfl
    | some applied => simpa [h] using hcounters
  have hafter : w.step (.read p runId evidence) = w.setPass p (some (.pending runId
      { { result with runId := some runId.text } with replayManifestRecovery := none }.withDefaults
      false)) := by
    simp only [step, read, hpass, hrow, hread]
  rw [play_cons, hafter]
  simp only [play_cons, play_nil, step, materialize, setPass, Function.update_self]
  split
  · simp [counters, countedAfter, setPass, applyCounters, setRun, ReplayResult.withDefaults, hdefault]
  · simp [counters, countedAfter, setPass, applyCounters, setRun, setResult, hrow,
      ReplayResult.withDefaults, hdefault]

theorem right_setPass {p : Nat} {next : Option ReplayPass} :
    (w.setPass p next).Right durable ↔ w.Right durable :=
  ⟨fun h => ⟨h.once, h.rows, h.marked, h.replayed, h.stored,
      fun _ _ _ _ _ => counted_of_retry⟩,
    fun h => ⟨h.once, h.rows, h.marked, h.replayed, h.stored,
      fun _ _ _ _ _ => counted_of_retry⟩⟩

theorem right_setLastError {reason : String} :
    (w.setLastError reason).Right durable ↔ w.Right durable :=
  ⟨fun h => ⟨h.once, h.rows, h.marked, h.replayed, h.stored,
      fun _ _ _ _ _ => counted_of_retry⟩,
    fun h => ⟨h.once, h.rows, h.marked, h.replayed, h.stored,
      fun _ _ _ _ _ => counted_of_retry⟩⟩

/-- A row with no mark of its own is rightly written where none is lost. -/
theorem right_setRun (hR : w.Right durable)
    (hnew : run.flag = some true → 0 < durable runId → w.Marked durable runId) :
    (w.setRun runId run).Right durable ↔ (w.Marked durable runId → run.flag = some true) := by
  constructor
  · intro h hmarked
    have hcounted : runId ∈ w.counted.map Prod.fst := (hR.marked runId).mpr hmarked
    exact (marked_setRun_self.mp ((h.marked runId).mp hcounted)).1
  · intro hkeep
    refine ⟨hR.once, hR.rows, ?_, hR.replayed, hR.stored, fun _ _ _ _ _ => counted_of_retry⟩
    intro r
    rw [show (w.setRun runId run).counted = w.counted from rfl, hR.marked r, marked_setRun]
    split
    · rename_i h
      subst h
      exact ⟨fun hm => ⟨hkeep hm, hm.2⟩, fun hm => hnew hm.1 hm.2⟩
    · exact Iff.rfl

theorem setResult_eq {change : MaintenanceRun → MaintenanceRun} (hrow : w.runs runId = some run) :
    w.setResult runId result change = w.setRun runId { change run with result := some result } := by
  rw [setResult, hrow]

/-- The same for the copy of a pass. -/
theorem right_setResult (hR : w.Right durable) {change : MaintenanceRun → MaintenanceRun}
    (hcopy : result.countersApplied = some true → w.Marked durable runId) :
    (w.setResult runId result change).Right durable ↔
      (w.Marked durable runId → result.countersApplied = some true) := by
  cases hrow : w.runs runId with
  | none =>
      rw [setResult, hrow]
      refine ⟨fun _ hmarked => ?_, fun _ => hR⟩
      rw [Marked, hrow] at hmarked
      exact absurd hmarked.1 (by simp)
  | some run =>
      rw [setResult_eq hrow]
      exact right_setRun hR fun h _ => hcopy h

theorem Sound.setResult (hS : w.Sound durable) {change : MaintenanceRun → MaintenanceRun}
    (hrows : result.storedRows = durable runId)
    (hstatus : ∀ run, (change run).status = .running → run.status = .running)
    (hcopy : result.countersApplied = some true → w.Marked durable runId)
    (hmark : w.Marked durable runId → result.countersApplied = some true) :
    (w.setResult runId result change).Sound durable := by
  cases hrow : w.runs runId with
  | none =>
      rw [ReplayWorld.setResult, hrow]
      exact hS
  | some run =>
      rw [setResult_eq hrow]
      refine hS.setRun ⟨?_, ?_⟩ hmark
      · rintro other ⟨⟩ _
        exact hrows
      · intro hrunning happlied
        have hmarked := hcopy happlied
        rw [Marked, hrow] at hmarked
        exact (hS.runs runId run hrow).running (hstatus run hrunning) hmarked.1

theorem marked_of_setResult {change : MaintenanceRun → MaintenanceRun} {other : Text}
    (hmark : w.Marked durable runId → result.countersApplied = some true)
    (hm : w.Marked durable other) : (w.setResult runId result change).Marked durable other := by
  cases hrow : w.runs runId with
  | none =>
      rw [setResult, hrow]
      exact hm
  | some run =>
      rw [setResult_eq hrow, marked_setRun]
      split
      · rename_i h
        subst h
        exact ⟨hmark hm, hm.2⟩
      · exact hm

/-! ## One commit -/

theorem finish_spec (hS : w.Sound durable) (hR : w.Right durable) {p : Nat}
    (hp : w.passes p = some (.executing runId)) (hrows : result.storedRows = durable runId) :
    ((w.finish p result).Right durable ↔ ¬ w.Marked durable runId) ∧
      (¬ w.Marked durable runId → (w.finish p result).Sound durable) := by
  have hflag : (finishedRun result).flag = some (decide (result.storedRows = 0)) := rfl
  have hunmarked : (finishedRun result).flag = some true → ¬ 0 < durable runId := by
    rw [hflag, ← hrows]
    intro h
    simpa using h
  rw [finish, hp]
  dsimp only
  refine ⟨?_, fun hm => ?_⟩
  · rw [right_setPass, right_setRun hR fun h hpos => absurd hpos (hunmarked h)]
    exact ⟨fun h hm => hunmarked (h hm) hm.2, fun h hm => absurd hm h⟩
  · have hrun : RowSound durable runId (finishedRun result) := by
      refine ⟨?_, ?_⟩
      · rintro other ⟨⟩ _
        exact hrows
      · rw [finishedRun]
        split <;> simp
    refine (hS.setRun hrun fun h => absurd h hm).setPass ?_
    intro pass hpass
    split at hpass
    · cases hpass
    · rename_i hpos
      cases hpass
      refine ⟨hrows, Nat.pos_of_ne_zero hpos, ?_⟩
      simp [hpos]

theorem fail_spec (hS : w.Sound durable) (hR : w.Right durable) {p : Nat}
    {evidence : ReplayEvidence} {message : String} (hp : w.passes p = some (.executing runId))
    (he : evidence.FromWorker durable runId) :
    ((w.fail p evidence message).Right durable ↔ ¬ w.Marked durable runId) ∧
      (¬ w.Marked durable runId → (w.fail p evidence message).Sound durable) := by
  rw [fail, hp]
  dsimp only
  obtain ⟨hstatus, hrows, hflag⟩ := @failedRun_spec _ _ _ he none (by rintro _ ⟨⟩)
    (by simp) "Replay Catalog materialization is pending retry after worker result recovery." message
  refine ⟨?_, fun hm => ?_⟩
  · rw [right_setPass, right_setRun hR fun h _ => absurd h hflag]
    exact ⟨fun h hm => hflag (h hm), fun h hm => absurd hm h⟩
  · refine (hS.setRun ⟨hrows, ?_⟩ fun h => absurd h hm).setPass (by rintro _ ⟨⟩)
    rw [hstatus]
    rintro ⟨⟩

/-- A stale row is read and written at once, and has no mark. -/
theorem stale_spec (hS : w.Sound durable) (hR : w.Right durable) {evidence : ReplayEvidence}
    {runnerEnded : Bool} (he : evidence.FromWorker durable runId) :
    (w.stale runId evidence runnerEnded).Right durable ∧
      (w.stale runId evidence runnerEnded).Sound durable := by
  rw [stale]
  split
  · rename_i run hrow
    split
    · rename_i hrunning
      have hold := (hS.runs runId run hrow).running hrunning
      have hm : ¬ w.Marked durable runId := by
        rw [Marked, hrow]
        exact fun h => hold h.1
      obtain ⟨hstatus, hrows, hflag⟩ := failedRun_spec he (hS.runs runId run hrow).rows hold
        "Replay Catalog materialization is pending retry after maintenance recovery."
        (if runnerEnded then
          "Continuous maintenance runner ended before control-plane finalization."
        else "Continuous maintenance lease expired before completion.")
      refine ⟨(right_setRun hR fun h _ => absurd h hflag).mpr fun h => absurd h hm,
        hS.setRun ⟨hrows, ?_⟩ fun h => absurd h hm⟩
      rw [hstatus]
      rintro ⟨⟩
    · exact ⟨hR, hS⟩
  · exact ⟨hR, hS⟩

theorem read_spec (hS : w.Sound durable) (hR : w.Right durable) {p : Nat}
    {evidence : ReplayEvidence} (he : evidence.FromWorker durable runId) :
    (w.read p runId evidence).Right durable ∧ (w.read p runId evidence).Sound durable := by
  rw [read]
  split
  · rename_i run hpass hrow
    have hrun := hS.runs runId run hrow
    split
    · exact ⟨hR, hS⟩
    · rename_i kept hkept
      obtain ⟨hrows, hflag, hstatus, hnotRunning⟩ := readPending_kept he hrun.rows hkept
      have hmark : w.Marked durable runId → kept.flag = some true := by
        rw [Marked, hrow, hflag]
        exact fun h => h.1
      refine ⟨(right_setRun hR fun h hpos => ?_).mpr hmark, hS.setRun ⟨hrows, ?_⟩ hmark⟩
      · rw [Marked, hrow, ← h, hflag]
        exact ⟨rfl, hpos⟩
      · rw [hstatus]
        exact fun h => absurd h hnotRunning
    · rename_i pending hpending
      obtain ⟨hrows, hpos, hflag⟩ := readPending_pending he hrun.rows hpending
      refine ⟨right_setPass.mpr hR, hS.setPass ?_⟩
      rintro pass ⟨⟩
      refine ⟨hrows, hpos, fun happlied => ?_⟩
      rw [Marked, hrow]
      exact ⟨hflag happlied, hrows ▸ hpos⟩
  · exact ⟨hR, hS⟩

/-- The row after the commit of the counters. -/
def countedRun (result : ReplayResult) : MaintenanceRun :=
  { status := .success
    result := some { result with countersApplied := some true }
    lastError := none }

/-- A copy that knows leaves the counters alone. -/
theorem applyCounters_of_applied (h : result.countersApplied = some true) :
    w.applyCounters runId result = w.setRun runId (countedRun result) ∧
      w.countedAfter runId result = w.counted := by
  have hsame : { result with countersApplied := some true } = result := by rw [← h]
  rw [applyCounters, applyContinuousReplayRuntimeCounters, if_pos h, countedAfter, if_pos h,
    countedRun, hsame]
  exact ⟨rfl, rfl⟩

theorem right_counted (hR : w.Right durable) (hrows : result.storedRows = durable runId)
    (hpos : 0 < result.storedRows)
    (hcopy : result.countersApplied = some true → w.Marked durable runId) :
    { w.applyCounters runId result with counted := w.countedAfter runId result }.Right durable ↔
      (w.Marked durable runId → result.countersApplied = some true) := by
  by_cases happlied : result.countersApplied = some true
  · rw [(applyCounters_of_applied happlied).1, (applyCounters_of_applied happlied).2]
    refine (right_setRun hR fun _ _ => hcopy happlied).trans ?_
    exact ⟨fun _ _ => happlied, fun _ _ => rfl⟩
  · have hmap : w.countedAfter runId result = w.counted ++ [(runId, durable runId)] := by
      rw [countedAfter, if_neg happlied, hrows]
    constructor
    · intro h hmarked
      have hmem : runId ∈ w.counted.map Prod.fst := (hR.marked runId).mpr hmarked
      have honce := h.once
      rw [hmap, List.map_append, List.nodup_append] at honce
      exact absurd rfl (honce.2.2 runId hmem runId (by simp))
    · intro hknows
      have hnot : runId ∉ w.counted.map Prod.fst := fun hmem =>
        happlied (hknows ((hR.marked runId).mp hmem))
      have hadded : w.applyCounters runId result =
          { w with
            runtime.storedCount := w.runtime.storedCount + result.storedRows
            runtime.metrics.progress.replayedCount :=
              w.runtime.metrics.progress.replayedCount + result.storedRows }.setRun runId
            (countedRun result) := by
        rw [applyCounters, applyContinuousReplayRuntimeCounters, if_neg happlied]
        rfl
      have hsum : ((w.countedAfter runId result).map Prod.snd).sum =
          w.replayedRows + result.storedRows := by
        rw [hmap, hrows, replayedRows]
        simp
      rw [hadded]
      refine ⟨?_, ?_, ?_, ?_, ?_, fun _ _ _ _ _ => counted_of_retry⟩
      · rw [hmap, List.map_append, List.nodup_append]
        refine ⟨hR.once, by simp, ?_⟩
        rintro a ha b hb rfl
        have hrun : a = runId := by simpa using hb
        exact hnot (hrun ▸ ha)
      · rw [hmap]
        intro entry hentry
        rcases List.mem_append.mp hentry with hold | hnew
        · exact hR.rows entry hold
        · rw [List.mem_singleton.mp hnew]
      · intro other
        refine Iff.trans ?_ marked_setRun.symm
        rw [hmap, List.map_append, List.mem_append, hR.marked other]
        by_cases hother : other = runId
        · subst hother
          simp [countedRun, MaintenanceRun.flag, ← hrows, hpos]
        · simp only [List.map_singleton, List.mem_singleton, hother, or_false, if_false]
          exact Iff.rfl
      · show w.runtime.metrics.progress.replayedCount + result.storedRows =
          ((w.countedAfter runId result).map Prod.snd).sum
        rw [hsum, hR.replayed]
      · show w.runtime.storedCount + result.storedRows =
          w.stream + ((w.countedAfter runId result).map Prod.snd).sum
        rw [hsum, hR.stored, Nat.add_assoc]

theorem marked_counted (hpos : 0 < durable runId) :
    { w.applyCounters runId result with counted := w.countedAfter runId result }.Marked durable
      runId := by
  by_cases happlied : result.countersApplied = some true
  · rw [(applyCounters_of_applied happlied).1]
    exact marked_setRun_self.mpr ⟨rfl, hpos⟩
  · rw [applyCounters, applyContinuousReplayRuntimeCounters, if_neg happlied]
    exact marked_setRun_self.mpr ⟨rfl, hpos⟩

theorem sound_counted (hS : w.Sound durable) (hrows : result.storedRows = durable runId) :
    { w.applyCounters runId result with counted := w.countedAfter runId result }.Sound durable := by
  have hrow : RowSound durable runId (countedRun result) := by
    refine ⟨?_, by rintro ⟨⟩⟩
    rintro other ⟨⟩ _
    exact hrows
  by_cases happlied : result.countersApplied = some true
  · rw [(applyCounters_of_applied happlied).1, (applyCounters_of_applied happlied).2]
    exact hS.setRun hrow fun _ => rfl
  · have hsound := hS.setRun hrow fun _ => rfl
    rw [applyCounters, applyContinuousReplayRuntimeCounters, if_neg happlied]
    refine ⟨hsound.runs, hsound.passes, fun count hcount => ?_⟩
    exact Nat.le_add_right_of_le (hS.handed count hcount)

theorem materialize_spec (hS : w.Sound durable) (hR : w.Right durable) (p : Nat)
    (outcome : CatalogOutcome) :
    ((w.materialize p outcome).Right durable ↔
        w.Knows durable (w.overwrites (.materialize p outcome))) ∧
      (w.Knows durable (w.overwrites (.materialize p outcome)) →
        (w.materialize p outcome).Sound durable) := by
  have hidle : (w.Right durable ↔ w.Knows durable none) ∧
      (w.Knows durable none → w.Sound durable) := ⟨⟨fun _ => trivial, fun _ => hR⟩, fun _ => hS⟩
  rw [materialize, overwrites]
  rcases hp : w.passes p with _ | ⟨_⟩ | ⟨runId, result, own⟩ | ⟨_⟩ | ⟨_⟩
  · exact hidle
  · exact hidle
  · obtain ⟨hrows, hpos, hcopy⟩ := hS.passes p _ hp
    dsimp only
    by_cases hcatalog : result.catalogApplied = some true
    · rw [if_pos hcatalog, if_pos hcatalog]
      refine ⟨⟨fun _ => trivial, fun _ => right_setPass.mpr hR⟩, fun _ => hS.setPass ?_⟩
      rintro pass ⟨⟩
      exact ⟨hrows, hpos, hcopy⟩
    rw [if_neg hcatalog, if_neg hcatalog]
    cases outcome with
    | applied =>
        cases own with
        | true =>
            refine ⟨⟨fun _ => trivial, fun _ => right_setPass.mpr hR⟩, fun _ => hS.setPass ?_⟩
            rintro pass ⟨⟩
            exact ⟨hrows, hpos, hcopy⟩
        | false =>
            refine ⟨right_setPass.trans (right_setResult hR hcopy), fun hkeep => ?_⟩
            refine (hS.setResult hrows (fun _ h => h) hcopy hkeep).setPass ?_
            rintro pass ⟨⟩
            exact ⟨hrows, hpos, fun happlied => marked_of_setResult hkeep (hcopy happlied)⟩
    | refused reason committed =>
        have hR' : (w.setLastError reason).Right durable := right_setLastError.mpr hR
        have hS' : (w.setLastError reason).Sound durable := ⟨hS.runs, hS.passes, hS.handed⟩
        cases own with
        | true =>
            have hstatus : ∀ run : MaintenanceRun,
                ({ run with lastError := some reason } : MaintenanceRun).status = .running →
                  run.status = .running := fun _ h => h
            refine ⟨right_setPass.trans (right_setResult hR' hcopy), fun hkeep => ?_⟩
            refine (hS'.setResult hrows hstatus hcopy hkeep).setPass ?_
            rintro pass ⟨⟩
            exact ⟨hrows, hpos, fun happlied => marked_of_setResult hkeep (hcopy happlied)⟩
        | false =>
            cases committed with
            | true =>
                refine ⟨right_setPass.trans (right_setResult hR' hcopy), fun hkeep => ?_⟩
                exact (hS'.setResult hrows (fun _ h => h) hcopy hkeep).setPass (by rintro _ ⟨⟩)
            | false =>
                exact ⟨⟨fun _ => trivial, fun _ => right_setPass.mpr hR⟩,
                  fun _ => hS.setPass (by rintro _ ⟨⟩)⟩
  · exact hidle
  · exact hidle

theorem save_spec (hS : w.Sound durable) (hR : w.Right durable) (p : Nat) :
    ((w.save p).Right durable ↔ w.Knows durable (w.overwrites (.save p))) ∧
      (w.Knows durable (w.overwrites (.save p)) → (w.save p).Sound durable) := by
  have hidle : (w.Right durable ↔ w.Knows durable none) ∧
      (w.Knows durable none → w.Sound durable) := ⟨⟨fun _ => trivial, fun _ => hR⟩, fun _ => hS⟩
  rw [save, overwrites]
  rcases hp : w.passes p with _ | ⟨_⟩ | ⟨_⟩ | ⟨_⟩ | ⟨runId, result⟩
  · exact hidle
  · exact hidle
  · exact hidle
  · exact hidle
  · obtain ⟨hrows, -, hcopy⟩ := hS.passes p _ hp
    refine ⟨right_setPass.trans (right_setResult hR hcopy), fun hkeep => ?_⟩
    refine (hS.setResult hrows ?_ hcopy hkeep).setPass (by rintro _ ⟨⟩)
    intro run hrunning
    split at hrunning
    · exact hrunning
    · cases hrunning

/-- The commit of the counters: the pass adds its rows unless its copy says that they are
in, and they are in where the row says so. -/
theorem counters_spec (hS : w.Sound durable) (hR : w.Right durable) (p : Nat) :
    ((w.counters p).Right durable ↔ w.Knows durable (w.overwrites (.counters p))) ∧
      (w.Knows durable (w.overwrites (.counters p)) → (w.counters p).Sound durable) := by
  have hidle : (w.Right durable ↔ w.Knows durable none) ∧
      (w.Knows durable none → w.Sound durable) := ⟨⟨fun _ => trivial, fun _ => hR⟩, fun _ => hS⟩
  rw [counters, overwrites]
  rcases hp : w.passes p with _ | ⟨_⟩ | ⟨_⟩ | ⟨runId, result, own⟩ | ⟨_⟩
  · exact hidle
  · exact hidle
  · exact hidle
  · obtain ⟨hrows, hpos, hcopy⟩ := hS.passes p _ hp
    dsimp only
    refine ⟨right_setPass.trans ?_, fun hknows => ?_⟩
    · exact right_counted hR hrows hpos hcopy
    · refine (sound_counted hS hrows).setPass ?_
      rintro pass hpass
      split at hpass
      · cases hpass
        have hsame : (applyContinuousReplayRuntimeCounters w.runtime result).2.storedRows =
            result.storedRows := by
          rw [applyContinuousReplayRuntimeCounters]
          split <;> rfl
        exact ⟨hsame.trans hrows, hsame ▸ hpos, fun _ => marked_counted (hrows ▸ hpos)⟩
      · cases hpass
  · exact hidle

/-- Every replay counted has rows. -/
theorem replayedRows_pos (hR : w.Right durable) (h : w.counted ≠ []) : 0 < w.replayedRows := by
  obtain ⟨entry, rest, hcounted⟩ := List.exists_cons_of_ne_nil h
  have hentry : entry ∈ w.counted := by rw [hcounted]; exact List.mem_cons_self
  have hmarked := (hR.marked entry.1).mp (List.mem_map_of_mem hentry)
  rw [replayedRows, hcounted, List.map_cons, List.sum_cons, hR.rows entry hentry]
  exact Nat.add_pos_left hmarked.2 _

theorem replayedCount_takeReport {payload : Report}
    (h : nonnegativeInt payload.replayedCount 0 ≤ w.runtime.metrics.progress.replayedCount) :
    (ContinuousJob.takeReport w.runtime payload).metrics.progress.replayedCount =
      w.runtime.metrics.progress.replayedCount := by
  rw [ContinuousJob.takeReport]
  dsimp only
  rw [ContinuousJob.takeProgress]
  split
  · exact max_eq_right h
  · rfl

/-- A report takes the maximum: the rows of replays are lost in what it raises the stream
count by. -/
theorem report_spec (hS : w.Sound durable) (hR : w.Right durable) {payload : Report}
    (hpayload : nonnegativeInt payload.replayedCount 0 ∈ w.handed) :
    ((w.step (.report payload)).Right durable ↔
        (w.stream < nonnegativeInt payload.storedCount 0 → w.counted = [])) ∧
      (w.step (.report payload)).Sound durable := by
  have hreplayed := replayedCount_takeReport (hS.handed _ hpayload)
  have hstored : (w.step (.report payload)).runtime.storedCount =
      max w.runtime.storedCount (nonnegativeInt payload.storedCount 0) := rfl
  have hstream : (w.step (.report payload)).stream =
      max w.stream (nonnegativeInt payload.storedCount 0) := rfl
  have hrows : (w.step (.report payload)).replayedRows = w.replayedRows := rfl
  have hcounts : (w.step (.report payload)).runtime.storedCount =
        (w.step (.report payload)).stream + (w.step (.report payload)).replayedRows ↔
      (w.stream < nonnegativeInt payload.storedCount 0 → w.counted = []) := by
    rw [hstored, hstream, hrows, hR.stored]
    constructor
    · intro h hraise
      by_contra hcounted
      have hpos := replayedRows_pos hR hcounted
      omega
    · intro h
      by_cases hraise : w.stream < nonnegativeInt payload.storedCount 0
      · have hzero : w.replayedRows = 0 := by rw [replayedRows, h hraise]; rfl
        omega
      · omega
  refine ⟨⟨fun h => hcounts.mp h.stored, fun h => ?_⟩, ⟨hS.runs, hS.passes, ?_⟩⟩
  · exact ⟨hR.once, hR.rows, hR.marked, hreplayed.trans hR.replayed, hcounts.mpr h,
      fun _ _ _ _ _ => counted_of_retry⟩
  · intro count hcount
    exact (hS.handed count hcount).trans hreplayed.ge

theorem submit_spec (hS : w.Sound durable) (hR : w.Right durable) (p : Nat) :
    (w.step (.submit p runId)).Right durable ∧ (w.step (.submit p runId)).Sound durable := by
  simp only [step]
  split
  · rename_i hpass hrow
    have hm : ¬ w.Marked durable runId := by
      rw [Marked, hrow]
      exact fun h => absurd h.1 (by simp)
    have hrun : RowSound durable runId { status := .running, result := none, lastError := none } :=
      ⟨by rintro _ ⟨⟩, fun _ => by simp [MaintenanceRun.flag]⟩
    refine ⟨right_setPass.mpr ((right_setRun hR fun h => ?_).mpr fun h => absurd h hm),
      (hS.setRun hrun fun h => absurd h hm).setPass ?_⟩
    · simp [MaintenanceRun.flag] at h
    · rintro pass ⟨⟩
      trivial
  · exact ⟨hR, hS⟩

/-- What one commit does to the law: it is kept exactly if nothing is disturbed. -/
theorem right_step_iff (hS : w.Sound durable) (hR : w.Right durable) {call : ReplayCall}
    (hpromised : w.Promised durable call) :
    ((w.step call).Right durable ↔ w.Undisturbed durable call) ∧
      (w.Undisturbed durable call → (w.step call).Sound durable) := by
  have hquiet : ∀ {next : ReplayWorld}, next.Right durable → next.Sound durable →
      w.overwrites call = none → (∀ payload, call ≠ .report payload) →
      (next.Right durable ↔ w.Undisturbed durable call) ∧
        (w.Undisturbed durable call → next.Sound durable) := by
    intro next hright hsound hnone hcall
    refine ⟨⟨fun _ => ⟨?_, fun payload h => absurd h (hcall payload)⟩, fun _ => hright⟩,
      fun _ => hsound⟩
    rw [hnone]
    trivial
  have hcopy : ∀ {next : ReplayWorld},
      ((next.Right durable ↔ w.Knows durable (w.overwrites call)) ∧
        (w.Knows durable (w.overwrites call) → next.Sound durable)) →
      (∀ payload, call ≠ .report payload) →
      (next.Right durable ↔ w.Undisturbed durable call) ∧
        (w.Undisturbed durable call → next.Sound durable) := by
    rintro next ⟨hright, hsound⟩ hcall
    refine ⟨⟨fun h => ⟨hright.mp h, fun payload h => absurd h (hcall payload)⟩,
      fun h => hright.mpr h.current⟩, fun h => hsound h.current⟩
  have hexecuting : ∀ {next : ReplayWorld} {runId : Text},
      ((next.Right durable ↔ ¬ w.Marked durable runId) ∧
        (¬ w.Marked durable runId → next.Sound durable)) →
      (next.Right durable ↔ w.Knows durable (some (runId, none))) ∧
        (w.Knows durable (some (runId, none)) → next.Sound durable) := by
    rintro next runId ⟨hright, hsound⟩
    have hknows : w.Knows durable (some (runId, none)) ↔ ¬ w.Marked durable runId :=
      ⟨fun h hm => absurd (h hm) (by simp), fun h hm => absurd hm h⟩
    rw [hknows]
    exact ⟨hright, hsound⟩
  cases call with
  | submit p runId =>
      obtain ⟨hright, hsound⟩ := submit_spec hS hR p
      exact hquiet hright hsound rfl (by rintro _ ⟨⟩)
  | finish p result =>
      refine hcopy ?_ (by rintro _ ⟨⟩)
      rcases hp : w.passes p with _ | ⟨runId⟩ | ⟨_⟩ | ⟨_⟩ | ⟨_⟩
      case some.executing =>
        have hspec := hexecuting (finish_spec hS hR hp (hpromised runId hp))
        simp only [overwrites, hp]
        exact hspec
      all_goals
        have hidle : w.step (.finish p result) = w := by simp only [step, finish, hp]
        simp only [overwrites, hp, hidle]
        exact ⟨⟨fun _ => trivial, fun _ => hR⟩, fun _ => hS⟩
  | fail p evidence message =>
      refine hcopy ?_ (by rintro _ ⟨⟩)
      rcases hp : w.passes p with _ | ⟨runId⟩ | ⟨_⟩ | ⟨_⟩ | ⟨_⟩
      case some.executing =>
        have hspec := hexecuting (@fail_spec _ _ _ hS hR _ _ message hp (hpromised runId hp))
        simp only [overwrites, hp]
        exact hspec
      all_goals
        have hidle : w.step (.fail p evidence message) = w := by simp only [step, fail, hp]
        simp only [overwrites, hp, hidle]
        exact ⟨⟨fun _ => trivial, fun _ => hR⟩, fun _ => hS⟩
  | stale runId evidence runnerEnded =>
      obtain ⟨hright, hsound⟩ := @stale_spec _ _ _ hS hR _ runnerEnded hpromised
      exact hquiet hright hsound rfl (by rintro _ ⟨⟩)
  | read p runId evidence =>
      obtain ⟨hright, hsound⟩ := @read_spec _ _ _ hS hR p _ hpromised
      exact hquiet hright hsound rfl (by rintro _ ⟨⟩)
  | materialize p outcome => exact hcopy (materialize_spec hS hR p outcome) (by rintro _ ⟨⟩)
  | counters p => exact hcopy (counters_spec hS hR p) (by rintro _ ⟨⟩)
  | save p => exact hcopy (save_spec hS hR p) (by rintro _ ⟨⟩)
  | crash p =>
      exact hquiet (right_setPass.mpr hR) (hS.setPass (by rintro _ ⟨⟩)) rfl (by rintro _ ⟨⟩)
  | startWorker =>
      refine hquiet ⟨hR.once, hR.rows, hR.marked, hR.replayed, hR.stored,
        fun _ _ _ _ _ => counted_of_retry⟩ ⟨hS.runs, hS.passes, ?_⟩ rfl (by rintro _ ⟨⟩)
      intro count hcount
      rcases List.mem_cons.mp hcount with rfl | hold
      · exact le_refl _
      · exact hS.handed count hold
  | report payload =>
      obtain ⟨hright, hsound⟩ := report_spec hS hR hpromised
      refine ⟨hright.trans ⟨fun h => ⟨trivial, ?_⟩, fun h => h.report payload rfl⟩, fun _ => hsound⟩
      rintro _ ⟨⟩
      exact h

theorem right_new (identity : ConsumerIdentity) : (new identity).Right durable :=
  ⟨List.nodup_nil, by rintro _ ⟨⟩,
    fun _ => ⟨by rintro ⟨⟩, fun h => absurd h.1 (by simp [new])⟩, rfl, rfl,
    fun _ _ _ _ _ => counted_of_retry⟩

theorem sound_new (identity : ConsumerIdentity) : (new identity).Sound durable :=
  ⟨by rintro _ _ ⟨⟩, by rintro _ _ ⟨⟩, by
    intro count hcount
    rw [List.mem_singleton.mp hcount]
    exact Nat.zero_le _⟩

end

/-- Over every run of a job: the counters are right throughout exactly if no commit
disturbs them. -/
theorem replay_counters_right_iff (durable : Text → Nat) (identity : ConsumerIdentity)
    (calls : List ReplayCall)
    (hpromised : Along (Promised durable) step (new identity) calls) :
    Always (Right durable) step (new identity) calls ↔
      Along (Undisturbed durable) step (new identity) calls :=
  always_iff_along_of (fun _ _ hS hR hcall => (right_step_iff hS hR hcall).1)
    (fun _ _ hS hR hcall => (right_step_iff hS hR hcall).2)
    (sound_new identity) (right_new identity) hpromised

/-! ## Two runs -/

def orders : ConsumerIdentity := ⟨"kafka:9092", "orders", "asklake"⟩

def replayRun : Text := ⟨"continuous-maint-1", by decide, by decide⟩

/-- Five rows, committed by the worker. -/
def fiveRows : ReplayResult where
  runId := some "continuous-maint-1"
  storedCount := some 5
  outputPath := some "s3a://lake/orders"
  manifestPath := some "s3a://lake/orders/_replay-manifests/run_id=continuous-maint-1"

def noEvidence : ReplayEvidence := ⟨none, .missing, {}⟩

def streamReport (rows : Int) : Report := { storedCount := some rows }

/-- A replay after the last report of a paused worker. -/
def quietRun : List ReplayCall :=
  [.report (streamReport 10), .submit 0 replayRun, .finish 0 fiveRows, .materialize 0 .applied,
    .counters 0, .save 0, .startWorker]

/-- The last report of the worker is read only after the replay was counted. -/
def lateReport : List ReplayCall := quietRun ++ [.report (streamReport 14)]

/-- Two retries read the row of a pass that died. -/
def twoRetries : List ReplayCall :=
  [.submit 0 replayRun, .finish 0 fiveRows, .crash 0, .read 1 replayRun noEvidence,
    .read 2 replayRun noEvidence, .materialize 1 .applied, .counters 1, .materialize 2 .applied,
    .counters 2]

theorem noEvidence_fromWorker (durable : Text → Nat) (runId : Text) :
    noEvidence.FromWorker durable runId := ⟨by rintro _ ⟨⟩, by rintro ⟨⟩⟩

theorem quietRun_promised : Along (Promised fun _ => 5) step (new orders) quietRun :=
  ⟨List.mem_singleton.mpr rfl, trivial, fun _ _ => rfl, trivial, trivial, trivial, trivial, trivial⟩

theorem replay_counters_right_quietRun :
    Always (Right fun _ => 5) step (new orders) quietRun := by
  refine (replay_counters_right_iff (fun _ => 5) orders quietRun quietRun_promised).mpr
    ⟨⟨trivial, fun _ _ _ => rfl⟩, ⟨trivial, by rintro _ ⟨⟩⟩, ⟨fun h => ?_, by rintro _ ⟨⟩⟩,
      ⟨trivial, by rintro _ ⟨⟩⟩, ⟨fun h => ?_, by rintro _ ⟨⟩⟩, ⟨fun _ => rfl, by rintro _ ⟨⟩⟩,
      ⟨trivial, by rintro _ ⟨⟩⟩, trivial⟩
  · exact absurd h.1 (by decide +kernel)
  · exact absurd h.1 (by decide +kernel)

/-- Ten rows of the stream and five of the replay, then four more of the stream: fifteen.
And five rows counted twice. -/
theorem late_report_swallowed :
    (Along (Promised fun _ => 5) step (new orders) lateReport ∧
      (play step (new orders) lateReport).runtime.storedCount = 15 ∧
      ¬ (play step (new orders) lateReport).Right fun _ => 5) ∧
    Along (Promised fun _ => 5) step (new orders) twoRetries ∧
      (play step (new orders) twoRetries).runtime.metrics.progress.replayedCount = 10 ∧
      ¬ (play step (new orders) twoRetries).Right fun _ => 5 := by
  have hhanded : (0 : Nat) ∈ (play step (new orders) quietRun).handed := by decide +kernel
  refine ⟨⟨along_append.mpr ⟨quietRun_promised, hhanded, trivial⟩, by decide +kernel,
    fun h => ?_⟩, ⟨trivial, fun _ _ => rfl, trivial, noEvidence_fromWorker _ _,
      noEvidence_fromWorker _ _, trivial, trivial, trivial, trivial, trivial⟩, by decide +kernel,
    fun h => ?_⟩
  · exact absurd h.stored (by decide +kernel)
  · exact absurd h.once (by decide +kernel)

end ReplayWorld

end AskLake.ContinuousRuntime

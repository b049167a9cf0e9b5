/-
# `AskLake.ContinuousSql.RevisionRunner` — which inputs a refresh has seen

One worker reconciles a job again and again, while its input datasets get new revisions and
the job is started over in a new run generation.  Two things decide whether a pass has
anything to do:

    _already_applied          the newest batch, of this generation, has these very inputs
    claim_revision_refresh    the largest pinned realtime revision is above the watermark

The first compares all inputs, the second one number of the realtime ones, which no restart
sets back.  A pass whose inputs are new in the first sense and old in the second returns, and
the newest batch stays what it was.
-/
import AskLake.ContinuousSql.RefreshClaims

namespace AskLake.ContinuousSql

open AskLake.Lib AskLake.Python AskLake.Events AskLake.Dashboard

/-! ## What a pass raises -/

inductive RefreshError
  /-- an `ApiError`, with the details that are not the job's id -/
  | api (code message : String) (details : List String)
  | writer (code : String)
  | key
  | value (message : String)
  deriving DecidableEq

/-- `_pending` -/
def RefreshError.pending (datasetId reason : String) (revision : Option Nat) : RefreshError :=
  .api "CONTINUOUS_SQL_INPUT_REVISION_PENDING"
    "A required input Dataset has not published a queryable immutable revision yet."
    ([datasetId, reason] ++ revision.toList.map toString)

/-- What the row keeps of `str(exc)`. -/
def RefreshError.text : RefreshError → String
  | api code message _ => s!"('{code}', '{message}')"
  | writer code => code
  | key => ""
  | value message => message

/-! ## `pin_inputs` -/

/-- `get_commit` -/
def getCommit (live : Db) (datasetId : String) (revision : Nat) : Option RevisionCommit :=
  live.commits.find? fun commit => commit.datasetId = datasetId ∧ commit.revision = revision

/-- One input: a static one is only looked up, a dataset is pinned at its latest revision. -/
def pinInput (staticBindings : List (String × String)) (live : Db) (dependency : Dependency) :
    Except RefreshError (Option PinnedRevisionInput) :=
  let datasetId := dependency.inputDatasetId
  if dependency.inputType = "static" then do
    rejectIf (dependency.required = true ∧ (staticBindings.lookup datasetId).getD "" = "")
      (.pending datasetId "static_snapshot_missing" none)
    pure none
  else do
    let revision := (live.freshness datasetId).elim 0 Freshness.latestRevision
    let snapshotId := strip (((getCommit live datasetId revision).bind
      RevisionCommit.snapshotId).getD "")
    rejectIf (dependency.required = true ∧ revision = 0)
      (.pending datasetId "revision_missing" none)
    rejectIf (dependency.required = true ∧ snapshotId = "")
      (.pending datasetId "snapshot_missing" (some revision))
    if revision = 0 ∨ snapshotId = "" then pure none
    else pure (some ⟨datasetId, revision, snapshotId⟩)

def pinInputs (dependencies : List Dependency) (staticBindings : List (String × String))
    (live : Db) : Except RefreshError (List PinnedRevisionInput) := do
  let pinned ← dependencies.mapM (pinInput staticBindings live)
  pure pinned.reduceOption

/-! ## `_transform_select` -/

structure PlanRelation where
  datasetId : String
  /-- catalog, schema and table of `queryEngineTable or {}`, where it is a `dict` -/
  mapping : Option (String × String × String)

/-- The `compiled_plan` of a job: what is no `dict` among the relations is `none`. -/
structure RevisionPlan where
  relations : List (Option PlanRelation)
  runtimeSql : String

/-- `"…"`, and `'…'`, with the quote doubled. -/
def quoted (quote : Char) (value : String) : String :=
  String.ofList (quote :: (value.toList.flatMap fun c => if c = quote then [c, c] else [c])
    ++ [quote])

def qualifiedIdentifier (catalog schema table : String) : String :=
  quoted '"' catalog ++ "." ++ quoted '"' schema ++ "." ++ quoted '"' table

/-- `snapshot_version_literal`: a second minus sign is left to `int`. -/
def snapshotVersionLiteral (value : String) : Except RefreshError String :=
  let normalized := (strip value).toList
  let digits := normalized.dropWhile (· = '-')
  if digits = [] ∨ digits.all Char.isDigit = false then
    .error (.writer "ICEBERG_SNAPSHOT_ID_INVALID")
  else if digits.length + 1 < normalized.length then
    .error (.value s!"invalid literal for int() with base 10: '{strip value}'")
  else
    let n : Int := Nat.ofDigitChars 10 digits 0
    .ok (toString (if normalized.length = digits.length then n else -n))

def relationPending (datasetId : String) : RefreshError :=
  .api "CONTINUOUS_SQL_INPUT_REVISION_PENDING" "A relation snapshot is unavailable." [datasetId]

/-- The name of one relation, and its snapshot. -/
def relationCte (inputs : List InputSnapshot) (index : Nat) (relation : PlanRelation) :
    Except RefreshError String := do
  let snapshot := inputs.reverse.find? fun item => item.datasetId = relation.datasetId
  let (catalog, schema, table) ← orReject
    (if relation.datasetId = "" then none else relation.mapping)
    (relationPending relation.datasetId)
  let item ← orReject snapshot (relationPending relation.datasetId)
  let version ← snapshotVersionLiteral item.snapshotId
  pure (s!"\"__asklake_relation_{index}\" AS (SELECT * FROM " ++
    qualifiedIdentifier (orDefault catalog "iceberg") schema table ++
    s!" FOR VERSION AS OF {version})")

/-- `strip().rstrip(";")` -/
def bareSql (runtimeSql : String) : String :=
  String.ofList ((strip runtimeSql).toList.rdropWhile (· = ';'))

def transformSelect (plan : RevisionPlan) (inputs : List InputSnapshot)
    (publicationRunId : String) : Except RefreshError String := do
  let ctes ← (plan.relations.zipIdx.filterMap fun item =>
    item.1.map fun relation => (item.2, relation)).mapM fun item =>
      relationCte inputs item.1 item.2
  rejectIf (ctes = [] ∨ bareSql plan.runtimeSql = "")
    (.api "CONTINUOUS_SQL_REVISION_PLAN_INVALID" "Revision transform plan is incomplete." [])
  pure ("WITH " ++ String.intercalate ", " ctes ++ " SELECT \"__asklake_result\".*, " ++
    quoted '\'' publicationRunId ++ " AS \"_asklake_run_id\", " ++
    "CURRENT_TIMESTAMP AS \"_asklake_ingested_at\" " ++
    "FROM (" ++ bareSql plan.runtimeSql ++ ") AS \"__asklake_result\"")

/-! ## The job -/

/-- A running job of one worker, with its active run. -/
structure RefreshedJob where
  live : Db
  row : RefreshState := {}
  runId : String
  generation : Nat
  staticBindings : List (String × String)
  batches : List RefreshBatch := []

namespace RefreshedJob

/-- The inputs that a pass would pin, and the largest realtime revision among them. -/
def pinned (dependencies : List Dependency) (s : RefreshedJob) :
    Except RefreshError (Int × List InputSnapshot) := do
  let pinned ← pinInputs dependencies s.staticBindings s.live
  let pass : RefreshPass := ⟨s.generation, s.staticBindings, pinned⟩
  let inputs ← orReject (pass.inputSnapshots dependencies) .key
  pure (pass.sourceRevision dependencies, inputs)

/-- A batch that the writer has committed and `reconcile_manifest` brought to the dashboard. -/
def readyBatch (s : RefreshedJob) (inputs : List InputSnapshot) : RefreshBatch :=
  ⟨s.generation, nextBatchId s.batches s.generation, .dashboardReady, inputs⟩

def publicationRunId (s : RefreshedJob) : String :=
  s!"{s.runId}:revision:{nextBatchId s.batches s.generation}"

/-- `reconcile`, from the claim on: what is raised releases the claim. -/
def refresh (plan : RevisionPlan) (s : RefreshedJob) (row : RefreshState) (sourceRevision : Int)
    (inputs : List InputSnapshot) : RefreshedJob × Except RefreshError Bool :=
  match transformSelect plan inputs s.publicationRunId with
  | .error e => ({ s with row := failRevisionRefresh row sourceRevision e.text }, .error e)
  | .ok _ =>
      ({ s with
          row := completeRevisionRefresh row sourceRevision
          batches := s.batches ++ [s.readyBatch inputs] }, .ok true)

/-- `ContinuousSqlRevisionRunner.reconcile` -/
def reconcile (dependencies : List Dependency) (plan : RevisionPlan) (staleAfterSeconds : Int)
    (s : RefreshedJob) (now : Int) : RefreshedJob × Except RefreshError Bool :=
  match s.pinned dependencies with
  | .error e => (s, .error e)
  | .ok (sourceRevision, inputs) =>
      if sourceRevision ≤ 0 then (s, .ok false)
      else if alreadyApplied s.batches s.generation inputs then
        ({ s with row := completeRevisionRefresh s.row sourceRevision }, .ok false)
      else
        match claimRevisionRefresh s.row "running" sourceRevision now staleAfterSeconds with
        | none => (s, .ok false)
        | some row => s.refresh plan row sourceRevision inputs

/-- A job that was never refreshed, in its first run. -/
def first (live : Db) (runId : String) (staticBindings : List (String × String)) :
    RefreshedJob where
  live := live
  runId := runId
  generation := 1
  staticBindings := staticBindings

/-- A new revision of some dataset, a new run of the job, or a pass. -/
inductive Event
  | record (request : CommitRequest)
  | restart (runId : String) (staticBindings : List (String × String))
  | reconcile (now : Int)

section
variable (env : Deployment) (dependencies : List Dependency) (plan : RevisionPlan)
  (staleAfterSeconds : Int)

def step (s : RefreshedJob) : Event → RefreshedJob
  | .record request =>
      match recordDatasetCommit env s.live s.live request with
      | .ok (live, _) => { s with live }
      | .error _ => s
  | .restart runId staticBindings =>
      { s with runId, staticBindings, generation := s.generation + 1 }
  | .reconcile now => (s.reconcile dependencies plan staleAfterSeconds now).1

/-! ## The latest inputs, once -/

/-- The newest batch of a generation that is on the dashboard. -/
def newestReady (batches : List RefreshBatch) (generation : Nat) : Option RefreshBatch :=
  latestBatch (batches.filter fun batch =>
    batch.generation = generation && batch.stage = .dashboardReady)

/-- Two batches of a generation are on the dashboard with none between them. -/
structure Consecutive (batches : List RefreshBatch) (a b : RefreshBatch) : Prop where
  left : a ∈ batches ∧ a.stage = .dashboardReady
  right : b ∈ batches ∧ b.stage = .dashboardReady
  generation : a.generation = b.generation
  lt : a.batchId < b.batchId
  between : ∀ c ∈ batches, c.stage = .dashboardReady → c.generation = a.generation →
    ¬ (a.batchId < c.batchId ∧ c.batchId < b.batchId)

/-- No refresh repeats the one before it. -/
def Alternates (batches : List RefreshBatch) : Prop :=
  ∀ a b, Consecutive batches a b → a.inputSnapshots ≠ b.inputSnapshots

/-- Once a pass returns, the newest batch is of the inputs that it pinned. -/
def Refreshed (s : RefreshedJob) (event : Event) : Prop :=
  Alternates (s.step env dependencies plan staleAfterSeconds event).batches ∧
  ∀ now, event = .reconcile now → ∀ published,
    (s.reconcile dependencies plan staleAfterSeconds now).2 = .ok published →
    ∃ sourceRevision inputs, s.pinned dependencies = .ok (sourceRevision, inputs) ∧
      (newestReady (s.step env dependencies plan staleAfterSeconds event).batches
        s.generation).map RefreshBatch.inputSnapshots = some inputs

/-- A pass finds its inputs applied, or a realtime revision above the watermark. -/
def Noticed (s : RefreshedJob) (event : Event) : Prop :=
  ∀ now, event = .reconcile now → ∀ sourceRevision inputs,
    s.pinned dependencies = .ok (sourceRevision, inputs) →
    alreadyApplied s.batches s.generation inputs = true ∨
      s.row.publishedSourceRevision < sourceRevision

end

/-! ## Batches in their order -/

/-- The order of `latestBatch`. -/
def Earlier (batch other : RefreshBatch) : Bool :=
  batch.generation < other.generation ||
    (batch.generation = other.generation && batch.batchId < other.batchId)

theorem earlier_iff {a b : RefreshBatch} : Earlier a b = true ↔
    a.generation < b.generation ∨ a.generation = b.generation ∧ a.batchId < b.batchId := by
  simp [Earlier]

theorem lt_nextBatchId {batches : List RefreshBatch} {batch : RefreshBatch} {generation : Nat}
    (hbatch : batch ∈ batches) (hgeneration : batch.generation = generation) :
    batch.batchId < nextBatchId batches generation := by
  unfold nextBatchId
  have hmem : batch.batchId ∈ (batches.filter fun other => other.generation = generation).map
      RefreshBatch.batchId :=
    List.mem_map_of_mem (List.mem_filter.mpr ⟨hbatch, by simpa using hgeneration⟩)
  cases hmax : ((batches.filter fun other => other.generation = generation).map
      RefreshBatch.batchId).max? with
  | none =>
      rw [List.max?_eq_none_iff.mp hmax] at hmem
      exact nomatch hmem
  | some last =>
      have hle : batch.batchId ≤ last := (List.max?_eq_some_iff.mp hmax).2 _ hmem
      exact Nat.lt_succ_of_le hle

/-! ## What a pass does -/

variable {env : Deployment} {dependencies : List Dependency} {plan : RevisionPlan}
  {staleAfterSeconds : Int} {s : RefreshedJob} {sourceRevision now : Int}
  {inputs : List InputSnapshot}

/-- A job between two passes: the batches are on the dashboard and in their order, of
generations there have been, no two in succession have the same inputs, and no claim is held. -/
structure Settled (s : RefreshedJob) : Prop where
  ready : ∀ batch ∈ s.batches, batch.stage = .dashboardReady
  sorted : s.batches.Pairwise fun batch other => Earlier batch other = true
  past : ∀ batch ∈ s.batches, batch.generation ≤ s.generation
  alternates : Alternates s.batches
  unclaimed : s.row.processingSourceRevision = none
  watermark : 0 ≤ s.row.publishedSourceRevision

theorem settled_first (live : Db) (runId : String) (staticBindings : List (String × String)) :
    (first live runId staticBindings).Settled where
  ready _ h := nomatch h
  sorted := .nil
  past _ h := nomatch h
  alternates _ _ h := nomatch h.left.1
  unclaimed := rfl
  watermark := le_refl 0

/-- The claim of a job that nobody has claimed. -/
theorem Settled.claim (hs : s.Settled) : claimRevisionRefresh s.row "running" sourceRevision now
    staleAfterSeconds = if s.row.publishedSourceRevision < sourceRevision then
      some { s.row with
        latestSourceRevision := sourceRevision
        processingSourceRevision := some sourceRevision
        refreshStatus := "running"
        refreshClaimedAt := some now
        refreshLastError := none }
    else none := by
  unfold claimRevisionRefresh
  by_cases hlt : s.row.publishedSourceRevision < sourceRevision
  · rw [if_pos ⟨rfl, hlt, Or.inl hs.unclaimed⟩, if_pos hlt]
  · rw [if_neg fun h => hlt h.2.1, if_neg hlt]

/-- The five ways of a pass. -/
inductive Pass (dependencies : List Dependency) (plan : RevisionPlan) (s : RefreshedJob) :
    RefreshedJob × Except RefreshError Bool → Prop
  | unpinned (e : RefreshError) (hpinned : s.pinned dependencies = .error e) :
      Pass dependencies plan s (s, .error e)
  | applied (sourceRevision : Int) (inputs : List InputSnapshot)
      (hpinned : s.pinned dependencies = .ok (sourceRevision, inputs))
      (happlied : alreadyApplied s.batches s.generation inputs = true)
      (row : RefreshState) (hunclaimed : row.processingSourceRevision = none)
      (hwatermark : 0 ≤ row.publishedSourceRevision) :
      Pass dependencies plan s ({ s with row }, .ok false)
  | refused (sourceRevision : Int) (inputs : List InputSnapshot)
      (hpinned : s.pinned dependencies = .ok (sourceRevision, inputs))
      (hnew : alreadyApplied s.batches s.generation inputs = false)
      (hle : sourceRevision ≤ s.row.publishedSourceRevision) :
      Pass dependencies plan s (s, .ok false)
  | failed (sourceRevision : Int) (inputs : List InputSnapshot) (e : RefreshError)
      (hpinned : s.pinned dependencies = .ok (sourceRevision, inputs))
      (hlt : s.row.publishedSourceRevision < sourceRevision)
      (row : RefreshState) (hunclaimed : row.processingSourceRevision = none)
      (hwatermark : row.publishedSourceRevision = s.row.publishedSourceRevision) :
      Pass dependencies plan s ({ s with row }, .error e)
  | refreshed (sourceRevision : Int) (inputs : List InputSnapshot)
      (hpinned : s.pinned dependencies = .ok (sourceRevision, inputs))
      (hnew : alreadyApplied s.batches s.generation inputs = false)
      (hlt : s.row.publishedSourceRevision < sourceRevision)
      (row : RefreshState) (hunclaimed : row.processingSourceRevision = none)
      (hwatermark : row.publishedSourceRevision = sourceRevision) :
      Pass dependencies plan s
        ({ s with row, batches := s.batches ++ [s.readyBatch inputs] }, .ok true)

theorem complete_unclaimed {row : RefreshState} (h : row.processingSourceRevision = none) :
    (completeRevisionRefresh row sourceRevision).processingSourceRevision = none := by
  unfold completeRevisionRefresh
  split
  · rfl
  · exact h

theorem complete_watermark (row : RefreshState) : row.publishedSourceRevision ≤
    (completeRevisionRefresh row sourceRevision).publishedSourceRevision := by
  unfold completeRevisionRefresh
  split
  · rename_i h
    exact h.1
  · exact le_refl _

/-- A claim that is completed, and one that is released. -/
theorem complete_claimed {row : RefreshState}
    (h : row.processingSourceRevision = some sourceRevision)
    (hle : row.publishedSourceRevision ≤ sourceRevision) :
    (completeRevisionRefresh row sourceRevision).processingSourceRevision = none ∧
      (completeRevisionRefresh row sourceRevision).publishedSourceRevision = sourceRevision := by
  rw [completeRevisionRefresh, if_pos ⟨hle, Or.inl h⟩]
  exact ⟨rfl, rfl⟩

theorem fail_claimed {row : RefreshState} (message : String)
    (h : row.processingSourceRevision = some sourceRevision) :
    (failRevisionRefresh row sourceRevision message).processingSourceRevision = none ∧
      (failRevisionRefresh row sourceRevision message).publishedSourceRevision =
        row.publishedSourceRevision := by
  rw [failRevisionRefresh, if_pos h]
  exact ⟨rfl, rfl⟩

theorem Settled.reconcile_cases (hs : s.Settled) :
    Pass dependencies plan s (s.reconcile dependencies plan staleAfterSeconds now) := by
  unfold reconcile
  cases hpinned : s.pinned dependencies with
  | error e => exact .unpinned e hpinned
  | ok found =>
      obtain ⟨sourceRevision, inputs⟩ := found
      simp only
      cases happlied : alreadyApplied s.batches s.generation inputs with
      | true =>
          split
          · exact .applied sourceRevision inputs hpinned happlied s.row hs.unclaimed hs.watermark
          · exact .applied sourceRevision inputs hpinned happlied _
              (complete_unclaimed hs.unclaimed) (hs.watermark.trans (complete_watermark s.row))
      | false =>
          rw [if_neg Bool.false_ne_true, hs.claim]
          by_cases hlt : s.row.publishedSourceRevision < sourceRevision
          · have hpos : ¬ sourceRevision ≤ 0 := by
              have := hs.watermark
              omega
            rw [if_neg hpos, if_pos hlt]
            simp only [refresh]
            cases transformSelect plan inputs s.publicationRunId with
            | error e =>
                obtain ⟨hunclaimed, hwatermark⟩ := @fail_claimed sourceRevision
                  { s.row with
                    latestSourceRevision := sourceRevision
                    processingSourceRevision := some sourceRevision
                    refreshStatus := "running"
                    refreshClaimedAt := some now
                    refreshLastError := none } e.text rfl
                exact .failed sourceRevision inputs e hpinned hlt _ hunclaimed hwatermark
            | ok sql =>
                obtain ⟨hunclaimed, hwatermark⟩ := @complete_claimed sourceRevision
                  { s.row with
                    latestSourceRevision := sourceRevision
                    processingSourceRevision := some sourceRevision
                    refreshStatus := "running"
                    refreshClaimedAt := some now
                    refreshLastError := none } rfl hlt.le
                exact .refreshed sourceRevision inputs hpinned happlied hlt _ hunclaimed hwatermark
          · rw [if_neg hlt]
            split <;> exact .refused sourceRevision inputs hpinned happlied (by omega)

/-! ## The newest batch -/

/-- A new batch comes after all others. -/
theorem Settled.earlier_ready (hs : s.Settled) {batch : RefreshBatch} (h : batch ∈ s.batches) :
    Earlier batch (s.readyBatch inputs) = true := by
  rcases Nat.lt_or_eq_of_le (hs.past batch h) with hlt | heq
  · exact earlier_iff.mpr (Or.inl hlt)
  · exact earlier_iff.mpr (Or.inr ⟨heq, lt_nextBatchId h heq⟩)

theorem Settled.newestReady_eq (hs : s.Settled) : newestReady s.batches s.generation =
    (s.batches.filter fun batch =>
      batch.generation = s.generation && batch.stage = .dashboardReady).getLast? :=
  latestRow_of_sorted (hs.sorted.sublist List.filter_sublist)

/-- The newest batch of the current generation has certain inputs where they count as applied. -/
theorem Settled.newestReady_iff (hs : s.Settled) :
    (newestReady s.batches s.generation).map RefreshBatch.inputSnapshots = some inputs ↔
      alreadyApplied s.batches s.generation inputs = true := by
  have hlatest : latestBatch s.batches = s.batches.getLast? := latestRow_of_sorted hs.sorted
  rw [hs.newestReady_eq, alreadyApplied, hlatest]
  rcases List.eq_nil_or_concat s.batches with hnil | ⟨init, last, hconcat⟩
  · rw [hnil]
    simp
  · rw [List.concat_eq_append] at hconcat
    have hready := hs.ready
    have hsorted := hs.sorted
    have hpast := hs.past
    rw [hconcat] at hready hsorted hpast ⊢
    have hlast : last ∈ init ++ [last] := List.mem_append_right init (List.mem_singleton_self last)
    simp only [List.getLast?_concat, Option.any_some, hready last hlast, decide_true, Bool.and_true]
    by_cases hgeneration : last.generation = s.generation
    · have hkept : [last].filter (fun batch =>
          batch.generation = s.generation && batch.stage = .dashboardReady) = [last] := by
        simp [hgeneration, hready last hlast]
      rw [List.filter_append, hkept, List.getLast?_concat]
      simp [hgeneration]
    · -- no earlier batch can be of the current generation either
      have hnone : (init ++ [last]).filter (fun batch =>
          batch.generation = s.generation && batch.stage = .dashboardReady) = [] := by
        rw [List.filter_eq_nil_iff]
        intro batch hbatch hcurrent
        simp only [Bool.and_eq_true, decide_eq_true_eq] at hcurrent
        rcases List.mem_append.mp hbatch with hinit | hsingle
        · have hearlier := earlier_iff.mp ((List.pairwise_append.mp hsorted).2.2 batch hinit last
            (List.mem_singleton_self last))
          have := hpast last hlast
          omega
        · rw [List.mem_singleton.mp hsingle] at hcurrent
          exact hgeneration hcurrent.1
      rw [hnone]
      simp [hgeneration]

/-- A refresh puts its batch at the end. -/
theorem Settled.newestReady_append (hs : s.Settled) :
    newestReady (s.batches ++ [s.readyBatch inputs]) s.generation =
      some (s.readyBatch inputs) := by
  have hkept : [s.readyBatch inputs].filter (fun batch =>
      batch.generation = s.generation && batch.stage = .dashboardReady) = [s.readyBatch inputs] := by
    simp [readyBatch]
  unfold newestReady
  rw [List.filter_append, hkept]
  refine latestRow_append fun other hother => ?_
  exact hs.earlier_ready (List.mem_filter.mp hother).1

theorem Settled.alternates_append (hs : s.Settled)
    (hnew : alreadyApplied s.batches s.generation inputs = false) :
    Alternates (s.batches ++ [s.readyBatch inputs]) := by
  intro a b h
  obtain ⟨⟨ha, haready⟩, ⟨hb, hbready⟩, hgeneration, hlt, hbetween⟩ := h
  have hkeep : ∀ c ∈ s.batches, c.stage = .dashboardReady → c.generation = a.generation →
      ¬ (a.batchId < c.batchId ∧ c.batchId < b.batchId) :=
    fun c hc => hbetween c (List.mem_append_left _ hc)
  rcases List.mem_append.mp ha with ha | ha <;> rcases List.mem_append.mp hb with hb | hb
  · exact hs.alternates a b ⟨⟨ha, haready⟩, ⟨hb, hbready⟩, hgeneration, hlt, hkeep⟩
  · rw [List.mem_singleton.mp hb] at hgeneration hlt hkeep ⊢
    -- then `a` is the newest batch, whose inputs are not these
    have happlied : alreadyApplied s.batches s.generation inputs = true ↔
        a.inputSnapshots = inputs := by
      have hlatest : latestBatch s.batches = s.batches.getLast? := latestRow_of_sorted hs.sorted
      rw [alreadyApplied, hlatest]
      rcases List.eq_nil_or_concat s.batches with hnil | ⟨init, last, hconcat⟩
      · rw [hnil] at ha
        exact nomatch ha
      · rw [List.concat_eq_append] at hconcat
        have hlastmem : last ∈ s.batches := by
          rw [hconcat]
          exact List.mem_append_right init (List.mem_singleton_self last)
        have halast : a = last := by
          rw [hconcat] at ha
          rcases List.mem_append.mp ha with hinit | hsingle
          · have hsorted := hs.sorted
            rw [hconcat] at hsorted
            have hearlier := earlier_iff.mp ((List.pairwise_append.mp hsorted).2.2 a hinit last
              (List.mem_singleton_self last))
            have hle := hs.past last hlastmem
            have hcurrent : last.generation = s.generation := by
              have : a.generation = s.generation := hgeneration
              omega
            refine absurd ⟨?_, lt_nextBatchId hlastmem hcurrent⟩
              (hkeep last hlastmem (hs.ready last hlastmem) (hcurrent.trans hgeneration.symm))
            have : a.generation = s.generation := hgeneration
            omega
          · exact List.mem_singleton.mp hsingle
        rw [hconcat, List.getLast?_concat, Option.any_some, ← halast]
        have hcurrent : a.generation = s.generation := hgeneration
        simp [hcurrent, haready]
    intro hsame
    rw [happlied.mpr hsame] at hnew
    exact nomatch hnew
  · rw [List.mem_singleton.mp ha] at hgeneration hlt
    exact absurd (lt_nextBatchId hb hgeneration.symm) (Nat.lt_asymm hlt)
  · rw [List.mem_singleton.mp ha, List.mem_singleton.mp hb] at hlt
    exact absurd hlt (lt_irrefl _)

/-! ## The run -/

theorem Settled.pass (hs : s.Settled) {result : RefreshedJob × Except RefreshError Bool}
    (h : Pass dependencies plan s result) : result.1.Settled := by
  cases h with
  | unpinned e hpinned => exact hs
  | refused sourceRevision inputs hpinned hnew hle => exact hs
  | applied sourceRevision inputs hpinned happlied row hunclaimed hwatermark =>
      exact ⟨hs.ready, hs.sorted, hs.past, hs.alternates, hunclaimed, hwatermark⟩
  | failed sourceRevision inputs e hpinned hlt row hunclaimed hwatermark =>
      exact ⟨hs.ready, hs.sorted, hs.past, hs.alternates, hunclaimed,
        hs.watermark.trans hwatermark.ge⟩
  | refreshed sourceRevision inputs hpinned hnew hlt row hunclaimed hwatermark =>
      refine ⟨?_, ?_, ?_, hs.alternates_append hnew, hunclaimed, ?_⟩
      · exact List.forall_mem_append.mpr ⟨hs.ready, List.forall_mem_singleton.mpr rfl⟩
      · refine List.pairwise_append.mpr ⟨hs.sorted, List.pairwise_singleton .., ?_⟩
        intro batch hbatch other hother
        rw [List.mem_singleton.mp hother]
        exact hs.earlier_ready hbatch
      · exact List.forall_mem_append.mpr ⟨hs.past, List.forall_mem_singleton.mpr (le_refl _)⟩
      · have := hs.watermark
        exact hwatermark.symm ▸ (by omega)

theorem Settled.step (hs : s.Settled) (event : Event) :
    (s.step env dependencies plan staleAfterSeconds event).Settled := by
  cases event with
  | record request =>
      simp only [RefreshedJob.step]
      split
      · exact ⟨hs.ready, hs.sorted, hs.past, hs.alternates, hs.unclaimed, hs.watermark⟩
      · exact hs
  | restart runId staticBindings =>
      exact ⟨hs.ready, hs.sorted, fun batch h => (hs.past batch h).trans (Nat.le_succ _),
        hs.alternates, hs.unclaimed, hs.watermark⟩
  | reconcile now => exact hs.pass hs.reconcile_cases

theorem Settled.refreshed_iff (hs : s.Settled) (event : Event) :
    s.Refreshed env dependencies plan staleAfterSeconds event ↔
      s.Noticed dependencies event := by
  constructor
  · rintro ⟨-, h⟩ now rfl sourceRevision inputs hpinned
    have hreturn := h now rfl
    have hpass : Pass dependencies plan s (s.reconcile dependencies plan staleAfterSeconds now) :=
      hs.reconcile_cases
    simp only [RefreshedJob.step] at hreturn
    generalize s.reconcile dependencies plan staleAfterSeconds now = result at hreturn hpass
    cases hpass with
    | unpinned e hnone => exact nomatch hpinned.symm.trans hnone
    | applied _ found hfound happlied =>
        cases hpinned.symm.trans hfound
        exact Or.inl happlied
    | refused _ found hfound hnew hle =>
        obtain ⟨_, inputs', hpinned', hnewest⟩ := hreturn false rfl
        cases hpinned.symm.trans hpinned'
        exact Or.inl (hs.newestReady_iff.mp hnewest)
    | failed _ found e hfound hlt =>
        cases hpinned.symm.trans hfound
        exact Or.inr hlt
    | refreshed _ found hfound hnew hlt =>
        cases hpinned.symm.trans hfound
        exact Or.inr hlt
  · intro hnoticed
    refine ⟨(hs.step event).alternates, ?_⟩
    rintro now rfl published hreturn
    have hpass : Pass dependencies plan s (s.reconcile dependencies plan staleAfterSeconds now) :=
      hs.reconcile_cases
    have hnoticed := hnoticed now rfl
    simp only [RefreshedJob.step]
    generalize s.reconcile dependencies plan staleAfterSeconds now = result at hreturn hpass ⊢
    cases hpass with
    | unpinned e hnone => exact nomatch hreturn
    | applied sourceRevision inputs hpinned happlied =>
        exact ⟨sourceRevision, inputs, hpinned, hs.newestReady_iff.mpr happlied⟩
    | refused sourceRevision inputs hpinned hnew hle =>
        rcases hnoticed sourceRevision inputs hpinned with happlied | hlt
        · exact nomatch hnew.symm.trans happlied
        · omega
    | failed sourceRevision inputs e hpinned hlt => exact nomatch hreturn
    | refreshed sourceRevision inputs hpinned hnew hlt =>
        refine ⟨sourceRevision, inputs, hpinned, ?_⟩
        rw [hs.newestReady_append]
        rfl

/-- The passes of a run all leave the newest batch at the inputs they pinned, exactly where each
finds its inputs applied or a realtime revision above the watermark. -/
theorem latest_inputs_refreshed (env : Deployment) (dependencies : List Dependency)
    (plan : RevisionPlan) (staleAfterSeconds : Int) (live : Db) (runId : String)
    (staticBindings : List (String × String)) (events : List Event) :
    Along (Refreshed env dependencies plan staleAfterSeconds)
        (RefreshedJob.step env dependencies plan staleAfterSeconds)
        (first live runId staticBindings) events ↔
      Along (Noticed dependencies) (RefreshedJob.step env dependencies plan staleAfterSeconds)
        (first live runId staticBindings) events :=
  along_iff_along (fun _ event hs => Settled.refreshed_iff hs event)
    (fun _ event hs _ => Settled.step hs event) (settled_first live runId staticBindings)

/-! ## A batch input alone -/

/-- The job joins the orders, in real time, with the customers of a batch. -/
def joinDependencies : List Dependency :=
  [⟨"customers", some "customers-batch", "batch", true⟩,
    ⟨"orders", some "orders-stream", "realtime", true⟩]

def joinPlan : RevisionPlan where
  relations := [some ⟨"orders", some ("", "lake", "orders")⟩,
    some ⟨"customers", some ("", "lake", "customers")⟩]
  runtimeSql := "SELECT * FROM \"__asklake_relation_0\""

def snapshotCommit (datasetId runId snapshotId : String) : CommitRequest where
  datasetId := datasetId
  runId := runId
  storageLocation := "s3://lake/" ++ datasetId
  storageFormat := "iceberg"
  materializationMode := "snapshot"
  rowCount := 10
  nextCheckAfterMs := 0
  snapshotId := some snapshotId

def plainDeployment : Deployment where
  sha256 := id
  lower := id
  casefold := id

/-- Both inputs have a revision and are refreshed; then the customers get another one. -/
def customersAlone : List Event :=
  [.record (snapshotCommit "orders" "orders-1" "101"),
    .record (snapshotCommit "customers" "customers-1" "201"),
    .reconcile 0,
    .record (snapshotCommit "customers" "customers-2" "202"),
    .reconcile 1]

theorem customers_ignored :
    ¬ Along (Refreshed plainDeployment joinDependencies joinPlan 900)
      (RefreshedJob.step plainDeployment joinDependencies joinPlan 900) (first {} "run-1" [])
      customersAlone := by
  intro h
  have hlast := ((@along_append _ _ _ _ _ (customersAlone.take 4) (customersAlone.drop 4)).mp h).2.1
  obtain ⟨sourceRevision, inputs, hpinned, hnewest⟩ := hlast.2 1 rfl false (by decide +kernel)
  have hinputs : (play (RefreshedJob.step plainDeployment joinDependencies joinPlan 900)
      (first {} "run-1" []) (customersAlone.take 4)).pinned joinDependencies =
        .ok (1, [⟨"customers", some 2, "202"⟩, ⟨"orders", some 1, "101"⟩]) := by decide +kernel
  cases hinputs.symm.trans hpinned
  exact absurd hnewest (by decide +kernel)

end RefreshedJob

end AskLake.ContinuousSql

/-
# `AskLake.Realtime.Transactions` — the three writers as one machine

A publication, a binding switch and a dashboard revision each run in a session
of their own.  All three read the store once before they lock the dataset's
freshness row, and hold that lock to their commit, so that each is a request to
one `Machine`:

    exec env snapshot db request     the locked half, on the store it meets
    Elsewhere db db'                 what the writers of other tables may do

Sessions on different datasets do not share the freshness lock.  What they still
share, the checkpoint rows of one pipeline version and the unique keys, they
lock row by row until they commit, so that one of two that touch the same rows
waits for the other.

`exec_outcome` lists what a committed transaction can have done; every invariant
below is a case analysis on it.
-/
import AskLake.Lib.Session
import AskLake.Dashboard.Record
import AskLake.Realtime.Publication
import AskLake.Realtime.Recovery

namespace AskLake.Realtime

open AskLake.Lib AskLake.Python AskLake.Kafka AskLake.Events AskLake.Dashboard

inductive Request
  | publish (p : RealtimePublication)
  | switch (request : BindingSwitchRequest)
  | record (request : CommitRequest)

inductive Receipt
  | published (result : PublicationResult)
  | switched (result : BindingSwitchResult)
  | recorded (commit : RevisionCommit) (created : Bool)

def exec (env : Deployment) (snapshot db : Db) : Request → Except Error (Db × Receipt)
  | .publish p => do
      let (db', result) ← publish env snapshot db p
      pure (db', .published result)
  | .switch request => do
      let (db', result) ← switchBinding env snapshot db request
      pure (db', .switched result)
  | .record request => do
      let (db', commit, created) ← recordDatasetCommit env snapshot db request
      pure (db', .recorded commit created)

/-- Receipts, leases, materialization states, parity checks and stream cursors
have writers of their own.  They leave the revisions, the bindings and the
applied offsets alone, and append no dataset events. -/
structure Elsewhere (db db' : Db) : Prop where
  freshness : db'.freshness = db.freshness
  commits : db'.commits = db.commits
  catalog : db'.catalog = db.catalog
  operations : db'.operations = db.operations
  lastApplied : ∀ key, lastApplied db'.checkpoints key = lastApplied db.checkpoints key
  events : ∃ more, db'.events = db.events ++ more ∧ ∀ e ∈ more, e.resourceType ≠ "dataset"

def store (env : Deployment) : Machine Db Request Receipt Error where
  exec := exec env
  env := Elsewhere

/-- What a committed transaction has done. -/
inductive Outcome (env : Deployment) (snapshot db : Db) : Request → Receipt → Db → Prop
  | publishedBefore {p : RealtimePublication} {result : PublicationResult} :
      result.created = false → Outcome env snapshot db (.publish p) (.published result) db
  | published {p : RealtimePublication} {freshness : Freshness} {db' : Db}
      {result : PublicationResult} :
      Published env db p freshness db' result →
      Outcome env snapshot db (.publish p) (.published result) db'
  | switchedBefore {request : BindingSwitchRequest} {result : BindingSwitchResult} :
      result.created = false → Outcome env snapshot db (.switch request) (.switched result) db
  | switched {request : BindingSwitchRequest} {freshness : Freshness} {db' : Db}
      {result : BindingSwitchResult} :
      Switched env db request freshness db' result →
      Outcome env snapshot db (.switch request) (.switched result) db'
  | recordedBefore {request : CommitRequest} {commit : RevisionCommit} :
      Outcome env snapshot db (.record request) (.recorded commit false) db
  | patched {request : CommitRequest} {commit existing : RevisionCommit}
      {commits : List RevisionCommit} {manifest fingerprint : Option String} :
      updateCommit db.commits existing manifest fingerprint = .ok commits →
      Outcome env snapshot db (.record request) (.recorded commit false)
        { db with commits := commits }
  | duplicate {request : CommitRequest} {commit : RevisionCommit} :
      Outcome env snapshot db (.record request) (.recorded commit false)
        (ensureFreshness db request)
  | recorded {request : CommitRequest} {ranges : KafkaRanges} {commit : RevisionCommit}
      {db' : Db} :
      Recorded env db request ranges db' commit →
      Outcome env snapshot db (.record request) (.recorded commit true) db'

theorem exec_outcome {env : Deployment} {snapshot db db' : Db} {request : Request}
    {receipt : Receipt} (h : exec env snapshot db request = .ok (db', receipt)) :
    Outcome env snapshot db request receipt db' := by
  cases request with
  | publish p =>
      obtain ⟨⟨db'', result⟩, hrun, h⟩ := bind_eq_ok.mp h
      cases pure_eq_ok.mp h
      rcases publish_cases hrun with ⟨hold, rfl⟩ | ⟨freshness, hnew⟩
      · exact .publishedBefore hold
      · exact .published hnew
  | switch request =>
      obtain ⟨⟨db'', result⟩, hrun, h⟩ := bind_eq_ok.mp h
      cases pure_eq_ok.mp h
      rcases switchBinding_cases hrun with ⟨hold, rfl⟩ | ⟨freshness, hnew⟩
      · exact .switchedBefore hold
      · exact .switched hnew
  | record request =>
      obtain ⟨⟨db'', commit, created⟩, hrun, h⟩ := bind_eq_ok.mp h
      cases pure_eq_ok.mp h
      obtain ⟨ranges, -, hcase⟩ := record_cases hrun
      rcases hcase with ⟨rfl, existing, -, -, rfl | ⟨commits, hupdate, rfl⟩⟩ | ⟨rfl, -, rfl⟩ |
        ⟨rfl, hnew⟩
      · exact .recordedBefore
      · exact .patched hupdate
      · exact .duplicate
      · exact .recorded hnew

/-! ## What a log reports -/

/-- The new publication a log entry reports, if it does. -/
def newPublication : Request × Receipt → Option (RealtimePublication × PublicationResult)
  | (.publish p, .published result) => if result.created then some (p, result) else none
  | _ => none

/-- The publications of a log, in commit order. -/
def newPublications (log : List (Request × Receipt)) :
    List (RealtimePublication × PublicationResult) :=
  log.filterMap newPublication

theorem newPublications_append (log : List (Request × Receipt)) (entry : Request × Receipt) :
    newPublications (log ++ [entry]) = newPublications log ++ (newPublication entry).toList := by
  unfold newPublications
  rw [List.filterMap_append]
  cases h : newPublication entry <;> simp [h]

/-- The switch a log entry applied, if it did. -/
def newSwitch : Request × Receipt → Option (BindingSwitchRequest × BindingSwitchResult)
  | (.switch request, .switched result) => if result.created then some (request, result) else none
  | _ => none

/-- The applied switches of a log, in commit order. -/
def newSwitches (log : List (Request × Receipt)) :
    List (BindingSwitchRequest × BindingSwitchResult) :=
  log.filterMap newSwitch

theorem newSwitches_append (log : List (Request × Receipt)) (entry : Request × Receipt) :
    newSwitches (log ++ [entry]) = newSwitches log ++ (newSwitch entry).toList := by
  unfold newSwitches
  rw [List.filterMap_append]
  cases h : newSwitch entry <;> simp [h]

/-! ## Revisions -/

/-- The latest revision of a dataset, zero while it has no freshness row. -/
def latest (db : Db) (datasetId : String) : Nat :=
  (db.freshness datasetId).elim 0 Freshness.latestRevision

def latestRun (db : Db) (datasetId : String) : Option String :=
  (db.freshness datasetId).bind Freshness.latestRunId

/-- The dataset and revision that a log entry created, if it created one. -/
def createdRevision : Request × Receipt → Option (String × Nat)
  | (.publish p, .published result) =>
      if result.created then some (p.datasetId, result.revision) else none
  | (.switch request, .switched result) =>
      if result.created then some (request.datasetId, result.revision) else none
  | (.record _, .recorded commit created) =>
      if created then some (commit.datasetId, commit.revision) else none
  | _ => none

/-- One revision more: the commit is the next one of its dataset. -/
structure Extends (db db' : Db) (commit : RevisionCommit) : Prop where
  apart : ∀ stored ∈ db.commits, Apart stored commit
  commits : db'.commits = db.commits ++ [commit]
  revision : commit.revision = latest db commit.datasetId + 1
  latest_self : latest db' commit.datasetId = commit.revision
  latest_other : ∀ other, other ≠ commit.datasetId → latest db' other = latest db other
  run_self : latestRun db' commit.datasetId = some commit.runId
  run_other : ∀ other, other ≠ commit.datasetId → latestRun db' other = latestRun db other

theorem Extends.latest_le {db db' : Db} {commit : RevisionCommit} (h : Extends db db' commit)
    (datasetId : String) : latest db datasetId ≤ latest db' datasetId := by
  by_cases hid : datasetId = commit.datasetId
  · subst hid
    rw [h.latest_self, h.revision]
    exact Nat.le_succ _
  · rw [h.latest_other _ hid]

/-- No revision more: at most a manifest was filled in, or an empty freshness row
inserted. -/
structure Untouched (db db' : Db) : Prop where
  commits : ∃ f, Rewrites f ∧ db'.commits = db.commits.map f
  latest_eq : ∀ datasetId, latest db' datasetId = latest db datasetId
  run_eq : ∀ datasetId, latestRun db' datasetId = latestRun db datasetId

theorem Untouched.refl (db : Db) : Untouched db db :=
  ⟨⟨_, .id, (List.map_id _).symm⟩, fun _ => rfl, fun _ => rfl⟩

theorem Untouched.of_eq {db db' : Db} (hcommits : db'.commits = db.commits)
    (hfreshness : db'.freshness = db.freshness) : Untouched db db' :=
  ⟨⟨_, .id, by rw [hcommits]; exact (List.map_id _).symm⟩,
    fun _ => by rw [latest, hfreshness, latest], fun _ => by rw [latestRun, hfreshness, latestRun]⟩

theorem untouched_patched {db : Db} {existing : RevisionCommit} {commits : List RevisionCommit}
    {manifest fingerprint : Option String}
    (h : updateCommit db.commits existing manifest fingerprint = .ok commits) :
    Untouched db { db with commits := commits } :=
  ⟨⟨_, rewrites_patch _ manifest fingerprint, (updateCommit_eq_ok h).2⟩, fun _ => rfl, fun _ => rfl⟩

theorem untouched_ensureFreshness (db : Db) (request : CommitRequest) :
    Untouched db (ensureFreshness db request) := by
  unfold ensureFreshness
  split
  · exact .refl db
  · rename_i hnone
    refine ⟨⟨_, .id, (List.map_id _).symm⟩, fun id => ?_, fun id => ?_⟩
    · unfold latest
      by_cases hid : id = request.datasetId
      · subst hid
        simp [hnone, lockedFreshness]
      · simp [Table.put_ne _ hid]
    · unfold latestRun
      by_cases hid : id = request.datasetId
      · subst hid
        simp [hnone, lockedFreshness]
      · simp [Table.put_ne _ hid]

section
variable {env : Deployment} {db db' : Db}

/-- A freshness row that was read and written back one revision on. -/
theorem extends_of_put {commit : RevisionCommit} {locked new : Freshness}
    (hlocked : db.freshness commit.datasetId = some locked)
    (hrevision : commit.revision = locked.latestRevision + 1)
    (hnew : new.latestRevision = commit.revision) (hrun : new.latestRunId = some commit.runId)
    (hapart : ∀ stored ∈ db.commits, Apart stored commit)
    (hcommits : db'.commits = db.commits ++ [commit])
    (hfreshness : db'.freshness = db.freshness.put commit.datasetId new) :
    Extends db db' commit where
  apart := hapart
  commits := hcommits
  revision := by rw [latest, hlocked, hrevision]; rfl
  latest_self := by rw [latest, hfreshness, Table.put_self]; exact hnew
  latest_other := fun _ hne => by rw [latest, hfreshness, Table.put_ne _ hne, latest]
  run_self := by rw [latestRun, hfreshness, Table.put_self]; exact hrun
  run_other := fun _ hne => by rw [latestRun, hfreshness, Table.put_ne _ hne, latestRun]

theorem Published.extends {p : RealtimePublication} {freshness : Freshness}
    {result : PublicationResult} (h : Published env db p freshness db' result) :
    Extends db db' (publicationCommit p result.revision) := by
  have hresult : result.revision = freshness.latestRevision + 1 := by rw [h.result_eq]
  rw [hresult]
  exact extends_of_put h.locked rfl rfl rfl h.apart h.commits_eq h.freshness_eq

theorem Switched.extends {request : BindingSwitchRequest} {freshness : Freshness}
    {result : BindingSwitchResult} (h : Switched env db request freshness db' result) :
    ∃ fingerprint, Extends db db' (switchCommit env.toRuntime request
      (request.expectedBindingEpoch + 1) result.revision fingerprint) := by
  have hresult : result.revision = freshness.latestRevision + 1 := by rw [h.result_eq]
  obtain ⟨fingerprint, -, hapart, hcommits⟩ := h.commit
  rw [hresult]
  exact ⟨fingerprint, extends_of_put h.locked rfl rfl rfl hapart hcommits h.freshness_eq⟩

theorem latest_lockedFreshness (db : Db) (request : CommitRequest) :
    (lockedFreshness db request).latestRevision = latest db request.datasetId := by
  unfold lockedFreshness latest
  cases db.freshness request.datasetId <;> rfl

theorem extends_recorded {request : CommitRequest} {ranges : KafkaRanges}
    {commit : RevisionCommit} (h : Recorded env db request ranges db' commit) :
    Extends db db' commit := by
  have hid : commit.datasetId = request.datasetId := by rw [h.commit_eq]; rfl
  have hrevision : commit.revision = latest db request.datasetId + 1 := by
    rw [h.commit_eq, ← latest_lockedFreshness]
    rfl
  have hrun : commit.runId = request.runId := by rw [h.commit_eq]; rfl
  constructor
  · exact h.apart
  · exact h.commits_eq
  · rw [hid]; exact hrevision
  · rw [hid, latest, h.freshness_eq.1, hrevision, ← latest_lockedFreshness]
    rfl
  · intro other hne
    rw [latest, h.freshness_eq.2 other (hid ▸ hne), latest]
  · rw [hid, latestRun, h.freshness_eq.1, hrun]
    rfl
  · intro other hne
    rw [latestRun, h.freshness_eq.2 other (hid ▸ hne), latestRun]

/-- What a committed transaction does to the revisions: the one it reports, or
nothing. -/
theorem exec_revisions {snapshot : Db} {request : Request} {receipt : Receipt}
    (h : exec env snapshot db request = .ok (db', receipt)) :
    (createdRevision (request, receipt) = none ∧ Untouched db db') ∨
      ∃ commit, createdRevision (request, receipt) = some (commit.datasetId, commit.revision) ∧
        Extends db db' commit := by
  have hout := exec_outcome h
  cases hout with
  | publishedBefore hold => exact Or.inl ⟨by simp [createdRevision, hold], .refl _⟩
  | published hnew =>
      exact Or.inr ⟨_, by simp [createdRevision, hnew.created, publicationCommit], hnew.extends⟩
  | switchedBefore hold => exact Or.inl ⟨by simp [createdRevision, hold], .refl _⟩
  | switched hnew =>
      obtain ⟨_, hext⟩ := hnew.extends
      exact Or.inr ⟨_, by simp [createdRevision, hnew.created, switchCommit], hext⟩
  | recordedBefore => exact Or.inl ⟨rfl, .refl _⟩
  | patched hupdate => exact Or.inl ⟨rfl, untouched_patched hupdate⟩
  | duplicate => exact Or.inl ⟨rfl, untouched_ensureFreshness _ _⟩
  | recorded hnew => exact Or.inr ⟨_, by simp [createdRevision], extends_recorded hnew⟩

theorem Elsewhere.untouched (h : Elsewhere db db') : Untouched db db' :=
  .of_eq h.commits h.freshness

end

/-! ## A small store

One dataset, `orders`, served by ClickHouse, with one materialization of ten rows
ready to be published.  The digests are those of the texts it needs. -/

def ordersEnv : Deployment where
  sha256 := fun text =>
    if text = "binding-switch|switch-1" then
      "1bc7e835d2661331bc5edb2c279eac11219c35a0198fc62b58623044f1d63fb6"
    else if text = "binding-switch|switch-2" then
      "151741e67cc46cf09239fe967b7035dd43d0ab04c29824a5e03b2da2644f749e"
    else if text = "binding-switch|switch-3" then
      "45175caf6abfe8b763634278111eafbec8ff2e8360f72c8ac86340e6af60f8ab"
    else if text = "pv1|orders|0|-1|9" then
      "9c660b8ff4c9537d3cedb8bad7afe57ef7ad733cc4b6449a51ba5f325247d885"
    else ""
  lower := fun text => String.ofList (text.toList.map Char.toLower)
  casefold := fun text => String.ofList (text.toList.map Char.toLower)

theorem oldest_floor : (-1 : Int) ≤ -1 := le_rfl

def ordersBoundary : SourceBoundary :=
  ⟨[⟨"orders", 0, -1, 9, by decide, oldest_floor, by decide⟩]⟩

def ordersPublication : RealtimePublication where
  datasetId := "orders"
  pipelineVersionId := "pv1"
  servingVersionId := "sv1"
  materializationId := "rtm_1"
  sourceFingerprint := "9c660b8ff4c9537d3cedb8bad7afe57ef7ad733cc4b6449a51ba5f325247d885"
  boundary := ordersBoundary
  dimensionVersionIds := .empty
  leaseGeneration := 1
  bindingEpoch := 0
  physicalDatabase := "asklake"
  physicalTable := "orders_v1"
  rowCount := 10
  checksum := "c1"
  mutationType := .append
  correlationId := "publish-1"
  identified := by decide
  fingerprinted := by decide

def ordersBinding : PhysicalBinding where
  role := some "serving"
  engine := some "clickhouse"
  status := some "active"
  bindingEpoch := some 0
  versionId := some "sv1"

def ordersDb : Db where
  freshness := Table.put (fun _ => none) "orders"
    { activeServingEngine := some "clickhouse", activeServingVersionId := some "sv1" }
  catalog := Table.put (fun _ => none) "orders"
    { payload := some { physicalBindings := some [some ordersBinding] } }
  checkpoints := Table.put (fun _ => none) ⟨"pv1", "orders", 0⟩
    { lastObservedOffset := 9, lastContiguouslyReceivedOffset := 9, leaseGeneration := 1 }
  materializations := Table.put (fun _ => none) "rtm_1"
    { pipelineVersionId := "pv1", sourceFingerprint := ordersPublication.sourceFingerprint,
      leaseGeneration := 1, targetRowCount := some 10, targetChecksum := some "c1",
      status := .materialized }
  parityChecks := Table.put (fun _ => none) "parity-1"
    { datasetId := "orders", pipelineVersionId := "pv1", hotBindingVersionId := "sv2",
      archiveBindingVersionId := "av1", sourceBoundary := ordersBoundary,
      hotEvidence := { checksum := "c1", rowCount := 10 },
      archiveEvidence := { checksum := "c1", rowCount := 10 }, status := .matched }

end AskLake.Realtime

/-
# `AskLake.Realtime.IngestBinding` — polls beside switches of the serving binding

Polls and switches write the same freshness row.  A switch installs an engine, a version and an
epoch that it has been given; a poll installs ClickHouse and the version of its job, and counts
the epoch up where it meets another version.

    lawful      the poll leaves what a switch has installed, and the epoch; a new boundary
                becomes one revision, on whose version and epoch all rows agree
    respected   the row is bound to the job's version already, and no earlier revision of a
                poll has the identities of this one

Every run is lawful exactly as long as it is respected.
-/
import AskLake.Lib.Run
import AskLake.Realtime.Cutover
import AskLake.Realtime.KafkaIngest

namespace AskLake.Realtime

open AskLake.Lib AskLake.Python AskLake.Events

/-- The store; beside it, what the last completed switch of each dataset has installed, and the
boundaries that polls have published. -/
structure IngestState where
  db : Db
  installed : Table String (String × String) := fun _ => none
  published : List (IngestJob × List RawProgress) := []

/-- A switch comes with the store its unlocked look has read. -/
inductive IngestCall
  | switch (snapshot : Db) (request : BindingSwitchRequest)
  | ensure (job : IngestJob)
  | publish (job : IngestJob) (progress : List RawProgress)

/-- A boundary that is not the latest one. -/
def NewBoundary (env : IngestDeployment) (db : Db) (job : IngestJob)
    (progress : List RawProgress) : Prop :=
  latestChecksum db (job.dataset env.toRuntime) ≠ some (job.checksum env.toRuntime progress)

instance (env : IngestDeployment) (db : Db) (job : IngestJob) (progress : List RawProgress) :
    Decidable (NewBoundary env db job progress) :=
  inferInstanceAs (Decidable (_ ≠ _))

def ingestStep (env : IngestDeployment) (s : IngestState) : IngestCall → IngestState
  | .switch snapshot request =>
      match switchBinding env.toDeployment snapshot s.db request with
      | .ok (db', result) =>
          { s with
            db := db'
            installed :=
              if result.created then
                s.installed.put request.datasetId
                  (request.target.engine.name, request.target.versionId)
              else s.installed }
      | .error _ => s
  | .ensure job => { s with db := ensureCatalog env s.db job }
  | .publish job progress =>
      match publishCatalog env s.db job progress with
      | .ok (db', _) =>
          { s with
            db := db'
            published :=
              if NewBoundary env s.db job progress then s.published ++ [(job, progress)]
              else s.published }
      | .error _ => s

/-! ## The law -/

/-- What a switch has installed stays, and so does the epoch. -/
structure RowKept (datasetId : String) (s s' : IngestState) : Prop where
  serving : ∀ engine version, s.installed datasetId = some (engine, version) →
    ∃ row, s'.db.freshness datasetId = some row ∧ row.activeServingEngine = some engine ∧
      row.activeServingVersionId = some version
  epoch : ∀ row, s.db.freshness datasetId = some row →
    ∃ row', s'.db.freshness datasetId = some row' ∧ row'.bindingEpoch = row.bindingEpoch

/-- One commit, the next one of its dataset, and its event; freshness row, catalog binding and
commit agree. -/
structure OneRevision (datasetId : String) (db db' : Db) (revision : Nat) : Prop where
  next : revision = latest db datasetId + 1
  agreed : ∃ commit row model, db'.commits = db.commits ++ [commit] ∧
    db'.freshness datasetId = some row ∧ db'.catalog datasetId = some model ∧
    commit.datasetId = datasetId ∧ commit.revision = revision ∧ row.latestRevision = revision ∧
    commit.servingVersionId = row.activeServingVersionId ∧
    commit.bindingEpoch = row.bindingEpoch ∧ AgreesWith row model.bindings
  event : ∃ e, db'.events = db.events ++ [e] ∧ e.resourceId = datasetId ∧
    e.aggregateRevision = (revision : Int)

def LawfulPoll (env : IngestDeployment) (s : IngestState) : IngestCall → Prop
  | .switch _ _ => True
  | .ensure job => RowKept (job.dataset env.toRuntime) s (ingestStep env s (.ensure job))
  | .publish job progress =>
      RowKept (job.dataset env.toRuntime) s (ingestStep env s (.publish job progress)) ∧
        (NewBoundary env s.db job progress → ∃ db' revision,
          publishCatalog env s.db job progress = .ok (db', some revision) ∧
            OneRevision (job.dataset env.toRuntime) s.db db' revision)

/-! ## The condition -/

/-- The freshness row is bound to the job's version, and a switch has bound it to ClickHouse, if
one has bound it at all. -/
def BoundTo (env : IngestDeployment) (s : IngestState) (job : IngestJob) : Prop :=
  ∀ row, s.db.freshness (job.dataset env.toRuntime) = some row →
    row.activeServingVersionId = some (job.versionId env.toRuntime) ∧
      ((s.installed (job.dataset env.toRuntime)).isSome →
        row.activeServingEngine = some "clickhouse")

/-- No boundary that was published before has the materialization id or the event key of this
one. -/
def Unseen (env : IngestDeployment) (s : IngestState) (job : IngestJob)
    (progress : List RawProgress) : Prop :=
  ∀ entry ∈ s.published,
    entry.1.materializationId env.toRuntime entry.2 ≠
        job.materializationId env.toRuntime progress ∧
      strip (entry.1.eventKey env.toRuntime entry.2) ≠ strip (job.eventKey env.toRuntime progress)

def Respected (env : IngestDeployment) (s : IngestState) : IngestCall → Prop
  | .switch _ _ => True
  | .ensure job => BoundTo env s job
  | .publish job progress =>
      BoundTo env s job ∧
        (NewBoundary env s.db job progress →
          ∃ row, s.db.freshness (job.dataset env.toRuntime) = some row ∧ row.bindingEpoch ≠ 0 ∧
            Unseen env s job progress ∧
            checkDraft env.toDeployment (nextEvent env job progress row) = .ok ())

/-! ## What the store keeps -/

/-- A commit of a poll. -/
structure OfPoll (rt : Runtime) (commit : RevisionCommit) (job : IngestJob)
    (progress : List RawProgress) : Prop where
  datasetId : commit.datasetId = job.dataset rt
  runId : commit.runId = job.materializationId rt progress
  materializationId : commit.materializationId = some (job.materializationId rt progress)
  sourceFingerprint : commit.sourceFingerprint = some (job.checksum rt progress)

/-- A commit of a switch. -/
structure OfSwitch (commit : RevisionCommit) : Prop where
  commitKind : commit.commitKind ≠ .realtime
  runId : ∃ id, commit.runId = "recovery:" ++ id
  materializationId : commit.materializationId = some commit.runId

structure Tracked (env : IngestDeployment) (s : IngestState) : Prop where
  installed : ∀ datasetId engine version, s.installed datasetId = some (engine, version) →
    ∃ row, s.db.freshness datasetId = some row ∧ row.activeServingEngine = some engine ∧
      row.activeServingVersionId = some version
  counted : ∀ commit ∈ s.db.commits, commit.revision ≤ latest s.db commit.datasetId
  commits : ∀ commit ∈ s.db.commits,
    OfSwitch commit ∨ ∃ entry ∈ s.published, OfPoll env.toRuntime commit entry.1 entry.2
  events : ∀ e ∈ s.db.events,
    (∃ id, e.idempotencyKey = strip ("binding-switch:" ++ id)) ∨
      ∃ entry ∈ s.published,
        e.idempotencyKey = strip (entry.1.eventKey env.toRuntime entry.2)
  kept : ∀ entry ∈ s.published,
    (∃ commit ∈ s.db.commits,
      commit.materializationId = some (entry.1.materializationId env.toRuntime entry.2)) ∧
    ∃ e ∈ s.db.events, e.idempotencyKey = strip (entry.1.eventKey env.toRuntime entry.2)

section
variable {env : IngestDeployment} {s : IngestState} {db db' : Db} {job : IngestJob}
  {progress : List RawProgress} {stored : Freshness}

/-! ## Identities of polls and of switches -/

theorem recovery_ne_materializationId (id : String) :
    "recovery:" ++ id ≠ job.materializationId env.toRuntime progress := by
  intro h
  have hchars := congrArg String.toList h
  rw [IngestJob.materializationId, String.toList_append, String.toList_append] at hchars
  cases hchars

theorem switch_key_ne_eventKey (id : String) :
    strip ("binding-switch:" ++ id) ≠ strip (job.eventKey env.toRuntime progress) := by
  intro h
  have hswitch := @strip_head ("binding-switch:" ++ id) 'b' ("inding-switch:".toList ++ id.toList)
    (by rw [String.toList_append]; rfl) (by decide)
  have hpoll := @strip_head (job.eventKey env.toRuntime progress) 'k' _
    (by rw [IngestJob.eventKey, String.toList_append]; rfl) (by decide)
  rw [h, hpoll] at hswitch
  cases hswitch

theorem eventKey_of_same {other : IngestJob} {published : List RawProgress}
    (hdataset : other.dataset env.toRuntime = job.dataset env.toRuntime)
    (hchecksum : other.checksum env.toRuntime published = job.checksum env.toRuntime progress) :
    other.eventKey env.toRuntime published = job.eventKey env.toRuntime progress := by
  unfold IngestJob.eventKey
  rw [hdataset, hchecksum]

/-! ## No collision, and no boundary seen before -/

theorem Tracked.apart (h : Tracked env s)
    (hstored : s.db.freshness (job.dataset env.toRuntime) = some stored)
    (hunseen : Unseen env s job progress) :
    ∀ commit ∈ s.db.commits, Apart commit (nextCommit env job progress stored) := by
  intro commit hmem
  have hrevision : ¬ (commit.datasetId = job.dataset env.toRuntime ∧
      commit.revision = stored.latestRevision + 1) := by
    rintro ⟨hdataset, hrevision⟩
    have hle := h.counted commit hmem
    rw [hdataset, hrevision, latest, hstored] at hle
    exact absurd hle (by simp)
  rcases h.commits commit hmem with hswitch | ⟨entry, hentry, hpoll⟩
  · obtain ⟨id, hid⟩ := hswitch.runId
    have hne : commit.runId ≠ job.materializationId env.toRuntime progress := by
      rw [hid]
      exact recovery_ne_materializationId id
    refine ⟨hrevision, hne, fun hsame => hswitch.commitKind hsame.2.1, ?_⟩
    rintro ⟨-, hsame⟩
    rw [hswitch.materializationId] at hsame
    exact hne (Option.some.inj hsame)
  · obtain ⟨hid, hkey⟩ := hunseen entry hentry
    refine ⟨hrevision, ?_, ?_, ?_⟩
    · rw [hpoll.runId]
      exact hid
    · rintro ⟨hdataset, -, -, hfingerprint⟩
      rw [hpoll.datasetId] at hdataset
      rw [hpoll.sourceFingerprint] at hfingerprint
      exact hkey (by rw [eventKey_of_same hdataset (Option.some.inj hfingerprint)])
    · rintro ⟨-, hsame⟩
      rw [hpoll.materializationId] at hsame
      exact hid (Option.some.inj hsame)

theorem Tracked.unannounced (h : Tracked env s) (hunseen : Unseen env s job progress) :
    byIdempotencyKey s.db (strip (job.eventKey env.toRuntime progress)) = none := by
  unfold byIdempotencyKey
  rw [List.find?_eq_none]
  intro e hmem
  rw [decide_eq_true_eq]
  intro hkey
  rcases h.events e hmem with ⟨id, hswitch⟩ | ⟨entry, hentry, hpoll⟩
  · exact switch_key_ne_eventKey id (hswitch.symm.trans hkey)
  · exact (hunseen entry hentry).2 (hpoll.symm.trans hkey)

theorem Tracked.unseen (h : Tracked env s)
    (hapart : ∀ commit ∈ s.db.commits, Apart commit (nextCommit env job progress stored))
    (hevent : byIdempotencyKey s.db (strip (job.eventKey env.toRuntime progress)) = none) :
    Unseen env s job progress := by
  intro entry hentry
  obtain ⟨⟨commit, hcommit, hid⟩, e, he, hkey⟩ := h.kept entry hentry
  constructor
  · intro hsame
    refine (hapart commit hcommit).materialization ⟨rfl, ?_⟩
    rw [hid, hsame]
    rfl
  · intro hsame
    unfold byIdempotencyKey at hevent
    rw [List.find?_eq_none] at hevent
    exact hevent e he (by simpa using hkey.trans hsame)

/-! ## The rows a poll leaves -/

theorem boundRow_epoch (hversion : stored.activeServingVersionId = some (job.versionId env.toRuntime)) :
    (boundRow env job stored).bindingEpoch = stored.bindingEpoch := by
  show (if stored.activeServingVersionId ≠ _ then _ else _) = _
  rw [if_neg (not_not.mpr hversion)]

theorem version_of_epoch (h : (boundRow env job stored).bindingEpoch = stored.bindingEpoch) :
    stored.activeServingVersionId = some (job.versionId env.toRuntime) := by
  by_contra hversion
  have hup : (boundRow env job stored).bindingEpoch = stored.bindingEpoch + 1 := if_pos hversion
  rw [hup] at h
  exact absurd h (by simp)

/-- What both kinds of poll leave in the freshness row. -/
def LeavesBound (env : IngestDeployment) (db db' : Db) (job : IngestJob) : Prop :=
  ∃ row, db'.freshness (job.dataset env.toRuntime) = some row ∧
    row.activeServingEngine = some "clickhouse" ∧
    row.activeServingVersionId = some (job.versionId env.toRuntime) ∧
    ∀ stored, db.freshness (job.dataset env.toRuntime) = some stored →
      row.bindingEpoch = (boundRow env job stored).bindingEpoch

theorem upsertCatalog_leavesBound (published : Bool) :
    LeavesBound env db (upsertCatalog env db job published).1 job := by
  refine ⟨_, Table.put_self _ _ _, ?_, ?_, ?_⟩
  · cases db.freshness (job.dataset env.toRuntime) <;> rfl
  · cases db.freshness (job.dataset env.toRuntime) <;> rfl
  · intro stored hstored
    rw [hstored]
    rfl

theorem Ingested.leavesBound (h : Ingested env db job progress stored db')
    (hstored : db.freshness (job.dataset env.toRuntime) = some stored) :
    LeavesBound env db db' job := by
  refine ⟨_, by rw [h.freshness_eq]; exact Table.put_self _ _ _, rfl, rfl, ?_⟩
  intro other hother
  rw [hstored] at hother
  cases hother
  rfl

/-- A row that is left bound to the job keeps what it was bound to exactly if that was the job
already. -/
theorem Tracked.rowKept_iff (h : Tracked env s) {s' : IngestState}
    (hleaves : LeavesBound env s.db s'.db job) :
    RowKept (job.dataset env.toRuntime) s s' ↔ BoundTo env s job := by
  obtain ⟨row', hrow', hengine', hversion', hepoch'⟩ := hleaves
  constructor
  · intro hkept row hrow
    obtain ⟨found, hfound, hepoch⟩ := hkept.epoch row hrow
    rw [hrow'] at hfound
    cases hfound
    have hversion := version_of_epoch ((hepoch' row hrow).symm.trans hepoch)
    refine ⟨hversion, fun hinstalled => ?_⟩
    obtain ⟨⟨engine, version⟩, hpair⟩ := Option.isSome_iff_exists.mp hinstalled
    obtain ⟨before, hbefore, hengine, -⟩ := h.installed _ _ _ hpair
    obtain ⟨after, hafter, hsame, -⟩ := hkept.serving _ _ hpair
    rw [hrow] at hbefore
    rw [hrow'] at hafter
    cases hbefore
    cases hafter
    rw [hengine, ← hsame, hengine']
  · intro hbound
    constructor
    · intro engine version hpair
      obtain ⟨row, hrow, hengine, hversion⟩ := h.installed _ _ _ hpair
      obtain ⟨hjob, hclickhouse⟩ := hbound row hrow
      refine ⟨row', hrow', ?_, ?_⟩
      · rw [hengine', ← hengine, hclickhouse (by rw [hpair]; rfl)]
      · rw [hversion', ← hversion, hjob]
    · intro row hrow
      exact ⟨row', hrow', (hepoch' row hrow).trans (boundRow_epoch (hbound row hrow).1)⟩

/-! ## One revision -/

theorem activeBinding_ingest (model : Option CatalogDataset) (epoch : Nat) :
    activeBinding (ingestCatalog env.toRuntime job env.clickhouseV2Database model epoch
      true).bindings "clickhouse" =
      some (ingestBinding env.toRuntime job env.clickhouseV2Database epoch true) := by
  rw [@bindings_of_written (ingestCatalog _ _ _ _ _ _) _ _ rfl rfl]
  unfold activeBinding
  rw [filterMap_map_some, List.find?_append, List.find?_eq_none.mpr]
  · rfl
  · intro binding hmem
    have hrole : binding.role ≠ some "serving" := by simpa using (List.mem_filter.mp hmem).2
    simp [PhysicalBinding.serves, hrole]

theorem Ingested.agreesWith (h : Ingested env db job progress stored db')
    (hstored : db.freshness (job.dataset env.toRuntime) = some stored)
    {row : Freshness} {model : CatalogDataset}
    (hrow : db'.freshness (job.dataset env.toRuntime) = some row)
    (hmodel : db'.catalog (job.dataset env.toRuntime) = some model)
    (hepoch : reportedEpoch (boundRow env job stored) = (boundRow env job stored).bindingEpoch) :
    AgreesWith row model.bindings := by
  rw [h.freshness_eq, Table.put_self] at hrow
  rw [h.catalog_eq] at hmodel
  cases hrow
  obtain rfl := Option.some.inj ((Table.put_self _ _ _).symm.trans hmodel)
  refine ⟨_, activeBinding_ingest _ _, rfl, ?_⟩
  show some (reportedEpoch (bindCatalogFreshness env.toRuntime job
    (db.freshness (job.dataset env.toRuntime)))) = _
  rw [hstored]
  exact congrArg some hepoch

theorem Ingested.oneRevision_iff (h : Ingested env db job progress stored db')
    (hstored : db.freshness (job.dataset env.toRuntime) = some stored) :
    OneRevision (job.dataset env.toRuntime) db db' (stored.latestRevision + 1) ↔
      (boundRow env job stored).bindingEpoch ≠ 0 ∧
        byIdempotencyKey db (strip (job.eventKey env.toRuntime progress)) = none := by
  constructor
  · intro hone
    constructor
    · obtain ⟨commit, row, model, hcommits, hrow, -, -, -, -, -, hepoch, -⟩ := hone.agreed
      rw [h.commits_eq, List.append_cancel_left_eq, List.cons.injEq] at hcommits
      obtain ⟨rfl, -⟩ := hcommits
      rw [h.freshness_eq, Table.put_self] at hrow
      cases hrow
      have hepoch : reportedEpoch (boundRow env job stored) =
          (boundRow env job stored).bindingEpoch := hepoch
      intro hzero
      rw [reportedEpoch, if_pos hzero, hzero] at hepoch
      cases hepoch
    · obtain ⟨e, hevents, -⟩ := hone.event
      rcases h.events_eq with ⟨-, hsame⟩ | ⟨hnone, -⟩
      · rw [hsame] at hevents
        have hlonger := congrArg List.length hevents
        simp at hlonger
      · exact hnone
  · rintro ⟨hzero, hnone⟩
    have hepoch : reportedEpoch (boundRow env job stored) =
        (boundRow env job stored).bindingEpoch := if_neg hzero
    constructor
    · rw [latest, hstored]
      rfl
    · have hrow : db'.freshness (job.dataset env.toRuntime) =
          some (ingestFreshness env.toRuntime job (boundRow env job stored) progress) := by
        rw [h.freshness_eq, Table.put_self]
      obtain ⟨model, hmodel⟩ : ∃ model, db'.catalog (job.dataset env.toRuntime) = some model := by
        rw [h.catalog_eq]
        exact ⟨_, Table.put_self _ _ _⟩
      exact ⟨_, _, model, h.commits_eq, hrow, hmodel, rfl, rfl, rfl, rfl, hepoch,
        h.agreesWith hstored hrow hmodel hepoch⟩
    · rcases h.events_eq with ⟨hsome, -⟩ | ⟨-, hevents⟩
      · rw [hnone] at hsome
        cases hsome
      · exact ⟨_, hevents, rfl, rfl⟩

/-! ## Every poll -/

theorem newBoundary_iff (hstored : s.db.freshness (job.dataset env.toRuntime) = some stored) :
    NewBoundary env s.db job progress ↔
      stored.latestChecksum ≠ some (job.checksum env.toRuntime progress) := by
  unfold NewBoundary latestChecksum
  rw [hstored]
  rfl

theorem ingestStep_publish {result : Option Nat}
    (h : publishCatalog env s.db job progress = .ok (db', result)) :
    ingestStep env s (.publish job progress) = { s with
      db := db'
      published :=
        if NewBoundary env s.db job progress then s.published ++ [(job, progress)]
        else s.published } := by
  simp only [ingestStep, h]

theorem ingestStep_rejected {e : Error} (h : publishCatalog env s.db job progress = .error e) :
    ingestStep env s (.publish job progress) = s := by
  simp only [ingestStep, h]

theorem lawfulPoll_ensure (h : Tracked env s) :
    LawfulPoll env s (.ensure job) ↔ Respected env s (.ensure job) :=
  h.rowKept_iff (upsertCatalog_leavesBound false)

/-- A poll that finds its boundary published. -/
theorem lawfulPoll_latest (h : Tracked env s)
    (hstored : s.db.freshness (job.dataset env.toRuntime) = some stored)
    (hold : ¬ NewBoundary env s.db job progress) :
    LawfulPoll env s (.publish job progress) ↔ Respected env s (.publish job progress) := by
  have hlatest : stored.latestChecksum = some (job.checksum env.toRuntime progress) :=
    not_not.mp (mt (newBoundary_iff hstored).mpr hold)
  have hrun : publishCatalog env s.db job progress = .ok ((upsertCatalog env s.db job true).1,
      if stored.latestRevision = 0 then none else some stored.latestRevision) :=
    bind_eq_ok.mpr ⟨stored, orReject_eq_ok.mpr hstored, if_pos hlatest⟩
  have hleaves : LeavesBound env s.db (ingestStep env s (.publish job progress)).db job := by
    rw [ingestStep_publish hrun]
    exact upsertCatalog_leavesBound true
  show _ ∧ _ ↔ _ ∧ _
  rw [h.rowKept_iff hleaves]
  exact and_congr_right fun _ => ⟨fun _ hnew => absurd hnew hold, fun _ hnew => absurd hnew hold⟩

/-- A poll with a new boundary. -/
theorem lawfulPoll_new (h : Tracked env s) (hnew : NewBoundary env s.db job progress) :
    LawfulPoll env s (.publish job progress) ↔ Respected env s (.publish job progress) := by
  constructor
  · rintro ⟨hkept, haccepted⟩
    obtain ⟨db', revision, hrun, hone⟩ := haccepted hnew
    obtain ⟨stored, hstored, ⟨hlatest, -⟩ | ⟨-, hrevision, hingested⟩⟩ := publishCatalog_cases hrun
    · exact absurd hlatest ((newBoundary_iff hstored).mp hnew)
    · obtain rfl := Option.some.inj hrevision
      obtain ⟨hepoch, hevent⟩ := (hingested.oneRevision_iff hstored).mp hone
      have hbound : BoundTo env s job := by
        refine (h.rowKept_iff ?_).mp hkept
        rw [ingestStep_publish hrun]
        exact hingested.leavesBound hstored
      refine ⟨hbound, fun _ => ⟨stored, hstored, ?_, ?_, hingested.contract⟩⟩
      · rwa [boundRow_epoch (hbound stored hstored).1] at hepoch
      · exact h.unseen hingested.apart hevent
  · rintro ⟨hbound, hrespected⟩
    obtain ⟨stored, hstored, hepoch, hunseen, hcontract⟩ := hrespected hnew
    obtain ⟨db', hrun⟩ := publishCatalog_new hstored ((newBoundary_iff hstored).mp hnew)
      (h.apart hstored hunseen) hcontract
    obtain ⟨other, hother, ⟨hlatest, -⟩ | ⟨-, -, hingested⟩⟩ := publishCatalog_cases hrun
    · exact absurd hlatest ((newBoundary_iff hother).mp hnew)
    · rw [hstored] at hother
      cases hother
      constructor
      · refine (h.rowKept_iff ?_).mpr hbound
        rw [ingestStep_publish hrun]
        exact hingested.leavesBound hstored
      · refine fun _ => ⟨db', _, hrun, (hingested.oneRevision_iff hstored).mpr ⟨?_, ?_⟩⟩
        · rwa [boundRow_epoch (hbound stored hstored).1]
        · exact h.unannounced hunseen

theorem lawfulPoll_iff (h : Tracked env s) (call : IngestCall) :
    LawfulPoll env s call ↔ Respected env s call := by
  cases call with
  | switch snapshot request => exact Iff.rfl
  | ensure job => exact lawfulPoll_ensure h
  | publish job progress =>
      by_cases hnew : NewBoundary env s.db job progress
      · exact lawfulPoll_new h hnew
      · -- the boundary is the latest one of a row that is there
        have hlatest : latestChecksum s.db (job.dataset env.toRuntime) =
            some (job.checksum env.toRuntime progress) := not_not.mp hnew
        obtain ⟨stored, hstored, -⟩ := Option.bind_eq_some_iff.mp hlatest
        exact lawfulPoll_latest h hstored hnew

/-! ## What is tracked stays tracked -/

theorem latest_upsertCatalog (published : Bool) (datasetId : String) :
    latest (upsertCatalog env db job published).1 datasetId = latest db datasetId := by
  unfold latest
  rw [upsertCatalog_freshness]
  by_cases hid : datasetId = job.dataset env.toRuntime
  · subst hid
    rw [Table.put_self]
    cases db.freshness (job.dataset env.toRuntime) <;> rfl
  · rw [Table.put_ne _ hid]

/-- Where one row is kept and the others are not written, what was installed is there. -/
theorem Tracked.installed_kept (h : Tracked env s) {s' : IngestState} {datasetId : String}
    (hkept : RowKept datasetId s s')
    (hother : ∀ other, other ≠ datasetId → s'.db.freshness other = s.db.freshness other) :
    ∀ other engine version, s.installed other = some (engine, version) →
      ∃ row, s'.db.freshness other = some row ∧ row.activeServingEngine = some engine ∧
        row.activeServingVersionId = some version := by
  intro other engine version hpair
  by_cases hid : other = datasetId
  · subst hid
    exact hkept.serving engine version hpair
  · rw [hother other hid]
    exact h.installed other engine version hpair

/-- A poll that makes no revision. -/
theorem Tracked.upserted (h : Tracked env s) (published : Bool)
    (hkept : RowKept (job.dataset env.toRuntime) s
      { s with db := (upsertCatalog env s.db job published).1 }) :
    Tracked env { s with db := (upsertCatalog env s.db job published).1 } where
  installed := h.installed_kept hkept fun _ hid => Table.put_ne _ hid _
  counted := by
    intro commit hmem
    rw [latest_upsertCatalog]
    exact h.counted commit hmem
  commits := h.commits
  events := h.events
  kept := h.kept

theorem Ingested.extends (h : Ingested env db job progress stored db')
    (hstored : db.freshness (job.dataset env.toRuntime) = some stored) :
    Extends db db' (nextCommit env job progress stored) :=
  extends_of_put hstored rfl rfl rfl h.apart h.commits_eq h.freshness_eq

/-- A poll that makes a revision, with its event. -/
theorem Tracked.ingested (h : Tracked env s)
    (hstored : s.db.freshness (job.dataset env.toRuntime) = some stored)
    (hingested : Ingested env s.db job progress stored db')
    (hevents : db'.events = s.db.events ++
      [(nextEvent env job progress stored).row (s.db.eventSequence + 1)])
    (hkept : RowKept (job.dataset env.toRuntime) s
      { s with db := db', published := s.published ++ [(job, progress)] }) :
    Tracked env { s with db := db', published := s.published ++ [(job, progress)] } where
  installed := by
    refine h.installed_kept hkept fun other hid => ?_
    show db'.freshness other = _
    rw [hingested.freshness_eq, Table.put_ne _ hid]
  counted := (hingested.extends hstored).counted h.counted
  commits := by
    intro commit hmem
    rcases List.mem_append.mp (hingested.commits_eq ▸ hmem) with hold | hlast
    · rcases h.commits commit hold with hswitch | ⟨entry, hentry, hpoll⟩
      · exact .inl hswitch
      · exact .inr ⟨entry, List.mem_append_left _ hentry, hpoll⟩
    · cases List.mem_singleton.mp hlast
      exact .inr ⟨(job, progress), List.mem_append_right _ (List.mem_singleton_self _),
        rfl, rfl, rfl, rfl⟩
  events := by
    intro e hmem
    rcases List.mem_append.mp (hevents ▸ hmem) with hold | hlast
    · rcases h.events e hold with hswitch | ⟨entry, hentry, hpoll⟩
      · exact .inl hswitch
      · exact .inr ⟨entry, List.mem_append_left _ hentry, hpoll⟩
    · cases List.mem_singleton.mp hlast
      exact .inr ⟨(job, progress), List.mem_append_right _ (List.mem_singleton_self _), rfl⟩
  kept := by
    intro entry hmem
    show (∃ commit ∈ db'.commits, _) ∧ ∃ e ∈ db'.events, _
    rw [hingested.commits_eq, hevents]
    rcases List.mem_append.mp hmem with hold | hlast
    · obtain ⟨⟨commit, hcommit, hid⟩, e, he, hkey⟩ := h.kept entry hold
      exact ⟨⟨commit, List.mem_append_left _ hcommit, hid⟩, e, List.mem_append_left _ he, hkey⟩
    · cases List.mem_singleton.mp hlast
      exact ⟨⟨_, List.mem_append_right _ (List.mem_singleton_self _), rfl⟩,
        _, List.mem_append_right _ (List.mem_singleton_self _), rfl⟩

/-- A switch that is applied. -/
theorem Tracked.switched (h : Tracked env s) {request : BindingSwitchRequest}
    {result : BindingSwitchResult} (hnew : Switched env.toDeployment s.db request stored db' result) :
    Tracked env { s with
      db := db'
      installed := s.installed.put request.datasetId
        (request.target.engine.name, request.target.versionId) } where
  installed := by
    intro datasetId engine version hpair
    have hpair : s.installed.put request.datasetId
      (request.target.engine.name, request.target.versionId) datasetId =
        some (engine, version) := hpair
    show ∃ row, db'.freshness datasetId = some row ∧ _
    rw [hnew.freshness_eq]
    by_cases hid : datasetId = request.datasetId
    · subst hid
      rw [Table.put_self] at hpair
      cases hpair
      exact ⟨_, Table.put_self _ _ _, rfl, rfl⟩
    · rw [Table.put_ne _ hid] at hpair ⊢
      exact h.installed datasetId engine version hpair
  counted := by
    obtain ⟨_, hext⟩ := hnew.extends
    exact hext.counted h.counted
  commits := by
    obtain ⟨_, -, -, hcommits⟩ := hnew.commit
    intro commit hmem
    rcases List.mem_append.mp (hcommits ▸ hmem) with hold | hlast
    · exact h.commits commit hold
    · cases List.mem_singleton.mp hlast
      refine .inl ⟨?_, ⟨_, rfl⟩, rfl⟩
      show request.action.commitKind ≠ .realtime
      cases request.action <;> exact nofun
  events := by
    intro e hmem
    rcases List.mem_append.mp (hnew.events_eq ▸ hmem) with hold | hlast
    · exact h.events e hold
    · cases List.mem_singleton.mp hlast
      exact .inl ⟨_, rfl⟩
  kept := by
    obtain ⟨_, -, -, hcommits⟩ := hnew.commit
    intro entry hentry
    obtain ⟨⟨commit, hcommit, hid⟩, e, he, hkey⟩ := h.kept entry hentry
    show (∃ commit ∈ db'.commits, _) ∧ ∃ e ∈ db'.events, _
    rw [hcommits, hnew.events_eq]
    exact ⟨⟨commit, List.mem_append_left _ hcommit, hid⟩, e, List.mem_append_left _ he, hkey⟩

theorem Tracked.switch (h : Tracked env s) (snapshot : Db) (request : BindingSwitchRequest) :
    Tracked env (ingestStep env s (.switch snapshot request)) := by
  cases hrun : switchBinding env.toDeployment snapshot s.db request with
  | error e =>
      simp only [ingestStep, hrun]
      exact h
  | ok outcome =>
      obtain ⟨db', result⟩ := outcome
      simp only [ingestStep, hrun]
      rcases switchBinding_cases hrun with ⟨hold, rfl⟩ | ⟨stored, hnew⟩
      · simp only [hold, Bool.false_eq_true, if_false]
        exact h
      · have hcreated : result.created = true := by rw [hnew.result_eq]
        simp only [hcreated, if_true]
        exact h.switched hnew

theorem Tracked.step (h : Tracked env s) (call : IngestCall) (hlawful : LawfulPoll env s call) :
    Tracked env (ingestStep env s call) := by
  cases call with
  | switch snapshot request => exact h.switch snapshot request
  | ensure job => exact h.upserted false hlawful
  | publish job progress =>
      obtain ⟨hkept, haccepted⟩ := hlawful
      cases hrun : publishCatalog env s.db job progress with
      | error e =>
          rw [ingestStep_rejected hrun]
          exact h
      | ok outcome =>
          obtain ⟨db', result⟩ := outcome
          rw [ingestStep_publish hrun] at hkept ⊢
          obtain ⟨stored, hstored, ⟨hlatest, rfl⟩ | ⟨hnew, -, hingested⟩⟩ :=
            publishCatalog_cases hrun
          · have hold : ¬ NewBoundary env s.db job progress :=
              fun hnew => (newBoundary_iff hstored).mp hnew hlatest
            rw [if_neg hold] at hkept ⊢
            exact h.upserted true hkept
          · have hnew := (newBoundary_iff hstored).mpr hnew
            rw [if_pos hnew] at hkept ⊢
            obtain ⟨_, revision, hagain, hone⟩ := haccepted hnew
            rw [hrun] at hagain
            cases hagain
            refine h.ingested hstored hingested ?_ hkept
            rcases hingested.events_eq with ⟨-, hsame⟩ | ⟨-, hevents⟩
            · -- the event of a lawful poll is a new one
              obtain ⟨e, hevent, -⟩ := hone.event
              rw [hsame] at hevent
              have hlonger := congrArg List.length hevent
              simp at hlonger
            · exact hevents

end

/-! ## The law of a run -/

/-- A store without revisions and events, before any switch or poll. -/
def IngestState.start (db : Db) : IngestState where
  db := { db with commits := [], events := [] }

theorem tracked_start (env : IngestDeployment) (db : Db) : Tracked env (IngestState.start db) where
  installed := fun _ _ _ hpair => nomatch hpair
  counted := fun _ hmem => nomatch hmem
  commits := fun _ hmem => nomatch hmem
  events := fun _ hmem => nomatch hmem
  kept := fun _ hmem => nomatch hmem

/-- Switches and polls, in any order: every poll of the run is lawful exactly as long as every
poll meets a row that is bound to its job, and brings the latest boundary or one that was not
published before. -/
theorem ingest_binding_iff (env : IngestDeployment) (db : Db) (calls : List IngestCall) :
    Along (LawfulPoll env) (ingestStep env) (IngestState.start db) calls ↔
      Along (Respected env) (ingestStep env) (IngestState.start db) calls :=
  along_iff_along (fun _ call h => lawfulPoll_iff h call) (fun _ call h => h.step call)
    (tracked_start env db)

/-! ## A poll after a cut-over

The dataset is bound to the version of its job, is cut over to another version, and the next poll
finds offsets 0 to 19. -/

def ingestEnv : IngestDeployment where
  toDeployment := { ordersEnv with
    sha256 := fun text =>
      if text = "job-orders" then
        "e45346c10d7b3772361348f0f1b2f3633f4313b0a03e119737cf291f1dd0a45e"
      else ordersEnv.sha256 text }

def ordersJob : IngestJob := { id := "job-orders", datasetId := some "orders", topic := "orders" }

def ordersVersion : String := "kiv2_e45346c10d7b3772361348f0f1b2f3633f4313b0a03e1197"

example : ordersJob.versionId ingestEnv.toRuntime = ordersVersion := by decide +kernel

/-- The rows of `orders` as a poll of its job has left them. -/
def boundOrders : Db where
  freshness := Table.put (fun _ => none) "orders"
    { bindingEpoch := 1, activeServingEngine := some "clickhouse"
      activeServingVersionId := some ordersVersion }
  catalog := Table.put (fun _ => none) "orders"
    { payload := some { physicalBindings := some [some
        { ordersBinding with bindingEpoch := some 1, versionId := some ordersVersion }] } }
  parityChecks := ordersDb.parityChecks

def ingestCutover : BindingSwitchRequest :=
  { firstCutover with
    expectedBindingEpoch := 1
    expectedBindingVersionId := "kiv2_e45346c10d7b3772361348f0f1b2f3633f4313b0a03e1197"
    identified := by decide }

/-- The store after the cut-over. -/
def cutOver : IngestState :=
  ingestStep ingestEnv (.start boundOrders) (.switch boundOrders ingestCutover)

/-- The poll puts the job's version back into force. -/
theorem poll_after_cutover :
    ¬ Along (LawfulPoll ingestEnv) (ingestStep ingestEnv) (.start boundOrders)
      [.switch boundOrders ingestCutover, .publish ordersJob [⟨0, 0, 19, 20⟩]] := by
  rintro ⟨-, hlawful, -⟩
  have hinstalled : cutOver.installed "orders" = some ("clickhouse", "sv2") := by decide +kernel
  have hversion : ordersJob.versionId ingestEnv.toRuntime ≠ "sv2" := by decide +kernel
  have hdataset : ordersJob.dataset ingestEnv.toRuntime = "orders" := by decide +kernel
  have htracked : Tracked ingestEnv cutOver :=
    (tracked_start ingestEnv boundOrders).switch boundOrders ingestCutover
  have hlawful : LawfulPoll ingestEnv cutOver (.publish ordersJob [⟨0, 0, 19, 20⟩]) := hlawful
  have hbound : BoundTo ingestEnv cutOver ordersJob := ((lawfulPoll_iff htracked _).mp hlawful).1
  obtain ⟨row, hrow, -, hsame⟩ := htracked.installed "orders" "clickhouse" "sv2" hinstalled
  have hjob := (hbound row (by rw [hdataset]; exact hrow)).1
  rw [hsame] at hjob
  exact hversion (Option.some.inj hjob).symm

end AskLake.Realtime

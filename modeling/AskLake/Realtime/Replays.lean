/-
# `AskLake.Realtime.Replays` — what counts as the same request

A publication is known by its materialization id, a switch by its idempotency key.  A second
request under a known id is compared with what the first one has left, field by field, and is
either answered with the first one's result or rejected:

    publication   compared      dataset, fingerprint, serving version, epoch, row count, mutation
                  not compared  pipeline version, boundary, checksum, dimension versions
    switch        compared      action, dataset, target version, parity report
                  not compared  pipeline version, boundary, row count, checksum,
                                dimension versions, expected epoch

So a second request that differs in none but the fields of the second kind is answered as if it
were the first.  A publication's answer also needs its event, which is stored under the key
without the space at its end.
-/
import AskLake.Realtime.Cutover
import AskLake.Realtime.RecoveryGate

namespace AskLake.Realtime

open AskLake.Lib AskLake.Python AskLake.Events

/-- The requests of the store in a log. -/
def storeEntry : Call × Answer → Option (Request × Receipt)
  | (.store request, .store receipt) => some (request, receipt)
  | _ => none

def storeLog (log : List (Call × Answer)) : List (Request × Receipt) := log.filterMap storeEntry

/-- The new publications of a log, with their results. -/
def firstPublications (log : List (Call × Answer)) : List (RealtimePublication × PublicationResult) :=
  newPublications (storeLog log)

/-- The applied switches of a log, with their results. -/
def firstSwitches (log : List (Call × Answer)) : List (BindingSwitchRequest × BindingSwitchResult) :=
  newSwitches (storeLog log)

section
variable {log : List (Call × Answer)}

theorem storeEntry_eq_some {entry : Call × Answer} {request : Request} {receipt : Receipt} :
    storeEntry entry = some (request, receipt) ↔ entry = (.store request, .store receipt) := by
  match entry with
  | (.store _, .store _) => simp [storeEntry]
  | (.store _, .done _) => simp [storeEntry]
  | (.materialization _, _) => simp [storeEntry]
  | (.recovery _, _) => simp [storeEntry]

theorem mem_firstPublications {p : RealtimePublication} {result : PublicationResult} :
    (p, result) ∈ firstPublications log ↔
      result.created = true ∧ (.store (.publish p), .store (.published result)) ∈ log := by
  simp only [firstPublications, newPublications, storeLog, List.mem_filterMap,
    newPublication_eq_some]
  constructor
  · rintro ⟨_, ⟨entry, hentry, hstore⟩, hcreated, rfl⟩
    rw [storeEntry_eq_some.mp hstore] at hentry
    exact ⟨hcreated, hentry⟩
  · rintro ⟨hcreated, hentry⟩
    exact ⟨_, ⟨_, hentry, storeEntry_eq_some.mpr rfl⟩, hcreated, rfl⟩

theorem mem_firstSwitches {request : BindingSwitchRequest} {result : BindingSwitchResult} :
    (request, result) ∈ firstSwitches log ↔
      result.created = true ∧ (.store (.switch request), .store (.switched result)) ∈ log := by
  simp only [firstSwitches, newSwitches, storeLog, List.mem_filterMap, newSwitch_eq_some]
  constructor
  · rintro ⟨_, ⟨entry, hentry, hstore⟩, hcreated, rfl⟩
    rw [storeEntry_eq_some.mp hstore] at hentry
    exact ⟨hcreated, hentry⟩
  · rintro ⟨hcreated, hentry⟩
    exact ⟨_, ⟨_, hentry, storeEntry_eq_some.mpr rfl⟩, hcreated, rfl⟩

theorem firstPublications_subset {earlier log : List (Call × Answer)} (h : earlier ⊆ log) :
    firstPublications earlier ⊆ firstPublications log := by
  rintro ⟨p, result⟩ hentry
  obtain ⟨hcreated, hmem⟩ := mem_firstPublications.mp hentry
  exact mem_firstPublications.mpr ⟨hcreated, h hmem⟩

theorem firstSwitches_subset {earlier log : List (Call × Answer)} (h : earlier ⊆ log) :
    firstSwitches earlier ⊆ firstSwitches log := by
  rintro ⟨request, result⟩ hentry
  obtain ⟨hcreated, hmem⟩ := mem_firstSwitches.mp hentry
  exact mem_firstSwitches.mpr ⟨hcreated, h hmem⟩

end

/-! ## The comparisons -/

/-- Every field that says what is published is the same. -/
structure SamePublication (first again : RealtimePublication) : Prop where
  datasetId : again.datasetId = first.datasetId
  pipelineVersionId : again.pipelineVersionId = first.pipelineVersionId
  servingVersionId : again.servingVersionId = first.servingVersionId
  boundary : again.boundary = first.boundary
  rowCount : again.rowCount = first.rowCount
  checksum : again.checksum = first.checksum
  dimensionVersionIds : again.dimensionVersionIds = first.dimensionVersionIds
  bindingEpoch : again.bindingEpoch = first.bindingEpoch
  mutationType : again.mutationType = first.mutationType

/-- Every field that `_validate_existing` compares is the same. -/
structure ComparedPublication (first again : RealtimePublication) : Prop where
  datasetId : again.datasetId = first.datasetId
  sourceFingerprint : again.sourceFingerprint = first.sourceFingerprint
  servingVersionId : again.servingVersionId = first.servingVersionId
  bindingEpoch : again.bindingEpoch = first.bindingEpoch
  rowCount : again.rowCount = first.rowCount
  mutationType : again.mutationType = first.mutationType

/-- The key of the publication's event has no space at its end. -/
def Unpadded (p : RealtimePublication) : Prop := strip p.idempotencyKey = p.idempotencyKey

/-- Every field that says what is switched to is the same. -/
structure SameSwitch (first again : BindingSwitchRequest) : Prop where
  action : again.action = first.action
  datasetId : again.datasetId = first.datasetId
  expectedBindingEpoch : again.expectedBindingEpoch = first.expectedBindingEpoch
  parityReportId : again.parityReportId = first.parityReportId
  versionId : again.target.versionId = first.target.versionId
  pipelineVersionId : again.target.pipelineVersionId = first.target.pipelineVersionId
  boundary : again.target.boundary = first.target.boundary
  rowCount : again.target.rowCount = first.target.rowCount
  checksum : again.target.checksum = first.target.checksum
  dimensionVersionIds : again.target.dimensionVersionIds = first.target.dimensionVersionIds

/-- Every field that `_existing_switch_result` compares is the same. -/
structure ComparedSwitch (first again : BindingSwitchRequest) : Prop where
  action : again.action = first.action
  datasetId : again.datasetId = first.datasetId
  versionId : again.target.versionId = first.target.versionId
  parityReportId : again.parityReportId = first.parityReportId

/-- A second publication that shows where it differs. -/
structure Distinguished (first again : RealtimePublication) : Prop where
  seen : ComparedPublication first again → Unpadded again →
    again.pipelineVersionId = first.pipelineVersionId ∧ again.boundary = first.boundary ∧
      again.checksum = first.checksum ∧ again.dimensionVersionIds = first.dimensionVersionIds
  known : SamePublication first again →
    again.sourceFingerprint = first.sourceFingerprint ∧ Unpadded again

theorem distinguished_iff {first again : RealtimePublication} :
    Distinguished first again ↔
      (SamePublication first again ↔ ComparedPublication first again ∧ Unpadded again) := by
  constructor
  · intro h
    constructor
    · intro hsame
      obtain ⟨hfingerprint, hunpadded⟩ := h.known hsame
      exact ⟨⟨hsame.datasetId, hfingerprint, hsame.servingVersionId, hsame.bindingEpoch,
        hsame.rowCount, hsame.mutationType⟩, hunpadded⟩
    · rintro ⟨hcompared, hunpadded⟩
      obtain ⟨hpipeline, hboundary, hchecksum, hdimensions⟩ := h.seen hcompared hunpadded
      exact ⟨hcompared.datasetId, hpipeline, hcompared.servingVersionId, hboundary,
        hcompared.rowCount, hchecksum, hdimensions, hcompared.bindingEpoch, hcompared.mutationType⟩
  · intro h
    constructor
    · intro hcompared hunpadded
      have hsame := h.mpr ⟨hcompared, hunpadded⟩
      exact ⟨hsame.pipelineVersionId, hsame.boundary, hsame.checksum, hsame.dimensionVersionIds⟩
    · intro hsame
      obtain ⟨hcompared, hunpadded⟩ := h.mp hsame
      exact ⟨hcompared.sourceFingerprint, hunpadded⟩

/-- A second switch that shows where it differs. -/
def DistinguishedSwitch (first again : BindingSwitchRequest) : Prop :=
  ComparedSwitch first again →
    again.expectedBindingEpoch = first.expectedBindingEpoch ∧
      again.target.pipelineVersionId = first.target.pipelineVersionId ∧
      again.target.boundary = first.target.boundary ∧
      again.target.rowCount = first.target.rowCount ∧
      again.target.checksum = first.target.checksum ∧
      again.target.dimensionVersionIds = first.target.dimensionVersionIds

theorem distinguishedSwitch_iff {first again : BindingSwitchRequest} :
    DistinguishedSwitch first again ↔ (SameSwitch first again ↔ ComparedSwitch first again) := by
  constructor
  · intro h
    constructor
    · intro hsame
      exact ⟨hsame.action, hsame.datasetId, hsame.versionId, hsame.parityReportId⟩
    · intro hcompared
      obtain ⟨hepoch, hpipeline, hboundary, hcount, hchecksum, hdimensions⟩ := h hcompared
      exact ⟨hcompared.action, hcompared.datasetId, hepoch, hcompared.parityReportId,
        hcompared.versionId, hpipeline, hboundary, hcount, hchecksum, hdimensions⟩
  · intro h hcompared
    have hsame := h.mpr hcompared
    exact ⟨hsame.expectedBindingEpoch, hsame.pipelineVersionId, hsame.boundary, hsame.rowCount,
      hsame.checksum, hsame.dimensionVersionIds⟩

/-- The law: an answer as the first time where the evidence is the same, an error where it is
not.  Either way the tables stay. -/
def Replayed (same : Prop) (tables : Tables) (receipt : Receipt)
    (outcome : Except Error (Tables × Answer)) : Prop :=
  (same → outcome = .ok (tables, .store receipt)) ∧ (¬ same → ∃ e, outcome = .error e)

theorem Replayed.iff_same {same compared : Prop} {tables : Tables} {receipt : Receipt}
    {outcome : Except Error (Tables × Answer)} (h : Replayed compared tables receipt outcome) :
    Replayed same tables receipt outcome ↔ (same ↔ compared) := by
  constructor
  · intro hlaw
    constructor
    · intro hsame
      by_contra hne
      obtain ⟨e, herror⟩ := h.2 hne
      rw [hlaw.1 hsame] at herror
      cases herror
    · intro hcompared
      by_contra hne
      obtain ⟨e, herror⟩ := hlaw.2 hne
      rw [h.1 hcompared] at herror
      cases herror
  · intro heq
    unfold Replayed
    rw [heq]
    exact h

/-! ## What a first request leaves -/

/-- The fields of a publication's commit that are read again. -/
structure Stands (commit : RevisionCommit) (p : RealtimePublication) (revision : Nat) : Prop where
  datasetId : commit.datasetId = p.datasetId
  sourceFingerprint : commit.sourceFingerprint = some p.sourceFingerprint
  servingVersionId : commit.servingVersionId = some p.servingVersionId
  bindingEpoch : commit.bindingEpoch = p.bindingEpoch
  rowCount : commit.rowCount = p.rowCount
  mutationType : commit.mutationType = p.mutationType
  revision : commit.revision = revision
  commitKind : commit.commitKind = .realtime

structure PublicationStands (db : Db) (p : RealtimePublication) (result : PublicationResult) :
    Prop where
  commit : ∃ commit, existingCommit db p.materializationId = some commit ∧
    Stands commit p result.revision
  event : ∃ e, byIdempotencyKey db (strip p.idempotencyKey) = some e ∧ e.id = result.eventCursor
  freshness : (db.freshness p.datasetId).isSome
  result_eq : result = ⟨p.datasetId, result.revision, result.eventCursor, true⟩

structure SwitchStands (env : Deployment) (db : Db) (request : BindingSwitchRequest)
    (result : BindingSwitchResult) : Prop where
  operation : operationByIdempotency db request.idempotencyKey =
    some (switchedOperation env request result)
  commit : ∃ commit, existingCommit db (request.recoveryId env.toRuntime) = some commit ∧
    commit.commitKind ≠ .realtime
  freshness : (db.freshness request.datasetId).isSome
  result_eq : result = ⟨request.operationId env.toRuntime, request.datasetId,
    request.expectedBindingEpoch + 1, result.revision, result.eventCursor, true⟩

/-- The operation that an accepted reservation leaves under its key. -/
def RebuildStands (db : Db) (plan : RebuildPlan) : Prop :=
  ∃ operation, operationByIdempotency db plan.idempotencyKey = some operation ∧
    operation.operationKind = .rebuild

/-- What the tables remember of a log. -/
structure Remembered (env : Deployment) (db : Db) (log : List (Call × Answer)) : Prop where
  gated : Gated db log
  published : ∀ entry ∈ firstPublications log, PublicationStands db entry.1 entry.2
  switched : ∀ entry ∈ firstSwitches log, SwitchStands env db entry.1 entry.2
  reserved : ∀ plan audit, (.recovery (.reserveRebuild plan audit), .done true) ∈ log →
    RebuildStands db plan
  commits : ∀ commit ∈ db.commits, ∀ id, commit.materializationId = some id →
    (∃ entry ∈ firstPublications log, entry.1.materializationId = id) ∨
      ∃ entry ∈ firstSwitches log, entry.1.recoveryId env.toRuntime = id
  operations : ∀ operation ∈ db.operations,
    (∃ entry ∈ firstSwitches log, operation = switchedOperation env entry.1 entry.2) ∨
      operation.operationKind = .rebuild ∧ ∃ plan audit,
        (.recovery (.reserveRebuild plan audit), .done true) ∈ log ∧
          plan.idempotencyKey = operation.idempotencyKey
  events : ∀ e ∈ db.events, ∀ id, e.idempotencyKey = "realtime-publication:" ++ id →
    ∃ entry ∈ firstPublications log, strip entry.1.idempotencyKey = e.idempotencyKey

/-! ## A second publication -/

section
variable {env : Deployment} {db : Db} {log : List (Call × Answer)}

theorem validateExisting_stands {commit : RevisionCommit} {first again : RealtimePublication}
    {revision : Nat} (h : Stands commit first revision) :
    validateExisting commit again = .ok () ↔ ComparedPublication first again := by
  unfold validateExisting
  rw [rejectIf_eq_ok, h.datasetId, h.sourceFingerprint, h.servingVersionId, h.bindingEpoch,
    h.rowCount, h.mutationType]
  simp only [not_or, not_not, Option.some.injEq]
  constructor
  · rintro ⟨hdataset, hfingerprint, hversion, hepoch, hcount, hmutation⟩
    exact ⟨hdataset.symm, hfingerprint.symm, hversion.symm, hepoch.symm, hcount.symm,
      hmutation.symm⟩
  · intro h
    exact ⟨h.datasetId.symm, h.sourceFingerprint.symm, h.servingVersionId.symm,
      h.bindingEpoch.symm, h.rowCount.symm, h.mutationType.symm⟩

theorem idempotencyKey_eq {first again : RealtimePublication}
    (hid : again.materializationId = first.materializationId) :
    again.idempotencyKey = first.idempotencyKey := by
  unfold RealtimePublication.idempotencyKey
  rw [hid]

/-- Events of publications are stored under stripped keys. -/
theorem Remembered.unpadded (h : Remembered env db log) {p : RealtimePublication} {e : Event}
    (hfound : byIdempotencyKey db p.idempotencyKey = some e) : Unpadded p := by
  have hkey : e.idempotencyKey = p.idempotencyKey := by simpa using List.find?_some hfound
  obtain ⟨entry, -, hstored⟩ := h.events e (List.mem_of_find?_eq_some hfound) _ hkey
  unfold Unpadded
  rw [← hkey, ← hstored, strip_strip]

/-- The answer from the first result, where everything that is compared is the same. -/
theorem existingResult_ok {first again : RealtimePublication}
    {result : PublicationResult} (hfirst : PublicationStands db first result)
    (hid : again.materializationId = first.materializationId)
    (hsame : ComparedPublication first again) (hunpadded : Unpadded again) :
    existingResult db again = .ok (some { result with created := false }) := by
  obtain ⟨commit, hcommit, hstands⟩ := hfirst.commit
  obtain ⟨e, hevent, hcursor⟩ := hfirst.event
  have hkey := idempotencyKey_eq hid
  have hfound : byIdempotencyKey db again.idempotencyKey = some e := by
    rw [← hunpadded, hkey]
    exact hevent
  unfold existingResult
  rw [hid, hcommit]
  refine bind_eq_ok.mpr ⟨(), (validateExisting_stands hstands).mpr hsame, ?_⟩
  refine bind_eq_ok.mpr ⟨e, orReject_eq_ok.mpr hfound, ?_⟩
  rw [hfirst.result_eq, hsame.datasetId, hstands.revision, hcursor]
  rfl

theorem Remembered.existingResult_error (h : Remembered env db log)
    {first again : RealtimePublication} {result : PublicationResult}
    (hfirst : PublicationStands db first result)
    (hid : again.materializationId = first.materializationId)
    (hdiffers : ¬ (ComparedPublication first again ∧ Unpadded again)) :
    ∃ e, existingResult db again = .error e := by
  obtain ⟨commit, hcommit, hstands⟩ := hfirst.commit
  cases hresult : existingResult db again with
  | error e => exact ⟨e, rfl⟩
  | ok found =>
      unfold existingResult at hresult
      rw [hid, hcommit] at hresult
      obtain ⟨_, hvalid, hresult⟩ := bind_eq_ok.mp hresult
      obtain ⟨e, hevent, -⟩ := bind_eq_ok.mp hresult
      refine absurd ⟨(validateExisting_stands hstands).mp hvalid, ?_⟩ hdiffers
      exact h.unpadded (orReject_eq_ok.mp hevent)

/-- Two publications that stand under one materialization id left the same. -/
theorem PublicationStands.same {first other : RealtimePublication}
    {result result' : PublicationResult} (h : PublicationStands db first result)
    (h' : PublicationStands db other result')
    (hid : other.materializationId = first.materializationId) :
    ComparedPublication first other ∧ result' = result := by
  obtain ⟨commit, hcommit, hstands⟩ := h.commit
  obtain ⟨commit', hcommit', hstands'⟩ := h'.commit
  obtain ⟨e, hevent, hcursor⟩ := h.event
  obtain ⟨e', hevent', hcursor'⟩ := h'.event
  rw [hid, hcommit] at hcommit'
  cases hcommit'
  have hkey := idempotencyKey_eq hid
  rw [hkey, hevent] at hevent'
  cases hevent'
  have hdataset := hstands'.datasetId.symm.trans hstands.datasetId
  refine ⟨⟨hdataset, ?_, ?_, ?_, ?_, ?_⟩, ?_⟩
  · exact Option.some.inj (hstands'.sourceFingerprint.symm.trans hstands.sourceFingerprint)
  · exact Option.some.inj (hstands'.servingVersionId.symm.trans hstands.servingVersionId)
  · exact hstands'.bindingEpoch.symm.trans hstands.bindingEpoch
  · exact hstands'.rowCount.symm.trans hstands.rowCount
  · exact hstands'.mutationType.symm.trans hstands.mutationType
  · rw [h'.result_eq, h.result_eq, hdataset, ← hstands.revision, ← hstands'.revision, ← hcursor,
      ← hcursor']

theorem ComparedPublication.trans {first other again : RealtimePublication}
    (h : ComparedPublication first other) :
    ComparedPublication other again ↔ ComparedPublication first again := by
  constructor
  · intro h'
    exact ⟨h'.1.trans h.1, h'.2.trans h.2, h'.3.trans h.3, h'.4.trans h.4, h'.5.trans h.5,
      h'.6.trans h.6⟩
  · intro h'
    exact ⟨h'.1.trans h.1.symm, h'.2.trans h.2.symm, h'.3.trans h.3.symm, h'.4.trans h.4.symm,
      h'.5.trans h.5.symm, h'.6.trans h.6.symm⟩

end

section
variable {env : Deployment} {snapshot tables : Tables} {earlier log : List (Call × Answer)}

/-- What the unlocked look of a second publication finds: nothing yet, or what the locked look
would find. -/
theorem Remembered.look (hsnapshot : Remembered env snapshot.db earlier) (hlogs : earlier <+: log)
    (h : Remembered env tables.db log) {first again : RealtimePublication}
    {result : PublicationResult} (hfirst : (first, result) ∈ firstPublications log)
    (hid : again.materializationId = first.materializationId) :
    existingResult snapshot.db again = .ok none ∨
      (∃ other result', PublicationStands snapshot.db other result' ∧
        again.materializationId = other.materializationId ∧ ComparedPublication first other ∧
        result' = result) := by
  cases hcommit : existingCommit snapshot.db again.materializationId with
  | none =>
      left
      unfold existingResult
      rw [hcommit]
      rfl
  | some commit =>
      right
      have hmem := List.mem_of_find?_eq_some hcommit
      have hcommitId : commit.materializationId = some again.materializationId := by
        simpa using List.find?_some hcommit
      rcases hsnapshot.commits commit hmem _ hcommitId with
        ⟨entry, hentry, hentryId⟩ | ⟨entry, hentry, hentryId⟩
      · have hstands := h.published entry (firstPublications_subset hlogs.subset hentry)
        obtain ⟨hsame, hresult⟩ := (h.published _ hfirst).same hstands (hentryId.trans hid)
        exact ⟨entry.1, entry.2, hsnapshot.published entry hentry, hentryId.symm, hsame, hresult⟩
      · -- no commit is both a publication's and a switch's
        obtain ⟨found, hfound, hkind⟩ :=
          (h.switched entry (firstSwitches_subset hlogs.subset hentry)).commit
        obtain ⟨found', hfound', hstands⟩ := (h.published _ hfirst).commit
        rw [hentryId, hid] at hfound
        rw [hfound] at hfound'
        cases hfound'
        exact absurd hstands.commitKind hkind

/-- A second publication is answered as the first one was exactly when everything that is
compared is the same; otherwise it raises. -/
theorem Remembered.publishes_again (hsnapshot : Remembered env snapshot.db earlier)
    (hlogs : earlier <+: log) (h : Remembered env tables.db log)
    {first again : RealtimePublication} {result : PublicationResult}
    (hfirst : (first, result) ∈ firstPublications log)
    (hid : again.materializationId = first.materializationId) :
    Replayed (ComparedPublication first again ∧ Unpadded again) tables
      (.published { result with created := false })
      (execCall env snapshot tables (.store (.publish again))) := by
  have hstands := h.published _ hfirst
  constructor
  · rintro ⟨hsame, hunpadded⟩
    have hpublish : publish env snapshot.db tables.db again =
        .ok (tables.db, { result with created := false }) := by
      rcases hsnapshot.look hlogs h hfirst hid with hnone | ⟨other, _, hother, hid', hfields, rfl⟩
      · obtain ⟨freshness, hfreshness⟩ := Option.isSome_iff_exists.mp hstands.freshness
        refine bind_eq_ok.mpr ⟨none, hnone, ?_⟩
        refine bind_eq_ok.mpr ⟨freshness, ?_, ?_⟩
        · rw [hsame.datasetId]
          exact orReject_eq_ok.mpr hfreshness
        · exact bind_eq_ok.mpr ⟨_, existingResult_ok hstands hid hsame hunpadded, rfl⟩
      · refine bind_eq_ok.mpr ⟨_, existingResult_ok hother hid' ?_ hunpadded, rfl⟩
        exact hfields.trans.mpr hsame
    exact bind_eq_ok.mpr ⟨_, bind_eq_ok.mpr ⟨_, hpublish, rfl⟩, rfl⟩
  · intro hdiffers
    have hpublish : ∃ e, publish env snapshot.db tables.db again = .error e := by
      rcases hsnapshot.look hlogs h hfirst hid with hnone | ⟨other, _, hother, hid', hfields, rfl⟩
      · obtain ⟨e, herror⟩ := h.existingResult_error hstands hid hdiffers
        unfold publish publishLocked
        rw [hnone]
        cases tables.db.freshness again.datasetId with
        | none => exact ⟨_, rfl⟩
        | some freshness =>
            refine ⟨e, ?_⟩
            show (existingResult _ _ >>= _) = _
            exact bind_of_error herror
      · rw [← hfields.trans] at hdiffers
        obtain ⟨e, herror⟩ := hsnapshot.existingResult_error hother hid' hdiffers
        exact ⟨e, bind_of_error herror⟩
    obtain ⟨e, herror⟩ := hpublish
    exact ⟨e, bind_of_error (bind_of_error herror)⟩

/-! ## A second switch -/

theorem existingSwitchResult_ok {db : Db} {first again : BindingSwitchRequest}
    {result : BindingSwitchResult} (hfirst : SwitchStands env db first result)
    (hkey : again.idempotencyKey = first.idempotencyKey) (hsame : ComparedSwitch first again) :
    existingSwitchResult env.toRuntime (switchedOperation env first result) again =
      .ok { result with created := false } := by
  have hid : again.operationId env.toRuntime = first.operationId env.toRuntime := by
    unfold BindingSwitchRequest.operationId BindingSwitchRequest.operationMaterial
    rw [hkey]
  refine bind_eq_ok.mpr ⟨(), rejectIf_eq_ok.mpr ?_, ?_⟩
  · simp only [not_or, not_not]
    refine ⟨hid.symm, ?_, hsame.datasetId.symm, hsame.versionId.symm, hsame.parityReportId.symm, rfl⟩
    rw [hsame.action]
    rfl
  · rw [hfirst.result_eq]
    rfl

theorem existingSwitchResult_error {first again : BindingSwitchRequest}
    {result : BindingSwitchResult} (hdiffers : ¬ ComparedSwitch first again) :
    ∃ e, existingSwitchResult env.toRuntime (switchedOperation env first result) again
      = .error e := by
  cases hresult : existingSwitchResult env.toRuntime (switchedOperation env first result) again with
  | error e => exact ⟨e, rfl⟩
  | ok found =>
      obtain ⟨_, hsame, -⟩ := bind_eq_ok.mp hresult
      have hsame := rejectIf_eq_ok.mp hsame
      simp only [not_or, not_not] at hsame
      obtain ⟨-, hkind, hdataset, hversion, hparity, -⟩ := hsame
      refine absurd ⟨?_, hdataset.symm, hversion.symm, hparity.symm⟩ hdiffers
      have hkind : first.action.operationKind = again.action.operationKind := hkind
      revert hkind
      cases first.action <;> cases again.action <;> first | exact fun _ => rfl | exact nofun

/-- A rebuild's key is no switch's. -/
theorem existingSwitchResult_rebuild {operation : RecoveryOperation}
    {again : BindingSwitchRequest} (hkind : operation.operationKind = .rebuild) :
    ∃ e, existingSwitchResult env.toRuntime operation again = .error e := by
  cases hresult : existingSwitchResult env.toRuntime operation again with
  | error e => exact ⟨e, rfl⟩
  | ok found =>
      obtain ⟨_, hsame, -⟩ := bind_eq_ok.mp hresult
      have hsame := rejectIf_eq_ok.mp hsame
      simp only [not_or, not_not] at hsame
      exact absurd (hsame.2.1.symm.trans hkind) (operationKind_ne_rebuild again.action)

/-- What the unlocked look of a second switch finds: nothing yet, or the operation that the
locked look would find. -/
theorem Remembered.look_switch (hsnapshot : Remembered env snapshot.db earlier)
    (hlogs : earlier <+: log) (h : Remembered env tables.db log) {first : BindingSwitchRequest}
    {result : BindingSwitchResult} (hfirst : (first, result) ∈ firstSwitches log) :
    operationByIdempotency snapshot.db first.idempotencyKey = none ∨
      operationByIdempotency snapshot.db first.idempotencyKey =
        some (switchedOperation env first result) := by
  cases hfound : operationByIdempotency snapshot.db first.idempotencyKey with
  | none => exact .inl rfl
  | some operation =>
      right
      have hmem := List.mem_of_find?_eq_some hfound
      have hkey : operation.idempotencyKey = first.idempotencyKey := by
        simpa using List.find?_some hfound
      have hnow := (h.switched _ hfirst).operation
      rcases hsnapshot.operations operation hmem with
        ⟨entry, hentry, rfl⟩ | ⟨-, plan, audit, hlog, hplan⟩
      · have hentry' := (h.switched entry (firstSwitches_subset hlogs.subset hentry)).operation
        have hkey' : entry.1.idempotencyKey = first.idempotencyKey := hkey
        rw [hkey', hnow] at hentry'
        exact hentry'.symm
      · obtain ⟨stored, hstored, hkind⟩ := h.reserved plan audit (hlogs.subset hlog)
        rw [hplan, hkey, hnow] at hstored
        cases hstored
        exact absurd hkind (operationKind_ne_rebuild first.action)

/-- A second switch is answered as the first one was exactly when everything that is compared
is the same; otherwise it raises. -/
theorem Remembered.switches_again (hsnapshot : Remembered env snapshot.db earlier)
    (hlogs : earlier <+: log) (h : Remembered env tables.db log)
    {first again : BindingSwitchRequest} {result : BindingSwitchResult}
    (hfirst : (first, result) ∈ firstSwitches log)
    (hkey : again.idempotencyKey = first.idempotencyKey) :
    Replayed (ComparedSwitch first again) tables (.switched { result with created := false })
      (execCall env snapshot tables (.store (.switch again))) := by
  have hstands := h.switched _ hfirst
  have hnow : operationByIdempotency tables.db again.idempotencyKey =
      some (switchedOperation env first result) := by
    rw [hkey]
    exact hstands.operation
  have hlook := hsnapshot.look_switch hlogs h hfirst
  rw [← hkey] at hlook
  constructor
  · intro hsame
    have hresult := existingSwitchResult_ok hstands hkey hsame
    have hswitch : switchBinding env snapshot.db tables.db again =
        .ok (tables.db, { result with created := false }) := by
      unfold switchBinding switchLocked
      rcases hlook with hnone | hfound
      · obtain ⟨freshness, hfreshness⟩ := Option.isSome_iff_exists.mp hstands.freshness
        rw [hnone, hsame.datasetId, hfreshness, hnow]
        exact bind_eq_ok.mpr ⟨freshness, rfl, bind_eq_ok.mpr ⟨_, hresult, rfl⟩⟩
      · rw [hfound]
        exact bind_eq_ok.mpr ⟨_, hresult, rfl⟩
    exact bind_eq_ok.mpr ⟨_, bind_eq_ok.mpr ⟨_, hswitch, rfl⟩, rfl⟩
  · intro hdiffers
    obtain ⟨e, hresult⟩ := @existingSwitchResult_error env first again result hdiffers
    have hswitch : ∃ e, switchBinding env snapshot.db tables.db again = .error e := by
      unfold switchBinding switchLocked
      rcases hlook with hnone | hfound
      · rw [hnone, hnow]
        cases tables.db.freshness again.datasetId with
        | none => exact ⟨_, rfl⟩
        | some freshness =>
            refine ⟨e, ?_⟩
            show (existingSwitchResult _ _ _ >>= _) = _
            exact bind_of_error hresult
      · rw [hfound]
        exact ⟨e, bind_of_error hresult⟩
    obtain ⟨e, herror⟩ := hswitch
    exact ⟨e, bind_of_error (bind_of_error herror)⟩

end

/-! ## What one call leaves as it was -/

/-- Commits keep what is read of them, events and freshness rows stay. -/
structure Onward (db db' : Db) : Prop where
  commits : ∀ id commit, existingCommit db id = some commit →
    ∃ commit', existingCommit db' id = some commit' ∧ commit'.commitKind = commit.commitKind ∧
      ∀ p revision, Stands commit p revision → Stands commit' p revision
  events : ∃ more, db'.events = db.events ++ more
  freshness : ∀ id, (db.freshness id).isSome → (db'.freshness id).isSome

section
variable {env : Deployment} {snapshot db db' : Db} {request : Request} {receipt : Receipt}

theorem existingCommit_append {more : List RevisionCommit} {id : String} {commit : RevisionCommit}
    (heq : db'.commits = db.commits ++ more) (h : existingCommit db id = some commit) :
    existingCommit db' id = some commit := by
  unfold existingCommit at h ⊢
  rw [heq, List.find?_append, h]
  rfl

theorem onward_of_append {more : List RevisionCommit}
    (hcommits : db'.commits = db.commits ++ more) (hevents : ∃ more, db'.events = db.events ++ more)
    (hfreshness : ∀ id, (db.freshness id).isSome → (db'.freshness id).isSome) : Onward db db' where
  commits := fun _ commit hcommit =>
    ⟨commit, existingCommit_append hcommits hcommit, rfl, fun _ _ hstands => hstands⟩
  events := hevents
  freshness := hfreshness

theorem isSome_put {α : Type} (table : Table String α) (key : String) (row : α) (id : String)
    (h : (table id).isSome) : (table.put key row id).isSome := by
  by_cases hid : id = key
  · subst hid
    rw [Table.put_self]
    rfl
  · rw [Table.put_ne _ hid]
    exact h

theorem Stands.patched {commit : RevisionCommit} {p : RealtimePublication} {revision : Nat}
    (h : Stands commit p revision) (manifest fingerprint : Option String) :
    Stands (Dashboard.patchCommit commit manifest fingerprint) p revision where
  datasetId := h.datasetId
  sourceFingerprint := by
    show commit.sourceFingerprint.or fingerprint = _
    rw [h.sourceFingerprint]
    rfl
  servingVersionId := h.servingVersionId
  bindingEpoch := h.bindingEpoch
  rowCount := h.rowCount
  mutationType := h.mutationType
  revision := h.revision
  commitKind := h.commitKind

/-- A manifest that is filled in is all that happens to a stored commit. -/
theorem onward_patched {existing : RevisionCommit} {manifest fingerprint : Option String}
    {commits : List RevisionCommit}
    (h : Dashboard.updateCommit db.commits existing manifest fingerprint = .ok commits) :
    Onward db { db with commits := commits } where
  commits := by
    intro id commit hcommit
    unfold existingCommit at hcommit ⊢
    have hsearch : ∀ stored ∈ db.commits,
        decide (stored.datasetId = existing.datasetId ∧ stored.revision = existing.revision) = true →
        decide ((Dashboard.patchCommit stored manifest fingerprint).materializationId = some id) =
          decide (stored.materializationId = some id) := fun _ _ _ => rfl
    show ∃ commit', List.find? _ commits = some commit' ∧ _
    rw [(Dashboard.updateCommit_eq_ok h).2, find?_updateWhere hsearch, hcommit]
    by_cases hid : commit.datasetId = existing.datasetId ∧ commit.revision = existing.revision
    · refine ⟨Dashboard.patchCommit commit manifest fingerprint, by simp [hid], rfl, ?_⟩
      exact fun _ _ hstands => hstands.patched manifest fingerprint
    · exact ⟨commit, by simp [hid], rfl, fun _ _ hstands => hstands⟩
  events := ⟨[], (List.append_nil _).symm⟩
  freshness := fun _ h => h

theorem Outcome.onward (h : Outcome env snapshot db request receipt db') : Onward db db' := by
  have hrefl : Onward db db :=
    ⟨fun _ commit hcommit => ⟨commit, hcommit, rfl, fun _ _ h => h⟩,
      ⟨[], (List.append_nil _).symm⟩, fun _ h => h⟩
  cases h with
  | publishedBefore _ => exact hrefl
  | published hnew =>
      refine onward_of_append hnew.commits_eq ⟨_, hnew.events_eq⟩ fun id hid => ?_
      rw [hnew.freshness_eq]
      exact isSome_put _ _ _ id hid
  | switchedBefore _ => exact hrefl
  | switched hnew =>
      obtain ⟨_, -, -, hcommits⟩ := hnew.commit
      refine onward_of_append hcommits ⟨_, hnew.events_eq⟩ fun id hid => ?_
      rw [hnew.freshness_eq]
      exact isSome_put _ _ _ id hid
  | recordedBefore => exact hrefl
  | patched hupdate => exact onward_patched hupdate
  | @duplicate request _ =>
      obtain ⟨freshness, heq, hself, hother⟩ : ∃ freshness, _ :=
        Dashboard.ensureFreshness_eq db request
      rw [heq]
      refine ⟨hrefl.commits, hrefl.events, fun id hid => ?_⟩
      show (freshness id).isSome
      by_cases hsame : id = request.datasetId
      · rw [hsame, hself]
        rfl
      · rw [hother id hsame]
        exact hid
  | @recorded request _ _ _ hnew =>
      refine onward_of_append hnew.commits_eq ?_ fun id hid => ?_
      · rcases hnew.events_eq with ⟨hsame, -⟩ | ⟨hmore, -⟩
        · exact ⟨[], by rw [hsame, List.append_nil]⟩
        · exact ⟨_, hmore⟩
      · by_cases hsame : id = request.datasetId
        · rw [hsame, hnew.freshness_eq.1]
          rfl
        · rw [hnew.freshness_eq.2 id hsame]
          exact hid

theorem Onward.of_eq (hcommits : db'.commits = db.commits)
    (hevents : ∃ more, db'.events = db.events ++ more) (hfreshness : db'.freshness = db.freshness) :
    Onward db db' :=
  onward_of_append (by rw [hcommits, List.append_nil]) hevents fun _ h => by rwa [hfreshness]

theorem Effect.onward {snapshot tables tables' : Tables} {call : Call} {answer : Answer}
    (h : Effect env snapshot tables call answer tables') : Onward tables.db tables'.db := by
  cases h with
  | store hout => exact hout.onward
  | materialization _ => exact .of_eq rfl ⟨[], (List.append_nil _).symm⟩ rfl
  | recovery hstep =>
      cases hstep <;> exact .of_eq rfl ⟨[], (List.append_nil _).symm⟩ rfl

theorem Onward.publicationStands {p : RealtimePublication} {result : PublicationResult}
    (h : Onward db db') (hp : PublicationStands db p result) : PublicationStands db' p result where
  commit := by
    obtain ⟨commit, hcommit, hstands⟩ := hp.commit
    obtain ⟨commit', hcommit', -, hkept⟩ := h.commits _ commit hcommit
    exact ⟨commit', hcommit', hkept _ _ hstands⟩
  event := by
    obtain ⟨e, hevent, hcursor⟩ := hp.event
    obtain ⟨more, hmore⟩ := h.events
    refine ⟨e, ?_, hcursor⟩
    unfold byIdempotencyKey at hevent ⊢
    rw [hmore, List.find?_append, hevent]
    rfl
  freshness := h.freshness _ hp.freshness
  result_eq := hp.result_eq

/-- A move is one of a rebuild, and leaves its key. -/
theorem RebuildMove.kept {call : RecoveryCall} {operation after : RecoveryOperation}
    (h : RebuildMove db call operation after) :
    operation.operationKind = .rebuild ∧ after.operationKind = operation.operationKind ∧
      after.idempotencyKey = operation.idempotencyKey := by
  cases h with
  | running hkind _ => exact ⟨hkind, rfl, rfl⟩
  | ready hkind _ _ _ => exact ⟨hkind, rfl, rfl⟩
  | failed hkind _ => exact ⟨hkind, rfl, rfl⟩

/-- The operation under a key stays under it; a switch's stays as it is. -/
theorem OperationsStep.lookup {call : Call} {answer : Answer} {log : List (Call × Answer)}
    {key : String} {operation : RecoveryOperation} (h : OperationsStep env db db' call answer)
    (hgated : Gated db log) (hfound : operationByIdempotency db key = some operation) :
    ∃ operation', operationByIdempotency db' key = some operation' ∧
      operation'.operationKind = operation.operationKind ∧
      (operation.operationKind ≠ .rebuild → operation' = operation) := by
  have happend : ∀ more, db'.operations = db.operations ++ more →
      operationByIdempotency db' key = some operation := by
    intro more heq
    unfold operationByIdempotency at hfound ⊢
    rw [heq, List.find?_append, hfound]
    rfl
  cases h with
  | same heq _ _ => exact ⟨operation, happend [] (by rw [heq, List.append_nil]), rfl, fun _ => rfl⟩
  | switched hnew => exact ⟨operation, happend _ hnew.operations_eq.2.2, rfl, fun _ => rfl⟩
  | reserved _ _ heq => exact ⟨operation, happend _ heq, rfl, fun _ => rfl⟩
  | @moved _ moved f hfind hmove heq =>
      have hmem := List.mem_of_find?_eq_some hfind
      have honly : ∀ stored ∈ db.operations, stored.id = moved.id → stored = moved :=
        fun stored hstored => List.inj_on_of_nodup_map hgated.ids hstored hmem
      obtain ⟨hrebuild, hkind, hkey⟩ := hmove.kept
      have hsearch : ∀ stored ∈ db.operations, decide (stored.id = moved.id) = true →
          decide ((f stored).idempotencyKey = key) = decide (stored.idempotencyKey = key) := by
        intro stored hstored hid
        rw [honly stored hstored (by simpa using hid), hkey]
      have hstored := List.mem_of_find?_eq_some hfound
      unfold operationByIdempotency at hfound ⊢
      rw [heq, find?_updateWhere hsearch, hfound]
      by_cases hid : operation.id = moved.id
      · cases honly operation hstored hid
        exact ⟨f operation, by simp, hkind, fun hne => absurd hrebuild hne⟩
      · exact ⟨operation, by simp [hid], rfl, fun _ => rfl⟩

theorem Onward.switchStands {call : Call} {answer : Answer} {log : List (Call × Answer)}
    {switch : BindingSwitchRequest} {result : BindingSwitchResult} (h : Onward db db')
    (hops : OperationsStep env db db' call answer) (hgated : Gated db log)
    (hs : SwitchStands env db switch result) : SwitchStands env db' switch result where
  operation := by
    obtain ⟨operation', hfound, -, hsame⟩ := hops.lookup hgated hs.operation
    rw [hfound, hsame (operationKind_ne_rebuild switch.action)]
  commit := by
    obtain ⟨commit, hcommit, hkind⟩ := hs.commit
    obtain ⟨commit', hcommit', hkept, -⟩ := h.commits _ commit hcommit
    exact ⟨commit', hcommit', by rw [hkept]; exact hkind⟩
  freshness := h.freshness _ hs.freshness
  result_eq := hs.result_eq

/-! ## The tables remember the log -/

theorem existingCommit_new {commit : RevisionCommit} {id : String}
    (heq : db'.commits = db.commits ++ [commit]) (hid : commit.materializationId = some id)
    (hnone : ∀ stored ∈ db.commits, stored.materializationId ≠ some id) :
    existingCommit db' id = some commit := by
  unfold existingCommit
  have hbefore : db.commits.find? (fun stored => stored.materializationId = some id) = none := by
    rw [List.find?_eq_none]
    intro stored hstored
    simpa using hnone stored hstored
  rw [heq, List.find?_append, hbefore, Option.none_or, List.find?_singleton, if_pos (by simpa)]

theorem byIdempotencyKey_new {e : Event} (heq : db'.events = db.events ++ [e])
    (hnone : byIdempotencyKey db e.idempotencyKey = none) :
    byIdempotencyKey db' e.idempotencyKey = some e := by
  unfold byIdempotencyKey at hnone ⊢
  rw [heq, List.find?_append, hnone, Option.none_or, List.find?_singleton, if_pos (by simp)]

theorem Published.stands {p : RealtimePublication} {freshness : Freshness}
    {result : PublicationResult} (h : Published env db p freshness db' result) :
    PublicationStands db' p result where
  commit := by
    refine ⟨publicationCommit p (freshness.latestRevision + 1), ?_, ?_⟩
    · refine existingCommit_new h.commits_eq rfl fun stored hstored hid => ?_
      exact (h.apart stored hstored).materialization ⟨rfl, hid⟩
    · rw [h.result_eq]
      exact ⟨rfl, rfl, rfl, rfl, rfl, rfl, rfl, rfl⟩
  event := by
    have hkey : ((publicationEvent p (freshness.latestRevision + 1)).row
        (db.eventSequence + 1)).idempotencyKey = strip p.idempotencyKey := rfl
    have hevent := h.unannounced
    rw [← hkey] at hevent
    rw [← hkey]
    refine ⟨_, byIdempotencyKey_new h.events_eq hevent, ?_⟩
    rw [h.result_eq]
    rfl
  freshness := by
    rw [h.freshness_eq, Table.put_self]
    rfl
  result_eq := by rw [h.result_eq]

theorem Switched.stands {switch : BindingSwitchRequest} {freshness : Freshness}
    {result : BindingSwitchResult} (h : Switched env db switch freshness db' result) :
    SwitchStands env db' switch result where
  operation := by
    obtain ⟨-, hkeys, heq⟩ := h.operations_eq
    have hbefore : db.operations.find?
        (fun stored => stored.idempotencyKey = switch.idempotencyKey) = none := by
      rw [List.find?_eq_none]
      intro stored hstored
      simpa using hkeys stored hstored
    unfold operationByIdempotency
    rw [heq, List.find?_append, hbefore, Option.none_or, List.find?_singleton]
    exact if_pos (by simp [switchedOperation, switchOperation])
  commit := by
    obtain ⟨fingerprint, -, hapart, hcommits⟩ := h.commit
    refine ⟨_, existingCommit_new hcommits rfl fun stored hstored hid => ?_, ?_⟩
    · exact (hapart stored hstored).materialization ⟨rfl, hid⟩
    · show switch.action.commitKind ≠ _
      cases switch.action <;> exact fun heq => by cases heq
  freshness := by
    rw [h.freshness_eq, Table.put_self]
    rfl
  result_eq := by rw [h.result_eq]

/-! Keys of events that are no publication's. -/

theorem switch_key_ne (text id : String) :
    strip ("binding-switch:" ++ text) ≠ "realtime-publication:" ++ id := by
  intro h
  have hhead := @strip_head ("binding-switch:" ++ text) 'b' ("inding-switch:".toList ++ text.toList)
    (by rw [String.toList_append]; rfl) (by decide)
  rw [h, String.toList_append] at hhead
  cases hhead

theorem record_key_ne (request : Dashboard.CommitRequest) (revision : Nat) (id : String) :
    strip (Dashboard.recordedEvent request revision).idempotencyKey ≠
      "realtime-publication:" ++ id := by
  intro h
  have hkey : (Dashboard.recordedEvent request revision).idempotencyKey =
      "dataset:" ++ (request.datasetId ++ ":revision:" ++ toString revision) := by
    simp [Dashboard.recordedEvent, String.append_assoc, toString]
  have hhead := @strip_head ("dataset:" ++ (request.datasetId ++ ":revision:" ++ toString revision))
    'd' _ (by rw [String.toList_append]; rfl) (by decide)
  rw [← hkey, h, String.toList_append] at hhead
  cases hhead

/-- What one call adds to the commits and the events. -/
structure Announced (env : Deployment) (db db' : Db) (entry : Call × Answer) : Prop where
  commits : ∀ commit ∈ db'.commits, ∀ id, commit.materializationId = some id →
    (∃ stored ∈ db.commits, stored.materializationId = some id) ∨
    (∃ p result, (p, result) ∈ firstPublications [entry] ∧ p.materializationId = id) ∨
    ∃ switch result, (switch, result) ∈ firstSwitches [entry] ∧
      switch.recoveryId env.toRuntime = id
  events : ∀ e ∈ db'.events, ∀ id, e.idempotencyKey = "realtime-publication:" ++ id →
    e ∈ db.events ∨ ∃ p result, (p, result) ∈ firstPublications [entry] ∧
      strip p.idempotencyKey = e.idempotencyKey

theorem Announced.of_eq {entry : Call × Answer} (hcommits : db'.commits = db.commits)
    (hevents : db'.events = db.events) : Announced env db db' entry where
  commits := by
    rw [hcommits]
    exact fun commit hmem id hid => .inl ⟨commit, hmem, hid⟩
  events := by
    rw [hevents]
    exact fun e hmem _ _ => .inl hmem

theorem Outcome.announced (h : Outcome env snapshot db request receipt db') :
    Announced env db db' (.store request, .store receipt) := by
  cases h with
  | publishedBefore _ => exact .of_eq rfl rfl
  | @published p freshness _ result hnew =>
      have hfirst : (p, result) ∈ firstPublications [(.store (.publish p),
          .store (.published result))] :=
        mem_firstPublications.mpr ⟨hnew.created, List.mem_singleton_self _⟩
      constructor
      · intro commit hmem id hid
        rw [hnew.commits_eq, List.mem_append, List.mem_singleton] at hmem
        rcases hmem with hmem | rfl
        · exact .inl ⟨commit, hmem, hid⟩
        · exact .inr (.inl ⟨p, result, hfirst, Option.some.inj hid⟩)
      · intro e hmem id _
        rw [hnew.events_eq, List.mem_append, List.mem_singleton] at hmem
        rcases hmem with hmem | rfl
        · exact .inl hmem
        · exact .inr ⟨p, result, hfirst, rfl⟩
  | switchedBefore _ => exact .of_eq rfl rfl
  | @switched switch freshness _ result hnew =>
      have hfirst : (switch, result) ∈ firstSwitches [(.store (.switch switch),
          .store (.switched result))] :=
        mem_firstSwitches.mpr ⟨by rw [hnew.result_eq], List.mem_singleton_self _⟩
      obtain ⟨_, -, -, hcommits⟩ := hnew.commit
      constructor
      · intro commit hmem id hid
        rw [hcommits, List.mem_append, List.mem_singleton] at hmem
        rcases hmem with hmem | rfl
        · exact .inl ⟨commit, hmem, hid⟩
        · exact .inr (.inr ⟨switch, result, hfirst, Option.some.inj hid⟩)
      · intro e hmem id hid
        rw [hnew.events_eq, List.mem_append, List.mem_singleton] at hmem
        rcases hmem with hmem | rfl
        · exact .inl hmem
        · exact absurd hid (switch_key_ne _ id)
  | recordedBefore => exact .of_eq rfl rfl
  | patched hupdate =>
      refine ⟨?_, fun e hmem _ _ => .inl hmem⟩
      intro commit hmem id hid
      have hmem : commit ∈ _ := hmem
      rw [(Dashboard.updateCommit_eq_ok hupdate).2] at hmem
      obtain ⟨stored, hstored, rfl⟩ := List.mem_map.mp hmem
      refine .inl ⟨stored, hstored, ?_⟩
      split at hid <;> exact hid
  | @duplicate request _ =>
      obtain ⟨freshness, heq, -⟩ : ∃ freshness, _ := Dashboard.ensureFreshness_eq db request
      rw [heq]
      exact .of_eq rfl rfl
  | @recorded request _ commit _ hnew =>
      constructor
      · intro stored hmem id hid
        rw [hnew.commits_eq, List.mem_append, List.mem_singleton] at hmem
        rcases hmem with hmem | rfl
        · exact .inl ⟨stored, hmem, hid⟩
        · rw [hnew.commit_eq] at hid
          cases hid
      · intro e hmem id hid
        rcases hnew.events_eq with ⟨heq, -⟩ | ⟨heq, -⟩
        · rw [heq] at hmem
          exact .inl hmem
        · rw [heq, List.mem_append, List.mem_singleton] at hmem
          rcases hmem with hmem | rfl
          · exact .inl hmem
          · refine absurd ?_ (record_key_ne request ((Dashboard.lockedFreshness db request).latestRevision + 1) id)
            exact hid

theorem Effect.announced {snapshot tables tables' : Tables} {call : Call} {answer : Answer}
    (h : Effect env snapshot tables call answer tables') :
    Announced env tables.db tables'.db (call, answer) := by
  cases h with
  | store hout => exact hout.announced
  | materialization _ => exact .of_eq rfl rfl
  | recovery hstep => cases hstep <;> exact .of_eq rfl rfl

end

section
variable {env : Deployment} {snapshot tables tables' : Tables} {log : List (Call × Answer)}
  {call : Call} {answer : Answer}

theorem mem_log_cases {entry entry' : Call × Answer} (h : entry ∈ log ++ [entry']) :
    entry ∈ log ∨ entry = entry' := by
  simpa using h

/-- A publication that is reported as new stands. -/
theorem Effect.published {p : RealtimePublication} {result : PublicationResult}
    (h : Effect env snapshot tables (.store (.publish p)) (.store (.published result)) tables')
    (hcreated : result.created = true) : PublicationStands tables'.db p result := by
  cases h with
  | store hout =>
      cases hout with
      | publishedBefore hold => rw [hold] at hcreated; cases hcreated
      | published hnew => exact hnew.stands

theorem Effect.switched {request : BindingSwitchRequest} {result : BindingSwitchResult}
    (h : Effect env snapshot tables (.store (.switch request)) (.store (.switched result)) tables')
    (hcreated : result.created = true) : SwitchStands env tables'.db request result := by
  cases h with
  | store hout =>
      cases hout with
      | switchedBefore hold => rw [hold] at hcreated; cases hcreated
      | switched hnew => exact hnew.stands

theorem Effect.reserved {plan : RebuildPlan} {audit : RebuildAudit}
    (h : Effect env snapshot tables (.recovery (.reserveRebuild plan audit)) (.done true) tables') :
    RebuildStands tables'.db plan := by
  cases h with
  | recovery hstep =>
      cases hstep with
      | @reserved _ _ operations hinsert =>
          obtain ⟨hapart, rfl⟩ := insertOperation_eq_ok.mp hinsert
          have hbefore : tables.db.operations.find?
              (fun stored => stored.idempotencyKey = plan.idempotencyKey) = none := by
            rw [List.find?_eq_none]
            intro stored hstored
            simpa [rebuildOperation] using (hapart stored hstored).2
          refine ⟨rebuildOperation plan audit, ?_, rfl⟩
          unfold operationByIdempotency
          rw [List.find?_append, hbefore, Option.none_or, List.find?_singleton]
          exact if_pos (by simp [rebuildOperation])
      | @moved _ operation f _ hmove =>
          generalize f operation = after at hmove
          cases hmove

theorem Remembered.effect (h : Remembered env tables.db log)
    (heffect : Effect env snapshot tables call answer tables') :
    Remembered env tables'.db (log ++ [(call, answer)]) where
  gated := h.gated.effect heffect
  published := by
    rintro ⟨p, result⟩ hentry
    obtain ⟨hcreated, hmem⟩ := mem_firstPublications.mp hentry
    rcases mem_log_cases hmem with hmem | hlast
    · exact heffect.onward.publicationStands (h.published _
        (mem_firstPublications.mpr ⟨hcreated, hmem⟩))
    · cases hlast
      exact heffect.published hcreated
  switched := by
    rintro ⟨request, result⟩ hentry
    obtain ⟨hcreated, hmem⟩ := mem_firstSwitches.mp hentry
    rcases mem_log_cases hmem with hmem | hlast
    · exact heffect.onward.switchStands heffect.operations h.gated (h.switched _
        (mem_firstSwitches.mpr ⟨hcreated, hmem⟩))
    · cases hlast
      exact heffect.switched hcreated
  reserved := by
    intro plan audit hentry
    rcases mem_log_cases hentry with hmem | hlast
    · obtain ⟨operation, hfound, hkind⟩ := h.reserved plan audit hmem
      obtain ⟨operation', hfound', hkind', -⟩ := heffect.operations.lookup h.gated hfound
      exact ⟨operation', hfound', hkind'.trans hkind⟩
    · cases hlast
      exact heffect.reserved
  commits := by
    intro commit hmem id hid
    rcases heffect.announced.commits commit hmem id hid with
      ⟨stored, hstored, hid⟩ | ⟨p, result, hentry, hid⟩ | ⟨switch, result, hentry, hid⟩
    · rcases h.commits stored hstored id hid with ⟨entry, hentry, hid⟩ | ⟨entry, hentry, hid⟩
      · exact .inl ⟨entry, firstPublications_subset (List.subset_append_left _ _) hentry, hid⟩
      · exact .inr ⟨entry, firstSwitches_subset (List.subset_append_left _ _) hentry, hid⟩
    · exact .inl ⟨_, firstPublications_subset (List.subset_append_right _ _) hentry, hid⟩
    · exact .inr ⟨_, firstSwitches_subset (List.subset_append_right _ _) hentry, hid⟩
  operations := by
    have hkept : ∀ operation ∈ tables.db.operations,
        (∃ entry ∈ firstSwitches (log ++ [(call, answer)]),
          operation = switchedOperation env entry.1 entry.2) ∨
        operation.operationKind = .rebuild ∧ ∃ plan audit,
          (.recovery (.reserveRebuild plan audit), .done true) ∈ log ++ [(call, answer)] ∧
            plan.idempotencyKey = operation.idempotencyKey := by
      intro operation hmem
      rcases h.operations operation hmem with ⟨entry, hentry, heq⟩ | ⟨hkind, plan, audit, hlog, hkey⟩
      · exact .inl ⟨entry, firstSwitches_subset (List.subset_append_left _ _) hentry, heq⟩
      · exact .inr ⟨hkind, plan, audit, List.mem_append_left _ hlog, hkey⟩
    intro operation hmem
    cases heffect.operations with
    | same heq _ _ =>
        rw [heq] at hmem
        exact hkept operation hmem
    | @switched request _ result hnew =>
        rw [hnew.operations_eq.2.2, List.mem_append, List.mem_singleton] at hmem
        rcases hmem with hmem | rfl
        · exact hkept operation hmem
        · refine .inl ⟨(request, result), mem_firstSwitches.mpr ⟨by rw [hnew.result_eq], ?_⟩, rfl⟩
          exact List.mem_append_right _ (List.mem_singleton_self _)
    | @reserved plan audit _ _ heq =>
        rw [heq, List.mem_append, List.mem_singleton] at hmem
        rcases hmem with hmem | rfl
        · exact hkept operation hmem
        · exact .inr ⟨rfl, plan, audit, List.mem_append_right _ (List.mem_singleton_self _), rfl⟩
    | @moved _ moved f hfind hmove heq =>
        rw [heq] at hmem
        obtain ⟨stored, hstored, rfl⟩ := List.mem_map.mp hmem
        split
        · rename_i hid
          have hsame : stored = moved := List.inj_on_of_nodup_map h.gated.ids hstored
            (List.mem_of_find?_eq_some hfind) (by simpa using hid)
          subst hsame
          obtain ⟨hkind, hkind', hkey⟩ := hmove.kept
          rcases hkept stored hstored with ⟨entry, -, heq'⟩ | ⟨-, plan, audit, hlog, hplan⟩
          · rw [heq'] at hkind
            exact absurd hkind (operationKind_ne_rebuild entry.1.action)
          · exact .inr ⟨hkind'.trans hkind, plan, audit, hlog, hplan.trans hkey.symm⟩
        · exact hkept stored hstored
  events := by
    intro e hmem id hid
    rcases heffect.announced.events e hmem id hid with hold | ⟨p, result, hentry, hkey⟩
    · obtain ⟨entry, hentry, hkey⟩ := h.events e hold id hid
      exact ⟨entry, firstPublications_subset (List.subset_append_left _ _) hentry, hkey⟩
    · exact ⟨_, firstPublications_subset (List.subset_append_right _ _) hentry, hkey⟩

theorem remembered_keeps (env : Deployment) :
    Keeps (workflow env) fun tables log => Remembered env tables.db log where
  exec := fun h hexec => h.effect (execCall_effect hexec)
  env := by
    intro tables tables' log h henv
    obtain ⟨more, hmore, hother⟩ := henv.events
    have honward : Onward tables.db tables'.db :=
      .of_eq henv.elsewhere.commits ⟨more, hmore⟩ henv.elsewhere.freshness
    have hops := henv.elsewhere.operations
    refine ⟨(gated_keeps env).env h.gated henv, ?_, ?_, ?_, ?_, ?_, ?_⟩
    · exact fun entry hentry => honward.publicationStands (h.published entry hentry)
    · intro entry hentry
      have hstands := h.switched entry hentry
      refine ⟨?_, ?_, ?_, hstands.result_eq⟩
      · unfold operationByIdempotency
        rw [hops]
        exact hstands.operation
      · unfold existingCommit
        rw [henv.elsewhere.commits]
        exact hstands.commit
      · exact honward.freshness _ hstands.freshness
    · intro plan audit hlog
      unfold RebuildStands operationByIdempotency
      rw [hops]
      exact h.reserved plan audit hlog
    · rw [henv.elsewhere.commits]
      exact h.commits
    · rw [hops]
      exact h.operations
    · intro e hmem id hid
      rw [hmore, List.mem_append] at hmem
      rcases hmem with hmem | hmem
      · exact h.events e hmem id hid
      · exact absurd hid (hother e hmem id)

theorem remembered_start {db : Db} (hcommits : db.commits = []) (hoperations : db.operations = [])
    (hevents : db.events = []) : Remembered env db [] where
  gated := gated_start hoperations
  published := fun entry hentry => nomatch hentry
  switched := fun entry hentry => nomatch hentry
  reserved := fun plan audit hlog => nomatch hlog
  commits := by
    intro commit hmem
    rw [hcommits] at hmem
    cases hmem
  operations := by
    intro operation hmem
    rw [hoperations] at hmem
    cases hmem
  events := by
    intro e hmem
    rw [hevents] at hmem
    cases hmem

/-- A publication under the id of a switch finds no event. -/
theorem Remembered.no_event (h : Remembered env tables.db log) {p : RealtimePublication}
    (hnone : ∀ entry ∈ firstPublications log,
      strip entry.1.idempotencyKey ≠ p.idempotencyKey) :
    byIdempotencyKey tables.db p.idempotencyKey = none := by
  cases hfound : byIdempotencyKey tables.db p.idempotencyKey with
  | none => rfl
  | some e =>
      have hkey : e.idempotencyKey = p.idempotencyKey := by simpa using List.find?_some hfound
      obtain ⟨entry, hentry, hstored⟩ := h.events e (List.mem_of_find?_eq_some hfound) _ hkey
      exact absurd (hstored.trans hkey) (hnone entry hentry)

theorem existingResult_unannounced {db : Db} {p : RealtimePublication}
    (hevent : byIdempotencyKey db p.idempotencyKey = none) :
    existingResult db p = .ok none ∨ ∃ e, existingResult db p = .error e := by
  cases hresult : existingResult db p with
  | error e => exact .inr ⟨e, rfl⟩
  | ok found =>
      left
      unfold existingResult at hresult
      split at hresult
      · rw [pure_eq_ok.mp hresult]
      · obtain ⟨_, -, hresult⟩ := bind_eq_ok.mp hresult
        obtain ⟨e, hfound, -⟩ := bind_eq_ok.mp hresult
        rw [orReject_eq_ok.mp hfound] at hevent
        cases hevent

theorem Remembered.publishes_over_switch {earlier : List (Call × Answer)}
    (hsnapshot : Remembered env snapshot.db earlier) (hlogs : earlier <+: log)
    (h : Remembered env tables.db log) {switch : BindingSwitchRequest}
    {result : BindingSwitchResult} (hfirst : (switch, result) ∈ firstSwitches log)
    {again : RealtimePublication} (hid : again.materializationId = switch.recoveryId env.toRuntime)
    (hnone : ∀ entry ∈ firstPublications log,
      strip entry.1.idempotencyKey ≠ again.idempotencyKey) :
    ∃ e, execCall env snapshot tables (.store (.publish again)) = .error e := by
  have hlocked : ∃ e, publishLocked env tables.db again = .error e := by
    obtain ⟨commit, hcommit, -⟩ := (h.switched _ hfirst).commit
    unfold publishLocked
    cases tables.db.freshness again.datasetId with
    | none => exact ⟨_, rfl⟩
    | some freshness =>
        rcases existingResult_unannounced (h.no_event hnone) with hresult | ⟨e, herror⟩
        · rw [← hid, existingResult_none hresult] at hcommit
          cases hcommit
        · refine ⟨e, ?_⟩
          show (existingResult _ _ >>= _) = _
          exact bind_of_error herror
  have hpublish : ∃ e, publish env snapshot.db tables.db again = .error e := by
    have hearlier := hsnapshot.no_event fun entry hentry =>
      hnone entry (firstPublications_subset hlogs.subset hentry)
    unfold publish
    rcases existingResult_unannounced hearlier with hresult | ⟨e, herror⟩
    · rw [hresult]
      exact hlocked
    · exact ⟨e, bind_of_error herror⟩
  obtain ⟨e, herror⟩ := hpublish
  exact ⟨e, bind_of_error (bind_of_error herror)⟩

/-- A switch under the key of a rebuild raises. -/
theorem Remembered.switches_over_rebuild {earlier : List (Call × Answer)}
    (hsnapshot : Remembered env snapshot.db earlier) (hlogs : earlier <+: log)
    (h : Remembered env tables.db log) {again : BindingSwitchRequest} {plan : RebuildPlan}
    {audit : RebuildAudit} (hfirst : (.recovery (.reserveRebuild plan audit), .done true) ∈ log)
    (hkey : again.idempotencyKey = plan.idempotencyKey) :
    ∃ e, execCall env snapshot tables (.store (.switch again)) = .error e := by
  obtain ⟨operation, hfound, hkind⟩ := h.reserved plan audit hfirst
  rw [← hkey] at hfound
  have hswitch : ∃ e, switchBinding env snapshot.db tables.db again = .error e := by
    unfold switchBinding switchLocked
    cases hlook : operationByIdempotency snapshot.db again.idempotencyKey with
    | some stored =>
        have hstored : stored.operationKind = .rebuild := by
          have hmem := List.mem_of_find?_eq_some hlook
          have hstoredKey : stored.idempotencyKey = again.idempotencyKey := by
            simpa using List.find?_some hlook
          rcases hsnapshot.operations stored hmem with ⟨entry, hentry, rfl⟩ | ⟨hrebuild, -⟩
          · have hnow := (h.switched entry (firstSwitches_subset hlogs.subset hentry)).operation
            have hentryKey : entry.1.idempotencyKey = again.idempotencyKey := hstoredKey
            rw [hentryKey, hfound] at hnow
            cases hnow
            exact hkind
          · exact hrebuild
        obtain ⟨e, herror⟩ := @existingSwitchResult_rebuild env stored again hstored
        exact ⟨e, bind_of_error herror⟩
    | none =>
        rw [hfound]
        cases tables.db.freshness again.datasetId with
        | none => exact ⟨_, rfl⟩
        | some freshness =>
            obtain ⟨e, herror⟩ := @existingSwitchResult_rebuild env operation again hkind
            refine ⟨e, ?_⟩
            show (existingSwitchResult _ _ _ >>= _) = _
            exact bind_of_error herror
  obtain ⟨e, herror⟩ := hswitch
  exact ⟨e, bind_of_error (bind_of_error herror)⟩

end

/-! ## The law -/

/-- What a session that is open may answer, in a configuration whose log says who came first. -/
structure ReplayLaw (env : Deployment) (c : Config Tables Call Answer) (snapshot : Tables) :
    Prop where
  /-- A second publication. -/
  publication : ∀ again, (.store (.publish again), snapshot) ∈ c.opened →
    ∀ first result, (first, result) ∈ firstPublications c.log →
      again.materializationId = first.materializationId →
      (Replayed (SamePublication first again) c.db (.published { result with created := false })
        (execCall env snapshot c.db (.store (.publish again))) ↔ Distinguished first again)
  /-- A publication under the id that a switch gave its revision. -/
  overSwitch : ∀ again, (.store (.publish again), snapshot) ∈ c.opened →
    ∀ switch result, (switch, result) ∈ firstSwitches c.log →
      again.materializationId = switch.recoveryId env.toRuntime →
      (∀ entry ∈ firstPublications c.log, strip entry.1.idempotencyKey ≠ again.idempotencyKey) →
      ∃ e, execCall env snapshot c.db (.store (.publish again)) = .error e
  /-- A second switch. -/
  switch : ∀ again, (.store (.switch again), snapshot) ∈ c.opened →
    ∀ first result, (first, result) ∈ firstSwitches c.log →
      again.idempotencyKey = first.idempotencyKey →
      (Replayed (SameSwitch first again) c.db (.switched { result with created := false })
        (execCall env snapshot c.db (.store (.switch again))) ↔ DistinguishedSwitch first again)
  /-- A switch under the key of a rebuild. -/
  overRebuild : ∀ again, (.store (.switch again), snapshot) ∈ c.opened →
    ∀ plan audit, (.recovery (.reserveRebuild plan audit), .done true) ∈ c.log →
      again.idempotencyKey = plan.idempotencyKey →
      ∃ e, execCall env snapshot c.db (.store (.switch again)) = .error e
  /-- Nobody else gives a commit such an id, or an operation its key. -/
  commits : ∀ commit ∈ c.db.db.commits, ∀ id, commit.materializationId = some id →
    (∃ entry ∈ firstPublications c.log, entry.1.materializationId = id) ∨
      ∃ entry ∈ firstSwitches c.log, entry.1.recoveryId env.toRuntime = id
  operations : ∀ operation ∈ c.db.db.operations,
    (∃ entry ∈ firstSwitches c.log, operation.idempotencyKey = entry.1.idempotencyKey) ∨
      ∃ plan audit, (.recovery (.reserveRebuild plan audit), .done true) ∈ c.log ∧
        operation.idempotencyKey = plan.idempotencyKey

/-- In every state that runs from empty tables reach, whatever an open session has read before:
a second publication is answered by the law exactly when it is `Distinguished`, and a second
switch exactly when it is `DistinguishedSwitch`. -/
theorem replay_law_iff (env : Deployment) (tables : Tables) (hcommits : tables.db.commits = [])
    (hoperations : tables.db.operations = []) (hevents : tables.db.events = [])
    {c : Config Tables Call Answer} (h : Steps (workflow env) (Config.start tables) c)
    (snapshot : Tables) : ReplayLaw env c snapshot := by
  have hstart := @remembered_start env tables.db hcommits hoperations hevents
  have hnow : Remembered env c.db.db c.log := Steps.induct (remembered_keeps env) hstart h
  have hopened := Steps.snapshots (remembered_keeps env) hstart h
  constructor
  · intro again hmem first result hfirst hid
    obtain ⟨earlier, hlogs, hearlier⟩ := hopened _ hmem
    rw [distinguished_iff]
    exact (hearlier.publishes_again hlogs hnow hfirst hid).iff_same
  · intro again hmem switch result hfirst hid hnone
    obtain ⟨earlier, hlogs, hearlier⟩ := hopened _ hmem
    exact hearlier.publishes_over_switch hlogs hnow hfirst hid hnone
  · intro again hmem first result hfirst hkey
    obtain ⟨earlier, hlogs, hearlier⟩ := hopened _ hmem
    rw [distinguishedSwitch_iff]
    exact (hearlier.switches_again hlogs hnow hfirst hkey).iff_same
  · intro again hmem plan audit hfirst hkey
    obtain ⟨earlier, hlogs, hearlier⟩ := hopened _ hmem
    exact hearlier.switches_over_rebuild hlogs hnow hfirst hkey
  · exact hnow.commits
  · intro operation hmem
    rcases hnow.operations operation hmem with ⟨entry, hentry, rfl⟩ | ⟨-, plan, audit, hlog, hkey⟩
    · exact .inl ⟨entry, hentry, rfl⟩
    · exact .inr ⟨plan, audit, hlog, hkey.symm⟩

/-! ## The same table with another checksum -/

/-- `ordersPublication` once more, with the checksum of other rows. -/
def otherRows : RealtimePublication :=
  { ordersPublication with checksum := "c2", identified := by decide }

/-- The store after `ordersPublication`. -/
def publishedOrders : Config Tables Call Answer :=
  served (workflow ordersEnv) ⟨ordersDb, {}⟩ [.store (.publish ordersPublication)]

/-- What a session meets that is opened for the second request. -/
theorem replay_law_iff_orders :
    ReplayLaw ordersEnv
      { publishedOrders with opened := [(.store (.publish otherRows), publishedOrders.db)] }
      publishedOrders.db :=
  replay_law_iff ordersEnv ⟨ordersDb, {}⟩ rfl rfl rfl
    ((served_steps (workflow ordersEnv) ⟨ordersDb, {}⟩ [.store (.publish ordersPublication)]).tail
      (.begin publishedOrders (.store (.publish otherRows)))) publishedOrders.db

/-- The second request is taken for the first one: it returns, although its checksum differs. -/
theorem other_rows_replayed :
    ∃ result, (ordersPublication, result) ∈ firstPublications publishedOrders.log ∧
      otherRows.materializationId = ordersPublication.materializationId ∧
      ¬ Replayed (SamePublication ordersPublication otherRows) publishedOrders.db
        (.published { result with created := false })
        (execCall ordersEnv publishedOrders.db publishedOrders.db (.store (.publish otherRows))) := by
  have hfirst : firstPublications publishedOrders.log =
      [(ordersPublication, ⟨"orders", 1, 1, true⟩)] := by decide +kernel
  refine ⟨⟨"orders", 1, 1, true⟩, ?_, rfl, ?_⟩
  · rw [hfirst]
    exact List.mem_singleton_self _
  · intro hlaw
    obtain ⟨e, herror⟩ := hlaw.2 fun hsame => absurd hsame.checksum (by decide)
    have haccepted : accepted (execCall ordersEnv publishedOrders.db publishedOrders.db
        (.store (.publish otherRows))) = true := by decide +kernel
    rw [herror] at haccepted
    cases haccepted

end AskLake.Realtime

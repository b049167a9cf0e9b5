/-
# `AskLake.Realtime.Cutover` — which switches of the binding are accepted

A switch inserts its own revision commit.  Its run and its materialization are
named after the operation, so that they are new whenever the idempotency key is.
Its source fingerprint is not: it is derived from the target's boundary and
pipeline version, and `(dataset, commit kind, fingerprint)` is a unique key.

    cutover to A      inserts (cutover,  fingerprint of A)
    rollback to B     inserts (rollback, fingerprint of B)
    cutover to A      the row is there: the transaction is rolled back

`switch_accepted_iff` says exactly which switches pass, in terms of the history
of publications and switches, and `second_cutover_collides` replays the drill.
-/
import AskLake.Realtime.Transactions

namespace AskLake.Realtime

open AskLake.Lib AskLake.Python AskLake.Events AskLake.Dashboard

/-! ## What a history has stored -/

/-- The digest of the target's boundary, within its pipeline version. -/
def PhysicalBindingTarget.fingerprint (rt : Runtime) (target : PhysicalBindingTarget) : String :=
  rt.sha256 (target.boundary.material target.pipelineVersionId)

theorem PhysicalBindingTarget.fingerprint_eq_ok (rt : Runtime) (target : PhysicalBindingTarget) :
    target.boundary.fingerprint rt target.pipelineVersionId = .ok (target.fingerprint rt) := by
  have hnamed : blank target.pipelineVersionId = false :=
    target.identified _ (List.mem_cons_of_mem _ List.mem_cons_self)
  exact bind_eq_ok.mpr ⟨(), rejectIf_eq_ok.mpr (by simp [hnamed]), rfl⟩

/-- The commit a log entry inserted. -/
def loggedCommit (rt : Runtime) : Request × Receipt → Option RevisionCommit
  | (.publish p, .published result) =>
      if result.created then some (publicationCommit p result.revision) else none
  | (.switch request, .switched result) =>
      if result.created then
        some (switchCommit rt request result.bindingEpoch result.revision
          (request.target.fingerprint rt))
      else none
  | _ => none

/-- The key of a switch's event. -/
def switchEventKey (rt : Runtime) (request : BindingSwitchRequest) : String :=
  "binding-switch:" ++ request.operationId rt

/-- A log of publications and switches alone. -/
def Unrecorded (log : List (Request × Receipt)) : Prop :=
  ∀ entry ∈ log, ∀ request, entry.1 ≠ .record request

/-- What the store keeps of a history of publications and switches. -/
structure Recounts (env : Deployment) (db : Db) (log : List (Request × Receipt)) : Prop where
  commits : db.commits = log.filterMap (loggedCommit env.toRuntime)
  counted : ∀ stored ∈ db.commits, stored.revision ≤ latest db stored.datasetId
  operations : db.operations.map (fun operation => (operation.id, operation.idempotencyKey)) =
    (newSwitches log).map fun entry =>
      (entry.1.operationId env.toRuntime, entry.1.idempotencyKey)
  events : ∀ e ∈ db.events, ∀ id, e.idempotencyKey = "binding-switch:" ++ id →
    ∃ entry ∈ newSwitches log, id = entry.1.operationId env.toRuntime

/-- Other writers, whose events are not those of a switch. -/
structure Beside (db db' : Db) : Prop extends Elsewhere db db' where
  eventKeys : ∀ e ∈ db'.events, e ∈ db.events ∨ ∀ id, e.idempotencyKey ≠ "binding-switch:" ++ id

/-- The three writers beside writers of other events. -/
def rounds (env : Deployment) : Machine Db Request Receipt Error where
  exec := exec env
  env := Beside

section
variable {env : Deployment} {db db' : Db} {log : List (Request × Receipt)}

theorem strip_switchEventKey (hhex : env.toRuntime.HexDigests) (request : BindingSwitchRequest) :
    strip (switchEventKey env.toRuntime request) = switchEventKey env.toRuntime request := by
  apply strip_eq_self
  intro c hc
  simp only [switchEventKey, BindingSwitchRequest.operationId, String.toList_append,
    List.mem_append] at hc
  have hletters : ∀ c ∈ "binding-switch:".toList ++ "rtswitch_".toList ++
      "0123456789abcdef".toList, isSpace c = false :=
    forall_of_all (by decide)
  refine hletters c ?_
  rcases hc with hc | hc | hc
  · exact List.mem_append_left _ (List.mem_append_left _ hc)
  · exact List.mem_append_left _ (List.mem_append_right _ hc)
  · exact List.mem_append_right _ (hhex _ c hc)

/-- The key of a publication's event begins with another letter. -/
theorem publicationKey_ne (p : RealtimePublication) (id : String) :
    strip p.idempotencyKey ≠ "binding-switch:" ++ id := by
  obtain ⟨rs, hr⟩ : ∃ rs, "realtime-publication:".toList = 'r' :: rs :=
    ⟨"ealtime-publication:".toList, by decide⟩
  obtain ⟨bs, hb⟩ : ∃ bs, "binding-switch:".toList = 'b' :: bs :=
    ⟨"inding-switch:".toList, by decide⟩
  intro heq
  have hkey : p.idempotencyKey.toList = 'r' :: (rs ++ p.materializationId.toList) :=
    String.toList_append.trans (congrArg (fun cs => cs ++ p.materializationId.toList) hr)
  have hid : ("binding-switch:" ++ id).toList = 'b' :: (bs ++ id.toList) :=
    String.toList_append.trans (congrArg (fun cs => cs ++ id.toList) hb)
  have hhead := strip_head hkey (by decide)
  rw [heq, hid, List.head?_cons] at hhead
  exact absurd hhead (by decide)

theorem recordEventCursor_keys (operations : List RecoveryOperation) (id : String) (cursor : Nat) :
    (recordEventCursor operations id cursor).map
        (fun operation => (operation.id, operation.idempotencyKey)) =
      operations.map fun operation => (operation.id, operation.idempotencyKey) := by
  unfold recordEventCursor updateWhere
  rw [List.map_map]
  refine List.map_congr_left fun operation _ => ?_
  simp only [Function.comp]
  split <;> rfl

/-! ## Every transaction is recounted -/

/-- One commit more is counted by the latest revision. -/
theorem Extends.counted {commit : RevisionCommit} (h : Extends db db' commit)
    (hcounted : ∀ stored ∈ db.commits, stored.revision ≤ latest db stored.datasetId) :
    ∀ stored ∈ db'.commits, stored.revision ≤ latest db' stored.datasetId := by
  intro stored hmem
  rcases List.mem_append.mp (h.commits ▸ hmem) with hold | hnew
  · exact (hcounted stored hold).trans (h.latest_le _)
  · cases List.mem_singleton.mp hnew
    exact h.latest_self.ge

theorem Recounts.published {p : RealtimePublication} {freshness : Freshness}
    {result : PublicationResult} (h : Recounts env db log)
    (hnew : Published env db p freshness db' result) :
    Recounts env db' (log ++ [(.publish p, .published result)]) where
  commits := by
    rw [hnew.extends.commits, List.filterMap_append, ← h.commits]
    simp [loggedCommit, hnew.created]
  counted := hnew.extends.counted h.counted
  operations := by
    rw [hnew.elsewhere.2.2.1, h.operations, newSwitches_append]
    exact congrArg _ (List.append_nil _).symm
  events := by
    intro e he id hkey
    rw [newSwitches_append]
    rcases List.mem_append.mp (hnew.events_eq ▸ he) with hold | hlast
    · obtain ⟨entry, hentry, hid⟩ := h.events e hold id hkey
      exact ⟨entry, List.mem_append_left _ hentry, hid⟩
    · rw [List.mem_singleton.mp hlast] at hkey
      exact absurd hkey (publicationKey_ne p id)

theorem Recounts.switched {request : BindingSwitchRequest} {freshness : Freshness}
    {result : BindingSwitchResult} (hhex : env.toRuntime.HexDigests) (h : Recounts env db log)
    (hnew : Switched env db request freshness db' result) :
    Recounts env db' (log ++ [(.switch request, .switched result)]) where
  commits := by
    obtain ⟨fingerprint, hfingerprint, -, hcommits⟩ := hnew.commit
    cases (PhysicalBindingTarget.fingerprint_eq_ok _ _).symm.trans hfingerprint
    rw [hcommits, List.filterMap_append, ← h.commits]
    simp [loggedCommit, hnew.result_eq]
  counted := by
    obtain ⟨_, hext⟩ := hnew.extends
    exact hext.counted h.counted
  operations := by
    obtain ⟨operations, hinsert, hoperations⟩ := hnew.operations
    obtain ⟨-, rfl⟩ := insertOperation_eq_ok.mp hinsert
    rw [hoperations, recordEventCursor_keys, List.map_append, h.operations, newSwitches_append]
    simp [newSwitch, hnew.created, switchOperation]
  events := by
    intro e he id hkey
    rw [newSwitches_append]
    rcases List.mem_append.mp (hnew.events_eq ▸ he) with hold | hlast
    · obtain ⟨entry, hentry, hid⟩ := h.events e hold id hkey
      exact ⟨entry, List.mem_append_left _ hentry, hid⟩
    · refine ⟨(request, result), List.mem_append_right _ (by simp [newSwitch, hnew.created]), ?_⟩
      rw [List.mem_singleton.mp hlast] at hkey
      have hown : strip (switchEventKey env.toRuntime request) = "binding-switch:" ++ id := hkey
      rw [strip_switchEventKey hhex, switchEventKey, String.append_right_inj] at hown
      exact hown.symm

/-- A transaction that found its earlier self leaves the account as it was. -/
theorem Recounts.kept {entry : Request × Receipt} (h : Recounts env db log)
    (hcommit : loggedCommit env.toRuntime entry = none) (hswitch : newSwitch entry = none) :
    Recounts env db (log ++ [entry]) where
  commits := by rw [List.filterMap_append, ← h.commits]; simp [hcommit]
  counted := h.counted
  operations := by rw [newSwitches_append, hswitch, h.operations]; simp
  events := by
    intro e he id hkey
    rw [newSwitches_append, hswitch]
    obtain ⟨entry', hentry, hid⟩ := h.events e he id hkey
    exact ⟨entry', List.mem_append_left _ hentry, hid⟩

end

theorem recounts_keeps {env : Deployment} (hhex : env.toRuntime.HexDigests) :
    Keeps (rounds env) fun db log => Unrecorded log → Recounts env db log where
  exec := by
    intro snapshot db db' request receipt log h hexec hlog
    have h := h fun entry hentry => hlog entry (List.mem_append_left _ hentry)
    have hlast := hlog _ (List.mem_append_right log List.mem_cons_self)
    have hout := exec_outcome hexec
    cases hout with
    | publishedBefore hold => exact h.kept (by simp [loggedCommit, hold]) rfl
    | published hnew => exact h.published hnew
    | switchedBefore hold =>
        exact h.kept (by simp [loggedCommit, hold]) (by simp [newSwitch, hold])
    | switched hnew => exact h.switched hhex hnew
    | recordedBefore => exact absurd rfl (hlast _)
    | patched _ => exact absurd rfl (hlast _)
    | duplicate => exact absurd rfl (hlast _)
    | recorded _ => exact absurd rfl (hlast _)
  env := by
    intro db db' log h henv hlog
    have h := h hlog
    refine ⟨henv.commits.trans h.commits, ?_, by rw [henv.operations, h.operations], ?_⟩
    · rw [henv.commits]
      intro stored hmem
      rw [henv.untouched.latest_eq]
      exact h.counted stored hmem
    · intro e he id hkey
      rcases henv.eventKeys e he with hold | hother
      · exact h.events e hold id hkey
      · exact absurd hkey (hother id)

/-! ## Reading the log -/

section
variable {rt : Runtime} {entry : Request × Receipt}

theorem newSwitch_eq_some {applied : BindingSwitchRequest × BindingSwitchResult} :
    newSwitch entry = some applied ↔
      applied.2.created = true ∧ entry = (.switch applied.1, .switched applied.2) := by
  obtain ⟨request, result⟩ := applied
  match entry with
  | (.switch request', .switched result') =>
      simp only [newSwitch]
      split <;> simp_all
      all_goals grind
  | (.switch _, .published _) => simp [newSwitch]
  | (.switch _, .recorded _ _) => simp [newSwitch]
  | (.publish _, _) => simp [newSwitch]
  | (.record _, _) => simp [newSwitch]

theorem newPublication_eq_some {published : RealtimePublication × PublicationResult} :
    newPublication entry = some published ↔
      published.2.created = true ∧ entry = (.publish published.1, .published published.2) := by
  obtain ⟨p, result⟩ := published
  match entry with
  | (.publish p', .published result') =>
      simp only [newPublication]
      split <;> simp_all
      all_goals grind
  | (.publish _, .switched _) => simp [newPublication]
  | (.publish _, .recorded _ _) => simp [newPublication]
  | (.switch _, _) => simp [newPublication]
  | (.record _, _) => simp [newPublication]

theorem loggedCommit_switch {request : BindingSwitchRequest} {result : BindingSwitchResult}
    (h : result.created = true) :
    loggedCommit rt (.switch request, .switched result) = some (switchCommit rt request
      result.bindingEpoch result.revision (request.target.fingerprint rt)) := by
  simp [loggedCommit, h]

theorem loggedCommit_publication {p : RealtimePublication} {result : PublicationResult}
    (h : result.created = true) :
    loggedCommit rt (.publish p, .published result) = some (publicationCommit p result.revision) := by
  simp [loggedCommit, h]

/-- A logged commit is that of a publication or of a switch. -/
theorem loggedCommit_eq_some {commit : RevisionCommit} (h : loggedCommit rt entry = some commit) :
    (∃ p result, newPublication entry = some (p, result) ∧
        commit = publicationCommit p result.revision) ∨
      ∃ request result, newSwitch entry = some (request, result) ∧
        commit = switchCommit rt request result.bindingEpoch result.revision
          (request.target.fingerprint rt) := by
  match entry with
  | (.publish p, .published result) =>
      by_cases hcreated : result.created = true
      · rw [loggedCommit_publication hcreated] at h
        exact Or.inl ⟨p, result, newPublication_eq_some.mpr ⟨hcreated, rfl⟩, (Option.some.inj h).symm⟩
      · simp [loggedCommit, hcreated] at h
  | (.switch request, .switched result) =>
      by_cases hcreated : result.created = true
      · rw [loggedCommit_switch hcreated] at h
        exact Or.inr ⟨request, result, newSwitch_eq_some.mpr ⟨hcreated, rfl⟩,
          (Option.some.inj h).symm⟩
      · simp [loggedCommit, hcreated] at h
  | (.publish _, .switched _) => exact nomatch h
  | (.publish _, .recorded _ _) => exact nomatch h
  | (.switch _, .published _) => exact nomatch h
  | (.switch _, .recorded _ _) => exact nomatch h
  | (.record _, _) => exact nomatch h

/-- The runs of publications and of switches are named apart. -/
theorem publicationRun_ne (p : RealtimePublication) (operationId : String) :
    p.runId ≠ "recovery:" ++ operationId := by
  obtain ⟨rs, hr⟩ : ∃ rs, "rt:".toList = 'r' :: 't' :: rs := ⟨":".toList, by decide⟩
  obtain ⟨es, he⟩ : ∃ es, "recovery:".toList = 'r' :: 'e' :: es :=
    ⟨"covery:".toList, by decide⟩
  intro heq
  have hrun : p.runId.toList = 'r' :: 't' :: (rs ++ p.materializationId.toList) :=
    String.toList_append.trans (congrArg (fun cs => cs ++ p.materializationId.toList) hr)
  have hid : ("recovery:" ++ operationId).toList = 'r' :: 'e' :: (es ++ operationId.toList) :=
    String.toList_append.trans (congrArg (fun cs => cs ++ operationId.toList) he)
  rw [heq, hid] at hrun
  simp at hrun

end

/-! ## One more switch -/

/-- The texts whose digests name the operations of a history and of one more
switch. -/
def operationTexts (log : List (Request × Receipt)) (request : BindingSwitchRequest) : Set String :=
  { text | text = request.operationMaterial ∨
    ∃ entry ∈ newSwitches log, text = entry.1.operationMaterial }

/-- A switch of the same dataset and kind, over the same boundary of the same
pipeline version, was applied before. -/
def Repeats (rt : Runtime) (log : List (Request × Receipt)) (request : BindingSwitchRequest) :
    Prop :=
  ∃ entry ∈ newSwitches log, entry.1.datasetId = request.datasetId ∧
    entry.1.action = request.action ∧ entry.1.target.fingerprint rt = request.target.fingerprint rt

/-- A publication took the id that the switch gives its own materialization. -/
def TakenId (rt : Runtime) (log : List (Request × Receipt)) (request : BindingSwitchRequest) :
    Prop :=
  ∃ entry ∈ newPublications log, entry.1.materializationId = request.recoveryId rt

section
variable {env : Deployment} {snapshot db db' : Db} {log : List (Request × Receipt)}
  {request : BindingSwitchRequest} {freshness : Freshness}

theorem commitKind_inj {a b : SwitchAction} (h : a.commitKind = b.commitKind) : a = b := by
  cases a <;> cases b <;> first | rfl | exact nomatch h

/-- The operation id of an unused key is an unused id. -/
theorem Recounts.operationId_ne (h : Recounts env db log)
    (hfree : env.toRuntime.CollisionFree (operationTexts log request))
    (hunused : operationByIdempotency db request.idempotencyKey = none)
    {entry : BindingSwitchRequest × BindingSwitchResult} (hentry : entry ∈ newSwitches log) :
    entry.1.operationId env.toRuntime ≠ request.operationId env.toRuntime := by
  intro heq
  have hdigest := (String.append_right_inj _).mp heq
  have htext : entry.1.operationMaterial = request.operationMaterial :=
    hfree (Or.inr ⟨entry, hentry, rfl⟩) (Or.inl rfl) hdigest
  have hkey : entry.1.idempotencyKey = request.idempotencyKey := (String.append_right_inj _).mp htext
  have hmem := List.mem_map_of_mem (f := fun entry : BindingSwitchRequest × BindingSwitchResult =>
    (entry.1.operationId env.toRuntime, entry.1.idempotencyKey)) hentry
  rw [← h.operations] at hmem
  obtain ⟨operation, hoperation, hpair⟩ := List.mem_map.mp hmem
  rw [Prod.mk.injEq] at hpair
  refine List.find?_eq_none.mp hunused operation hoperation ?_
  rw [decide_eq_true_eq, hpair.2, hkey]

/-- The commit of a new switch, beside those of the history. -/
theorem Recounts.apart_iff (h : Recounts env db log)
    (hfree : env.toRuntime.CollisionFree (operationTexts log request))
    (hunused : operationByIdempotency db request.idempotencyKey = none)
    (hrow : db.freshness request.datasetId = some freshness) (epoch : Nat) :
    (∀ stored ∈ db.commits, Apart stored (switchCommit env.toRuntime request epoch
        (freshness.latestRevision + 1) (request.target.fingerprint env.toRuntime))) ↔
      ¬ Repeats env.toRuntime log request ∧ ¬ TakenId env.toRuntime log request := by
  have hstored : ∀ {entry : Request × Receipt} {commit : RevisionCommit}, entry ∈ log →
      loggedCommit env.toRuntime entry = some commit → commit ∈ db.commits := by
    intro entry commit hentry hcommit
    rw [h.commits]
    exact List.mem_filterMap.mpr ⟨entry, hentry, hcommit⟩
  constructor
  · intro hapart
    constructor
    · rintro ⟨applied, happlied, hid, haction, hfingerprint⟩
      obtain ⟨entry, hentry, hswitch⟩ := List.mem_filterMap.mp happlied
      obtain ⟨hcreated, rfl⟩ := newSwitch_eq_some.mp hswitch
      refine (hapart _ (hstored hentry (loggedCommit_switch hcreated))).fingerprint
        ⟨hid, ?_, rfl, ?_⟩
      · exact congrArg SwitchAction.commitKind haction
      · exact congrArg some hfingerprint
    · rintro ⟨published, hpublished, hid⟩
      obtain ⟨entry, hentry, hpublication⟩ := List.mem_filterMap.mp hpublished
      obtain ⟨hcreated, rfl⟩ := newPublication_eq_some.mp hpublication
      refine (hapart _ (hstored hentry (loggedCommit_publication hcreated))).materialization
        ⟨rfl, ?_⟩
      exact congrArg some hid
  · rintro ⟨hrepeats, htaken⟩ stored hmem
    have hrevision : ¬ (stored.datasetId = request.datasetId ∧
        stored.revision = freshness.latestRevision + 1) := by
      rintro ⟨hid, hrevision⟩
      have hle := h.counted stored hmem
      rw [hid, latest, hrow, Option.elim_some] at hle
      omega
    obtain ⟨entry, hentry, hcommit⟩ := List.mem_filterMap.mp (h.commits ▸ hmem)
    rcases loggedCommit_eq_some hcommit with ⟨p, result, hpublication, rfl⟩ |
      ⟨earlier, result, hswitch, rfl⟩
    · have hpublished : (p, result) ∈ newPublications log :=
        List.mem_filterMap.mpr ⟨entry, hentry, hpublication⟩
      refine ⟨hrevision, publicationRun_ne p _, ?_, ?_⟩
      · rintro ⟨-, hkind, -⟩
        change CommitKind.realtime = request.action.commitKind at hkind
        cases haction : request.action <;> rw [haction] at hkind <;> cases hkind
      · rintro ⟨-, hid⟩
        exact htaken ⟨_, hpublished, Option.some.inj hid⟩
    · have happlied : (earlier, result) ∈ newSwitches log :=
        List.mem_filterMap.mpr ⟨entry, hentry, hswitch⟩
      have hother : earlier.recoveryId env.toRuntime ≠ request.recoveryId env.toRuntime := by
        intro heq
        exact h.operationId_ne hfree hunused happlied ((String.append_right_inj _).mp heq)
      refine ⟨hrevision, hother, ?_, ?_⟩
      · rintro ⟨hid, hkind, -, hfingerprint⟩
        exact hrepeats ⟨_, happlied, hid, commitKind_inj hkind, Option.some.inj hfingerprint⟩
      · rintro ⟨-, hid⟩
        exact hother (Option.some.inj hid)

/-- A new switch whose rows are new is applied. -/
theorem switchNew_accepted {model : CatalogDataset}
    (hcheck : checkSwitch db freshness request = .ok model)
    (hoperation : ∀ stored ∈ db.operations, stored.id ≠ request.operationId env.toRuntime ∧
      stored.idempotencyKey ≠ request.idempotencyKey)
    (hapart : ∀ stored ∈ db.commits, Apart stored (switchCommit env.toRuntime request
      (request.expectedBindingEpoch + 1) (freshness.latestRevision + 1)
      (request.target.fingerprint env.toRuntime)))
    (hcontract : checkDraft env (switchEvent env.toRuntime request
      (request.expectedBindingEpoch + 1) (freshness.latestRevision + 1)) = .ok ())
    (hevent : byIdempotencyKey db (strip (switchEventKey env.toRuntime request)) = none) :
    ∃ db' result, switchNew env db request freshness = .ok (db', result) := by
  obtain ⟨staged, hstaged, hevents⟩ : ∃ staged,
      stageSwitchMutation env.toRuntime db freshness model request = .ok staged ∧
        staged.events = db.events := by
    refine ⟨_, bind_eq_ok.mpr ⟨_, PhysicalBindingTarget.fingerprint_eq_ok _ _,
      bind_eq_ok.mpr ⟨_, insertOperation_eq_ok.mpr ⟨hoperation, rfl⟩,
        bind_eq_ok.mpr ⟨_, insertCommit_eq_ok.mpr ⟨hapart, rfl⟩, rfl⟩⟩⟩, rfl⟩
  have hnone : byIdempotencyKey staged (strip (switchEventKey env.toRuntime request)) = none := by
    rw [byIdempotencyKey, hevents]
    exact hevent
  refine ⟨_, _, bind_eq_ok.mpr ⟨_, hcheck, bind_eq_ok.mpr ⟨_, hstaged, bind_eq_ok.mpr
    ⟨_, append_new hcontract hnone, bind_eq_ok.mpr ⟨(), rejectIf_eq_ok.mpr (by simp), rfl⟩⟩⟩⟩⟩

end

/-- Which switches are accepted, in every state that a history of publications
and switches reaches.

A request with an unused key that passes the checks of a switch is applied, and
its commit inserted, exactly when no switch of the same dataset and action was
applied over the same source fingerprint, no publication has taken the id the
switch derives for itself, and its event keeps the event contract.  Digests are
assumed to be hexadecimal and not to collide on the operations of the run. -/
theorem switch_accepted_iff (env : Deployment) (db₀ : Db) (hcommits : db₀.commits = [])
    (hoperations : db₀.operations = [])
    (hevents : ∀ e ∈ db₀.events, ∀ id, e.idempotencyKey ≠ "binding-switch:" ++ id)
    (hhex : env.toRuntime.HexDigests) {c : Config Db Request Receipt}
    (h : Steps (rounds env) (Config.start db₀) c) (hlog : Unrecorded c.log) {snapshot : Db}
    {request : BindingSwitchRequest} {freshness : Freshness} {model : CatalogDataset}
    (hrow : c.db.freshness request.datasetId = some freshness)
    (hbefore : operationByIdempotency snapshot request.idempotencyKey = none)
    (hunused : operationByIdempotency c.db request.idempotencyKey = none)
    (hcheck : checkSwitch c.db freshness request = .ok model)
    (hfree : env.toRuntime.CollisionFree (operationTexts c.log request)) :
    (∃ db' result commit, switchBinding env snapshot c.db request = .ok (db', result) ∧
        commit.runId = request.recoveryId env.toRuntime ∧
        db'.commits = c.db.commits ++ [commit]) ↔
      ¬ Repeats env.toRuntime c.log request ∧ ¬ TakenId env.toRuntime c.log request ∧
        checkDraft env (switchEvent env.toRuntime request (request.expectedBindingEpoch + 1)
          (freshness.latestRevision + 1)) = .ok () := by
  have hstart : Unrecorded [] → Recounts env db₀ [] := by
    intro _
    refine ⟨by rw [hcommits]; rfl, ?_, by rw [hoperations]; rfl, ?_⟩
    · rw [hcommits]
      exact fun _ hmem => by cases hmem
    · exact fun e he id hkey => absurd hkey (hevents e he id)
  have hrecounts : Recounts env c.db c.log := Steps.induct (recounts_keeps hhex) hstart h hlog
  have hlocked : switchBinding env snapshot c.db request = switchNew env c.db request freshness := by
    unfold switchBinding switchLocked
    rw [hbefore]
    show (orReject (c.db.freshness request.datasetId) _ >>= fun freshness => _) = _
    rw [hrow]
    generalize operationByIdempotency c.db request.idempotencyKey = stored at hunused
    subst hunused
    rfl
  constructor
  · rintro ⟨db', result, commit, hswitch, -, hmore⟩
    rcases switchBinding_cases hswitch with ⟨-, rfl⟩ | ⟨freshness', hnew⟩
    · exact absurd (congrArg List.length hmore) (by simp)
    · cases Option.some.inj (hrow.symm.trans hnew.locked)
      obtain ⟨fingerprint, hfingerprint, hapart, -⟩ := hnew.commit
      cases (PhysicalBindingTarget.fingerprint_eq_ok _ _).symm.trans hfingerprint
      obtain ⟨hrepeats, htaken⟩ := (hrecounts.apart_iff hfree hunused hrow _).mp hapart
      exact ⟨hrepeats, htaken, hnew.contract⟩
  · rintro ⟨hrepeats, htaken, hcontract⟩
    have hapart := (hrecounts.apart_iff hfree hunused hrow
      (request.expectedBindingEpoch + 1)).mpr ⟨hrepeats, htaken⟩
    have hoperation : ∀ stored ∈ c.db.operations,
        stored.id ≠ request.operationId env.toRuntime ∧
          stored.idempotencyKey ≠ request.idempotencyKey := by
      intro stored hmem
      refine ⟨?_, by simpa using List.find?_eq_none.mp hunused stored hmem⟩
      have hpair := List.mem_map_of_mem (f := fun operation : RecoveryOperation =>
        (operation.id, operation.idempotencyKey)) hmem
      rw [hrecounts.operations] at hpair
      obtain ⟨entry, hentry, heq⟩ := List.mem_map.mp hpair
      rw [← (Prod.mk.inj heq).1]
      exact hrecounts.operationId_ne hfree hunused hentry
    have hevent : byIdempotencyKey c.db (strip (switchEventKey env.toRuntime request)) = none := by
      rw [strip_switchEventKey hhex, byIdempotencyKey, List.find?_eq_none]
      intro e he
      rw [decide_eq_true_eq]
      intro hkey
      obtain ⟨entry, hentry, hid⟩ := hrecounts.events e he _ hkey
      exact hrecounts.operationId_ne hfree hunused hentry hid.symm
    obtain ⟨db', result, hnew⟩ := switchNew_accepted hcheck hoperation hapart hcontract hevent
    obtain ⟨fingerprint, -, -, hmore⟩ := (switchNew_eq_ok hrow hunused hnew).commit
    exact ⟨db', result, _, hlocked.trans hnew, rfl, hmore⟩

/-! ## The drill: cutover, rollback, cutover -/

def ordersGate : CutoverGateEvidence where
  deterministicFixtureRows := 100000
  lostSourcePositions := 0
  logicalDuplicateCount := 0
  shadowObservationHours := 72
  shadowParityPassed := true
  p95SloPassed := true
  restartChaosPassed := true
  securityPassed := true
  rollbackDrillPassed := true
  operationsDashboardReady := true
  runbookReady := true

/-- The ClickHouse table of the second serving version. -/
def hotTarget : PhysicalBindingTarget where
  engine := .clickhouse
  versionId := "sv2"
  pipelineVersionId := "pv1"
  materializationId := "rtm_2"
  boundary := ordersBoundary
  dimensionVersionIds := .empty
  checksum := "c1"
  rowCount := 10
  database := some "asklake"
  table := some "orders_v2"
  identified := by decide
  located := by decide
  dimensioned := by decide

/-- The archive table, over the same boundary. -/
def archiveTarget : PhysicalBindingTarget where
  engine := .trino
  versionId := "av1"
  pipelineVersionId := "pv1"
  materializationId := "snapshot_1"
  boundary := ordersBoundary
  dimensionVersionIds := .empty
  checksum := "c1"
  rowCount := 10
  catalog := some "iceberg"
  schema := some "gold"
  table := some "orders"
  archiveSnapshotId := some "77"
  identified := by decide
  located := by decide
  dimensioned := by decide

def firstCutover : BindingSwitchRequest where
  idempotencyKey := "switch-1"
  action := .cutover
  datasetId := "orders"
  expectedBindingEpoch := 0
  expectedBindingVersionId := "sv1"
  target := hotTarget
  parityReportId := "parity-1"
  requestedBy := "operator"
  reason := "cut over to the verified table"
  correlationId := "switch-1"
  gate := some ordersGate
  identified := by decide
  bounded := by decide
  audited := by decide
  gated := fun _ => ⟨ordersGate, rfl, by decide⟩

def firstRollback : BindingSwitchRequest where
  idempotencyKey := "switch-2"
  action := .rollback
  datasetId := "orders"
  expectedBindingEpoch := 1
  expectedBindingVersionId := "sv2"
  target := archiveTarget
  parityReportId := "parity-1"
  requestedBy := "operator"
  reason := "roll back to the archive"
  correlationId := "switch-2"
  identified := by decide
  bounded := by decide
  audited := by decide
  gated := fun h => nomatch h

def secondCutover : BindingSwitchRequest where
  idempotencyKey := "switch-3"
  action := .cutover
  datasetId := "orders"
  expectedBindingEpoch := 2
  expectedBindingVersionId := "av1"
  target := hotTarget
  parityReportId := "parity-1"
  requestedBy := "operator"
  reason := "restore the verified table"
  correlationId := "switch-3"
  gate := some ordersGate
  identified := by decide
  bounded := by decide
  audited := by decide
  gated := fun _ => ⟨ordersGate, rfl, by decide⟩

/-- The store after the given switches. -/
def afterSwitches (requests : List BindingSwitchRequest) : Config Db Request Receipt :=
  served (rounds ordersEnv) ordersDb (requests.map .switch)

theorem afterSwitches_steps (requests : List BindingSwitchRequest) :
    Steps (rounds ordersEnv) (Config.start ordersDb) (afterSwitches requests) :=
  served_steps (rounds ordersEnv) ordersDb (requests.map .switch)

theorem ordersEnv_hex : ordersEnv.toRuntime.HexDigests := by
  intro text
  simp only [ordersEnv]
  split_ifs <;> exact forall_of_all (by decide)

/-- The freshness row after the given switches. -/
def rowAfter (requests : List BindingSwitchRequest) : Freshness :=
  ((afterSwitches requests).db.freshness "orders").getD {}

/-- The run of the first cutover, computed. -/
theorem afterCutover :
    (afterSwitches [firstCutover]).db.freshness firstRollback.datasetId =
        some (rowAfter [firstCutover]) ∧
      operationByIdempotency (afterSwitches [firstCutover]).db firstRollback.idempotencyKey
        = none ∧
      accepted (checkSwitch (afterSwitches [firstCutover]).db (rowAfter [firstCutover])
        firstRollback) = true ∧
      (newSwitches (afterSwitches [firstCutover]).log).map Prod.fst = [firstCutover] ∧
      (newPublications (afterSwitches [firstCutover]).log).length = 0 ∧
      ((afterSwitches [firstCutover]).log.all fun entry =>
        match entry.1 with | .record _ => false | _ => true) = true ∧
      accepted (checkDraft ordersEnv (switchEvent ordersEnv.toRuntime firstRollback
        (firstRollback.expectedBindingEpoch + 1)
        ((rowAfter [firstCutover]).latestRevision + 1))) = true := by
  decide +kernel

/-- The rollback after the first cutover is applied. -/
theorem switch_accepted_iff_rollback :
    ∃ db' result commit, switchBinding ordersEnv (afterSwitches [firstCutover]).db
        (afterSwitches [firstCutover]).db firstRollback = .ok (db', result) ∧
      commit.runId = firstRollback.recoveryId ordersEnv.toRuntime ∧
      db'.commits = (afterSwitches [firstCutover]).db.commits ++ [commit] := by
  obtain ⟨hrow, hunused, hchecked, hswitches, hpublications, hkinds, hdraft⟩ := afterCutover
  obtain ⟨model, hcheck⟩ := accepted_iff.mp hchecked
  obtain ⟨⟨⟩, hcontract⟩ := accepted_iff.mp hdraft
  have hsingle : ∀ entry ∈ newSwitches (afterSwitches [firstCutover]).log,
      entry.1 = firstCutover := by
    intro entry hentry
    have hmem := List.mem_map_of_mem (f := Prod.fst) hentry
    rw [hswitches] at hmem
    exact List.mem_singleton.mp hmem
  have hfree : ordersEnv.toRuntime.CollisionFree
      (operationTexts (afterSwitches [firstCutover]).log firstRollback) := by
    have htext : ∀ text ∈ operationTexts (afterSwitches [firstCutover]).log firstRollback,
        text = "binding-switch|switch-2" ∨ text = "binding-switch|switch-1" := by
      rintro text (rfl | ⟨entry, hentry, rfl⟩)
      · exact Or.inl (by decide)
      · rw [hsingle entry hentry]
        exact Or.inr (by decide)
    intro a ha b hb heq
    rcases htext a ha with rfl | rfl <;> rcases htext b hb with rfl | rfl <;>
      first | rfl | exact absurd heq (by decide)
  have hlog : Unrecorded (afterSwitches [firstCutover]).log := by
    intro entry hentry request heq
    have hkind := List.all_eq_true.mp hkinds entry hentry
    rw [heq] at hkind
    exact nomatch hkind
  refine (switch_accepted_iff ordersEnv ordersDb rfl rfl (fun _ h => nomatch h) ordersEnv_hex
    (afterSwitches_steps [firstCutover]) hlog hrow hunused hunused hcheck hfree).mpr
      ⟨?_, ?_, hcontract⟩
  · rintro ⟨entry, hentry, -, haction, -⟩
    rw [hsingle entry hentry] at haction
    exact nomatch haction
  · rintro ⟨entry, hentry, -⟩
    rw [List.eq_nil_of_length_eq_zero hpublications] at hentry
    exact nomatch hentry

/-- The second cutover passes every check of a switch and is rolled back: its
commit has the kind and the fingerprint of the first cutover's. -/
theorem second_cutover_collides :
    ¬ ∀ c : Config Db Request Receipt, Steps (rounds ordersEnv) (Config.start ordersDb) c →
      ∀ request freshness model, c.db.freshness request.datasetId = some freshness →
        operationByIdempotency c.db request.idempotencyKey = none →
        checkSwitch c.db freshness request = .ok model →
        ∃ db' result, switchBinding ordersEnv c.db c.db request = .ok (db', result) := by
  intro hclaim
  obtain ⟨hrow, hunused, hchecked, hraised⟩ :
      (afterSwitches [firstCutover, firstRollback]).db.freshness secondCutover.datasetId =
          some (rowAfter [firstCutover, firstRollback]) ∧
        operationByIdempotency (afterSwitches [firstCutover, firstRollback]).db
          secondCutover.idempotencyKey = none ∧
        accepted (checkSwitch (afterSwitches [firstCutover, firstRollback]).db
          (rowAfter [firstCutover, firstRollback]) secondCutover) = true ∧
        raised (switchBinding ordersEnv (afterSwitches [firstCutover, firstRollback]).db
          (afterSwitches [firstCutover, firstRollback]).db secondCutover) =
            some (.integrity "dataset_revision_commits") := by
    decide +kernel
  obtain ⟨model, hcheck⟩ := accepted_iff.mp hchecked
  obtain ⟨db', result, haccepted⟩ := hclaim (afterSwitches [firstCutover, firstRollback])
    (afterSwitches_steps [firstCutover, firstRollback]) secondCutover _ model hrow hunused hcheck
  rw [haccepted] at hraised
  exact nomatch hraised

end AskLake.Realtime

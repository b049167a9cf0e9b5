/-
# `AskLake.Realtime.RecoveryGate` — what a rebuild and a switch rest on

    ready rebuild      ⟶  a stored matched report whose hot side is the rebuilt table
    completed switch   ⟶  a stored matched report with the target on one of its sides

A report is never rewritten once it is stored, and the columns an operation shares with its
report are never rewritten either.  So what the call that wrote the operation has checked is
true of every later state.
-/
import AskLake.Realtime.Workflow

namespace AskLake.Realtime

open AskLake.Lib AskLake.Python AskLake.Events

/-- A stored report that covers the target of a switch. -/
structure Covers (parity : ParityCheck) (operation : RecoveryOperation) : Prop where
  status : parity.status = .matched
  mismatchFields : parity.mismatchFields = []
  datasetId : parity.datasetId = operation.datasetId
  pipelineVersionId : parity.pipelineVersionId = operation.pipelineVersionId
  sourceBoundary : parity.sourceBoundary = operation.sourceBoundary
  dimensionVersionIds : parity.dimensionVersionIds = operation.dimensionVersionIds
  evidence : ∃ evidence count,
    targetEvidence parity operation.targetBindingVersionId = some evidence ∧
    operation.targetBinding.checksum = some evidence.checksum ∧
    operation.targetBinding.rowCount = some count ∧ evidence.rowCount = count

/-- The gate of a cut-over. -/
def GateApproved (operation : RecoveryOperation) : Prop :=
  operation.operationKind = .cutover →
    ∃ gate, operation.gateEvidence = some gate ∧ gate.approved = true

/-! ## Transitions into running -/

def startsRun (id : String) : Call × Answer → Bool
  | (.recovery (.markRebuildRunning started), .done true) => started == id
  | _ => false

/-- How often a log has set the operation running. -/
def runsStarted (id : String) (log : List (Call × Answer)) : Nat := log.countP (startsRun id)

theorem runsStarted_append (id : String) (log : List (Call × Answer)) (entry : Call × Answer) :
    runsStarted id (log ++ [entry]) = runsStarted id log + if startsRun id entry then 1 else 0 := by
  rw [runsStarted, runsStarted, List.countP_append, List.countP_singleton]

theorem startsRun_iff {id : String} {entry : Call × Answer} :
    startsRun id entry = true ↔ entry = (.recovery (.markRebuildRunning id), .done true) := by
  constructor
  · intro h
    match entry with
    | (.recovery (.markRebuildRunning started), .done true) =>
        rw [show started = id from by simpa [startsRun] using h]
    | (.recovery (.markRebuildRunning _), .done false) => cases h
    | (.recovery (.markRebuildRunning _), .store _) => cases h
    | (.recovery (.recordParity _), _) => cases h
    | (.recovery (.reserveRebuild _ _), _) => cases h
    | (.recovery (.markRebuildReady _ _), _) => cases h
    | (.recovery (.markRebuildFailed _ _), _) => cases h
    | (.store _, _) => cases h
    | (.materialization _, _) => cases h
  · rintro rfl
    exact beq_self_eq_true id

/-! ## The invariant -/

/-- What holds of one operation. -/
structure OperationKept (db : Db) (log : List (Call × Answer)) (operation : RecoveryOperation) :
    Prop where
  ready : operation.operationKind = .rebuild → operation.status = .ready →
    ∃ parity, db.parityChecks operation.parityCheckId = some parity ∧ Proves parity operation
  counted : operation.operationKind = .rebuild →
    operation.attemptCount = runsStarted operation.id log
  switched : operation.operationKind ≠ .rebuild →
    (∃ parity, db.parityChecks operation.parityCheckId = some parity ∧ Covers parity operation) ∧
      GateApproved operation

structure Gated (db : Db) (log : List (Call × Answer)) : Prop where
  ids : (db.operations.map RecoveryOperation.id).Nodup
  kept : ∀ operation ∈ db.operations, OperationKept db log operation
  unknown : ∀ id, (∀ operation ∈ db.operations, operation.id ≠ id) → runsStarted id log = 0

section
variable {env : Deployment} {snapshot tables tables' : Tables} {db db' : Db}
  {log : List (Call × Answer)} {entry : Call × Answer}

/-- An operation that the step does not write, and whose runs the step does not count. -/
theorem OperationKept.later {operation : RecoveryOperation} (h : OperationKept db log operation)
    (hreports : ReportsKept db db') (hentry : startsRun operation.id entry = false) :
    OperationKept db' (log ++ [entry]) operation where
  ready := by
    intro hkind hready
    obtain ⟨parity, hparity, hproves⟩ := h.ready hkind hready
    exact ⟨parity, hreports _ _ hparity, hproves⟩
  counted := by
    intro hkind
    rw [runsStarted_append, hentry]
    exact h.counted hkind
  switched := by
    intro hkind
    obtain ⟨⟨parity, hparity, hcovers⟩, hgate⟩ := h.switched hkind
    exact ⟨⟨parity, hreports _ _ hparity, hcovers⟩, hgate⟩

/-- The report that a switch was checked against covers the operation it leaves. -/
theorem Switched.covers {request : BindingSwitchRequest} {freshness : Freshness}
    {result : BindingSwitchResult} (h : Switched env db request freshness db' result) :
    ∃ parity, db.parityChecks request.parityReportId = some parity ∧
      Covers parity (switchedOperation env request result) := by
  obtain ⟨parity, hparity, hvalid⟩ := h.parity
  obtain ⟨hstored, hstatus, hmismatch⟩ := matchedParity_eq_ok hparity
  obtain ⟨evidence, hevidence, hsame⟩ := bind_eq_ok.mp hvalid
  have hsame := rejectIf_eq_ok.mp hsame
  simp only [not_or, not_not] at hsame
  obtain ⟨hdataset, hversion, hboundary, hdimensions, hchecksum, hcount⟩ := hsame
  refine ⟨parity, hstored, hstatus, hmismatch, hdataset, hversion, hboundary, hdimensions,
    evidence, request.target.rowCount, orReject_eq_ok.mp hevidence, ?_, ?_, hcount⟩
  · rw [hchecksum]
    show (targetBinding request.target _).checksum = _
    unfold targetBinding
    cases request.target.engine <;> rfl
  · show (targetBinding request.target _).rowCount = _
    unfold targetBinding
    cases request.target.engine <;> rfl

theorem Switched.gate {request : BindingSwitchRequest} {freshness : Freshness}
    {result : BindingSwitchResult} (_ : Switched env db request freshness db' result) :
    GateApproved (switchedOperation env request result) := by
  intro hkind
  have hcutover : request.action = .cutover := by
    cases haction : request.action with
    | cutover => rfl
    | rollback =>
        have : request.action.operationKind = .cutover := hkind
        rw [haction] at this
        cases this
  exact request.gated hcutover

theorem operationKind_ne_rebuild (action : SwitchAction) : action.operationKind ≠ .rebuild := by
  cases action <;> exact nofun

/-- One operation more, that holds what it should. -/
theorem Gated.appended {operation : RecoveryOperation} (h : Gated db log)
    (hreports : ReportsKept db db') (hentry : ∀ id, startsRun id entry = false)
    (hfresh : ∀ stored ∈ db.operations, stored.id ≠ operation.id)
    (heq : db'.operations = db.operations ++ [operation])
    (hnew : OperationKept db' (log ++ [entry]) operation) : Gated db' (log ++ [entry]) where
  ids := by
    rw [heq, List.map_append, List.nodup_append]
    refine ⟨h.ids, List.nodup_singleton _, ?_⟩
    intro id hid other hother
    obtain ⟨stored, hstored, rfl⟩ := List.mem_map.mp hid
    rw [List.map_singleton, List.mem_singleton] at hother
    rw [hother]
    exact hfresh stored hstored
  kept := by
    intro found hfound
    rw [heq, List.mem_append, List.mem_singleton] at hfound
    rcases hfound with hfound | rfl
    · exact (h.kept found hfound).later hreports (hentry _)
    · exact hnew
  unknown := by
    intro id hid
    rw [heq] at hid
    rw [runsStarted_append, hentry]
    exact h.unknown id fun stored hstored => hid stored (List.mem_append_left _ hstored)

/-- The operation that a call moves is the only one with its id. -/
theorem Gated.moved {call : RecoveryCall} {operation : RecoveryOperation}
    {f : RecoveryOperation → RecoveryOperation} (h : Gated db log)
    (hreports : ReportsKept db db')
    (hfind : db.operations.find? (fun stored => stored.id = operation.id) = some operation)
    (hmove : RebuildMove db call operation (f operation))
    (heq : db'.operations =
      updateWhere (fun stored => stored.id = operation.id) f db.operations) :
    Gated db' (log ++ [(.recovery call, .done true)]) := by
  have hmem := List.mem_of_find?_eq_some hfind
  have honly : ∀ stored ∈ db.operations, stored.id = operation.id → stored = operation :=
    fun stored hstored => List.inj_on_of_nodup_map h.ids hstored hmem
  have hid : (f operation).id = operation.id := by
    generalize f operation = after at hmove
    cases hmove <;> rfl
  have hother : ∀ id, id ≠ operation.id →
      startsRun id (.recovery call, .done true) = false := by
    intro id hne
    rw [Bool.eq_false_iff, ne_eq, startsRun_iff]
    intro hcall
    generalize f operation = after at hmove
    cases hmove with
    | running _ _ =>
        cases hcall
        exact hne rfl
    | ready _ _ _ _ => cases hcall
    | failed _ _ => cases hcall
  have hmoved : OperationKept db' (log ++ [(.recovery call, .done true)]) (f operation) := by
    have hkept := h.kept operation hmem
    generalize f operation = after at hmove hid
    cases hmove with
    | running hkind _ =>
        refine ⟨nofun, ?_, fun hne => absurd hkind hne⟩
        intro _
        rw [runsStarted_append, if_pos (startsRun_iff.mpr rfl)]
        exact congrArg (· + 1) (hkept.counted hkind)
    | ready hkind _ hparity hproves =>
        refine ⟨?_, ?_, fun hne => absurd hkind hne⟩
        · intro _ _
          exact ⟨_, hreports _ _ hparity, hproves.1, hproves.2, hproves.3, hproves.4, hproves.5,
            hproves.6, hproves.7⟩
        · intro _
          rw [runsStarted_append]
          exact hkept.counted hkind
    | failed hkind _ =>
        refine ⟨nofun, ?_, fun hne => absurd hkind hne⟩
        intro _
        rw [runsStarted_append]
        exact hkept.counted hkind
  constructor
  · rw [heq]
    have hids : (updateWhere (fun stored => stored.id = operation.id) f db.operations).map
        RecoveryOperation.id = db.operations.map RecoveryOperation.id := by
      unfold updateWhere
      rw [List.map_map]
      refine List.map_congr_left fun stored hstored => ?_
      by_cases hsame : stored.id = operation.id
      · simp [honly stored hstored hsame, hid]
      · simp [hsame]
    rw [hids]
    exact h.ids
  · intro found hfound
    rw [heq] at hfound
    obtain ⟨stored, hstored, rfl⟩ := List.mem_map.mp hfound
    by_cases hsame : stored.id = operation.id
    · rw [if_pos (by simpa using hsame), honly stored hstored hsame]
      exact hmoved
    · rw [if_neg (by simpa using hsame)]
      exact (h.kept stored hstored).later hreports (hother _ hsame)
  · intro id hnone
    have hne : id ≠ operation.id := by
      rintro rfl
      refine hnone (f operation) ?_ hid
      rw [heq]
      exact List.mem_map.mpr ⟨operation, hmem, by simp⟩
    rw [runsStarted_append, hother id hne]
    refine h.unknown id fun stored hstored hsame => ?_
    refine hnone stored ?_ hsame
    rw [heq]
    refine List.mem_map.mpr ⟨stored, hstored, if_neg ?_⟩
    simpa using fun heq' => hne (hsame.symm.trans heq')

theorem Gated.switched {request : BindingSwitchRequest} {freshness : Freshness}
    {result : BindingSwitchResult} (h : Gated db log) (hreports : ReportsKept db db')
    (hnew : Switched env db request freshness db' result)
    (hentry : ∀ id, startsRun id entry = false) : Gated db' (log ++ [entry]) := by
  obtain ⟨hfresh, -, heq⟩ := hnew.operations_eq
  have hkind : (switchedOperation env request result).operationKind ≠ .rebuild :=
    operationKind_ne_rebuild request.action
  refine h.appended hreports hentry hfresh heq ⟨?_, ?_, ?_⟩
  · exact fun hrebuild => absurd hrebuild hkind
  · exact fun hrebuild => absurd hrebuild hkind
  · intro _
    obtain ⟨parity, hparity, hcovers⟩ := hnew.covers
    exact ⟨⟨parity, hreports _ _ hparity, hcovers⟩, hnew.gate⟩

theorem Gated.reserved {plan : RebuildPlan} {audit : RebuildAudit} (h : Gated db log)
    (hreports : ReportsKept db db') (hfresh : ∀ stored ∈ db.operations, stored.id ≠ plan.operationId)
    (heq : db'.operations = db.operations ++ [rebuildOperation plan audit])
    (hentry : ∀ id, startsRun id entry = false) : Gated db' (log ++ [entry]) := by
  refine h.appended hreports hentry hfresh heq ⟨nofun, ?_, fun hne => absurd rfl hne⟩
  intro _
  rw [runsStarted_append, hentry]
  exact (h.unknown plan.operationId hfresh).symm

theorem Gated.effect {call : Call} {answer : Answer} (h : Gated tables.db log)
    (heffect : Effect env snapshot tables call answer tables') :
    Gated tables'.db (log ++ [(call, answer)]) := by
  have hreports := heffect.reportsKept
  cases heffect.operations with
  | same heq hentry _ =>
      have hnone : ∀ id, startsRun id (call, answer) = false := by
        intro id
        rw [Bool.eq_false_iff, ne_eq, startsRun_iff]
        exact hentry id
      refine ⟨by rw [heq]; exact h.ids, ?_, ?_⟩
      · intro operation hoperation
        rw [heq] at hoperation
        exact (h.kept operation hoperation).later hreports (hnone _)
      · intro id hid
        rw [heq] at hid
        rw [runsStarted_append, hnone]
        exact h.unknown id hid
  | switched hnew => exact h.switched hreports hnew fun _ => rfl
  | reserved hfresh _ heq => exact h.reserved hreports hfresh heq fun _ => rfl
  | moved hfind hmove heq => exact h.moved hreports hfind hmove heq

end

theorem gated_keeps (env : Deployment) : Keeps (workflow env) fun tables log => Gated tables.db log where
  exec := fun h hexec => h.effect (execCall_effect hexec)
  env := by
    intro tables tables' log h henv
    have heq := henv.elsewhere.operations
    refine ⟨by rw [heq]; exact h.ids, ?_, by rw [heq]; exact h.unknown⟩
    intro operation hoperation
    rw [heq] at hoperation
    have hkept := h.kept operation hoperation
    exact ⟨by rw [henv.parityChecks]; exact hkept.ready, hkept.counted,
      by rw [henv.parityChecks]; exact hkept.switched⟩

theorem gated_start {db : Db} (hoperations : db.operations = []) : Gated db [] where
  ids := by
    rw [hoperations]
    exact .nil
  kept := by
    intro operation hmem
    rw [hoperations] at hmem
    cases hmem
  unknown := fun _ _ => rfl

/-! ## Ready for good -/

section
variable {env : Deployment} {snapshot tables tables' : Tables} {log : List (Call × Answer)}
  {operation : RecoveryOperation}

/-- No call writes a ready rebuild. -/
theorem Gated.ready_effect {call : Call} {answer : Answer} (h : Gated tables.db log)
    (hmem : operation ∈ tables.db.operations) (hready : operation.status = .ready)
    (heffect : Effect env snapshot tables call answer tables') :
    operation ∈ tables'.db.operations := by
  cases heffect.operations with
  | same heq _ _ =>
      rw [heq]
      exact hmem
  | switched hnew =>
      rw [hnew.operations_eq.2.2]
      exact List.mem_append_left _ hmem
  | reserved _ _ heq =>
      rw [heq]
      exact List.mem_append_left _ hmem
  | @moved _ found f hfind hmove heq =>
      have hne : operation.id ≠ found.id := by
        intro hid
        have hsame := List.inj_on_of_nodup_map h.ids hmem (List.mem_of_find?_eq_some hfind) hid
        subst hsame
        generalize f operation = after at hmove
        cases hmove with
        | running _ hstatus => exact hstatus hready
        | ready _ hrunning _ _ => rw [hready] at hrunning; cases hrunning
        | failed _ hrunning => rw [hready] at hrunning; cases hrunning
      rw [heq]
      exact List.mem_map.mpr ⟨operation, hmem, if_neg (by simpa using hne)⟩

theorem ready_steps {c c' : Config Tables Call Answer} (h : Steps (workflow env) c c')
    (hgated : Gated c.db.db c.log) (hmem : operation ∈ c.db.db.operations)
    (hready : operation.status = .ready) : operation ∈ c'.db.db.operations := by
  induction h with
  | refl => exact hmem
  | tail hsteps hstep ih =>
      have hbefore := (gated_keeps env).steps hgated hsteps
      cases hstep with
      | begin _ => exact ih
      | commit _ hexec => exact hbefore.ready_effect ih hready (execCall_effect hexec)
      | rollback _ _ => exact ih
      | lose _ => exact ih
      | other henv =>
          rw [henv.elsewhere.operations]
          exact ih

end

/-! ## The law -/

/-- The recovery operations after every run that starts without any.

A ready rebuild refers to a stored report that proves it, and stays as it is; a rebuild counts
how often it was set running; and a switch refers to a stored report that covers its target,
with an approved gate if it was a cut-over. -/
theorem recovery_gating (env : Deployment) (tables : Tables)
    (hoperations : tables.db.operations = []) {c : Config Tables Call Answer}
    (h : Steps (workflow env) (Config.start tables) c) :
    (∀ operation ∈ c.db.db.operations, operation.operationKind = .rebuild →
      operation.status = .ready →
      (∃ parity, c.db.db.parityChecks operation.parityCheckId = some parity ∧
        Proves parity operation) ∧
      ∀ c', Steps (workflow env) c c' → operation ∈ c'.db.db.operations) ∧
    (∀ operation ∈ c.db.db.operations, operation.operationKind = .rebuild →
      operation.attemptCount = runsStarted operation.id c.log) ∧
    ∀ operation ∈ c.db.db.operations, operation.operationKind ≠ .rebuild →
      (∃ parity, c.db.db.parityChecks operation.parityCheckId = some parity ∧
        Covers parity operation) ∧ GateApproved operation := by
  have hgated : Gated c.db.db c.log := Steps.induct (gated_keeps env) (gated_start hoperations) h
  refine ⟨?_, ?_, ?_⟩
  · intro operation hmem hkind hready
    refine ⟨(hgated.kept operation hmem).ready hkind hready, ?_⟩
    intro c' hsteps
    exact ready_steps hsteps hgated hmem hready
  · exact fun operation hmem => (hgated.kept operation hmem).counted
  · exact fun operation hmem => (hgated.kept operation hmem).switched

/-! ## A rebuild -/

def ordersPlan : RebuildPlan where
  operationId := "rtrebuild_1"
  idempotencyKey := "rebuild:1"
  datasetId := "orders"
  pipelineVersionId := "pv1"
  shadowBindingVersionId := "sv2"
  physicalDatabase := "asklake"
  physicalTable := "orders_v2"
  parityReportId := "parity-1"
  boundary := ordersBoundary
  dimensionVersionIds := .empty

/-- The rebuild fails once, and is ready after its second run. -/
def ordersRebuild : List Call :=
  [.recovery (.reserveRebuild ordersPlan ⟨0, "ops", "archive rebuild", "rebuild-1"⟩),
    .recovery (.markRebuildRunning "rtrebuild_1"),
    .recovery (.markRebuildFailed "rtrebuild_1" "TIMEOUT"),
    .recovery (.markRebuildRunning "rtrebuild_1"),
    .recovery (.markRebuildRunning "rtrebuild_1"),
    .recovery (.markRebuildReady "rtrebuild_1" ⟨"parity-1", 0, 0, by decide, rfl, rfl⟩)]

/-- It is proved by the stored report, and has run twice. -/
theorem recovery_gating_orders :
    ∃ operation ∈ (served (workflow ordersEnv) ⟨ordersDb, {}⟩ ordersRebuild).db.db.operations,
      operation.status = .ready ∧ operation.attemptCount = 2 ∧
      ∃ parity, (served (workflow ordersEnv) ⟨ordersDb, {}⟩ ordersRebuild).db.db.parityChecks
        operation.parityCheckId = some parity ∧ Proves parity operation := by
  have hlaw := recovery_gating ordersEnv ⟨ordersDb, {}⟩ rfl
    (served_steps (workflow ordersEnv) ⟨ordersDb, {}⟩ ordersRebuild)
  have hready : (served (workflow ordersEnv) ⟨ordersDb, {}⟩ ordersRebuild).db.db.operations =
      [{ rebuildOperation ordersPlan ⟨0, "ops", "archive rebuild", "rebuild-1"⟩ with
        status := .ready, attemptCount := 2 }] := by
    decide +kernel
  refine ⟨_, by rw [hready]; exact List.mem_singleton_self _, rfl, rfl, ?_⟩
  exact (hlaw.1 _ (by rw [hready]; exact List.mem_singleton_self _) rfl rfl).1

end AskLake.Realtime

/-
# `AskLake.Realtime.Workflow` — every writer of the realtime tables as one machine

To the publications, switches and recorded revisions come the calls that prepare them: the
materialization rows a publication is checked against, and the parity reports and rebuilds
behind a switch.

    prepare      realtime_materializations, realtime_parity_checks, rebuild operations
    store        everything `Transactions` says of publish, switch and record

What is left to `OtherWriters` are receipts, leases, stream cursors, and the events of other
resources.
-/
import AskLake.Realtime.MaterializationRows
import AskLake.Realtime.Rebuild
import AskLake.Realtime.Transactions

namespace AskLake.Realtime

open AskLake.Lib AskLake.Python AskLake.Events

/-- The tables, and the indexes of the one that is searched by other columns than its key. -/
structure Tables where
  db : Db
  index : MaterializationIndex := {}

inductive Call
  | store (request : Request)
  | materialization (call : MaterializationCall)
  | recovery (call : RecoveryCall)

/-- A receipt, or whether the call did something. -/
inductive Answer
  | store (receipt : Receipt)
  | done (done : Bool)

def execCall (env : Deployment) (snapshot tables : Tables) :
    Call → Except Error (Tables × Answer)
  | .store request => do
      let (db', receipt) ← exec env snapshot.db tables.db request
      pure ({ tables with db := db' }, .store receipt)
  | .materialization call => do
      let (rows, index, done) ← runMaterialization tables.db.materializations tables.index call
      pure (⟨{ tables.db with materializations := rows }, index⟩, .done done)
  | .recovery call => do
      let (db', done) ← runRecovery snapshot.db tables.db call
      pure ({ tables with db := db' }, .done done)

/-- What the writers of other tables may do. -/
structure OtherWriters (tables tables' : Tables) : Prop where
  elsewhere : Elsewhere tables.db tables'.db
  materializations : tables'.db.materializations = tables.db.materializations
  parityChecks : tables'.db.parityChecks = tables.db.parityChecks
  index : tables'.index = tables.index
  events : ∃ more, tables'.db.events = tables.db.events ++ more ∧
    ∀ e ∈ more, ∀ id, e.idempotencyKey ≠ "realtime-publication:" ++ id

def workflow (env : Deployment) : Machine Tables Call Answer Error where
  exec := execCall env
  env := OtherWriters

/-- What a committed call can have done. -/
inductive Effect (env : Deployment) (snapshot tables : Tables) : Call → Answer → Tables → Prop
  | store {request : Request} {receipt : Receipt} {db' : Db} :
      Outcome env snapshot.db tables.db request receipt db' →
      Effect env snapshot tables (.store request) (.store receipt) { tables with db := db' }
  | materialization {call : MaterializationCall} {done : Bool} {rows : MaterializationRows}
      {index : MaterializationIndex} :
      RowsStep tables.db.materializations tables.index call done rows index →
      Effect env snapshot tables (.materialization call) (.done done)
        ⟨{ tables.db with materializations := rows }, index⟩
  | recovery {call : RecoveryCall} {done : Bool} {db' : Db} :
      RecoveryStep tables.db call done db' →
      Effect env snapshot tables (.recovery call) (.done done) { tables with db := db' }

theorem execCall_effect {env : Deployment} {snapshot tables tables' : Tables} {call : Call}
    {answer : Answer} (h : execCall env snapshot tables call = .ok (tables', answer)) :
    Effect env snapshot tables call answer tables' := by
  cases call with
  | store request =>
      obtain ⟨⟨db', receipt⟩, hrun, h⟩ := bind_eq_ok.mp h
      cases pure_eq_ok.mp h
      exact .store (exec_outcome hrun)
  | materialization call =>
      obtain ⟨⟨rows, index, done⟩, hrun, h⟩ := bind_eq_ok.mp h
      cases pure_eq_ok.mp h
      exact .materialization (runMaterialization_step hrun)
  | recovery call =>
      obtain ⟨⟨db', done⟩, hrun, h⟩ := bind_eq_ok.mp h
      cases pure_eq_ok.mp h
      exact .recovery (runRecovery_step hrun)

/-! ## What no writer but one touches -/

section
variable {env : Deployment} {snapshot db db' : Db} {request : Request} {receipt : Receipt}

/-- A publication writes one materialization row; the other requests write none. -/
theorem Outcome.materializations (h : Outcome env snapshot db request receipt db') :
    db'.materializations = db.materializations ∨
      ∃ p freshness result, request = .publish p ∧ receipt = .published result ∧
        Published env db p freshness db' result := by
  cases h with
  | publishedBefore _ => exact .inl rfl
  | published hnew => exact .inr ⟨_, _, _, rfl, rfl, hnew⟩
  | switchedBefore _ => exact .inl rfl
  | switched hnew => exact .inl hnew.elsewhere.2.2.1
  | recordedBefore => exact .inl rfl
  | patched _ => exact .inl rfl
  | duplicate =>
      obtain ⟨freshness, heq, -⟩ : ∃ freshness, _ := Dashboard.ensureFreshness_eq _ _
      rw [heq]
      exact .inl rfl
  | recorded hnew => exact .inl hnew.elsewhere.2.2.1

/-- A switch adds its operation; the other requests add none. -/
theorem Outcome.operations (h : Outcome env snapshot db request receipt db') :
    db'.operations = db.operations ∨
      ∃ switch freshness result, request = .switch switch ∧ receipt = .switched result ∧
        Switched env db switch freshness db' result := by
  cases h with
  | publishedBefore _ => exact .inl rfl
  | published hnew => exact .inl hnew.elsewhere.2.2.1
  | switchedBefore _ => exact .inl rfl
  | switched hnew => exact .inr ⟨_, _, _, rfl, rfl, hnew⟩
  | recordedBefore => exact .inl rfl
  | patched _ => exact .inl rfl
  | duplicate =>
      obtain ⟨freshness, heq, -⟩ : ∃ freshness, _ := Dashboard.ensureFreshness_eq _ _
      rw [heq]
      exact .inl rfl
  | recorded hnew => exact .inl hnew.elsewhere.2.2.2.2.1

theorem Outcome.parityChecks (h : Outcome env snapshot db request receipt db') :
    db'.parityChecks = db.parityChecks := by
  cases h with
  | publishedBefore _ => rfl
  | published hnew => exact hnew.elsewhere.2.1
  | switchedBefore _ => rfl
  | switched hnew => exact hnew.elsewhere.2.2.2
  | recordedBefore => rfl
  | patched _ => rfl
  | duplicate =>
      obtain ⟨freshness, heq, -⟩ : ∃ freshness, _ := Dashboard.ensureFreshness_eq _ _
      rw [heq]
  | recorded hnew => exact hnew.elsewhere.2.2.2.1

end

/-! ## Parity reports are kept -/

/-- A stored report stays as it was stored. -/
def ReportsKept (db db' : Db) : Prop :=
  ∀ id parity, db.parityChecks id = some parity → db'.parityChecks id = some parity

theorem RecoveryStep.reportsKept {db db' : Db} {call : RecoveryCall} {done : Bool}
    (h : RecoveryStep db call done db') : ReportsKept db db' := by
  intro id parity hparity
  cases h with
  | nothing => exact hparity
  | @recorded report hfree =>
      have hne : id ≠ report.reportId := by
        rintro rfl
        rw [hfree] at hparity
        cases hparity
      show db.parityChecks.put _ _ id = _
      rw [Table.put_ne _ hne, hparity]
  | reserved _ => exact hparity
  | moved _ _ => exact hparity

theorem Effect.reportsKept {env : Deployment} {snapshot tables tables' : Tables} {call : Call}
    {answer : Answer} (h : Effect env snapshot tables call answer tables') :
    ReportsKept tables.db tables'.db := by
  cases h with
  | store hout =>
      intro id parity hparity
      rw [hout.parityChecks, hparity]
  | materialization _ => exact fun _ _ hparity => hparity
  | recovery hstep => exact hstep.reportsKept

/-! ## The operations, after one call -/

/-- The operation that an applied switch leaves. -/
def switchedOperation (env : Deployment) (request : BindingSwitchRequest)
    (result : BindingSwitchResult) : RecoveryOperation :=
  { switchOperation env.toRuntime request (request.expectedBindingEpoch + 1) result.revision with
    resultEventCursor := some result.eventCursor }

/-- A switch appends its operation, with the cursor of its event; the others have other ids. -/
theorem Switched.operations_eq {env : Deployment} {db db' : Db} {request : BindingSwitchRequest}
    {freshness : Freshness} {result : BindingSwitchResult}
    (h : Switched env db request freshness db' result) :
    (∀ stored ∈ db.operations, stored.id ≠ request.operationId env.toRuntime) ∧
      (∀ stored ∈ db.operations, stored.idempotencyKey ≠ request.idempotencyKey) ∧
      db'.operations = db.operations ++ [switchedOperation env request result] := by
  obtain ⟨operations, hinsert, hcursor⟩ := h.operations
  obtain ⟨hapart, rfl⟩ := insertOperation_eq_ok.mp hinsert
  have hid : ∀ stored ∈ db.operations, stored.id ≠ request.operationId env.toRuntime :=
    fun stored hstored => (hapart stored hstored).1
  refine ⟨hid, fun stored hstored => (hapart stored hstored).2, ?_⟩
  have hsame : recordEventCursor db.operations (request.operationId env.toRuntime)
      (db.eventSequence + 1) = db.operations := by
    refine (List.map_congr_left fun stored hstored => ?_).trans (List.map_id _)
    exact if_neg (by simpa using hid stored hstored)
  rw [hcursor, h.result_eq]
  unfold recordEventCursor updateWhere at hsame ⊢
  rw [List.map_append, hsame]
  simp [switchedOperation, switchOperation]

/-- What one call makes of the list of operations. -/
inductive OperationsStep (env : Deployment) (db db' : Db) : Call → Answer → Prop
  | same {call : Call} {answer : Answer} :
      db'.operations = db.operations →
      (∀ id, (call, answer) ≠ (.recovery (.markRebuildRunning id), .done true)) →
      (∀ request result, (call, answer) = (.store (.switch request), .store (.switched result)) →
        result.created = false) →
      OperationsStep env db db' call answer
  | switched {request : BindingSwitchRequest} {freshness : Freshness}
      {result : BindingSwitchResult} :
      Switched env db request freshness db' result →
      OperationsStep env db db' (.store (.switch request)) (.store (.switched result))
  | reserved {plan : RebuildPlan} {audit : RebuildAudit} :
      (∀ stored ∈ db.operations, stored.id ≠ plan.operationId) →
      (∀ stored ∈ db.operations, stored.idempotencyKey ≠ plan.idempotencyKey) →
      db'.operations = db.operations ++ [rebuildOperation plan audit] →
      OperationsStep env db db' (.recovery (.reserveRebuild plan audit)) (.done true)
  | moved {call : RecoveryCall} {operation : RecoveryOperation}
      {f : RecoveryOperation → RecoveryOperation} :
      db.operations.find? (fun stored => stored.id = operation.id) = some operation →
      RebuildMove db call operation (f operation) →
      db'.operations =
        updateWhere (fun stored => stored.id = operation.id) f db.operations →
      OperationsStep env db db' (.recovery call) (.done true)

theorem Effect.operations {env : Deployment} {snapshot tables tables' : Tables} {call : Call}
    {answer : Answer} (h : Effect env snapshot tables call answer tables') :
    OperationsStep env tables.db tables'.db call answer := by
  cases h with
  | store hout =>
      rcases hout.operations with hsame | ⟨switch, freshness, result, rfl, rfl, hnew⟩
      · refine .same hsame (by rintro _ ⟨⟩) ?_
        rintro request result ⟨⟩
        cases hout with
        | switchedBefore hold => exact hold
        | switched hnew =>
            -- a new operation would have made the list longer
            have hlonger := congrArg List.length hnew.operations_eq.2.2
            rw [hsame, List.length_append] at hlonger
            simp at hlonger
      · exact .switched hnew
  | materialization _ =>
      refine .same rfl ?_ ?_
      · rintro _ ⟨⟩
      · rintro _ _ ⟨⟩
  | recovery hstep =>
      cases hstep with
      | nothing =>
          refine .same rfl ?_ ?_
          · rintro _ ⟨⟩
          · rintro _ _ ⟨⟩
      | recorded _ =>
          refine .same rfl ?_ ?_
          · rintro _ ⟨⟩
          · rintro _ _ ⟨⟩
      | reserved hinsert =>
          obtain ⟨hapart, heq⟩ := insertOperation_eq_ok.mp hinsert
          exact .reserved (fun stored hstored => (hapart stored hstored).1)
            (fun stored hstored => (hapart stored hstored).2) heq
      | moved hfind hmove => exact .moved hfind hmove rfl

end AskLake.Realtime

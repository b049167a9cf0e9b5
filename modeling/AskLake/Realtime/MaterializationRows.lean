/-
# `AskLake.Realtime.MaterializationRows` — reserving and marking a materialization

A worker reserves the row of a source fingerprint, marks what it does to it, and leaves the
evidence a publication is checked against:

    reserve            reserved                                       (or one retry more)
    mark_running       reserved, failed, reconciling, running, materialized  ⟼  running
    mark_reconciling   reserved, running, failed, reconciling                ⟼  reconciling
    mark_materialized  all of these                                          ⟼  materialized
    mark_failed        reserved, running, reconciling                        ⟼  failed

Each is one statement; an `UPDATE` is fenced by the row's lease generation and reports how
many rows it matched.  Published rows are in none of the sets.  `RowMove` is what a statement
may make of a row.
-/
import AskLake.Store

namespace AskLake.Realtime

open AskLake.Lib AskLake.Python

abbrev MaterializationRows := Table String Materialization

/-- The two unique indexes beside the primary key: the id of the row that has a key. -/
structure MaterializationIndex where
  fingerprints : Table (String × String) String := fun _ => none
  queries : Table String String := fun _ => none

/-- The arguments of `reserve`. -/
structure Reservation where
  materializationId : String
  pipelineVersionId : String
  boundary : SourceBoundary
  sourceFingerprint : String
  dimensionVersionIds : StrDict
  clickhouseQueryId : String
  leaseGeneration : Nat
  deriving DecidableEq

inductive MaterializationCall
  | reserve (r : Reservation)
  | markRunning (id : String) (leaseGeneration : Nat)
  | markReconciling (id : String) (leaseGeneration : Nat)
  | markMaterialized (id : String) (leaseGeneration targetRowCount : Nat) (targetChecksum : String)
  | markFailed (id : String) (leaseGeneration : Nat) (errorCode : String)
  deriving DecidableEq

/-! ## The statements -/

/-- The row an `INSERT` writes. -/
def Reservation.row (r : Reservation) : Materialization where
  pipelineVersionId := r.pipelineVersionId
  sourceFingerprint := r.sourceFingerprint
  dimensionVersionIds := r.dimensionVersionIds
  leaseGeneration := r.leaseGeneration
  sourceBoundary := r.boundary
  clickhouseQueryId := r.clickhouseQueryId

/-- The `WHERE` of the `DO UPDATE`, on the row that has the fingerprint. -/
def Reservation.owns (r : Reservation) (id : String) (row : Materialization) : Bool :=
  id == r.materializationId && row.clickhouseQueryId == r.clickhouseQueryId &&
    row.leaseGeneration == r.leaseGeneration

/-- `INSERT … ON CONFLICT (pipeline_version_id, source_fingerprint) DO UPDATE … WHERE` -/
def reserve (rows : MaterializationRows) (index : MaterializationIndex) (r : Reservation) :
    Except Error (MaterializationRows × MaterializationIndex × Bool) :=
  match index.fingerprints (r.pipelineVersionId, r.sourceFingerprint) with
  | some id =>
      match (rows id).filter (r.owns id) with
      | some row => pure (rows.put id { row with retryCount := row.retryCount + 1 }, index, true)
      | none => pure (rows, index, false)
  | none => do
      rejectIf ((rows r.materializationId).isSome) (.integrity "pk_realtime_materializations")
      rejectIf ((index.queries r.clickhouseQueryId).isSome)
        (.integrity "uq_realtime_materializations_clickhouse_query")
      pure (rows.put r.materializationId r.row,
        { fingerprints :=
            index.fingerprints.put (r.pipelineVersionId, r.sourceFingerprint) r.materializationId
          queries := index.queries.put r.clickhouseQueryId r.materializationId },
        true)

/-- `UPDATE … WHERE id = … AND lease_generation = … AND status IN (…)` -/
def markWhere (allowed : List MaterializationStatus) (f : Materialization → Materialization)
    (rows : MaterializationRows) (id : String) (leaseGeneration : Nat) :
    MaterializationRows × Bool :=
  match (rows id).filter fun row => row.leaseGeneration = leaseGeneration ∧ row.status ∈ allowed with
  | some row => (rows.put id (f row), true)
  | none => (rows, false)

def markRunning (rows : MaterializationRows) (id : String) (leaseGeneration : Nat) :
    MaterializationRows × Bool :=
  markWhere [.reserved, .failed, .reconciling, .running, .materialized]
    (fun row => { row with status := .running, lastErrorCode := none }) rows id leaseGeneration

def markReconciling (rows : MaterializationRows) (id : String) (leaseGeneration : Nat) :
    MaterializationRows × Bool :=
  markWhere [.reserved, .running, .failed, .reconciling]
    (fun row => { row with status := .reconciling }) rows id leaseGeneration

def markMaterialized (rows : MaterializationRows) (id : String)
    (leaseGeneration targetRowCount : Nat) (targetChecksum : String) : MaterializationRows × Bool :=
  markWhere [.reserved, .running, .failed, .reconciling, .materialized]
    (fun row => { row with
      status := .materialized, targetRowCount := some targetRowCount,
      targetChecksum := some targetChecksum, lastErrorCode := none }) rows id leaseGeneration

def markFailed (rows : MaterializationRows) (id : String) (leaseGeneration : Nat)
    (errorCode : String) : MaterializationRows × Bool :=
  markWhere [.reserved, .running, .reconciling]
    (fun row => { row with
      status := .failed, lastErrorCode := some (String.ofList (errorCode.toList.take 120)) })
    rows id leaseGeneration

def runMaterialization (rows : MaterializationRows) (index : MaterializationIndex) :
    MaterializationCall → Except Error (MaterializationRows × MaterializationIndex × Bool)
  | .reserve r => reserve rows index r
  | .markRunning id lease =>
      pure ((markRunning rows id lease).1, index, (markRunning rows id lease).2)
  | .markReconciling id lease =>
      pure ((markReconciling rows id lease).1, index, (markReconciling rows id lease).2)
  | .markMaterialized id lease count checksum =>
      pure ((markMaterialized rows id lease count checksum).1, index,
        (markMaterialized rows id lease count checksum).2)
  | .markFailed id lease errorCode =>
      pure ((markFailed rows id lease errorCode).1, index, (markFailed rows id lease errorCode).2)

/-! ## What a statement may make of a row -/

/-- The row `id` before and after a call that matched it. -/
inductive RowMove : MaterializationCall → String → Materialization → Materialization → Prop
  | retried {r : Reservation} {row : Materialization} :
      row.clickhouseQueryId = r.clickhouseQueryId → row.leaseGeneration = r.leaseGeneration →
      RowMove (.reserve r) r.materializationId row { row with retryCount := row.retryCount + 1 }
  | running {id : String} {row : Materialization} :
      row.status ≠ .published →
      RowMove (.markRunning id row.leaseGeneration) id row
        { row with status := .running, lastErrorCode := none }
  | reconciling {id : String} {row : Materialization} :
      row.status ≠ .published →
      RowMove (.markReconciling id row.leaseGeneration) id row { row with status := .reconciling }
  | materialized {id : String} {row : Materialization} {count : Nat} {checksum : String} :
      row.status ≠ .published →
      RowMove (.markMaterialized id row.leaseGeneration count checksum) id row
        { row with
          status := .materialized, targetRowCount := some count, targetChecksum := some checksum,
          lastErrorCode := none }
  | failed {id : String} {row : Materialization} {errorCode : String} :
      row.status ≠ .published →
      RowMove (.markFailed id row.leaseGeneration errorCode) id row
        { row with
          status := .failed, lastErrorCode := some (String.ofList (errorCode.toList.take 120)) }

/-- The row a first reservation inserts, and what it finds free. -/
structure Inserted (rows : MaterializationRows) (index : MaterializationIndex) (r : Reservation)
    (rows' : MaterializationRows) (index' : MaterializationIndex) : Prop where
  fresh : rows r.materializationId = none
  unclaimed : index.fingerprints (r.pipelineVersionId, r.sourceFingerprint) = none
  rows_eq : rows' = rows.put r.materializationId r.row
  fingerprints_eq : index'.fingerprints =
    index.fingerprints.put (r.pipelineVersionId, r.sourceFingerprint) r.materializationId

/-- A call matches nothing, inserts a row, or moves the one row it matches. -/
inductive RowsStep (rows : MaterializationRows) (index : MaterializationIndex) :
    MaterializationCall → Bool → MaterializationRows → MaterializationIndex → Prop
  | missed {call : MaterializationCall} : RowsStep rows index call false rows index
  | inserted {r : Reservation} {rows' : MaterializationRows} {index' : MaterializationIndex} :
      Inserted rows index r rows' index' → RowsStep rows index (.reserve r) true rows' index'
  | moved {call : MaterializationCall} {id : String} {row row' : Materialization} :
      rows id = some row → RowMove call id row row' →
      (∀ r, call = .reserve r →
        index.fingerprints (r.pipelineVersionId, r.sourceFingerprint) = some id) →
      RowsStep rows index call true (rows.put id row') index

section
variable {rows rows' : MaterializationRows} {index index' : MaterializationIndex} {done : Bool}

/-- An `UPDATE` that leaves published rows alone, by the move it makes. -/
theorem markWhere_step {allowed : List MaterializationStatus} {f : Materialization → Materialization}
    {id : String} {lease : Nat} {call : MaterializationCall}
    (hallowed : .published ∉ allowed) (hcall : ∀ r, call ≠ .reserve r)
    (hmove : ∀ row : Materialization, row.leaseGeneration = lease → row.status ≠ .published →
      RowMove call id row (f row)) :
    RowsStep rows index call (markWhere allowed f rows id lease).2
      (markWhere allowed f rows id lease).1 index := by
  unfold markWhere
  split
  · rename_i row hrow
    obtain ⟨hrow, hfence⟩ := Option.filter_eq_some_iff.mp hrow
    rw [decide_eq_true_eq] at hfence
    refine .moved hrow (hmove row hfence.1 ?_) fun r hr => absurd hr (hcall r)
    intro hpublished
    exact hallowed (hpublished ▸ hfence.2)
  · exact .missed

theorem reserve_step {r : Reservation} (h : reserve rows index r = .ok (rows', index', done)) :
    RowsStep rows index (.reserve r) done rows' index' := by
  unfold reserve at h
  split at h
  · rename_i id hindex
    split at h
    · rename_i row hrow
      cases pure_eq_ok.mp h
      obtain ⟨hrow, howns⟩ := Option.filter_eq_some_iff.mp hrow
      simp only [Reservation.owns, Bool.and_eq_true, beq_iff_eq] at howns
      obtain ⟨⟨rfl, hquery⟩, hlease⟩ := howns
      refine .moved hrow (.retried hquery hlease) ?_
      rintro _ ⟨⟩
      exact hindex
    · cases pure_eq_ok.mp h
      exact .missed
  · rename_i hindex
    obtain ⟨_, hfresh, h⟩ := bind_eq_ok.mp h
    obtain ⟨_, -, h⟩ := bind_eq_ok.mp h
    cases pure_eq_ok.mp h
    refine .inserted ⟨?_, hindex, rfl, rfl⟩
    simpa using rejectIf_eq_ok.mp hfresh

theorem runMaterialization_step {call : MaterializationCall}
    (h : runMaterialization rows index call = .ok (rows', index', done)) :
    RowsStep rows index call done rows' index' := by
  cases call with
  | reserve r => exact reserve_step h
  | markRunning id lease =>
      cases pure_eq_ok.mp h
      refine markWhere_step (by decide) nofun fun row hlease hstatus => ?_
      cases hlease
      exact .running hstatus
  | markReconciling id lease =>
      cases pure_eq_ok.mp h
      refine markWhere_step (by decide) nofun fun row hlease hstatus => ?_
      cases hlease
      exact .reconciling hstatus
  | markMaterialized id lease count checksum =>
      cases pure_eq_ok.mp h
      refine markWhere_step (by decide) nofun fun row hlease hstatus => ?_
      cases hlease
      exact .materialized hstatus
  | markFailed id lease errorCode =>
      cases pure_eq_ok.mp h
      refine markWhere_step (by decide) nofun fun row hlease hstatus => ?_
      cases hlease
      exact .failed hstatus

/-! ## What every move keeps -/

/-- The columns that are written once, with the row. -/
structure SameClaim (row row' : Materialization) : Prop where
  pipelineVersionId : row'.pipelineVersionId = row.pipelineVersionId
  sourceFingerprint : row'.sourceFingerprint = row.sourceFingerprint
  dimensionVersionIds : row'.dimensionVersionIds = row.dimensionVersionIds
  leaseGeneration : row'.leaseGeneration = row.leaseGeneration
  sourceBoundary : row'.sourceBoundary = row.sourceBoundary
  clickhouseQueryId : row'.clickhouseQueryId = row.clickhouseQueryId

variable {call : MaterializationCall} {id : String} {row row' : Materialization}

theorem RowMove.sameClaim (h : RowMove call id row row') : SameClaim row row' := by
  cases h <;> exact ⟨rfl, rfl, rfl, rfl, rfl, rfl⟩

theorem RowMove.publishedRevision (h : RowMove call id row row') :
    row'.publishedRevision = row.publishedRevision := by
  cases h <;> rfl

/-- All that a call does to a published row is to count a retry. -/
theorem RowMove.of_published (h : RowMove call id row row') (hrow : row.status = .published) :
    row' = { row with retryCount := row.retryCount + 1 } := by
  cases h with
  | retried _ _ => rfl
  | running hstatus => exact absurd hrow hstatus
  | reconciling hstatus => exact absurd hrow hstatus
  | materialized hstatus => exact absurd hrow hstatus
  | failed hstatus => exact absurd hrow hstatus

theorem RowMove.status (h : RowMove call id row row') :
    row'.status = .published ↔ row.status = .published := by
  cases h <;> simp_all

end

end AskLake.Realtime

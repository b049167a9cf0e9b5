/-
# `AskLake.Realtime.MaterializationLaw` — the life of a materialization row

    reserved ⟶ … ⟶ materialized ⟶ published

A row that has not been published may go back and forth between the other states, as long as
its lease holder says so.  Over every run, `RowsKept` holds of the rows and the log: the
fingerprint index has every row, a row has a published revision exactly when it is published,
and the count and checksum of a row are those of the last `mark_materialized` that matched it.
-/
import AskLake.Realtime.Workflow

namespace AskLake.Realtime

open AskLake.Lib AskLake.Python AskLake.Events

/-! ## One step of a row -/

/-- What a writer may make of a row, or of a missing one. -/
inductive RowChange : Option Materialization → Option Materialization → Prop
  | same {row : Option Materialization} : RowChange row row
  | inserted {row : Materialization} :
      row.publishedRevision = none → row.status ≠ .published → RowChange none (some row)
  | moved {call : MaterializationCall} {id : String} {row row' : Materialization} :
      RowMove call id row row' → RowChange (some row) (some row')
  | published {row : Materialization} {revision : Nat} :
      row.status = .materialized → row.publishedRevision = none →
      RowChange (some row)
        (some { row with status := .published, publishedRevision := some revision })

section
variable {env : Deployment} {db db' : Db} {p : RealtimePublication} {freshness : Freshness}
  {result : PublicationResult}

theorem markPublished_eq_ok {rows rows' : MaterializationRows} {revision : Nat}
    (h : markPublished rows p revision = .ok rows') :
    ∃ row, rows p.materializationId = some row ∧ row.status = .materialized ∧
      row.leaseGeneration = p.leaseGeneration ∧ row.publishedRevision = none ∧
      rows' = rows.put p.materializationId
        { row with status := .published, publishedRevision := some revision } := by
  obtain ⟨row, hrow, h⟩ := bind_eq_ok.mp h
  obtain ⟨hrow, hfence⟩ := Option.filter_eq_some_iff.mp (orReject_eq_ok.mp hrow)
  rw [decide_eq_true_eq] at hfence
  exact ⟨row, hrow, hfence.1, hfence.2.1, hfence.2.2, (pure_eq_ok.mp h).symm⟩

/-- The row that a publication publishes is the one it was checked against. -/
theorem Published.row (h : Published env db p freshness db' result) :
    ∃ row, db.materializations p.materializationId = some row ∧ row.status = .materialized ∧
      row.leaseGeneration = p.leaseGeneration ∧ row.publishedRevision = none ∧
      row.targetRowCount = some p.rowCount ∧ row.targetChecksum = some p.checksum ∧
      db'.materializations = db.materializations.put p.materializationId
        { row with status := .published, publishedRevision := some (freshness.latestRevision + 1) }
    := by
  obtain ⟨row, hrow, hstatus, hlease, hrevision, hput⟩ := markPublished_eq_ok h.materializations
  obtain ⟨checked, hchecked, hevidence⟩ := bind_eq_ok.mp h.evidence
  cases hrow.symm.trans (orReject_eq_ok.mp hchecked)
  have hok := rejectIf_eq_ok.mp hevidence
  simp only [not_or, not_not] at hok
  obtain ⟨-, -, -, hcount, hchecksum, -⟩ := hok
  refine ⟨row, hrow, hstatus, hlease, hrevision, hcount, ?_, hput⟩
  -- a publication's checksum is not blank, so that the row has one
  cases hsome : row.targetChecksum with
  | some checksum =>
      rw [hsome] at hchecksum
      exact congrArg some hchecksum
  | none =>
      rw [hsome] at hchecksum
      have hblank := p.identified p.checksum (by simp)
      rw [← hchecksum] at hblank
      exact absurd hblank (by decide)

end

section
variable {rows rows' : MaterializationRows} {index index' : MaterializationIndex}
  {call : MaterializationCall} {done : Bool}

theorem RowsStep.change (h : RowsStep rows index call done rows' index') (id : String) :
    RowChange (rows id) (rows' id) := by
  cases h with
  | missed => exact .same
  | @inserted r _ _ hnew =>
      rw [hnew.rows_eq]
      by_cases hid : id = r.materializationId
      · subst hid
        rw [hnew.fresh, Table.put_self]
        exact .inserted rfl nofun
      · rw [Table.put_ne _ hid]
        exact .same
  | @moved _ moved row row' hrow hmove _ =>
      by_cases hid : id = moved
      · subst hid
        rw [hrow, Table.put_self]
        exact .moved hmove
      · rw [Table.put_ne _ hid]
        exact .same

end

section
variable {env : Deployment} {snapshot tables tables' : Tables} {call : Call} {answer : Answer}

theorem Effect.change (h : Effect env snapshot tables call answer tables') (id : String) :
    RowChange (tables.db.materializations id) (tables'.db.materializations id) := by
  cases h with
  | store hout =>
      rcases hout.materializations with hsame | ⟨p, freshness, result, -, -, hnew⟩
      · rw [hsame]
        exact .same
      · obtain ⟨row, hrow, hstatus, -, hrevision, -, -, hput⟩ := hnew.row
        rw [hput]
        by_cases hid : id = p.materializationId
        · subst hid
          rw [hrow, Table.put_self]
          exact .published hstatus hrevision
        · rw [Table.put_ne _ hid]
          exact .same
  | materialization hstep => exact hstep.change id
  | recovery hstep => cases hstep <;> exact .same

theorem step_change {c c' : Config Tables Call Answer} (h : Step (workflow env) c c')
    (id : String) : RowChange (c.db.db.materializations id) (c'.db.db.materializations id) := by
  cases h with
  | begin _ => exact .same
  | commit _ hexec => exact (execCall_effect hexec).change id
  | rollback _ _ => exact .same
  | lose _ => exact .same
  | other henv =>
      rw [henv.materializations]
      exact .same

end

/-! ## The evidence of a log -/

/-- The count and checksum that a log entry recorded for a row. -/
def materializedAs (id : String) : Call × Answer → Option (Nat × String)
  | (.materialization (.markMaterialized marked _ count checksum), .done true) =>
      if marked = id then some (count, checksum) else none
  | _ => none

/-- The count and checksum that were recorded last. -/
def recordedEvidence (id : String) (log : List (Call × Answer)) : Option (Nat × String) :=
  (log.filterMap (materializedAs id)).getLast?

theorem recordedEvidence_append (id : String) (log : List (Call × Answer)) (entry : Call × Answer) :
    recordedEvidence id (log ++ [entry]) =
      (materializedAs id entry).or (recordedEvidence id log) := by
  unfold recordedEvidence
  rw [List.filterMap_append]
  cases h : materializedAs id entry <;> simp [h]

/-- Every new publication of a log has the count and the checksum that were recorded last
before it. -/
def Backed (log : List (Call × Answer)) : Prop :=
  ∀ before p result after, log = before ++ (.store (.publish p), .store (.published result)) ::
      after → result.created = true →
    recordedEvidence p.materializationId before =
      some ((publicationCommit p result.revision).rowCount, p.checksum)

theorem Backed.append {log : List (Call × Answer)} {entry : Call × Answer} (h : Backed log)
    (hentry : ∀ p result, entry = (.store (.publish p), .store (.published result)) →
      result.created = true → recordedEvidence p.materializationId log =
        some ((publicationCommit p result.revision).rowCount, p.checksum)) :
    Backed (log ++ [entry]) := by
  intro before p result after hlog hcreated
  rcases List.eq_nil_or_concat after with rfl | ⟨earlier, last, rfl⟩
  · obtain ⟨rfl, hlast⟩ := List.append_inj' hlog rfl
    cases hlast
    exact hentry p result rfl hcreated
  · rw [List.concat_eq_append, ← List.cons_append, ← List.append_assoc] at hlog
    obtain ⟨hlog, -⟩ := List.append_inj' hlog rfl
    exact h before p result earlier hlog hcreated

/-! ## The invariant -/

structure RowsKept (tables : Tables) (log : List (Call × Answer)) : Prop where
  claimed : ∀ id row, tables.db.materializations id = some row →
    tables.index.fingerprints (row.pipelineVersionId, row.sourceFingerprint) = some id
  published : ∀ id row, tables.db.materializations id = some row →
    (row.publishedRevision.isSome ↔ row.status = .published)
  evidence : ∀ id row, tables.db.materializations id = some row →
    row.targetRowCount = (recordedEvidence id log).map Prod.fst ∧
      row.targetChecksum = (recordedEvidence id log).map Prod.snd
  unmarked : ∀ id, tables.db.materializations id = none → recordedEvidence id log = none
  backed : Backed log

section
variable {env : Deployment} {snapshot tables tables' : Tables} {log : List (Call × Answer)}

/-- The rows, the index and what the log recorded are as they were. -/
theorem RowsKept.same (h : RowsKept tables log)
    (hrows : tables'.db.materializations = tables.db.materializations)
    (hindex : tables'.index = tables.index) {log' : List (Call × Answer)}
    (hlog : ∀ id, recordedEvidence id log' = recordedEvidence id log) (hbacked : Backed log') :
    RowsKept tables' log' where
  claimed := by rw [hrows, hindex]; exact h.claimed
  published := by rw [hrows]; exact h.published
  evidence := by
    intro id row hrow
    rw [hrows] at hrow
    rw [hlog]
    exact h.evidence id row hrow
  unmarked := by
    intro id hrow
    rw [hrows] at hrow
    rw [hlog]
    exact h.unmarked id hrow
  backed := hbacked

/-- One row is written, over itself; the entry may record evidence for it and no other. -/
theorem RowsKept.rewritten {id : String} {row row' : Materialization} {entry : Call × Answer}
    (h : RowsKept tables log) (hrow : tables.db.materializations id = some row)
    (hrows : tables'.db.materializations = tables.db.materializations.put id row')
    (hindex : tables'.index = tables.index)
    (hkey : (row'.pipelineVersionId, row'.sourceFingerprint) =
      (row.pipelineVersionId, row.sourceFingerprint))
    (hpublished : row'.publishedRevision.isSome ↔ row'.status = .published)
    (hother : ∀ other, other ≠ id → materializedAs other entry = none)
    (hcount : row'.targetRowCount = ((materializedAs id entry).map Prod.fst).or row.targetRowCount)
    (hchecksum : row'.targetChecksum =
      ((materializedAs id entry).map Prod.snd).or row.targetChecksum)
    (hbacked : Backed (log ++ [entry])) : RowsKept tables' (log ++ [entry]) where
  claimed := by
    intro other found hfound
    rw [hrows] at hfound
    rw [hindex]
    by_cases hid : other = id
    · subst hid
      rw [Table.put_self] at hfound
      cases hfound
      rw [hkey]
      exact h.claimed other row hrow
    · rw [Table.put_ne _ hid] at hfound
      exact h.claimed other found hfound
  published := by
    intro other found hfound
    rw [hrows] at hfound
    by_cases hid : other = id
    · subst hid
      rw [Table.put_self] at hfound
      cases hfound
      exact hpublished
    · rw [Table.put_ne _ hid] at hfound
      exact h.published other found hfound
  evidence := by
    intro other found hfound
    rw [hrows] at hfound
    rw [recordedEvidence_append]
    by_cases hid : other = id
    · subst hid
      rw [Table.put_self] at hfound
      cases hfound
      obtain ⟨hoccount, hochecksum⟩ := h.evidence other row hrow
      rw [hcount, hchecksum, hoccount, hochecksum]
      cases materializedAs other entry <;> exact ⟨rfl, rfl⟩
    · rw [Table.put_ne _ hid] at hfound
      rw [hother other hid]
      exact h.evidence other found hfound
  unmarked := by
    intro other hnone
    rw [hrows] at hnone
    rw [recordedEvidence_append]
    by_cases hid : other = id
    · subst hid
      rw [Table.put_self] at hnone
      cases hnone
    · rw [Table.put_ne _ hid] at hnone
      rw [hother other hid]
      exact h.unmarked other hnone
  backed := hbacked

/-- A first reservation adds a row that nothing has been recorded for. -/
theorem RowsKept.inserted {r : Reservation} {rows : MaterializationRows}
    {index : MaterializationIndex} {entry : Call × Answer} (h : RowsKept tables log)
    (hnew : Inserted tables.db.materializations tables.index r rows index)
    (hrows : tables'.db.materializations = rows) (hindex : tables'.index = index)
    (hentry : ∀ id, materializedAs id entry = none) (hbacked : Backed (log ++ [entry])) :
    RowsKept tables' (log ++ [entry]) where
  claimed := by
    intro id row hrow
    rw [hrows, hnew.rows_eq] at hrow
    rw [hindex, hnew.fingerprints_eq]
    by_cases hid : id = r.materializationId
    · subst hid
      rw [Table.put_self] at hrow
      cases hrow
      exact Table.put_self _ _ _
    · rw [Table.put_ne _ hid] at hrow
      have hclaimed := h.claimed id row hrow
      rw [Table.put_ne _ _]
      · exact hclaimed
      · -- the fingerprint was unclaimed, so that no other row has it
        intro hkey
        rw [hkey, hnew.unclaimed] at hclaimed
        cases hclaimed
  published := by
    intro id row hrow
    rw [hrows, hnew.rows_eq] at hrow
    by_cases hid : id = r.materializationId
    · subst hid
      rw [Table.put_self] at hrow
      cases hrow
      exact iff_of_false nofun nofun
    · rw [Table.put_ne _ hid] at hrow
      exact h.published id row hrow
  evidence := by
    intro id row hrow
    rw [hrows, hnew.rows_eq] at hrow
    rw [recordedEvidence_append, hentry, Option.none_or]
    by_cases hid : id = r.materializationId
    · subst hid
      rw [Table.put_self] at hrow
      cases hrow
      rw [h.unmarked _ hnew.fresh]
      exact ⟨rfl, rfl⟩
    · rw [Table.put_ne _ hid] at hrow
      exact h.evidence id row hrow
  unmarked := by
    intro id hnone
    rw [hrows, hnew.rows_eq] at hnone
    rw [recordedEvidence_append, hentry, Option.none_or]
    by_cases hid : id = r.materializationId
    · subst hid
      rw [Table.put_self] at hnone
      cases hnone
    · rw [Table.put_ne _ hid] at hnone
      exact h.unmarked id hnone
  backed := hbacked

theorem materializedAs_false (id : String) (call : MaterializationCall) :
    materializedAs id (.materialization call, .done false) = none := by
  cases call <;> rfl

theorem RowsKept.moved {call : MaterializationCall} {id : String} {row row' : Materialization}
    (h : RowsKept tables log) (hrow : tables.db.materializations id = some row)
    (hmove : RowMove call id row row')
    (hrows : tables'.db.materializations = tables.db.materializations.put id row')
    (hindex : tables'.index = tables.index)
    (hbacked : Backed (log ++ [(.materialization call, .done true)])) :
    RowsKept tables' (log ++ [(.materialization call, .done true)]) := by
  have hkept := h.published id row hrow
  rw [← hmove.publishedRevision, ← hmove.status] at hkept
  refine h.rewritten hrow hrows hindex ?_ hkept ?_ ?_ ?_ hbacked
  · rw [hmove.sameClaim.pipelineVersionId, hmove.sameClaim.sourceFingerprint]
  · intro other hother
    cases hmove with
    | materialized _ => exact if_neg (Ne.symm hother)
    | _ => rfl
  · cases hmove with
    | materialized _ => simp [materializedAs]
    | _ => rfl
  · cases hmove with
    | materialized _ => simp [materializedAs]
    | _ => rfl

/-- A new publication is checked against what was recorded last. -/
theorem RowsKept.publication {p : RealtimePublication} {freshness : Freshness} {db' : Db}
    {result : PublicationResult} (h : RowsKept tables log)
    (hnew : Published env tables.db p freshness db' result) :
    recordedEvidence p.materializationId log =
      some ((publicationCommit p result.revision).rowCount, p.checksum) := by
  obtain ⟨row, hrow, -, -, -, hcount, hchecksum, -⟩ := hnew.row
  obtain ⟨hcount', hchecksum'⟩ := h.evidence _ row hrow
  rw [hcount] at hcount'
  rw [hchecksum] at hchecksum'
  cases hlast : recordedEvidence p.materializationId log with
  | none =>
      rw [hlast] at hcount'
      cases hcount'
  | some evidence =>
      rw [hlast] at hcount' hchecksum'
      obtain ⟨count, checksum⟩ := evidence
      cases hcount'
      cases hchecksum'
      rfl

theorem RowsKept.backed_entry {call : Call} {answer : Answer} (h : RowsKept tables log)
    (heffect : Effect env snapshot tables call answer tables') :
    Backed (log ++ [(call, answer)]) := by
  refine h.backed.append ?_
  rintro p result ⟨⟩ hcreated
  cases heffect with
  | store hout =>
      cases hout with
      | publishedBefore hold => exact absurd hcreated (by rw [hold]; decide)
      | published hnew => exact h.publication hnew

theorem RowsKept.effect {call : Call} {answer : Answer} (h : RowsKept tables log)
    (heffect : Effect env snapshot tables call answer tables') :
    RowsKept tables' (log ++ [(call, answer)]) := by
  have hbacked := h.backed_entry heffect
  cases heffect with
  | @store request receipt db' hout =>
      have hentry : ∀ id, materializedAs id (.store request, .store receipt) = none := fun _ => rfl
      rcases hout.materializations with hsame | ⟨p, freshness, result, rfl, rfl, hnew⟩
      · have hrows : ({ tables with db := db' } : Tables).db.materializations =
            tables.db.materializations := hsame
        refine h.same hrows rfl (fun id => ?_) hbacked
        rw [recordedEvidence_append, hentry, Option.none_or]
      · obtain ⟨row, hrow, -, -, -, -, -, hput⟩ := hnew.row
        refine h.rewritten hrow hput rfl rfl ?_ (fun other _ => hentry other) rfl rfl hbacked
        exact iff_of_true rfl rfl
  | @materialization call done rows index hstep =>
      cases hstep with
      | missed =>
          refine h.same rfl rfl (fun id => ?_) hbacked
          rw [recordedEvidence_append, materializedAs_false, Option.none_or]
      | inserted hnew => exact h.inserted hnew rfl rfl (fun _ => rfl) hbacked
      | moved hrow hmove _ => exact h.moved hrow hmove rfl rfl hbacked
  | @recovery call done db' hstep =>
      have hrows : ({ tables with db := db' } : Tables).db.materializations =
          tables.db.materializations := by
        cases hstep <;> rfl
      refine h.same hrows rfl (fun id => ?_) hbacked
      rw [recordedEvidence_append]
      rfl

end

theorem rowsKept_keeps (env : Deployment) : Keeps (workflow env) RowsKept where
  exec := fun h hexec => h.effect (execCall_effect hexec)
  env := fun h henv => h.same henv.materializations henv.index (fun _ => rfl) h.backed

theorem rowsKept_start {tables : Tables} (hrows : ∀ id, tables.db.materializations id = none) :
    RowsKept tables [] where
  claimed := fun id row hrow => by rw [hrows] at hrow; cases hrow
  published := fun id row hrow => by rw [hrows] at hrow; cases hrow
  evidence := fun id row hrow => by rw [hrows] at hrow; cases hrow
  unmarked := fun _ _ => rfl
  backed := by
    intro before p result after hlog
    cases before <;> cases hlog

/-! ## Stale callers -/

/-- The call is about the row `id`: by its id, or, for a reservation, by its fingerprint. -/
def Addresses (id : String) (row : Materialization) : Call → Prop
  | .store (.publish p) => p.materializationId = id
  | .materialization (.reserve r) => r.materializationId = id ∨
      (r.pipelineVersionId = row.pipelineVersionId ∧ r.sourceFingerprint = row.sourceFingerprint)
  | .materialization (.markRunning marked _) => marked = id
  | .materialization (.markReconciling marked _) => marked = id
  | .materialization (.markMaterialized marked _ _ _) => marked = id
  | .materialization (.markFailed marked _ _) => marked = id
  | _ => False

/-- The caller has the row's lease and, to reserve it again, its id and query. -/
def HoldsLease (id : String) (row : Materialization) : Call → Prop
  | .store (.publish p) => p.leaseGeneration = row.leaseGeneration
  | .materialization (.reserve r) => r.materializationId = id ∧
      r.clickhouseQueryId = row.clickhouseQueryId ∧ r.leaseGeneration = row.leaseGeneration
  | .materialization (.markRunning _ lease) => lease = row.leaseGeneration
  | .materialization (.markReconciling _ lease) => lease = row.leaseGeneration
  | .materialization (.markMaterialized _ lease _ _) => lease = row.leaseGeneration
  | .materialization (.markFailed _ lease _) => lease = row.leaseGeneration
  | _ => False

/-- A call that did nothing says so. -/
def Declined : Answer → Prop
  | .done done => done = false
  | .store (.published result) => result.created = false
  | .store _ => False

section
variable {env : Deployment} {snapshot tables tables' : Tables} {log : List (Call × Answer)}
  {id : String} {row : Materialization} {answer : Answer}

/-- A call that moves a row is made by its lease holder. -/
theorem holdsLease_of_move {call : MaterializationCall} {moved : String} {row row' : Materialization}
    (h : RowMove call moved row row') : HoldsLease moved row (.materialization call) := by
  cases h with
  | retried hquery hlease => exact ⟨rfl, hquery.symm, hlease.symm⟩
  | running _ => exact rfl
  | reconciling _ => exact rfl
  | materialized _ => exact rfl
  | failed _ => exact rfl

/-- The row that a call moves is the one it addresses. -/
theorem moved_addressed {call : MaterializationCall} {moved : String}
    {found row' : Materialization} (h : RowsKept tables log)
    (hrow : tables.db.materializations id = some row)
    (haddresses : Addresses id row (.materialization call)) (hmove : RowMove call moved found row')
    (hindex : ∀ r, call = .reserve r → tables.index.fingerprints
      (r.pipelineVersionId, r.sourceFingerprint) = some moved) : moved = id := by
  cases hmove with
  | retried _ _ =>
      rcases haddresses with hid | ⟨hversion, hfingerprint⟩
      · exact hid
      · have hclaimed := h.claimed id row hrow
        rw [← hversion, ← hfingerprint, hindex _ rfl] at hclaimed
        exact Option.some.inj hclaimed
  | running _ => exact haddresses
  | reconciling _ => exact haddresses
  | materialized _ => exact haddresses
  | failed _ => exact haddresses

/-- A caller without the row's lease leaves the row alone, and is told so. -/
theorem RowsKept.stale {call : Call} (h : RowsKept tables log)
    (hrow : tables.db.materializations id = some row) (haddresses : Addresses id row call)
    (hstale : ¬ HoldsLease id row call) (heffect : Effect env snapshot tables call answer tables') :
    Declined answer ∧ tables'.db.materializations id = some row := by
  cases heffect with
  | store hout =>
      cases hout with
      | publishedBefore hold => exact ⟨hold, hrow⟩
      | published hnew =>
          obtain ⟨found, hfound, -, hlease, -⟩ := hnew.row
          rw [show _ = id from haddresses, hrow] at hfound
          cases hfound
          exact absurd hlease.symm hstale
      | _ => exact haddresses.elim
  | materialization hstep =>
      cases hstep with
      | missed => exact ⟨rfl, hrow⟩
      | inserted hnew =>
          -- a first reservation has found both the id and the fingerprint free
          rcases haddresses with hid | ⟨hversion, hfingerprint⟩
          · have hfresh := hnew.fresh
            rw [hid, hrow] at hfresh
            cases hfresh
          · have hclaimed := h.claimed id row hrow
            rw [← hversion, ← hfingerprint, hnew.unclaimed] at hclaimed
            cases hclaimed
      | moved hfound hmove hindex =>
          cases moved_addressed h hrow haddresses hmove hindex
          rw [hrow] at hfound
          cases hfound
          exact absurd (holdsLease_of_move hmove) hstale
  | recovery _ => exact haddresses.elim

end

/-! ## The law -/

/-- Of a row that has its published revision, a step changes the number of retries at most. -/
theorem RowChange.frozen {before after : Option Materialization} {row : Materialization}
    (h : RowChange before after) (hbefore : before = some row) (hstatus : row.status = .published) :
    ∃ row', after = some row' ∧ row' = { row with retryCount := row'.retryCount } := by
  cases h with
  | same => exact ⟨row, hbefore, rfl⟩
  | inserted _ _ => cases hbefore
  | moved hmove =>
      cases hbefore
      refine ⟨_, rfl, ?_⟩
      rw [hmove.of_published hstatus]
  | published hmaterialized _ =>
      cases hbefore
      rw [hstatus] at hmaterialized
      cases hmaterialized

/-- So does a whole run. -/
theorem frozen_steps {env : Deployment} {c c' : Config Tables Call Answer} {id : String}
    {row : Materialization} (h : Steps (workflow env) c c')
    (hrow : c.db.db.materializations id = some row) (hstatus : row.status = .published) :
    ∃ row', c'.db.db.materializations id = some row' ∧
      row' = { row with retryCount := row'.retryCount } := by
  induction h with
  | refl => exact ⟨row, hrow, rfl⟩
  | tail _ hstep ih =>
      obtain ⟨middle, hmiddle, hsame⟩ := ih
      have hpublished : middle.status = .published := by
        rw [hsame]
        exact hstatus
      obtain ⟨row', hrow', hsame'⟩ := (step_change hstep id).frozen hmiddle hpublished
      refine ⟨row', hrow', hsame'.trans ?_⟩
      rw [hsame]

/-- The materialization rows after every run that starts without any.

No two rows have a fingerprint in common; a row's published revision is set once, from a
materialized row, and from then on only its retries are counted; a caller without the row's
lease does nothing to it and is told so, or the call raises; and a revision is published with
the count and the checksum that were recorded last. -/
theorem materialization_law (env : Deployment) (tables : Tables)
    (hrows : ∀ id, tables.db.materializations id = none) {c : Config Tables Call Answer}
    (h : Steps (workflow env) (Config.start tables) c) :
    (∀ id id' row row', c.db.db.materializations id = some row →
      c.db.db.materializations id' = some row' →
      row.pipelineVersionId = row'.pipelineVersionId →
      row.sourceFingerprint = row'.sourceFingerprint → id = id') ∧
    (∀ c' id row row', Step (workflow env) c c' → c.db.db.materializations id = some row →
      c'.db.db.materializations id = some row' →
      row'.publishedRevision ≠ row.publishedRevision →
      row.status = .materialized ∧ row.publishedRevision = none) ∧
    (∀ c' id row revision, Steps (workflow env) c c' → c.db.db.materializations id = some row →
      row.publishedRevision = some revision →
      ∃ row', c'.db.db.materializations id = some row' ∧
        row' = { row with retryCount := row'.retryCount }) ∧
    (∀ snapshot call id row tables' answer, c.db.db.materializations id = some row →
      Addresses id row call → ¬ HoldsLease id row call →
      execCall env snapshot c.db call = .ok (tables', answer) →
      Declined answer ∧ tables'.db.materializations id = some row) ∧
    Backed c.log := by
  have hkept : RowsKept c.db c.log := Steps.induct (rowsKept_keeps env) (rowsKept_start hrows) h
  refine ⟨?_, ?_, ?_, ?_, hkept.backed⟩
  · intro id id' row row' hrow hrow' hversion hfingerprint
    have hclaimed := hkept.claimed id row hrow
    rw [hversion, hfingerprint, hkept.claimed id' row' hrow'] at hclaimed
    exact (Option.some.inj hclaimed).symm
  · intro c' id row row' hstep hrow hrow' hchanged
    have hchange := step_change hstep id
    rw [hrow, hrow'] at hchange
    cases hchange with
    | same => exact absurd rfl hchanged
    | moved hmove => exact absurd hmove.publishedRevision hchanged
    | published hstatus hnone => exact ⟨hstatus, hnone⟩
  · intro c' id row revision hsteps hrow hrevision
    have hstatus := (hkept.published id row hrow).mp (by rw [hrevision]; rfl)
    exact frozen_steps hsteps hrow hstatus
  · intro snapshot call id row tables' answer hrow haddresses hstale hexec
    exact hkept.stale hrow haddresses hstale (execCall_effect hexec)

/-! ## A life -/

def ordersReservation : Reservation where
  materializationId := "rtm_1"
  pipelineVersionId := "pv1"
  boundary := ordersBoundary
  sourceFingerprint := ordersPublication.sourceFingerprint
  dimensionVersionIds := .empty
  clickhouseQueryId := "q1"
  leaseGeneration := 1

/-- The store of `orders` before anything is reserved. -/
def unreserved : Tables := ⟨{ ordersDb with materializations := fun _ => none }, {}⟩

/-- The row is reserved, run, materialized twice and published; a second reservation and a late
worker follow. -/
def ordersLife : List Call :=
  [.materialization (.reserve ordersReservation),
    .materialization (.markRunning "rtm_1" 1),
    .materialization (.markMaterialized "rtm_1" 1 9 "c0"),
    .materialization (.markMaterialized "rtm_1" 1 10 "c1"),
    .store (.publish ordersPublication),
    .materialization (.reserve ordersReservation),
    .materialization (.markRunning "rtm_1" 1)]

/-- Publishing it leaves the row as it was published, but for a retry. -/
theorem materialization_law_orders :
    (served (workflow ordersEnv) unreserved ordersLife).db.db.materializations "rtm_1" =
        some { ordersReservation.row with
          status := .published, publishedRevision := some 1, targetRowCount := some 10,
          targetChecksum := some "c1", retryCount := 1 } ∧
      Backed (served (workflow ordersEnv) unreserved ordersLife).log :=
  ⟨by decide +kernel,
    (materialization_law ordersEnv unreserved (fun _ => rfl)
      (served_steps (workflow ordersEnv) unreserved ordersLife)).2.2.2.2⟩

end AskLake.Realtime

/-
# `AskLake.Realtime.ReceiptLedger` — what the contiguous watermark promises

The ledger keeps one row per audited range, and three watermarks per partition:

    last_applied ≤ last_contiguously_received ≤ last_observed

A contiguous audit sets the middle one to the end of its range, when the value
there is the one the caller expects and not below what was applied.  Nothing in
that compare-and-set relates the *start* of the range to the watermark, so that
an audit may leave a gap behind, or move the watermark back.

`receipts_lawful_iff` says exactly which calls keep the law of the ledger: the
watermark never goes down, and every offset named at or below it was received or
resolved by a contiguous audit.
-/
import AskLake.Lib.Run
import AskLake.Realtime.Materialization
import AskLake.Realtime.Receipt

namespace AskLake.Realtime

open AskLake.Lib AskLake.Python

/-! ## `save_audit` -/

structure ReceiptKey where
  pipelineVersionId : String
  topic : String
  partition : Int
  fromOffsetInclusive : Int
  toOffsetInclusive : Int
  deriving DecidableEq

/-- `realtime_partition_receipt_ranges`; `verified` is `verified_at IS NOT NULL`. -/
structure ReceiptRange where
  expectedPositionCount : Nat
  rawPositionCount : Nat
  expectedPositionsHash : String
  rawOrResolvedPositionsHash : String
  status : ReceiptStatus
  verified : Bool
  deriving DecidableEq

structure Ledger where
  receipts : Table ReceiptKey ReceiptRange := fun _ => none
  checkpoints : Checkpoints := fun _ => none

def ReceiptAudit.receiptKey (audit : ReceiptAudit) (pipelineVersionId : String) : ReceiptKey :=
  ⟨pipelineVersionId, audit.topic, audit.partition, audit.fromOffsetInclusive,
    audit.toOffsetInclusive⟩

def ReceiptAudit.checkpointKey (audit : ReceiptAudit) (pipelineVersionId : String) :
    CheckpointKey :=
  ⟨pipelineVersionId, audit.topic, audit.partition⟩

def ReceiptAudit.row (audit : ReceiptAudit) : ReceiptRange where
  expectedPositionCount := audit.expectedOffsets.length
  rawPositionCount := audit.rawOffsets.length
  expectedPositionsHash := audit.expectedPositionsHash
  rawOrResolvedPositionsHash := audit.rawOrResolvedPositionsHash
  status := audit.status
  verified := decide (audit.status = .contiguous)

/-- The CHECK constraints of the table. -/
def checkReceipt (key : ReceiptKey) (row : ReceiptRange) : Except Error Unit := do
  rejectIf (key.partition < 0) (.integrity "ck_realtime_receipts_partition")
  rejectIf (key.fromOffsetInclusive < 0 ∨ key.toOffsetInclusive < key.fromOffsetInclusive)
    (.integrity "ck_realtime_receipts_offset_range")
  rejectIf (row.expectedPositionCount < row.rawPositionCount)
    (.integrity "ck_realtime_receipts_position_counts")
  rejectIf (row.status = .contiguous ∧
      (row.verified = false ∨ row.expectedPositionsHash ≠ row.rawOrResolvedPositionsHash))
    (.integrity "ck_realtime_receipts_contiguous_evidence")

/-- `INSERT … ON CONFLICT DO UPDATE SET last_observed_offset = GREATEST(…)` -/
def observe (row : Option Checkpoint) (observed : Int) : Checkpoint :=
  match row with
  | some row => { row with lastObservedOffset := max row.lastObservedOffset observed }
  | none => { lastObservedOffset := observed }

/-- `ReceiptRepository.save_audit`: the flag says whether the watermark moved. -/
def saveAudit (ledger : Ledger) (pipelineVersionId : String) (audit : ReceiptAudit)
    (expectedPreviousContiguous : Int) : Except Error (Ledger × Bool) := do
  checkReceipt (audit.receiptKey pipelineVersionId) audit.row
  let key := audit.checkpointKey pipelineVersionId
  let row := observe (ledger.checkpoints key) audit.toOffsetInclusive
  let saved : Ledger :=
    { receipts := ledger.receipts.put (audit.receiptKey pipelineVersionId) audit.row
      checkpoints := ledger.checkpoints.put key row }
  match audit.status, audit.advanceToOffset with
  | .contiguous, some advance =>
      if row.lastContiguouslyReceivedOffset = expectedPreviousContiguous ∧
          row.lastAppliedOffset ≤ advance then
        let moved : Checkpoint := { row with lastContiguouslyReceivedOffset := advance }
        pure ({ saved with checkpoints := saved.checkpoints.put key moved }, true)
      else pure (saved, false)
  | _, _ => pure (saved, false)

/-! ## Runs -/

inductive LedgerCall
  | save (pipelineVersionId : String) (expected raw resolved : List SourcePosition)
      (maxPositions expectedPreviousContiguous : Int)
  | advance (pipelineVersionId : String) (boundary : SourceBoundary) (leaseGeneration : Nat)

/-- The ledger, and the audits it saved, each with its partition. -/
abbrev Audits := List (CheckpointKey × ReceiptAudit)

/-- The audit a call saves. -/
def savedAudit (rt : Runtime) (ledger : Ledger) (pipelineVersionId : String)
    (expected raw resolved : List SourcePosition) (maxPositions expectedPreviousContiguous : Int) :
    Except Error (Ledger × ReceiptAudit) := do
  let audit ← auditReceiptRange rt expected raw resolved maxPositions
  let (ledger', _) ← saveAudit ledger pipelineVersionId audit expectedPreviousContiguous
  pure (ledger', audit)

/-- One call; a call that raises is rolled back. -/
def ledgerStep (rt : Runtime) (s : Ledger × Audits) : LedgerCall → Ledger × Audits
  | .save pipelineVersionId expected raw resolved maxPositions expectedPreviousContiguous =>
      match savedAudit rt s.1 pipelineVersionId expected raw resolved maxPositions
          expectedPreviousContiguous with
      | .ok (ledger, audit) => (ledger, s.2 ++ [(audit.checkpointKey pipelineVersionId, audit)])
      | .error _ => s
  | .advance pipelineVersionId boundary leaseGeneration =>
      match advanceCheckpoints s.1.checkpoints pipelineVersionId boundary leaseGeneration with
      | .ok checkpoints => ({ s.1 with checkpoints := checkpoints }, s.2)
      | .error _ => s

/-! ## The law of the ledger -/

/-- `last_contiguously_received_offset`, or its default where the row is missing. -/
def contiguous (checkpoints : Checkpoints) (key : CheckpointKey) : Int :=
  (checkpoints key).elim (-1) Checkpoint.lastContiguouslyReceivedOffset

/-- The offsets that were ever named as expected on a partition. -/
def namedOffsets (audits : Audits) (key : CheckpointKey) : List Int :=
  audits.flatMap fun entry => if entry.1 = key then entry.2.expectedOffsets else []

/-- The offsets that a contiguous audit found received or resolved. -/
def coveredOffsets (audits : Audits) (key : CheckpointKey) : List Int :=
  audits.flatMap fun entry =>
    if entry.1 = key ∧ entry.2.status = .contiguous then
      entry.2.rawOffsets ++ entry.2.resolvedOffsets
    else []

/-- The order of the three watermarks, on every row. -/
def Ordered (checkpoints : Checkpoints) : Prop :=
  ∀ key row, checkpoints key = some row →
    row.lastAppliedOffset ≤ row.lastContiguouslyReceivedOffset ∧
      row.lastContiguouslyReceivedOffset ≤ row.lastObservedOffset

structure SoundLedger (s : Ledger × Audits) : Prop where
  ordered : Ordered s.1.checkpoints
  covered : ∀ key, ∀ o ∈ namedOffsets s.2 key, o ≤ contiguous s.1.checkpoints key →
    o ∈ coveredOffsets s.2 key

/-- What a call ought to do: no watermark goes down, and the ledger is sound
afterwards. -/
def Lawful (rt : Runtime) (s : Ledger × Audits) (call : LedgerCall) : Prop :=
  (∀ key, contiguous s.1.checkpoints key ≤
    contiguous (ledgerStep rt s call).1.checkpoints key) ∧ SoundLedger (ledgerStep rt s call)

/-- The compare-and-set of an audit finds the row as its caller expects it. -/
def MovesWatermark (checkpoints : Checkpoints) (key : CheckpointKey) (audit : ReceiptAudit)
    (expectedPreviousContiguous : Int) : Prop :=
  contiguous checkpoints key = expectedPreviousContiguous ∧
    lastApplied checkpoints key ≤ audit.toOffsetInclusive

instance (checkpoints : Checkpoints) (key : CheckpointKey) (audit : ReceiptAudit) (previous : Int) :
    Decidable (MovesWatermark checkpoints key audit previous) :=
  inferInstanceAs (Decidable (_ ∧ _))

/-- An audit that keeps the law.  A contiguous one that moves the watermark moves
it up, over no offset that an earlier audit named and none has covered; a blocked
one names no such offset at or below the watermark. -/
def Fits (s : Ledger × Audits) (key : CheckpointKey) (audit : ReceiptAudit)
    (expectedPreviousContiguous : Int) : Prop :=
  match audit.status with
  | .contiguous =>
      MovesWatermark s.1.checkpoints key audit expectedPreviousContiguous →
        contiguous s.1.checkpoints key ≤ audit.toOffsetInclusive ∧
          ∀ o ∈ namedOffsets s.2 key, contiguous s.1.checkpoints key < o →
            o ≤ audit.toOffsetInclusive → o ∈ coveredOffsets s.2 key ∨ o ∈ audit.expectedOffsets
  | .blocked =>
      ∀ o ∈ audit.expectedOffsets, o ≤ contiguous s.1.checkpoints key →
        o ∈ coveredOffsets s.2 key

instance (s : Ledger × Audits) (key : CheckpointKey) (audit : ReceiptAudit) (previous : Int) :
    Decidable (Fits s key audit previous) := by
  unfold Fits
  split <;> infer_instance

/-- A call whose audit, if the ledger takes it, keeps the law. -/
def Admissible (rt : Runtime) (s : Ledger × Audits) : LedgerCall → Prop
  | .save pipelineVersionId expected raw resolved maxPositions expectedPreviousContiguous =>
      ∀ audit ∈ (auditReceiptRange rt expected raw resolved maxPositions).toOption,
        accepted (checkReceipt (audit.receiptKey pipelineVersionId) audit.row) = true →
          Fits s (audit.checkpointKey pipelineVersionId) audit expectedPreviousContiguous
  | .advance _ _ _ => True

instance (rt : Runtime) (s : Ledger × Audits) (call : LedgerCall) :
    Decidable (Admissible rt s call) :=
  match call with
  | .save .. => inferInstanceAs (Decidable (∀ _ ∈ Except.toOption _, _ → _))
  | .advance .. => .isTrue trivial

/-! ## What an audit does to the watermarks -/

/-- The checkpoint rows after an audit. -/
structure Saved (checkpoints : Checkpoints) (key : CheckpointKey) (audit : ReceiptAudit)
    (expectedPreviousContiguous : Int) (checkpoints' : Checkpoints) : Prop where
  other : ∀ k, k ≠ key → checkpoints' k = checkpoints k
  applied : lastApplied checkpoints' key = lastApplied checkpoints key
  observed : ∃ row', checkpoints' key = some row' ∧
    audit.toOffsetInclusive ≤ row'.lastObservedOffset ∧
    ∀ row, checkpoints key = some row → row.lastObservedOffset ≤ row'.lastObservedOffset
  moved : audit.status = .contiguous →
    MovesWatermark checkpoints key audit expectedPreviousContiguous →
      contiguous checkpoints' key = audit.toOffsetInclusive
  stayed : ¬ (audit.status = .contiguous ∧
    MovesWatermark checkpoints key audit expectedPreviousContiguous) →
      contiguous checkpoints' key = contiguous checkpoints key

section
variable {rt : Runtime} {ledger ledger' : Ledger} {pipelineVersionId : String}
  {audit : ReceiptAudit} {expectedPreviousContiguous : Int} {flag : Bool}

theorem observe_contiguous (checkpoints : Checkpoints) (key : CheckpointKey) (observed : Int) :
    (observe (checkpoints key) observed).lastContiguouslyReceivedOffset =
      contiguous checkpoints key := by
  unfold observe contiguous
  cases checkpoints key <;> rfl

theorem observe_applied (checkpoints : Checkpoints) (key : CheckpointKey) (observed : Int) :
    (observe (checkpoints key) observed).lastAppliedOffset = lastApplied checkpoints key := by
  unfold observe lastApplied
  cases checkpoints key <;> rfl

theorem observe_observed (row : Option Checkpoint) (observed : Int) :
    observed ≤ (observe row observed).lastObservedOffset ∧
      ∀ r, row = some r → r.lastObservedOffset ≤ (observe row observed).lastObservedOffset := by
  cases row with
  | none => exact ⟨le_refl _, fun _ h => nomatch h⟩
  | some r =>
      refine ⟨le_max_right .., ?_⟩
      rintro _ ⟨⟩
      exact le_max_left ..

/-- An audit of the ledger either moves the watermark or leaves it. -/
theorem saveAudit_saved (haudit : Audited audit)
    (h : saveAudit ledger pipelineVersionId audit expectedPreviousContiguous = .ok (ledger', flag)) :
    accepted (checkReceipt (audit.receiptKey pipelineVersionId) audit.row) = true ∧
      Saved ledger.checkpoints (audit.checkpointKey pipelineVersionId) audit
        expectedPreviousContiguous ledger'.checkpoints := by
  obtain ⟨_, hcheck, h⟩ := bind_eq_ok.mp h
  refine ⟨accepted_iff.mpr ⟨_, hcheck⟩, ?_⟩
  have happlied := observe_applied ledger.checkpoints (audit.checkpointKey pipelineVersionId)
    audit.toOffsetInclusive
  have hcontiguous := observe_contiguous ledger.checkpoints (audit.checkpointKey pipelineVersionId)
    audit.toOffsetInclusive
  obtain ⟨hto, hobserved⟩ := observe_observed
    (ledger.checkpoints (audit.checkpointKey pipelineVersionId)) audit.toOffsetInclusive
  simp only at h
  generalize observe (ledger.checkpoints (audit.checkpointKey pipelineVersionId))
    audit.toOffsetInclusive = row at h happlied hcontiguous hto hobserved
  generalize audit.checkpointKey pipelineVersionId = key at h happlied hcontiguous hobserved ⊢
  -- the rows, when the watermark stays
  have hstay : ¬ (audit.status = .contiguous ∧
      MovesWatermark ledger.checkpoints key audit expectedPreviousContiguous) →
      Saved ledger.checkpoints key audit expectedPreviousContiguous
        (ledger.checkpoints.put key row) := by
    intro hno
    refine ⟨fun k hk => Table.put_ne _ hk _, ?_, ⟨row, Table.put_self .., hto, hobserved⟩,
      fun hstatus hmoves => absurd ⟨hstatus, hmoves⟩ hno, fun _ => ?_⟩
    · rw [← happlied, lastApplied, Table.put_self]
      rfl
    · rw [← hcontiguous, contiguous, Table.put_self]
      rfl
  have hmoves_iff : row.lastContiguouslyReceivedOffset = expectedPreviousContiguous ∧
      row.lastAppliedOffset ≤ audit.toOffsetInclusive ↔
        MovesWatermark ledger.checkpoints key audit expectedPreviousContiguous := by
    rw [hcontiguous, happlied, MovesWatermark]
  split at h
  · rename_i advance hstatus hadvance
    cases Option.some.inj ((haudit.advances hstatus).symm.trans hadvance)
    split at h
    · rename_i hcas
      cases pure_eq_ok.mp h
      show Saved _ key audit expectedPreviousContiguous ((ledger.checkpoints.put key row).put key
        { row with lastContiguouslyReceivedOffset := audit.toOffsetInclusive })
      refine ⟨fun k hk => ?_, ?_, ⟨_, Table.put_self .., hto, hobserved⟩, fun _ _ => ?_,
        fun hno => absurd ⟨hstatus, hmoves_iff.mp hcas⟩ hno⟩
      · rw [Table.put_ne _ hk, Table.put_ne _ hk]
      · rw [← happlied, lastApplied, Table.put_self]
        rfl
      · rw [contiguous, Table.put_self]
        rfl
    · rename_i hcas
      cases pure_eq_ok.mp h
      exact hstay fun hboth => hcas (hmoves_iff.mpr hboth.2)
  · rename_i hother
    cases pure_eq_ok.mp h
    refine hstay fun hboth => ?_
    exact hother _ hboth.1 (haudit.advances hboth.1)

/-- The ledger takes every audit that satisfies its constraints. -/
theorem saveAudit_accepted
    (h : accepted (checkReceipt (audit.receiptKey pipelineVersionId) audit.row) = true) :
    ∃ ledger' flag,
      saveAudit ledger pipelineVersionId audit expectedPreviousContiguous = .ok (ledger', flag) := by
  obtain ⟨_, hcheck⟩ := accepted_iff.mp h
  rw [saveAudit, hcheck]
  simp only [bind, Except.bind]
  split
  · split
    · exact ⟨_, _, rfl⟩
    · exact ⟨_, _, rfl⟩
  · exact ⟨_, _, rfl⟩

end

/-- What a call does: nothing, an audit that is saved, or an advance of the
applied offsets. -/
theorem ledgerStep_save {rt : Runtime} {s : Ledger × Audits} {pipelineVersionId : String}
    {expected raw resolved : List SourcePosition} {maxPositions expectedPreviousContiguous : Int} :
    (ledgerStep rt s (.save pipelineVersionId expected raw resolved maxPositions
        expectedPreviousContiguous) = s ∧
      ∀ audit ∈ (auditReceiptRange rt expected raw resolved maxPositions).toOption,
        accepted (checkReceipt (audit.receiptKey pipelineVersionId) audit.row) = false) ∨
    ∃ audit ledger, auditReceiptRange rt expected raw resolved maxPositions = .ok audit ∧
      accepted (checkReceipt (audit.receiptKey pipelineVersionId) audit.row) = true ∧
      Saved s.1.checkpoints (audit.checkpointKey pipelineVersionId) audit
        expectedPreviousContiguous ledger.checkpoints ∧
      ledgerStep rt s (.save pipelineVersionId expected raw resolved maxPositions
        expectedPreviousContiguous) =
          (ledger, s.2 ++ [(audit.checkpointKey pipelineVersionId, audit)]) := by
  rcases haudit : auditReceiptRange rt expected raw resolved maxPositions with e | audit
  · refine Or.inl ⟨?_, fun _ h => nomatch h⟩
    rw [ledgerStep, savedAudit, haudit]
    rfl
  · by_cases hcheck :
        accepted (checkReceipt (audit.receiptKey pipelineVersionId) audit.row) = true
    · obtain ⟨ledger', flag, hsave⟩ := @saveAudit_accepted s.1 pipelineVersionId audit
        expectedPreviousContiguous hcheck
      refine Or.inr ⟨audit, ledger', rfl, hcheck,
        (saveAudit_saved (auditReceiptRange_audited haudit) hsave).2, ?_⟩
      have hsaved : savedAudit rt s.1 pipelineVersionId expected raw resolved maxPositions
          expectedPreviousContiguous = .ok (ledger', audit) :=
        bind_eq_ok.mpr ⟨audit, haudit, bind_eq_ok.mpr ⟨_, hsave, rfl⟩⟩
      rw [ledgerStep, hsaved]
    · refine Or.inl ⟨?_, ?_⟩
      · rw [ledgerStep]
        split
        · rename_i ledger' audit' hsaved
          obtain ⟨_, haudit', hsaved⟩ := bind_eq_ok.mp hsaved
          obtain ⟨⟨_, _⟩, hsave, -⟩ := bind_eq_ok.mp hsaved
          cases haudit.symm.trans haudit'
          exact absurd (saveAudit_saved (auditReceiptRange_audited haudit) hsave).1 hcheck
        · rfl
      · rintro _ ⟨⟩
        simpa using hcheck

/-! ## What an advance does to the watermarks -/

/-- An advance stays below the watermark and leaves it where it is. -/
theorem advanceAll_ordered {pipelineVersionId : String} {leaseGeneration : Nat}
    {items : List PartitionBoundary} {checkpoints checkpoints' : Checkpoints}
    (h : advanceAll pipelineVersionId leaseGeneration checkpoints items = .ok checkpoints')
    (hordered : Ordered checkpoints) :
    (∀ key, contiguous checkpoints' key = contiguous checkpoints key) ∧ Ordered checkpoints' := by
  induction items generalizing checkpoints with
  | nil =>
      cases h
      exact ⟨fun _ => rfl, hordered⟩
  | cons item rest ih =>
      obtain ⟨middle, hitem, hrest⟩ := bind_eq_ok.mp h
      obtain ⟨row, hrow, hcas, rfl⟩ := advancePartition_eq_ok.mp hitem
      have hmiddle : Ordered (checkpoints.put (item.checkpointKey pipelineVersionId)
          { row with lastAppliedOffset := item.toOffsetInclusive }) := by
        intro key r hr
        by_cases hkey : key = item.checkpointKey pipelineVersionId
        · subst hkey
          rw [Table.put_self] at hr
          cases hr
          exact ⟨(casMatches_iff.mp hcas).2.1, (hordered _ row hrow).2⟩
        · rw [Table.put_ne _ hkey] at hr
          exact hordered key r hr
      obtain ⟨hsame, hlast⟩ := ih hrest hmiddle
      refine ⟨fun key => (hsame key).trans ?_, hlast⟩
      by_cases hkey : key = item.checkpointKey pipelineVersionId
      · subst hkey
        rw [contiguous, Table.put_self, contiguous, hrow]
        rfl
      · rw [contiguous, Table.put_ne _ hkey, contiguous]

/-! ## The law, call by call -/

section
variable {rt : Runtime} {s : Ledger × Audits} {key : CheckpointKey} {audit : ReceiptAudit}
  {expectedPreviousContiguous : Int} {ledger : Ledger}

theorem namedOffsets_append (audits : Audits) (k : CheckpointKey) :
    namedOffsets (audits ++ [(key, audit)]) k =
      namedOffsets audits k ++ if key = k then audit.expectedOffsets else [] := by
  simp [namedOffsets]

theorem coveredOffsets_append (audits : Audits) (k : CheckpointKey) :
    coveredOffsets (audits ++ [(key, audit)]) k = coveredOffsets audits k ++
      if key = k ∧ audit.status = .contiguous then audit.rawOffsets ++ audit.resolvedOffsets
      else [] := by
  simp [coveredOffsets]

theorem Saved.ordered (haudit : Audited audit) (h : Ordered s.1.checkpoints)
    (hsaved : Saved s.1.checkpoints key audit expectedPreviousContiguous ledger.checkpoints) :
    Ordered ledger.checkpoints := by
  intro k row' hrow'
  by_cases hk : k = key
  · subst hk
    obtain ⟨_, hnew, hto, hobserved⟩ := hsaved.observed
    cases Option.some.inj (hrow'.symm.trans hnew)
    have happlied : row'.lastAppliedOffset = lastApplied s.1.checkpoints k := by
      rw [← hsaved.applied, lastApplied, hrow']
      rfl
    have hcontiguous : row'.lastContiguouslyReceivedOffset = contiguous ledger.checkpoints k := by
      rw [contiguous, hrow']
      rfl
    have hfloor : 0 ≤ audit.toOffsetInclusive := haudit.nonneg _ haudit.ends
    by_cases hmoves : audit.status = .contiguous ∧
        MovesWatermark s.1.checkpoints k audit expectedPreviousContiguous
    · rw [hcontiguous, happlied, hsaved.moved hmoves.1 hmoves.2]
      exact ⟨hmoves.2.2, hto⟩
    · rw [hcontiguous, happlied, hsaved.stayed hmoves]
      cases hold : s.1.checkpoints k with
      | none =>
          rw [lastApplied, contiguous, hold]
          exact ⟨le_refl _, by simp only [Option.elim_none]; omega⟩
      | some row =>
          obtain ⟨hle, hle'⟩ := h k row hold
          rw [lastApplied, contiguous, hold]
          exact ⟨hle, hle'.trans (hobserved row hold)⟩
  · exact h k row' ((hsaved.other k hk).symm.trans hrow')

/-- A saved audit keeps the law exactly when it fits. -/
theorem Saved.lawful_iff (haudit : Audited audit) (h : SoundLedger s)
    (hsaved : Saved s.1.checkpoints key audit expectedPreviousContiguous ledger.checkpoints) :
    ((∀ k, contiguous s.1.checkpoints k ≤ contiguous ledger.checkpoints k) ∧
        SoundLedger (ledger, s.2 ++ [(key, audit)])) ↔
      Fits s key audit expectedPreviousContiguous := by
  have hother : ∀ k, k ≠ key →
      contiguous ledger.checkpoints k = contiguous s.1.checkpoints k := by
    intro k hk
    rw [contiguous, hsaved.other k hk, contiguous]
  have hnamed : ∀ o, o ∈ namedOffsets (s.2 ++ [(key, audit)]) key ↔
      o ∈ namedOffsets s.2 key ∨ o ∈ audit.expectedOffsets := by
    intro o
    rw [namedOffsets_append, if_pos rfl, List.mem_append]
  -- the law on the audit's own partition is all there is to it
  have hlaw : ((∀ k, contiguous s.1.checkpoints k ≤ contiguous ledger.checkpoints k) ∧
      SoundLedger (ledger, s.2 ++ [(key, audit)])) ↔
        contiguous s.1.checkpoints key ≤ contiguous ledger.checkpoints key ∧
          ∀ o, o ∈ namedOffsets s.2 key ∨ o ∈ audit.expectedOffsets →
            o ≤ contiguous ledger.checkpoints key →
              o ∈ coveredOffsets (s.2 ++ [(key, audit)]) key := by
    constructor
    · rintro ⟨hmono, hsound⟩
      exact ⟨hmono key, fun o ho hle => hsound.covered key o ((hnamed o).mpr ho) hle⟩
    · rintro ⟨hmono, hcovered⟩
      refine ⟨fun k => ?_, hsaved.ordered haudit h.ordered, fun k o ho hle => ?_⟩
      · by_cases hk : k = key
        · exact hk ▸ hmono
        · exact (hother k hk).ge
      · by_cases hk : k = key
        · subst hk
          exact hcovered o ((hnamed o).mp ho) hle
        · rw [namedOffsets_append, if_neg (Ne.symm hk), List.append_nil] at ho
          rw [coveredOffsets_append, if_neg fun hboth => hk hboth.1.symm, List.append_nil]
          exact h.covered k o ho (hother k hk ▸ hle)
  rw [hlaw]
  cases hstatus : audit.status with
  | contiguous =>
      have hcovers : ∀ o, o ∈ coveredOffsets (s.2 ++ [(key, audit)]) key ↔
          o ∈ coveredOffsets s.2 key ∨ o ∈ audit.expectedOffsets := by
        intro o
        rw [coveredOffsets_append, if_pos ⟨rfl, hstatus⟩, List.mem_append, List.mem_append,
          haudit.exact hstatus o]
      simp only [Fits, hstatus, hcovers]
      by_cases hmoves : MovesWatermark s.1.checkpoints key audit expectedPreviousContiguous
      · rw [hsaved.moved hstatus hmoves]
        constructor
        · rintro ⟨hmono, hcovered⟩ -
          exact ⟨hmono, fun o ho _ hle => hcovered o (Or.inl ho) hle⟩
        · intro hfits
          obtain ⟨hmono, hgap⟩ := hfits hmoves
          refine ⟨hmono, fun o ho hle => ?_⟩
          rcases ho with ho | ho
          · rcases le_or_gt o (contiguous s.1.checkpoints key) with hbelow | habove
            · exact Or.inl (h.covered key o ho hbelow)
            · exact hgap o ho habove hle
          · exact Or.inr ho
      · rw [hsaved.stayed fun hboth => hmoves hboth.2]
        refine ⟨fun _ hcontra => absurd hcontra hmoves, fun _ => ⟨le_refl _, fun o ho hle => ?_⟩⟩
        rcases ho with ho | ho
        · exact Or.inl (h.covered key o ho hle)
        · exact Or.inr ho
  | blocked =>
      have hblocked : ¬ audit.status = .contiguous := by
        rw [hstatus]
        decide
      have hcovers : coveredOffsets (s.2 ++ [(key, audit)]) key = coveredOffsets s.2 key := by
        rw [coveredOffsets_append, if_neg fun hboth => hblocked hboth.2, List.append_nil]
      simp only [Fits, hstatus, hcovers]
      rw [hsaved.stayed fun hboth => hblocked hboth.1]
      constructor
      · rintro ⟨-, hcovered⟩ o ho hle
        exact hcovered o (Or.inr ho) hle
      · intro hfits
        refine ⟨le_refl _, fun o ho hle => ?_⟩
        rcases ho with ho | ho
        · exact h.covered key o ho hle
        · exact hfits o ho hle

end

/-- At a sound ledger the lawful calls are the admissible ones. -/
theorem lawful_iff_admissible (rt : Runtime) (s : Ledger × Audits) (call : LedgerCall)
    (h : SoundLedger s) : Lawful rt s call ↔ Admissible rt s call := by
  cases call with
  | save pipelineVersionId expected raw resolved maxPositions expectedPreviousContiguous =>
      rcases @ledgerStep_save rt s pipelineVersionId expected raw resolved maxPositions
          expectedPreviousContiguous with ⟨hsame, hrejected⟩ | ⟨audit, ledger, haudit, hcheck,
            hsaved, hstep⟩
      · rw [Lawful, hsame]
        refine ⟨fun _ audit haudit hcheck => ?_, fun _ => ⟨fun _ => le_refl _, h⟩⟩
        rw [hrejected audit haudit] at hcheck
        exact nomatch hcheck
      · rw [Lawful, hstep, hsaved.lawful_iff (auditReceiptRange_audited haudit) h]
        constructor
        · intro hfits audit' haudit' _
          rw [haudit] at haudit'
          cases haudit'
          exact hfits
        · intro hadmissible
          exact hadmissible audit (by rw [haudit]; rfl) hcheck
  | advance pipelineVersionId boundary leaseGeneration =>
      refine ⟨fun _ => trivial, fun _ => ?_⟩
      rw [Lawful, ledgerStep]
      split
      · rename_i checkpoints hadvance
        obtain ⟨hsame, hordered⟩ := advanceAll_ordered hadvance h.ordered
        refine ⟨fun key => (hsame key).ge, hordered, fun key o ho hle => ?_⟩
        exact h.covered key o ho (hsame key ▸ hle)
      · exact ⟨fun _ => le_refl _, h⟩

/-- The order of the watermarks needs no condition on the calls. -/
theorem ledgerStep_ordered (rt : Runtime) (s : Ledger × Audits) (call : LedgerCall)
    (h : Ordered s.1.checkpoints) : Ordered (ledgerStep rt s call).1.checkpoints := by
  cases call with
  | save pipelineVersionId expected raw resolved maxPositions expectedPreviousContiguous =>
      rcases @ledgerStep_save rt s pipelineVersionId expected raw resolved maxPositions
          expectedPreviousContiguous with ⟨hsame, -⟩ | ⟨audit, ledger, haudit, -, hsaved, hstep⟩
      · rw [hsame]
        exact h
      · rw [hstep]
        exact hsaved.ordered (auditReceiptRange_audited haudit) h
  | advance pipelineVersionId boundary leaseGeneration =>
      rw [ledgerStep]
      split
      · rename_i checkpoints hadvance
        exact (advanceAll_ordered hadvance h).2
      · exact h

theorem ordered_start {ledger : Ledger}
    (hstart : ∀ key row, ledger.checkpoints key = some row → row.lastAppliedOffset = -1 ∧
      row.lastContiguouslyReceivedOffset = -1 ∧ row.lastObservedOffset = -1) :
    Ordered ledger.checkpoints := by
  intro key row hrow
  obtain ⟨happlied, hcontiguous, hobserved⟩ := hstart key row hrow
  omega

/-- Which runs keep the law of the ledger.

From checkpoint rows at `-1`, a run of audits and advances keeps the law at every
step exactly when each of its audits fits: it moves the watermark only up and
over no offset that was named and never covered, and a blocked one names no such
offset at or below the watermark.  The order of the three watermarks holds
throughout every run. -/
theorem receipts_lawful_iff (rt : Runtime) (ledger : Ledger)
    (hstart : ∀ key row, ledger.checkpoints key = some row → row.lastAppliedOffset = -1 ∧
      row.lastContiguouslyReceivedOffset = -1 ∧ row.lastObservedOffset = -1)
    (calls : List LedgerCall) :
    (Along (Lawful rt) (ledgerStep rt) (ledger, []) calls ↔
      Along (Admissible rt) (ledgerStep rt) (ledger, []) calls) ∧
    Always (fun s => Ordered s.1.checkpoints) (ledgerStep rt) (ledger, []) calls := by
  have hordered : Ordered ledger.checkpoints := ordered_start hstart
  refine ⟨along_iff_along (lawful_iff_admissible rt) (fun _ _ _ hlawful => hlawful.2)
    ⟨hordered, fun _ _ ho => nomatch ho⟩, ?_⟩
  exact Always.of_along (P := fun _ _ => True)
    (fun s call h _ => ledgerStep_ordered rt s call h) hordered (along_of_forall fun _ _ => trivial)

/-! ## Two runs on one partition -/

def receiptEnv : Runtime where
  sha256 := fun text =>
    if text = "[0,1,2]" then
      "434026bd98ff2d8a2fb346c89ae9de006d1e2a6862832b6b3cd86e51de36d5c5"
    else if text = "[0]" then
      "d0bca111f8628137adc4c16f123496dcdd1d590d06cb5d9acd68b39fe656fb97"
    else if text = "[3,4]" then
      "8be6d66e9099c68d8feb52ce42478d2153cac2763b784174ae6ae96cd636b596"
    else if text = "[0,1]" then
      "463f2998327eb3a694145e6014444480b2235be84aa6cfd57871cc64f1cd816c"
    else if text = "[2,4]" then
      "f25ed8cd5464710aff6e5d655a575ac273cb9c19d696e53fa13de05db97454ca"
    else ""
  lower := fun text => String.ofList (text.toList.map Char.toLower)
  casefold := fun text => String.ofList (text.toList.map Char.toLower)

def eventsKey : CheckpointKey := ⟨"pv1", "events", 0⟩

def eventsAt (offset : Nat) : SourcePosition :=
  ⟨"events", 0, offset, by decide, le_refl _, Int.natCast_nonneg offset⟩

/-- Two ranges, one after the other, with an advance between them; the second has
a hole at offset 3, which is never expected. -/
def consecutiveCalls : List LedgerCall :=
  [.save "pv1" [eventsAt 0, eventsAt 1] [eventsAt 0, eventsAt 1] [] 10000 (-1),
   .advance "pv1" ⟨[⟨"events", 0, -1, 1, by decide, by decide, by decide⟩]⟩ 0,
   .save "pv1" [eventsAt 2, eventsAt 4] [eventsAt 4] [eventsAt 2] 10000 1]

/-- Consecutive ranges keep the law. -/
theorem receipts_lawful_iff_consecutive :
    Along (Lawful receiptEnv) (ledgerStep receiptEnv) (({} : Ledger), []) consecutiveCalls :=
  (receipts_lawful_iff receiptEnv {} (fun _ _ h => nomatch h) consecutiveCalls).1.mpr
    (by decide +kernel)

/-- A range of which only the first offset was received, then the next range. -/
def gapCalls : List LedgerCall :=
  [.save "pv1" [eventsAt 0, eventsAt 1, eventsAt 2] [eventsAt 0] [] 10000 (-1),
   .save "pv1" [eventsAt 3, eventsAt 4] [eventsAt 3, eventsAt 4] [] 10000 (-1)]

/-- The second audit moves the watermark from -1 to 4, past the offsets 1 and 2,
which were expected and never received. -/
theorem gap_breaks_the_law :
    ¬ Along (Lawful receiptEnv) (ledgerStep receiptEnv) (({} : Ledger), []) gapCalls := by
  rintro ⟨-, ⟨-, hsound⟩, -⟩
  have hnamed : (1 : Int) ∈ namedOffsets
      (play (ledgerStep receiptEnv) (({} : Ledger), []) gapCalls).2 eventsKey := by decide +kernel
  have hbelow : (1 : Int) ≤ contiguous
      (play (ledgerStep receiptEnv) (({} : Ledger), []) gapCalls).1.checkpoints eventsKey := by
    decide +kernel
  have hcovered := hsound.covered eventsKey 1 hnamed hbelow
  exact absurd hcovered (by decide +kernel)

end AskLake.Realtime

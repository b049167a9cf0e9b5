/-
# `AskLake.Realtime.Receipt` — auditing one range of a partition

A receipt audit compares the positions a range is expected to hold with those
that were received raw and those that were resolved otherwise:

    contiguous   received or resolved is exactly what was expected
    blocked      something is missing, or something was not expected
    advance      the last expected offset before the first missing one

`Audited` says of an audit what the ledger relies on: the expected offsets end
at `to_offset_inclusive`, and a contiguous audit advances to there.
-/
import Mathlib.Data.List.Dedup
import Mathlib.Data.Prod.Lex
import Mathlib.Data.String.Basic
import AskLake.Lib.Outcome
import AskLake.Python.Basic
import AskLake.Python.Json

namespace AskLake.Realtime

open AskLake.Lib AskLake.Python

/-! ## Positions -/

/-- `^[A-Za-z0-9][A-Za-z0-9._-]{0,248}$`, in full. -/
def safeTopic (topic : String) : Bool :=
  match topic.toList with
  | [] => false
  | c :: cs =>
      c.isAlphanum && cs.all (fun c => c.isAlphanum || c == '.' || c == '_' || c == '-') &&
        decide (cs.length ≤ 248)

structure SourcePosition where
  topic : String
  partition : Int
  offset : Int
  safe : safeTopic topic = true
  nonneg : 0 ≤ partition ∧ 0 ≤ offset
  deriving DecidableEq

/-- The order the dataclass derives from its fields. -/
def SourcePosition.sortKey (p : SourcePosition) : String ×ₗ Int ×ₗ Int :=
  toLex (p.topic, toLex (p.partition, p.offset))

/-- `sorted(set(items))` -/
def sortedPositions (items : List SourcePosition) : List SourcePosition :=
  items.dedup.insertionSort fun a b => a.sortKey ≤ b.sortKey

/-- `sorted(set(offsets))` -/
def sortedOffsets (offsets : List Int) : List Int :=
  offsets.dedup.insertionSort (· ≤ ·)

/-! ## `audit_receipt_range` -/

inductive ReceiptStatus
  | contiguous
  | blocked
  deriving DecidableEq, Repr

structure ReceiptAudit where
  topic : String
  partition : Int
  fromOffsetInclusive : Int
  toOffsetInclusive : Int
  expectedOffsets : List Int
  rawOffsets : List Int
  resolvedOffsets : List Int
  missingOffsets : List Int
  unexpectedOffsets : List Int
  status : ReceiptStatus
  expectedPositionsHash : String
  rawOrResolvedPositionsHash : String
  advanceToOffset : Option Int
  deriving DecidableEq

/-- `_offset_hash` -/
def offsetHash (rt : Runtime) (offsets : List Int) : String :=
  rt.sha256 (Json.dumps true (.arr ((sortedOffsets offsets).map Json.int)))

/-- The inner function `offsets`, for the partition of the audit. -/
def partitionOffsets (topic : String) (partition : Int) (items : List SourcePosition) :
    Except Error (List Int) := do
  rejectIf (∃ item ∈ sortedPositions items, item.topic ≠ topic ∨ item.partition ≠ partition)
    (.value "one receipt audit may cover only one topic partition")
  pure ((sortedPositions items).map SourcePosition.offset)

/-- The loop over the expected offsets, up to the first missing one. -/
def advanceThrough (actual : List Int) : Option Int → List Int → Option Int
  | advance, [] => advance
  | advance, offset :: rest =>
      if offset ∉ actual then advance else advanceThrough actual (some offset) rest

def auditReceiptRange (rt : Runtime) (expected raw resolved : List SourcePosition)
    (maxPositions : Int) : Except Error ReceiptAudit :=
  match sortedPositions expected with
  | [] => .error (.value "expected read_committed positions cannot be empty")
  | first :: rest => do
      let expectedItems := first :: rest
      rejectIf (maxPositions < expectedItems.length)
        (.value "receipt range exceeds max_positions")
      let expectedOffsets ← partitionOffsets first.topic first.partition expectedItems
      let rawOffsets ← partitionOffsets first.topic first.partition raw
      let resolvedOffsets ← partitionOffsets first.topic first.partition resolved
      let actual := rawOffsets ++ resolvedOffsets
      let missing := sortedOffsets (expectedOffsets.filter fun offset => offset ∉ actual)
      let unexpected := sortedOffsets (actual.filter fun offset => offset ∉ expectedOffsets)
      pure
        { topic := first.topic
          partition := first.partition
          fromOffsetInclusive := expectedOffsets.head?.getD 0
          toOffsetInclusive := expectedOffsets.getLast?.getD 0
          expectedOffsets := expectedOffsets
          rawOffsets := rawOffsets
          resolvedOffsets := resolvedOffsets
          missingOffsets := missing
          unexpectedOffsets := unexpected
          status := if missing = [] ∧ unexpected = [] then .contiguous else .blocked
          expectedPositionsHash := offsetHash rt expectedOffsets
          rawOrResolvedPositionsHash := offsetHash rt actual
          advanceToOffset :=
            if unexpected = [] then advanceThrough actual none expectedOffsets else none }

/-! ## What an audit says -/

theorem mem_sortedPositions {items : List SourcePosition} {p : SourcePosition} :
    p ∈ sortedPositions items ↔ p ∈ items := by
  rw [sortedPositions, List.mem_insertionSort, List.mem_dedup]

theorem sortedOffsets_eq_nil {offsets : List Int} : sortedOffsets offsets = [] ↔ offsets = [] := by
  rw [sortedOffsets, ← List.length_eq_zero_iff, List.length_insertionSort,
    List.length_eq_zero_iff, List.dedup_eq_nil]

/-- Within one partition the sorted positions have sorted offsets. -/
theorem offsets_sorted {topic : String} {partition : Int} {items : List SourcePosition}
    (h : ∀ item ∈ sortedPositions items, item.topic = topic ∧ item.partition = partition) :
    ((sortedPositions items).map SourcePosition.offset).Pairwise (· ≤ ·) := by
  have hsorted : (sortedPositions items).Pairwise fun a b => a.sortKey ≤ b.sortKey :=
    List.pairwise_insertionSort _ _
  rw [List.pairwise_map]
  refine hsorted.imp_of_mem fun {a b} ha hb hle => ?_
  obtain ⟨hatopic, hapartition⟩ := h a ha
  obtain ⟨hbtopic, hbpartition⟩ := h b hb
  simp only [SourcePosition.sortKey, Prod.Lex.toLex_le_toLex, hatopic, hapartition, hbtopic,
    hbpartition, lt_self_iff_false, true_and, false_or] at hle
  exact hle

theorem le_getLast_of_pairwise {offsets : List Int} (h : offsets.Pairwise (· ≤ ·))
    (hne : offsets ≠ []) {o : Int} (ho : o ∈ offsets) : o ≤ offsets.getLast hne := by
  obtain ⟨front, last, rfl⟩ : ∃ front last, offsets = front ++ [last] :=
    ⟨_, _, (List.dropLast_append_getLast hne).symm⟩
  rw [List.getLast_append_singleton]
  rcases List.mem_append.mp ho with hfront | hlast
  · exact (List.pairwise_append.mp h).2.2 o hfront last List.mem_cons_self
  · exact (List.mem_singleton.mp hlast).le

/-- Where nothing is missing, the loop runs to the last expected offset. -/
theorem advanceThrough_all {actual : List Int} : ∀ {expected : List Int} {advance : Option Int},
    (∀ o ∈ expected, o ∈ actual) → advanceThrough actual advance expected =
      expected.getLast?.or advance
  | [], _, _ => rfl
  | offset :: rest, advance, h => by
      have hoffset : offset ∈ actual := h offset List.mem_cons_self
      rw [advanceThrough, if_neg (not_not.mpr hoffset),
        advanceThrough_all fun o ho => h o (List.mem_cons_of_mem offset ho), List.getLast?_cons]
      cases rest.getLast? <;> rfl

structure Audited (audit : ReceiptAudit) : Prop where
  nonneg : ∀ o ∈ audit.expectedOffsets, 0 ≤ o
  bounded : ∀ o ∈ audit.expectedOffsets, o ≤ audit.toOffsetInclusive
  ends : audit.toOffsetInclusive ∈ audit.expectedOffsets
  exact : audit.status = .contiguous → ∀ o,
    (o ∈ audit.rawOffsets ∨ o ∈ audit.resolvedOffsets) ↔ o ∈ audit.expectedOffsets
  advances : audit.status = .contiguous → audit.advanceToOffset = some audit.toOffsetInclusive

theorem auditReceiptRange_audited {rt : Runtime} {expected raw resolved : List SourcePosition}
    {maxPositions : Int} {audit : ReceiptAudit}
    (h : auditReceiptRange rt expected raw resolved maxPositions = .ok audit) : Audited audit := by
  unfold auditReceiptRange at h
  split at h
  · exact nomatch h
  · rename_i first rest hitems
    obtain ⟨_, -, h⟩ := bind_eq_ok.mp h
    obtain ⟨expectedOffsets, hexpected, h⟩ := bind_eq_ok.mp h
    obtain ⟨rawOffsets, -, h⟩ := bind_eq_ok.mp h
    obtain ⟨resolvedOffsets, -, h⟩ := bind_eq_ok.mp h
    cases pure_eq_ok.mp h
    obtain ⟨_, hone, hoffsets⟩ := bind_eq_ok.mp hexpected
    have hsame : ∀ item ∈ sortedPositions (first :: rest),
        item.topic = first.topic ∧ item.partition = first.partition := by
      intro item hitem
      have hno := rejectIf_eq_ok.mp hone
      by_contra hother
      exact hno ⟨item, hitem, by rwa [not_and_or] at hother⟩
    have heq := (pure_eq_ok.mp hoffsets).symm
    have hsorted : expectedOffsets.Pairwise (· ≤ ·) := heq ▸ offsets_sorted hsame
    have hne : expectedOffsets ≠ [] := by
      intro hnil
      have hmem : first ∈ sortedPositions (first :: rest) :=
        mem_sortedPositions.mpr List.mem_cons_self
      rw [heq, List.map_eq_nil_iff] at hnil
      rw [hnil] at hmem
      exact nomatch hmem
    have hlast : expectedOffsets.getLast?.getD 0 = expectedOffsets.getLast hne := by
      rw [List.getLast?_eq_some_getLast hne, Option.getD_some]
    have hcontiguous : (if sortedOffsets (expectedOffsets.filter fun offset =>
          offset ∉ rawOffsets ++ resolvedOffsets) = [] ∧
        sortedOffsets ((rawOffsets ++ resolvedOffsets).filter fun offset =>
          offset ∉ expectedOffsets) = [] then ReceiptStatus.contiguous else .blocked)
          = .contiguous →
        (∀ o ∈ expectedOffsets, o ∈ rawOffsets ++ resolvedOffsets) ∧
          (∀ o ∈ rawOffsets ++ resolvedOffsets, o ∈ expectedOffsets) := by
      intro hstatus
      split at hstatus
      · rename_i hnone
        rw [sortedOffsets_eq_nil, sortedOffsets_eq_nil, List.filter_eq_nil_iff,
          List.filter_eq_nil_iff] at hnone
        refine ⟨fun o ho => ?_, fun o ho => ?_⟩
        · by_contra hmissing
          exact hnone.1 o ho (decide_eq_true hmissing)
        · by_contra hunexpected
          exact hnone.2 o ho (decide_eq_true hunexpected)
      · exact nomatch hstatus
    refine ⟨?_, ?_, ?_, ?_, ?_⟩
    · intro o ho
      rw [heq] at ho
      obtain ⟨item, -, rfl⟩ := List.mem_map.mp ho
      exact item.nonneg.2
    · intro o ho
      show o ≤ expectedOffsets.getLast?.getD 0
      rw [hlast]
      exact le_getLast_of_pairwise hsorted hne ho
    · show expectedOffsets.getLast?.getD 0 ∈ expectedOffsets
      rw [hlast]
      exact List.getLast_mem hne
    · intro hstatus o
      obtain ⟨hin, hout⟩ := hcontiguous hstatus
      rw [← List.mem_append]
      exact ⟨hout o, hin o⟩
    · intro hstatus
      obtain ⟨hin, hout⟩ := hcontiguous hstatus
      show (if _ then _ else _) = _
      rw [if_pos, advanceThrough_all hin, Option.or_none, List.getLast?_eq_some_getLast hne,
        Option.getD_some]
      rw [sortedOffsets_eq_nil, List.filter_eq_nil_iff]
      intro o ho hunexpected
      exact of_decide_eq_true hunexpected (hout o ho)

end AskLake.Realtime

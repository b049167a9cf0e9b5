/-
# `AskLake.StreamWorker.PublicationWindow` — the manifests a report lists

A report carries the durable batches that the Catalog has not acknowledged, the
lowest `limit` of them, and how many there are:

    acknowledged |  published window  |  the rest of the backlog
                a                   a + limit              latest

The worker keeps the window as it goes: a new batch is appended and the list cut,
an acknowledgement drops a prefix and loads as many manifests as fit again.  What
it keeps is what `recoverPublishedState` reads from the manifests (`Exact`), since
batches are numbered without gaps.
-/
import AskLake.Lib.Numbered
import AskLake.StreamWorker.Manifest

namespace AskLake.StreamWorker

open AskLake.Lib AskLake.Kafka AskLake.Python

/-! ## The worker's window -/

/-- `CATALOG_ACK_BATCH_ID`, `LATEST_DURABLE_BATCH_ID`, `PUBLISHED_BATCHES` and
`PUBLISHED_BACKLOG_COUNT` -/
structure Window where
  catalogAckBatchId : Int
  latestDurableBatchId : Int
  publishedBatches : List BatchManifest
  publishedBacklogCount : Int
  deriving DecidableEq

/-- `sorted(…, key=lambda item: int(item.get("batchId") or 0))` -/
def sortByBatchId (manifests : List BatchManifest) : List BatchManifest :=
  manifests.insertionSort fun a b => a.batchId ≤ b.batchId

def nextPublicationBatchId (window : Window) : Int :=
  max window.catalogAckBatchId window.latestDurableBatchId + 1

def rememberPublishedBatch (limit : Nat) (window : Window) (publication : BatchManifest) :
    Window :=
  let batchId := publication.batchId
  let isNew := window.latestDurableBatchId < batchId
  let existing := window.publishedBatches.filter fun item => item.batchId ≠ batchId
  { window with
    latestDurableBatchId := if isNew then batchId else window.latestDurableBatchId
    publishedBacklogCount :=
      if isNew ∧ window.catalogAckBatchId < batchId then window.publishedBacklogCount + 1
      else window.publishedBacklogCount
    publishedBatches :=
      (sortByBatchId (if window.catalogAckBatchId < batchId then existing ++ [publication]
        else existing)).take limit }

/-- The manifest committed under an id. -/
def manifestAt (manifests : List BatchManifest) (batchId : Int) : Option BatchManifest :=
  manifests.find? fun manifest => manifest.batchId = batchId

/-- The first id that is not in the window. -/
def refillStart (acknowledged : Int) (window : List BatchManifest) : Int :=
  match (window.map BatchManifest.batchId).max? with
  | some last => max (acknowledged + 1) (last + 1)
  | none => acknowledged + 1

/-- The window after an acknowledgement, filled up from the manifests. -/
def refill (limit : Nat) (manifests : List BatchManifest) (acknowledged latest : Int)
    (window : List BatchManifest) : List BatchManifest :=
  let next := refillStart acknowledged window
  let last := min latest (next + (limit - window.length) - 1)
  (sortByBatchId (window ++ loadFrom (manifestAt manifests) (last + 1 - next).toNat next)).take
    limit

/-- `apply_catalog_ack`; the acknowledgement is the one in the document. -/
def applyCatalogAck (limit : Nat) (manifests : List BatchManifest) (window : Window)
    (acknowledged : Int) : Window :=
  if acknowledged ≤ window.catalogAckBatchId then window
  else
    let published := window.publishedBatches.filter fun item => acknowledged < item.batchId
    let acknowledgedCount :=
      max 0 (min acknowledged window.latestDurableBatchId - window.catalogAckBatchId)
    let backlog := max 0 (window.publishedBacklogCount - acknowledgedCount)
    { window with
      catalogAckBatchId := acknowledged
      publishedBacklogCount := backlog
      publishedBatches :=
        if published.length < limit ∧ (published.length : Int) < backlog then
          refill limit manifests acknowledged window.latestDurableBatchId published
        else published }

/-! ## `recover_published_state` -/

structure RecoveredState where
  backlogCount : Int
  batches : List BatchManifest
  latest : Option BatchManifest
  partitionCursors : Cursors

def recoverPublishedState (limit : Nat) (manifests : List BatchManifest) (acknowledged : Int) :
    RecoveredState :=
  let loaded := sortByBatchId manifests
  let pending := loaded.filter fun manifest => acknowledged < manifest.batchId
  { backlogCount := pending.length
    batches := pending.take limit
    latest := loaded.getLast?
    partitionCursors := loaded.foldl
      (fun cursors manifest => advanceWorkerStreamPartitionCursors cursors manifest.sourceRanges)
      fun _ => none }

/-- The window of a new process. -/
def recoveredWindow (limit : Nat) (manifests : List BatchManifest) (acknowledged : Int) : Window :=
  let recovered := recoverPublishedState limit manifests acknowledged
  { catalogAckBatchId := acknowledged
    latestDurableBatchId := max acknowledged (recovered.latest.elim (-1) BatchManifest.batchId)
    publishedBatches := recovered.batches
    publishedBacklogCount := recovered.backlogCount }

/-! ## What the window should be -/

/-- The durable batches that are not acknowledged. -/
def unacknowledged (manifests : List BatchManifest) (acknowledged : Int) : List BatchManifest :=
  manifests.filter fun manifest => acknowledged < manifest.batchId

/-- The window is that of the manifests. -/
structure Exact (limit : Nat) (manifests : List BatchManifest) (window : Window) : Prop where
  latest : window.latestDurableBatchId = manifests.length - 1
  acknowledged : -1 ≤ window.catalogAckBatchId
  acknowledged_le : window.catalogAckBatchId ≤ window.latestDurableBatchId
  batches : window.publishedBatches =
    (unacknowledged manifests window.catalogAckBatchId).take limit
  backlog : window.publishedBacklogCount =
    (unacknowledged manifests window.catalogAckBatchId).length

section
variable {limit : Nat} {manifests : List BatchManifest} {window : Window} {acknowledged : Int}

theorem unacknowledged_eq (h : Numbered BatchManifest.batchId manifests) :
    unacknowledged manifests acknowledged =
      between BatchManifest.batchId manifests (acknowledged + 1) manifests.length := by
  refine List.filter_congr fun manifest hmanifest => ?_
  have := h.bounds hmanifest
  rw [decide_eq_decide]
  omega

theorem sortByBatchId_of_pairwise {manifests : List BatchManifest}
    (h : manifests.Pairwise fun a b => a.batchId < b.batchId) :
    sortByBatchId manifests = manifests :=
  (h.imp fun hlt => hlt.le).insertionSort_eq

theorem sortByBatchId_between (h : Numbered BatchManifest.batchId manifests) (low high : Int) :
    sortByBatchId (between BatchManifest.batchId manifests low high) =
      between BatchManifest.batchId manifests low high :=
  sortByBatchId_of_pairwise (h.pairwise.filter _)

/-- Two lists of manifests that are taken from a longer one. -/
theorem take_append_take {α : Type*} (n : Nat) (xs ys : List α) :
    (xs.take n ++ ys).take n = (xs ++ ys).take n := by
  rw [List.take_append, List.take_append, List.take_take, min_self, List.length_take]
  by_cases h : n ≤ xs.length
  · rw [min_eq_left h, Nat.sub_self, Nat.sub_eq_zero_of_le h]
  · rw [min_eq_right (by omega)]

/-! ## Every operation keeps it -/

theorem Exact.next (h : Exact limit manifests window) :
    nextPublicationBatchId window = manifests.length := by
  have := h.latest
  have := h.acknowledged_le
  rw [nextPublicationBatchId, max_eq_right h.acknowledged_le]
  omega

theorem unacknowledged_append (manifests : List BatchManifest) {manifest : BatchManifest}
    (h : acknowledged < manifest.batchId) :
    unacknowledged (manifests ++ [manifest]) acknowledged =
      unacknowledged manifests acknowledged ++ [manifest] := by
  rw [unacknowledged, List.filter_append, List.filter_cons_of_pos (by simpa using h),
    List.filter_nil]
  rfl

theorem Exact.remember (hnumbered : Numbered BatchManifest.batchId manifests)
    (h : Exact limit manifests window) {manifest : BatchManifest}
    (hmanifest : manifest.batchId = nextPublicationBatchId window) :
    Exact limit (manifests ++ [manifest]) (rememberPublishedBatch limit window manifest) := by
  rw [h.next] at hmanifest
  have hnew : window.latestDurableBatchId < manifest.batchId := by
    rw [h.latest, hmanifest]
    omega
  have hack : window.catalogAckBatchId < manifest.batchId := h.acknowledged_le.trans_lt hnew
  have hexisting : window.publishedBatches.filter (fun item => item.batchId ≠ manifest.batchId) =
      window.publishedBatches := by
    refine List.filter_eq_self.mpr fun item hitem => decide_eq_true ?_
    rw [h.batches] at hitem
    have := hnumbered.bounds (List.mem_of_mem_filter (List.mem_of_mem_take hitem))
    omega
  have hsorted : (window.publishedBatches ++ [manifest]).Pairwise
      fun a b => a.batchId < b.batchId := by
    rw [h.batches]
    refine List.pairwise_append.mpr ⟨(hnumbered.pairwise.filter _).take, List.pairwise_singleton _ _,
      fun a ha b hb => ?_⟩
    have := hnumbered.bounds (List.mem_of_mem_filter (List.mem_of_mem_take ha))
    rw [List.mem_singleton.mp hb]
    omega
  refine ⟨?_, h.acknowledged, ?_, ?_, ?_⟩
  · show (if window.latestDurableBatchId < manifest.batchId then _ else _) = _
    rw [if_pos hnew, List.length_append, List.length_singleton]
    omega
  · show _ ≤ (if window.latestDurableBatchId < manifest.batchId then _ else _)
    rw [if_pos hnew]
    exact hack.le
  · show List.take limit (sortByBatchId (if _ then _ else _)) =
      (unacknowledged _ window.catalogAckBatchId).take limit
    rw [if_pos hack, hexisting, sortByBatchId_of_pairwise hsorted, h.batches, take_append_take,
      unacknowledged_append manifests hack]
  · show (if _ ∧ _ then _ else _) =
      ((unacknowledged _ window.catalogAckBatchId).length : Int)
    rw [if_pos ⟨hnew, hack⟩, unacknowledged_append manifests hack, h.backlog, List.length_append,
      List.length_singleton]
    rfl

/-- A part of the manifests ends before the next number. -/
theorem refillStart_between (hnumbered : Numbered BatchManifest.batchId manifests) {high : Int}
    (hlow : -1 ≤ acknowledged) (hhigh : high ≤ manifests.length) (hle : acknowledged + 1 ≤ high) :
    refillStart acknowledged
      (between BatchManifest.batchId manifests (acknowledged + 1) high) = high := by
  rw [refillStart]
  cases hmax : ((between BatchManifest.batchId manifests (acknowledged + 1) high).map
      BatchManifest.batchId).max? with
  | none =>
      have hnil := List.map_eq_nil_iff.mp (List.max?_eq_none_iff.mp hmax)
      have hlength := hnumbered.length_between (by omega) hle hhigh
      rw [hnil] at hlength
      show acknowledged + 1 = high
      have hzero : ((([] : List BatchManifest).length : Nat) : Int) = 0 := rfl
      omega
  | some last =>
      obtain ⟨hmem, hbound⟩ := List.max?_eq_some_iff.mp hmax
      obtain ⟨manifest, hmanifest, rfl⟩ := List.mem_map.mp hmem
      obtain ⟨hin, hstart, hend⟩ := mem_between.mp hmanifest
      have hlast : ¬ manifest.batchId < high - 1 := by
        intro hlt
        obtain ⟨other, hother, hnumber⟩ :=
          hnumbered.exists_number (by omega : 0 ≤ high - 1) (by omega)
        have := hbound other.batchId (List.mem_map_of_mem
          (mem_between.mpr ⟨hother, by omega, by omega⟩))
        omega
      show max (acknowledged + 1) (manifest.batchId + 1) = high
      omega

/-- The window is filled up to its limit, or to the latest batch. -/
theorem refill_between (hnumbered : Numbered BatchManifest.batchId manifests) {high : Int}
    (hlow : -1 ≤ acknowledged) (hhigh : high ≤ manifests.length) (hle : acknowledged + 1 ≤ high)
    (hroom : high ≤ acknowledged + 1 + limit) :
    refill limit manifests acknowledged (manifests.length - 1)
        (between BatchManifest.batchId manifests (acknowledged + 1) high) =
      between BatchManifest.batchId manifests (acknowledged + 1)
        (min (manifests.length : Int) (acknowledged + 1 + limit)) := by
  have hlength := hnumbered.length_between (by omega) hle hhigh
  rw [refill, refillStart_between hnumbered hlow hhigh hle]
  have hload : loadFrom (manifestAt manifests)
      (min ((manifests.length : Int) - 1) (high + (limit -
        (between BatchManifest.batchId manifests (acknowledged + 1) high).length) - 1) + 1 -
          high).toNat high =
        between BatchManifest.batchId manifests high
          (min (manifests.length : Int) (acknowledged + 1 + limit)) := by
    have hcount : high + (min ((manifests.length : Int) - 1) (high + (limit -
        (between BatchManifest.batchId manifests (acknowledged + 1) high).length) - 1) + 1 -
          high).toNat = min (manifests.length : Int) (acknowledged + 1 + limit) := by
      omega
    rw [← hcount]
    exact loadFrom_eq hnumbered (by omega) (by omega)
  rw [hload, hnumbered.between_append_between hle (by omega), sortByBatchId_between hnumbered,
    hnumbered.take_between (by omega) (by omega) (by omega)]
  congr 1
  omega

theorem Exact.acknowledge (hnumbered : Numbered BatchManifest.batchId manifests)
    (h : Exact limit manifests window) (hbound : acknowledged < manifests.length) :
    Exact limit manifests (applyCatalogAck limit manifests window acknowledged) := by
  have hlatest := h.latest
  have hack := h.acknowledged
  have hle := h.acknowledged_le
  rw [applyCatalogAck]
  by_cases hold : acknowledged ≤ window.catalogAckBatchId
  · rw [if_pos hold]
    exact h
  rw [if_neg hold]
  have hbacklog : window.publishedBacklogCount = manifests.length - 1 - window.catalogAckBatchId := by
    rw [h.backlog, unacknowledged_eq hnumbered,
      hnumbered.length_between (by omega) (by omega) (le_refl _)]
    omega
  have hcount : max 0 (window.publishedBacklogCount -
      max 0 (min acknowledged window.latestDurableBatchId - window.catalogAckBatchId)) =
        manifests.length - 1 - acknowledged := by
    rw [hbacklog, hlatest]
    omega
  have hunacknowledged : ((unacknowledged manifests acknowledged).length : Int) =
      manifests.length - 1 - acknowledged := by
    rw [unacknowledged_eq hnumbered, hnumbered.length_between (by omega) (by omega) (le_refl _)]
    omega
  -- what the acknowledgement leaves of the window ends where the window ended
  obtain ⟨high, hhigh⟩ : ∃ high, high = max (acknowledged + 1)
      (min (manifests.length : Int) (window.catalogAckBatchId + 1 + limit)) := ⟨_, rfl⟩
  have hkept : window.publishedBatches.filter (fun item => acknowledged < item.batchId) =
      between BatchManifest.batchId manifests (acknowledged + 1) high := by
    rw [h.batches, unacknowledged_eq hnumbered,
      hnumbered.take_between (by omega) (by omega) (le_refl _), filter_between]
    by_cases hempty : acknowledged + 1 ≤ min (manifests.length : Int)
        (window.catalogAckBatchId + 1 + limit)
    · congr 1 <;> omega
    · rw [between_eq_nil (by omega), between_eq_nil (by omega)]
  have hlength := hnumbered.length_between (by omega) (by omega : acknowledged + 1 ≤ high)
    (by omega)
  refine ⟨hlatest, by show -1 ≤ acknowledged; omega,
    by show acknowledged ≤ window.latestDurableBatchId; omega, ?_, ?_⟩
  · show (if _ then _ else _) = (unacknowledged manifests acknowledged).take limit
    rw [hcount, hkept, unacknowledged_eq hnumbered,
      hnumbered.take_between (by omega) (by omega) (le_refl _), hlatest]
    split
    · exact refill_between hnumbered (by omega) (by omega) (by omega) (by omega)
    · congr 1
      omega
  · show max 0 _ = ((unacknowledged manifests acknowledged).length : Int)
    rw [hcount, hunacknowledged]

/-- A new process knows the latest durable batch. -/
theorem latest_recoveredWindow (limit : Nat) (hnumbered : Numbered BatchManifest.batchId manifests)
    (hbound : acknowledged < manifests.length) :
    (recoveredWindow limit manifests acknowledged).latestDurableBatchId = manifests.length - 1 := by
  have hlatest : manifests.getLast?.elim (-1) BatchManifest.batchId = manifests.length - 1 := by
    cases hnumbered with
    | nil => rfl
    | snoc h hlast =>
        rw [List.getLast?_append, List.getLast?_singleton, List.length_append,
          List.length_singleton]
        show BatchManifest.batchId _ = _
        rw [hlast]
        omega
  show max acknowledged ((sortByBatchId manifests).getLast?.elim _ _) = _
  rw [sortByBatchId_of_pairwise hnumbered.pairwise, hlatest]
  omega

theorem recover_exact (limit : Nat) (hnumbered : Numbered BatchManifest.batchId manifests)
    (hlow : -1 ≤ acknowledged) (hbound : acknowledged < manifests.length) :
    Exact limit manifests (recoveredWindow limit manifests acknowledged) := by
  have hsorted : sortByBatchId manifests = manifests := sortByBatchId_of_pairwise hnumbered.pairwise
  refine ⟨latest_recoveredWindow limit hnumbered hbound, hlow, le_max_left _ _, ?_, ?_⟩
  · show ((sortByBatchId manifests).filter _).take limit = _
    rw [hsorted]
    rfl
  · show (((sortByBatchId manifests).filter _).length : Int) = _
    rw [hsorted]
    rfl

end

end AskLake.StreamWorker

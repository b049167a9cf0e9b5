/-
# `AskLake.StreamWorker.PublicationRun` — publications, acknowledgements, and crashes

The worker commits manifests and reports its window; the control plane publishes
the batches that a report lists and acknowledges the last one it has published:

    worker     publish …  report  …  crash, recover  …
    control    reconcile (the last report)  →  acknowledgement document

Acknowledgements also come from elsewhere.  The document holds the last one, and
the worker looks at it only when it reports or starts: where they come in order
every report lists the window of the highest one.  Where they come from the control
plane alone they are in order, and none is past a batch that is not published.
-/
import AskLake.Lib.Run
import AskLake.StreamWorker.PublicationWindow

namespace AskLake.StreamWorker

open AskLake.Lib AskLake.Kafka AskLake.Python

/-! ## `_publish_pending_batches` -/

/-- `_normalize_publications` -/
def normalizePublications (publications : List BatchManifest) : List BatchManifest :=
  sortByBatchId (publications.filter fun publication => 0 ≤ publication.batchId)

/-- The cursor and the published batches after the loop; the cursor that is read
back from the runtime's row is the one written there. -/
def publishPendingBatches (materialized : BatchManifest → Bool) :
    List BatchManifest → Option Int → List Int → Option Int × List Int
  | [], cursor, published => (cursor, published)
  | publication :: rest, cursor, published =>
      if cursor.any fun last => publication.batchId ≤ last then
        publishPendingBatches materialized rest cursor published
      else if materialized publication then
        publishPendingBatches materialized rest
          (some (cursor.elim publication.batchId fun last => max last publication.batchId))
          (published ++ [publication.batchId])
      else (cursor, published)

/-! ## The system -/

structure PublicationSystem where
  manifests : List BatchManifest
  /-- the acknowledgement document -/
  catalogAck : Option Int
  /-- the window of the running worker -/
  window : Option Window
  /-- `publishedBatches` of the last report -/
  report : List BatchManifest
  /-- `catalogBatchCursor` -/
  cursor : Option Int
  /-- the batches the control plane has published -/
  published : List Int
  /-- the highest id acknowledged so far -/
  highestAck : Int

def PublicationSystem.start : PublicationSystem where
  manifests := []
  catalogAck := none
  window := none
  report := []
  cursor := none
  published := []
  highestAck := -1

/-- `catalog_ack_batch_id` -/
def PublicationSystem.acknowledged (s : PublicationSystem) : Int := s.catalogAck.getD (-1)

inductive PublicationEvent
  /-- a manifest is committed under the next id, and remembered -/
  | publish (manifest : BatchManifest)
  /-- a manifest is committed, and the worker dies -/
  | publishCrashed (manifest : BatchManifest)
  | report
  | crash
  | recover
  /-- the control plane publishes what the last report lists -/
  | reconcile (materialized : BatchManifest → Bool)
  /-- an acknowledgement from elsewhere -/
  | acknowledge (batchId : Int)

/-- `write_batch_manifest`: a manifest that is there stays. -/
def writeBatchManifest (manifests : List BatchManifest) (manifest : BatchManifest) :
    List BatchManifest :=
  if (manifestAt manifests manifest.batchId).isSome then manifests else manifests ++ [manifest]

/-- The manifest of the next batch. -/
def numberedManifest (window : Window) (manifest : BatchManifest) : BatchManifest :=
  { manifest with batchId := nextPublicationBatchId window }

def writeAck (s : PublicationSystem) (batchId : Int) : PublicationSystem :=
  { s with catalogAck := some batchId, highestAck := max s.highestAck batchId }

def publicationStep (limit : Nat) (s : PublicationSystem) : PublicationEvent → PublicationSystem
  | .publish manifest =>
      match s.window with
      | none => s
      | some window =>
          let manifest := numberedManifest window manifest
          { s with
            manifests := writeBatchManifest s.manifests manifest
            window := some (rememberPublishedBatch limit window manifest) }
  | .publishCrashed manifest =>
      match s.window with
      | none => s
      | some window =>
          { s with
            manifests := writeBatchManifest s.manifests (numberedManifest window manifest)
            window := none }
  | .report =>
      match s.window with
      | none => s
      | some window =>
          let window := applyCatalogAck limit s.manifests window s.acknowledged
          { s with window := some window, report := window.publishedBatches }
  | .crash => { s with window := none }
  | .recover => { s with window := some (recoveredWindow limit s.manifests s.acknowledged) }
  | .reconcile materialized =>
      let (cursor, published) :=
        publishPendingBatches materialized (normalizePublications s.report) s.cursor s.published
      let s := { s with cursor, published }
      match cursor with
      | none => s
      | some batchId => writeAck s batchId
  | .acknowledge batchId => writeAck s batchId

/-! ## What is asked of a run -/

/-- Acknowledgements come in order, and only for durable batches. -/
def AckInOrder (s : PublicationSystem) : PublicationEvent → Prop
  | .acknowledge batchId => s.acknowledged ≤ batchId ∧ batchId < s.manifests.length
  | .reconcile _ => s.acknowledged ≤ s.cursor.getD (-1)
  | _ => True

instance (s : PublicationSystem) : ∀ event, Decidable (AckInOrder s event)
  | .acknowledge batchId =>
      inferInstanceAs (Decidable (s.acknowledged ≤ batchId ∧ batchId < s.manifests.length))
  | .reconcile _ => inferInstanceAs (Decidable (s.acknowledged ≤ s.cursor.getD (-1)))
  | .publish _ => .isTrue trivial
  | .publishCrashed _ => .isTrue trivial
  | .report => .isTrue trivial
  | .crash => .isTrue trivial
  | .recover => .isTrue trivial

/-- A report lists the lowest `limit` durable batches above the highest
acknowledgement, and counts all of them. -/
def ReportsWindow (limit : Nat) (s : PublicationSystem) : PublicationEvent → Prop
  | .report => ∀ window, (publicationStep limit s .report).window = some window →
      window.publishedBatches = (unacknowledged s.manifests s.highestAck).take limit ∧
        window.publishedBacklogCount = (unacknowledged s.manifests s.highestAck).length
  | _ => True

/-- The control plane is the only one to acknowledge. -/
def PublicationEvent.internal : PublicationEvent → Prop
  | .acknowledge _ => False
  | _ => True

/-- No acknowledgement is past a batch that is not published. -/
def NeverPast (s : PublicationSystem) : Prop :=
  ∀ manifest ∈ s.manifests, manifest.batchId ≤ s.acknowledged → manifest.batchId ∈ s.published

/-! ## Acknowledgements in order -/

structure Kept (limit : Nat) (s : PublicationSystem) : Prop where
  numbered : Numbered BatchManifest.batchId s.manifests
  exact : ∀ window, s.window = some window →
    Exact limit s.manifests window ∧ window.catalogAckBatchId ≤ s.acknowledged
  ack_low : -1 ≤ s.acknowledged
  ack_high : s.acknowledged < s.manifests.length
  highest : s.highestAck = s.acknowledged
  cursor_low : -1 ≤ s.cursor.getD (-1)
  cursor_high : s.cursor.getD (-1) < s.manifests.length
  listed : ∀ manifest ∈ s.report, manifest ∈ s.manifests

section
variable {limit : Nat} {s : PublicationSystem} {window : Window} {manifest : BatchManifest}

theorem manifestAt_eq_none {manifests : List BatchManifest}
    (h : Numbered BatchManifest.batchId manifests) {batchId : Int}
    (hnext : batchId = manifests.length) : manifestAt manifests batchId = none := by
  refine List.find?_eq_none.mpr fun manifest hmanifest hid => ?_
  have := h.bounds hmanifest
  have := of_decide_eq_true hid
  omega

/-- The next manifest is written, and the numbers go on. -/
theorem Kept.write (h : Kept limit s) (hwindow : s.window = some window)
    (manifest : BatchManifest) :
    writeBatchManifest s.manifests (numberedManifest window manifest) =
        s.manifests ++ [numberedManifest window manifest] ∧
      Numbered BatchManifest.batchId (s.manifests ++ [numberedManifest window manifest]) := by
  have hnext : (numberedManifest window manifest).batchId = s.manifests.length :=
    (h.exact window hwindow).1.next
  refine ⟨?_, h.numbered.snoc hnext⟩
  rw [writeBatchManifest, manifestAt_eq_none h.numbered hnext]
  rfl

/-- The cursor moves up, to batches that are listed. -/
theorem cursor_publishPending (materialized : BatchManifest → Bool) {bound : Int}
    {publications : List BatchManifest} {cursor : Option Int} {published : List Int}
    (hlisted : ∀ publication ∈ publications, 0 ≤ publication.batchId ∧ publication.batchId < bound)
    (hlow : -1 ≤ cursor.getD (-1)) (hcursor : cursor.getD (-1) < bound) :
    cursor.getD (-1) ≤ (publishPendingBatches materialized publications cursor published).1.getD (-1) ∧
      (publishPendingBatches materialized publications cursor published).1.getD (-1) < bound := by
  induction publications generalizing cursor published with
  | nil => exact ⟨le_refl _, hcursor⟩
  | cons publication rest ih =>
      have hrest : ∀ publication ∈ rest, 0 ≤ publication.batchId ∧ publication.batchId < bound :=
        fun other hother => hlisted other (List.mem_cons_of_mem _ hother)
      obtain ⟨hnonneg, hbound⟩ := hlisted publication List.mem_cons_self
      rw [publishPendingBatches]
      split
      · exact ih hrest hlow hcursor
      · split
        · have hmoved : cursor.getD (-1) ≤ (some (cursor.elim publication.batchId fun last =>
              max last publication.batchId)).getD (-1) ∧
              (some (cursor.elim publication.batchId fun last =>
                max last publication.batchId)).getD (-1) < bound := by
            cases cursor with
            | none => exact ⟨le_trans (by decide) hnonneg, hbound⟩
            | some last => exact ⟨le_max_left _ _, max_lt hcursor hbound⟩
          obtain ⟨hle, hlt⟩ := @ih _ (published ++ [publication.batchId]) hrest
            (hlow.trans hmoved.1) hmoved.2
          exact ⟨hmoved.1.trans hle, hlt⟩
        · exact ⟨le_refl _, hcursor⟩

theorem Kept.normalized (h : Kept limit s) {publication : BatchManifest}
    (hpublication : publication ∈ normalizePublications s.report) :
    0 ≤ publication.batchId ∧ publication.batchId < s.manifests.length := by
  have hmem := List.mem_of_mem_filter ((List.mem_insertionSort _).mp hpublication)
  exact h.numbered.bounds (h.listed publication hmem)

theorem Kept.start : Kept limit PublicationSystem.start where
  numbered := .nil
  exact := fun _ hwindow => nomatch hwindow
  ack_low := le_refl _
  ack_high := by decide
  highest := rfl
  cursor_low := le_refl _
  cursor_high := by decide
  listed := fun _ hmanifest => nomatch hmanifest

/-- A report and a recovery leave the worker with the acknowledgement of the
document. -/
theorem acknowledged_applyCatalogAck {manifests : List BatchManifest} {acknowledged : Int}
    (h : window.catalogAckBatchId ≤ acknowledged) :
    (applyCatalogAck limit manifests window acknowledged).catalogAckBatchId = acknowledged := by
  rw [applyCatalogAck]
  split
  · omega
  · rfl

theorem Kept.writeAck {batchId : Int} (h : Kept limit s) (hle : s.acknowledged ≤ batchId)
    (hlt : batchId < s.manifests.length) : Kept limit (writeAck s batchId) where
  numbered := h.numbered
  exact := fun window hwindow => by
    obtain ⟨hexact, hack⟩ := h.exact window hwindow
    exact ⟨hexact, hack.trans hle⟩
  ack_low := h.ack_low.trans hle
  ack_high := hlt
  highest := by
    show max s.highestAck batchId = batchId
    rw [h.highest, max_eq_right hle]
  cursor_low := h.cursor_low
  cursor_high := h.cursor_high
  listed := h.listed

/-- A manifest is committed; the worker goes on, or dies. -/
theorem Kept.commit (h : Kept limit s) (hwindow : s.window = some window)
    (manifest : BatchManifest) {next : Option Window}
    (hnext : ∀ window', next = some window' →
      Exact limit (s.manifests ++ [numberedManifest window manifest]) window' ∧
        window'.catalogAckBatchId ≤ s.acknowledged) :
    Kept limit
      { s with
        manifests := writeBatchManifest s.manifests (numberedManifest window manifest)
        window := next } := by
  obtain ⟨hwrite, hnumbered⟩ := h.write hwindow manifest
  have hlength : ((s.manifests ++ [numberedManifest window manifest]).length : Int) =
      s.manifests.length + 1 := by
    rw [List.length_append, List.length_singleton]
    rfl
  rw [hwrite]
  refine ⟨hnumbered, hnext, h.ack_low, ?_, h.highest, h.cursor_low, ?_, fun other hother => ?_⟩
  · show s.acknowledged < ((s.manifests ++ [numberedManifest window manifest]).length : Int)
    have := h.ack_high
    omega
  · show s.cursor.getD (-1) < ((s.manifests ++ [numberedManifest window manifest]).length : Int)
    have := h.cursor_high
    omega
  · exact List.mem_append_left _ (h.listed other hother)

theorem Kept.step (h : Kept limit s) {event : PublicationEvent} (hevent : AckInOrder s event) :
    Kept limit (publicationStep limit s event) := by
  cases event with
  | publish manifest =>
      cases hwindow : s.window with
      | none => simpa only [publicationStep, hwindow] using h
      | some window =>
          obtain ⟨hexact, hack⟩ := h.exact window hwindow
          simp only [publicationStep, hwindow]
          refine h.commit hwindow manifest ?_
          rintro _ ⟨⟩
          exact ⟨hexact.remember h.numbered rfl, hack⟩
  | publishCrashed manifest =>
      cases hwindow : s.window with
      | none => simpa only [publicationStep, hwindow] using h
      | some window =>
          simp only [publicationStep, hwindow]
          exact h.commit hwindow manifest fun _ hnone => nomatch hnone
  | report =>
      cases hwindow : s.window with
      | none => simpa only [publicationStep, hwindow] using h
      | some window =>
          obtain ⟨hexact, hack⟩ := h.exact window hwindow
          have hmoved := hexact.acknowledge h.numbered h.ack_high
          simp only [publicationStep, hwindow]
          refine ⟨h.numbered, ?_, h.ack_low, h.ack_high, h.highest, h.cursor_low, h.cursor_high, ?_⟩
          · rintro _ ⟨⟩
            exact ⟨hmoved, (acknowledged_applyCatalogAck hack).le⟩
          · intro other hother
            have hother : other ∈ (applyCatalogAck limit s.manifests window
              s.acknowledged).publishedBatches := hother
            rw [hmoved.batches] at hother
            exact List.mem_of_mem_filter (List.mem_of_mem_take hother)
  | crash =>
      exact ⟨h.numbered, fun _ hnone => (nomatch hnone), h.ack_low, h.ack_high, h.highest,
        h.cursor_low, h.cursor_high, h.listed⟩
  | recover =>
      refine ⟨h.numbered, ?_, h.ack_low, h.ack_high, h.highest, h.cursor_low, h.cursor_high,
        h.listed⟩
      rintro _ ⟨⟩
      exact ⟨recover_exact limit h.numbered h.ack_low h.ack_high, le_refl _⟩
  | reconcile materialized =>
      obtain ⟨hle, hlt⟩ := @cursor_publishPending materialized s.manifests.length
        (normalizePublications s.report) s.cursor s.published
        (fun publication hpublication => h.normalized hpublication) h.cursor_low h.cursor_high
      rw [publicationStep]
      obtain ⟨⟨cursor, published⟩, hresult⟩ : ∃ result, result = publishPendingBatches materialized
        (normalizePublications s.report) s.cursor s.published := ⟨_, rfl⟩
      rw [← hresult] at hle hlt ⊢
      have hmoved : Kept limit { s with cursor, published } :=
        ⟨h.numbered, h.exact, h.ack_low, h.ack_high, h.highest, h.cursor_low.trans hle, hlt,
          h.listed⟩
      cases cursor with
      | none => exact hmoved
      | some batchId =>
          have hack : s.acknowledged ≤ batchId := le_trans hevent hle
          exact hmoved.writeAck hack hlt
  | acknowledge batchId => exact h.writeAck hevent.1 hevent.2

/-- The reports of a state that is kept. -/
theorem Kept.reports (h : Kept limit s) (event : PublicationEvent) :
    ReportsWindow limit s event := by
  cases event with
  | report =>
      intro window hwindow
      cases hold : s.window with
      | none =>
          simp only [publicationStep, hold] at hwindow
          exact nomatch hwindow
      | some old =>
          obtain ⟨hexact, hack⟩ := h.exact old hold
          have hmoved := hexact.acknowledge h.numbered h.ack_high
          simp only [publicationStep, hold, Option.some.injEq] at hwindow
          subst hwindow
          have hsame : (applyCatalogAck limit s.manifests old s.acknowledged).catalogAckBatchId =
              s.acknowledged := acknowledged_applyCatalogAck hack
          have hbatches := hmoved.batches
          have hbacklog := hmoved.backlog
          rw [hsame] at hbatches hbacklog
          rw [h.highest]
          exact ⟨hbatches, hbacklog⟩
  | publish _ => trivial
  | publishCrashed _ => trivial
  | crash => trivial
  | recover => trivial
  | reconcile _ => trivial
  | acknowledge _ => trivial

/-! ## The control plane alone -/

/-- Listed batches follow each other, and each one before them is published. -/
structure Consecutive (s : PublicationSystem) : Prop where
  document : s.catalogAck = s.cursor
  listed : ∃ low high, s.report = between BatchManifest.batchId s.manifests low high ∧
    0 ≤ low ∧ low ≤ high ∧ high ≤ s.manifests.length ∧ low ≤ s.cursor.getD (-1) + 1
  done : ∀ batchId, 0 ≤ batchId → batchId ≤ s.cursor.getD (-1) → batchId ∈ s.published

theorem Consecutive.acknowledged (h : Consecutive s) : s.acknowledged = s.cursor.getD (-1) := by
  rw [PublicationSystem.acknowledged, h.document]

theorem Consecutive.neverPast (hkept : Kept limit s) (h : Consecutive s) : NeverPast s := by
  intro manifest hmanifest hle
  rw [h.acknowledged] at hle
  exact h.done _ (hkept.numbered.bounds hmanifest).1 hle

theorem normalizePublications_between {manifests : List BatchManifest}
    (h : Numbered BatchManifest.batchId manifests) (low high : Int) :
    normalizePublications (between BatchManifest.batchId manifests low high) =
      between BatchManifest.batchId manifests low high := by
  have hall : (between BatchManifest.batchId manifests low high).filter
      (fun publication => 0 ≤ publication.batchId) =
        between BatchManifest.batchId manifests low high := by
    refine List.filter_eq_self.mpr fun publication hpublication => decide_eq_true ?_
    exact (h.bounds (mem_between.mp hpublication).1).1
  rw [normalizePublications, hall, sortByBatchId_between h]

/-- Consecutive batches from the cursor on are published one by one. -/
theorem done_publishPending (materialized : BatchManifest → Bool) {manifests : List BatchManifest}
    (hnumbered : Numbered BatchManifest.batchId manifests) {n : Nat} {low : Int}
    {cursor : Option Int} {published : List Int} (hlow : 0 ≤ low)
    (hhigh : low + n ≤ manifests.length) (hcursor : low ≤ cursor.getD (-1) + 1)
    (hdone : ∀ batchId, 0 ≤ batchId → batchId ≤ cursor.getD (-1) → batchId ∈ published) :
    ∀ batchId, 0 ≤ batchId →
      batchId ≤ (publishPendingBatches materialized
        (between BatchManifest.batchId manifests low (low + n)) cursor published).1.getD (-1) →
      batchId ∈ (publishPendingBatches materialized
        (between BatchManifest.batchId manifests low (low + n)) cursor published).2 := by
  induction n generalizing low cursor published with
  | zero =>
      rw [between_eq_nil (by omega)]
      exact hdone
  | succ n ih =>
      obtain ⟨manifest, hmanifest, hnumber⟩ := hnumbered.exists_number hlow (by omega)
      have hsplit : between BatchManifest.batchId manifests low (low + (n + 1 : Nat)) =
          manifest :: between BatchManifest.batchId manifests (low + 1) (low + 1 + n) := by
        rw [← hnumbered.between_append_between (by omega : low ≤ low + 1)
          (by omega : low + 1 ≤ low + (n + 1 : Nat)), hnumbered.between_single hmanifest hnumber]
        have hend : low + (n + 1 : Nat) = low + 1 + n := by omega
        rw [hend]
        rfl
      rw [hsplit, publishPendingBatches]
      split
      · rename_i hpast
        refine ih (by omega) (by omega) ?_ hdone
        cases cursor with
        | none => exact nomatch hpast
        | some last =>
            have hpast : manifest.batchId ≤ last := by simpa using hpast
            show low + 1 ≤ last + 1
            omega
      · rename_i hnew
        split
        · -- the batch after the cursor is published, and the cursor is on it
          have hmoved : (some (cursor.elim manifest.batchId fun last =>
              max last manifest.batchId)).getD (-1) = low := by
            cases cursor with
            | none => exact hnumber
            | some last =>
                have hnew : ¬ manifest.batchId ≤ last := by simpa using hnew
                show max last manifest.batchId = low
                omega
          refine ih (by omega) (by omega) (by omega) fun batchId hnonneg hle => ?_
          rw [hmoved] at hle
          by_cases hsame : batchId = low
          · rw [hsame, ← hnumber]
            exact List.mem_append_right _ List.mem_cons_self
          · refine List.mem_append_left _ (hdone batchId hnonneg ?_)
            omega
        · exact hdone

/-- A cursor is never lost. -/
theorem cursor_of_publishPending_eq_none {materialized : BatchManifest → Bool}
    {publications : List BatchManifest} {cursor : Option Int} {published : List Int}
    (h : (publishPendingBatches materialized publications cursor published).1 = none) :
    cursor = none := by
  induction publications generalizing cursor published with
  | nil => exact h
  | cons publication rest ih =>
      rw [publishPendingBatches] at h
      split at h
      · exact ih h
      · split at h
        · exact nomatch ih h
        · exact h

theorem Consecutive.start : Consecutive PublicationSystem.start where
  document := rfl
  listed := ⟨0, 0, rfl, le_refl _, le_refl _, le_refl _, by decide⟩
  done := fun batchId hnonneg hle => by
    have hle : batchId ≤ -1 := hle
    omega

theorem Consecutive.inOrder (h : Consecutive s) {event : PublicationEvent}
    (hevent : event.internal) : AckInOrder s event := by
  cases event with
  | acknowledge _ => exact hevent.elim
  | reconcile _ => exact h.acknowledged.le
  | publish _ => trivial
  | publishCrashed _ => trivial
  | report => trivial
  | crash => trivial
  | recover => trivial

/-- A new manifest is after all that is listed. -/
theorem Consecutive.commit (hkept : Kept limit s) (h : Consecutive s)
    (hwindow : s.window = some window) (manifest : BatchManifest) (next : Option Window) :
    Consecutive
      { s with
        manifests := writeBatchManifest s.manifests (numberedManifest window manifest)
        window := next } := by
  obtain ⟨hwrite, hnumbered⟩ := hkept.write hwindow manifest
  obtain ⟨low, high, hreport, hlow, hle, hhigh, hcursor⟩ := h.listed
  have hnext : (numberedManifest window manifest).batchId = s.manifests.length :=
    (hkept.exact window hwindow).1.next
  rw [hwrite]
  refine ⟨h.document, ⟨low, high, ?_, hlow, hle, ?_, hcursor⟩, h.done⟩
  · rw [between_append, between_singleton, if_neg (by omega), List.append_nil]
    exact hreport
  · show high ≤ ((s.manifests ++ [numberedManifest window manifest]).length : Int)
    rw [List.length_append]
    omega

theorem Consecutive.step (hkept : Kept limit s) (h : Consecutive s) {event : PublicationEvent}
    (hevent : event.internal) : Consecutive (publicationStep limit s event) := by
  cases event with
  | publish manifest =>
      cases hwindow : s.window with
      | none => simpa only [publicationStep, hwindow] using h
      | some window =>
          simp only [publicationStep, hwindow]
          exact h.commit hkept hwindow manifest _
  | publishCrashed manifest =>
      cases hwindow : s.window with
      | none => simpa only [publicationStep, hwindow] using h
      | some window =>
          simp only [publicationStep, hwindow]
          exact h.commit hkept hwindow manifest _
  | report =>
      cases hwindow : s.window with
      | none => simpa only [publicationStep, hwindow] using h
      | some window =>
          obtain ⟨hexact, hack⟩ := hkept.exact window hwindow
          have hmoved := hexact.acknowledge hkept.numbered hkept.ack_high
          have hbatches := hmoved.batches
          rw [acknowledged_applyCatalogAck hack, unacknowledged_eq hkept.numbered] at hbatches
          have hlow := hkept.ack_low
          have hhigh := hkept.ack_high
          rw [hkept.numbered.take_between (by omega) (by omega) (le_refl _)] at hbatches
          simp only [publicationStep, hwindow]
          refine ⟨h.document, ⟨s.acknowledged + 1, _, hbatches, by omega, by omega,
            min_le_left _ _, ?_⟩, h.done⟩
          show s.acknowledged + 1 ≤ s.cursor.getD (-1) + 1
          rw [h.acknowledged]
  | crash => exact ⟨h.document, h.listed, h.done⟩
  | recover => exact ⟨h.document, h.listed, h.done⟩
  | reconcile materialized =>
      obtain ⟨low, high, hreport, hlow, hle, hhigh, hcursor⟩ := h.listed
      obtain ⟨n, rfl⟩ : ∃ n : Nat, high = low + n := ⟨(high - low).toNat, by omega⟩
      have hnormal : normalizePublications s.report =
          between BatchManifest.batchId s.manifests low (low + n) := by
        rw [hreport, normalizePublications_between hkept.numbered]
      have hdone := done_publishPending materialized hkept.numbered hlow hhigh hcursor h.done
      rw [← hnormal] at hdone
      obtain ⟨hmoved, -⟩ := @cursor_publishPending materialized s.manifests.length
        (normalizePublications s.report) s.cursor s.published
        (fun publication hpublication => hkept.normalized hpublication) hkept.cursor_low
        hkept.cursor_high
      have hnone := @cursor_of_publishPending_eq_none materialized
        (normalizePublications s.report) s.cursor s.published
      rw [publicationStep]
      obtain ⟨⟨cursor, published⟩, hresult⟩ : ∃ result, result = publishPendingBatches materialized
        (normalizePublications s.report) s.cursor s.published := ⟨_, rfl⟩
      rw [← hresult] at hdone hmoved hnone ⊢
      cases cursor with
      | none =>
          have hcursor : low ≤ -1 + 1 := hcursor.trans (by
            have : s.cursor.getD (-1) ≤ -1 := hmoved
            omega)
          exact ⟨h.document.trans (hnone rfl), ⟨low, low + n, hreport, hlow, hle, hhigh, hcursor⟩,
            hdone⟩
      | some batchId =>
          have hcursor : low ≤ batchId + 1 := hcursor.trans (by
            have : s.cursor.getD (-1) ≤ batchId := hmoved
            omega)
          exact ⟨rfl, ⟨low, low + n, hreport, hlow, hle, hhigh, hcursor⟩, hdone⟩
  | acknowledge batchId => exact hevent.elim

/-- Every report lists the window of the highest acknowledgement, where the
acknowledgements come in order.  Where they come from the control plane, they do,
and none is past a durable batch that is not published. -/
theorem publication_window (limit : Nat) (events : List PublicationEvent) :
    (Along AckInOrder (publicationStep limit) .start events →
      Along (ReportsWindow limit) (publicationStep limit) .start events) ∧
    ((∀ event ∈ events, event.internal) →
      Along (ReportsWindow limit) (publicationStep limit) .start events ∧
        Always NeverPast (publicationStep limit) .start events) := by
  constructor
  · intro hordered
    exact Along.of_keeps (fun s event hs _ => hs.reports event)
      (fun s event hs hevent => hs.step hevent) Kept.start hordered
  · intro hinternal
    have hcalls : Along (fun _ event => event.internal) (publicationStep limit) .start events :=
      along_of_forall hinternal
    have hkeep : ∀ s event, Kept limit s ∧ Consecutive s → event.internal →
        Kept limit (publicationStep limit s event) ∧
          Consecutive (publicationStep limit s event) := by
      rintro s event ⟨hkept, hconsecutive⟩ hevent
      exact ⟨hkept.step (hconsecutive.inOrder hevent), hconsecutive.step hkept hevent⟩
    have hstart : Kept limit .start ∧ Consecutive .start := ⟨Kept.start, Consecutive.start⟩
    refine ⟨Along.of_keeps (fun s event hs _ => hs.1.reports event) hkeep hstart hcalls, ?_⟩
    exact (Always.of_along hkeep hstart hcalls).imp fun s hs => hs.2.neverPast hs.1

end

/-! ## Two batches -/

/-- A batch of one record of `orders`, not yet numbered. -/
def ordersManifest : BatchManifest where
  batchId := 0
  runId := "continuous:job-1:batch:0:0f"
  sourceRanges := []
  sourceBoundary :=
    { batchId := 0
      checkpointPath := "s3://lake/checkpoint"
      consumerGroupId := "asklake"
      jobId := "job-1"
      kind := .kafkaContinuousBatch
      sourceRanges := []
      topic := "orders"
      plan := none
      boundaryId := "0f"
      runId := "continuous:job-1:batch:0:0f" }
  consumedCount := 1
  storedCount := 1
  quarantinedCount := 0
  droppedCount := 0
  ruleFingerprint := "rules"
  runtimeFingerprint := "runtime"
  schemaFingerprint := "schema"
  icebergCommit := none

/-- Three batches, a window of two, and a crash after the first acknowledgement. -/
theorem publication_window_orders :
    Along (ReportsWindow 2) (publicationStep 2) .start
        [.recover, .publish ordersManifest, .publish ordersManifest, .acknowledge 0, .report,
          .publishCrashed ordersManifest, .acknowledge 1, .recover, .report] ∧
      Always NeverPast (publicationStep 2) .start
        [.recover, .publish ordersManifest, .publish ordersManifest, .report,
          .reconcile fun _ => true, .crash, .recover, .report] := by
  refine ⟨(publication_window 2 _).1 ?_, ((publication_window 2 _).2 ?_).2⟩
  · decide +kernel
  · exact List.forall_iff_forall_mem.mp
      ⟨trivial, trivial, trivial, trivial, trivial, trivial, trivial, trivial⟩

/-- An acknowledgement that is lower than the one before it replaces it, and what
is acknowledged is listed again. -/
theorem lower_acknowledgement_listed_again :
    ¬ Along (ReportsWindow 2) (publicationStep 2) .start
        [.recover, .publish ordersManifest, .publish ordersManifest, .acknowledge 1,
          .acknowledge 0, .report] := by
  rintro ⟨-, -, -, -, -, hreport, -⟩
  have hwindow := hreport ⟨0, 1, [{ ordersManifest with batchId := 1 }], 1⟩ (by decide +kernel)
  exact absurd hwindow.1 (by decide +kernel)

end AskLake.StreamWorker

/-
# `AskLake.KafkaPublication.CatalogCursor` — what the catalog cursor promises

The cursor of a runtime says which batches are in the catalog.  Over one call of
`reconcile_continuous_publications`, with a concurrent writer that may raise the persisted
cursor between two batches (`ReconcileCall.Raises`):

    the batches are attempted in the order of their ids, none below the cursor, and none after
      one that failed
    neither the cursor that is returned nor the one that is stored goes back
    a listed batch that the cursor has passed is published, or the writer has passed it

All this holds of every call.  The mark for the next call, `publicationRecoveryPending`, is
set where a batch fails and where a recovery that was requested cannot read its manifests; the
terminal recovery leaves it as it is (`HonestCursor` holds where that one does not fail).
-/
import AskLake.KafkaPublication.Reconcile

namespace AskLake.KafkaPublication

open AskLake.Lib AskLake.Python AskLake.Kafka AskLake.Dashboard

open AskLake.ContinuousRuntime (nonnegativeInt)

variable {call : ReconcileCall}

/-- A batch id, among the cursors. -/
abbrev at_ (batchId : Nat) : WithBot Int := ((batchId : Int) : WithBot Int)

/-! ## What is asked of a call -/

namespace ReconcileCall

/-- The batches beyond the cursor with a `_SUCCESS` marker. -/
def listing (call : ReconcileCall) (through : Option Int) : Option (List Nat) :=
  call.hooks.listManifestBatchIds call.afterBatchId through

/-- The batches that the call has before it, by the place it takes them from. -/
def listed (call : ReconcileCall) : List Nat :=
  match call.source with
  | .recovery => (call.listing none).getD []
  | .report => call.report.publishedBatches.filterMap fun item =>
      item.bind fun publication => (publication.batchId.filter (0 ≤ ·)).map Int.toNat
  | .terminal last => (call.listing (some last)).getD []
  | .nothing => []

/-- The manifests cannot be listed, or one of those listed cannot be read. -/
def Unreadable (ids : Option (List Nat)) (read : Nat → Option StreamPublication) : Prop :=
  ∀ known ∈ ids, ∃ id ∈ known, read id = none

/-- The terminal recovery finds that the manifests cannot be listed, or, with the last one
among them, that one cannot be read. -/
def TerminalRecoveryFails (call : ReconcileCall) : Prop :=
  ∃ last, call.source = .terminal last ∧
    (∀ ids ∈ call.listing (some last), last ∈ ids.map (Int.ofNat ·)) ∧
    Unreadable (call.listing (some last)) (call.readTerminal last)

/-- A recovery, requested or terminal, cannot list or read its manifests. -/
def RecoveryFails (call : ReconcileCall) : Prop :=
  (call.source = .recovery ∧ Unreadable (call.listing none) call.readManifest) ∨
    call.TerminalRecoveryFails

/-- Nobody lowers the cursor in the row of the runtime. -/
def Raises (call : ReconcileCall) : Prop :=
  ∀ k publication, ∀ row ∈ (call.hooks.publishOne k publication).locked,
    call.cursor ≤ row.metrics.catalogBatchCursor ∧
      ∀ j < k, ∀ earlier, ∀ row' ∈ (call.hooks.publishOne j earlier).locked,
        row'.metrics.catalogBatchCursor ≤ row.metrics.catalogBatchCursor

end ReconcileCall

/-- A batch that this call has published, or that a concurrent writer has passed. -/
def Covered (attempts : List Attempt) (id : Nat) : Prop :=
  (∃ attempt ∈ attempts, attempt.batchId = id ∧ attempt.published = true) ∨
    ∃ attempt ∈ attempts, attempt.Raised ∧ at_ id ≤ attempt.persisted

/-- The catalog cursor, over one call. -/
structure HonestCursor (call : ReconcileCall) (result : Reconciled) : Prop where
  ascending : result.attempts.Pairwise fun a b => a.batchId < b.batchId
  /-- nothing at or below the cursor is attempted: the initial one, or a persisted one -/
  beyond : ∀ a ∈ result.attempts, call.cursor < at_ a.batchId ∧ a.cursor < at_ a.batchId
  unpassed : result.attempts.Pairwise fun a b => a.persisted < at_ b.batchId
  stops : result.attempts.Pairwise fun a _ => a.published = true
  returned : call.cursor ≤ result.cursor ∧ ∀ a ∈ result.attempts, a.persisted ≤ result.cursor
  stored : call.cursor ≤ result.runtime.metrics.catalogBatchCursor ∧
    result.runtime.metrics.catalogBatchCursor ≤ result.cursor ∧
    ∀ a ∈ result.attempts, a.persisted ≤ result.runtime.metrics.catalogBatchCursor
  covered : ∀ id ∈ call.listed, call.cursor < at_ id → at_ id ≤ result.cursor →
    Covered result.attempts id
  pendingOnFailure : (∃ a ∈ result.attempts, a.published = false) →
    result.runtime.metrics.publicationRecoveryPending = some true
  pendingOnRecovery : call.RecoveryFails →
    result.runtime.metrics.publicationRecoveryPending = some true
  cleared : call.source = .recovery → ¬ call.RecoveryFails →
    (∀ a ∈ result.attempts, a.published = true) →
    result.runtime.metrics.publicationRecoveryPending = some false

/-! ## The selected publications -/

theorem batchNumber_of_batchId {publication : StreamPublication} {id : Nat}
    (h : publication.batchId = some (id : Int)) : publication.batchNumber = id := by
  simp [StreamPublication.batchNumber, nonnegativeInt, h]

theorem readManifest_batchId {id : Nat} {manifest : StreamPublication}
    (h : call.readManifest id = some manifest) : manifest.batchId = some (id : Int) := by
  unfold ReconcileCall.readManifest at h
  split at h
  · exact nomatch h
  · split at h
    · rename_i hid
      cases h
      exact hid
    · exact nomatch h

theorem readTerminal_batchId {last : Int} {id : Nat} {manifest : StreamPublication}
    (h : call.readTerminal last id = some manifest) : manifest.batchId = some (id : Int) := by
  unfold ReconcileCall.readTerminal at h
  split at h
  · split at h
    · rename_i hsuffices
      cases h
      exact hsuffices.2.1
    · exact readManifest_batchId h
  · exact readManifest_batchId h

/-- All are read where each can be. -/
theorem readManifests_returns {read : Nat → Option StreamPublication} {ids : List Nat} :
    (∃ manifests, readManifests read ids = .ok manifests) ↔ ¬ ∃ id ∈ ids, read id = none := by
  constructor
  · rintro ⟨manifests, h⟩ ⟨id, hid, hnone⟩
    obtain ⟨manifest, -, hmanifest⟩ := exists_right_of_mem (mapM_eq_ok.mp h) hid
    rw [orReject_eq_ok.mp hmanifest] at hnone
    exact nomatch hnone
  · intro h
    induction ids with
    | nil => exact ⟨[], rfl⟩
    | cons first rest ih =>
        obtain ⟨manifests, hrest⟩ := ih fun ⟨id, hid, hnone⟩ =>
          h ⟨id, List.mem_cons_of_mem _ hid, hnone⟩
        obtain ⟨manifest, hfirst⟩ := Option.ne_none_iff_exists'.mp fun hnone =>
          h ⟨first, List.mem_cons_self, hnone⟩
        exact ⟨manifest :: manifests,
          mapM_eq_ok.mpr (.cons (orReject_eq_ok.mpr hfirst) (mapM_eq_ok.mp hrest))⟩

theorem mem_normalizePublications {publications : List StreamPublication}
    {publication : StreamPublication} : publication ∈ normalizePublications publications ↔
      publication ∈ publications ∧ ∃ id : Int, publication.batchId = some id ∧ 0 ≤ id := by
  rw [normalizePublications, List.mem_insertionSort, List.mem_filter]
  refine and_congr_right fun _ => ?_
  cases publication.batchId <;> simp

/-- The batches of the publications, in the order of their ids. -/
theorem normalizePublications_sorted (publications : List StreamPublication) :
    (normalizePublications publications).Pairwise fun a b => a.batchNumber ≤ b.batchNumber := by
  have : Std.Total fun a b : StreamPublication => a.batchNumber ≤ b.batchNumber :=
    ⟨fun a b => Nat.le_total _ _⟩
  have : IsTrans StreamPublication fun a b => a.batchNumber ≤ b.batchNumber :=
    ⟨fun _ _ _ => Nat.le_trans⟩
  exact List.pairwise_insertionSort _ _

/-- Each batch whose manifest was read is among the publications. -/
theorem exists_of_readManifests {read : Nat → Option StreamPublication}
    (hread : ∀ id manifest, read id = some manifest → manifest.batchId = some (id : Int))
    {ids : List Nat} {manifests : List StreamPublication}
    (h : readManifests read ids = .ok manifests) {id : Nat} (hid : id ∈ ids) :
    ∃ publication ∈ normalizePublications manifests, publication.batchNumber = id := by
  obtain ⟨manifest, hmem, hmanifest⟩ := exists_right_of_mem (mapM_eq_ok.mp h) hid
  have hbatch := hread _ _ (orReject_eq_ok.mp hmanifest)
  exact ⟨manifest, mem_normalizePublications.mpr ⟨hmem, _, hbatch, Int.natCast_nonneg id⟩,
    batchNumber_of_batchId hbatch⟩

/-- A terminal recovery returns where the manifests can be listed, with the last one among
them, and each can be read. -/
theorem recoverTerminalPublications_eq_ok {last : Int} {manifests : List StreamPublication} :
    call.recoverTerminalPublications last = .ok manifests ↔
      ∃ ids, call.listing (some last) = some ids ∧ last ∈ ids.map (Int.ofNat ·) ∧
        readManifests (call.readTerminal last) ids = .ok manifests := by
  unfold ReconcileCall.recoverTerminalPublications ReconcileCall.listing
  cases call.hooks.listManifestBatchIds call.afterBatchId (some last) with
  | none => simp
  | some ids =>
      by_cases hlast : last ∈ ids.map (Int.ofNat ·)
      · simp only [if_pos hlast, mapError_eq_ok]
        constructor
        · intro h
          exact ⟨ids, rfl, hlast, h⟩
        · rintro ⟨_, ⟨⟩, -, h⟩
          exact h
      · simp only [if_neg hlast]
        constructor
        · intro h
          exact nomatch h
        · rintro ⟨_, ⟨⟩, hmem, -⟩
          exact absurd hmem hlast

theorem recoverCompletedPublications_eq_ok {manifests : List StreamPublication} :
    call.recoverCompletedPublications = .ok manifests ↔
      ∃ ids, call.listing none = some ids ∧ readManifests call.readManifest ids = .ok manifests := by
  unfold ReconcileCall.recoverCompletedPublications ReconcileCall.listing
  cases call.hooks.listManifestBatchIds call.afterBatchId none with
  | none => simp
  | some ids => simp [mapError_eq_ok]

/-- Each listed batch is among the publications that the call takes up. -/
theorem exists_of_listed {publications : List StreamPublication}
    (h : call.selectPublications = .ok publications) {id : Nat} (hid : id ∈ call.listed) :
    ∃ publication ∈ normalizePublications publications, publication.batchNumber = id := by
  unfold ReconcileCall.selectPublications at h
  unfold ReconcileCall.listed at hid
  cases hsource : call.source with
  | recovery =>
      rw [hsource] at h hid
      obtain ⟨ids, hlisting, hread⟩ := recoverCompletedPublications_eq_ok.mp h
      exact exists_of_readManifests (fun _ _ => readManifest_batchId) hread
        (by simpa [hlisting] using hid)
  | report =>
      rw [hsource] at h hid
      cases h
      obtain ⟨item, hitem, hbatch⟩ := List.mem_filterMap.mp hid
      obtain ⟨publication, rfl, hbatch⟩ := Option.bind_eq_some_iff.mp hbatch
      obtain ⟨n, hn, rfl⟩ := Option.map_eq_some_iff.mp hbatch
      obtain ⟨hn, hnonneg⟩ := Option.filter_eq_some_iff.mp hn
      have hnonneg' : 0 ≤ n := of_decide_eq_true hnonneg
      refine ⟨publication, mem_normalizePublications.mpr
        ⟨List.mem_filterMap.mpr ⟨_, hitem, rfl⟩, n, hn, hnonneg'⟩, ?_⟩
      exact batchNumber_of_batchId (by rw [hn, Int.toNat_of_nonneg hnonneg'])
  | terminal last =>
      rw [hsource] at h hid
      obtain ⟨ids, hlisting, -, hread⟩ := recoverTerminalPublications_eq_ok.mp h
      exact exists_of_readManifests (fun _ _ => readTerminal_batchId) hread
        (by simpa [hlisting] using hid)
  | nothing =>
      rw [hsource] at hid
      exact nomatch hid

/-! ## The loop -/

/-- What the loop has done, while no batch has failed; `done` are the batches it has gone
through. -/
structure Running (call : ReconcileCall) (done : List Nat) (p : Progress) : Prop where
  going : p.recoveryFailed = false
  ascending : p.attempts.Pairwise fun a b => a.batchId < b.batchId
  beyond : ∀ a ∈ p.attempts, call.cursor < at_ a.batchId ∧ a.cursor < at_ a.batchId
  unpassed : p.attempts.Pairwise fun a b => a.persisted < at_ b.batchId
  published : ∀ a ∈ p.attempts, a.published = true
  attempted : ∀ a ∈ p.attempts, a.batchId ∈ done
  locked : ∀ a ∈ p.attempts, a.persisted = ⊥ ∨ ∃ j < p.attempts.length, ∃ earlier,
    ∃ row ∈ (call.hooks.publishOne j earlier).locked, a.persisted = row.metrics.catalogBatchCursor
  initial : call.cursor ≤ p.cursor
  reached : ∀ a ∈ p.attempts, at_ a.batchId ≤ p.cursor ∧ a.persisted ≤ p.cursor
  covered : ∀ id ∈ done, call.cursor < at_ id → Covered p.attempts id
  /-- the cursor is where it was, at a published batch, or where the writer has moved it -/
  traced : ∀ id, call.cursor < at_ id → at_ id ≤ p.cursor →
    (∃ a ∈ p.attempts, id ≤ a.batchId) ∨ ∃ a ∈ p.attempts, a.Raised ∧ at_ id ≤ a.persisted
  stored : p.metrics.catalogBatchCursor = p.cursor
  metrics : p.runtime.metrics = p.metrics

/-- What the loop has done when it ends; `ids` are all its batches. -/
structure Finished (call : ReconcileCall) (ids : List Nat) (p : Progress) : Prop where
  ascending : p.attempts.Pairwise fun a b => a.batchId < b.batchId
  beyond : ∀ a ∈ p.attempts, call.cursor < at_ a.batchId ∧ a.cursor < at_ a.batchId
  unpassed : p.attempts.Pairwise fun a b => a.persisted < at_ b.batchId
  stops : p.attempts.Pairwise fun a _ => a.published = true
  failed : p.recoveryFailed = true ↔ ∃ a ∈ p.attempts, a.published = false
  initial : call.cursor ≤ p.cursor
  reached : ∀ a ∈ p.attempts, a.persisted ≤ p.cursor
  covered : ∀ id ∈ ids, call.cursor < at_ id → at_ id ≤ p.cursor → Covered p.attempts id
  stored : call.cursor ≤ p.metrics.catalogBatchCursor ∧
    p.metrics.catalogBatchCursor ≤ p.cursor ∧
    ∀ a ∈ p.attempts, a.persisted ≤ p.metrics.catalogBatchCursor
  metrics : p.runtime.metrics = p.metrics

theorem Covered.append {attempts : List Attempt} {id : Nat} (h : Covered attempts id)
    (more : List Attempt) : Covered (attempts ++ more) id := by
  rcases h with ⟨a, ha, hpub⟩ | ⟨a, ha, hraised⟩
  · exact Or.inl ⟨a, List.mem_append_left _ ha, hpub⟩
  · exact Or.inr ⟨a, List.mem_append_left _ ha, hraised⟩

theorem at_le_iff {a b : Nat} : at_ a ≤ at_ b ↔ a ≤ b := by
  rw [WithBot.coe_le_coe, Int.ofNat_le]

theorem at_lt_iff {a b : Nat} : at_ a < at_ b ↔ a < b := by
  rw [WithBot.coe_lt_coe, Int.ofNat_lt]

theorem Running.start (call : ReconcileCall) : Running call [] call.start where
  going := rfl
  ascending := .nil
  beyond := fun _ h => nomatch h
  unpassed := .nil
  published := fun _ h => nomatch h
  attempted := fun _ h => nomatch h
  locked := fun _ h => nomatch h
  initial := le_rfl
  reached := fun _ h => nomatch h
  covered := fun _ h => nomatch h
  traced := fun _ hinitial hcursor => absurd hcursor (not_le_of_gt hinitial)
  stored := rfl
  metrics := rfl

section
variable {done : List Nat} {p : Progress} (h : Running call done p)
include h

/-- A batch that the cursor has passed is gone through without an attempt. -/
theorem Running.skip {id : Nat} (hdone : ∀ id' ∈ done, id' ≤ id) (hid : at_ id ≤ p.cursor) :
    Running call (done ++ [id]) p where
  __ := h
  attempted := fun a ha => List.mem_append_left _ (h.attempted a ha)
  covered := by
    intro id' hmem hinitial
    rcases List.mem_append.mp hmem with hmem | hmem
    · exact h.covered id' hmem hinitial
    · obtain rfl := List.mem_singleton.mp hmem
      rcases h.traced id' hinitial hid with ⟨a, ha, hle⟩ | hraised
      · -- the ids ascend, so a batch that is not past an attempted one is that one
        have heq : a.batchId = id' := le_antisymm (hdone _ (h.attempted a ha)) hle
        exact Or.inl ⟨a, ha, heq, h.published a ha⟩
      · exact Or.inr hraised

/-- Where no batch has failed the loop may end. -/
theorem Running.finish : Finished call done p where
  ascending := h.ascending
  beyond := h.beyond
  unpassed := h.unpassed
  stops := h.ascending.imp_of_mem fun ha _ _ => h.published _ ha
  failed := by
    rw [h.going]
    constructor
    · intro hfalse
      exact nomatch hfalse
    · rintro ⟨a, ha, hfalse⟩
      rw [h.published a ha] at hfalse
      exact nomatch hfalse
  initial := h.initial
  reached := fun a ha => (h.reached a ha).2
  covered := fun id hid hinitial _ => h.covered id hid hinitial
  stored := by
    rw [h.stored]
    exact ⟨h.initial, le_rfl, fun a ha => (h.reached a ha).2⟩
  metrics := h.metrics

end

/-! ## One attempt -/

section
variable {p : Progress} {publication : StreamPublication}

/-- The attempt that the pass adds. -/
def ReconcileCall.attempted (call : ReconcileCall) (p : Progress)
    (publication : StreamPublication) : Attempt where
  batchId := publication.batchNumber
  cursor := p.cursor
  published := (call.answer p publication).published
  persisted := persistedCursor (call.relocked p publication)

theorem attempt_attempts : (call.attempt p publication).attempts =
    p.attempts ++ [call.attempted p publication] := by
  cases h : (call.answer p publication).published with
  | true => simp [ReconcileCall.attempt, ReconcileCall.attempted, h]
  | false => simp [ReconcileCall.attempt, ReconcileCall.attempted, h]

/-- A published batch moves the cursor over itself and over what was persisted. -/
theorem attempt_published (h : (call.answer p publication).published = true) :
    (call.attempt p publication).cursor =
        max (max p.cursor (call.attempted p publication).persisted) (at_ publication.batchNumber) ∧
      (call.attempt p publication).metrics.catalogBatchCursor =
        (call.attempt p publication).cursor ∧
      (call.attempt p publication).runtime.metrics = (call.attempt p publication).metrics ∧
      (call.attempt p publication).recoveryFailed = p.recoveryFailed := by
  simp only [ReconcileCall.attempt, ReconcileCall.attempted, h, if_true, max_def_lt p.cursor,
    and_self]

/-- A failed one leaves it, but for what was persisted. -/
theorem attempt_failed (h : (call.answer p publication).published = false) :
    (call.attempt p publication).cursor =
        max p.cursor (call.attempted p publication).persisted ∧
      (call.attempt p publication).metrics.catalogBatchCursor =
        (if (call.attempted p publication).persisted = ⊥ then p.metrics.catalogBatchCursor
          else (call.attempted p publication).persisted) ∧
      (call.attempt p publication).runtime.metrics = (call.attempt p publication).metrics ∧
      (call.attempt p publication).metrics.publicationRecoveryPending = some true ∧
      (call.attempt p publication).recoveryFailed = true := by
  simp only [ReconcileCall.attempt, ReconcileCall.attempted, h, Bool.false_eq_true, if_false,
    max_def_lt p.cursor, and_self, and_true, true_and]
  cases call.relocked p publication with
  | none => rfl
  | some row => rfl

/-- What an attempt finds persisted was in a row that was locked. -/
theorem attempted_locked : (call.attempted p publication).persisted = ⊥ ∨
    ∃ row ∈ (call.hooks.publishOne p.attempts.length publication).locked,
      (call.attempted p publication).persisted = row.metrics.catalogBatchCursor := by
  cases hrow : call.relocked p publication with
  | none =>
      left
      simp [ReconcileCall.attempted, hrow, persistedCursor]
  | some row =>
      right
      refine ⟨row, ?_, by simp [ReconcileCall.attempted, hrow, persistedCursor]⟩
      unfold ReconcileCall.relocked at hrow
      split at hrow
      · exact hrow
      · exact nomatch hrow

/-- Nobody lowers the cursor, so a row that is locked has at least what was there before. -/
theorem attempted_raises (hraises : call.Raises) {done : List Nat} (h : Running call done p) :
    (call.attempted p publication).persisted = ⊥ ∨
      call.cursor ≤ (call.attempted p publication).persisted ∧
        ∀ a ∈ p.attempts, a.persisted ≤ (call.attempted p publication).persisted := by
  rcases @attempted_locked call p publication with hbot | ⟨row, hrow, hpersisted⟩
  · exact Or.inl hbot
  · obtain ⟨hinitial, hearlier⟩ := hraises _ _ row hrow
    refine Or.inr ⟨by rw [hpersisted]; exact hinitial, fun a ha => ?_⟩
    rw [hpersisted]
    rcases h.locked a ha with hbot | ⟨j, hj, earlier, row', hrow', ha'⟩
    · rw [hbot]
      exact bot_le
    · rw [ha']
      exact hearlier j hj earlier row' hrow'

end

section
variable {done : List Nat} {p : Progress} {publication : StreamPublication}

theorem pairwise_concat {α : Type} {R : α → α → Prop} {xs : List α} {x : α}
    (h : xs.Pairwise R) (hlast : ∀ a ∈ xs, R a x) : (xs ++ [x]).Pairwise R :=
  List.pairwise_append.mpr ⟨h, List.pairwise_singleton R x, fun a ha b hb => by
    obtain rfl := List.mem_singleton.mp hb
    exact hlast a ha⟩

theorem forall_concat {α : Type} {P : α → Prop} {xs : List α} {x : α} (h : ∀ a ∈ xs, P a)
    (hlast : P x) : ∀ a ∈ xs ++ [x], P a := by
  intro a ha
  rcases List.mem_append.mp ha with ha | ha
  · exact h a ha
  · obtain rfl := List.mem_singleton.mp ha
    exact hlast

/-- What holds of the attempts with one more, whether it is published or not. -/
structure Extended (call : ReconcileCall) (attempts : List Attempt) : Prop where
  ascending : attempts.Pairwise fun a b => a.batchId < b.batchId
  beyond : ∀ a ∈ attempts, call.cursor < at_ a.batchId ∧ a.cursor < at_ a.batchId
  unpassed : attempts.Pairwise fun a b => a.persisted < at_ b.batchId
  stops : attempts.Pairwise fun a _ => a.published = true

theorem Running.extended (h : Running call done p)
    (hid : p.cursor < at_ publication.batchNumber) :
    Extended call (p.attempts ++ [call.attempted p publication]) where
  ascending := pairwise_concat h.ascending fun a ha =>
    at_lt_iff.mp (lt_of_le_of_lt (h.reached a ha).1 hid)
  beyond := forall_concat h.beyond ⟨lt_of_le_of_lt h.initial hid, hid⟩
  unpassed := pairwise_concat h.unpassed fun a ha => lt_of_le_of_lt (h.reached a ha).2 hid
  stops := pairwise_concat (h.ascending.imp_of_mem fun ha _ _ => h.published _ ha) h.published

/-- The pass of a batch that is published. -/
theorem Running.publish (h : Running call done p)
    (hid : p.cursor < at_ publication.batchNumber)
    (hpublished : (call.answer p publication).published = true) :
    Running call (done ++ [publication.batchNumber]) (call.attempt p publication) := by
  obtain ⟨hcursor, hstored, hmetrics, hgoing⟩ := attempt_published hpublished
  have hext := h.extended hid
  have hgrows : p.cursor ≤ (call.attempt p publication).cursor := by
    rw [hcursor]
    exact (le_max_left _ _).trans (le_max_left _ _)
  refine ⟨hgoing.trans h.going, ?_, ?_, ?_, ?_, ?_, ?_, h.initial.trans hgrows, ?_, ?_, ?_,
    hstored, hmetrics⟩
  all_goals rw [attempt_attempts]
  · exact hext.ascending
  · exact hext.beyond
  · exact hext.unpassed
  · exact forall_concat h.published hpublished
  · exact forall_concat (fun a ha => List.mem_append_left _ (h.attempted a ha))
      (List.mem_append_right _ (List.mem_singleton_self _))
  · rw [List.length_append, List.length_singleton]
    refine forall_concat (fun a ha => ?_) ?_
    · rcases h.locked a ha with hbot | ⟨j, hj, hrow⟩
      · exact Or.inl hbot
      · exact Or.inr ⟨j, Nat.lt_succ_of_lt hj, hrow⟩
    · rcases attempted_locked with hbot | hrow
      · exact Or.inl hbot
      · exact Or.inr ⟨p.attempts.length, Nat.lt_succ_self _, publication, hrow⟩
  · refine forall_concat (fun a ha => ?_) ?_
    · exact ⟨(h.reached a ha).1.trans hgrows, (h.reached a ha).2.trans hgrows⟩
    · rw [hcursor]
      exact ⟨le_max_right _ _, (le_max_right _ _).trans (le_max_left _ _)⟩
  · refine forall_concat (fun id hmem hinitial => ?_) fun _ => ?_
    · exact (h.covered id hmem hinitial).append _
    · exact Or.inl ⟨_, List.mem_append_right _ (List.mem_singleton_self _), rfl, hpublished⟩
  · intro id hinitial hle
    rw [hcursor, le_max_iff, le_max_iff] at hle
    rcases hle with (hle | hle) | hle
    · rcases h.traced id hinitial hle with ⟨a, ha, hbefore⟩ | ⟨a, ha, hraised⟩
      · exact Or.inl ⟨a, List.mem_append_left _ ha, hbefore⟩
      · exact Or.inr ⟨a, List.mem_append_left _ ha, hraised⟩
    · rcases le_or_gt (at_ id) p.cursor with hle' | hgt
      · rcases h.traced id hinitial hle' with ⟨a, ha, hbefore⟩ | ⟨a, ha, hraised⟩
        · exact Or.inl ⟨a, List.mem_append_left _ ha, hbefore⟩
        · exact Or.inr ⟨a, List.mem_append_left _ ha, hraised⟩
      · exact Or.inr ⟨_, List.mem_append_right _ (List.mem_singleton_self _),
          lt_of_lt_of_le hgt hle, hle⟩
    · exact Or.inl ⟨_, List.mem_append_right _ (List.mem_singleton_self _), at_le_iff.mp hle⟩

/-- The pass of a batch that is not, which ends the loop; `rest` are the batches after it. -/
theorem Running.fail (h : Running call done p) (hraises : call.Raises)
    (hid : p.cursor < at_ publication.batchNumber) {rest : List Nat}
    (hrest : ∀ id ∈ rest, publication.batchNumber ≤ id)
    (hfailed : (call.answer p publication).published = false) :
    Finished call (done ++ publication.batchNumber :: rest) (call.attempt p publication) := by
  obtain ⟨hcursor, hstored, hmetrics, -, hended⟩ := attempt_failed hfailed
  have hext := h.extended hid
  have hgrows : p.cursor ≤ (call.attempt p publication).cursor := by
    rw [hcursor]
    exact le_max_left _ _
  have hlocked := @attempted_raises call p publication hraises done h
  refine ⟨?_, ?_, ?_, ?_, ?_, h.initial.trans hgrows, ?_, ?_, ?_, hmetrics⟩
  all_goals rw [attempt_attempts]
  · exact hext.ascending
  · exact hext.beyond
  · exact hext.unpassed
  · exact hext.stops
  · exact ⟨fun _ => ⟨_, List.mem_append_right _ (List.mem_singleton_self _), hfailed⟩,
      fun _ => hended⟩
  · refine forall_concat (fun a ha => (h.reached a ha).2.trans hgrows) ?_
    rw [hcursor]
    exact le_max_right _ _
  · intro id hmem hinitial hle
    rcases List.mem_append.mp hmem with hmem | hmem
    · exact (h.covered id hmem hinitial).append _
    · have hbeyond : p.cursor < at_ id := by
        rcases List.mem_cons.mp hmem with rfl | hmem
        · exact hid
        · exact lt_of_lt_of_le hid (at_le_iff.mpr (hrest id hmem))
      rw [hcursor, le_max_iff] at hle
      rcases hle with hle | hle
      · exact absurd hle (not_le_of_gt hbeyond)
      · exact Or.inr ⟨_, List.mem_append_right _ (List.mem_singleton_self _),
          lt_of_lt_of_le hbeyond hle, hle⟩
  · rw [hstored, hcursor]
    rcases hlocked with hbot | ⟨hinitial, hpersisted⟩
    · rw [if_pos hbot, h.stored]
      refine ⟨h.initial, le_max_left _ _, forall_concat (fun a ha => (h.reached a ha).2) ?_⟩
      rw [hbot]
      exact bot_le
    · by_cases hbot : (call.attempted p publication).persisted = ⊥
      · rw [if_pos hbot, h.stored]
        refine ⟨h.initial, le_max_left _ _, forall_concat (fun a ha => (h.reached a ha).2) ?_⟩
        rw [hbot]
        exact bot_le
      · rw [if_neg hbot]
        exact ⟨hinitial, le_max_right _ _, forall_concat hpersisted le_rfl⟩

end

/-- Every run of the loop, over batches in the order of their ids. -/
theorem publishPendingBatches_finished (hraises : call.Raises)
    {publications : List StreamPublication} {done : List Nat} {p : Progress}
    (h : Running call done p)
    (hsorted : publications.Pairwise fun a b => a.batchNumber ≤ b.batchNumber)
    (hdone : ∀ id ∈ done, ∀ publication ∈ publications, id ≤ publication.batchNumber) :
    Finished call (done ++ publications.map StreamPublication.batchNumber)
      (call.publishPendingBatches publications p) := by
  induction publications generalizing done p with
  | nil =>
      rw [List.map_nil, List.append_nil]
      exact h.finish
  | cons publication rest ih =>
      obtain ⟨hfirst, hsorted⟩ := List.pairwise_cons.mp hsorted
      have hdone' : ∀ id ∈ done ++ [publication.batchNumber], ∀ later ∈ rest,
          id ≤ later.batchNumber :=
        forall_concat (fun id hid later hlater => hdone id hid later (List.mem_cons_of_mem _ hlater))
          hfirst
      have happend : done ++ (publication :: rest).map StreamPublication.batchNumber =
          (done ++ [publication.batchNumber]) ++ rest.map StreamPublication.batchNumber := by
        rw [List.map_cons, List.append_assoc, List.singleton_append]
      rw [ReconcileCall.publishPendingBatches]
      split
      · rename_i hid
        rw [happend]
        exact ih (h.skip (fun id hmem => hdone id hmem _ List.mem_cons_self) hid) hsorted hdone'
      · rename_i hid
        have hid' : p.cursor < at_ publication.batchNumber := lt_of_not_ge hid
        cases hanswer : (call.answer p publication).published with
        | true =>
            have hrunning := h.publish hid' hanswer
            dsimp only
            rw [hrunning.going, if_neg Bool.false_ne_true, happend]
            exact ih hrunning hsorted hdone'
        | false =>
            have hlater : ∀ id ∈ rest.map StreamPublication.batchNumber,
                publication.batchNumber ≤ id := by
              intro id hmem
              obtain ⟨later, hlater, rfl⟩ := List.mem_map.mp hmem
              exact hfirst later hlater
            have hfinished := h.fail hraises hid' hlater hanswer
            dsimp only
            rw [(attempt_failed hanswer).2.2.2.2, if_pos rfl]
            exact hfinished

/-! ## Where nothing is selected -/

theorem source_recovery_iff : call.source = .recovery ↔ call.recoveryRequested = true := by
  unfold ReconcileCall.source
  split
  · rename_i h
    exact ⟨fun _ => h, fun _ => rfl⟩
  · rename_i h
    refine ⟨fun hsource => ?_, fun hrequested => absurd hrequested h⟩
    split at hsource
    · exact nomatch hsource
    · split at hsource <;> exact nomatch hsource

/-- A requested recovery selects something where its manifests can be read. -/
theorem recoverCompleted_returns :
    (∃ manifests, call.recoverCompletedPublications = .ok manifests) ↔
      ¬ ReconcileCall.Unreadable (call.listing none) call.readManifest := by
  unfold ReconcileCall.Unreadable
  constructor
  · rintro ⟨manifests, h⟩ hunreadable
    obtain ⟨ids, hlisting, hread⟩ := recoverCompletedPublications_eq_ok.mp h
    exact readManifests_returns.mp ⟨manifests, hread⟩ (hunreadable ids hlisting)
  · intro h
    obtain ⟨ids, hlisting, hreadable⟩ : ∃ ids, call.listing none = some ids ∧
        ¬ ∃ id ∈ ids, call.readManifest id = none := by simpa using h
    obtain ⟨manifests, hread⟩ := readManifests_returns.mpr hreadable
    exact ⟨manifests, recoverCompletedPublications_eq_ok.mpr ⟨ids, hlisting, hread⟩⟩

/-- One that selects nothing is marked, and leaves the cursor. -/
theorem recoverCompleted_error {runtime : RuntimeRow}
    (h : call.recoverCompletedPublications = .error runtime) :
    runtime.metrics = { call.runtime.metrics with publicationRecoveryPending := some true } := by
  unfold ReconcileCall.recoverCompletedPublications at h
  split at h
  · cases h
    rfl
  · rename_i ids _
    cases hread : readManifests call.readManifest ids with
    | error id =>
        rw [hread] at h
        cases h
        rfl
    | ok manifests =>
        rw [hread] at h
        exact nomatch h

/-- The terminal recovery leaves all the metrics. -/
theorem recoverTerminal_error {last : Int} {runtime : RuntimeRow}
    (h : call.recoverTerminalPublications last = .error runtime) :
    runtime.metrics = call.runtime.metrics := by
  unfold ReconcileCall.recoverTerminalPublications at h
  dsimp only at h
  split at h
  · cases h
    rfl
  · rename_i ids _
    split at h
    · cases hread : readManifests (call.readTerminal last) ids with
      | error id =>
          rw [hread] at h
          cases h
          rfl
      | ok manifests =>
          rw [hread] at h
          exact nomatch h
    · cases h
      rfl

/-- A terminal recovery that fails selects nothing. -/
theorem recoverTerminal_fails {last : Int} (hsource : call.source = .terminal last)
    (h : call.TerminalRecoveryFails) :
    ∃ runtime, call.recoverTerminalPublications last = .error runtime := by
  obtain ⟨last', hsource', -, hunreadable⟩ := h
  obtain rfl : last' = last := by
    rw [hsource] at hsource'
    cases hsource'
    rfl
  cases hselect : call.recoverTerminalPublications last' with
  | error runtime => exact ⟨runtime, rfl⟩
  | ok manifests =>
      obtain ⟨ids, hlisting, -, hread⟩ := recoverTerminalPublications_eq_ok.mp hselect
      exact absurd (hunreadable ids hlisting) (readManifests_returns.mp ⟨manifests, hread⟩)

/-- What is left behind where nothing is selected. -/
theorem select_error {runtime : RuntimeRow} (h : call.selectPublications = .error runtime) :
    runtime.metrics.catalogBatchCursor = call.cursor ∧
      (call.source = .recovery → call.RecoveryFails ∧
        runtime.metrics.publicationRecoveryPending = some true) := by
  unfold ReconcileCall.selectPublications at h
  cases hsource : call.source with
  | recovery =>
      rw [hsource] at h
      have hmetrics := recoverCompleted_error h
      refine ⟨by rw [hmetrics]; rfl, fun _ => ⟨Or.inl ⟨hsource, ?_⟩, by rw [hmetrics]⟩⟩
      by_contra hreadable
      obtain ⟨manifests, hok⟩ := recoverCompleted_returns.mpr hreadable
      rw [hok] at h
      exact nomatch h
  | report =>
      rw [hsource] at h
      exact nomatch h
  | terminal last =>
      rw [hsource] at h
      exact ⟨by rw [recoverTerminal_error h]; rfl, fun hfalse => nomatch hfalse⟩
  | nothing =>
      rw [hsource] at h
      exact nomatch h

/-- Where something is selected no recovery has failed. -/
theorem not_fails_of_select {publications : List StreamPublication}
    (h : call.selectPublications = .ok publications) : ¬ call.RecoveryFails := by
  unfold ReconcileCall.selectPublications at h
  rintro (⟨hsource, hunreadable⟩ | hfails)
  · rw [hsource] at h
    exact recoverCompleted_returns.mp ⟨publications, h⟩ hunreadable
  · obtain ⟨last, hsource, -⟩ := id hfails
    obtain ⟨runtime, herror⟩ := recoverTerminal_fails hsource hfails
    rw [hsource] at h
    exact nomatch herror.symm.trans h

/-! ## The cursor over a call -/

/-- A call whose recovery leaves nothing to publish. -/
theorem honest_of_error {runtime : RuntimeRow} (h : call.selectPublications = .error runtime)
    (hterminal : ¬ call.TerminalRecoveryFails) :
    HonestCursor call ⟨call.cursor, runtime, []⟩ where
  ascending := .nil
  beyond := fun _ ha => nomatch ha
  unpassed := .nil
  stops := .nil
  returned := ⟨le_rfl, fun _ ha => nomatch ha⟩
  stored := by
    rw [(select_error h).1]
    exact ⟨le_rfl, le_rfl, fun _ ha => nomatch ha⟩
  covered := fun _ _ hinitial hle => absurd hle (not_le_of_gt hinitial)
  pendingOnFailure := by
    rintro ⟨_, ha, -⟩
    exact nomatch ha
  pendingOnRecovery := by
    rintro (⟨hsource, -⟩ | hfails)
    · exact ((select_error h).2 hsource).2
    · exact absurd hfails hterminal
  cleared := fun hsource hreadable _ => absurd ((select_error h).2 hsource).1 hreadable

/-- A call that goes through the publications it has selected. -/
theorem honest_of_ok (hraises : call.Raises) {publications : List StreamPublication}
    (h : call.selectPublications = .ok publications) :
    HonestCursor call call.reconcileContinuousPublications := by
  have hfinished : Finished call _ _ := publishPendingBatches_finished hraises
    (Running.start call) (normalizePublications_sorted publications) fun _ hid => nomatch hid
  rw [List.nil_append] at hfinished
  have hreadable := not_fails_of_select h
  have hcovered : ∀ id ∈ call.listed, call.cursor < at_ id →
      at_ id ≤ (call.publishPendingBatches (normalizePublications publications) call.start).cursor →
        Covered (call.publishPendingBatches (normalizePublications publications)
          call.start).attempts id := by
    intro id hid
    obtain ⟨publication, hmem, rfl⟩ := exists_of_listed h hid
    exact hfinished.covered _ (List.mem_map_of_mem hmem)
  unfold ReconcileCall.reconcileContinuousPublications
  rw [h]
  dsimp only
  generalize call.publishPendingBatches (normalizePublications publications) call.start = p
    at hfinished hcovered ⊢
  split
  · rename_i hrequested
    refine ⟨hfinished.ascending, hfinished.beyond, hfinished.unpassed, hfinished.stops,
      ⟨hfinished.initial, hfinished.reached⟩, hfinished.stored, hcovered, ?_, ?_, ?_⟩
    · intro hfailed
      exact congrArg some (hfinished.failed.mpr hfailed)
    · exact fun hfails => absurd hfails hreadable
    · intro _ _ hall
      cases hfailed : p.recoveryFailed with
      | false => simp [hfailed]
      | true =>
          obtain ⟨a, ha, hfalse⟩ := hfinished.failed.mp hfailed
          rw [hall a ha] at hfalse
          exact nomatch hfalse
  · rename_i hrequested
    obtain ⟨hnot, hgoing⟩ : call.recoveryRequested = false ∧ p.recoveryFailed = false := by
      simpa using hrequested
    refine ⟨hfinished.ascending, hfinished.beyond, hfinished.unpassed, hfinished.stops,
      ⟨hfinished.initial, hfinished.reached⟩, ?_, hcovered, ?_, ?_, ?_⟩
    · rw [hfinished.metrics]
      exact hfinished.stored
    · intro hfailed
      rw [hfinished.failed.mpr hfailed] at hgoing
      exact nomatch hgoing
    · exact fun hfails => absurd hfails hreadable
    · intro hsource
      rw [source_recovery_iff.mp hsource] at hnot
      exact nomatch hnot

/-- A call whose terminal recovery fails leaves no mark. -/
theorem unmarked_of_fails (hfails : call.TerminalRecoveryFails) :
    call.reconcileContinuousPublications.runtime.metrics.publicationRecoveryPending ≠
      some true := by
  obtain ⟨last, hsource, -⟩ := id hfails
  obtain ⟨runtime, herror⟩ := recoverTerminal_fails hsource hfails
  have hselect : call.selectPublications = .error runtime := by
    unfold ReconcileCall.selectPublications
    rw [hsource]
    exact herror
  have hnot : call.recoveryRequested = false := by
    by_contra hrequested
    have hrecovery := source_recovery_iff.mpr (by simpa using hrequested)
    rw [hsource] at hrecovery
    exact nomatch hrecovery
  unfold ReconcileCall.reconcileContinuousPublications
  rw [hselect]
  dsimp only
  rw [recoverTerminal_error herror]
  intro hpending
  simp [ReconcileCall.recoveryRequested, hpending] at hnot

/-- **The catalog cursor is honest.**  Whatever the worker reports, the storage lists and the
publications answer, the call keeps every promise of the cursor, unless the terminal recovery
cannot read its manifests: this it does not mark. -/
theorem catalog_cursor_honest_iff (call : ReconcileCall) (hraises : call.Raises) :
    HonestCursor call call.reconcileContinuousPublications ↔ ¬ call.TerminalRecoveryFails := by
  constructor
  · intro h hfails
    exact unmarked_of_fails hfails (h.pendingOnRecovery (Or.inr hfails))
  · intro hterminal
    cases hselect : call.selectPublications with
    | error runtime =>
        have hresult : call.reconcileContinuousPublications = ⟨call.cursor, runtime, []⟩ := by
          unfold ReconcileCall.reconcileContinuousPublications
          rw [hselect]
        rw [hresult]
        exact honest_of_error hselect hterminal
    | ok publications => exact honest_of_ok hraises hselect

/-! ## Two calls -/

/-- The manifests cannot be listed, and nobody else writes. -/
def unlistedHooks : BatchHooks where
  completed := none
  manifest := fun _ => none
  publishOne := fun _ _ => ⟨true, {}, none⟩
  listPartitionCursors := fun _ => none
  mergePartitionCursors := fun cursors _ => cursors.getD []

/-- The worker has written batch 7 and its window is empty; the catalog has batch 4. -/
def unlistedCall : ReconcileCall where
  hooks := unlistedHooks
  target := ⟨"lake", "orders"⟩
  runtime := { metrics := { catalogBatchCursor := at_ 4 } }
  report := { lastBatchId := some 7, lastBatchWritten := true }

/-- The terminal recovery cannot list the manifests, and the next call is not told. -/
theorem terminal_recovery_unmarked : unlistedCall.Raises ∧ unlistedCall.RecoveryFails ∧
    unlistedCall.reconcileContinuousPublications.runtime.metrics.publicationRecoveryPending = none ∧
    ¬ HonestCursor unlistedCall unlistedCall.reconcileContinuousPublications := by
  have hfails : unlistedCall.RecoveryFails := by
    refine Or.inr ⟨7, by decide, fun _ h => ?_, fun _ h => ?_⟩
    · exact nomatch h
    · exact nomatch h
  refine ⟨fun _ _ _ h => (nomatch h), hfails, rfl, fun h => ?_⟩
  exact absurd (h.pendingOnRecovery hfails) (by decide)

def reportedBatch (id : Nat) : StreamPublication where
  batchId := some id
  runId := none
  storedCount := some 1
  dataPath := none
  manifestPath := none
  sourceRanges := .missing
  sourceBoundary := none
  icebergCommit := none

/-- Batches 5, 6 and 8 are in the window; while 5 is published another reconciliation passes 6. -/
def reportedCall : ReconcileCall where
  hooks := { unlistedHooks with
    publishOne := fun _ _ => ⟨true, {}, some { metrics := { catalogBatchCursor := at_ 6 } }⟩ }
  target := ⟨"lake", "orders"⟩
  runtime := { metrics := { catalogBatchCursor := at_ 4 } }
  report := { publishedBatches := [some (reportedBatch 8), some (reportedBatch 6), none,
    some (reportedBatch 5)] }

theorem reported_batches_published :
    HonestCursor reportedCall reportedCall.reconcileContinuousPublications ∧
      reportedCall.reconcileContinuousPublications.attempts.map Attempt.batchId = [5, 8] := by
  refine ⟨(catalog_cursor_honest_iff reportedCall ?_).mpr ?_, by decide⟩
  · rintro k publication row ⟨⟩
    refine ⟨by decide, ?_⟩
    rintro j - earlier row' ⟨⟩
    exact le_rfl
  · rintro ⟨last, hsource, -⟩
    exact nomatch (show reportedCall.source = .report by decide).symm.trans hsource

end AskLake.KafkaPublication

/-
# `AskLake.Trino.StrandedRuns` — whether somebody will go on with a run

A run with work left is to be owned under a lease, to wait for its next attempt, or to be
found by the next claim.  The claim finds

    an active run that has a next URI           (any engine)
    an ended run that is not finalized          (SQL jobs)

so a materialization that has ended and is not registered is found by nobody, although the
save of its last page gives the lease up before it is registered; nor is an active run
without a next URI.  In the runs where no collector saves such a payload, and none renews a
lease that has been dropped meanwhile, no run is stranded.
-/
import AskLake.Trino.RunWork

namespace AskLake.Trino

open AskLake.Lib AskLake.Python

/-! ## What is to hold -/

/-- A run with work left is in somebody's hands, or waits, or is found. -/
def RunRow.Attended (row : RunRow) : Prop :=
  row.payload.unfinished = true → ∀ now,
    (row.collectorOwner.isSome = true ∧ row.collectorLeaseExpiresAt.any (now ≤ ·) = true) ∨
      row.collectorNextAttemptAt.any (now < ·) = true ∨
      ∀ workerId leaseSeconds, (row.claim workerId leaseSeconds now).isSome = true

/-- A payload under which a claim finds the run, if there is work left. -/
def RunPayload.Recoverable (payload : RunPayload) : Prop :=
  payload.unfinished = true →
    (payload.status.terminal = false ∧ (optionalString payload.trinoNextUri).isSome = true) ∨
      payload.engine = "trino-job-materialization" ∧ payload.status.terminal = true ∧
        payload.finalized = false

/-! ## The condition -/

/-- A save leaves an active run with a next URI, and an ended one without a registration that
is pending; a renewal meets an owner. -/
def RowCall.HandsOn (row : RunRow) : RowCall → Prop
  | .collect _ _ (.save payload) =>
      (payload.status.terminal = false → (optionalString payload.trinoNextUri).isSome = true) ∧
        (payload.status.terminal = true → payload.engine = "trino-materialization" →
          payload.queryEngineStatus ≠ some "pending")
  | .collect _ _ (.renew _ _) => row.collectorOwner.isSome = true
  | _ => True

instance (row : RunRow) : (call : RowCall) → Decidable (call.HandsOn row)
  | .collect _ _ (.save payload) => inferInstanceAs (Decidable
      ((payload.status.terminal = false → (optionalString payload.trinoNextUri).isSome = true) ∧
        (payload.status.terminal = true → payload.engine = "trino-materialization" →
          payload.queryEngineStatus ≠ some "pending")))
  | .collect _ _ (.renew _ _) => inferInstanceAs (Decidable (row.collectorOwner.isSome = true))
  | .collect _ _ .release | .collect _ _ (.retry _) | .cancel _ => .isTrue trivial

/-- The call that an event commits. -/
def RunWork.commits (s : RunWork) : WorkEvent → Option RowCall
  | .act k _ => (s.workers[k]?).bind fun worker =>
      match worker.stage with
      | .committing call _ _ => some call
      | _ => none
  | _ => none

/-- What the event commits leaves the run to somebody. -/
def HandedOn (s : RunWork) (event : WorkEvent) : Prop :=
  ∀ call ∈ s.commits event, call.HandsOn s.row

instance (s : RunWork) (event : WorkEvent) : Decidable (HandedOn s event) :=
  inferInstanceAs (Decidable (∀ call ∈ s.commits event, call.HandsOn s.row))

/-! ## Payloads -/

section
variable {engine : RunEngine} {payload : RunPayload} {page : TrinoClientPage String}

/-- An ended run is found, unless it is a materialization that is not registered. -/
theorem RunPayload.recoverable_of_terminal (hterminal : payload.status.terminal = true)
    (hregistered : payload.engine = "trino-materialization" →
      payload.queryEngineStatus ≠ some "pending") : payload.Recoverable := by
  intro hunfinished
  rw [unfinished, hterminal, Bool.not_true, Bool.false_or, Bool.or_eq_true, Bool.and_eq_true,
    Bool.and_eq_true, decide_eq_true_eq, decide_eq_true_eq, decide_eq_true_eq] at hunfinished
  rcases hunfinished with ⟨hengine, hpending⟩ | ⟨hengine, hopen⟩
  · exact absurd hpending (hregistered hengine)
  · exact Or.inr ⟨hengine, hterminal, by simpa using hopen⟩

theorem RunPayload.recoverable_of_finished (h : payload.unfinished = false) :
    payload.Recoverable := by
  intro hunfinished
  rw [h] at hunfinished
  exact nomatch hunfinished

theorem RunPayload.collected_engine (h : payload.engine = engine.name) :
    (payload.collected engine page).engine = engine.name := by
  cases engine with
  | query => rfl
  | materialization => exact h
  | sqlJob => exact h

/-- A SQL job's payload that ends a finalization leaves nothing to do. -/
theorem RunPayload.conclude_finished (h : payload.engine = RunEngine.sqlJob.name)
    {final : RunStatus} (hfinal : final.terminal = true) :
    (payload.conclude final).unfinished = false := by
  have hengine : (payload.conclude final).engine = "trino-job-materialization" := h
  have hstatus : (payload.conclude final).status.terminal = true := hfinal
  have hfinalized : (payload.conclude final).finalized = true := rfl
  simp [unfinished, hengine, hstatus, hfinalized]

/-- Nor does the payload of a registration. -/
theorem RunPayload.registered_finished (h : payload.engine = RunEngine.materialization.name)
    (hterminal : payload.status.terminal = true) (found : Bool) :
    (payload.registered found).unfinished = false := by
  have hengine : (payload.registered found).engine = "trino-materialization" := h
  have hstatus : (payload.registered found).status.terminal = true := hterminal
  have hpending : (payload.registered found).queryEngineStatus ≠ some "pending" := by
    rw [registered]
    split
    · exact fun hsome => absurd (Option.some.inj hsome) (by decide)
    · exact fun hsome => absurd (Option.some.inj hsome) (by decide)
  simp [unfinished, hengine, hstatus, hpending]

end

/-! ## The invariant -/

/-- What a worker's stage says of the payloads that it may save. -/
def WorkStage.Sound (engine : RunEngine) : WorkStage → Prop
  | .entering | .releasing | .retrying | .done => True
  | .top payload | .fetching payload | .fetched payload _ | .applying payload _
  | .saving payload | .saved payload | .cancelling payload => payload.engine = engine.name
  | .starting payload => engine = .query ∧ payload.engine = engine.name
  | .closing payload => payload.engine = engine.name ∧ payload.status.terminal = true
  | .recording payload => payload.engine = engine.name ∧ payload.unfinished = false
  | .committing (.collect _ _ write) _ next =>
      (∀ payload, write = .save payload → payload.engine = engine.name) ∧ next.Sound engine
  | .committing (.cancel payload) _ next =>
      payload.engine = engine.name ∧ payload.trinoNextUri = none ∧ payload.Recoverable ∧
        next.Sound engine

/-- The row of a run that is not stranded. -/
structure RunRow.Tended (engine : RunEngine) (row : RunRow) : Prop where
  engine : row.payload.engine = engine.name
  nextUri : row.collectorNextUri = optionalString row.payload.trinoNextUri
  lease : row.collectorLeaseExpiresAt.isSome = true → row.collectorOwner.isSome = true
  recoverable : row.payload.Recoverable

structure RunWork.Tended (engine : RunEngine) (s : RunWork) : Prop where
  row : s.row.Tended engine
  workers : ∀ worker ∈ s.workers, worker.stage.Sound engine

section
variable {engine : RunEngine} {row read : RunRow} {payload : RunPayload} {stage : WorkStage}

theorem RunEngine.name_mem (engine : RunEngine) : engine.name ∈
    ["trino", "trino-materialization", "trino-job-materialization"] := by
  cases engine with
  | query => decide
  | materialization => decide
  | sqlJob => decide

/-- A claim finds the run, or it has an owner, or it waits. -/
theorem RunRow.Tended.attended (h : row.Tended engine) : row.Attended := by
  intro hunfinished now
  have hfound : (row.collectorNextUri.isSome && !row.payload.status.terminal ||
      row.terminalSqlJob) = true := by
    rcases h.recoverable hunfinished with ⟨hactive, huri⟩ | ⟨hengine, hended, hopen⟩
    · rw [h.nextUri, huri, hactive]
      rfl
    · rw [RunRow.terminalSqlJob, hengine, hended, hopen]
      simp
  have hnot : (row.collectorNextUri.isNone && !row.terminalSqlJob) = false := by
    cases huri : row.collectorNextUri with
    | some uri => rfl
    | none =>
        rw [huri] at hfound
        simpa using hfound
  cases hlease : row.collectorLeaseExpiresAt.all (· < now) with
  | false =>
      refine Or.inl ⟨h.lease ?_, ?_⟩
      · cases hsome : row.collectorLeaseExpiresAt with
        | none =>
            rw [hsome] at hlease
            cases hlease
        | some expiry => rfl
      · cases hsome : row.collectorLeaseExpiresAt with
        | none =>
            rw [hsome] at hlease
            cases hlease
        | some expiry =>
            rw [hsome] at hlease
            have hle := of_decide_eq_false hlease
            exact decide_eq_true (Int.not_lt.mp hle)
  | true =>
      cases hattempt : row.collectorNextAttemptAt.all (· ≤ now) with
      | false =>
          refine Or.inr (Or.inl ?_)
          cases hsome : row.collectorNextAttemptAt with
          | none =>
              rw [hsome] at hattempt
              cases hattempt
          | some time =>
              rw [hsome] at hattempt
              exact decide_eq_true (Int.not_le.mp (of_decide_eq_false hattempt))
      | true =>
          refine Or.inr (Or.inr fun workerId leaseSeconds => ?_)
          have hclaimable : row.claimable now = true := by
            rw [RunRow.claimable, hfound, hlease, hattempt, h.engine,
              decide_eq_true engine.name_mem]
            rfl
          rw [RunRow.claim, if_pos hclaimable, hnot, if_neg Bool.false_ne_true]
          rfl

/-- A claim leaves the payload, and an owner. -/
theorem RunRow.Tended.claim (h : row.Tended engine) {workerId : String} {leaseSeconds now : Int}
    {next : RunRow} (hclaim : row.claim workerId leaseSeconds now = some next) :
    next.Tended engine := by
  obtain ⟨-, rfl⟩ := RunRow.claim_eq_some hclaim
  exact ⟨h.engine, h.nextUri, fun _ => rfl, h.recoverable⟩

/-- A collector's commit that leaves the run to somebody. -/
theorem RunRow.Tended.commit_collect (h : row.Tended engine) {workerId : String}
    {generation : Nat} {write : CollectorWrite}
    (hwrite : ∀ payload, write = .save payload → payload.engine = engine.name)
    (hhands : (RowCall.collect workerId generation write).HandsOn row) :
    (write.commit read row).Tended engine := by
  cases write with
  | renew leaseSeconds now => exact ⟨h.engine, h.nextUri, fun _ => hhands, h.recoverable⟩
  | release => exact ⟨h.engine, h.nextUri, (fun hnone => nomatch hnone), h.recoverable⟩
  | retry now => exact ⟨h.engine, h.nextUri, (fun hnone => nomatch hnone), h.recoverable⟩
  | save payload =>
      refine ⟨hwrite payload rfl, rfl, ?_, ?_⟩
      · intro hlease
        simp only [CollectorWrite.commit] at hlease ⊢
        split at hlease
        · exact nomatch hlease
        · next hgoes =>
            rw [if_neg hgoes]
            exact h.lease hlease
      · show payload.Recoverable
        cases hended : payload.status.terminal with
        | true => exact RunPayload.recoverable_of_terminal hended (hhands.2 hended)
        | false => exact fun _ => Or.inl ⟨hended, hhands.1 hended⟩

/-- The last save of a registration or a finalization. -/
theorem RunRow.Tended.savePayload (h : row.Tended engine) (hengine : payload.engine = engine.name)
    (hfinished : payload.unfinished = false) : (row.savePayload payload).Tended engine where
  engine := hengine
  nextUri := rfl
  lease := by
    intro hlease
    simp only [RunRow.savePayload] at hlease ⊢
    split at hlease
    · exact nomatch hlease
    · next hgoes =>
        rw [if_neg hgoes]
        exact h.lease hlease
  recoverable := RunPayload.recoverable_of_finished hfinished

end

/-! ## A worker's step -/

section
variable {settings : CollectorSettings} {engine : RunEngine} {row read : RunRow}
  {worker : RunWorker} {input : WorkInput} {payload : RunPayload} {goesOn otherwise : WorkStage}

theorem RunWorker.call_sound {write : CollectorWrite}
    (hwrite : ∀ payload, write = .save payload → payload.engine = engine.name)
    (hgoesOn : goesOn.Sound engine) (hotherwise : otherwise.Sound engine) :
    (worker.call row write goesOn otherwise).Sound engine := by
  rw [call]
  split
  · exact ⟨hwrite, hgoesOn⟩
  · exact hotherwise

theorem RunWorker.renew_sound (hgoesOn : goesOn.Sound engine) :
    (worker.renew settings row input goesOn).Sound engine :=
  call_sound (fun _ hsave => nomatch hsave) hgoesOn trivial

theorem RunWorker.save_sound (hpayload : payload.engine = engine.name)
    (hgoesOn : goesOn.Sound engine) : (worker.save row payload goesOn).Sound engine := by
  refine call_sound ?_ hgoesOn trivial
  rintro saved hsave
  obtain rfl := CollectorWrite.save.inj hsave
  exact hpayload

theorem RunWorker.enter_sound (h : row.Tended engine) : (enter engine row).Sound engine := by
  rw [enter]
  split
  · trivial
  · split
    · next hopen =>
        exact ⟨h.engine, (Bool.and_eq_true_iff.mp (Bool.and_eq_true_iff.mp hopen).1).2⟩
    · exact h.engine

theorem RunWorker.reenter_sound (h : row.Tended engine) (hupdated : payload.engine = engine.name) :
    (worker.reenter settings engine row payload).Sound engine := by
  rw [reenter]
  split
  · trivial
  · split
    · trivial
    · split
      · exact h.engine
      · exact hupdated

theorem RunWorker.await_sound (hpayload : payload.engine = engine.name) :
    (worker.await settings engine row input payload).Sound engine := by
  cases input with
  | page page =>
      cases engine with
      | query => exact hpayload
      | materialization => exact hpayload
      | sqlJob => exact hpayload
  | fail now =>
      cases engine with
      | query => trivial
      | materialization => trivial
      | sqlJob => trivial
  | proceed now =>
      cases engine with
      | query => exact renew_sound hpayload
      | materialization => exact hpayload
      | sqlJob => exact hpayload
  | observe outputRows now =>
      cases engine with
      | query => exact save_sound rfl rfl
      | materialization => exact hpayload
      | sqlJob => exact hpayload
  | refuse now =>
      cases engine with
      | query => exact hpayload
      | materialization => exact hpayload
      | sqlJob => exact hpayload

theorem RunWorker.apply_sound (hpayload : payload.engine = engine.name)
    (page : TrinoClientPage String) : (apply engine input payload page).Sound engine := by
  have hcollected : (payload.collected engine page).engine = engine.name :=
    RunPayload.collected_engine hpayload
  unfold apply
  split
  · trivial
  · rfl
  · exact hcollected

/-- What follows the last page ends with a payload that leaves nothing to do. -/
theorem RunWorker.close_sound (hpayload : payload.engine = engine.name)
    (hended : payload.status.terminal = true) : (close engine input payload).Sound engine := by
  cases engine with
  | query => trivial
  | materialization =>
      have hregistered : ∀ found, (WorkStage.recording (payload.registered found)).Sound
          .materialization := fun found =>
        ⟨hpayload, RunPayload.registered_finished hpayload hended found⟩
      cases input with
      | fail now =>
          rw [close]
          split
          · trivial
          · trivial
      | refuse now =>
          rw [close]
          split
          · exact hregistered false
          · trivial
      | _ =>
          dsimp only [close]
          split
          · exact hregistered true
          · trivial
  | sqlJob =>
      cases input with
      | fail now => trivial
      | refuse now =>
          refine ⟨hpayload, RunPayload.conclude_finished hpayload ?_⟩
          split
          · rfl
          · exact hended
      | _ => exact ⟨hpayload, RunPayload.conclude_finished hpayload hended⟩

/-- A cancel request saves an ended payload, and no materialization's. -/
theorem RunEngine.cancelCall_eq_some (hpayload : payload.engine = engine.name) {call : RowCall}
    (h : engine.cancelCall payload = some call) : ∀ cancelled, call = .cancel cancelled →
      cancelled.engine = engine.name ∧ cancelled.trinoNextUri = none ∧
        cancelled.status.terminal = true ∧ engine ≠ .materialization := by
  rintro cancelled rfl
  cases engine with
  | query =>
      obtain ⟨hstatus, hengine⟩ := lifecycleCancel_eq_some h cancelled rfl
      refine ⟨hengine, ?_, by rw [hstatus]; rfl, by decide⟩
      simp only [cancelCall, lifecycleCancel] at h
      split at h
      · cases h
      · split at h
        · cases h
        · obtain rfl := RowCall.cancel.inj (Option.some.inj h)
          rfl
  | materialization => cases h
  | sqlJob =>
      obtain rfl := RowCall.cancel.inj (Option.some.inj h)
      exact ⟨hpayload, rfl, rfl, by decide⟩

theorem RunWorker.cancel_sound (hpayload : payload.engine = engine.name) :
    (cancel engine row payload).Sound engine := by
  rw [cancel]
  split
  · next cancelled hcall =>
      obtain ⟨hengine, huri, hended, hother⟩ :=
        RunEngine.cancelCall_eq_some hpayload hcall cancelled rfl
      split
      · refine ⟨hengine, huri, RunPayload.recoverable_of_terminal hended ?_, ?_⟩
        · intro hname
          rw [hengine] at hname
          cases engine with
          | query => exact absurd hname (by decide)
          | materialization => exact absurd rfl hother
          | sqlJob => exact absurd hname (by decide)
        · split
          · exact ⟨hengine, hended⟩
          · trivial
      · trivial
  · trivial

/-- A step that leaves the run to somebody keeps the row tended. -/
theorem RunWorker.advance_tended (h : row.Tended engine) (hsound : worker.stage.Sound engine)
    (hhands : ∀ call read next, worker.stage = .committing call read next → call.HandsOn row) :
    (worker.advance settings engine row input).1.Tended engine ∧
      (worker.advance settings engine row input).2.Sound engine := by
  unfold advance
  cases hstage : worker.stage with
  | entering => exact ⟨h, enter_sound h⟩
  | top payload =>
      rw [hstage] at hsound
      refine ⟨h, ?_⟩
      dsimp only
      split
      · trivial
      · refine renew_sound ?_
        split
        · next hquery => exact ⟨hquery, hsound⟩
        · exact hsound
  | starting payload =>
      rw [hstage] at hsound
      obtain ⟨rfl, hengine⟩ := hsound
      refine ⟨h, ?_⟩
      dsimp only
      split
      · exact hengine
      · exact save_sound rfl rfl
  | fetching payload =>
      rw [hstage] at hsound
      exact ⟨h, await_sound hsound⟩
  | fetched payload page =>
      rw [hstage] at hsound
      exact ⟨h, renew_sound hsound⟩
  | applying payload page =>
      rw [hstage] at hsound
      exact ⟨h, apply_sound hsound page⟩
  | saving updated =>
      rw [hstage] at hsound
      exact ⟨h, save_sound hsound hsound⟩
  | saved updated =>
      rw [hstage] at hsound
      refine ⟨h, ?_⟩
      dsimp only
      split
      · next hended =>
          split
          · trivial
          · exact ⟨hsound, hended⟩
      · exact reenter_sound h hsound
  | closing payload =>
      rw [hstage] at hsound
      exact ⟨h, close_sound hsound.1 hsound.2⟩
  | recording payload =>
      rw [hstage] at hsound
      exact ⟨h.savePayload hsound.1 hsound.2, trivial⟩
  | cancelling payload =>
      rw [hstage] at hsound
      exact ⟨h, cancel_sound hsound⟩
  | releasing => exact ⟨h, call_sound (fun _ hsave => nomatch hsave) trivial trivial⟩
  | retrying => exact ⟨h, call_sound (fun _ hsave => nomatch hsave) trivial trivial⟩
  | committing call read next =>
      rw [hstage] at hsound
      cases call with
      | collect workerId generation write =>
          exact ⟨h.commit_collect hsound.1 (hhands _ read next hstage), hsound.2⟩
      | cancel payload =>
          obtain ⟨hengine, huri, hrecoverable, hnext⟩ := hsound
          refine ⟨⟨hengine, ?_, (fun hnone => nomatch hnone), hrecoverable⟩, hnext⟩
          show none = optionalString payload.trinoNextUri
          rw [huri]
          rfl
  | done => exact ⟨h, trivial⟩

end

/-! ## An event -/

section
variable {s : RunWork} {engine : RunEngine}

theorem RunWork.Tended.hire (h : s.Tended engine) {added : RunWorker}
    (hsound : added.stage.Sound engine) {row : RunRow} (hrow : row.Tended engine) :
    RunWork.Tended engine { row, workers := s.workers ++ [added] } where
  row := hrow
  workers := by
    intro worker hworker
    rcases List.mem_append.mp hworker with hold | hnew
    · exact h.workers worker hold
    · obtain rfl := List.mem_singleton.mp hnew
      exact hsound

theorem RunWork.Tended.step (h : s.Tended engine) (settings : CollectorSettings)
    (event : WorkEvent) (hhands : HandedOn s event) : (s.step settings engine event).Tended engine := by
  cases event with
  | claim workerId now =>
      rw [RunWork.step]
      split
      · exact h
      · next row hclaim =>
          refine h.hire ?_ (h.row.claim hclaim)
          trivial
  | cancel =>
      rw [RunWork.step]
      split
      · exact h
      · refine h.hire ?_ h.row
        exact h.row.engine
  | refresh =>
      rw [RunWork.step]
      split
      · next hended =>
          refine h.hire ?_ h.row
          exact ⟨h.row.engine, (Bool.and_eq_true_iff.mp hended).2⟩
      · exact h
  | act k input =>
      rw [RunWork.step]
      cases hworker : s.workers[k]? with
      | none => exact h
      | some worker =>
          have hsound := h.workers worker (List.mem_of_getElem? hworker)
          obtain ⟨hrow, hstage⟩ := @RunWorker.advance_tended settings engine s.row worker input
            h.row hsound (by
              intro call read next hcommitting
              refine hhands call ?_
              rw [RunWork.commits, hworker, Option.bind_some, hcommitting]
              rfl)
          refine ⟨hrow, ?_⟩
          intro other hother
          rcases List.mem_or_eq_of_mem_set hother with hold | rfl
          · exact h.workers other hold
          · exact hstage
  | crash k =>
      rw [RunWork.step]
      cases hworker : s.workers[k]? with
      | none => exact h
      | some worker =>
          refine ⟨h.row, ?_⟩
          intro other hother
          rcases List.mem_or_eq_of_mem_set hother with hold | rfl
          · exact h.workers other hold
          · trivial

theorem optionalString_map_text (uri : Option Text) :
    optionalString (uri.map Text.text) = uri := by
  cases uri with
  | none => rfl
  | some text => exact optionalString_text text

theorem RunWork.firstPayload_engine (baseDatasetId query : String) (datasetId : Option String)
    (page : TrinoClientPage String) (found : Bool) :
    (RunWork.firstPayload engine baseDatasetId query datasetId page found).engine = engine.name := by
  rw [RunWork.firstPayload]
  split
  · rfl
  · rfl

/-- The first payload of a run is found, if there is work left. -/
theorem RunWork.firstPayload_recoverable (baseDatasetId query : String)
    (datasetId : Option String) (page : TrinoClientPage String) (found : Bool)
    (hpage : page.trinoStatus.terminal = false → page.nextUri.isSome = true) :
    (RunWork.firstPayload engine baseDatasetId query datasetId page found).Recoverable := by
  cases hended : page.trinoStatus.terminal with
  | false =>
      refine fun _ => Or.inl ?_
      have hnext := hpage hended
      rw [← optionalString_map_text page.nextUri] at hnext
      rw [RunWork.firstPayload, hended, Bool.and_false, if_neg Bool.false_ne_true]
      exact ⟨hended, hnext⟩
  | true =>
      cases engine with
      | query =>
          refine RunPayload.recoverable_of_terminal hended fun hname => ?_
          exact absurd ((RunWork.firstPayload_engine ..).symm.trans hname) (by decide)
      | sqlJob =>
          refine RunPayload.recoverable_of_terminal hended fun hname => ?_
          exact absurd ((RunWork.firstPayload_engine ..).symm.trans hname) (by decide)
      | materialization =>
          refine RunPayload.recoverable_of_finished ?_
          rw [RunWork.firstPayload, hended]
          exact RunPayload.registered_finished rfl hended found

/-- A completed submission that Trino goes on with, or is done with. -/
theorem RunWork.submitted_tended (baseDatasetId query : String) (datasetId : Option String)
    (page : TrinoClientPage String) (found : Bool)
    (hpage : page.trinoStatus.terminal = false → page.nextUri.isSome = true) :
    (RunWork.submitted engine baseDatasetId query datasetId page found).Tended engine := by
  refine ⟨⟨RunWork.firstPayload_engine .., rfl, (fun hnone => nomatch hnone),
    RunWork.firstPayload_recoverable _ _ _ _ _ hpage⟩, ?_⟩
  intro worker hworker
  rw [RunWork.submitted] at hworker
  dsimp only at hworker
  split at hworker
  · next hjob =>
      obtain ⟨hengine, hended⟩ := Bool.and_eq_true_iff.mp hjob
      obtain rfl := List.mem_singleton.mp hworker
      refine ⟨RunWork.firstPayload_engine .., ?_⟩
      rw [RunWork.firstPayload]
      split
      · exact hended
      · exact hended
  · exact nomatch hworker

end

/-! ## Runs of events -/

def workSettings : CollectorSettings where
  leaseSeconds := 30
  pagesPerLease := 10

/-- A run that Trino has started. -/
def startedRun (engine : RunEngine) : RunWork :=
  RunWork.submitted engine "dataset-orders" "CREATE TABLE gold AS SELECT * FROM orders"
    (some "dataset-gold") goldStarted true

/-- A worker takes some steps in which nothing fails. -/
def attends (k count : Nat) (now : Int) : List WorkEvent :=
  List.replicate count (.act k (.proceed now))

/-- A collector gets to the last page, and saves it. -/
def lastPageSaved : List WorkEvent :=
  .claim "worker-a" 0 :: attends 0 3 1 ++ [.act 0 (.page goldFinished)] ++ attends 0 5 2

/-- The collector of a materialization stops there. -/
def stoppedBeforeRegistration : RunWork :=
  play (RunWork.step workSettings .materialization) (startedRun .materialization)
    (lastPageSaved ++ [.crash 0])

end AskLake.Trino

/-
# `AskLake.Trino.TerminalRuns` — whether a run that has ended stays so

Collectors and cancel requests work on one row.  Only a claim locks it; every other call
reads it, and commits at any later time, or never:

    claim                    the row is taken
    collect, cancel          the row is read and checked
    commit k                 the `k`-th open call writes what it assigned
    abandon k                it never does

The fence of a save is checked where it reads.  A run that has ended stays so, then, in
the runs where no other transaction takes or drops the lease between a save's read and
its commit, and in no others.
-/
import AskLake.Lib.Run
import AskLake.Trino.RunRow

namespace AskLake.Trino

open AskLake.Lib AskLake.Python

/-! ## Runs -/

/-- A call that has read the row; `overtaken` is a history variable: whether the lease has
been taken or dropped since. -/
structure OpenCall where
  call : RowCall
  read : RunRow
  overtaken : Bool := false
  deriving DecidableEq

/-- The row and the open calls on it; `cancelled` is a history variable: whether a cancel
has been committed. -/
structure SharedRow where
  row : RunRow
  pending : List OpenCall := []
  cancelled : Bool := false
  deriving DecidableEq

/-- `TrinoQueryLifecycleService.cancel`, up to its call of the repository; `loaded` is the
payload that it has loaded before. -/
def lifecycleCancel (loaded : RunPayload) : Option RowCall :=
  if loaded.engine ≠ "trino" then none
  else if loaded.status.terminal || blank (loaded.trinoNextUri.getD "") then none
  else some (.cancel {
    toRunResponse := { loaded.toRunResponse with result := none, status := .cancelled }
    trinoNextUri := none })

inductive RowEvent
  | claim (workerId : String) (leaseSeconds now : Int)
  | collect (workerId : String) (generation : Nat) (write : CollectorWrite)
  | cancel (loaded : RunPayload)
  | commit (k : Nat)
  | abandon (k : Nat)
  deriving DecidableEq

def OpenCall.overtake (pending : OpenCall) : OpenCall := { pending with overtaken := true }

namespace SharedRow

/-- A call reads the row. -/
def begin (s : SharedRow) (call : RowCall) : SharedRow :=
  if call.admits s.row then { s with pending := s.pending ++ [⟨call, s.row, false⟩] } else s

/-- An open call commits. -/
def finish (s : SharedRow) (k : Nat) (done : OpenCall) : SharedRow where
  row := done.call.commit done.read s.row
  pending :=
    if done.call.dropsLease then (s.pending.eraseIdx k).map OpenCall.overtake
    else s.pending.eraseIdx k
  cancelled := s.cancelled || done.call matches .cancel _

def step (s : SharedRow) : RowEvent → SharedRow
  | .claim workerId leaseSeconds now =>
      match s.row.claim workerId leaseSeconds now with
      | none => s
      | some row => { s with row, pending := s.pending.map OpenCall.overtake }
  | .collect workerId generation write => s.begin (.collect workerId generation write)
  | .cancel loaded => (lifecycleCancel loaded).elim s s.begin
  | .commit k => (s.pending[k]?).elim s (s.finish k)
  | .abandon k => { s with pending := s.pending.eraseIdx k }

/-- The event takes the run. -/
def takes (s : SharedRow) : RowEvent → Bool
  | .claim workerId leaseSeconds now => (s.row.claim workerId leaseSeconds now).isSome
  | _ => false

/-- The call that the event commits. -/
def commits (s : SharedRow) : RowEvent → Option OpenCall
  | .commit k => s.pending[k]?
  | _ => none

end SharedRow

/-- Who saves a payload. -/
def OpenCall.saver (done : OpenCall) : Option (String × Nat) :=
  match done.call with
  | .collect workerId generation (.save _) => some (workerId, generation)
  | _ => none

/-- What one event does to a run that has ended. -/
structure StaysTerminal (s : SharedRow) (event : RowEvent) : Prop where
  status : s.row.payload.status.terminal = true →
    (s.step event).row.payload.status.terminal = true
  nextUri : (s.step event).cancelled = true → (s.step event).row.collectorNextUri = none
  claimed : s.cancelled = true → s.takes event = false
  saved : ∀ save ∈ (s.commits event).bind OpenCall.saver, s.row.ownedBy save.1 save.2 = true

instance (s : SharedRow) (event : RowEvent) : Decidable (StaysTerminal s event) :=
  decidable_of_iff
    ((s.row.payload.status.terminal = true → (s.step event).row.payload.status.terminal = true) ∧
      ((s.step event).cancelled = true → (s.step event).row.collectorNextUri = none) ∧
      (s.cancelled = true → s.takes event = false) ∧
      ∀ save ∈ (s.commits event).bind OpenCall.saver, s.row.ownedBy save.1 save.2 = true)
    ⟨fun h => ⟨h.1, h.2.1, h.2.2.1, h.2.2.2⟩, fun h => ⟨h.status, h.nextUri, h.claimed, h.saved⟩⟩

/-- A save commits before another transaction takes or drops the lease. -/
def NotOvertaken (s : SharedRow) (event : RowEvent) : Prop :=
  ∀ save ∈ s.commits event, save.saver.isSome = true → save.overtaken = false

/-! ## The invariant -/

/-- What the row still says of a collector's open call. -/
structure OpenCall.Fenced (s : SharedRow) (workerId : String) (generation : Nat)
    (write : CollectorWrite) (overtaken : Bool) : Prop where
  generation_le : s.cancelled = false → generation ≤ s.row.collectorGeneration
  lost : overtaken = true →
    s.row.collectorOwner = none ∨ generation < s.row.collectorGeneration
  held : overtaken = false → s.row.ownedBy workerId generation = true
  active : overtaken = false → ∀ payload, write = .save payload →
    s.row.payload.status.terminal = false

/-- What a run keeps in which nothing is saved too late. -/
structure Guarded (s : SharedRow) : Prop where
  owner : s.cancelled = true → s.row.collectorOwner = none
  nextUri : s.cancelled = true → s.row.collectorNextUri = none
  engine : s.cancelled = true → s.row.payload.engine = "trino"
  collects : ∀ pending ∈ s.pending, ∀ workerId generation write,
    pending.call = .collect workerId generation write →
    OpenCall.Fenced s workerId generation write pending.overtaken
  cancels : ∀ pending ∈ s.pending, ∀ payload, pending.call = .cancel payload →
    payload.status = .cancelled ∧ payload.engine = "trino"

theorem guarded_new (row : RunRow) : Guarded { row } where
  owner := fun h => nomatch h
  nextUri := fun h => nomatch h
  engine := fun h => nomatch h
  collects := fun pending h => nomatch h
  cancels := fun pending h => nomatch h

section
variable {s : SharedRow} {workerId : String} {generation : Nat} {write : CollectorWrite}
  {overtaken : Bool}

/-- A call whose lease has been dropped is overtaken. -/
theorem OpenCall.Fenced.dropped {next : SharedRow} (hnone : next.row.collectorOwner = none)
    (hle : next.cancelled = false → generation ≤ next.row.collectorGeneration) :
    Fenced next workerId generation write true where
  generation_le := hle
  lost := fun _ => Or.inl hnone
  held := fun h => nomatch h
  active := fun h => nomatch h

/-- A call keeps its standing where the lease stays and the run goes on. -/
theorem OpenCall.Fenced.kept (h : Fenced s workerId generation write overtaken)
    {next : SharedRow} (hcancelled : next.cancelled = s.cancelled)
    (howner : next.row.collectorOwner = s.row.collectorOwner)
    (hgeneration : next.row.collectorGeneration = s.row.collectorGeneration)
    (hstatus : s.row.payload.status.terminal = false → next.row.payload.status.terminal = false) :
    Fenced next workerId generation write overtaken where
  generation_le := by
    rw [hcancelled, hgeneration]
    exact h.generation_le
  lost := by
    rw [howner, hgeneration]
    exact h.lost
  held := by
    rw [RunRow.ownedBy, howner, hgeneration]
    exact h.held
  active := fun hopen payload hsave => hstatus (h.active hopen payload hsave)

/-- A claim overtakes every open call. -/
theorem OpenCall.Fenced.claimed (h : Fenced s workerId generation write overtaken)
    {next : SharedRow} (hopen : s.cancelled = false)
    (hgeneration : next.row.collectorGeneration = s.row.collectorGeneration + 1) :
    Fenced next workerId generation write true where
  generation_le := fun _ => by
    have := h.generation_le hopen
    omega
  lost := fun _ => by
    have := h.generation_le hopen
    omega
  held := fun h => nomatch h
  active := fun h => nomatch h

/-- An open call that is overtaken has lost the row. -/
theorem OpenCall.Fenced.not_ownedBy (h : Fenced s workerId generation write true) :
    s.row.ownedBy workerId generation = false := by
  rw [Bool.eq_false_iff]
  intro howned
  obtain ⟨howner, hgeneration⟩ := RunRow.ownedBy_iff.mp howned
  rcases h.lost rfl with hnone | hlt
  · rw [hnone] at howner
    exact nomatch howner
  · omega

end

section
variable {s : SharedRow}

/-- A cancelled run is not claimed. -/
theorem Guarded.not_claimable (h : Guarded s) (hcancelled : s.cancelled = true) (now : Int) :
    s.row.claimable now = false := by
  simp [RunRow.claimable, RunRow.terminalSqlJob, h.nextUri hcancelled, h.engine hcancelled]

theorem Guarded.claim (h : Guarded s) {workerId : String} {leaseSeconds now : Int} {row : RunRow}
    (hclaim : s.row.claim workerId leaseSeconds now = some row) :
    s.cancelled = false ∧
      Guarded { s with row, pending := s.pending.map OpenCall.overtake } := by
  obtain ⟨hclaimable, rfl⟩ := RunRow.claim_eq_some hclaim
  have hopen : s.cancelled = false := by
    cases hcancelled : s.cancelled with
    | false => rfl
    | true =>
        rw [h.not_claimable hcancelled] at hclaimable
        exact nomatch hclaimable
  refine ⟨hopen, ?_, ?_, ?_, ?_, ?_⟩
  · intro hcancelled
    rw [hopen] at hcancelled
    exact nomatch hcancelled
  · exact h.nextUri
  · exact h.engine
  · intro pending hpending workerId generation write hcall
    obtain ⟨before, hbefore, rfl⟩ := List.mem_map.mp hpending
    exact (h.collects before hbefore workerId generation write hcall).claimed hopen rfl
  · intro pending hpending payload hcall
    obtain ⟨before, hbefore, rfl⟩ := List.mem_map.mp hpending
    exact h.cancels before hbefore payload hcall

/-- A call that is admitted has the row, if it is a collector's. -/
theorem Guarded.begin (h : Guarded s) {call : RowCall}
    (hcancel : ∀ payload, call = .cancel payload →
      payload.status = .cancelled ∧ payload.engine = "trino") : Guarded (s.begin call) := by
  rw [SharedRow.begin]
  split
  · next hadmits =>
      refine ⟨h.owner, h.nextUri, h.engine, ?_, ?_⟩
      · intro pending hpending workerId generation write hcall
        rcases List.mem_append.mp hpending with hpending | hnew
        · exact (h.collects pending hpending workerId generation write hcall).kept rfl rfl rfl id
        · obtain rfl := List.mem_singleton.mp hnew
          obtain rfl : call = .collect workerId generation write := hcall
          have howned := RowCall.ownedBy_of_admits hadmits
          obtain ⟨-, hgeneration⟩ := RunRow.ownedBy_iff.mp howned
          refine ⟨fun _ => hgeneration.ge, (fun hover => nomatch hover), fun _ => howned, ?_⟩
          rintro - payload rfl
          simpa using (Bool.and_eq_true_iff.mp hadmits).2
      · intro pending hpending payload hcall
        rcases List.mem_append.mp hpending with hpending | hnew
        · exact h.cancels pending hpending payload hcall
        · obtain rfl := List.mem_singleton.mp hnew
          exact hcancel payload hcall
  · exact h

/-- What a cancel request asks for. -/
theorem lifecycleCancel_eq_some {loaded : RunPayload} {call : RowCall}
    (h : lifecycleCancel loaded = some call) : ∀ payload, call = .cancel payload →
      payload.status = .cancelled ∧ payload.engine = "trino" := by
  rintro payload rfl
  rw [lifecycleCancel] at h
  split at h
  · exact nomatch h
  · next hengine =>
      split at h
      · exact nomatch h
      · obtain rfl := RowCall.cancel.inj (Option.some.inj h)
        exact ⟨rfl, not_not.mp hengine⟩

/-- A collector's commit, if a save is not overtaken. -/
theorem Guarded.finish_collect (h : Guarded s) {k : Nat} {done : OpenCall}
    (hdone : done ∈ s.pending) {workerId : String} {generation : Nat} {write : CollectorWrite}
    (hcall : done.call = .collect workerId generation write)
    (htimely : ∀ payload, write = .save payload → done.overtaken = false) :
    Guarded (s.finish k done) := by
  have hfenced := h.collects done hdone workerId generation write hcall
  have hrow : (s.finish k done).row = write.commit done.read s.row := by
    rw [SharedRow.finish, hcall]
    rfl
  have hcancelled : (s.finish k done).cancelled = s.cancelled := by
    simp [SharedRow.finish, hcall]
  have hpayload : s.cancelled = true → (write.commit done.read s.row).payload = s.row.payload ∧
      (write.commit done.read s.row).collectorNextUri = s.row.collectorNextUri := by
    intro hc
    cases write with
    | renew => exact ⟨rfl, rfl⟩
    | release => exact ⟨rfl, rfl⟩
    | retry => exact ⟨rfl, rfl⟩
    | save payload =>
        obtain ⟨howner, -⟩ := RunRow.ownedBy_iff.mp (hfenced.held (htimely payload rfl))
        rw [h.owner hc] at howner
        exact nomatch howner
  refine ⟨?_, ?_, ?_, ?_, ?_⟩
  · intro hc
    rw [hcancelled] at hc
    rw [hrow, CollectorWrite.commit_owner, h.owner hc, ite_self]
  · intro hc
    rw [hcancelled] at hc
    rw [hrow, (hpayload hc).2, h.nextUri hc]
  · intro hc
    rw [hcancelled] at hc
    rw [hrow, (hpayload hc).1, h.engine hc]
  · intro pending hpending otherId otherGeneration otherWrite hother
    cases hdrops : write.dropsLease with
    | true =>
        simp only [SharedRow.finish, hcall, RowCall.dropsLease, hdrops, if_true] at hpending
        obtain ⟨before, hbefore, rfl⟩ := List.mem_map.mp hpending
        have hin := h.collects before (List.mem_of_mem_eraseIdx hbefore) otherId otherGeneration
          otherWrite hother
        refine OpenCall.Fenced.dropped ?_ ?_
        · rw [hrow, CollectorWrite.commit_owner, hdrops, if_pos rfl]
        · rw [hcancelled, hrow, CollectorWrite.commit_generation]
          exact hin.generation_le
    | false =>
        simp only [SharedRow.finish, hcall, RowCall.dropsLease, hdrops] at hpending
        have hin := h.collects pending (List.mem_of_mem_eraseIdx hpending) otherId
          otherGeneration otherWrite hother
        refine hin.kept hcancelled ?_ ?_ ?_
        · rw [hrow, CollectorWrite.commit_owner, hdrops]
          rfl
        · rw [hrow, CollectorWrite.commit_generation]
        · rw [hrow]
          intro hactive
          cases write with
          | renew => exact hactive
          | release => exact hactive
          | retry => exact hactive
          | save payload => exact (Bool.or_eq_false_iff.mp hdrops).1
  · intro pending hpending payload hother
    simp only [SharedRow.finish] at hpending
    split at hpending
    · obtain ⟨before, hbefore, rfl⟩ := List.mem_map.mp hpending
      exact h.cancels before (List.mem_of_mem_eraseIdx hbefore) payload hother
    · exact h.cancels pending (List.mem_of_mem_eraseIdx hpending) payload hother

/-- A cancel's commit. -/
theorem Guarded.finish_cancel (h : Guarded s) {k : Nat} {done : OpenCall}
    (hdone : done ∈ s.pending) {payload : RunPayload} (hcall : done.call = .cancel payload) :
    Guarded (s.finish k done) := by
  have hrow : (s.finish k done).row = (RowCall.cancel payload).commit done.read s.row := by
    rw [SharedRow.finish, hcall]
  have hpending : (s.finish k done).pending = (s.pending.eraseIdx k).map OpenCall.overtake := by
    rw [SharedRow.finish, hcall]
    rfl
  refine ⟨fun _ => ?_, fun _ => ?_, fun _ => ?_, ?_, ?_⟩
  · rw [hrow]
    rfl
  · rw [hrow]
    rfl
  · rw [hrow]
    exact (h.cancels done hdone payload hcall).2
  · intro pending hmem workerId generation write hother
    rw [hpending] at hmem
    obtain ⟨before, hbefore, rfl⟩ := List.mem_map.mp hmem
    refine OpenCall.Fenced.dropped ?_ ?_
    · rw [hrow]
      rfl
    · intro hopen
      simp [SharedRow.finish, hcall] at hopen
  · intro pending hmem other hother
    rw [hpending] at hmem
    obtain ⟨before, hbefore, rfl⟩ := List.mem_map.mp hmem
    exact h.cancels before (List.mem_of_mem_eraseIdx hbefore) other hother

/-! ## One event -/

theorem SharedRow.mem_of_commits {event : RowEvent} {done : OpenCall}
    (h : done ∈ s.commits event) : done ∈ s.pending := by
  cases event with
  | commit k => exact List.mem_of_getElem? h
  | claim => exact nomatch h
  | collect => exact nomatch h
  | cancel => exact nomatch h
  | abandon => exact nomatch h

/-- A save that is not overtaken has the row when it commits, and the run is active. -/
theorem Guarded.saved (h : Guarded s) {event : RowEvent} (htimely : NotOvertaken s event) :
    ∀ save ∈ (s.commits event).bind OpenCall.saver, s.row.ownedBy save.1 save.2 = true ∧
      s.row.payload.status.terminal = false := by
  intro save hsave
  obtain ⟨done, hdone, hsaver⟩ := Option.bind_eq_some_iff.mp hsave
  have hmem := SharedRow.mem_of_commits hdone
  have hopen : done.overtaken = false :=
    htimely done hdone (Option.isSome_iff_exists.mpr ⟨save, hsaver⟩)
  rw [OpenCall.saver] at hsaver
  split at hsaver
  · next workerId generation payload hcall =>
      obtain rfl := Option.some.inj hsaver
      have hfenced := h.collects done hmem workerId generation (.save payload) hcall
      exact ⟨hfenced.held hopen, hfenced.active hopen payload rfl⟩
  · exact nomatch hsaver

/-- An event without a late save keeps the invariant, and an ended run ended. -/
theorem Guarded.step (h : Guarded s) {event : RowEvent} (htimely : NotOvertaken s event) :
    Guarded (s.step event) ∧ (s.row.payload.status.terminal = true →
      (s.step event).row.payload.status.terminal = true) := by
  cases event with
  | claim workerId leaseSeconds now =>
      rw [SharedRow.step]
      split
      · exact ⟨h, id⟩
      · next row hclaim =>
          obtain ⟨-, rfl⟩ := RunRow.claim_eq_some hclaim
          exact ⟨(h.claim hclaim).2, id⟩
  | collect workerId generation write =>
      refine ⟨h.begin (fun payload hcall => nomatch hcall), ?_⟩
      rw [SharedRow.step, SharedRow.begin]
      split
      · exact id
      · exact id
  | cancel loaded =>
      rw [SharedRow.step]
      cases hcancel : lifecycleCancel loaded with
      | none => exact ⟨h, id⟩
      | some call =>
          refine ⟨h.begin (lifecycleCancel_eq_some hcancel), ?_⟩
          rw [Option.elim, SharedRow.begin]
          split
          · exact id
          · exact id
  | abandon k =>
      refine ⟨⟨h.owner, h.nextUri, h.engine, ?_, ?_⟩, id⟩
      · intro pending hpending workerId generation write hcall
        exact (h.collects pending (List.mem_of_mem_eraseIdx hpending) workerId generation write
          hcall).kept rfl rfl rfl id
      · intro pending hpending payload hcall
        exact h.cancels pending (List.mem_of_mem_eraseIdx hpending) payload hcall
  | commit k =>
      rw [SharedRow.step]
      cases hdone : s.pending[k]? with
      | none => exact ⟨h, id⟩
      | some done =>
          have hmem : done ∈ s.pending := List.mem_of_getElem? hdone
          have hsaved := h.saved htimely
          rw [Option.elim]
          cases hcall : done.call with
          | cancel payload =>
              refine ⟨h.finish_cancel hmem hcall, fun _ => ?_⟩
              rw [SharedRow.finish, hcall]
              show payload.status.terminal = true
              rw [(h.cancels done hmem payload hcall).1]
              rfl
          | collect workerId generation write =>
              refine ⟨h.finish_collect hmem hcall ?_, ?_⟩
              · rintro payload rfl
                refine htimely done hdone ?_
                rw [OpenCall.saver, hcall]
                rfl
              · intro hterminal
                rw [SharedRow.finish, hcall]
                show (write.commit done.read s.row).payload.status.terminal = true
                cases write with
                | renew => exact hterminal
                | release => exact hterminal
                | retry => exact hterminal
                | save payload =>
                    have hactive := (hsaved (workerId, generation) (by
                      rw [SharedRow.commits, hdone]
                      simp [OpenCall.saver, hcall])).2
                    rw [hactive] at hterminal
                    exact nomatch hterminal

/-- A run that has ended stays so over an event exactly if nothing is saved too late. -/
theorem Guarded.staysTerminal_iff (h : Guarded s) (event : RowEvent) :
    StaysTerminal s event ↔ NotOvertaken s event := by
  constructor
  · intro hstays save hsave hsaver
    obtain ⟨⟨workerId, generation⟩, hwho⟩ := Option.isSome_iff_exists.mp hsaver
    have howned := hstays.saved (workerId, generation)
      (Option.bind_eq_some_iff.mpr ⟨save, hsave, hwho⟩)
    have hmem := SharedRow.mem_of_commits hsave
    rw [OpenCall.saver] at hwho
    split at hwho
    · next workerId' generation' payload hcall =>
        obtain ⟨rfl, rfl⟩ := Prod.mk.inj (Option.some.inj hwho)
        have hfenced := h.collects save hmem workerId' generation' (.save payload) hcall
        cases hover : save.overtaken with
        | false => rfl
        | true =>
            rw [hover] at hfenced
            rw [hfenced.not_ownedBy] at howned
            exact nomatch howned
    · exact nomatch hwho
  · intro htimely
    obtain ⟨hnext, hstatus⟩ := h.step htimely
    refine ⟨hstatus, hnext.nextUri, ?_, fun save hsave => (h.saved htimely save hsave).1⟩
    intro hcancelled
    cases event with
    | claim workerId leaseSeconds now =>
        simp [SharedRow.takes, RunRow.claim, h.not_claimable hcancelled]
    | collect => rfl
    | cancel => rfl
    | commit => rfl
    | abandon => rfl

end

/-! ## Runs of events -/

/-- A run that has ended stays so in exactly the runs in which no save commits after
another transaction has taken or dropped the lease that it has read. -/
theorem ended_runs_stay_so_iff (row : RunRow) (events : List RowEvent) :
    Along StaysTerminal SharedRow.step { row } events ↔
      Along NotOvertaken SharedRow.step { row } events :=
  along_iff_along (fun _ event h => h.staysTerminal_iff event)
    (fun _ event h hstays => (h.step ((h.staysTerminal_iff event).mp hstays)).1) (guarded_new row)

/-- A query run that Trino is at work on. -/
def runningPayload : RunPayload where
  baseDatasetId := "dataset-orders"
  query := "SELECT * FROM orders"
  status := .running
  trinoNextUri := some "https://trino/v1/statement/q/1"

def runningRow : RunRow where
  payload := runningPayload
  datasetId := "dataset-orders"
  query := "SELECT * FROM orders"
  collectorNextUri := optionalString runningPayload.trinoNextUri

/-- A collector has read the row for its save when the run is cancelled. -/
def savedOverCancel : List RowEvent :=
  [.claim "worker-a" 30 0,
   .collect "worker-a" 1
     (.save { runningPayload with trinoNextUri := some "https://trino/v1/statement/q/2" }),
   .cancel runningPayload, .commit 1, .commit 0]

/-- The cancelled run is running again, and is claimed again. -/
theorem cancelled_run_revived :
    (play SharedRow.step { row := runningRow } (savedOverCancel.take 4)).row.payload.status =
        .cancelled ∧
      (play SharedRow.step { row := runningRow } savedOverCancel).row.payload.status = .running ∧
      (play SharedRow.step { row := runningRow } savedOverCancel).takes
        (.claim "worker-b" 30 0) = true ∧
      ¬ Along StaysTerminal SharedRow.step { row := runningRow } savedOverCancel := by
  decide +kernel

end AskLake.Trino

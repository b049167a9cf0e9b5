/-
# `AskLake.ControlPlane.Lease` — one worker for each control plane

`acquireOrRenew` is one upsert:

    no row                      insert, generation 1
    the caller's own row        renew, the generation stays
    an expired row              take over, one generation more
    another's unexpired row     refuse, and nothing is written

A run keeps the answers it gave.  What an owner goes by is its last one: it holds the
control plane until that expires.  The clock never goes back over the run.
-/
import AskLake.Lib.Table
import AskLake.Lib.Tenure
import AskLake.Python.Basic

namespace AskLake.ControlPlane

open AskLake.Lib AskLake.Python

/-! ## The upsert -/

/-- `continuous_control_leases`; the times are in microseconds. -/
structure ContinuousControlLease where
  ownerId : Option String
  generation : Nat
  expiresAt : Option Int
  deriving DecidableEq

abbrev Leases := Table String ContinuousControlLease

/-- `owner_id = :owner OR expires_at IS NULL OR expires_at <= :now` -/
def ContinuousControlLease.open (row : ContinuousControlLease) (ownerId : String) (now : Int) :
    Bool :=
  row.ownerId = some ownerId || row.expiresAt.all (· ≤ now)

/-- `CASE WHEN owner_id = :owner THEN generation ELSE generation + 1 END` -/
def ContinuousControlLease.nextGeneration (row : ContinuousControlLease) (ownerId : String) : Nat :=
  if row.ownerId = some ownerId then row.generation else row.generation + 1

/-- `acquire_or_renew` -/
def acquireOrRenew (leases : Leases) (now : Int) (controlPlane ownerId : String)
    (leaseSeconds : Int) : Except Error (Option Nat × Leases) :=
  if leaseSeconds < 1 then .error (.value "lease_seconds must be positive")
  else
    let expiresAt := now + leaseSeconds * 1000000
    match leases controlPlane with
    | none => .ok (some 1, leases.put controlPlane ⟨some ownerId, 1, some expiresAt⟩)
    | some row =>
        if row.open ownerId now then
          .ok (some (row.nextGeneration ownerId),
            leases.put controlPlane ⟨some ownerId, row.nextGeneration ownerId, some expiresAt⟩)
        else .ok (none, leases)

/-! ## Runs -/

structure LeaseCall where
  now : Int
  controlPlane : String
  ownerId : String
  leaseSeconds : Int
  deriving DecidableEq

/-- A generation that a call was given, and until when. -/
structure Grant where
  controlPlane : String
  ownerId : String
  generation : Nat
  expiresAt : Int
  deriving DecidableEq

def Grant.tenure (grant : Grant) : Tenure String := ⟨grant.ownerId, grant.generation⟩

/-- The row that the grant left. -/
def Grant.row (grant : Grant) : ContinuousControlLease :=
  ⟨some grant.ownerId, grant.generation, some grant.expiresAt⟩

/-- What the call is given with a generation. -/
def LeaseCall.grant (call : LeaseCall) (generation : Nat) : Grant :=
  ⟨call.controlPlane, call.ownerId, generation, call.now + call.leaseSeconds * 1000000⟩

/-- The rows, and the grants in their order. -/
structure LeaseRun where
  leases : Leases
  grants : List Grant

namespace LeaseRun

def start : LeaseRun := ⟨fun _ => none, []⟩

def step (s : LeaseRun) (call : LeaseCall) : LeaseRun :=
  match acquireOrRenew s.leases call.now call.controlPlane call.ownerId call.leaseSeconds with
  | .error _ => s
  | .ok (none, leases) => { s with leases }
  | .ok (some generation, leases) =>
      { leases, grants := s.grants ++ [call.grant generation] }

/-- The grants of a control plane, in their order. -/
def grantsOf (s : LeaseRun) (controlPlane : String) : List Grant :=
  s.grants.filter fun grant => grant.controlPlane = controlPlane

/-- The last grant of an owner. -/
def lastGrant (s : LeaseRun) (controlPlane ownerId : String) : Option Grant :=
  (s.grantsOf controlPlane).reverse.find? fun grant => grant.ownerId = ownerId

/-- The owner holds the control plane at `now`, by the last grant it was given. -/
def holds (s : LeaseRun) (controlPlane ownerId : String) (now : Int) : Prop :=
  ∃ grant, s.lastGrant controlPlane ownerId = some grant ∧ now < grant.expiresAt

end LeaseRun

/-! ## What one call does -/

/-- The row lets the caller in: there is none, or it is open. -/
def admits (row? : Option ContinuousControlLease) (ownerId : String) (now : Int) : Prop :=
  ∀ row, row? = some row → row.open ownerId now = true

theorem open_row {grant : Grant} {ownerId : String} {now : Int} :
    grant.row.open ownerId now = true ↔ grant.ownerId = ownerId ∨ grant.expiresAt ≤ now := by
  simp [ContinuousControlLease.open, Grant.row]

/-- A call is answered with a generation, and its grant is the new row, or it writes nothing. -/
theorem acquireOrRenew_cases (leases : Leases) (call : LeaseCall) :
    (∃ generation, 1 ≤ call.leaseSeconds ∧
      admits (leases call.controlPlane) call.ownerId call.now ∧
      generation = (leases call.controlPlane).elim 1 (·.nextGeneration call.ownerId) ∧
      acquireOrRenew leases call.now call.controlPlane call.ownerId call.leaseSeconds =
        .ok (some generation, leases.put call.controlPlane (call.grant generation).row)) ∨
    (1 ≤ call.leaseSeconds ∧ ¬admits (leases call.controlPlane) call.ownerId call.now ∧
      acquireOrRenew leases call.now call.controlPlane call.ownerId call.leaseSeconds =
        .ok (none, leases)) ∨
    (call.leaseSeconds < 1 ∧ ∃ error,
      acquireOrRenew leases call.now call.controlPlane call.ownerId call.leaseSeconds =
        .error error) := by
  by_cases hseconds : call.leaseSeconds < 1
  · refine Or.inr (Or.inr ⟨hseconds, .value "lease_seconds must be positive", ?_⟩)
    rw [acquireOrRenew, if_pos hseconds]
  · have hpositive : 1 ≤ call.leaseSeconds := by omega
    cases hrow : leases call.controlPlane with
    | none =>
        refine Or.inl ⟨1, hpositive, fun row h => (nomatch h), rfl, ?_⟩
        simp only [acquireOrRenew, if_neg hseconds, hrow]
        rfl
    | some row =>
        by_cases hopen : row.open call.ownerId call.now = true
        · refine Or.inl ⟨row.nextGeneration call.ownerId, hpositive, ?_, rfl, ?_⟩
          · rintro _ ⟨⟩
            exact hopen
          · simp only [acquireOrRenew, if_neg hseconds, hrow, if_pos hopen]
            rfl
        · refine Or.inr (Or.inl ⟨hpositive, fun h => hopen (h row rfl), ?_⟩)
          simp only [acquireOrRenew, if_neg hseconds, hrow, if_neg hopen]

namespace LeaseRun

/-- A step adds the grant of an admitted call, or does nothing. -/
theorem step_cases (s : LeaseRun) (call : LeaseCall) :
    step s call = s ∨ ∃ generation,
      admits (s.leases call.controlPlane) call.ownerId call.now ∧
      generation = (s.leases call.controlPlane).elim 1 (·.nextGeneration call.ownerId) ∧
      step s call = ⟨s.leases.put call.controlPlane (call.grant generation).row,
        s.grants ++ [call.grant generation]⟩ := by
  rcases acquireOrRenew_cases s.leases call with ⟨generation, -, hadmits, hgeneration, hcall⟩ |
    ⟨-, -, hcall⟩ | ⟨-, error, hcall⟩
  · exact Or.inr ⟨generation, hadmits, hgeneration, by rw [step, hcall]⟩
  · exact Or.inl (by rw [step, hcall])
  · exact Or.inl (by rw [step, hcall])

variable {s : LeaseRun} {grant : Grant} {controlPlane ownerId : String}

theorem grantsOf_append_self (leases : Leases) (h : grant.controlPlane = controlPlane) :
    grantsOf ⟨leases, s.grants ++ [grant]⟩ controlPlane = s.grantsOf controlPlane ++ [grant] := by
  simp [grantsOf, h]

theorem grantsOf_append_other (leases : Leases) (h : grant.controlPlane ≠ controlPlane) :
    grantsOf ⟨leases, s.grants ++ [grant]⟩ controlPlane = s.grantsOf controlPlane := by
  simp [grantsOf, h]

/-- The last grant of the caller is the new one. -/
theorem lastGrant_append_self (leases : Leases) (h : grant.controlPlane = controlPlane) :
    lastGrant ⟨leases, s.grants ++ [grant]⟩ controlPlane grant.ownerId = some grant := by
  simp [lastGrant, grantsOf_append_self leases h]

theorem lastGrant_append_other (leases : Leases)
    (h : grant.controlPlane ≠ controlPlane ∨ grant.ownerId ≠ ownerId) :
    lastGrant ⟨leases, s.grants ++ [grant]⟩ controlPlane ownerId =
      s.lastGrant controlPlane ownerId := by
  by_cases hplane : grant.controlPlane = controlPlane
  · have howner : grant.ownerId ≠ ownerId := h.resolve_left (fun hne => hne hplane)
    simp [lastGrant, grantsOf_append_self leases hplane, howner]
  · rw [lastGrant, grantsOf_append_other leases hplane, ← lastGrant]

/-! ## Exclusive leases -/

end LeaseRun

/-- A renewal keeps the generation, a change of owner raises it. -/
def Grant.Follows (a b : Grant) : Prop :=
  (b.ownerId = a.ownerId ∧ b.generation = a.generation) ∨
    (b.ownerId ≠ a.ownerId ∧ a.generation < b.generation)

theorem Grant.Follows.before {a b : Grant} (h : a.Follows b) : a.tenure.Before b.tenure := by
  rcases h with ⟨howner, hgeneration⟩ | ⟨-, hlt⟩
  · left
    rw [Grant.tenure, Grant.tenure, howner, hgeneration]
  · exact Or.inr hlt

namespace LeaseRun

/-- The row of a control plane is its last grant, and whoever was granted it before has
run out by `clock`. -/
structure Exclusive (s : LeaseRun) (clock : Int) : Prop where
  row : ∀ controlPlane,
    s.leases controlPlane = (s.grantsOf controlPlane).getLast?.map Grant.row
  chain : ∀ controlPlane, (s.grantsOf controlPlane).IsChain Grant.Follows
  ended : ∀ controlPlane ownerId grant, s.lastGrant controlPlane ownerId = some grant →
    (s.grantsOf controlPlane).getLast? = some grant ∨ grant.expiresAt ≤ clock

theorem exclusive_start (clock : Int) : start.Exclusive clock where
  row _ := rfl
  chain _ := List.IsChain.nil
  ended _ _ _ h := nomatch h

namespace Exclusive

variable {s : LeaseRun} {clock now : Int} {controlPlane ownerId : String}

theorem mono (hs : s.Exclusive clock) (hclock : clock ≤ now) : s.Exclusive now where
  row := hs.row
  chain := hs.chain
  ended controlPlane ownerId grant h := (hs.ended controlPlane ownerId grant h).imp_right
    fun hover => Int.le_trans hover hclock

/-- A holder's last grant is the last one of the control plane. -/
theorem last_of_holds (hs : s.Exclusive clock) (hclock : clock ≤ now)
    (h : s.holds controlPlane ownerId now) :
    ∃ grant, (s.grantsOf controlPlane).getLast? = some grant ∧ grant.ownerId = ownerId ∧
      now < grant.expiresAt := by
  obtain ⟨grant, hgrant, hlive⟩ := h
  have howner : grant.ownerId = ownerId := by simpa using List.find?_some hgrant
  rcases hs.ended controlPlane ownerId grant hgrant with hlast | hover
  · exact ⟨grant, hlast, howner, hlive⟩
  · exact absurd hlive (by omega)

/-- The owner of the last grant holds the control plane until it expires. -/
theorem holds_of_last {grant : Grant} (h : (s.grantsOf controlPlane).getLast? = some grant)
    (hlive : now < grant.expiresAt) : s.holds controlPlane grant.ownerId now := by
  refine ⟨grant, ?_, hlive⟩
  obtain ⟨earlier, hearlier⟩ := List.getLast?_eq_some_iff.mp h
  rw [lastGrant, hearlier]
  simp

/-- A caller is let in where it is the holder, or nobody is. -/
theorem admits_iff (hs : s.Exclusive clock) (hclock : clock ≤ now) :
    admits (s.leases controlPlane) ownerId now ↔
      s.holds controlPlane ownerId now ∨ ∀ other, ¬s.holds controlPlane other now := by
  rw [hs.row]
  constructor
  · intro hadmits
    by_cases hheld : ∃ other, s.holds controlPlane other now
    · obtain ⟨other, hother⟩ := hheld
      obtain ⟨grant, hlast, rfl, hlive⟩ := hs.last_of_holds hclock hother
      have hopen : grant.row.open ownerId now = true := hadmits _ (by rw [hlast]; rfl)
      rcases open_row.mp hopen with rfl | hexpired
      · exact Or.inl hother
      · exact absurd hlive (by omega)
    · exact Or.inr fun other hother => hheld ⟨other, hother⟩
  · intro h row hrow
    obtain ⟨grant, hlast, rfl⟩ := Option.map_eq_some_iff.mp hrow
    rw [open_row]
    by_cases hlive : now < grant.expiresAt
    · have hholds := holds_of_last hlast hlive
      rcases h with hcaller | hnobody
      · obtain ⟨grant', hlast', howner, -⟩ := hs.last_of_holds hclock hcaller
        rw [hlast] at hlast'
        obtain ⟨⟩ := hlast'
        exact Or.inl howner
      · exact absurd hholds (hnobody _)
    · exact Or.inr (by omega)

/-- The generation that an admitted caller is given follows the last one. -/
theorem follows (hs : s.Exclusive clock) (call : LeaseCall) (last : Grant)
    (hlast : (s.grantsOf call.controlPlane).getLast? = some last) :
    last.Follows (call.grant
      ((s.leases call.controlPlane).elim 1 (·.nextGeneration call.ownerId))) := by
  rw [hs.row, hlast]
  by_cases howner : last.ownerId = call.ownerId
  · left
    refine ⟨howner.symm, ?_⟩
    simp [LeaseCall.grant, ContinuousControlLease.nextGeneration, Grant.row, howner]
  · right
    refine ⟨fun h => howner h.symm, ?_⟩
    simp [LeaseCall.grant, ContinuousControlLease.nextGeneration, Grant.row, howner]

/-- After an admitted call everyone but the caller has run out. -/
theorem over_append (hs : s.Exclusive clock) (call : LeaseCall) (generation : Nat)
    (leases : Leases) (hclock : clock ≤ call.now)
    (hadmits : admits (s.leases call.controlPlane) call.ownerId call.now) {grant : Grant}
    (h : lastGrant ⟨leases, s.grants ++ [call.grant generation]⟩ controlPlane ownerId =
      some grant) :
    (grantsOf ⟨leases, s.grants ++ [call.grant generation]⟩ controlPlane).getLast? =
      some grant ∨ grant.expiresAt ≤ call.now := by
  by_cases hplane : call.controlPlane = controlPlane
  · by_cases howner : call.ownerId = ownerId
    · subst howner
      have hself : some (call.grant generation) = some grant :=
        (@lastGrant_append_self s (call.grant generation) _ leases hplane).symm.trans h
      left
      rw [grantsOf_append_self leases hplane, List.getLast?_concat, hself]
    · right
      rw [lastGrant_append_other leases (Or.inr howner)] at h
      rcases hs.ended controlPlane ownerId grant h with hlast | hover
      · have hopen : grant.row.open call.ownerId call.now = true := by
          refine hadmits _ ?_
          rw [hplane, hs.row, hlast]
          rfl
        have hgrant : grant.ownerId = ownerId := by simpa using List.find?_some h
        exact (open_row.mp hopen).resolve_left fun hcaller => howner (hcaller.symm.trans hgrant)
      · omega
  · rw [lastGrant_append_other leases (Or.inl hplane)] at h
    rw [grantsOf_append_other leases hplane]
    exact (hs.mono hclock).ended controlPlane ownerId grant h

theorem step (hs : s.Exclusive clock) (call : LeaseCall) (hclock : clock ≤ call.now) :
    (LeaseRun.step s call).Exclusive call.now := by
  rcases step_cases s call with hstep | ⟨generation, hadmits, hgeneration, hstep⟩
  · rw [hstep]
    exact hs.mono hclock
  · rw [hstep]
    refine ⟨fun controlPlane => ?_, fun controlPlane => ?_,
      fun _ _ _ h => hs.over_append call generation _ hclock hadmits h⟩
    · by_cases hplane : call.controlPlane = controlPlane
      · rw [grantsOf_append_self _ hplane, List.getLast?_concat, ← hplane]
        exact Table.put_self _ _ _
      · rw [grantsOf_append_other _ hplane, ← hs.row controlPlane]
        exact Table.put_ne _ (Ne.symm hplane) _
    · by_cases hplane : call.controlPlane = controlPlane
      · rw [grantsOf_append_self _ hplane]
        refine List.isChain_append.mpr ⟨hs.chain controlPlane, List.isChain_singleton _, ?_⟩
        rintro last hlast _ ⟨⟩
        subst hplane
        rw [hgeneration]
        exact hs.follows call last hlast
      · rw [grantsOf_append_other _ hplane]
        exact hs.chain controlPlane

theorem play (hs : s.Exclusive clock) {calls : List LeaseCall} {now : Int}
    (hclock : (clock :: (calls.map LeaseCall.now ++ [now])).Pairwise (· ≤ ·)) :
    (Lib.play LeaseRun.step s calls).Exclusive now := by
  induction calls generalizing s clock with
  | nil => exact hs.mono (by simpa using hclock)
  | cons call calls ih =>
      obtain ⟨hle, hrest⟩ := List.pairwise_cons.mp hclock
      exact ih (hs.step call (hle call.now (by simp))) hrest

/-- In every generation of a control plane there is one owner. -/
theorem owner_of_generation (hs : s.Exclusive clock) {a b : Grant}
    (ha : a ∈ s.grantsOf controlPlane) (hb : b ∈ s.grantsOf controlPlane)
    (h : a.generation = b.generation) : a.ownerId = b.ownerId := by
  have hchain : ((s.grantsOf controlPlane).map Grant.tenure).IsChain Tenure.Before :=
    (List.isChain_map Grant.tenure).mpr ((hs.chain controlPlane).imp fun _ _ h => h.before)
  exact Tenure.along_history hchain (List.mem_map_of_mem ha) (List.mem_map_of_mem hb) h

end Exclusive

/-- One owner at a time: in every run, at every time from the last call on, at most one owner
holds a control plane; a call is given a generation exactly when its caller holds it or
nobody does; a renewal keeps the generation, a change of owner raises it, and no generation
is ever given to two owners. -/
theorem one_owner_at_a_time (calls : List LeaseCall) (now : Int) (controlPlane : String)
    (hclock : (calls.map LeaseCall.now ++ [now]).Pairwise (· ≤ ·)) :
    let s := Lib.play step start calls
    (∀ owner other, s.holds controlPlane owner now → s.holds controlPlane other now →
      owner = other) ∧
    (∀ ownerId leaseSeconds,
      (∃ generation leases, acquireOrRenew s.leases now controlPlane ownerId leaseSeconds =
        .ok (some generation, leases)) ↔
      1 ≤ leaseSeconds ∧
        (s.holds controlPlane ownerId now ∨ ∀ other, ¬s.holds controlPlane other now)) ∧
    (s.grantsOf controlPlane).IsChain Grant.Follows ∧
    ∀ a ∈ s.grantsOf controlPlane, ∀ b ∈ s.grantsOf controlPlane,
      a.generation = b.generation → a.ownerId = b.ownerId := by
  intro s
  have hs : s.Exclusive now := by
    cases calls with
    | nil => exact exclusive_start now
    | cons call calls =>
        refine (exclusive_start call.now).play (List.pairwise_cons.mpr ⟨?_, hclock⟩)
        intro time htime
        rcases List.mem_cons.mp htime with rfl | htime
        · exact Int.le_refl _
        · exact (List.pairwise_cons.mp hclock).1 time htime
  refine ⟨fun owner other howner hother => ?_, fun ownerId leaseSeconds => ?_,
    hs.chain controlPlane, fun a ha b hb h => hs.owner_of_generation ha hb h⟩
  · obtain ⟨grant, hlast, rfl, -⟩ := hs.last_of_holds (Int.le_refl now) howner
    obtain ⟨grant', hlast', rfl, -⟩ := hs.last_of_holds (Int.le_refl now) hother
    rw [hlast] at hlast'
    obtain ⟨⟩ := hlast'
    rfl
  · rw [← hs.admits_iff (Int.le_refl now)]
    constructor
    · rintro ⟨generation, leases, hcall⟩
      rcases acquireOrRenew_cases s.leases ⟨now, controlPlane, ownerId, leaseSeconds⟩ with
        ⟨_, hseconds, hadmits, -, -⟩ | ⟨-, -, h⟩ | ⟨-, _, h⟩
      · exact ⟨hseconds, hadmits⟩
      · exact nomatch hcall.symm.trans h
      · exact nomatch hcall.symm.trans h
    · rintro ⟨hseconds, hadmits⟩
      rcases acquireOrRenew_cases s.leases ⟨now, controlPlane, ownerId, leaseSeconds⟩ with
        ⟨_, -, -, -, h⟩ | ⟨-, hrefused, -⟩ | ⟨hlt, -⟩
      · exact ⟨_, _, h⟩
      · exact absurd hadmits hrefused
      · exact absurd hlt (Int.not_lt.mpr hseconds)

/-- Two workers: the second takes over when the first has run out, and the first is refused. -/
def takeover : List LeaseCall :=
  [⟨0, "etl", "worker-a", 30⟩, ⟨10, "etl", "worker-a", 30⟩, ⟨20, "etl", "worker-b", 30⟩,
    ⟨30000010, "etl", "worker-b", 30⟩, ⟨30000020, "etl", "worker-a", 30⟩]

theorem one_owner_takeover :
    let s := Lib.play step start takeover
    (∀ owner other, s.holds "etl" owner 30000020 → s.holds "etl" other 30000020 →
      owner = other) ∧
    (∀ ownerId leaseSeconds,
      (∃ generation leases, acquireOrRenew s.leases 30000020 "etl" ownerId leaseSeconds =
        .ok (some generation, leases)) ↔
      1 ≤ leaseSeconds ∧
        (s.holds "etl" ownerId 30000020 ∨ ∀ other, ¬s.holds "etl" other 30000020)) ∧
    (s.grantsOf "etl").IsChain Grant.Follows ∧
    ∀ a ∈ s.grantsOf "etl", ∀ b ∈ s.grantsOf "etl",
      a.generation = b.generation → a.ownerId = b.ownerId :=
  one_owner_at_a_time takeover 30000020 "etl" (by decide)

end LeaseRun

end AskLake.ControlPlane

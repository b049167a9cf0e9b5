/-
# `AskLake.SparkJob.PublishFaults` — what one fault leaves

The statements of `publish_spark_paths` fall into four stages.  Where the fault is in another
stage, a stage does what it is for:

    stale   (s, t, qs, q, _, _)        ⟼  (s, t, qs, q, –, –)
    aside   (s, t, qs, q, –, –)        ⟼  (s, –, qs, –, t, q)
    new     (s, –, qs, –, t, q)        ⟼  (–, s, –, qs, t, q)
    backups (–, s, –, qs, t, q)        ⟼  (–, s, –, qs, –, –)

and the `except` clause takes each line but the last back to the old pair.  The last one it
takes to the old target and whatever the quarantine's backup makes of the published one, as
long as both backups are there.
-/
import AskLake.SparkJob.PublishPaths

namespace AskLake.SparkJob

/-! ## Stages -/

inductive Stage
  | stale
  | aside
  | new
  | backups
  deriving DecidableEq

def SparkCall.stage : SparkCall → Stage
  | .existsStaleTarget | .deleteStaleTarget => .stale
  | .existsStaleQuarantine | .deleteStaleQuarantine => .stale
  | .existsTarget | .renameTarget | .existsQuarantine | .renameQuarantine => .aside
  | .renameStaging | .existsQuarantineStaging | .renameQuarantineStaging => .new
  | .existsTargetBackup | .deleteTargetBackup => .backups
  | .existsQuarantineBackup | .deleteQuarantineBackup => .backups

/-- The fault is in another stage. -/
def Clean (fault : Option Fault) (stage : Stage) : Prop :=
  ∀ f, fault = some f → f.call.stage ≠ stage

section
variable {δ : Type} {into : δ → δ → Option δ} {fault : Option Fault}
  {s : δ} {staging t qs q tb qb : Option δ} {a b c : Bool}

theorem Clean.spared {stage : Stage} (h : Clean fault stage) (call : SparkCall)
    (hcall : call.stage = stage) : Spared fault call :=
  fun f hf hthis => h f hf (hthis ▸ hcall)

theorem clean_some {call : SparkCall} {kind : FaultKind} {stage : Stage}
    (h : call.stage ≠ stage) : Clean (some ⟨call, kind⟩) stage := by
  intro f hf
  cases hf
  exact h

theorem removeStale_clean (h : Clean fault .stale) :
    removeStale fault ⟨⟨staging, t, qs, q, tb, qb⟩, a, b, c⟩ =
      .ok ⟨⟨staging, t, qs, q, none, none⟩, a, b, c⟩ := by
  unfold removeStale
  rw [clear_spared (h.spared _ rfl) (h.spared _ rfl)]
  exact clear_spared (h.spared _ rfl) (h.spared _ rfl)

theorem setAside_clean (h : Clean fault .aside) :
    setAside into fault ⟨⟨staging, t, qs, q, none, none⟩, a, b, c⟩ =
      .ok ⟨⟨staging, none, qs, none, t, q⟩, true, true, c⟩ := by
  unfold setAside
  rw [move_spared (h.spared _ rfl) (h.spared _ rfl) rfl]
  show (move into fault _ _ .quarantine .quarantineBackup _ >>= _) = _
  rw [move_spared (h.spared _ rfl) (h.spared _ rfl) rfl]
  rfl

theorem putNew_clean (h : Clean fault .new) :
    putNew into fault ⟨⟨some s, none, qs, none, tb, qb⟩, a, b, c⟩ =
      .ok ⟨⟨none, some s, none, qs, tb, qb⟩, a, b, true⟩ := by
  unfold putNew
  rw [renamePath_spared (h.spared _ rfl) rfl rfl]
  exact move_spared (h.spared _ rfl) (h.spared _ rfl) rfl

theorem dropBackups_clean (h : Clean fault .backups) :
    dropBackups fault ⟨⟨staging, t, qs, q, tb, qb⟩, a, b, c⟩ =
      .ok ⟨⟨staging, t, qs, q, none, none⟩, a, b, c⟩ := by
  unfold dropBackups
  rw [clear_spared (h.spared _ rfl) (h.spared _ rfl)]
  exact clear_spared (h.spared _ rfl) (h.spared _ rfl)

/-! ## The `except` clause -/

/-- What is at a path after a rename to it: `old` before, `moved` renamed. -/
def landed (into : δ → δ → Option δ) : Option δ → Option δ → Option δ
  | old, none => old
  | none, some moved => some moved
  | some old, some moved => some ((into old moved).getD old)

theorem Files.get_tryRename {files : Files δ} {src dst : SparkPath} :
    (files.tryRename into src dst).get dst = landed into (files.get dst) (files.get src) := by
  unfold Files.tryRename Files.rename
  cases hsrc : files.get src with
  | none => rfl
  | some moved =>
      cases hdst : files.get dst with
      | none => exact Files.get_set_self _
      | some old =>
          cases hinto : into old moved with
          | none => simp [landed, hinto, hdst]
          | some mixed => simp [landed, hinto]

theorem Files.get_tryRename_ne {files : Files δ} {path src dst : SparkPath} (hsrc : path ≠ src)
    (hdst : path ≠ dst) : (files.tryRename into src dst).get path = files.get path := by
  unfold Files.tryRename Files.rename
  cases files.get src with
  | none => rfl
  | some moved =>
      cases hold : files.get dst with
      | none => exact (Files.get_set_ne _ hdst).trans (Files.get_set_ne _ hsrc)
      | some old =>
          cases hinto : into old moved with
          | none => simp [hinto]
          | some mixed => simp [hinto, Files.get_set_ne _ hdst, Files.get_set_ne _ hsrc]

theorem recover_target :
    recoverPaths into ⟨⟨staging, none, qs, q, t, qb⟩, true, false, false⟩ =
      ⟨staging, t, qs, q, none, qb⟩ := by
  cases t <;> rfl

/-- Both backups are renamed back, over a target that has been published or not. -/
theorem recover_both {published : Bool} (h : published = false → t = none) :
    recoverPaths into ⟨⟨staging, t, qs, none, tb, qb⟩, true, true, published⟩ =
      ⟨staging, tb, qs, qb, none, none⟩ := by
  cases published with
  | false =>
      rw [h rfl]
      cases tb <;> cases qb <;> rfl
  | true => cases tb <;> cases qb <;> rfl

/-- The quarantine's backup is renamed onto what has been published. -/
theorem recover_published :
    (recoverPaths into ⟨⟨none, some s, none, qs, tb, qb⟩, true, true, true⟩).target = tb ∧
      (recoverPaths into ⟨⟨none, some s, none, qs, tb, qb⟩, true, true, true⟩).quarantine =
        landed into qs qb := by
  have hundone : recoverPaths into ⟨⟨none, some s, none, qs, tb, qb⟩, true, true, true⟩ =
      Files.tryRename into ⟨none, tb, none, qs, none, qb⟩ .quarantineBackup .quarantine := by
    cases tb <;> rfl
  let undone : Files δ := ⟨none, tb, none, qs, none, qb⟩
  have htarget : (undone.tryRename into .quarantineBackup .quarantine).get .target = tb :=
    Files.get_tryRename_ne (by decide) (by decide)
  have hquarantine : (undone.tryRename into .quarantineBackup .quarantine).get .quarantine =
      landed into qs qb := Files.get_tryRename
  rw [hundone]
  exact ⟨htarget, hquarantine⟩

theorem landed_eq_old : landed into qs q = q ↔ ∀ new, qs = some new →
    ∃ old, q = some old ∧ (into new old).getD new = old := by
  cases qs <;> cases q <;> simp [landed]

theorem landed_eq_new : landed into qs q = qs ↔
    (qs = none → q = none) ∧ ∀ new, qs = some new → ∀ old, q = some old →
      (into new old).getD new = new := by
  cases qs <;> cases q <;> simp [landed]

/-! ## A fault in each stage -/

/-- The old target and quarantine; or the staged ones, and no other target is lost by a call
that raises. -/
def OldOrNew (s : δ) (t qs q : Option δ) (result : Files δ × Bool) : Prop :=
  (result.1.target = t ∧ result.1.quarantine = q) ∨
    (result.1.target = some s ∧ result.1.quarantine = qs ∧
      (result.2 = true → ∀ old, t = some old → s = old))

theorem atomic_iff {files : Files δ} {result : Files δ × Bool} (hs : files.staging = some s) :
    Atomic files result ↔
      OldOrNew s files.target files.quarantineStaging files.quarantine result := by
  unfold Atomic BothOrNeither OldOrNew
  rw [hs]
  constructor
  · rintro ⟨hold | ⟨htarget, hquarantine⟩, hkept⟩
    · exact .inl hold
    · refine .inr ⟨htarget, hquarantine, fun hraises old hold => ?_⟩
      exact Option.some.inj (htarget.symm.trans (hkept hraises old hold))
  · rintro (⟨htarget, hquarantine⟩ | ⟨htarget, hquarantine, hkept⟩)
    · exact ⟨.inl ⟨htarget, hquarantine⟩, fun _ old hold => htarget.trans hold⟩
    · refine ⟨.inr ⟨htarget, hquarantine⟩, fun hraises old hold => ?_⟩
      rw [htarget, hkept hraises old hold]

theorem old_of_recover {p : Progress δ} {st qs' tb' qb' : Option δ}
    (h : recoverPaths into p = ⟨st, t, qs', q, tb', qb'⟩) :
    OldOrNew s t qs q (endPublish into (.error p)) :=
  .inl ⟨congrArg Files.target h, congrArg Files.quarantine h⟩

/-- What follows the first stage. -/
def replacePair (into : δ → δ → Option δ) (fault : Option Fault) (p : Progress δ) :
    Except (Progress δ) (Progress δ) := do
  let p ← setAside into fault p
  let p ← putNew into fault p
  dropBackups fault p

theorem tryPublish_clean (h : Clean fault .stale) :
    tryPublish into fault ⟨⟨staging, t, qs, q, tb, qb⟩, a, b, c⟩ =
      replacePair into fault ⟨⟨staging, t, qs, q, none, none⟩, a, b, c⟩ := by
  unfold tryPublish
  rw [removeStale_clean h]
  rfl

theorem replacePair_clean (h : Clean fault .aside) :
    replacePair into fault ⟨⟨staging, t, qs, q, none, none⟩, a, b, c⟩ =
      putNew into fault ⟨⟨staging, none, qs, none, t, q⟩, true, true, c⟩ >>= dropBackups fault := by
  unfold replacePair
  rw [setAside_clean h]
  rfl

theorem publish_clean (hnew : Clean fault .new) (hbackups : Clean fault .backups) :
    (putNew into fault ⟨⟨some s, none, qs, none, tb, qb⟩, a, b, c⟩ >>= dropBackups fault) =
      .ok ⟨⟨none, some s, none, qs, none, none⟩, a, b, true⟩ := by
  rw [putNew_clean hnew]
  exact dropBackups_clean hbackups

/-- The same, where the old target is still there. -/
theorem publish_onto_target {old : δ} (hnew : Clean fault .new) (hbackups : Clean fault .backups) :
    endPublish into (putNew into fault ⟨⟨some s, some old, qs, none, none, q⟩, true, true, false⟩ >>=
      dropBackups fault) =
        (into old s).elim (⟨some s, some old, qs, q, none, none⟩, true)
          fun mixed => (⟨none, some mixed, none, qs, none, none⟩, false) := by
  unfold putNew
  cases hinto : into old s with
  | none =>
      rw [renamePath_refused (hnew.spared _ rfl) rfl rfl hinto]
      cases q <;> rfl
  | some mixed =>
      rw [renamePath_mixed (hnew.spared _ rfl) rfl rfl hinto]
      show endPublish into (move into fault _ _ .quarantineStaging .quarantine
        ⟨⟨none, some mixed, qs, none, none, q⟩, true, true, true⟩ >>= _) = _
      rw [move_spared (hnew.spared _ rfl) (hnew.spared _ rfl) rfl]
      exact congrArg (endPublish into) (dropBackups_clean hbackups)

/-- The same, where the old quarantine is. -/
theorem publish_onto_quarantine {old new : δ} (hnew : Clean fault .new)
    (hbackups : Clean fault .backups) :
    endPublish into (putNew into fault ⟨⟨some s, none, some new, some old, t, none⟩,
      true, true, false⟩ >>= dropBackups fault) =
        (into old new).elim (⟨none, t, some new, some old, none, none⟩, true)
          fun mixed => (⟨none, some s, none, some mixed, none, none⟩, false) := by
  unfold putNew
  rw [renamePath_spared (hnew.spared _ rfl) rfl rfl]
  show endPublish into (move into fault _ _ .quarantineStaging .quarantine
    ⟨⟨none, some s, some new, some old, t, none⟩, true, true, true⟩ >>= _) = _
  unfold move
  rw [existsPath_spared (hnew.spared _ rfl)]
  show endPublish into (renamePath into fault _ .quarantineStaging .quarantine
    ⟨⟨none, some s, some new, some old, t, none⟩, true, true, true⟩ >>= _) = _
  cases hinto : into old new with
  | none =>
      rw [renamePath_refused (hnew.spared _ rfl) rfl rfl hinto]
      cases t <;> rfl
  | some mixed =>
      rw [renamePath_mixed (hnew.spared _ rfl) rfl rfl hinto]
      exact congrArg (endPublish into) (dropBackups_clean hbackups)

/-- And where it is, and none is staged. -/
theorem publish_no_quarantine (hnew : Clean fault .new) (hbackups : Clean fault .backups) :
    endPublish into (putNew into fault ⟨⟨some s, none, none, q, t, none⟩, true, true, false⟩ >>=
      dropBackups fault) = (⟨none, some s, none, q, none, none⟩, false) := by
  unfold putNew
  rw [renamePath_spared (hnew.spared _ rfl) rfl rfl]
  show endPublish into (move into fault _ _ .quarantineStaging .quarantine
    ⟨⟨none, some s, none, q, t, none⟩, true, true, true⟩ >>= _) = _
  unfold move
  rw [existsPath_spared (hnew.spared _ rfl)]
  exact congrArg (endPublish into) (dropBackups_clean hbackups)

/-! ### Stale backups -/

/-- A `clear`, wherever the fault is. -/
theorem clear_outcome {existsCall deleteCall : SparkCall} {path : SparkPath} {p : Progress δ} :
    clear fault existsCall deleteCall path p = .error p ∨
      clear fault existsCall deleteCall path p = .ok p ∨
      clear fault existsCall deleteCall path p = .ok { p with files := p.files.delete path } := by
  unfold clear existsPath
  split
  · exact .inl rfl
  · split
    · exact .inr (.inl rfl)
    · cases (p.files.get path).isSome with
      | false => exact .inr (.inl rfl)
      | true =>
          show deletePath fault deleteCall path p = _ ∨ deletePath fault deleteCall path p = _ ∨
            deletePath fault deleteCall path p = _
          unfold deletePath
          split
          · exact .inl rfl
          · exact .inr (.inr rfl)

/-- One fault leaves one stale backup at most. -/
theorem removeStale_outcome :
    (∃ tb' qb', removeStale fault ⟨⟨staging, t, qs, q, tb, qb⟩, a, b, c⟩ =
      .error ⟨⟨staging, t, qs, q, tb', qb'⟩, a, b, c⟩) ∨
    ∃ tb' qb', (tb' = none ∨ qb' = none) ∧
      removeStale fault ⟨⟨staging, t, qs, q, tb, qb⟩, a, b, c⟩ =
        .ok ⟨⟨staging, t, qs, q, tb', qb'⟩, a, b, c⟩ := by
  unfold removeStale
  by_cases hfirst : Spared fault .existsStaleTarget ∧ Spared fault .deleteStaleTarget
  · rw [clear_spared hfirst.1 hfirst.2]
    rcases @clear_outcome _ fault _ _ _ _ with herror | hok | hok
    · exact .inl ⟨_, _, herror⟩
    · exact .inr ⟨_, _, .inl rfl, hok⟩
    · exact .inr ⟨_, _, .inl rfl, hok⟩
  · have hsecond : Spared fault .existsStaleQuarantine ∧ Spared fault .deleteStaleQuarantine := by
      constructor <;> intro f hf hcall <;> refine hfirst ⟨?_, ?_⟩ <;> intro f' hf' hcall' <;>
        · rw [hf] at hf'
          cases hf'
          rw [hcall] at hcall'
          cases hcall'
    rcases @clear_outcome _ fault _ _ _ _ with herror | hok | hok
    · exact .inl ⟨_, _, by rw [herror]; rfl⟩
    · exact .inr ⟨tb, none, .inr rfl, by rw [hok]; exact clear_spared hsecond.1 hsecond.2⟩
    · exact .inr ⟨none, none, .inr rfl, by rw [hok]; exact clear_spared hsecond.1 hsecond.2⟩

/-- A rename without a fault is refused, or carries something to its end. -/
theorem move_onto (existsCall renameCall : SparkCall) (src dst : SparkPath) (p : Progress δ)
    (hexists : Spared fault existsCall) (h : Spared fault renameCall) :
    ((p.files.get dst).isSome ∧ move into fault existsCall renameCall src dst p = .error p) ∨
      ∃ data, (p.files.get dst = none → data = p.files.get src) ∧
        move into fault existsCall renameCall src dst p =
          .ok { p with files := (p.files.set none src).set data dst } := by
  cases hdst : p.files.get dst with
  | none => exact .inr ⟨_, fun _ => rfl, move_spared hexists h hdst⟩
  | some old =>
      unfold move
      rw [existsPath_spared hexists]
      cases hsrc : p.files.get src with
      | none =>
          refine .inr ⟨some old, (by intro hnone; cases hnone), ?_⟩
          rw [Files.set_of_get hsrc, Files.set_of_get hdst]
          rfl
      | some data =>
          show _ ∧ renamePath into fault renameCall src dst p = _ ∨
            ∃ data, _ ∧ renamePath into fault renameCall src dst p = _
          cases hinto : into old data with
          | none => exact .inl ⟨rfl, renamePath_refused h hsrc hdst hinto⟩
          | some mixed =>
              refine .inr ⟨some mixed, (by intro hnone; cases hnone), ?_⟩
              exact renamePath_mixed h hsrc hdst hinto

theorem setAside_onto (h : Clean fault .aside) (hone : tb = none ∨ qb = none) :
    (∃ p, setAside into fault ⟨⟨staging, t, qs, q, tb, qb⟩, false, false, false⟩ = .error p ∧
      (recoverPaths into p).target = t ∧ (recoverPaths into p).quarantine = q) ∨
    ∃ tb' qb', setAside into fault ⟨⟨staging, t, qs, q, tb, qb⟩, false, false, false⟩ =
      .ok ⟨⟨staging, none, qs, none, tb', qb'⟩, true, true, false⟩ := by
  unfold setAside
  rcases @move_onto _ into fault .existsTarget .renameTarget .target .targetBackup
    ⟨⟨staging, t, qs, q, tb, qb⟩, false, false, false⟩ (h.spared _ rfl) (h.spared _ rfl)
    with ⟨_, herror⟩ | ⟨tb', htb', hok⟩
  · rw [herror]
    exact .inl ⟨_, rfl, rfl, rfl⟩
  · rw [hok]
    rcases @move_onto _ into fault .existsQuarantine .renameQuarantine .quarantine
      .quarantineBackup ⟨⟨staging, none, qs, q, tb', qb⟩, true, false, false⟩ (h.spared _ rfl)
      (h.spared _ rfl) with ⟨hsome, herror⟩ | ⟨qb', _, hok'⟩
    · -- the quarantine's backup is there, so the target's was free
      have htb : tb = none := hone.resolve_right (by rintro rfl; cases hsome)
      have hback : recoverPaths into ⟨⟨staging, none, qs, q, tb', qb⟩, true, false, false⟩ =
          ⟨staging, t, qs, q, none, qb⟩ := by
        rw [htb' htb]
        exact recover_target
      refine .inl ⟨_, ?_, congrArg Files.target hback, congrArg Files.quarantine hback⟩
      show (move into fault _ _ .quarantine .quarantineBackup
        ⟨⟨staging, none, qs, q, tb', qb⟩, true, false, false⟩ >>= _) = _
      rw [herror]
      rfl
    · refine .inr ⟨tb', qb', ?_⟩
      show (move into fault _ _ .quarantine .quarantineBackup
        ⟨⟨staging, none, qs, q, tb', qb⟩, true, false, false⟩ >>= _) = _
      rw [hok']
      rfl

theorem stale_survives (haside : Clean fault .aside) (hnew : Clean fault .new)
    (hbackups : Clean fault .backups) :
    OldOrNew s t qs q
      (endPublish into (tryPublish into fault ⟨⟨some s, t, qs, q, tb, qb⟩, false, false, false⟩)) := by
  unfold tryPublish
  rcases @removeStale_outcome _ fault (some s) t qs q tb qb false false false with
    ⟨_, _, herror⟩ | ⟨tb', qb', hone, hok⟩
  · rw [herror]
    exact .inl ⟨rfl, rfl⟩
  · rw [hok]
    show OldOrNew s t qs q (endPublish into
      (setAside into fault ⟨⟨some s, t, qs, q, tb', qb'⟩, false, false, false⟩ >>= _))
    rcases @setAside_onto _ into fault (some s) t qs q tb' qb' haside hone with
      ⟨p, herror, hold⟩ | ⟨tb'', qb'', hok'⟩
    · rw [herror]
      exact .inl hold
    · rw [hok']
      show OldOrNew s t qs q (endPublish into
        (putNew into fault ⟨⟨some s, none, qs, none, tb'', qb''⟩, true, true, false⟩ >>= _))
      rw [publish_clean hnew hbackups]
      exact .inr ⟨rfl, rfl, nofun⟩

/-! ### The old pair is set aside -/

/-- The stages from the second on, over the pair `t`, `q` and the staged `s`, `qs`. -/
def Replaces (into : δ → δ → Option δ) (fault : Fault) (s : δ) (t qs q : Option δ) : Prop :=
  OldOrNew s t qs q
    (endPublish into (replacePair into (some fault) ⟨⟨some s, t, qs, q, none, none⟩,
      false, false, false⟩))

theorem existsTarget_raises : Replaces into ⟨.existsTarget, .raises⟩ s t qs q :=
  .inl ⟨rfl, rfl⟩

/-- The new target is renamed onto the old one. -/
theorem existsTarget_false :
    Replaces into ⟨.existsTarget, .answersFalse⟩ s t qs q ↔
      ∀ old, t = some old → ∀ mixed, into old s = some mixed →
        mixed = s ∨ (mixed = old ∧ qs = q) := by
  cases t with
  | none =>
      refine iff_of_true ?_ (by intro old hold; cases hold)
      cases q <;> cases qs <;> exact .inr ⟨rfl, rfl, nofun⟩
  | some old =>
      have haside : replacePair into (some ⟨.existsTarget, .answersFalse⟩)
          ⟨⟨some s, some old, qs, q, none, none⟩, false, false, false⟩ =
            putNew into (some ⟨.existsTarget, .answersFalse⟩)
              ⟨⟨some s, some old, qs, none, none, q⟩, true, true, false⟩ >>=
            dropBackups (some ⟨.existsTarget, .answersFalse⟩) := by
        cases q <;> rfl
      unfold Replaces OldOrNew
      rw [haside, publish_onto_target (clean_some (by decide)) (clean_some (by decide))]
      cases hinto : into old s <;> simp [hinto, or_comm]

theorem renameTarget_fails {kind : FaultKind} :
    Replaces into ⟨.renameTarget, kind⟩ s t qs q := by
  cases t with
  | none => cases kind <;> cases q <;> cases qs <;> exact .inr ⟨rfl, rfl, nofun⟩
  | some old => cases kind <;> exact .inl ⟨rfl, rfl⟩

theorem existsQuarantine_raises : Replaces into ⟨.existsQuarantine, .raises⟩ s t qs q := by
  cases t <;> exact .inl ⟨rfl, rfl⟩

/-- The new quarantine is renamed onto the old one. -/
theorem existsQuarantine_false :
    Replaces into ⟨.existsQuarantine, .answersFalse⟩ s t qs q ↔
      ∀ old, q = some old → (qs = none ∧ t = some s) ∨
        ∃ new, qs = some new ∧ ∀ mixed, into old new = some mixed →
          mixed = new ∨ (mixed = old ∧ t = some s) := by
  cases q with
  | none =>
      refine iff_of_true ?_ (by intro old hold; cases hold)
      cases t <;> cases qs <;> exact .inr ⟨rfl, rfl, nofun⟩
  | some old =>
      have haside : replacePair into (some ⟨.existsQuarantine, .answersFalse⟩)
          ⟨⟨some s, t, qs, some old, none, none⟩, false, false, false⟩ =
            putNew into (some ⟨.existsQuarantine, .answersFalse⟩)
              ⟨⟨some s, none, qs, some old, t, none⟩, true, true, false⟩ >>=
            dropBackups (some ⟨.existsQuarantine, .answersFalse⟩) := by
        cases t <;> rfl
      unfold Replaces OldOrNew
      rw [haside]
      cases qs with
      | none =>
          rw [publish_no_quarantine (clean_some (by decide)) (clean_some (by decide))]
          simp [eq_comm]
      | some new =>
          rw [publish_onto_quarantine (clean_some (by decide)) (clean_some (by decide))]
          cases hinto : into old new <;> simp [hinto, or_comm, and_comm, @eq_comm _ _ t]

theorem renameQuarantine_fails {kind : FaultKind} :
    Replaces into ⟨.renameQuarantine, kind⟩ s t qs q := by
  cases q with
  | none => cases kind <;> cases t <;> cases qs <;> exact .inr ⟨rfl, rfl, nofun⟩
  | some old => cases kind <;> cases t <;> exact .inl ⟨rfl, rfl⟩

/-! ### The new pair is put there -/

theorem renameStaging_fails {kind : FaultKind} :
    Replaces into ⟨.renameStaging, kind⟩ s t qs q := by
  unfold Replaces
  rw [replacePair_clean (clean_some (by decide))]
  have herror : putNew into (some ⟨.renameStaging, kind⟩)
      ⟨⟨some s, none, qs, none, t, q⟩, true, true, false⟩ =
        .error ⟨⟨some s, none, qs, none, t, q⟩, true, true, false⟩ := by
    cases kind <;> rfl
  rw [herror]
  exact old_of_recover (recover_both fun _ => rfl)

theorem existsQuarantineStaging_raises :
    Replaces into ⟨.existsQuarantineStaging, .raises⟩ s t qs q := by
  unfold Replaces
  rw [replacePair_clean (clean_some (by decide))]
  exact old_of_recover (recover_both nofun)

/-- The target is published without the quarantine. -/
theorem existsQuarantineStaging_false :
    Replaces into ⟨.existsQuarantineStaging, .answersFalse⟩ s t qs q ↔
      qs = none ∨ (t = some s ∧ q = none) := by
  unfold Replaces
  rw [replacePair_clean (clean_some (by decide))]
  have hok : putNew into (some ⟨.existsQuarantineStaging, .answersFalse⟩)
      ⟨⟨some s, none, qs, none, t, q⟩, true, true, false⟩ =
        .ok ⟨⟨none, some s, qs, none, t, q⟩, true, true, true⟩ := rfl
  rw [hok]
  show OldOrNew s t qs q (endPublish into (dropBackups _ _)) ↔ _
  rw [dropBackups_clean (clean_some (by decide))]
  unfold OldOrNew endPublish
  simp [@eq_comm _ _ t, @eq_comm _ _ q, @eq_comm _ _ qs, or_comm]

theorem renameQuarantineStaging_fails {kind : FaultKind} :
    Replaces into ⟨.renameQuarantineStaging, kind⟩ s t qs q := by
  unfold Replaces
  rw [replacePair_clean (clean_some (by decide))]
  cases qs with
  | none => cases kind <;> cases t <;> cases q <;> exact .inr ⟨rfl, rfl, nofun⟩
  | some new =>
      have herror : putNew into (some ⟨.renameQuarantineStaging, kind⟩)
          ⟨⟨some s, none, some new, none, t, q⟩, true, true, false⟩ =
            .error ⟨⟨none, some s, some new, none, t, q⟩, true, true, true⟩ := by
        cases kind <;> rfl
      rw [herror]
      exact old_of_recover (recover_both nofun)

/-! ### What was set aside is deleted -/

/-- Everything but the last stage is done. -/
theorem replaces_backups {call : SparkCall} {kind : FaultKind} (hcall : call.stage = .backups) :
    Replaces into ⟨call, kind⟩ s t qs q ↔
      OldOrNew s t qs q (endPublish into (dropBackups (some ⟨call, kind⟩)
        ⟨⟨none, some s, none, qs, t, q⟩, true, true, true⟩)) := by
  unfold Replaces
  rw [replacePair_clean (clean_some (by rw [hcall]; decide)),
    putNew_clean (clean_some (by rw [hcall]; decide))]
  rfl

/-- What is left where the rest raises, the target's backup there or not. -/
theorem raises_with_backup :
    OldOrNew s t qs q
        (endPublish into (.error ⟨⟨none, some s, none, qs, tb, q⟩, true, true, true⟩)) ↔
      (tb = t ∧ landed into qs q = q) ∨
        (tb = some s ∧ landed into qs q = qs ∧ ∀ old, t = some old → s = old) := by
  unfold OldOrNew endPublish
  rw [recover_published.1, recover_published.2]
  simp

theorem existsTargetBackup_false : Replaces into ⟨.existsTargetBackup, .answersFalse⟩ s t qs q := by
  rw [replaces_backups rfl]
  cases q <;> exact .inr ⟨rfl, rfl, nofun⟩

theorem existsQuarantineBackup_false :
    Replaces into ⟨.existsQuarantineBackup, .answersFalse⟩ s t qs q := by
  rw [replaces_backups rfl]
  cases t <;> exact .inr ⟨rfl, rfl, nofun⟩

/-- The target's backup is looked for, or deleted, in vain. -/
theorem raises_with_backups {files : Files δ} (hs : files.staging = some s) :
    OldOrNew s files.target files.quarantineStaging files.quarantine
        (endPublish into (.error ⟨⟨none, some s, none, files.quarantineStaging, files.target,
          files.quarantine⟩, true, true, true⟩)) ↔
      QuarantineBack into files ∨ SameTarget into files := by
  rw [raises_with_backup, landed_eq_old, landed_eq_new]
  unfold QuarantineBack SameTarget
  rw [hs]
  constructor
  · rintro (⟨_, hback⟩ | ⟨htarget, ⟨_, hnew⟩, _⟩)
    · exact .inl hback
    · exact .inr ⟨htarget, hnew⟩
  · rintro (hback | ⟨htarget, hnew⟩)
    · exact .inl ⟨rfl, hback⟩
    · by_cases hstaged : files.quarantineStaging = none
      · exact .inl ⟨rfl, fun new hnew => absurd (hstaged.symm.trans hnew) nofun⟩
      · refine .inr ⟨htarget, ⟨fun hnone => absurd hnone hstaged, hnew⟩, fun old hold => ?_⟩
        exact Option.some.inj (htarget.symm.trans hold)

/-- The quarantine's backup is, when the target's is gone. -/
theorem raises_without_target {files : Files δ} :
    OldOrNew s files.target files.quarantineStaging files.quarantine
        (endPublish into (.error ⟨⟨none, some s, none, files.quarantineStaging, none,
          files.quarantine⟩, true, true, true⟩)) ↔
      files.target = none ∧ QuarantineBack into files := by
  rw [raises_with_backup, landed_eq_old]
  unfold QuarantineBack
  constructor
  · rintro (⟨htarget, hback⟩ | ⟨htarget, _⟩)
    · exact ⟨htarget.symm, hback⟩
    · cases htarget
  · rintro ⟨htarget, hback⟩
    exact .inl ⟨htarget.symm, hback⟩

/-! ## The law -/

theorem replaces_iff {files : Files δ} (hs : files.staging = some s) (f : Fault)
    (hf : f.call.stage ≠ .stale) :
    Replaces into f s files.target files.quarantineStaging files.quarantine ↔
      Survives into files s (some f) := by
  rcases f with ⟨call, kind⟩
  cases call with
  | existsStaleTarget => exact absurd rfl hf
  | deleteStaleTarget => exact absurd rfl hf
  | existsStaleQuarantine => exact absurd rfl hf
  | deleteStaleQuarantine => exact absurd rfl hf
  | existsTarget =>
      cases kind with
      | raises => exact iff_of_true existsTarget_raises trivial
      | answersFalse => exact existsTarget_false
  | renameTarget => exact iff_of_true renameTarget_fails trivial
  | existsQuarantine =>
      cases kind with
      | raises => exact iff_of_true existsQuarantine_raises trivial
      | answersFalse => exact existsQuarantine_false
  | renameQuarantine => exact iff_of_true renameQuarantine_fails trivial
  | renameStaging => exact iff_of_true renameStaging_fails trivial
  | existsQuarantineStaging =>
      cases kind with
      | raises => exact iff_of_true existsQuarantineStaging_raises trivial
      | answersFalse => exact existsQuarantineStaging_false
  | renameQuarantineStaging => exact iff_of_true renameQuarantineStaging_fails trivial
  | existsTargetBackup =>
      cases kind with
      | raises => exact (replaces_backups rfl).trans (raises_with_backups hs)
      | answersFalse => exact iff_of_true existsTargetBackup_false trivial
  | deleteTargetBackup =>
      rw [replaces_backups rfl]
      show _ ↔ files.target = none ∨ QuarantineBack into files ∨ SameTarget into files
      rw [← raises_with_backups hs]
      cases files.target with
      | none =>
          refine iff_of_true ?_ (.inl rfl)
          cases kind <;> cases files.quarantine <;> exact .inr ⟨rfl, rfl, nofun⟩
      | some old =>
          refine Iff.trans ?_ (or_iff_right nofun).symm
          cases kind <;> exact Iff.rfl
  | existsQuarantineBackup =>
      cases kind with
      | raises =>
          rw [replaces_backups rfl]
          refine Iff.trans ?_ (@raises_without_target _ into s files)
          cases files.target <;> exact Iff.rfl
      | answersFalse => exact iff_of_true existsQuarantineBackup_false trivial
  | deleteQuarantineBackup =>
      rw [replaces_backups rfl]
      show _ ↔ files.quarantine = none ∨ (files.target = none ∧ QuarantineBack into files)
      rw [← @raises_without_target _ into s]
      cases files.quarantine with
      | none =>
          refine iff_of_true ?_ (.inl rfl)
          cases kind <;> cases files.target <;> exact .inr ⟨rfl, rfl, nofun⟩
      | some old =>
          refine Iff.trans ?_ (or_iff_right nofun).symm
          cases kind <;> cases files.target <;> exact Iff.rfl

/-- A single fault leaves the old pair or the staged one, and what was at the target where the
call raises, exactly when the function survives it. -/
theorem publish_atomic_iff (files : Files δ) (fault : Option Fault)
    (hstaged : files.staging = some s) :
    Atomic files (publishSparkPaths into fault files) ↔ Survives into files s fault := by
  rw [atomic_iff hstaged]
  unfold publishSparkPaths
  rcases files with ⟨_, t, qs, q, tb, qb⟩
  cases hstaged
  cases fault with
  | none => exact iff_of_true (stale_survives nofun nofun nofun) trivial
  | some f =>
      by_cases hf : f.call.stage = .stale
      · have hclean : ∀ stage, stage ≠ .stale → Clean (some f) stage := by
          rintro stage hne _ ⟨⟩ hstage
          exact hne (hstage.symm.trans hf)
        refine iff_of_true (stale_survives (hclean _ nofun) (hclean _ nofun) (hclean _ nofun)) ?_
        rcases f with ⟨call, kind⟩
        cases call <;> trivial
      · rw [tryPublish_clean]
        · exact replaces_iff rfl f hf
        · rintro _ ⟨⟩
          exact hf

end

/-- An old pair 1, 3 and a staged pair 2, 4: the fault comes before the new target is there. -/
theorem publish_undone :
    Atomic (⟨some 2, some 1, some 4, some 3, none, none⟩ : Files Nat)
      (publishSparkPaths (fun _ _ => none) (some ⟨.renameStaging, .answersFalse⟩)
        ⟨some 2, some 1, some 4, some 3, none, none⟩) :=
  (publish_atomic_iff _ _ rfl).2 trivial

/-- The same pair, and the last backup cannot be deleted.  The old target has been deleted
already, and the new one is. -/
theorem target_lost :
    publishSparkPaths (fun _ _ => none) (some ⟨.deleteQuarantineBackup, .answersFalse⟩)
        (⟨some 2, some 1, some 4, some 3, none, none⟩ : Files Nat) =
      (⟨none, none, none, some 4, none, some 3⟩, true) ∧
    ¬ Atomic (⟨some 2, some 1, some 4, some 3, none, none⟩ : Files Nat)
      (publishSparkPaths (fun _ _ => none) (some ⟨.deleteQuarantineBackup, .answersFalse⟩)
        ⟨some 2, some 1, some 4, some 3, none, none⟩) := by
  refine ⟨by decide, fun h => ?_⟩
  have hkept := h.2 rfl 1 rfl
  cases hkept

end AskLake.SparkJob

/-
# `AskLake.SparkJob.PublishPaths` — two directories are published together

`publish_spark_paths` replaces the target and its quarantine by what a job has staged:

    1, 2   delete stale backups
    3, 4   target ⟼ its backup, quarantine ⟼ its backup
    5, 6   staging ⟼ target, staged quarantine ⟼ quarantine
    7, 8   delete the two backups

An exception on the way is handled by one piece of code, whichever call it comes from:
delete a published target, rename the backups back.  That undoes the steps up to 6.  Once
the target's backup is deleted there is nothing to rename back, and a quarantine that has
been published is never deleted.

A call may raise, or answer false; an `exists` that answers false for a path that is there
has its step skipped.  A rename onto a directory moves the source into it, or is refused,
as the file system has it.
-/
import Mathlib.Data.Option.Basic

namespace AskLake.SparkJob

/-! ## The file system -/

inductive SparkPath
  | staging
  | target
  | quarantineStaging
  | quarantine
  | targetBackup
  | quarantineBackup
  deriving DecidableEq

/-- What is at each path. -/
structure Files (δ : Type) where
  staging : Option δ
  target : Option δ
  quarantineStaging : Option δ
  quarantine : Option δ
  targetBackup : Option δ
  quarantineBackup : Option δ
  deriving DecidableEq

variable {δ : Type}

namespace Files

def get (files : Files δ) : SparkPath → Option δ
  | .staging => files.staging
  | .target => files.target
  | .quarantineStaging => files.quarantineStaging
  | .quarantine => files.quarantine
  | .targetBackup => files.targetBackup
  | .quarantineBackup => files.quarantineBackup

def set (files : Files δ) (data : Option δ) : SparkPath → Files δ
  | .staging => { files with staging := data }
  | .target => { files with target := data }
  | .quarantineStaging => { files with quarantineStaging := data }
  | .quarantine => { files with quarantine := data }
  | .targetBackup => { files with targetBackup := data }
  | .quarantineBackup => { files with quarantineBackup := data }

/-- `filesystem.delete(path, True)` -/
def delete (files : Files δ) (path : SparkPath) : Files δ := files.set none path

/-- `filesystem.rename(src, dst)`, where it is done: `into old new` is what a directory `old`
becomes when `new` is moved into it. -/
def rename (into : δ → δ → Option δ) (files : Files δ) (src dst : SparkPath) : Option (Files δ) :=
  match files.get src, files.get dst with
  | none, _ => none
  | some data, none => some ((files.set none src).set (some data) dst)
  | some data, some old => (into old data).map fun data => (files.set none src).set (some data) dst

/-- A rename whose answer nobody looks at. -/
def tryRename (into : δ → δ → Option δ) (files : Files δ) (src dst : SparkPath) : Files δ :=
  (files.rename into src dst).getD files

end Files

/-! ## Faults -/

/-- The calls inside the `try`. -/
inductive SparkCall
  | existsStaleTarget
  | deleteStaleTarget
  | existsStaleQuarantine
  | deleteStaleQuarantine
  | existsTarget
  | renameTarget
  | existsQuarantine
  | renameQuarantine
  | renameStaging
  | existsQuarantineStaging
  | renameQuarantineStaging
  | existsTargetBackup
  | deleteTargetBackup
  | existsQuarantineBackup
  | deleteQuarantineBackup
  deriving DecidableEq

/-- How a call fails: it raises, or it does nothing and answers false. -/
inductive FaultKind
  | raises
  | answersFalse
  deriving DecidableEq

structure Fault where
  call : SparkCall
  kind : FaultKind
  deriving DecidableEq

/-! ## `publish_spark_paths` -/

/-- The files, and the three flags of the function. -/
structure Progress (δ : Type) where
  files : Files δ
  movedTarget : Bool
  movedQuarantine : Bool
  publishedTarget : Bool

/-! A statement of the `try` goes on, or raises with the progress made. -/

section
variable (into : δ → δ → Option δ) (fault : Option Fault)

/-- `filesystem.exists(path)` -/
def existsPath (call : SparkCall) (path : SparkPath) (p : Progress δ) :
    Except (Progress δ) Bool :=
  if fault = some ⟨call, .raises⟩ then .error p
  else if fault = some ⟨call, .answersFalse⟩ then .ok false
  else .ok (p.files.get path).isSome

/-- `filesystem.delete(path, True)`, and an error where it is not done. -/
def deletePath (call : SparkCall) (path : SparkPath) (p : Progress δ) :
    Except (Progress δ) (Progress δ) :=
  if fault.any (·.call = call) then .error p else .ok { p with files := p.files.delete path }

/-- `filesystem.rename(src, dst)`, and an error where it is not done. -/
def renamePath (call : SparkCall) (src dst : SparkPath) (p : Progress δ) :
    Except (Progress δ) (Progress δ) :=
  if fault.any (·.call = call) then .error p
  else
    match p.files.rename into src dst with
    | none => .error p
    | some files => .ok { p with files }

/-- Delete a path that is there. -/
def clear (existsCall deleteCall : SparkCall) (path : SparkPath) (p : Progress δ) :
    Except (Progress δ) (Progress δ) := do
  let found ← existsPath fault existsCall path p
  if found then deletePath fault deleteCall path p else pure p

/-- Rename a path that is there. -/
def move (existsCall renameCall : SparkCall) (src dst : SparkPath) (p : Progress δ) :
    Except (Progress δ) (Progress δ) := do
  let found ← existsPath fault existsCall src p
  if found then renamePath into fault renameCall src dst p else pure p

/-- 1, 2: what an earlier run has left. -/
def removeStale (p : Progress δ) : Except (Progress δ) (Progress δ) := do
  let p ← clear fault .existsStaleTarget .deleteStaleTarget .targetBackup p
  clear fault .existsStaleQuarantine .deleteStaleQuarantine .quarantineBackup p

/-- 3, 4: the old pair. -/
def setAside (p : Progress δ) : Except (Progress δ) (Progress δ) := do
  let p ← move into fault .existsTarget .renameTarget .target .targetBackup p
  let p := { p with movedTarget := true }
  let p ← move into fault .existsQuarantine .renameQuarantine .quarantine .quarantineBackup p
  pure { p with movedQuarantine := true }

/-- 5, 6: the new pair. -/
def putNew (p : Progress δ) : Except (Progress δ) (Progress δ) := do
  let p ← renamePath into fault .renameStaging .staging .target p
  let p := { p with publishedTarget := true }
  move into fault .existsQuarantineStaging .renameQuarantineStaging .quarantineStaging
    .quarantine p

/-- 7, 8: what was set aside. -/
def dropBackups (p : Progress δ) : Except (Progress δ) (Progress δ) := do
  let p ← clear fault .existsTargetBackup .deleteTargetBackup .targetBackup p
  clear fault .existsQuarantineBackup .deleteQuarantineBackup .quarantineBackup p

def tryPublish (p : Progress δ) : Except (Progress δ) (Progress δ) := do
  let p ← removeStale fault p
  let p ← setAside into fault p
  let p ← putNew into fault p
  dropBackups fault p

end

/-- The `except` clause: its three statements. -/
def undoPublish (p : Progress δ) : Files δ :=
  if p.publishedTarget then p.files.delete .target else p.files

def undoTarget (into : δ → δ → Option δ) (p : Progress δ) (files : Files δ) : Files δ :=
  if p.movedTarget then files.tryRename into .targetBackup .target else files

def undoQuarantine (into : δ → δ → Option δ) (p : Progress δ) (files : Files δ) : Files δ :=
  if p.movedQuarantine then files.tryRename into .quarantineBackup .quarantine else files

def recoverPaths (into : δ → δ → Option δ) (p : Progress δ) : Files δ :=
  undoQuarantine into p (undoTarget into p (undoPublish p))

/-- What is there at the end, and whether the call raises. -/
def endPublish (into : δ → δ → Option δ) : Except (Progress δ) (Progress δ) → Files δ × Bool
  | .ok p => (p.files, false)
  | .error p => (recoverPaths into p, true)

def publishSparkPaths (into : δ → δ → Option δ) (fault : Option Fault) (files : Files δ) :
    Files δ × Bool :=
  endPublish into (tryPublish into fault ⟨files, false, false, false⟩)

/-! ## The law, and when it holds -/

/-- Both old contents or both new contents. -/
def BothOrNeither (files after : Files δ) : Prop :=
  (after.target = files.target ∧ after.quarantine = files.quarantine) ∨
    (after.target = files.staging ∧ after.quarantine = files.quarantineStaging)

/-- And the data at the target is still there where the call raises. -/
def Atomic (files : Files δ) (result : Files δ × Bool) : Prop :=
  BothOrNeither files result.1 ∧
    (result.2 = true → ∀ old, files.target = some old → result.1.target = some old)

/-- The old quarantine is there after its backup is renamed onto what has been published:
nothing has been, or the two are the same. -/
def QuarantineBack (into : δ → δ → Option δ) (files : Files δ) : Prop :=
  ∀ new, files.quarantineStaging = some new →
    ∃ old, files.quarantine = some old ∧ (into new old).getD new = old

/-- The new quarantine is there after that, and the old target is the new one. -/
def SameTarget (into : δ → δ → Option δ) (files : Files δ) : Prop :=
  files.target = files.staging ∧ ∀ new, files.quarantineStaging = some new →
    ∀ old, files.quarantine = some old → (into new old).getD new = new

/-- The faults that the function survives, by the paths that are there.  Where the old and the
new data are told apart, these are all but: a path to be moved that is said not to be there;
any failure to delete the target's backup, or to look for it, after a quarantine has been
published; and any failure to delete the quarantine's backup, or to look for it, after a
target or a quarantine has been replaced. -/
def Survives (into : δ → δ → Option δ) (files : Files δ) (staged : δ) : Option Fault → Prop
  | some ⟨.existsTarget, .answersFalse⟩ =>
      ∀ old, files.target = some old → ∀ mixed, into old staged = some mixed →
        mixed = staged ∨ (mixed = old ∧ files.quarantineStaging = files.quarantine)
  | some ⟨.existsQuarantine, .answersFalse⟩ =>
      ∀ old, files.quarantine = some old →
        (files.quarantineStaging = none ∧ files.target = some staged) ∨
        ∃ new, files.quarantineStaging = some new ∧ ∀ mixed, into old new = some mixed →
          mixed = new ∨ (mixed = old ∧ files.target = some staged)
  | some ⟨.existsQuarantineStaging, .answersFalse⟩ =>
      files.quarantineStaging = none ∨ (files.target = some staged ∧ files.quarantine = none)
  | some ⟨.existsTargetBackup, .raises⟩ => QuarantineBack into files ∨ SameTarget into files
  | some ⟨.deleteTargetBackup, _⟩ =>
      files.target = none ∨ QuarantineBack into files ∨ SameTarget into files
  | some ⟨.existsQuarantineBackup, .raises⟩ => files.target = none ∧ QuarantineBack into files
  | some ⟨.deleteQuarantineBackup, _⟩ =>
      files.quarantine = none ∨ (files.target = none ∧ QuarantineBack into files)
  | _ => True

/-! ## Statements that meet no fault -/

section
variable {into : δ → δ → Option δ} {fault : Option Fault} {p : Progress δ} {files : Files δ}
  {path src dst : SparkPath} {existsCall call : SparkCall}

@[simp] theorem Files.get_set_self (data : Option δ) : (files.set data path).get path = data := by
  cases path <;> rfl

theorem Files.get_set_ne (data : Option δ) (h : src ≠ dst) :
    (files.set data dst).get src = files.get src := by
  cases src <;> cases dst <;> first | rfl | exact absurd rfl h

/-- Nothing is written where nothing is. -/
theorem Files.set_of_get {data : Option δ} (h : files.get path = data) :
    files.set data path = files := by
  cases path <;> cases files <;> cases h <;> rfl

/-- The fault is at neither call. -/
def Spared (fault : Option Fault) (call : SparkCall) : Prop := ∀ f, fault = some f → f.call ≠ call

theorem existsPath_spared (h : Spared fault call) :
    existsPath fault call path p = .ok (p.files.get path).isSome := by
  unfold existsPath
  rw [if_neg fun hraises => h _ hraises rfl, if_neg fun hfalse => h _ hfalse rfl]

theorem any_spared (h : Spared fault call) : fault.any (·.call = call) = false := by
  cases fault with
  | none => rfl
  | some f => simpa using h f rfl

theorem clear_spared (hexists : Spared fault existsCall) (h : Spared fault call) :
    clear fault existsCall call path p = .ok { p with files := p.files.delete path } := by
  unfold clear
  rw [existsPath_spared hexists]
  cases hpath : p.files.get path with
  | none =>
      rw [Files.delete, Files.set_of_get hpath]
      rfl
  | some data =>
      show deletePath fault call path p = _
      rw [deletePath, any_spared h]
      rfl

theorem renamePath_spared (h : Spared fault call) {data : δ} (hsrc : p.files.get src = some data)
    (hfree : p.files.get dst = none) :
    renamePath into fault call src dst p =
      .ok { p with files := (p.files.set none src).set (some data) dst } := by
  rw [renamePath, any_spared h, Files.rename, hsrc, hfree]
  rfl

/-- A rename onto a directory, by what the file system makes of it. -/
theorem renamePath_refused (h : Spared fault call) {data old : δ}
    (hsrc : p.files.get src = some data) (hdst : p.files.get dst = some old)
    (hinto : into old data = none) : renamePath into fault call src dst p = .error p := by
  rw [renamePath, any_spared h, Files.rename, hsrc, hdst]
  simp [hinto]

theorem renamePath_mixed (h : Spared fault call) {data old mixed : δ}
    (hsrc : p.files.get src = some data) (hdst : p.files.get dst = some old)
    (hinto : into old data = some mixed) :
    renamePath into fault call src dst p =
      .ok { p with files := (p.files.set none src).set (some mixed) dst } := by
  rw [renamePath, any_spared h, Files.rename, hsrc, hdst]
  simp [hinto]

theorem move_spared (hexists : Spared fault existsCall) (h : Spared fault call)
    (hfree : p.files.get dst = none) :
    move into fault existsCall call src dst p =
      .ok { p with files := (p.files.set none src).set (p.files.get src) dst } := by
  unfold move
  rw [existsPath_spared hexists]
  cases hsrc : p.files.get src with
  | none =>
      rw [Files.set_of_get hsrc, Files.set_of_get hfree]
      rfl
  | some data => exact renamePath_spared h hsrc hfree

end

end AskLake.SparkJob

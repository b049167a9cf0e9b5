/-
# `AskLake.ContinuousSql.TreeLocks` — the job locks of an execution tree

A tree run locks the parent job and every child job, a row for each job.  A lock is taken by
an upsert that is refused while another lock on the job is active and unexpired:

    no row                          insert, generation 1
    released or expired             take over, one generation more
    active and unexpired            refuse, and the command is rolled back

A renewal and a release write the tree run's own active rows.  Every transaction holds the
rows it has written to its end, and any number of them are open at a time; one that would
write a row that another holds waits, which here is a call that does nothing.
-/
import Mathlib.Data.List.Perm.Subperm
import AskLake.Lib.RowLocks
import AskLake.Lib.Table
import AskLake.Lib.Tenure

namespace AskLake.ContinuousSql

open AskLake.Lib

/-! ## Rows -/

/-- `continuous_sql_tree_job_locks`; the times are in microseconds. -/
structure TreeJobLock where
  jobId : String
  treeRunId : String
  nodeRunId : String
  ownerSqlJobId : String
  lockKind : String
  generation : Nat
  fencingToken : String
  leaseExpiresAt : Int
  active : Bool
  releasedAt : Option String
  deriving DecidableEq

/-- A tree run as it was inserted: its token and the jobs of its nodes stay. -/
structure TreeRun where
  treeRunId : String
  sqlJobId : String
  fencingToken : String
  nodes : List String
  deriving DecidableEq

/-- `f"node_{tree_run_id}_{job_id}"` -/
def TreeRun.nodeRunId (tree : TreeRun) (jobId : String) : String :=
  "node_" ++ tree.treeRunId ++ "_" ++ jobId

/-- The row of a tree run that acquires a job. -/
def TreeRun.lock (tree : TreeRun) (jobId : String) (generation : Nat) (expiresAt : Int) :
    TreeJobLock where
  jobId
  treeRunId := tree.treeRunId
  nodeRunId := tree.nodeRunId jobId
  ownerSqlJobId := tree.sqlJobId
  lockKind := if jobId = tree.sqlJobId then "parent" else "child"
  generation
  fencingToken := tree.fencingToken
  leaseExpiresAt := expiresAt
  active := true
  releasedAt := none

/-- `active IS FALSE OR lease_expires_at <= :now` -/
def TreeJobLock.open (row : TreeJobLock) (now : Int) : Bool :=
  !row.active || row.leaseExpiresAt ≤ now

/-- `acquire_tree_job_lock`: the row that it writes, if it is not refused. -/
def acquireTreeJobLock (locks : List TreeJobLock) (tree : TreeRun) (jobId : String) (now : Int)
    (leaseSeconds : Int) : Option TreeJobLock :=
  match locks.find? fun row => row.jobId = jobId with
  | none => some (tree.lock jobId 1 (now + leaseSeconds * 1000000))
  | some row =>
      if row.open now then
        some (tree.lock jobId (row.generation + 1) (now + leaseSeconds * 1000000))
      else none

/-- `tree_run_id = :tree AND fencing_token = :token AND active IS TRUE` -/
def TreeRun.owns (tree : TreeRun) (row : TreeJobLock) : Bool :=
  row.treeRunId = tree.treeRunId && row.fencingToken = tree.fencingToken && row.active

/-- `renew_tree_locks`: the rows that it writes. -/
def renewTreeLocks (locks : List TreeJobLock) (tree : TreeRun) (now : Int) (leaseSeconds : Int) :
    List TreeJobLock :=
  (locks.filter tree.owns).map fun row =>
    { row with leaseExpiresAt := now + leaseSeconds * 1000000 }

/-- `renew_tree_locks`: its answer, the row count against the nodes. -/
def renewed (locks : List TreeJobLock) (tree : TreeRun) : Bool :=
  rowCount tree.owns locks = tree.nodes.length

/-- `release_tree_locks`: the rows that it writes. -/
def releaseTreeLocks (locks : List TreeJobLock) (tree : TreeRun) (endedAt : String) :
    List TreeJobLock :=
  (locks.filter tree.owns).map fun row => { row with active := false, releasedAt := some endedAt }

/-! ## Runs -/

/-- The tree runs there ever are: `tree_run_id` is the key, a tree run has one node for each
of its jobs, and a fencing token is fresh. -/
structure TreeRuns where
  run : String → TreeRun
  treeRunId_run : ∀ id, (run id).treeRunId = id
  nodup_nodes : ∀ id, (run id).nodes.Nodup
  fresh_token : ∀ id id', (run id).fencingToken = (run id').fencingToken → id = id'

/-- Trees of one parent and one child job. -/
instance : Inhabited TreeRuns where
  default :=
    { run := fun id => ⟨id, "parent", id, ["child", "parent"]⟩
      treeRunId_run := fun _ => rfl
      nodup_nodes := fun _ => (by decide : ["child", "parent"].Nodup)
      fresh_token := fun _ _ h => h }

/-- The lock table, and what the open transactions have written to it. -/
abbrev TreeLocks := Versions Nat TreeJobLock

/-- The calls on the lock table, each in a transaction. -/
inductive TreeCall
  | acquire (session : Nat) (treeRunId jobId : String) (now : Int)
  | renew (session : Nat) (treeRunId : String) (now : Int)
  | release (session : Nat) (treeRunId endedAt : String)
  | commit (session : Nat)
  | rollback (session : Nat)
  deriving DecidableEq

/-- What a transaction sees of the lock table. -/
def seen (v : TreeLocks) (session : Nat) : List TreeJobLock := v.view TreeJobLock.jobId session

/-- A row that another transaction holds is waited for. -/
def waits (v : TreeLocks) (session : Nat) (rows : List TreeJobLock) : Bool :=
  rows.any fun row => v.blocked TreeJobLock.jobId session row.jobId

/-- An update that waits does nothing yet. -/
def writeRows (v : TreeLocks) (session : Nat) (rows : List TreeJobLock) : TreeLocks :=
  if waits v session rows then v else v.write TreeJobLock.jobId session rows

/-- An acquisition of one of the tree run's nodes; a refused one rolls the command back. -/
def acquireNode (trees : TreeRuns) (leaseSeconds : Int) (v : TreeLocks) (session : Nat)
    (treeRunId jobId : String) (now : Int) : TreeLocks :=
  if jobId ∉ (trees.run treeRunId).nodes then v
  else if v.blocked TreeJobLock.jobId session jobId then v
  else
    match acquireTreeJobLock (seen v session) (trees.run treeRunId) jobId now leaseSeconds with
    | none => v.rollback session
    | some row => v.write TreeJobLock.jobId session [row]

def treeStep (trees : TreeRuns) (leaseSeconds : Int) (v : TreeLocks) : TreeCall → TreeLocks
  | .acquire session treeRunId jobId now =>
      acquireNode trees leaseSeconds v session treeRunId jobId now
  | .renew session treeRunId now =>
      writeRows v session (renewTreeLocks (seen v session) (trees.run treeRunId) now leaseSeconds)
  | .release session treeRunId endedAt =>
      writeRows v session (releaseTreeLocks (seen v session) (trees.run treeRunId) endedAt)
  | .commit session => v.commit TreeJobLock.jobId session
  | .rollback session => v.rollback session

/-- The tree run has an active, unexpired lock on the job. -/
def holdsJob (v : TreeLocks) (treeRunId jobId : String) (now : Int) : Prop :=
  ∃ row ∈ v.committed, row.jobId = jobId ∧ row.treeRunId = treeRunId ∧ row.active = true ∧
    now < row.leaseExpiresAt

/-! ## What the calls write -/

def TreeJobLock.tenure (row : TreeJobLock) : Tenure String := ⟨row.treeRunId, row.generation⟩

/-- A row's tree run stays, or its generation goes up. -/
def TreeJobLock.Advances (row row' : TreeJobLock) : Prop := row.tenure.Before row'.tenure

/-- The row is of one of the tree run's nodes, under its token. -/
def TreeRuns.Issued (trees : TreeRuns) (row : TreeJobLock) : Prop :=
  row.jobId ∈ (trees.run row.treeRunId).nodes ∧
    row.fencingToken = (trees.run row.treeRunId).fencingToken

/-- The lock table keeps this over every run. -/
abbrev LocksKept (trees : TreeRuns) : TreeLocks → Prop :=
  Versions.Guarded TreeJobLock.Advances trees.Issued TreeJobLock.jobId

variable {trees : TreeRuns} {leaseSeconds : Int} {v : TreeLocks} {session : Nat}
  {treeRunId jobId : String} {now : Int}

/-- The rows that an update rewrites: it leaves their job, tree run, token and generation. -/
structure Rewrites (tree : TreeRun) (locks rows : List TreeJobLock) : Prop where
  nodup : (rows.map TreeJobLock.jobId).Nodup
  source : ∀ row ∈ rows, ∃ row' ∈ locks, row'.jobId = row.jobId ∧
    row'.treeRunId = tree.treeRunId ∧ row.treeRunId = tree.treeRunId ∧
    row.fencingToken = row'.fencingToken ∧ row.generation = row'.generation

theorem rewrites_map {tree : TreeRun} {locks : List TreeJobLock} {f : TreeJobLock → TreeJobLock}
    (hlocks : (locks.map TreeJobLock.jobId).Nodup)
    (hf : ∀ row, (f row).jobId = row.jobId ∧ (f row).treeRunId = row.treeRunId ∧
      (f row).fencingToken = row.fencingToken ∧ (f row).generation = row.generation) :
    Rewrites tree locks ((locks.filter tree.owns).map f) where
  nodup := by
    have hjobs : (f · |>.jobId) = TreeJobLock.jobId := funext fun row => (hf row).1
    rw [List.map_map, Function.comp_def, hjobs]
    exact hlocks.sublist (List.filter_sublist.map _)
  source := by
    intro row hrow
    obtain ⟨row', hrow', rfl⟩ := List.mem_map.mp hrow
    obtain ⟨hmem, howns⟩ := List.mem_filter.mp hrow'
    have htree : row'.treeRunId = tree.treeRunId := by
      simp only [TreeRun.owns, Bool.and_eq_true, decide_eq_true_eq] at howns
      exact howns.1.1
    exact ⟨row', hmem, (hf row').1.symm, htree, (hf row').2.1.trans htree, (hf row').2.2.1,
      (hf row').2.2.2⟩

theorem rewrites_renew {tree : TreeRun} {locks : List TreeJobLock}
    (hlocks : (locks.map TreeJobLock.jobId).Nodup) :
    Rewrites tree locks (renewTreeLocks locks tree now leaseSeconds) :=
  rewrites_map hlocks fun _ => ⟨rfl, rfl, rfl, rfl⟩

theorem rewrites_release {tree : TreeRun} {locks : List TreeJobLock} {endedAt : String}
    (hlocks : (locks.map TreeJobLock.jobId).Nodup) :
    Rewrites tree locks (releaseTreeLocks locks tree endedAt) :=
  rewrites_map hlocks fun _ => ⟨rfl, rfl, rfl, rfl⟩

/-- An acquired row is a new one, or one generation later than the row it takes over. -/
theorem acquire_row {locks : List TreeJobLock} {tree : TreeRun} {row : TreeJobLock}
    (h : acquireTreeJobLock locks tree jobId now leaseSeconds = some row) :
    ∃ generation expiresAt, row = tree.lock jobId generation expiresAt ∧
      ∀ row' , locks.find? (fun row => row.jobId = jobId) = some row' →
        row'.generation < generation := by
  unfold acquireTreeJobLock at h
  cases hfind : locks.find? fun row => row.jobId = jobId with
  | none =>
      rw [hfind] at h
      obtain ⟨⟩ := h
      exact ⟨1, _, rfl, fun _ h => nomatch h⟩
  | some row' =>
      simp only [hfind] at h
      split at h
      · obtain ⟨⟩ := h
        exact ⟨row'.generation + 1, _, rfl, by rintro _ ⟨⟩; exact Nat.lt_succ_self _⟩
      · exact nomatch h

/-! ## What every call keeps -/

theorem LocksKept.nodup_seen (hv : LocksKept trees v) :
    ((seen v session).map TreeJobLock.jobId).Nodup :=
  hv.keyed.view

theorem LocksKept.updated (hv : LocksKept trees v) {rows : List TreeJobLock}
    (hrows : Rewrites (trees.run treeRunId) (seen v session) rows) :
    LocksKept trees (writeRows v session rows) := by
  unfold writeRows
  split
  · exact hv
  · refine Versions.Guarded.write hv Tenure.Before.trans hrows.nodup ?_ ?_
    · intro row hrow
      obtain ⟨row', hseen, hjob, htree', htree, htoken, -⟩ := hrows.source row hrow
      have hissued : trees.Issued row' := Versions.Guarded.view hv row' hseen
      unfold TreeRuns.Issued at hissued ⊢
      rwa [htree, ← htree', ← hjob, htoken]
    · intro row hrow other hother hjobOther
      obtain ⟨row', hseen, hjob, htree', htree, -, hgeneration⟩ := hrows.source row hrow
      have heq : other = row' := eq_of_key hv.nodup_seen hother hseen (hjobOther.trans hjob.symm)
      left
      rw [heq, TreeJobLock.tenure, TreeJobLock.tenure, htree', htree, hgeneration]

theorem LocksKept.acquired (hv : LocksKept trees v) :
    LocksKept trees (acquireNode trees leaseSeconds v session treeRunId jobId now) := by
  unfold acquireNode
  split
  · exact hv
  · rename_i hnode
    split
    · exact hv
    · split
      · exact Versions.Guarded.rollback hv
      · rename_i row hrow
        obtain ⟨generation, expiresAt, rfl, hlater⟩ := acquire_row hrow
        refine Versions.Guarded.write hv Tenure.Before.trans (List.nodup_singleton _) ?_ ?_
        · intro row hmem
          obtain rfl := List.mem_singleton.mp hmem
          have hid := trees.treeRunId_run treeRunId
          unfold TreeRuns.Issued TreeRun.lock
          simp only [hid]
          exact ⟨not_not.mp hnode, trivial⟩
        · intro row hmem other hother hjob
          obtain rfl := List.mem_singleton.mp hmem
          exact Or.inr (hlater other (find?_key hv.nodup_seen hother hjob))

theorem LocksKept.step (hv : LocksKept trees v) (call : TreeCall) :
    LocksKept trees (treeStep trees leaseSeconds v call) := by
  cases call with
  | acquire session treeRunId jobId now => exact hv.acquired
  | renew session treeRunId now => exact hv.updated (rewrites_renew hv.nodup_seen)
  | release session treeRunId endedAt => exact hv.updated (rewrites_release hv.nodup_seen)
  | commit session => exact Versions.Guarded.commit hv
  | rollback session => exact Versions.Guarded.rollback hv

theorem LocksKept.play (hv : LocksKept trees v) (calls : List TreeCall) :
    LocksKept trees (Lib.play (treeStep trees leaseSeconds) v calls) :=
  play_induct (fun _ call h => h.step call) hv

/-! ## One holder, and later generations -/

/-- What a call leaves of the committed rows. -/
theorem LocksKept.advances (hv : LocksKept trees v) (call : TreeCall) :
    Versions.Kept TreeJobLock.Advances TreeJobLock.jobId v.committed
      (treeStep trees leaseSeconds v call).committed := by
  have hsame : ∀ {w : TreeLocks}, w.committed = v.committed →
      Versions.Kept TreeJobLock.Advances TreeJobLock.jobId v.committed w.committed := by
    intro w hw
    rw [hw]
    exact .refl (fun row => Tenure.Before.refl row.tenure) _
  have hwrite : ∀ session rows, (writeRows v session rows).committed = v.committed := by
    intro session rows
    unfold writeRows
    split <;> rfl
  cases call with
  | acquire session treeRunId jobId now =>
      refine hsame ?_
      simp only [treeStep, acquireNode]
      split
      · rfl
      · split
        · rfl
        · split <;> rfl
  | renew session treeRunId now => exact hsame (hwrite _ _)
  | release session treeRunId endedAt => exact hsame (hwrite _ _)
  | commit session => exact hv.related.kept fun row => Tenure.Before.refl row.tenure
  | rollback session => exact hsame rfl

theorem LocksKept.advances_play (hv : LocksKept trees v) (calls : List TreeCall) :
    Versions.Kept TreeJobLock.Advances TreeJobLock.jobId v.committed
      (Lib.play (treeStep trees leaseSeconds) v calls).committed := by
  induction calls generalizing v with
  | nil => exact .refl (fun row => Tenure.Before.refl row.tenure) _
  | cons call calls ih =>
      exact Versions.Kept.trans (fun h h' => h.trans h') (hv.advances call) (ih (hv.step call))

/-- A renewal or a release leaves the rows of the other tree runs to everyone. -/
theorem LocksKept.mem_writeRows (hv : LocksKept trees v) {rows : List TreeJobLock}
    (hrows : Rewrites (trees.run treeRunId) (seen v session) rows)
    {other : Nat} {row : TreeJobLock} (hrow : row ∈ seen v other)
    (htaken : row.treeRunId ≠ treeRunId) :
    row ∈ seen (writeRows v session rows) other := by
  unfold writeRows
  cases hwaits : waits v session rows with
  | true => exact hrow
  | false =>
      have hfree : ∀ row ∈ rows, v.blocked TreeJobLock.jobId session row.jobId = false := by
        intro row hmem
        simpa using List.any_eq_false.mp hwaits row hmem
      by_cases hother : other = session
      · subst hother
        refine Versions.mem_view_write hrow fun row' hrow' hjob => htaken ?_
        obtain ⟨found, hfound, hjobFound, htree, -⟩ := hrows.source row' hrow'
        rw [eq_of_key hv.nodup_seen hrow hfound (hjob.symm.trans hjobFound.symm), htree,
          trees.treeRunId_run]
      · rw [seen, if_neg Bool.false_ne_true, Versions.view_write_other hother hfree]
        exact hrow

/-- Of two lists without repetitions, one within the other, the lengths agree just when they
have the same members. -/
theorem length_eq_iff_subset {α : Type*} {a b : List α} (ha : a.Nodup) (hb : b.Nodup)
    (h : a ⊆ b) : a.length = b.length ↔ b ⊆ a := by
  constructor
  · intro hlength
    exact ((ha.subperm h).perm_of_length_le (Nat.le_of_eq hlength.symm)).symm.subset
  · intro hback
    exact Nat.le_antisymm (ha.subperm h).length_le (hb.subperm hback).length_le

/-- The row count is that of the nodes just when the tree run owns a row on each of them. -/
theorem renewed_iff {locks : List TreeJobLock} {tree : TreeRun}
    (hlocks : (locks.map TreeJobLock.jobId).Nodup) (hnodes : tree.nodes.Nodup)
    (hissued : ∀ row ∈ locks, tree.owns row = true → row.jobId ∈ tree.nodes) :
    renewed locks tree = true ↔
      ∀ jobId ∈ tree.nodes, ∃ row ∈ locks, row.jobId = jobId ∧ tree.owns row = true := by
  let owned := (locks.filter tree.owns).map TreeJobLock.jobId
  have hnodup : owned.Nodup := hlocks.sublist (List.filter_sublist.map _)
  have hsubset : owned ⊆ tree.nodes := by
    intro jobId hjob
    obtain ⟨row, hrow, rfl⟩ := List.mem_map.mp hjob
    obtain ⟨hmem, hown⟩ := List.mem_filter.mp hrow
    exact hissued row hmem hown
  have hcount : rowCount tree.owns locks = owned.length := by
    rw [rowCount, List.countP_eq_length_filter, List.length_map]
  rw [renewed, decide_eq_true_iff, hcount, length_eq_iff_subset hnodup hnodes hsubset]
  constructor
  · intro hall jobId hjob
    obtain ⟨row, hrow, hjobRow⟩ := List.mem_map.mp (hall hjob)
    obtain ⟨hmem, hown⟩ := List.mem_filter.mp hrow
    exact ⟨row, hmem, hjobRow, hown⟩
  · intro hall jobId hjob
    obtain ⟨row, hmem, hjobRow, hown⟩ := hall jobId hjob
    exact List.mem_map.mpr ⟨row, List.mem_filter.mpr ⟨hmem, hown⟩, hjobRow⟩

theorem owns_iff {tree : TreeRun} {row : TreeJobLock} : tree.owns row = true ↔
    row.treeRunId = tree.treeRunId ∧ row.fencingToken = tree.fencingToken ∧ row.active = true := by
  simp [TreeRun.owns, and_assoc]

/-- A renewal counts every node just when the tree run still has each of them. -/
theorem LocksKept.renewed_iff (hv : LocksKept trees v) :
    renewed (seen v session) (trees.run treeRunId) = true ↔
      ∀ jobId ∈ (trees.run treeRunId).nodes, ∃ row ∈ seen v session,
        row.jobId = jobId ∧ row.treeRunId = treeRunId ∧
          row.fencingToken = (trees.run treeRunId).fencingToken ∧ row.active = true := by
  have hissued : ∀ row ∈ seen v session, (trees.run treeRunId).owns row = true →
      row.jobId ∈ (trees.run treeRunId).nodes := by
    intro row hrow hown
    have hrow : trees.Issued row := Versions.Guarded.view hv row hrow
    rw [owns_iff, trees.treeRunId_run] at hown
    rw [← hown.1]
    exact hrow.1
  rw [ContinuousSql.renewed_iff hv.nodup_seen (trees.nodup_nodes treeRunId) hissued]
  simp only [owns_iff, trees.treeRunId_run]

end AskLake.ContinuousSql

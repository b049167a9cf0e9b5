/-
# `AskLake.StaticJoins.KeyUniqueness` — no fan-out through static joins

A batch that executes has looked, in the frame of each static relation, for two rows with one
join key, or it remembers that an earlier batch has.  What is remembered names the snapshot,
and what was looked at may have been the few rows of it that the earlier batch could meet:

    batch 1    keys {1}    rows with key 1 are checked, the snapshot counts as checked
    batch 2    keys {2}    rows with key 2 are joined, and nobody has looked at them

Where the rows of a remembered relation are among those that were checked (`BatchCovered`), every
batch of a run that executes joins each of its rows with at most one row of each static frame
(`no_fan_out`).
-/
import AskLake.StaticJoins.Pruning

namespace AskLake.StaticJoins

open AskLake.Lib AskLake.Python

variable {V : Type} [DecidableEq V] {cf : CaseFolding} {plan : Plan} {snapshots : Snapshots V}

/-! ## What is claimed of a batch -/

/-- A row of a static frame that the join may find for some row of the batch. -/
def Meets (cf : CaseFolding) (plan : Plan) (stream : Frame V) (join : PlanJoin) (row : Row V) :
    Prop :=
  ∃ s ∈ stream.rows, ∀ key ∈ join.keys,
    cf.normalizeIdentifier key.leftAlias ∈ plan.streamingAliases cf →
      sqlEq (Row.cell cf s key.leftColumn) (Row.cell cf row key.rightColumn) = true

instance (stream : Frame V) (join : PlanJoin) (row : Row V) :
    Decidable (Meets cf plan stream join row) :=
  inferInstanceAs (Decidable (∃ s ∈ _, _))

/-- Of the rows of a frame that the batch can meet, no two have one key. -/
def KeyedOnce (cf : CaseFolding) (plan : Plan) (stream : Frame V) (join : PlanJoin)
    (rows : List (Row V)) : Prop :=
  ((rows.filter fun row => decide (Meets cf plan stream join row)).map
    (keyTuple cf (join.keys.map JoinKey.rightColumn))).Nodup

/-- A batch that executes joins no row of the stream twice. -/
def NoFanOut (cf : CaseFolding) (snapshots : Snapshots V) (plan : Plan) (worker : Worker V)
    (batch : MicroBatch V) : Prop :=
  ∀ rows, (executeContinuousSqlBatch cf snapshots plan worker batch).1 = .ok rows →
    let views := (registered cf snapshots plan worker batch).views
    (∀ join ∈ plan.joins,
      KeyedOnce cf plan batch.stream join (plan.joined cf views.rowsOf join).frame) ∧
    ∀ s ∈ batch.stream.rows, (plan.chain cf views.rowsOf s).length ≤ 1

/-- The rows of a relation whose check is remembered are among those that were checked. -/
def Covered (cf : CaseFolding) (snapshots : Snapshots V) (plan : Plan) (batch : MicroBatch V)
    (s : Registering V) (relation : PlanRelation) : Prop :=
  s.error = none → relation.mode = .static →
    ∀ binding ∈ batch.binding relation, ∀ frame worker,
      staticFrame cf snapshots plan s.worker batch.stream relation binding = (.ok frame, worker) →
    ∀ key, staticSnapshotCacheKey relation binding = .ok key →
      (worker.evictStaleStaticVerifications key).remembers
        (plan.verificationKey cf relation key) →
      ∃ checked, (plan.verificationKey cf relation key, checked) ∈ worker.verifiedStaticKeys ∧
        frame.rows.Sublist checked.rows

def BatchCovered (cf : CaseFolding) (snapshots : Snapshots V) (plan : Plan) (worker : Worker V)
    (batch : MicroBatch V) : Prop :=
  Along (Covered cf snapshots plan batch) (registerRelation cf snapshots plan batch)
    { worker := worker } plan.relations

/-- The memory of a worker after a batch. -/
def batchStep (cf : CaseFolding) (snapshots : Snapshots V) (plan : Plan) (worker : Worker V)
    (batch : MicroBatch V) : Worker V :=
  (executeContinuousSqlBatch cf snapshots plan worker batch).2

/-! ## The memory of a worker -/

/-- Cached frames are snapshots, and what was checked has no two rows of one key. -/
structure Worker.Coherent (snapshots : Snapshots V) (worker : Worker V) : Prop where
  cached : ∀ item ∈ worker.staticFrameCache,
    item.2 = snapshots item.1.datasetId item.1.snapshotId
  verified : ∀ item ∈ worker.verifiedStaticKeys,
    (item.2.rows.map fun row => item.1.2.map row).Nodup

omit [DecidableEq V] in
theorem keyTuple_eq (columns : List String) (row : Row V) :
    keyTuple cf columns row = (columns.map cf.normalizeIdentifier).map row := by
  rw [List.map_map]
  rfl

omit [DecidableEq V] in
theorem coherent_empty : ({} : Worker V).Coherent snapshots :=
  ⟨fun _ h => (nomatch h), fun _ h => (nomatch h)⟩

section
variable {worker : Worker V} (h : worker.Coherent snapshots)
include h

omit [DecidableEq V] in
theorem Worker.Coherent.evictStatic (key : CacheKey) :
    (worker.evictStaticSnapshot key).Coherent snapshots where
  cached := fun item hitem => h.cached item (List.mem_filter.mp hitem).1
  verified := fun item hitem => h.verified item (List.mem_filter.mp hitem).1

omit [DecidableEq V] in
theorem Worker.Coherent.evictStale (key : CacheKey) :
    (worker.evictStaleStaticVerifications key).Coherent snapshots where
  cached := h.cached
  verified := fun item hitem => h.verified item (List.mem_filter.mp hitem).1

omit [DecidableEq V] in
/-- A frame of the cache is the snapshot, read now or before. -/
theorem Worker.Coherent.reusable {relation : PlanRelation} {binding : StaticBinding}
    {key : CacheKey} (hkey : staticSnapshotCacheKey relation binding = .ok key) :
    (worker.reusableStaticSnapshot snapshots relation binding key).1 =
        snapshots.read relation binding ∧
      (worker.reusableStaticSnapshot snapshots relation binding key).2.Coherent snapshots := by
  have hread : snapshots key.datasetId key.snapshotId = snapshots.read relation binding := by
    obtain ⟨_, -, hkey⟩ := bind_eq_ok.mp hkey
    cases pure_eq_ok.mp hkey
    rfl
  unfold Worker.reusableStaticSnapshot
  split
  · rename_i cached hcached
    refine ⟨?_, h⟩
    obtain ⟨before, after, heq, -⟩ := List.lookup_eq_some_iff.mp hcached
    have hmem : (key, cached) ∈ worker.staticFrameCache := by
      rw [heq]
      exact List.mem_append_right _ List.mem_cons_self
    exact (h.cached _ hmem).trans hread
  · refine ⟨rfl, ?_⟩
    have hkept : ∀ evicted : Worker V, evicted.Coherent snapshots → ∀ keys,
        ({ evicted with
          staticFrameCache := (key, snapshots.read relation binding) :: evicted.staticFrameCache
          staticFrameKeyByDataset := keys } : Worker V).Coherent snapshots := by
      intro evicted hevicted keys
      refine ⟨fun item hitem => ?_, hevicted.verified⟩
      rcases List.mem_cons.mp hitem with rfl | hitem
      · exact hread.symm
      · exact hevicted.cached item hitem
    refine hkept _ ?_ _
    split
    · split
      · exact h.evictStatic _
      · exact h
    · exact h

/-- The frame of a relation does not depend on what the worker remembers. -/
theorem Worker.Coherent.staticFrame {batch : MicroBatch V} {relation : PlanRelation}
    (hstatic : relation.mode = .static) {binding : StaticBinding}
    (hbinding : batch.binding relation = some binding) {frame : Frame V} {worker' : Worker V}
    (hframe : staticFrame cf snapshots plan worker batch.stream relation binding =
      (.ok frame, worker')) :
    frameOf cf snapshots plan batch relation = .ok frame ∧ worker'.Coherent snapshots := by
  unfold frameOf
  rw [if_neg (by rw [hstatic]; exact nofun), hbinding]
  unfold StaticJoins.staticFrame at hframe
  dsimp only
  split at hframe
  · rename_i hcache
    rw [if_pos hcache]
    cases hkey : staticSnapshotCacheKey relation binding with
    | error e =>
        rw [hkey] at hframe
        exact nomatch (Prod.mk.inj hframe).1
    | ok key =>
        rw [hkey] at hframe
        obtain ⟨hread, hcoherent⟩ := h.reusable hkey
        obtain ⟨hok, hworker⟩ := Prod.mk.inj hframe
        have hfound : (worker.reusableStaticSnapshot snapshots relation binding key).1 = frame :=
          Except.ok.inj hok
        rw [← hfound, hread, ← hworker]
        exact ⟨rfl, hcoherent⟩
  · rename_i hcache
    rw [if_neg hcache]
    obtain ⟨hok, rfl⟩ := Prod.mk.inj hframe
    exact ⟨hok, h⟩

theorem Worker.Coherent.staticFrame_error {stream : Frame V} {relation : PlanRelation}
    {binding : StaticBinding} {e : String} {worker' : Worker V}
    (hframe : StaticJoins.staticFrame cf snapshots plan worker stream relation binding =
      (.error e, worker')) : worker'.Coherent snapshots := by
  unfold StaticJoins.staticFrame at hframe
  split at hframe
  · cases hkey : staticSnapshotCacheKey relation binding with
    | error e =>
        rw [hkey] at hframe
        rw [← (Prod.mk.inj hframe).2]
        exact h
    | ok key =>
        rw [hkey] at hframe
        exact nomatch (Prod.mk.inj hframe).1
  · rw [← (Prod.mk.inj hframe).2]
    exact h

/-- The check keeps the memory coherent, whatever it says. -/
theorem Worker.Coherent.verify (frame : Frame V) (relation : PlanRelation)
    (binding : StaticBinding) :
    (verifyStaticKeyUniqueness cf plan worker frame relation binding).2.Coherent snapshots := by
  unfold verifyStaticKeyUniqueness
  dsimp only
  split
  · exact h
  · split
    · exact h
    · rename_i key _
      split
      · exact h.evictStale key
      · split
        · rename_i hunique
          refine ⟨(h.evictStale key).cached, fun item hitem => ?_⟩
          rcases List.mem_cons.mp hitem with rfl | hitem
          · have hnodup : (frame.rows.map
                (keyTuple cf (plan.uniqueKeys cf relation))).Nodup := hunique
            rwa [funext fun row => @keyTuple_eq _ cf (plan.uniqueKeys cf relation) row]
              at hnodup
          · exact (h.evictStale key).verified item hitem
        · exact h.evictStale key

/-- A frame that passes the check, and that is covered where the check is remembered, has no two
rows of one key. -/
theorem Worker.Coherent.unique {frame : Frame V} {relation : PlanRelation}
    {binding : StaticBinding} {worker' : Worker V}
    (hverify : verifyStaticKeyUniqueness cf plan worker frame relation binding =
      (.ok (), worker'))
    (hcovered : ∀ key, staticSnapshotCacheKey relation binding = .ok key →
      (worker.evictStaleStaticVerifications key).remembers
        (plan.verificationKey cf relation key) →
      ∃ checked, (plan.verificationKey cf relation key, checked) ∈ worker.verifiedStaticKeys ∧
        frame.rows.Sublist checked.rows) :
    frame.UniqueOn cf (plan.uniqueKeys cf relation) := by
  unfold verifyStaticKeyUniqueness at hverify
  dsimp only at hverify
  split at hverify
  · exact nomatch (Prod.mk.inj hverify).1
  · split at hverify
    · exact nomatch (Prod.mk.inj hverify).1
    · rename_i key hkey
      split at hverify
      · rename_i hremembers
        obtain ⟨checked, hchecked, hsublist⟩ := hcovered key hkey hremembers
        have hnodup := h.verified _ hchecked
        unfold Frame.UniqueOn
        rw [funext fun row => @keyTuple_eq _ cf (plan.uniqueKeys cf relation) row]
        exact hnodup.sublist (hsublist.map _)
      · split at hverify
        · rename_i hunique
          exact hunique
        · exact nomatch (Prod.mk.inj hverify).1

end

/-! ## The loop over the relations -/

/-- What the loop has registered when it has gone through `done`. -/
structure Registered (cf : CaseFolding) (snapshots : Snapshots V) (plan : Plan)
    (batch : MicroBatch V) (done : List PlanRelation) (s : Registering V) : Prop where
  coherent : s.worker.Coherent snapshots
  views : s.error = none → Registers (frameOf cf snapshots plan batch) done s.views
  unique : s.error = none → ∀ relation ∈ done, relation.mode = .static →
    ∃ frame, frameOf cf snapshots plan batch relation = .ok frame ∧
      frame.UniqueOn cf (plan.uniqueKeys cf relation)

theorem Registered.start {batch : MicroBatch V} {worker : Worker V}
    (h : worker.Coherent snapshots) :
    Registered cf snapshots plan batch [] { worker := worker } :=
  ⟨h, fun _ _ hmem => (nomatch hmem), fun _ _ hmem => (nomatch hmem)⟩

/-- An error says nothing of what was registered. -/
theorem registered_error {batch : MicroBatch V} {done : List PlanRelation} {s : Registering V}
    (hworker : s.worker.Coherent snapshots) (hfailed : s.error ≠ none) :
    Registered cf snapshots plan batch done s :=
  ⟨hworker, fun hnone => absurd hnone hfailed, fun hnone => absurd hnone hfailed⟩

section
variable {batch : MicroBatch V} {done : List PlanRelation} {s : Registering V}
  (h : Registered cf snapshots plan batch done s) {relation : PlanRelation}
include h

/-- A frame more. -/
theorem Registered.view (hgoing : s.error = none) {worker : Worker V}
    (hworker : worker.Coherent snapshots) {frame : Frame V}
    (hframe : frameOf cf snapshots plan batch relation = .ok frame)
    (hunique : relation.mode = .static → frame.UniqueOn cf (plan.uniqueKeys cf relation)) :
    Registered cf snapshots plan batch (done ++ [relation])
      { s with worker := worker, views := (relation.runtimeView, frame) :: s.views } where
  coherent := hworker
  views := fun _ => (h.views hgoing).register hframe
  unique := by
    intro _ item hitem hstatic
    rcases List.mem_append.mp hitem with hitem | hitem
    · exact h.unique hgoing item hitem hstatic
    · obtain rfl := List.mem_singleton.mp hitem
      exact ⟨frame, hframe, hunique hstatic⟩

/-- The pass for a static relation. -/
theorem Registered.static (hgoing : s.error = none) (hstatic : relation.mode = .static)
    (hcovered : Covered cf snapshots plan batch s relation) :
    Registered cf snapshots plan batch (done ++ [relation])
      (registerStatic cf snapshots plan batch s relation) := by
  unfold registerStatic
  cases hbinding : batch.binding relation with
  | none => exact registered_error h.coherent nofun
  | some binding =>
      dsimp only
      cases hframe : staticFrame cf snapshots plan s.worker batch.stream relation binding with
      | mk result worker =>
        cases result with
        | error e => exact registered_error (h.coherent.staticFrame_error hframe) nofun
        | ok frame =>
            obtain ⟨hframeOf, hworker⟩ := h.coherent.staticFrame hstatic hbinding hframe
            dsimp only
            cases validateFrameSchema cf frame relation with
            | error e => exact registered_error hworker nofun
            | ok _ =>
                dsimp only
                have hkept : (verifyStaticKeyUniqueness cf plan worker frame relation
                    binding).2.Coherent snapshots := hworker.verify frame relation binding
                cases hverify : verifyStaticKeyUniqueness cf plan worker frame relation binding with
                | mk verdict worker' =>
                  rw [hverify] at hkept
                  cases verdict with
                  | error e => exact registered_error hkept nofun
                  | ok _ =>
                      exact h.view hgoing hkept hframeOf fun _ => hworker.unique hverify
                        (hcovered hgoing hstatic binding hbinding frame worker hframe)

/-- The pass for any relation. -/
theorem Registered.pass (hcovered : Covered cf snapshots plan batch s relation) :
    Registered cf snapshots plan batch (done ++ [relation])
      (registerRelation cf snapshots plan batch s relation) := by
  unfold registerRelation
  split
  · rename_i hsome
    have hfailed : s.error ≠ none := fun hnone => by
      rw [hnone] at hsome
      exact nomatch hsome
    exact registered_error h.coherent hfailed
  · rename_i hgoing
    have hgoing' : s.error = none := by simpa using hgoing
    split
    · exact registered_error h.coherent nofun
    · split
      · rename_i hstreaming
        have hframe : frameOf cf snapshots plan batch relation = .ok batch.stream := by
          rw [frameOf, if_pos hstreaming]
        cases validateFrameSchema cf batch.stream relation with
        | error e => exact registered_error h.coherent nofun
        | ok _ =>
            refine h.view hgoing' h.coherent hframe fun hstatic => ?_
            rw [hstreaming] at hstatic
            exact nomatch hstatic
      · rename_i hmode
        have hstatic : relation.mode = .static := by
          cases hrelation : relation.mode with
          | streaming => exact absurd hrelation hmode
          | static => rfl
        exact h.static hgoing' hstatic hcovered

end

theorem registered_along {batch : MicroBatch V} {relations done : List PlanRelation}
    {s : Registering V} (h : Registered cf snapshots plan batch done s)
    (hcovered : Along (Covered cf snapshots plan batch) (registerRelation cf snapshots plan batch)
      s relations) :
    Registered cf snapshots plan batch (done ++ relations)
      (play (registerRelation cf snapshots plan batch) s relations) := by
  induction relations generalizing done s with
  | nil =>
      rw [List.append_nil]
      exact h
  | cons relation rest ih =>
      have hrest := ih (h.pass hcovered.1) hcovered.2
      rwa [List.append_assoc, List.singleton_append] at hrest

/-! ## The joined rows -/

omit [DecidableEq V] in
/-- Rows of one key in the key columns of a join are of one key in those that are checked. -/
theorem nodup_join_columns {relation : PlanRelation} {join : PlanJoin}
    (hjoins : plan.joinsOf cf relation = [join]) {rows : List (Row V)}
    (h : (rows.map (keyTuple cf (plan.uniqueKeys cf relation))).Nodup) :
    (rows.map (keyTuple cf (join.keys.map JoinKey.rightColumn))).Nodup := by
  refine List.pairwise_map.mpr ((List.pairwise_map.mp h).imp fun {a b} hne heq => hne ?_)
  unfold keyTuple at heq ⊢
  refine List.map_congr_left fun column hcolumn => ?_
  have hmem : column ∈ join.keys.map JoinKey.rightColumn := by
    rw [Plan.uniqueKeys, hjoins, List.flatMap_singleton] at hcolumn
    exact (List.mem_filter.mp (List.mem_eraseDups.mp hcolumn)).1
  exact List.map_inj_left.mp heq column hmem

/-- A row that the ON clause accepts can be met by the batch. -/
theorem meets_of_accepts (hplan : plan.WellFormed cf) {stream : Frame V} {join : PlanJoin}
    {s : Row V} (hs : s ∈ stream.rows) {e : Joining V} (he : StartsFrom cf plan s e) {row : Row V}
    (haccepts : join.accepts cf e row = true) : Meets cf plan stream join row := by
  refine ⟨s, hs, fun key hkey halias => ?_⟩
  have heq := List.all_eq_true.mp haccepts key hkey
  rwa [value_of_stream hplan he halias] at heq

/-- A row that can be met has the pushed values of a row of the batch. -/
theorem hasKey_of_meets {stream : Frame V} {relation : PlanRelation} {join : PlanJoin}
    (hjoins : plan.joinsOf cf relation = [join]) {row : Row V}
    (h : Meets cf plan stream join row) :
    hasKey cf (plan.keyPairs cf relation) (keyRows cf stream (plan.keyPairs cf relation)) row =
      true := by
  obtain ⟨s, hs, hagrees⟩ := h
  refine hasKey_of_agrees hs fun pair hpair => ?_
  obtain ⟨key, hkey, ⟨halias, -⟩, rfl⟩ := (mem_keyPairs hjoins).mp hpair
  exact hagrees key hkey halias

/-- The key of the rows that the ON clause accepts with one binding. -/
theorem keyTuple_of_accepts {join : PlanJoin} {e : Joining V} {row : Row V}
    (h : join.accepts cf e row = true) : keyTuple cf (join.keys.map JoinKey.rightColumn) row =
      join.keys.map fun key =>
        Joining.value cf e (cf.normalizeIdentifier key.leftAlias) key.leftColumn := by
  unfold keyTuple
  rw [List.map_map]
  refine List.map_congr_left fun key hkey => ?_
  obtain ⟨v, hleft, hright⟩ := sqlEq_iff.mp (List.all_eq_true.mp h key hkey)
  exact hright.trans hleft.symm

theorem sublist_filter_of_imp {α : Type} {p q : α → Bool} (h : ∀ a, p a = true → q a = true)
    (xs : List α) : (xs.filter p).Sublist (xs.filter q) := by
  induction xs with
  | nil => exact .slnil
  | cons x xs ih =>
      cases hp : p x with
      | true =>
          rw [List.filter_cons_of_pos hp, List.filter_cons_of_pos (h x hp)]
          exact ih.cons_cons x
      | false =>
          rw [List.filter_cons_of_neg (by simp [hp])]
          exact ih.trans (List.Sublist.filter q (List.sublist_cons_self x xs))

section
variable (hplan : plan.WellFormed cf) {batch : MicroBatch V} {s : Registering V}
  (h : Registered cf snapshots plan batch plan.relations s) (hgoing : s.error = none)
include hplan h hgoing

/-- Each static frame has, among the rows that the batch can meet, one row of a key. -/
theorem keyedOnce_registered {join : PlanJoin} (hjoin : join ∈ plan.joins) :
    KeyedOnce cf plan batch.stream join (plan.joined cf s.views.rowsOf join).frame := by
  obtain ⟨relation, hrelation, hstatic, hfind, hjoins⟩ := relation_of_join hplan hjoin
  obtain ⟨frame, hframe, hunique⟩ := h.unique hgoing relation hrelation hstatic
  obtain ⟨last, -, -, -, hrows⟩ :=
    rowsOf_registered hplan (h.views hgoing) hrelation hstatic
  rw [joined_frame hfind]
  refine (nodup_join_columns hjoins hunique).sublist (List.Sublist.map _ ?_)
  -- whatever the view keeps, what can be met of it is in the frame of this relation
  have hview : (s.views.rowsOf relation).Sublist (fullRows snapshots batch relation) := by
    rcases hrows with ⟨-, hfull⟩ | ⟨-, hpruned⟩
    · rw [hfull]
    · rw [hpruned]
      exact List.filter_sublist
  refine (hview.filter _).trans ?_
  unfold frameOf at hframe
  rw [if_neg (by rw [hstatic]; exact nofun)] at hframe
  unfold fullRows
  cases hbinding : batch.binding relation with
  | none =>
      rw [hbinding] at hframe
      exact nomatch hframe
  | some binding =>
      rw [hbinding] at hframe
      dsimp only at hframe
      split at hframe
      · cases hframe
        exact List.filter_sublist
      · obtain ⟨-, -, rfl⟩ := prunedStaticSnapshot_eq_ok.mp hframe
        exact sublist_filter_of_imp
          (fun row hmeets => hasKey_of_meets hjoins (of_decide_eq_true hmeets)) _

/-- So a row of the batch comes out of the chain at most once. -/
theorem chain_length_registered {row : Row V} (hrow : row ∈ batch.stream.rows) :
    (plan.chain cf s.views.rowsOf row).length ≤ 1 := by
  refine joinChain_length_le_one (I := StartsFrom cf plan row) (fun joined hjoined => ?_)
    (startsFrom_first row)
  obtain ⟨join, hjoin, rfl⟩ := List.mem_map.mp hjoined
  refine ⟨fun e next he => startsFrom_extend he next, fun e he => ?_⟩
  have honce := keyedOnce_registered hplan h hgoing hjoin
  have hsub : ((plan.joined cf s.views.rowsOf join).found e).Sublist
      ((plan.joined cf s.views.rowsOf join).frame.filter fun static =>
        decide (Meets cf plan batch.stream join static)) :=
    sublist_filter_of_imp
      (fun static haccepts => decide_eq_true (meets_of_accepts hplan hrow he haccepts)) _
  exact length_le_one_of_key (honce.sublist (hsub.map _)) fun static hstatic =>
    keyTuple_of_accepts (List.mem_filter.mp hstatic).2

end

/-! ## Runs of batches -/

/-- One batch, from a coherent memory. -/
theorem noFanOut_of_covered (hplan : plan.WellFormed cf) {worker : Worker V}
    (hworker : worker.Coherent snapshots) {batch : MicroBatch V}
    (hcovered : BatchCovered cf snapshots plan worker batch) :
    NoFanOut cf snapshots plan worker batch ∧
      (batchStep cf snapshots plan worker batch).Coherent snapshots := by
  have hregistered : Registered cf snapshots plan batch plan.relations
      (registered cf snapshots plan worker batch) :=
    registered_along (Registered.start hworker) hcovered
  constructor
  · intro rows hrows
    have hgoing : (registered cf snapshots plan worker batch).error = none := by
      unfold executeContinuousSqlBatch at hrows
      dsimp only at hrows
      split at hrows
      · exact nomatch hrows
      · assumption
    exact ⟨fun join hjoin => keyedOnce_registered hplan hregistered hgoing hjoin,
      fun row hrow => chain_length_registered hplan hregistered hgoing hrow⟩
  · unfold batchStep executeContinuousSqlBatch
    dsimp only
    split <;> exact hregistered.coherent

/-- **No fan-out through static joins**, in every run of a worker in which the rows of a relation
whose check is remembered are among those that were checked. -/
theorem no_fan_out (hplan : plan.WellFormed cf) (snapshots : Snapshots V)
    (batches : List (MicroBatch V))
    (hcovered : Along (BatchCovered cf snapshots plan) (batchStep cf snapshots plan) {} batches) :
    Along (NoFanOut cf snapshots plan) (batchStep cf snapshots plan) {} batches :=
  Along.of_keeps (Q := Worker.Coherent snapshots)
    (fun _ _ hworker hbatch => (noFanOut_of_covered hplan hworker hbatch).1)
    (fun _ _ hworker hbatch => (noFanOut_of_covered hplan hworker hbatch).2)
    coherent_empty hcovered

/-! ## Two batches of orders -/

/-- Without a cache hint, a relation is covered where nothing is remembered, and where the batch
has no rows. -/
theorem covered_of_pruned {batch : MicroBatch V} {s : Registering V} {relation : PlanRelation}
    (hcache : relation.cacheHint = false)
    (h : s.worker.verifiedStaticKeys = [] ∨ batch.stream.rows = []) :
    Covered cf snapshots plan batch s relation := by
  intro _ _ binding _ frame worker hframe key _ hremembers
  rw [staticFrame, if_neg (by simp [hcache])] at hframe
  obtain ⟨hpruned, rfl⟩ := Prod.mk.inj hframe
  obtain ⟨⟨_, checked⟩, hitem, rfl⟩ := List.mem_map.mp hremembers
  have hmem := (List.mem_filter.mp hitem).1
  rcases h with hnone | hempty
  · rw [hnone] at hmem
    exact nomatch hmem
  · refine ⟨checked, hmem, ?_⟩
    obtain ⟨-, -, rfl⟩ := prunedStaticSnapshot_eq_ok.mp hpruned
    have hkeys : keyRows cf batch.stream (plan.keyPairs cf relation) = [] := by
      rw [keyRows, hempty]
      rfl
    rw [hkeys, List.filter_eq_nil_iff.mpr fun row _ => by simp [hasKey]]
    exact List.nil_sublist _

/-- User 2 is in the table twice.  A batch of orders of seller 1 has the snapshot checked, and
then an order of seller 2 is joined with both rows. -/
theorem seller_joined_twice : (ordersPlan [("a", "seller")]).WellFormed smallLetters ∧
    ¬ Along (NoFanOut smallLetters (usersTable [1, 2, 2]) (ordersPlan [("a", "seller")]))
      (batchStep smallLetters (usersTable [1, 2, 2]) (ordersPlan [("a", "seller")])) {}
      [ordersBatch [(1, 0)], ordersBatch [(2, 0)]] := by
  refine ⟨compile_wellFormed sellers_compile, fun h => ?_⟩
  have hsecond := h.2.1
  have htwice : ((executeContinuousSqlBatch smallLetters (usersTable [1, 2, 2])
      (ordersPlan [("a", "seller")])
      (batchStep smallLetters (usersTable [1, 2, 2]) (ordersPlan [("a", "seller")]) {}
        (ordersBatch [(1, 0)])) (ordersBatch [(2, 0)])).1.map fun rows => rows.length) = .ok 2 := by
    decide +kernel
  cases hrows : (executeContinuousSqlBatch smallLetters (usersTable [1, 2, 2])
      (ordersPlan [("a", "seller")])
      (batchStep smallLetters (usersTable [1, 2, 2]) (ordersPlan [("a", "seller")]) {}
        (ordersBatch [(1, 0)])) (ordersBatch [(2, 0)])).1 with
  | error e =>
      rw [hrows] at htwice
      exact nomatch htwice
  | ok rows =>
      have hone := (hsecond rows hrows).2 _ List.mem_cons_self
      revert hone
      decide +kernel

/-- The first of these batches alone, and then one without orders. -/
theorem seller_joined_once :
    Along (NoFanOut smallLetters (usersTable [1, 2, 2]) (ordersPlan [("a", "seller")]))
      (batchStep smallLetters (usersTable [1, 2, 2]) (ordersPlan [("a", "seller")])) {}
      [ordersBatch [(1, 0)], ordersBatch []] := by
  refine no_fan_out (compile_wellFormed sellers_compile) _ _
    ⟨⟨fun _ h => (nomatch h), ?_, trivial⟩, ⟨fun _ h => (nomatch h), ?_, trivial⟩, trivial⟩
  · exact covered_of_pruned rfl (Or.inl rfl)
  · exact covered_of_pruned rfl (Or.inr rfl)

end AskLake.StaticJoins

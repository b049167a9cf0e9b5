/-
# `AskLake.StaticJoins.Pruning` — what pruning leaves of a join

A static relation without a cache hint is cut down to the rows that have, in the key columns
that are compared with the stream, the values of some row of the batch.  No row that the chain
could meet is lost by it: the ON clause of the relation's join asks for those values, and a row
of the batch with a `NULL` among them meets nothing (`found_filter_hasKey`).

What the chain reads are the views.  Two aliases of one Catalog relation have one view, which
holds the frame of the later alias, and for the earlier one this frame may lack rows:

    FROM orders s JOIN users a ON s.seller = a.id JOIN users b ON s.buyer = b.id

reads for `a` the users that are buyers.  Pruning is invisible where the frame in a view is cut
down by keys of every alias that reads it (`Plan.ViewsAgree`).
-/
import AskLake.StaticJoins.Batch

namespace AskLake.StaticJoins

open AskLake.Lib AskLake.Python

variable {V : Type} [DecidableEq V] {cf : CaseFolding} {plan : Plan}

/-! ## Pruned frames -/

/-- The batch has more key tuples than may be pushed. -/
def TooManyKeys (cf : CaseFolding) (plan : Plan) (stream : Frame V) (relation : PlanRelation) :
    Prop :=
  plan.pruningLimit < (keyRows cf stream (plan.keyPairs cf relation)).length

theorem prunedStaticSnapshot_eq_ok {snapshots : Snapshots V} {stream : Frame V}
    {relation : PlanRelation} {binding : StaticBinding} {frame : Frame V} :
    prunedStaticSnapshot cf snapshots plan stream relation binding = .ok frame ↔
      plan.keyPairs cf relation ≠ [] ∧ ¬ TooManyKeys cf plan stream relation ∧
        frame = { snapshots.read relation binding with
          rows := (snapshots.read relation binding).rows.filter
            (hasKey cf (plan.keyPairs cf relation) (keyRows cf stream (plan.keyPairs cf relation))) } := by
  unfold prunedStaticSnapshot TooManyKeys
  simp only [List.length_take]
  generalize keyRows cf stream (plan.keyPairs cf relation) = keys
  by_cases hpairs : plan.keyPairs cf relation = []
  · simp [hpairs]
  · by_cases hlimit : plan.pruningLimit < keys.length
    · rw [if_neg hpairs, if_pos (by omega)]
      simp [hlimit]
    · rw [if_neg hpairs, if_neg (by omega), List.take_of_length_le (by omega)]
      by_cases hkeys : keys = []
      · subst hkeys
        simp only [if_true, Except.ok.injEq]
        have hnone : (snapshots.read relation binding).rows.filter
            (hasKey cf (plan.keyPairs cf relation) []) = [] :=
          List.filter_eq_nil_iff.mpr fun row _ => by simp [hasKey]
        rw [hnone]
        exact ⟨fun h => ⟨hpairs, hlimit, h.symm⟩, fun h => h.2.2.symm⟩
      · rw [if_neg hkeys, Except.ok.injEq]
        exact ⟨fun h => ⟨hpairs, hlimit, h.symm⟩, fun h => h.2.2.symm⟩

/-- A row of the batch gives its key tuple, where no value of it is `NULL`. -/
theorem mem_keyRows {stream : Frame V} {pairs : List (String × String)} {s : Row V}
    (hs : s ∈ stream.rows) (hvalues : ∀ pair ∈ pairs, (Row.cell cf s pair.1).isSome) :
    keyTuple cf (pairs.map Prod.fst) s ∈ keyRows cf stream pairs := by
  rw [keyRows, List.mem_dedup, List.mem_filter]
  refine ⟨List.mem_map_of_mem hs, ?_⟩
  rw [keyTuple, List.map_map, List.all_map, List.all_eq_true]
  exact hvalues

theorem zip_map_self {α β : Type} (f : α → β) (xs : List α) :
    xs.zip (xs.map f) = xs.map fun x => (x, f x) := by
  induction xs with
  | nil => rfl
  | cons x xs ih => rw [List.map_cons, List.zip_cons_cons, ih, List.map_cons]

theorem sqlEq_iff {a b : Option V} : sqlEq a b = true ↔ ∃ v, a = some v ∧ b = some v := by
  cases a with
  | none => simp [sqlEq]
  | some v => simp [sqlEq, eq_comm]

/-- A row that agrees with one of the batch in every pushed column is not cut off. -/
theorem hasKey_of_agrees {stream : Frame V} {pairs : List (String × String)} {s row : Row V}
    (hs : s ∈ stream.rows) (hagrees : ∀ pair ∈ pairs, sqlEq (Row.cell cf s pair.1) (Row.cell cf row pair.2) = true) :
    hasKey cf pairs (keyRows cf stream pairs) row = true := by
  have hvalues : ∀ pair ∈ pairs, ∃ v, Row.cell cf s pair.1 = some v ∧ Row.cell cf row pair.2 = some v :=
    fun pair hpair => sqlEq_iff.mp (hagrees pair hpair)
  have hmem := mem_keyRows hs fun pair hpair => by
    obtain ⟨v, hv, -⟩ := hvalues pair hpair
    rw [hv]
    rfl
  rw [hasKey, List.any_eq_true]
  refine ⟨_, hmem, ?_⟩
  rw [keyTuple, List.map_map, zip_map_self, List.all_map, List.all_eq_true]
  intro pair hpair
  obtain ⟨v, hv, hrow⟩ := hvalues pair hpair
  exact sqlEq_iff.mpr ⟨v, hrow, hv⟩

/-! ## The join of a relation -/

theorem filter_eq_singleton {α β : Type} [DecidableEq β] {f : α → β} {xs : List α}
    (hnodup : (xs.map f).Nodup) {x : α} (hx : x ∈ xs) :
    (xs.filter fun y => decide (f y = f x)) = [x] := by
  induction xs with
  | nil => exact nomatch hx
  | cons y ys ih =>
      obtain ⟨hy, hnodup⟩ := List.nodup_cons.mp hnodup
      rcases List.mem_cons.mp hx with rfl | hx
      · rw [List.filter_cons_of_pos (by simp)]
        have hrest : (ys.filter fun y => decide (f y = f x)) = [] :=
          List.filter_eq_nil_iff.mpr fun z hz heq =>
            hy (List.mem_map.mpr ⟨z, hz, of_decide_eq_true heq⟩)
        rw [hrest]
      · have hne : f y ≠ f x := fun heq => hy (List.mem_map.mpr ⟨x, hx, heq.symm⟩)
        rw [List.filter_cons_of_neg (by simpa using hne)]
        exact ih hnodup hx

theorem eq_of_key {α β : Type} {f : α → β} {xs : List α} (hnodup : (xs.map f).Nodup) {x y : α}
    (hx : x ∈ xs) (hy : y ∈ xs) (h : f x = f y) : x = y :=
  List.inj_on_of_nodup_map hnodup hx hy h

section
variable (hplan : plan.WellFormed cf)
include hplan

/-- A join has one relation, which is static, and which has no other join. -/
theorem relation_of_join {join : PlanJoin} (hjoin : join ∈ plan.joins) :
    ∃ relation ∈ plan.relations, relation.mode = .static ∧
      (plan.relations.find? fun item => decide (item.aliasName = join.rightAlias)) =
        some relation ∧
      plan.joinsOf cf relation = [join] := by
  obtain ⟨relation, hrelation, hstatic, hname⟩ := hplan.bound join hjoin
  have hfound : (plan.relations.find? fun item =>
      decide (item.aliasName = join.rightAlias)).isSome :=
    List.find?_isSome.mpr ⟨relation, hrelation, by simpa using hname⟩
  obtain ⟨first, hfirst⟩ := Option.isSome_iff_exists.mp hfound
  have hsame : first = relation := by
    have hfirstName : first.aliasName = join.rightAlias := by
      simpa using List.find?_some hfirst
    refine eq_of_key hplan.aliases (List.mem_of_find?_eq_some hfirst) hrelation ?_
    rw [hfirstName, hname]
  refine ⟨relation, hrelation, hstatic, by rw [hfirst, hsame], ?_⟩
  have hjoins := filter_eq_singleton hplan.joins hjoin
  rw [Plan.joinsOf, hname]
  exact hjoins

theorem streamingAliases_eq : ∃ aliasName, plan.streamingAliases cf = [aliasName] := by
  obtain ⟨base, statics, hrelations, hbase, hstatics⟩ := hplan.stream
  refine ⟨cf.normalizeIdentifier base.aliasName, ?_⟩
  have hnone : (statics.filter fun item => decide (item.mode = .streaming)) = [] :=
    List.filter_eq_nil_iff.mpr fun item hitem h => by
      have hmode := of_decide_eq_true h
      rw [hstatics item hitem] at hmode
      exact nomatch hmode
  rw [Plan.streamingAliases, hrelations, List.filter_cons_of_pos (by simpa using hbase), hnone]
  rfl

end

/-- A binding that the chain reaches from this row of the batch. -/
def StartsFrom (cf : CaseFolding) (plan : Plan) (s : Row V) (e : Joining V) : Prop :=
  ∃ rest, e = plan.first cf s ++ rest

omit [DecidableEq V] in
theorem startsFrom_first (s : Row V) : StartsFrom cf plan s (plan.first cf s) :=
  ⟨[], (List.append_nil _).symm⟩

theorem startsFrom_extend {frames : PlanRelation → List (Row V)} {join : PlanJoin} {s : Row V}
    {e : Joining V} (h : StartsFrom cf plan s e) (row : Option (Row V)) :
    StartsFrom cf plan s ((plan.joined cf frames join).extend e row) := by
  obtain ⟨rest, rfl⟩ := h
  exact ⟨rest ++ [(cf.normalizeIdentifier join.rightAlias, row)], List.append_assoc ..⟩

omit [DecidableEq V] in
/-- The columns of the stream are those of the row that the chain started from. -/
theorem value_of_stream (hplan : plan.WellFormed cf) {s : Row V} {e : Joining V}
    (h : StartsFrom cf plan s e) {aliasName : List Char}
    (halias : aliasName ∈ plan.streamingAliases cf) (column : String) :
    Joining.value cf e aliasName column = Row.cell cf s column := by
  obtain ⟨rest, rfl⟩ := h
  obtain ⟨stream, hstream⟩ := streamingAliases_eq hplan
  rw [hstream, List.mem_singleton] at halias
  subst halias
  simp [Joining.value, Plan.first, hstream]

theorem mem_keyPairs {relation : PlanRelation} {join : PlanJoin}
    (hjoins : plan.joinsOf cf relation = [join]) {pair : String × String} :
    pair ∈ plan.keyPairs cf relation ↔ ∃ key ∈ join.keys,
      (cf.normalizeIdentifier key.leftAlias ∈ plan.streamingAliases cf ∧
        strip key.leftColumn ≠ "" ∧ strip key.rightColumn ≠ "") ∧
      pair = (key.leftColumn, key.rightColumn) := by
  rw [Plan.keyPairs, hjoins, List.head?_cons, Option.elim_some, List.mem_filterMap]
  refine exists_congr fun key => and_congr_right fun _ => ?_
  rw [Option.ite_none_right_eq_some, Option.some.injEq, eq_comm (a := pair)]

/-- A row that the ON clause accepts agrees with the batch in the pushed columns. -/
theorem agrees_of_accepts (hplan : plan.WellFormed cf) {relation : PlanRelation} {join : PlanJoin}
    (hjoins : plan.joinsOf cf relation = [join]) {s : Row V} {e : Joining V}
    (he : StartsFrom cf plan s e) {row : Row V} (haccepts : join.accepts cf e row = true) :
    ∀ pair ∈ plan.keyPairs cf relation, sqlEq (Row.cell cf s pair.1) (Row.cell cf row pair.2) = true := by
  intro pair hpair
  obtain ⟨key, hkey, ⟨halias, -⟩, rfl⟩ := (mem_keyPairs hjoins).mp hpair
  have heq := List.all_eq_true.mp haccepts key hkey
  rw [value_of_stream hplan he halias] at heq
  exact heq

/-- Cutting a frame down by some of the keys of a join does not change what the join finds. -/
theorem found_filter_hasKey (hplan : plan.WellFormed cf) {stream : Frame V}
    {relation : PlanRelation} {join : PlanJoin} (hjoins : plan.joinsOf cf relation = [join])
    {pairs : List (String × String)} (hpairs : pairs ⊆ plan.keyPairs cf relation) {s : Row V}
    (hs : s ∈ stream.rows) {e : Joining V} (he : StartsFrom cf plan s e) (rows : List (Row V)) :
    (rows.filter (hasKey cf pairs (keyRows cf stream pairs))).filter (join.accepts cf e) =
      rows.filter (join.accepts cf e) := by
  rw [List.filter_filter]
  refine List.filter_congr fun row _ => ?_
  cases haccepts : join.accepts cf e row with
  | false => rfl
  | true =>
      have hagrees := agrees_of_accepts hplan hjoins he haccepts
      rw [hasKey_of_agrees hs fun pair hpair => hagrees pair (hpairs hpair)]
      rfl

/-! ## The views -/

/-- What a relation is registered with: the batch, the snapshot, or what pruning leaves of it. -/
def frameOf (cf : CaseFolding) (snapshots : Snapshots V) (plan : Plan) (batch : MicroBatch V)
    (relation : PlanRelation) : Except String (Frame V) :=
  if relation.mode = .streaming then .ok batch.stream
  else
    match batch.binding relation with
    | none => .error "CONTINUOUS_SQL_STATIC_BINDING_MISSING"
    | some binding =>
        if relation.cacheHint then .ok (snapshots.read relation binding)
        else prunedStaticSnapshot cf snapshots plan batch.stream relation binding

/-- Every relation has in its view the frame of the last relation with that view. -/
def Registers (frames : PlanRelation → Except String (Frame V)) (relations : List PlanRelation)
    (views : Views V) : Prop :=
  ∀ relation ∈ relations, ∃ last ∈ relations,
    relations.reverse.find? (fun item => decide (item.runtimeView = relation.runtimeView)) =
      some last ∧
    ∃ frame, frames last = .ok frame ∧ views.lookup relation.runtimeView = some frame

omit [DecidableEq V] in
/-- One relation more. -/
theorem Registers.register {frames : PlanRelation → Except String (Frame V)}
    {relations : List PlanRelation} {views : Views V} (h : Registers frames relations views)
    {relation : PlanRelation} {frame : Frame V} (hframe : frames relation = .ok frame) :
    Registers frames (relations ++ [relation]) ((relation.runtimeView, frame) :: views) := by
  intro item hitem
  rw [List.reverse_append, List.reverse_singleton, List.singleton_append]
  by_cases hview : relation.runtimeView = item.runtimeView
  · refine ⟨relation, List.mem_append_right _ (List.mem_singleton_self _), ?_, frame, hframe, ?_⟩
    · exact List.find?_cons_of_pos (by simpa using hview)
    · rw [hview, List.lookup_cons_self]
  · have hmem : item ∈ relations := by
      rcases List.mem_append.mp hitem with hmem | hmem
      · exact hmem
      · obtain rfl := List.mem_singleton.mp hmem
        exact absurd rfl hview
    obtain ⟨last, hlast, hfind, frame', hframe', hlookup⟩ := h item hmem
    refine ⟨last, List.mem_append_left _ hlast, ?_, frame', hframe', ?_⟩
    · rw [List.find?_cons_of_neg (by simpa using hview)]
      exact hfind
    · have hbeq : (item.runtimeView == relation.runtimeView) = false := by
        simpa using Ne.symm hview
      rw [List.lookup_cons, hbeq]
      exact hlookup

/-- The views that a batch registers, where every frame is there. -/
def registerViews (frames : PlanRelation → Except String (Frame V)) :
    List PlanRelation → Views V → Except String (Views V)
  | [], views => .ok views
  | relation :: rest, views => do
      let frame ← frames relation
      registerViews frames rest ((relation.runtimeView, frame) :: views)

omit [DecidableEq V] in
theorem registerViews_registers {frames : PlanRelation → Except String (Frame V)}
    {relations done : List PlanRelation} {before views : Views V}
    (h : registerViews frames relations before = .ok views)
    (hbefore : Registers frames done before) : Registers frames (done ++ relations) views := by
  induction relations generalizing done before with
  | nil =>
      cases h
      rw [List.append_nil]
      exact hbefore
  | cons relation rest ih =>
      obtain ⟨frame, hframe, h⟩ := bind_eq_ok.mp h
      have hrest := ih h (hbefore.register hframe)
      rwa [List.append_assoc, List.singleton_append] at hrest

/-! ## Pruned and full frames -/

/-- The rows of the snapshot that a relation is bound to. -/
def fullRows (snapshots : Snapshots V) (batch : MicroBatch V) (relation : PlanRelation) :
    List (Row V) :=
  (batch.binding relation).elim [] fun binding => (snapshots.read relation binding).rows

/-- The last relation with the view of this one, whose frame the view keeps. -/
def Plan.lastWithView (plan : Plan) (relation : PlanRelation) : Option PlanRelation :=
  plan.relations.reverse.find? fun item => decide (item.runtimeView = relation.runtimeView)

/-- What a view keeps is cut down, if at all, by keys of each relation that reads it. -/
def Plan.ViewsAgree (cf : CaseFolding) (plan : Plan) : Prop :=
  ∀ relation ∈ plan.relations, relation.mode = .static → ∀ last ∈ plan.lastWithView relation,
    last.cacheHint = true ∨ plan.keyPairs cf last ⊆ plan.keyPairs cf relation

instance : Decidable (plan.ViewsAgree cf) :=
  inferInstanceAs (Decidable (∀ relation ∈ plan.relations, relation.mode = .static →
    ∀ last ∈ plan.lastWithView relation, _ ∨ _))

/-- Nobody can tell from the joined rows that static frames are pruned, and pruning refuses a
relation only where no key of its join refers to the stream or the batch has too many keys. -/
structure PruningInvisible (cf : CaseFolding) (snapshots : Snapshots V) (plan : Plan)
    (batch : MicroBatch V) : Prop where
  raises : ∀ relation ∈ plan.relations, relation.mode = .static → ∀ binding,
    (∃ e, prunedStaticSnapshot cf snapshots plan batch.stream relation binding = .error e) ↔
      (∀ join ∈ plan.joinsOf cf relation, ∀ key ∈ join.keys,
        cf.normalizeIdentifier key.leftAlias ∉ plan.streamingAliases cf) ∨
      TooManyKeys cf plan batch.stream relation
  same : ∀ views, registerViews (frameOf cf snapshots plan batch) plan.relations [] = .ok views →
    (plan.result cf views.rowsOf batch.stream).Perm
      (plan.result cf (fullRows snapshots batch) batch.stream)

/-- A relation has at most one join. -/
theorem joinsOf_eq (hplan : plan.WellFormed cf) (relation : PlanRelation) :
    plan.joinsOf cf relation = [] ∨ ∃ join ∈ plan.joins, plan.joinsOf cf relation = [join] := by
  cases hjoins : plan.joinsOf cf relation with
  | nil => exact Or.inl rfl
  | cons join rest =>
      right
      have hmem : join ∈ plan.joinsOf cf relation := by
        rw [hjoins]
        exact List.mem_cons_self
      obtain ⟨hjoin, hname⟩ := List.mem_filter.mp hmem
      have hsingle := filter_eq_singleton hplan.joins hjoin
      rw [of_decide_eq_true hname] at hsingle
      exact ⟨join, hjoin, hjoins.symm.trans hsingle⟩

theorem keyPairs_eq_nil (hplan : plan.WellFormed cf) {relation : PlanRelation} :
    plan.keyPairs cf relation = [] ↔ ∀ join ∈ plan.joinsOf cf relation, ∀ key ∈ join.keys,
      cf.normalizeIdentifier key.leftAlias ∉ plan.streamingAliases cf := by
  rcases joinsOf_eq hplan relation with hjoins | ⟨join, hjoin, hjoins⟩
  · rw [Plan.keyPairs, hjoins]
    constructor
    · intro _ join hjoin
      exact nomatch hjoin
    · intro _
      rfl
  · rw [List.eq_nil_iff_forall_not_mem, hjoins]
    constructor
    · intro h join' hjoin' key hkey halias
      obtain rfl := List.mem_singleton.mp hjoin'
      exact h _ ((mem_keyPairs hjoins).mpr
        ⟨key, hkey, ⟨halias, hplan.columns join' hjoin key hkey⟩, rfl⟩)
    · intro h pair hpair
      obtain ⟨key, hkey, ⟨halias, -⟩, -⟩ := (mem_keyPairs hjoins).mp hpair
      exact h join (List.mem_singleton_self _) key hkey halias

theorem pruned_raises_iff (hplan : plan.WellFormed cf) (snapshots : Snapshots V)
    (stream : Frame V) (relation : PlanRelation) (binding : StaticBinding) :
    (∃ e, prunedStaticSnapshot cf snapshots plan stream relation binding = .error e) ↔
      (∀ join ∈ plan.joinsOf cf relation, ∀ key ∈ join.keys,
        cf.normalizeIdentifier key.leftAlias ∉ plan.streamingAliases cf) ∨
      TooManyKeys cf plan stream relation := by
  rw [← keyPairs_eq_nil hplan]
  constructor
  · rintro ⟨e, herror⟩
    by_contra hnot
    obtain ⟨hpairs, hlimit⟩ := not_or.mp hnot
    have hok : ∃ frame,
        prunedStaticSnapshot cf snapshots plan stream relation binding = .ok frame :=
      ⟨_, prunedStaticSnapshot_eq_ok.mpr ⟨hpairs, hlimit, rfl⟩⟩
    obtain ⟨frame, hframe⟩ := hok
    exact nomatch herror.symm.trans hframe
  · intro hcause
    cases hpruned : prunedStaticSnapshot cf snapshots plan stream relation binding with
    | error e => exact ⟨e, rfl⟩
    | ok frame =>
        obtain ⟨hpairs, hlimit, -⟩ := prunedStaticSnapshot_eq_ok.mp hpruned
        rcases hcause with hnone | hmany
        · exact absurd hnone hpairs
        · exact absurd hmany hlimit

section
variable (hplan : plan.WellFormed cf)
include hplan

/-- The view of a static relation keeps the frame of a static relation of the same dataset. -/
theorem lastWithView_static {relation last : PlanRelation} (hrelation : relation ∈ plan.relations)
    (hstatic : relation.mode = .static) (hlast : plan.lastWithView relation = some last) :
    last ∈ plan.relations ∧ last.mode = .static ∧ last.datasetId = relation.datasetId := by
  obtain ⟨base, statics, hrelations, hbase, hstatics⟩ := hplan.stream
  have hmem : relation ∈ statics := by
    rw [hrelations] at hrelation
    rcases List.mem_cons.mp hrelation with rfl | hmem
    · rw [hstatic] at hbase
      exact nomatch hbase
    · exact hmem
  have hfound : (statics.reverse.find? fun item =>
      decide (item.runtimeView = relation.runtimeView)).isSome :=
    List.find?_isSome.mpr ⟨relation, List.mem_reverse.mpr hmem, by simp⟩
  obtain ⟨first, hfirst⟩ := Option.isSome_iff_exists.mp hfound
  -- the stream comes first, so the last relation with the view is found before it
  have hsame : first = last := by
    rw [Plan.lastWithView, hrelations, List.reverse_cons, List.find?_append, hfirst] at hlast
    simpa using hlast
  subst hsame
  have hview : first.runtimeView = relation.runtimeView := by simpa using List.find?_some hfirst
  have hfirstMem : first ∈ statics := List.mem_reverse.mp (List.mem_of_find?_eq_some hfirst)
  have hfirstRel : first ∈ plan.relations := by
    rw [hrelations]
    exact List.mem_cons_of_mem _ hfirstMem
  exact ⟨hfirstRel, hstatics first hfirstMem, hplan.views first hfirstRel relation hrelation hview⟩

/-- What a relation of the query reads, where the views are registered: the rows of its
snapshot, pruned as the last relation with its view was. -/
theorem rowsOf_registered {snapshots : Snapshots V} {batch : MicroBatch V} {views : Views V}
    (hviews : Registers (frameOf cf snapshots plan batch) plan.relations views)
    {relation : PlanRelation} (hrelation : relation ∈ plan.relations)
    (hstatic : relation.mode = .static) :
    ∃ last, plan.lastWithView relation = some last ∧ last ∈ plan.relations ∧
      last.mode = .static ∧
      ((last.cacheHint = true ∧ views.rowsOf relation = fullRows snapshots batch relation) ∨
        last.cacheHint = false ∧ views.rowsOf relation =
          (fullRows snapshots batch relation).filter
            (hasKey cf (plan.keyPairs cf last) (keyRows cf batch.stream (plan.keyPairs cf last)))) := by
  obtain ⟨last, -, hfind, frame, hframe, hlookup⟩ := hviews relation hrelation
  obtain ⟨hlast, hlastStatic, hdataset⟩ := lastWithView_static hplan hrelation hstatic hfind
  have hbinding : batch.binding last = batch.binding relation := by
    simp only [MicroBatch.binding, hdataset]
  have hrows : views.rowsOf relation = frame.rows := by
    rw [Views.rowsOf, hlookup]
    rfl
  unfold frameOf at hframe
  rw [if_neg (by rw [hlastStatic]; exact nofun), hbinding] at hframe
  refine ⟨last, hfind, hlast, hlastStatic, ?_⟩
  unfold fullRows
  cases hbound : batch.binding relation with
  | none =>
      rw [hbound] at hframe
      exact nomatch hframe
  | some binding =>
      rw [hbound] at hframe
      have hread : snapshots.read last binding = snapshots.read relation binding := by
        simp only [Snapshots.read, hdataset]
      dsimp only at hframe
      split at hframe
      · rename_i hcache
        cases hframe
        exact Or.inl ⟨hcache, by rw [hrows, hread]; rfl⟩
      · rename_i hcache
        obtain ⟨-, -, rfl⟩ := prunedStaticSnapshot_eq_ok.mp hframe
        exact Or.inr ⟨by simpa using hcache, by rw [hrows, hread]; rfl⟩

omit hplan in
/-- A join reads the frame of its relation. -/
theorem joined_frame {join : PlanJoin} {relation : PlanRelation}
    (hfind : (plan.relations.find? fun item => decide (item.aliasName = join.rightAlias)) =
      some relation) (frames : PlanRelation → List (Row V)) :
    (plan.joined cf frames join).frame = frames relation := by
  simp only [Plan.joined, hfind, Option.map_some, Option.getD_some]

/-- For a row of the batch, the chain over what is registered is the chain over the snapshots. -/
theorem chain_registered (hagree : plan.ViewsAgree cf) {snapshots : Snapshots V}
    {batch : MicroBatch V} {views : Views V}
    (hviews : Registers (frameOf cf snapshots plan batch) plan.relations views) {s : Row V}
    (hs : s ∈ batch.stream.rows) :
    plan.chain cf views.rowsOf s = plan.chain cf (fullRows snapshots batch) s := by
  refine joinChain_congr (I := StartsFrom cf plan s) ?_ (startsFrom_first s)
  rw [List.forall₂_map_left_iff, List.forall₂_map_right_iff, List.forall₂_same]
  intro join hjoin
  refine ⟨⟨(plan.joined cf views.rowsOf join).frame, rfl⟩,
    fun e row he => startsFrom_extend he row, fun e he => ?_⟩
  obtain ⟨relation, hrelation, hstatic, hfind, hjoins⟩ := relation_of_join hplan hjoin
  unfold Joined.found
  rw [joined_frame hfind, joined_frame hfind]
  obtain ⟨last, hlast, -, -, hrows⟩ := rowsOf_registered hplan hviews hrelation hstatic
  rcases hrows with ⟨-, hfull⟩ | ⟨hcache, hpruned⟩
  · rw [hfull]
    rfl
  · have hpairs : plan.keyPairs cf last ⊆ plan.keyPairs cf relation := by
      rcases hagree relation hrelation hstatic last hlast with htrue | hpairs
      · rw [hcache] at htrue
        exact nomatch htrue
      · exact hpairs
    rw [hpruned]
    exact found_filter_hasKey hplan hjoins hpairs hs he _

end

/-- **Static pruning is invisible** in every plan of the planner whose aliases of one Catalog
relation are cut down by keys of each other. -/
theorem pruning_invisible {settings : PlannerSettings} {order : List CatalogRelation}
    {query : ParsedQuery} (hcompile : compile cf settings order query = .ok plan)
    (hagree : plan.ViewsAgree cf) (snapshots : Snapshots V) (batch : MicroBatch V) :
    PruningInvisible cf snapshots plan batch := by
  have hplan := compile_wellFormed hcompile
  refine ⟨fun relation _ _ binding => pruned_raises_iff hplan snapshots _ relation binding, ?_⟩
  intro views hviews
  have hregisters : Registers (frameOf cf snapshots plan batch) ([] ++ plan.relations) views :=
    registerViews_registers hviews fun _ h => nomatch h
  rw [Plan.result, Plan.result,
    List.flatMap_congr fun s hs => chain_registered hplan hagree hregisters hs]

/-! ## Sellers and buyers -/

/-- A case folding that is right for names in small letters. -/
def smallLetters : CaseFolding where
  fold := fun c => [c]
  space := fun _ _ => rfl
  letter := by
    intro c hc d hd
    rwa [List.mem_singleton.mp hd]

def ordersRelation : CatalogRelation where
  datasetId := "ds-orders"
  mode := .streaming
  schema := [(⟨"seller", by decide, by decide⟩, "bigint"), (⟨"buyer", by decide, by decide⟩, "bigint")]
  schemaFingerprint := "orders-1"
  uniqueKeySets := []

def usersRelation : CatalogRelation where
  datasetId := "ds-users"
  mode := .static
  schema := [(⟨"id", by decide, by decide⟩, "bigint")]
  schemaFingerprint := "users-1"
  uniqueKeySets := [["id"]]

/-- `JOIN users AS aliasName ON s.column = aliasName.id` -/
def usersClause (aliasName column : String) : JoinClause where
  aliasName := aliasName
  relation := usersRelation
  onClause := some (.eq (.column (some "s") column) (.column (some aliasName) "id"))

/-- `FROM orders s` with these joins -/
def ordersQuery (joins : List JoinClause) : ParsedQuery := ⟨"s", ordersRelation, joins⟩

def ordersSettings : PlannerSettings := ⟨5000000, 100, fun _ => []⟩

def usersOf (aliasName : String) : PlanRelation where
  aliasName := aliasName
  runtimeView := "__asklake_relation_1"
  datasetId := "ds-users"
  mode := .static
  schema := [("id", "bigint")]
  schemaFingerprint := "users-1"
  cacheHint := false

/-- The plan of the query that joins users by these columns of the orders. -/
def ordersPlan (joins : List (String × String)) : Plan where
  relations := {
      aliasName := "s", runtimeView := "__asklake_relation_0", datasetId := "ds-orders"
      mode := .streaming, schema := [("seller", "bigint"), ("buyer", "bigint")]
      schemaFingerprint := "orders-1", cacheHint := false } ::
    joins.map fun join => usersOf join.1
  joins := joins.map fun join => ⟨.inner, join.1, [⟨"s", join.2, join.1, "id"⟩]⟩
  staticPruningMaxKeys := 100

/-- Users 1, 2 and so on. -/
def usersTable (ids : List Nat) : Snapshots Nat := fun _ _ =>
  { rows := ids.map fun id column => if column = "id".toList then some id else none }

/-- Orders by their seller and buyer. -/
def ordersBatch (orders : List (Nat × Nat)) : MicroBatch Nat where
  stream := { rows := orders.map fun order column =>
    if column = "seller".toList then some order.1
    else if column = "buyer".toList then some order.2
    else none }
  bindings := [⟨"ds-users", "101", "users-1"⟩]

theorem sellers_and_buyers_compile :
    compile smallLetters ordersSettings [ordersRelation, usersRelation]
      (ordersQuery [usersClause "a" "seller", usersClause "b" "buyer"]) =
        .ok (ordersPlan [("a", "seller"), ("b", "buyer")]) := by
  decide +kernel

/-- User 1 sells to user 2.  The view of both aliases keeps the buyers, and the order is lost. -/
theorem sellers_pruned_to_buyers : ∃ plan,
    compile smallLetters ordersSettings [ordersRelation, usersRelation]
      (ordersQuery [usersClause "a" "seller", usersClause "b" "buyer"]) = .ok plan ∧
    ¬ PruningInvisible smallLetters (usersTable [1, 2]) plan (ordersBatch [(1, 2)]) := by
  refine ⟨_, sellers_and_buyers_compile, fun h => ?_⟩
  have hlost : (registerViews (frameOf smallLetters (usersTable [1, 2])
      (ordersPlan [("a", "seller"), ("b", "buyer")]) (ordersBatch [(1, 2)]))
      (ordersPlan [("a", "seller"), ("b", "buyer")]).relations []).map (fun views =>
        ((ordersPlan [("a", "seller"), ("b", "buyer")]).result smallLetters views.rowsOf
          (ordersBatch [(1, 2)]).stream).length) = .ok 0 := by decide +kernel
  have hkept : ((ordersPlan [("a", "seller"), ("b", "buyer")]).result smallLetters
      (fullRows (usersTable [1, 2]) (ordersBatch [(1, 2)])) (ordersBatch [(1, 2)]).stream).length
        = 1 := by decide +kernel
  cases hviews : registerViews (frameOf smallLetters (usersTable [1, 2])
      (ordersPlan [("a", "seller"), ("b", "buyer")]) (ordersBatch [(1, 2)]))
      (ordersPlan [("a", "seller"), ("b", "buyer")]).relations [] with
  | error e =>
      rw [hviews] at hlost
      exact nomatch hlost
  | ok views =>
      rw [hviews] at hlost
      have hlength := (h.same views hviews).length_eq
      rw [hkept] at hlength
      exact nomatch hlength.symm.trans (Except.ok.inj hlost)

theorem sellers_compile : compile smallLetters ordersSettings [ordersRelation, usersRelation]
    (ordersQuery [usersClause "a" "seller"]) = .ok (ordersPlan [("a", "seller")]) := by
  decide +kernel

/-- The sellers alone. -/
theorem sellers_pruned : PruningInvisible smallLetters (usersTable [1, 2])
    (ordersPlan [("a", "seller")]) (ordersBatch [(1, 2)]) :=
  pruning_invisible sellers_compile (by decide +kernel) _ _

end AskLake.StaticJoins

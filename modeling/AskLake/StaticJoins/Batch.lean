/-
# `AskLake.StaticJoins.Batch` — a micro-batch of a continuous query

`execute_continuous_sql_batch` registers a frame for every relation of the plan and then runs
the join chain over the registered views:

    streaming      the batch itself
    with a hint    the snapshot, from the cache of the worker       (`reusable_static_snapshot`)
    without one    the rows of the snapshot that the batch can meet    (`pruned_static_snapshot`)

A static frame is checked for two rows with one join key, unless the worker remembers the check
for the dataset, the snapshot, the schema and the key columns.

A cell is a value or `NULL`; values are compared by SQL equality, with no cast between them.
Columns are found by their normalized names, as an engine does that ignores case.
The memory of checks keeps, beside each key, the frame that was checked, which the source does
not keep and no branch here reads.
-/
import AskLake.StaticJoins.Plan
import AskLake.Lib.Run
import Mathlib.Data.List.Dedup

namespace AskLake.StaticJoins

open AskLake.Lib AskLake.Python

attribute [local instance] lawfulBEq_name

variable {V : Type} [DecidableEq V]

/-! ## Frames -/

/-- A row by the normalized names of its columns; `none` is `NULL`. -/
abbrev Row (V : Type) := List Char → Option V

structure Frame (V : Type) where
  schema : List (String × String) := []
  rows : List (Row V)

/-- `left = right` is true in SQL. -/
def sqlEq (left right : Option V) : Bool := left.isSome && left = right

def Row.cell (cf : CaseFolding) (row : Row V) (column : String) : Option V :=
  row (cf.normalizeIdentifier column)

def keyTuple (cf : CaseFolding) (columns : List String) (row : Row V) : List (Option V) :=
  columns.map fun column => Row.cell cf row column

/-- The snapshot that a batch binds a dataset to. -/
structure StaticBinding where
  datasetId : String
  snapshotId : String
  schemaFingerprint : String := ""

/-- The snapshots of the tables, by dataset and snapshot id; they do not change. -/
abbrev Snapshots (V : Type) := String → String → Frame V

/-- `a or b`, of texts -/
def orText (a b : String) : String := if a = "" then b else a

/-- `read_static_snapshot` -/
def Snapshots.read (snapshots : Snapshots V) (relation : PlanRelation) (binding : StaticBinding) :
    Frame V :=
  snapshots (strip (orText relation.datasetId binding.datasetId)) (strip binding.snapshotId)

structure MicroBatch (V : Type) where
  stream : Frame V
  bindings : List StaticBinding

/-- `bindings_by_dataset.get(dataset_id)` -/
def MicroBatch.binding (batch : MicroBatch V) (relation : PlanRelation) : Option StaticBinding :=
  batch.bindings.reverse.find? fun item => item.datasetId = relation.datasetId

/-! ## `validate_frame_schema` -/

section
variable (cf : CaseFolding)

/-- `normalize_type` of the worker -/
def CaseFolding.normalizeType (value : String) : String :=
  let normalized := String.ofList
    (cf.casefold ((if value = "" then "string" else value).toList.filter (· ≠ ' ')))
  if "decimal(".toList.isPrefixOf normalized.toList then "decimal"
  else
    match normalized with
    | "int" => "integer"
    | "long" => "bigint"
    | "float" => "double"
    | "varchar" | "text" => "string"
    | "bool" => "boolean"
    | "datetime" => "timestamp"
    | other => other

/-- `compatible_types` -/
def compatibleTypes (left right : String) : Bool :=
  let numeric := ["tinyint", "smallint", "integer", "bigint", "float", "double", "decimal",
    "numeric"]
  left = right || (numeric.contains left && numeric.contains right)

/-- The type of a column; of two columns of one name the later counts. -/
def columnType (schema : List (String × String)) (name : List Char) : Option String :=
  (schema.reverse.find? fun column => cf.normalizeIdentifier column.1 = name).map fun column =>
    cf.normalizeType column.2

def validateFrameSchema (frame : Frame V) (relation : PlanRelation) : Except String Unit :=
  relation.referencedColumns.forM fun column =>
    match columnType cf frame.schema (cf.normalizeIdentifier column),
      columnType cf relation.schema (cf.normalizeIdentifier column) with
    | some actual, some expected =>
        rejectIf (compatibleTypes actual expected = false)
          s!"CONTINUOUS_SQL_SCHEMA_TYPE_INCOMPATIBLE:{column}"
    | _, _ => .error s!"CONTINUOUS_SQL_SCHEMA_COLUMN_MISSING:{column}"

/-! ## `pruned_static_snapshot` -/

def Plan.streamingAliases (plan : Plan) : List (List Char) :=
  (plan.relations.filter fun item => item.mode = .streaming).map fun item =>
    cf.normalizeIdentifier item.aliasName

/-- The joins of a relation. -/
def Plan.joinsOf (plan : Plan) (relation : PlanRelation) : List PlanJoin :=
  plan.joins.filter fun join =>
    cf.normalizeIdentifier join.rightAlias = cf.normalizeIdentifier relation.aliasName

/-- `key_pairs`: the keys of the join of a relation that refer to the stream -/
def Plan.keyPairs (plan : Plan) (relation : PlanRelation) : List (String × String) :=
  ((plan.joinsOf cf relation).head?.elim [] PlanJoin.keys).filterMap fun key =>
    if cf.normalizeIdentifier key.leftAlias ∈ plan.streamingAliases cf ∧
        strip key.leftColumn ≠ "" ∧ strip key.rightColumn ≠ "" then
      some (key.leftColumn, key.rightColumn)
    else none

/-- The key tuples of a batch without `NULL`, each once. -/
def keyRows (stream : Frame V) (pairs : List (String × String)) : List (List (Option V)) :=
  ((stream.rows.map (keyTuple cf (pairs.map Prod.fst))).filter fun key =>
    key.all Option.isSome).dedup

/-- A row of the snapshot has the key of a row of the batch. -/
def hasKey (pairs : List (String × String)) (keys : List (List (Option V))) (row : Row V) : Bool :=
  keys.any fun key => (pairs.zip key).all fun item => sqlEq (Row.cell cf row item.1.2) item.2

def Plan.pruningLimit (plan : Plan) : Nat :=
  max 1 (if plan.staticPruningMaxKeys = 0 then 100 else plan.staticPruningMaxKeys)

def prunedStaticSnapshot (snapshots : Snapshots V) (plan : Plan) (stream : Frame V)
    (relation : PlanRelation) (binding : StaticBinding) : Except String (Frame V) :=
  let pairs := plan.keyPairs cf relation
  let limit := plan.pruningLimit
  if pairs = [] then .error "CONTINUOUS_SQL_STATIC_PRUNING_UNSUPPORTED"
  else
    let keys := (keyRows cf stream pairs).take (limit + 1)
    if limit < keys.length then
      .error s!"CONTINUOUS_SQL_STATIC_PRUNING_KEY_LIMIT_EXCEEDED:{keys.length}>{limit}"
    else
      let frame := snapshots.read relation binding
      if keys = [] then .ok { frame with rows := [] }
      else .ok { frame with rows := frame.rows.filter (hasKey cf pairs keys) }

/-! ## The memory of a worker -/

structure CacheKey where
  datasetId : String
  snapshotId : String
  schemaFingerprint : String
  deriving DecidableEq

abbrev VerificationKey := CacheKey × List (List Char)

/-- `_STATIC_FRAME_CACHE`, `_STATIC_FRAME_KEY_BY_DATASET` and `_VERIFIED_STATIC_KEYS` -/
structure Worker (V : Type) where
  staticFrameCache : List (CacheKey × Frame V) := []
  staticFrameKeyByDataset : List (String × CacheKey) := []
  verifiedStaticKeys : List (VerificationKey × Frame V) := []

/-- `static_snapshot_cache_key` -/
def staticSnapshotCacheKey (relation : PlanRelation) (binding : StaticBinding) :
    Except String CacheKey := do
  let key : CacheKey := ⟨strip (orText relation.datasetId binding.datasetId),
    strip binding.snapshotId, strip (orText binding.schemaFingerprint relation.schemaFingerprint)⟩
  rejectIf (key.datasetId = "" ∨ key.snapshotId = "" ∨ key.schemaFingerprint = "")
    "CONTINUOUS_SQL_STATIC_CACHE_IDENTITY_INVALID"
  pure key

/-- `evict_static_snapshot` -/
def Worker.evictStaticSnapshot (worker : Worker V) (key : CacheKey) : Worker V where
  staticFrameCache := worker.staticFrameCache.filter fun item => item.1 ≠ key
  staticFrameKeyByDataset := worker.staticFrameKeyByDataset.filter fun item =>
    ¬ (item.1 = key.datasetId ∧ item.2 = key)
  verifiedStaticKeys := worker.verifiedStaticKeys.filter fun item => item.1.1 ≠ key

/-- `evict_stale_static_verifications` -/
def Worker.evictStaleStaticVerifications (worker : Worker V) (key : CacheKey) : Worker V :=
  { worker with
    verifiedStaticKeys := worker.verifiedStaticKeys.filter fun item =>
      ¬ (item.1.1.datasetId = key.datasetId ∧ item.1.1 ≠ key) }

/-- `reusable_static_snapshot`, of a relation with a cache hint -/
def Worker.reusableStaticSnapshot (worker : Worker V) (snapshots : Snapshots V)
    (relation : PlanRelation) (binding : StaticBinding) (key : CacheKey) : Frame V × Worker V :=
  match worker.staticFrameCache.lookup key with
  | some cached => (cached, worker)
  | none =>
      let worker :=
        match worker.staticFrameKeyByDataset.lookup key.datasetId with
        | some previous => if previous ≠ key then worker.evictStaticSnapshot previous else worker
        | none => worker
      let frame := snapshots.read relation binding
      (frame, { worker with
        staticFrameCache := (key, frame) :: worker.staticFrameCache
        staticFrameKeyByDataset := (key.datasetId, key) ::
          worker.staticFrameKeyByDataset.filter fun item => item.1 ≠ key.datasetId })

/-! ## `verify_static_key_uniqueness` -/

/-- `unique_keys`: the key columns of the joins of a relation -/
def Plan.uniqueKeys (plan : Plan) (relation : PlanRelation) : List String :=
  (((plan.joinsOf cf relation).flatMap PlanJoin.keys).map JoinKey.rightColumn).filter (· ≠ "")
    |>.eraseDups

def Plan.verificationKey (plan : Plan) (relation : PlanRelation) (key : CacheKey) :
    VerificationKey :=
  (key, (plan.uniqueKeys cf relation).map cf.normalizeIdentifier)

/-- No two rows of the frame have one key. -/
def Frame.UniqueOn (frame : Frame V) (columns : List String) : Prop :=
  (frame.rows.map (keyTuple cf columns)).Nodup

instance (frame : Frame V) (columns : List String) : Decidable (frame.UniqueOn cf columns) :=
  inferInstanceAs (Decidable (List.Nodup _))

def Worker.remembers (worker : Worker V) (key : VerificationKey) : Prop :=
  key ∈ worker.verifiedStaticKeys.map Prod.fst

instance (worker : Worker V) (key : VerificationKey) : Decidable (worker.remembers key) :=
  inferInstanceAs (Decidable (_ ∈ _))

def verifyStaticKeyUniqueness (plan : Plan) (worker : Worker V) (frame : Frame V)
    (relation : PlanRelation) (binding : StaticBinding) : Except String Unit × Worker V :=
  let uniqueKeys := plan.uniqueKeys cf relation
  if uniqueKeys = [] then (.error "CONTINUOUS_SQL_STATIC_KEY_MISSING", worker)
  else
    match staticSnapshotCacheKey relation binding with
    | .error e => (.error e, worker)
    | .ok key =>
        let worker := worker.evictStaleStaticVerifications key
        let verification := plan.verificationKey cf relation key
        if worker.remembers verification then (.ok (), worker)
        else if frame.UniqueOn cf uniqueKeys then
          (.ok (), { worker with
            verifiedStaticKeys := (verification, frame) :: worker.verifiedStaticKeys })
        else (.error "CONTINUOUS_SQL_STATIC_KEY_DUPLICATE", worker)

/-! ## The join chain -/

/-- What is joined so far: the row of each alias, or none where a LEFT join found none. -/
abbrev Joining (V : Type) := List (List Char × Option (Row V))

def Joining.value (e : Joining V) (aliasName : List Char) (column : String) : Option V :=
  match e.lookup aliasName with
  | some (some row) => Row.cell cf row column
  | _ => none

/-- The ON clause of a join. -/
def PlanJoin.accepts (join : PlanJoin) (e : Joining V) (row : Row V) : Bool :=
  join.keys.all fun key =>
    sqlEq (Joining.value cf e (cf.normalizeIdentifier key.leftAlias) key.leftColumn)
      (Row.cell cf row key.rightColumn)

/-- A join of the plan over the frames of its relations. -/
def Plan.joined (plan : Plan) (frames : PlanRelation → List (Row V)) (join : PlanJoin) :
    Joined (Joining V) (Row V) where
  type := join.type
  accepts := join.accepts cf
  extend := fun e row => e ++ [(cf.normalizeIdentifier join.rightAlias, row)]
  frame := ((plan.relations.find? fun item =>
    decide (item.aliasName = join.rightAlias)).map frames).getD []

/-- The binding that the chain starts from, for a row of the batch. -/
def Plan.first (plan : Plan) (row : Row V) : Joining V :=
  [((plan.streamingAliases cf).head?.getD [], some row)]

/-- The FROM clause of the compiled query. -/
def Plan.chain (plan : Plan) (frames : PlanRelation → List (Row V)) (row : Row V) :
    List (Joining V) :=
  joinChain (plan.joins.map (plan.joined cf frames)) (plan.first cf row)

def Plan.result (plan : Plan) (frames : PlanRelation → List (Row V)) (stream : Frame V) :
    List (Joining V) :=
  stream.rows.flatMap (plan.chain cf frames)

/-! ## `execute_continuous_sql_batch` -/

/-- The temporary views, the latest first. -/
abbrev Views (V : Type) := List (String × Frame V)

/-- The rows that a relation of the query reads. -/
def Views.rowsOf (views : Views V) (relation : PlanRelation) : List (Row V) :=
  (views.lookup relation.runtimeView).elim [] Frame.rows

/-- The loop over the relations; an error ends it. -/
structure Registering (V : Type) where
  worker : Worker V
  views : Views V := []
  error : Option String := none

/-- The frame of a static relation, with what the worker keeps of it. -/
def staticFrame (snapshots : Snapshots V) (plan : Plan) (worker : Worker V) (stream : Frame V)
    (relation : PlanRelation) (binding : StaticBinding) :
    Except String (Frame V) × Worker V :=
  if relation.cacheHint then
    match staticSnapshotCacheKey relation binding with
    | .error e => (.error e, worker)
    | .ok key =>
        let (frame, worker) := worker.reusableStaticSnapshot snapshots relation binding key
        (.ok frame, worker)
  else (prunedStaticSnapshot cf snapshots plan stream relation binding, worker)

def registerStatic (snapshots : Snapshots V) (plan : Plan) (batch : MicroBatch V)
    (s : Registering V) (relation : PlanRelation) : Registering V :=
  match batch.binding relation with
  | none => { s with error := some "CONTINUOUS_SQL_STATIC_BINDING_MISSING" }
  | some binding =>
      match staticFrame cf snapshots plan s.worker batch.stream relation binding with
      | (.error e, worker) => { s with worker := worker, error := some e }
      | (.ok frame, worker) =>
          match validateFrameSchema cf frame relation with
          | .error e => { s with worker := worker, error := some e }
          | .ok () =>
              match verifyStaticKeyUniqueness cf plan worker frame relation binding with
              | (.error e, worker) => { s with worker := worker, error := some e }
              | (.ok (), worker) =>
                  { s with worker := worker, views := (relation.runtimeView, frame) :: s.views }

def registerRelation (snapshots : Snapshots V) (plan : Plan) (batch : MicroBatch V)
    (s : Registering V) (relation : PlanRelation) : Registering V :=
  if s.error.isSome then s
  else if relation.runtimeView = "" then
    { s with error := some "CONTINUOUS_SQL_RUNTIME_VIEW_INVALID" }
  else if relation.mode = .streaming then
    match validateFrameSchema cf batch.stream relation with
    | .error e => { s with error := some e }
    | .ok () => { s with views := (relation.runtimeView, batch.stream) :: s.views }
  else registerStatic cf snapshots plan batch s relation

def registered (snapshots : Snapshots V) (plan : Plan) (worker : Worker V)
    (batch : MicroBatch V) : Registering V :=
  play (registerRelation cf snapshots plan batch) { worker := worker } plan.relations

/-- The joined rows of the batch, with the memory of the worker after it. -/
def executeContinuousSqlBatch (snapshots : Snapshots V) (plan : Plan) (worker : Worker V)
    (batch : MicroBatch V) : Except String (List (Joining V)) × Worker V :=
  let s := registered cf snapshots plan worker batch
  match s.error with
  | some e => (.error e, s.worker)
  | none => (.ok (plan.result cf s.views.rowsOf batch.stream), s.worker)

end

end AskLake.StaticJoins

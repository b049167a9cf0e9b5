/-
# `AskLake.StaticJoins.Plan` — how the planner compiles joins

A continuous query joins one streaming relation, its left input, with static relations.  The
planner takes the parsed query to a plan:

    relations   the relations in the order of the query, each with an alias of its own and with
                the view that the worker registers for it
    joins       for each static relation the pairs of columns that its ON predicate compares

A view is named after the Catalog relation, so two aliases of one relation share it.  What the
rest of the development needs of a plan is `Plan.WellFormed`, which every compiled plan is.

Names are compared without quotes, spaces and case.  `CaseFolding` is `str.casefold`, letter by
letter; a fold neither makes nor removes a space.
-/
import Std.Data.String.ToInt
import AskLake.Lib.JoinChain
import AskLake.Lib.Outcome
import AskLake.Python.Basic

namespace AskLake.StaticJoins

open AskLake.Lib AskLake.Python

/-! ## Identifiers -/

theorem lawfulBEq_name : LawfulBEq (List Char) := inferInstance

attribute [local instance] lawfulBEq_name

structure CaseFolding where
  fold : Char → List Char
  space : ∀ c, isSpace c = true → fold c = [c]
  letter : ∀ c, isSpace c = false → ∀ d ∈ fold c, isSpace d = false

namespace CaseFolding

variable (cf : CaseFolding)

/-- `str.casefold` -/
def casefold (cs : List Char) : List Char := cs.flatMap cf.fold

def isQuote (c : Char) : Bool := c = '"' || c = '`'

/-- ``value.strip().strip('"`')`` -/
def unquote (name : String) : List Char :=
  ((stripChars name.toList).dropWhile isQuote).rdropWhile isQuote

/-- `normalize_identifier` of the planner, which drops the spaces inside as well -/
def plannerIdentifier (name : String) : List Char :=
  cf.casefold ((unquote name).filter fun c => !isSpace c)

/-- `normalize_identifier` of the worker -/
def normalizeIdentifier (name : String) : List Char :=
  cf.casefold (unquote name)

theorem casefold_filter (cs : List Char) :
    cf.casefold (cs.filter fun c => !isSpace c) = (cf.casefold cs).filter fun c => !isSpace c := by
  induction cs with
  | nil => rfl
  | cons c cs ih =>
      unfold casefold at ih ⊢
      rw [List.flatMap_cons, List.filter_append, ← ih]
      cases hc : isSpace c with
      | true =>
          rw [List.filter_cons_of_neg (by simp [hc]), cf.space c hc]
          simp [hc]
      | false =>
          have hfold : (cf.fold c).filter (fun c => !isSpace c) = cf.fold c :=
            List.filter_eq_self.mpr fun d hd => by simp [cf.letter c hc d hd]
          rw [List.filter_cons_of_pos (by simp [hc]), List.flatMap_cons, hfold]

/-- Names that are one for the worker are one for the planner. -/
theorem plannerIdentifier_congr {a b : String}
    (h : cf.normalizeIdentifier a = cf.normalizeIdentifier b) :
    cf.plannerIdentifier a = cf.plannerIdentifier b := by
  unfold normalizeIdentifier at h
  unfold plannerIdentifier
  rw [casefold_filter, casefold_filter, h]

end CaseFolding

/-! ## The Catalog and the query -/

inductive Mode
  | streaming
  | static
  deriving DecidableEq

/-- `CatalogRelation`, as far as joins depend on it. -/
structure CatalogRelation where
  datasetId : String
  mode : Mode
  /-- columns with their types; `normalize_schema` keeps no blank name -/
  schema : List (Text × String)
  schemaFingerprint : String
  uniqueKeySets : List (List String)
  estimatedRowCount : Option Int := none
  deriving DecidableEq

/-- `_BoundRelation`; `order` in its view is the place of the relation in the Catalog context. -/
structure BoundRelation where
  aliasName : String
  relation : CatalogRelation
  runtimeView : String

/-- An expression of an ON clause. -/
inductive SqlExpr
  | column (table : Option String) (name : String)
  | eq (first second : SqlExpr)
  | and (first second : SqlExpr)
  | other

/-- A JOIN of the parsed query: its words, its relation, and its predicate. -/
structure JoinClause where
  side : String := ""
  kind : String := ""
  method : String := ""
  aliasName : String
  relation : CatalogRelation
  isUsing : Bool := false
  onClause : Option SqlExpr

structure ParsedQuery where
  aliasName : String
  relation : CatalogRelation
  joins : List JoinClause

/-- `ContinuousSqlValidationError` -/
structure ValidationError where
  code : String
  message : String
  deriving DecidableEq

/-! ## Plans -/

structure JoinKey where
  leftAlias : String
  leftColumn : String
  rightAlias : String
  rightColumn : String
  deriving DecidableEq

structure PlanJoin where
  type : JoinType
  rightAlias : String
  keys : List JoinKey
  deriving DecidableEq

/-- `relation_binding_payload` -/
structure PlanRelation where
  aliasName : String
  runtimeView : String
  datasetId : String
  mode : Mode
  schema : List (String × String)
  schemaFingerprint : String
  referencedColumns : List String := []
  cacheHint : Bool
  deriving DecidableEq

structure Plan where
  relations : List PlanRelation
  joins : List PlanJoin
  staticPruningMaxKeys : Nat
  deriving DecidableEq

/-! ## The compiler -/

namespace CaseFolding

variable (cf : CaseFolding)

/-- `normalize_type` of the planner -/
def plannerType (value : String) : String :=
  let normalized := String.ofList
    (cf.casefold ((if value = "" then "string" else value).toList.filter fun c => !isSpace c))
  if "varchar(".toList.isPrefixOf normalized.toList || "char(".toList.isPrefixOf normalized.toList
  then "string"
  else if "decimal(".toList.isPrefixOf normalized.toList then "decimal"
  else
    match normalized with
    | "int" | "int32" => "integer"
    | "int64" | "long" => "bigint"
    | "float" | "float32" | "float64" => "double"
    | "bool" => "boolean"
    | "varchar" | "text" => "string"
    | "datetime" => "timestamp"
    | other => other

/-- `compatible_join_types` -/
def compatibleJoinTypes (left right : String) : Bool :=
  let numeric := ["tinyint", "smallint", "integer", "bigint", "real", "double", "decimal",
    "numeric"]
  let left := cf.plannerType left
  let right := cf.plannerType right
  left = right || (numeric.contains left && numeric.contains right)

/-- `relation.schema_by_name.get(name)`; of two columns of one name the later counts. -/
def schemaByName (relation : CatalogRelation) (name : List Char) : Option (Text × String) :=
  relation.schema.reverse.find? fun column => cf.plannerIdentifier column.1.text = name

/-- `alias_map.get(owner)` -/
def bound (aliases : List BoundRelation) (owner : List Char) : Option BoundRelation :=
  aliases.find? fun item => cf.plannerIdentifier item.aliasName = owner

end CaseFolding

/-- `normalize_join_type`, of words in upper case -/
def normalizeJoinType (join : JoinClause) : Except ValidationError JoinType :=
  let unsupported : ValidationError := ⟨"CONTINUOUS_SQL_JOIN_TYPE_UNSUPPORTED",
    "Continuous SQL V1 supports only INNER and LEFT equality JOINs."⟩
  if join.method ≠ "" ∨ join.kind = "CROSS" ∨ join.side = "RIGHT" ∨ join.side = "FULL" then
    .error unsupported
  else if join.side = "LEFT" ∧ (join.kind = "" ∨ join.kind = "OUTER") then .ok .left
  else if join.side = "" ∧ (join.kind = "" ∨ join.kind = "INNER") then .ok .inner
  else .error unsupported

/-- A column of the query, by the table it names and its own name. -/
abbrev ColumnRef := Option String × String

/-- The predicates that an ON clause combines with AND. -/
def flattenPredicates : SqlExpr → List SqlExpr
  | .and first second => flattenPredicates first ++ flattenPredicates second
  | node => [node]

/-- A predicate that compares two columns. -/
def equalityPredicate : SqlExpr → Except ValidationError (ColumnRef × ColumnRef)
  | .eq (.column table name) (.column table' name') => .ok ((table, name), (table', name'))
  | _ => .error ⟨"CONTINUOUS_SQL_JOIN_PREDICATE_UNSUPPORTED",
      "Continuous SQL JOIN predicates must be column equality keys combined with AND."⟩

/-- `equality_predicates` -/
def equalityPredicates (join : JoinClause) :
    Except ValidationError (List (ColumnRef × ColumnRef)) :=
  if join.isUsing then
    .error ⟨"CONTINUOUS_SQL_JOIN_USING_UNSUPPORTED",
      "Continuous SQL JOIN keys must use explicit equality predicates."⟩
  else
    match join.onClause with
    | none => .error ⟨"CONTINUOUS_SQL_JOIN_KEY_REQUIRED",
        "Continuous SQL JOIN requires an ON equality key."⟩
    | some predicate => (flattenPredicates predicate).mapM equalityPredicate

section
variable (cf : CaseFolding) (aliases : List BoundRelation)

/-- `resolve_column`: the relation of a column, its name there, and its type -/
def resolveColumn (column : ColumnRef) : Except ValidationError (BoundRelation × Text × String) :=
  let name := cf.plannerIdentifier column.2
  if strip column.2 = "" then
    .error ⟨"CONTINUOUS_SQL_COLUMN_UNKNOWN", "SQL column could not be resolved."⟩
  else
    match column.1 with
    | some table => do
        let bound ← orReject (cf.bound aliases (cf.plannerIdentifier table))
          ⟨"CONTINUOUS_SQL_ALIAS_UNKNOWN", "SQL column references an unknown relation alias."⟩
        let (found, type) ← orReject (cf.schemaByName bound.relation name)
          ⟨"CONTINUOUS_SQL_COLUMN_UNKNOWN", "SQL column is not present in the Catalog schema."⟩
        pure (bound, found, type)
    | none =>
        let candidates := aliases.filterMap fun bound =>
          (cf.schemaByName bound.relation name).map fun item => (bound, item.1, item.2)
        match candidates with
        | [candidate] => .ok candidate
        | _ => .error ⟨if candidates = [] then "CONTINUOUS_SQL_COLUMN_UNKNOWN"
            else "CONTINUOUS_SQL_COLUMN_AMBIGUOUS",
            "Unqualified SQL column must resolve to exactly one relation."⟩

/-- The relation is one of these. -/
def ownedBy (owners : List BoundRelation) (item : BoundRelation) : Prop :=
  cf.plannerIdentifier item.aliasName ∈ owners.map fun owner => cf.plannerIdentifier owner.aliasName

instance (owners : List BoundRelation) (item : BoundRelation) :
    Decidable (ownedBy cf owners item) :=
  inferInstanceAs (Decidable (_ ∈ _))

/-- `orient_join_key`, with the pass of the loop that compiles the key -/
def compileKey (left : List BoundRelation) (right : BoundRelation)
    (predicate : ColumnRef × ColumnRef) : Except ValidationError JoinKey := do
  let first ← resolveColumn cf aliases predicate.1
  let second ← resolveColumn cf aliases predicate.2
  let (leftKey, rightKey) ←
    orReject
      (if ownedBy cf left first.1 ∧ ownedBy cf [right] second.1 then some (first, second)
        else if ownedBy cf left second.1 ∧ ownedBy cf [right] first.1 then some (second, first)
        else none)
      ⟨"CONTINUOUS_SQL_JOIN_KEY_ORIENTATION_INVALID",
        "JOIN keys must connect the accumulated left input to the current static relation."⟩
  rejectIf (cf.compatibleJoinTypes leftKey.2.2 rightKey.2.2 = false)
    ⟨"CONTINUOUS_SQL_JOIN_KEY_TYPE_MISMATCH", "JOIN equality key types are incompatible."⟩
  pure ⟨leftKey.1.aliasName, leftKey.2.1.text, right.aliasName, rightKey.2.1.text⟩

/-- `require_unique_static_key` -/
def requireUniqueStaticKey (right : BoundRelation) (keys : List JoinKey) :
    Except ValidationError Unit :=
  let keySet := keys.map fun key => cf.plannerIdentifier key.rightColumn
  rejectIf (¬ ∃ uniqueSet ∈ right.relation.uniqueKeySets,
      ∀ column ∈ uniqueSet, column.toList ∈ keySet)
    ⟨"CONTINUOUS_SQL_STATIC_KEY_NOT_UNIQUE",
      "Static JOIN keys must have Catalog uniqueness evidence."⟩

/-- The pass of `_compile_joins` for one join; `left` are the relations before it. -/
def compileJoin (left : List BoundRelation) (join : JoinClause) (right : BoundRelation) :
    Except ValidationError PlanJoin := do
  rejectIf (right.relation.mode ≠ .static)
    ⟨"CONTINUOUS_SQL_STREAM_STREAM_JOIN_UNSUPPORTED",
      "Stream-stream JOIN is not supported in Continuous SQL V1."⟩
  let type ← normalizeJoinType join
  let predicates ← equalityPredicates join
  let keys ← predicates.mapM (compileKey cf aliases left right)
  requireUniqueStaticKey cf right keys
  pure ⟨type, right.aliasName, keys⟩

/-- `_compile_joins` -/
def compileJoins : List BoundRelation → List (JoinClause × BoundRelation) →
    Except ValidationError (List PlanJoin)
  | _, [] => .ok []
  | left, (join, right) :: rest => do
      let compiled ← compileJoin cf aliases left join right
      let joins ← compileJoins (left ++ [right]) rest
      pure (compiled :: joins)

/-- `bind_table`, of a table whose relation is known to the Catalog context -/
def bindTable (order : List CatalogRelation) (aliasName : String) (relation : CatalogRelation) :
    Except ValidationError BoundRelation :=
  if relation ∈ order then
    .ok ⟨aliasName, relation, s!"__asklake_relation_{order.idxOf relation}"⟩
  else .error ⟨"CONTINUOUS_SQL_RELATION_UNKNOWN",
    "SQL relation is not present in the authorized Catalog context."⟩

/-- `_bind_relations`: every relation has an alias of its own. -/
def bindRelations (order : List CatalogRelation) (query : ParsedQuery) :
    Except ValidationError (List BoundRelation) := do
  let base ← bindTable order query.aliasName query.relation
  rejectIf (query.joins = [])
    ⟨"CONTINUOUS_SQL_STATIC_RELATION_REQUIRED",
      "Continuous SQL requires at least one static JOIN relation."⟩
  let joined ← query.joins.mapM fun join => bindTable order join.aliasName join.relation
  rejectIf (¬ ((base :: joined).map fun item => cf.plannerIdentifier item.aliasName).Nodup)
    ⟨"CONTINUOUS_SQL_ALIAS_AMBIGUOUS",
      "Every Continuous SQL relation must use a distinct alias."⟩
  pure (base :: joined)

/-- `_validate_relation_modes` -/
def validateRelationModes (bound : List BoundRelation) : Except ValidationError Unit := do
  rejectIf ((bound.filter fun item => item.relation.mode = .streaming).length ≠ 1)
    ⟨"CONTINUOUS_SQL_STREAM_COUNT_INVALID",
      "Continuous SQL V1 requires exactly one streaming relation."⟩
  rejectIf ((bound.filter fun item => item.relation.mode = .static) = [])
    ⟨"CONTINUOUS_SQL_STATIC_RELATION_REQUIRED",
      "Continuous SQL V1 requires at least one static relation."⟩
  rejectIf ((bound.head?.map fun item => item.relation.mode) ≠ some .streaming)
    ⟨"CONTINUOUS_SQL_STREAM_MUST_BE_LEFT",
      "The streaming relation must be the logical left input."⟩

end

/-- What a plan is compiled for. -/
structure PlannerSettings where
  staticCacheMaxRows : Int
  staticPruningMaxKeys : Int
  /-- the columns that the query refers to, by alias -/
  referencedColumns : String → List String := fun _ => []

/-- `relation_binding_payload` -/
def relationBindingPayload (settings : PlannerSettings) (bound : BoundRelation) : PlanRelation where
  aliasName := bound.aliasName
  runtimeView := bound.runtimeView
  datasetId := bound.relation.datasetId
  mode := bound.relation.mode
  schema := bound.relation.schema.map fun column => (column.1.text, column.2)
  schemaFingerprint := bound.relation.schemaFingerprint
  referencedColumns := settings.referencedColumns bound.aliasName
  cacheHint := bound.relation.mode = .static ∧ 0 < max 0 settings.staticCacheMaxRows ∧
    bound.relation.estimatedRowCount.any fun rows => rows ≤ max 0 settings.staticCacheMaxRows

/-- `ContinuousSqlPlanner.compile`, of the parsed query -/
def compile (cf : CaseFolding) (settings : PlannerSettings) (order : List CatalogRelation)
    (query : ParsedQuery) : Except ValidationError Plan := do
  let bound ← bindRelations cf order query
  validateRelationModes bound
  let joins ← compileJoins cf bound (bound.take 1) (query.joins.zip (bound.drop 1))
  pure {
    relations := bound.map (relationBindingPayload settings)
    joins := joins
    staticPruningMaxKeys := (max 1 settings.staticPruningMaxKeys).toNat }

/-! ## What every plan has -/

/-- The streaming relation comes first, every join has its relation, and relations with one
view are of one dataset. -/
structure Plan.WellFormed (cf : CaseFolding) (plan : Plan) : Prop where
  stream : ∃ base statics, plan.relations = base :: statics ∧ base.mode = .streaming ∧
    ∀ relation ∈ statics, relation.mode = .static
  aliases : (plan.relations.map fun item => cf.normalizeIdentifier item.aliasName).Nodup
  joins : (plan.joins.map fun join => cf.normalizeIdentifier join.rightAlias).Nodup
  bound : ∀ join ∈ plan.joins, ∃ relation ∈ plan.relations,
    relation.mode = .static ∧ relation.aliasName = join.rightAlias
  columns : ∀ join ∈ plan.joins, ∀ key ∈ join.keys,
    strip key.leftColumn ≠ "" ∧ strip key.rightColumn ≠ ""
  views : ∀ relation ∈ plan.relations, ∀ other ∈ plan.relations,
    relation.runtimeView = other.runtimeView → relation.datasetId = other.datasetId

theorem compileJoin_rightAlias {cf : CaseFolding} {aliases left : List BoundRelation}
    {join : JoinClause} {right : BoundRelation} {compiled : PlanJoin}
    (h : compileJoin cf aliases left join right = .ok compiled) :
    compiled.rightAlias = right.aliasName ∧ right.relation.mode = .static := by
  obtain ⟨_, hmode, h⟩ := bind_eq_ok.mp h
  obtain ⟨type, -, h⟩ := bind_eq_ok.mp h
  obtain ⟨predicates, -, h⟩ := bind_eq_ok.mp h
  obtain ⟨keys, -, h⟩ := bind_eq_ok.mp h
  obtain ⟨_, -, h⟩ := bind_eq_ok.mp h
  cases pure_eq_ok.mp h
  exact ⟨rfl, not_not.mp (rejectIf_eq_ok.mp hmode)⟩

/-- The joins are those of the relations, in their order. -/
theorem compileJoins_rightAliases {cf : CaseFolding} {aliases left : List BoundRelation}
    {clauses : List (JoinClause × BoundRelation)} {joins : List PlanJoin}
    (h : compileJoins cf aliases left clauses = .ok joins) :
    joins.map PlanJoin.rightAlias = clauses.map fun clause => clause.2.aliasName := by
  induction clauses generalizing left joins with
  | nil =>
      cases h
      rfl
  | cons clause rest ih =>
      obtain ⟨compiled, hcompiled, h⟩ := bind_eq_ok.mp h
      obtain ⟨others, hothers, h⟩ := bind_eq_ok.mp h
      cases pure_eq_ok.mp h
      rw [List.map_cons, List.map_cons, (compileJoin_rightAlias hcompiled).1, ih hothers]

theorem compileJoins_static {cf : CaseFolding} {aliases left : List BoundRelation}
    {clauses : List (JoinClause × BoundRelation)} {joins : List PlanJoin}
    (h : compileJoins cf aliases left clauses = .ok joins) :
    ∀ clause ∈ clauses, clause.2.relation.mode = .static := by
  induction clauses generalizing left joins with
  | nil => exact fun _ hclause => nomatch hclause
  | cons clause rest ih =>
      obtain ⟨compiled, hcompiled, h⟩ := bind_eq_ok.mp h
      obtain ⟨others, hothers, -⟩ := bind_eq_ok.mp h
      intro other hother
      rcases List.mem_cons.mp hother with rfl | hother
      · exact (compileJoin_rightAlias hcompiled).2
      · exact ih hothers other hother

theorem strip_text_ne_empty (text : Text) : strip text.text ≠ "" := by
  rw [text.stripped]
  exact text.nonempty

/-- The columns of a key are columns of the schema. -/
theorem compileKey_columns {cf : CaseFolding} {aliases left : List BoundRelation}
    {right : BoundRelation} {predicate : ColumnRef × ColumnRef} {key : JoinKey}
    (h : compileKey cf aliases left right predicate = .ok key) :
    strip key.leftColumn ≠ "" ∧ strip key.rightColumn ≠ "" := by
  obtain ⟨first, -, h⟩ := bind_eq_ok.mp h
  obtain ⟨second, -, h⟩ := bind_eq_ok.mp h
  obtain ⟨keys, -, h⟩ := bind_eq_ok.mp h
  obtain ⟨_, -, h⟩ := bind_eq_ok.mp h
  cases pure_eq_ok.mp h
  exact ⟨strip_text_ne_empty _, strip_text_ne_empty _⟩

theorem compileJoin_columns {cf : CaseFolding} {aliases left : List BoundRelation}
    {join : JoinClause} {right : BoundRelation} {compiled : PlanJoin}
    (h : compileJoin cf aliases left join right = .ok compiled) :
    ∀ key ∈ compiled.keys, strip key.leftColumn ≠ "" ∧ strip key.rightColumn ≠ "" := by
  obtain ⟨_, -, h⟩ := bind_eq_ok.mp h
  obtain ⟨type, -, h⟩ := bind_eq_ok.mp h
  obtain ⟨predicates, -, h⟩ := bind_eq_ok.mp h
  obtain ⟨keys, hkeys, h⟩ := bind_eq_ok.mp h
  obtain ⟨_, -, h⟩ := bind_eq_ok.mp h
  cases pure_eq_ok.mp h
  intro key hkey
  obtain ⟨predicate, -, hcompiled⟩ := exists_left_of_mem (mapM_eq_ok.mp hkeys) hkey
  exact compileKey_columns hcompiled

theorem compileJoins_columns {cf : CaseFolding} {aliases left : List BoundRelation}
    {clauses : List (JoinClause × BoundRelation)} {joins : List PlanJoin}
    (h : compileJoins cf aliases left clauses = .ok joins) : ∀ join ∈ joins, ∀ key ∈ join.keys,
      strip key.leftColumn ≠ "" ∧ strip key.rightColumn ≠ "" := by
  induction clauses generalizing left joins with
  | nil =>
      cases h
      exact fun _ hjoin => nomatch hjoin
  | cons clause rest ih =>
      obtain ⟨compiled, hcompiled, h⟩ := bind_eq_ok.mp h
      obtain ⟨others, hothers, h⟩ := bind_eq_ok.mp h
      cases pure_eq_ok.mp h
      intro join hjoin
      rcases List.mem_cons.mp hjoin with rfl | hjoin
      · exact compileJoin_columns hcompiled
      · exact ih hothers join hjoin

theorem bindTable_eq_ok {order : List CatalogRelation} {aliasName : String}
    {relation : CatalogRelation} {bound : BoundRelation}
    (h : bindTable order aliasName relation = .ok bound) : bound.relation ∈ order ∧
      bound.runtimeView = s!"__asklake_relation_{order.idxOf bound.relation}" := by
  unfold bindTable at h
  split at h
  · rename_i hmem
    cases h
    exact ⟨hmem, rfl⟩
  · exact nomatch h

/-- A view names its relation. -/
theorem relation_of_view {order : List CatalogRelation} {a b : BoundRelation}
    (ha : a.relation ∈ order)
    (hviewA : a.runtimeView = s!"__asklake_relation_{order.idxOf a.relation}")
    (hviewB : b.runtimeView = s!"__asklake_relation_{order.idxOf b.relation}")
    (h : a.runtimeView = b.runtimeView) : a.relation = b.relation := by
  rw [hviewA, hviewB] at h
  have hidx : order.idxOf a.relation = order.idxOf b.relation := by
    simpa [toString] using h
  exact (List.idxOf_inj ha).mp hidx

/-- What `_bind_relations` lets through. -/
theorem bindRelations_eq_ok {cf : CaseFolding} {order : List CatalogRelation} {query : ParsedQuery}
    {bound : List BoundRelation} (h : bindRelations cf order query = .ok bound) :
    (∃ base joined, bound = base :: joined ∧ query.joins.length = joined.length) ∧
      (bound.map fun item => cf.plannerIdentifier item.aliasName).Nodup ∧
      ∀ item ∈ bound, item.relation ∈ order ∧
        item.runtimeView = s!"__asklake_relation_{order.idxOf item.relation}" := by
  obtain ⟨base, hbase, h⟩ := bind_eq_ok.mp h
  obtain ⟨_, -, h⟩ := bind_eq_ok.mp h
  obtain ⟨joined, hjoined, h⟩ := bind_eq_ok.mp h
  obtain ⟨_, hdistinct, h⟩ := bind_eq_ok.mp h
  cases pure_eq_ok.mp h
  have hitems := mapM_eq_ok.mp hjoined
  refine ⟨⟨base, joined, rfl, hitems.length_eq⟩, not_not.mp (rejectIf_eq_ok.mp hdistinct), ?_⟩
  intro item hitem
  rcases List.mem_cons.mp hitem with rfl | hitem
  · exact bindTable_eq_ok hbase
  · obtain ⟨clause, -, hclause⟩ := exists_left_of_mem hitems hitem
    exact bindTable_eq_ok hclause

/-- Names that are all different for the planner are so for the worker. -/
theorem nodup_normalizeIdentifier {cf : CaseFolding} {ι : Type} {name : ι → String}
    {items : List ι} (h : (items.map fun item => cf.plannerIdentifier (name item)).Nodup) :
    (items.map fun item => cf.normalizeIdentifier (name item)).Nodup := by
  refine List.Pairwise.map _ (fun a b hne => ?_) (List.pairwise_map.mp h)
  exact fun heq => hne (cf.plannerIdentifier_congr heq)

/-- Every plan of the planner is well formed. -/
theorem compile_wellFormed {cf : CaseFolding} {settings : PlannerSettings}
    {order : List CatalogRelation} {query : ParsedQuery} {plan : Plan}
    (h : compile cf settings order query = .ok plan) : plan.WellFormed cf := by
  obtain ⟨bound, hbound, h⟩ := bind_eq_ok.mp h
  obtain ⟨_, hmodes, h⟩ := bind_eq_ok.mp h
  obtain ⟨joins, hjoins, h⟩ := bind_eq_ok.mp h
  cases pure_eq_ok.mp h
  obtain ⟨⟨base, joined, rfl, hlength⟩, hdistinct, hviews⟩ := bindRelations_eq_ok hbound
  have hzip : (query.joins.zip joined).map Prod.snd = joined := List.map_snd_zip (by omega)
  have hrights : joins.map PlanJoin.rightAlias = joined.map BoundRelation.aliasName := by
    rw [compileJoins_rightAliases hjoins]
    conv_rhs => rw [← hzip, List.map_map]
    rfl
  have hstatic : ∀ item ∈ joined, item.relation.mode = .static := by
    intro item hitem
    rw [← hzip] at hitem
    obtain ⟨clause, hclause, rfl⟩ := List.mem_map.mp hitem
    exact compileJoins_static hjoins clause hclause
  have hbase : base.relation.mode = .streaming := by
    obtain ⟨_, -, hmodes⟩ := bind_eq_ok.mp hmodes
    obtain ⟨_, -, hmodes⟩ := bind_eq_ok.mp hmodes
    simpa using rejectIf_eq_ok.mp hmodes
  have haliases : ((base :: joined).map fun item =>
      cf.normalizeIdentifier item.aliasName).Nodup := nodup_normalizeIdentifier hdistinct
  refine ⟨⟨_, _, rfl, hbase, ?_⟩, ?_, ?_, ?_, compileJoins_columns hjoins, ?_⟩
  · intro relation hrelation
    obtain ⟨item, hitem, rfl⟩ := List.mem_map.mp hrelation
    exact hstatic item hitem
  · rw [List.map_map]
    exact haliases
  · have hnames : joins.map (fun join => cf.normalizeIdentifier join.rightAlias) =
        joined.map fun item => cf.normalizeIdentifier item.aliasName := by
      rw [← Function.comp_def cf.normalizeIdentifier, ← List.map_map, hrights, List.map_map]
      rfl
    rw [hnames]
    exact (List.nodup_cons.mp haliases).2
  · intro join hjoin
    have hmem : join.rightAlias ∈ joined.map BoundRelation.aliasName :=
      hrights ▸ List.mem_map_of_mem hjoin
    obtain ⟨item, hitem, hname⟩ := List.mem_map.mp hmem
    exact ⟨relationBindingPayload settings item,
      List.mem_map_of_mem (List.mem_cons_of_mem _ hitem), hstatic item hitem, hname⟩
  · intro relation hrelation other hother hview
    obtain ⟨a, ha, rfl⟩ := List.mem_map.mp hrelation
    obtain ⟨b, hb, rfl⟩ := List.mem_map.mp hother
    have hrelation := relation_of_view (hviews a ha).1 (hviews a ha).2 (hviews b hb).2 hview
    exact congrArg CatalogRelation.datasetId hrelation

end AskLake.StaticJoins

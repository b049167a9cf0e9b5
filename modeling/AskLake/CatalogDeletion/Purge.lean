/-
# `AskLake.CatalogDeletion.Purge` — what a Dataset deletion removes

The deletion impact lists the artifacts a Catalog payload names; the purger removes them one
after the other and stops at the first it refuses.  What it removes for a storage location is
not the location but a folder on the way to it:

    s3://lake/gold/orders/run_1   name "orders"      removes  s3://lake/gold/orders/…
    s3://lake/gold/orders/run_1   name "gold"        removes  s3://lake/gold/…
    /lake/gold/orders/gold/f      name "gold"        removes  /lake/gold/orders/gold/…

On S3 it is the first segment that is the Dataset's name or id, on the local file system the
last.  Names are compared without case, and `dataset_id=` may stand before them.
-/
import AskLake.Python.Url

namespace AskLake.CatalogDeletion

open AskLake.Python

/-- The settings and the standard-library calls that the code depends on. -/
structure Settings where
  /-- `str.casefold` -/
  casefold : Chars → Chars
  trinoCatalog : Chars
  trinoSchema : Chars
  clickhouseDatabase : Chars
  outputBucket : Chars
  /-- `storage_root.resolve()`, by its folders -/
  storageRoot : List Chars
  /-- `Path(location).resolve()`, by its folders; none where it raises -/
  resolve : Chars → Option (List Chars)

/-! ## The Catalog payload -/

/-- `queryEngineTable`; a missing text is empty. -/
structure QueryEngineTable where
  catalog : Chars
  schema : Chars
  table : Chars
  format : Chars
  deriving DecidableEq

structure ClickhouseTable where
  database : Chars
  table : Chars
  deriving DecidableEq

structure MaterializationRun where
  queryEngineTable : Option QueryEngineTable
  storageLocation : Chars
  deriving DecidableEq

structure Dataset where
  id : Chars
  name : Chars
  queryEngineTable : Option QueryEngineTable
  clickhouseTable : Option ClickhouseTable
  storageLocation : Chars
  materializationRuns : List MaterializationRun
  deriving DecidableEq

/-! ## The artifacts -/

inductive Artifact
  | icebergTable (location : Chars)
  | clickhouseTable (location : Chars)
  | storage (location : Chars)
  deriving DecidableEq

def iceberg : Chars := "iceberg".toList

/-- `".".join(str(table.get(key) or "") for key in ("catalog", "schema", "table"))` -/
def QueryEngineTable.location (table : QueryEngineTable) : Chars :=
  table.catalog ++ '.' :: (table.schema ++ '.' :: table.table)

def ClickhouseTable.location (table : ClickhouseTable) : Chars :=
  table.database ++ '.' :: table.table

def storageArtifact (location : Chars) : List Artifact :=
  if location = [] then [] else [.storage location]

def queryTableArtifact (dataset : Dataset) : List Artifact :=
  match dataset.queryEngineTable with
  | some table => if table.table = [] then [] else [.icebergTable table.location]
  | none => []

def clickhouseArtifact (dataset : Dataset) : List Artifact :=
  match dataset.clickhouseTable with
  | some table => if table.table = [] then [] else [.clickhouseTable table.location]
  | none => []

/-- An Iceberg Dataset's files are dropped with its table. -/
def ownStorageArtifact (dataset : Dataset) : List Artifact :=
  if dataset.queryEngineTable.any (·.format = iceberg) then []
  else storageArtifact dataset.storageLocation

def runArtifact (run : MaterializationRun) : List Artifact :=
  match run.queryEngineTable with
  | some table =>
      if table.format = iceberg ∧ table.table ≠ [] then [.icebergTable table.location]
      else storageArtifact run.storageLocation
  | none => storageArtifact run.storageLocation

def addDatasetArtifacts (dataset : Dataset) : List Artifact :=
  queryTableArtifact dataset ++ clickhouseArtifact dataset ++ ownStorageArtifact dataset ++
    dataset.materializationRuns.flatMap runArtifact

/-- `unique_items`: every item where it first stands -/
def uniqueItems {α : Type} [DecidableEq α] (seen : List α) : List α → List α
  | [] => []
  | item :: items =>
      if item ∈ seen then uniqueItems seen items
      else item :: uniqueItems (item :: seen) items

theorem mem_uniqueItems {α : Type} [DecidableEq α] {seen items : List α} {item : α} :
    item ∈ uniqueItems seen items ↔ item ∈ items ∧ item ∉ seen := by
  induction items generalizing seen with
  | nil => simp [uniqueItems]
  | cons first items ih =>
      unfold uniqueItems
      split
      · rename_i hseen
        rw [ih, List.mem_cons]
        constructor
        · rintro ⟨hmem, hnot⟩
          exact ⟨.inr hmem, hnot⟩
        · rintro ⟨rfl | hmem, hnot⟩
          · exact absurd hseen hnot
          · exact ⟨hmem, hnot⟩
      · rename_i hnew
        rw [List.mem_cons, ih, List.mem_cons, List.mem_cons]
        constructor
        · rintro (rfl | ⟨hmem, hnot⟩)
          · exact ⟨.inl rfl, hnew⟩
          · exact ⟨.inr hmem, fun hin => hnot (.inr hin)⟩
        · rintro ⟨hmem, hnot⟩
          by_cases heq : item = first
          · exact .inl heq
          · exact .inr ⟨hmem.resolve_left heq, fun hin => hin.elim heq hnot⟩

/-! ## Managed locations -/

def normalizeS3 (location : Chars) : Chars :=
  replaceFirst "s3a://".toList "s3://".toList location

def s3Scheme : Chars := "s3".toList

def isWindowsPath (normalized : Chars) : Bool :=
  2 ≤ normalized.length && normalized[1]? == some ':'

/-- `path.parts` of an absolute path -/
def parts (path : List Chars) : List Chars := ['/'] :: path

namespace Settings

variable (s : Settings)

/-- `is_dataset_scope_segment` -/
def isDatasetScopeSegment (value : Chars) (dataset : Dataset) : Bool :=
  let normalized := s.casefold value
  let tokens := [s.casefold dataset.id, s.casefold dataset.name]
  tokens.contains normalized ||
    (tokens.map ("dataset_id=".toList ++ ·)).contains normalized

/-- `is_managed_storage_location`; a location that cannot be parsed gets no impact at all. -/
def isManagedStorageLocation (location : Chars) (dataset : Dataset) : Bool :=
  let normalized := normalizeS3 location
  match urlparse normalized with
  | none => false
  | some parsed =>
      let tokenMatch := (segments parsed.path).any (s.isDatasetScopeSegment · dataset)
      if parsed.scheme = s3Scheme then tokenMatch && parsed.netloc = s.outputBucket
      else if parsed.scheme ≠ [] ∧ !isWindowsPath normalized then false
      else
        match s.resolve location with
        | none => false
        | some path =>
            s.storageRoot.isPrefixOf path && (parts path).any (s.isDatasetScopeSegment · dataset)

end Settings

/-! ## The impact -/

def isTableQuote (c : Char) : Bool := c = '`' || c = '"' || c = ' '

/-- ``[item.strip('`" ') for item in location.split(".") if item.strip('`" ')]`` -/
def tableParts (location : Chars) : List Chars :=
  ((location.splitOn '.').map (stripOf isTableQuote)).filter (· ≠ [])


structure Blocker where
  resourceType : String
  resourceId : Chars
  resourceName : Chars
  reason : String
  deriving DecidableEq

def storageBlocker (location : Chars) (reason : String) : Blocker :=
  { resourceType := "storage", resourceId := location, resourceName := location, reason := reason }

structure Impact where
  artifacts : List Artifact
  blockers : List Blocker

namespace Settings

variable (s : Settings)

/-- `add_artifact_ownership_blockers`, for one artifact -/
def ownershipBlockers (dataset : Dataset) : Artifact → List Blocker
  | .storage location =>
      if s.isManagedStorageLocation location dataset then []
      else [storageBlocker location "AskLake 관리 경로임을 확인할 수 없습니다."]
  | .icebergTable location =>
      match tableParts location with
      | [catalog, _, _] =>
          if catalog = s.trinoCatalog then []
          else [storageBlocker location "AskLake 관리 Iceberg catalog가 아닙니다."]
      | _ => []
  | .clickhouseTable location =>
      if stripOf isTableQuote (location.takeWhile (· ≠ '.')) = s.clickhouseDatabase then []
      else [storageBlocker location "AskLake 관리 ClickHouse database가 아닙니다."]

/-- `build_deletion_impact`; `standing` are the blockers of running workloads and of Datasets
that depend on this one. -/
def buildDeletionImpact (standing : List Blocker) (dataset : Dataset) : Impact :=
  let artifacts := addDatasetArtifacts dataset
  let blockers := standing ++ artifacts.flatMap (s.ownershipBlockers dataset)
  { artifacts := uniqueItems [] artifacts, blockers := uniqueItems [] blockers }

end Settings

/-! ## The physical stores -/

/-- What a deletion can remove. -/
inductive Item
  | object (bucket key : Chars)
  | file (path : List Chars)
  | icebergTable (catalog schema table : Chars)
  | clickhouseTable (database table : Chars)
  deriving DecidableEq

abbrev World := List Item

/-- An object whose key starts with the prefix. -/
def hasKeyPrefix (bucket key : Chars) : Item → Bool
  | .object b k => b = bucket && key.isPrefixOf k
  | _ => false

def pageSize : Nat := 1000

/-- `list_objects_v2`, its first page -/
def listObjects (bucket key : Chars) (world : World) : List Item :=
  (world.filter (hasKeyPrefix bucket key)).take pageSize

/-- `delete_objects` -/
def deleteObjects (page : List Item) (world : World) : World :=
  world.filter (· ∉ page)

theorem length_deleteObjects_lt {bucket key : Chars} {world : World}
    (hpos : 0 < (listObjects bucket key world).length) :
    (deleteObjects (listObjects bucket key world) world).length < world.length := by
  have hpage := List.getElem_mem hpos
  have hmem := List.mem_of_mem_filter (List.mem_of_mem_take hpage)
  exact List.length_filter_lt_length_iff_exists.mpr ⟨_, hmem, by simp⟩

/-- `delete_s3_prefix`: page after page is listed and deleted until a listing is not truncated.
What came before the continuation token is gone, so the next page is the front of what is left. -/
def deleteS3Prefix (bucket key : Chars) (world : World) : World :=
  let page := listObjects bucket key world
  if page.length < pageSize then deleteObjects page world
  else deleteS3Prefix bucket key (deleteObjects page world)
termination_by world.length
decreasing_by
  rename_i hfull
  have hpage : pageSize ≤ (listObjects bucket key world).length := Nat.le_of_not_lt hfull
  exact length_deleteObjects_lt (Nat.lt_of_lt_of_le (by decide) hpage)

/-- `shutil.rmtree(target) if target.is_dir() else target.unlink()` -/
def removeTree (target : List Chars) (world : World) : World :=
  world.filter fun
    | .file path => !target.isPrefixOf path
    | _ => true

/-! ## The purger -/

namespace Settings

variable (s : Settings)

/-- `managed_storage_prefix` -/
def managedStoragePrefix (key : Chars) (dataset : Dataset) : Option Chars :=
  let items := segments key
  (items.findIdx? (s.isDatasetScopeSegment · dataset)).map fun index =>
    joinSlash (items.take (index + 1)) ++ ['/']

/-- A folder that may be removed for the Dataset. -/
def isTarget (dataset : Dataset) (candidate : List Chars) : Bool :=
  candidate ≠ s.storageRoot && s.isDatasetScopeSegment (candidate.getLastD []) dataset

/-- The first such folder of `(path, *path.parents)` -/
def localTarget (path : List Chars) (dataset : Dataset) : Option (List Chars) :=
  path.inits.reverse.find? (s.isTarget dataset)

/-- `_purge_storage` -/
def purgeStorage (location : Chars) (dataset : Dataset) (world : World) : Except Error World :=
  if s.isManagedStorageLocation location dataset = false then
    .error (.runtime "CATALOG_DATASET_UNMANAGED_STORAGE")
  else
    match urlparse (normalizeS3 location) with
    | none => .error (.value "Invalid IPv6 URL")
    | some parsed =>
        if parsed.scheme = s3Scheme then
          match s.managedStoragePrefix (parsed.path.dropWhile (· = '/')) dataset with
          | none => .error (.runtime "CATALOG_DATASET_UNMANAGED_STORAGE")
          | some key => .ok (deleteS3Prefix parsed.netloc key world)
        else
          match (s.resolve location).bind (s.localTarget · dataset) with
          | none => .error (.runtime "CATALOG_DATASET_UNMANAGED_STORAGE")
          | some target =>
              if s.storageRoot.isPrefixOf target then .ok (removeTree target world)
              else .error (.runtime "CATALOG_DATASET_UNMANAGED_STORAGE")

/-- The table that `_drop_rag_table` reads from a dotted name. -/
def ragTable (location : Chars) : Chars × Chars × Chars :=
  match tableParts location with
  | [catalog, schema, table] => (catalog, schema, table)
  | [schema, table] => (s.trinoCatalog, schema, table)
  | parts => (s.trinoCatalog, s.trinoSchema, parts.headD [])

/-- `_drop_rag_table` and `_drop_iceberg_table` -/
def dropRagTable (location : Chars) (world : World) : Except Error World :=
  let (catalog, schema, table) := s.ragTable location
  if catalog ≠ s.trinoCatalog then .error (.runtime "CATALOG_DATASET_UNMANAGED_ICEBERG_TABLE")
  else .ok (world.filter (· ≠ .icebergTable catalog schema table))

/-- `_drop_clickhouse_artifact` and `_drop_clickhouse_table` -/
def dropClickhouseArtifact (location : Chars) (world : World) : Except Error World :=
  let database := location.takeWhile (· ≠ '.')
  let table := location.drop (database.length + 1)
  if database = [] ∨ table = [] then
    .error (.runtime "CATALOG_DATASET_INVALID_CLICKHOUSE_TABLE")
  else if database ≠ s.clickhouseDatabase then
    .error (.runtime "CATALOG_DATASET_UNMANAGED_CLICKHOUSE_TABLE")
  else .ok (world.filter (· ≠ .clickhouseTable database table))

def purgeArtifact (dataset : Dataset) : Artifact → World → Except Error World
  | .storage location => s.purgeStorage location dataset
  | .icebergTable location => s.dropRagTable location
  | .clickhouseTable location => s.dropClickhouseArtifact location

/-- `CatalogPhysicalPurger.purge`: the stores as it leaves them, and what it raised -/
def purge (dataset : Dataset) : List Artifact → World → World × Option Error
  | [], world => (world, none)
  | artifact :: artifacts, world =>
      match s.purgeArtifact dataset artifact world with
      | .ok world => purge dataset artifacts world
      | .error error => (world, some error)

end Settings

end AskLake.CatalogDeletion

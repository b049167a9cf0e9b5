/-
# `AskLake.Materialization.SourceWindow` — the source window of a materialization run

A run that collects a folder incrementally keeps the window that it was given, and the
objects that it found there:

    sourceWindow: { contractVersion, lowerBound, upperBound, rebaseline,
                    objectKeys, objectInventory }

The names are those of `core/materialization.py`, and of the projection that writes the window
from what Spark reports.
-/
import AskLake.Materialization.Projection
import AskLake.Lib.Dict

namespace AskLake.SourceWindow

open AskLake.Lib AskLake.Python AskLake.Materialization

/-- The interpreter, and the text of an instant. -/
structure SourceHost extends ProjectionHost where
  /-- `value.isoformat(timespec="milliseconds").replace("+00:00", "Z")`, of an instant in UTC -/
  isoMilliseconds : Int → String
  /-- `str(value)` of a truthy value that is no string says something. -/
  str_truthy : ∀ value : Value, value.truthy = true → (∀ s, value ≠ .str s) → str value ≠ ""

theorem SourceHost.text_truthy (host : SourceHost) {value : Value} (h : value.truthy = true) :
    host.text value ≠ "" := by
  cases value with
  | str s =>
      rintro rfl
      cases h
  | _ => exact host.str_truthy _ h (by simp)

variable (host : SourceHost)

/-- `value in fields` -/
def hasKey (fields : Run) (key : String) : Bool := (fields.map Prod.fst).contains key

/-- `int(value)`, `none` for a `TypeError` or a `ValueError` -/
def intOf : Value → Option Int
  | .int n => some n
  | .bool b => some (if b then 1 else 0)
  | .float x => (host.intOfFloat x).toOption
  | .str s => (host.intOfDigits s).toOption
  | .null | .arr _ | .obj _ => none

/-! ## Modes and versions -/

/-- `next((value for value in mode_values if str(value or "").strip()), None)` -/
def rawMode (run : Run) : Option Value :=
  [run.get "materializationMode", run.get "materialization_mode",
    run.get "spark_materialization_mode"].find? fun value => strip (host.textOf value) ≠ ""

def modeOf (text : String) : MaterializationMode := if text = "delta" then .delta else .snapshot

/-- `SUPPORTED_SOURCE_WINDOW_CONTRACT_VERSIONS` -/
def supportedVersion (version : Int) : Bool := version = 1 || version = 2

/-! ## Identities of objects -/

/-- `dict[str, Any]` of one object of the inventory -/
structure ObjectIdentity where
  key : String
  eTag : String
  versionId : Option String
  lastModified : String
  size : Int
  deriving DecidableEq

/-- The dictionary. -/
def ObjectIdentity.document (identity : ObjectIdentity) : Value :=
  .obj [("key", .str identity.key), ("eTag", .str identity.eTag),
    ("versionId", identity.versionId.elim .null Value.str),
    ("lastModified", .str identity.lastModified), ("size", .int identity.size)]

/-- `parse_incremental_timestamp`, in microseconds; `.value` is the `ApiError` -/
def parseIncrementalTimestamp (text : String) : Except Error (Option Int) :=
  let normalized := strip text
  if normalized = "" then .ok none
  else
    match host.fromIsoFormat (zuluOffset normalized) with
    | none => .error (.value "Invalid timestamp")
    | some ⟨wall, none⟩ => .ok (some wall)
    | some ⟨wall, some offset⟩ =>
        if 0 ≤ wall - offset ∧ wall - offset < yearTenThousand then .ok (some (wall - offset))
        else .error (.runtime "date value out of range")

/-- `object_last_modified` of a text -/
def objectLastModified (text : String) : Except Error (Option Int) :=
  match parseIncrementalTimestamp host text with
  | .error (.value _) => .ok none
  | answer => answer

/-- `object_last_modified_iso` of a text -/
def objectLastModifiedIso (text : String) : Except Error String := do
  let modifiedAt ← objectLastModified host text
  return modifiedAt.elim "" host.isoMilliseconds

/-- `normalize_s3_etag` -/
def normalizeS3Etag (text : String) : String :=
  let normalized := strip text
  let normalized :=
    if "W/".toList <+: normalized.toList then strip (String.ofList (normalized.toList.drop 2))
    else normalized
  if 2 ≤ normalized.toList.length ∧ normalized.toList.head? = some '"' ∧
      normalized.toList.getLast? = some '"' then
    String.ofList normalized.toList.tail.dropLast
  else normalized

/-- `normalize_s3_version_id` -/
def normalizeS3VersionId (text : String) : Option String :=
  let normalized := strip text
  if normalized = "" ∨ host.casefold normalized = "null" then none else some normalized

/-- `s3_object_size`; `none` is the `ApiError` -/
def s3ObjectSize : Value → Option Int
  | .bool _ => none
  | value => (intOf host value).filter fun size => 0 ≤ size

/-- One item of `normalize_source_object_inventory`; `none` where the inventory is refused -/
def normalizeItem : Value → Except Error (Option ObjectIdentity)
  | .obj item => do
      let get (name : String) : Value := Run.get item name
      let key := strip (host.textOf ((get "key").orElse (get "Key")))
      let eTag := normalizeS3Etag
        (host.textOf (((get "eTag").orElse (get "ETag")).orElse (get "etag")))
      let lastModified ← objectLastModifiedIso host
        (host.textOf ((get "lastModified").orElse (get "LastModified")))
      if key = "" ∨ eTag = "" ∨ lastModified = "" then return none
      let size := if hasKey item "size" then get "size" else get "Size"
      return (s3ObjectSize host size).map fun size => {
        key, eTag, lastModified, size
        versionId :=
          normalizeS3VersionId host (host.textOf ((get "versionId").orElse (get "VersionId"))) }
  | _ => .ok none

/-- `inventory_by_key[key] = normalized`, where it says nothing else -/
def addIdentity (inventory : List (String × ObjectIdentity)) (identity : ObjectIdentity) :
    Option (List (String × ObjectIdentity)) :=
  if (valueAt inventory identity.key).any (· ≠ identity) then none
  else some (upsert identity.key identity (fun _ => identity) inventory)

/-- The loop of `normalize_source_object_inventory` -/
def normalizeItems (inventory : List (String × ObjectIdentity)) :
    List Value → Except Error (Option (List (String × ObjectIdentity)))
  | [] => .ok (some inventory)
  | item :: rest => do
      match ← normalizeItem host item with
      | none => return none
      | some identity =>
          match addIdentity inventory identity with
          | none => return none
          | some inventory => normalizeItems inventory rest

/-- `sorted(keys)` of the keys of a dictionary -/
def sortedKeys (keys : List String) : List String := keys.insertionSort (· ≤ ·)

/-- `[inventory_by_key[key] for key in sorted(inventory_by_key)]` -/
def sortedInventory (inventory : List (String × ObjectIdentity)) : List ObjectIdentity :=
  (sortedKeys (inventory.map Prod.fst)).filterMap (valueAt inventory)

/-- `normalize_source_object_inventory` -/
def normalizeSourceObjectInventory : Value → Except Error (Option (List ObjectIdentity))
  | .arr items => do
      return (← normalizeItems host [] items).map sortedInventory
  | _ => .ok none

/-! ## What Spark reports -/

/-- `spark_materialization_mode` -/
def sparkMaterializationMode (result : Run) : MaterializationMode :=
  match rawMode host result with
  | some value => modeOf (folded host.toProjectionHost value)
  | none =>
      if folded host.toProjectionHost (result.get "sourceKind") = "kafka" then .delta
      else
        match result.get "sourceCollection" with
        | .obj sourceCollection =>
            if folded host.toProjectionHost (Run.get sourceCollection "scope") = "folder" ∧
                folded host.toProjectionHost
                  ((Run.get sourceCollection "mode").orElse (.str "incremental")) =
                  "incremental" then
              if strip (host.textOf (Run.get sourceCollection "incrementalSince")) ≠ "" ∧
                  ¬ (Run.get sourceCollection "rebaseline").truthy then .delta
              else .snapshot
            else .snapshot
        | _ => .snapshot

/-- `str(mode)` -/
def modeText : MaterializationMode → String
  | .snapshot => "snapshot"
  | .delta => "delta"

/-- `sorted({str(key) for key in object_keys if str(key).strip()})` -/
def normalizedKeys (objectKeys : List Value) : List String :=
  sortedKeys ((objectKeys.map host.text).filter fun key => strip key ≠ "").dedup

/-- `[(key, value)]` where there is one -/
def entryOf (key : String) : Option Value → Run
  | some value => [(key, value)]
  | none => []

/-- `spark_source_window_metadata`: the window, where there is one -/
def sparkSourceWindow (result : Run) : Except Error (Option Run) :=
  match result.get "sourceCollection" with
  | .obj sourceCollection => do
      let get (name : String) : Value := Run.get sourceCollection name
      let upperBound := strip (host.textOf (get "incrementalBefore"))
      let lowerBound := strip (host.textOf (get "incrementalSince"))
      match (intOf host (get "windowContractVersion")).filter supportedVersion with
      | none => return none
      | some version =>
          if upperBound = "" then return none
          let keys := match get "objectKeys" with
            | .arr objectKeys => some (normalizedKeys host objectKeys)
            | _ => none
          let window (inventory : Option (List ObjectIdentity)) : Run :=
            [("contractVersion", .int version),
              ("lowerBound", if lowerBound = "" then .null else .str lowerBound)] ++
            entryOf "objectKeys" (keys.map fun keys => .arr (keys.map Value.str)) ++
            [("rebaseline", .bool (get "rebaseline").truthy), ("upperBound", .str upperBound)] ++
            entryOf "objectInventory"
              (inventory.map fun items => .arr (items.map ObjectIdentity.document))
          if version < 2 then return some (window none)
          match ← normalizeSourceObjectInventory host (get "objectInventory") with
          | none => return none
          | some inventory =>
              if keys = none ∨ some (inventory.map ObjectIdentity.key) ≠ keys then return none
              return some (window (some inventory))
  | _ => .ok none

end AskLake.SourceWindow

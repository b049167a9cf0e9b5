/-
# `AskLake.Catalog` — the physical bindings of a catalog dataset

A dataset's catalog payload lists its physical bindings.  Reading the payload
normalizes it: a payload without a list gets the bindings its two table entries
describe.  A publication and a binding switch both rewrite the list, by one
scheme with other parameters:

    rebind staleRoles new bindings
      active bindings whose role is in `staleRoles` become stale,
      bindings of `new`'s role and version are dropped,
      `new` is appended

`ActiveUnique` says of a list that no role has two active bindings, and
`AgreesWith` that the binding `_active_binding` finds is the one the freshness
row names.
-/
import AskLake.Store

namespace AskLake

open AskLake.Lib AskLake.Python AskLake.Realtime

/-! ## Reading the payload -/

/-- `value.get(key)`, where a false value counts as missing. -/
def truthy (value : Option String) : Option String :=
  value.filter fun s => s ≠ ""

/-- The binding a `clickhouseTable` entry describes. -/
def clickhouseBinding (payload : CatalogPayload) : List (Option PhysicalBinding) :=
  match payload.clickhouseTable with
  | some table =>
      match truthy table.database, truthy table.table with
      | some database, some name =>
          [some { role := some "serving", engine := some "clickhouse", status := some "active",
                  bindingEpoch := some payload.bindingEpoch,
                  versionId := payload.activeServingVersionId,
                  database := some database, table := some name }]
      | _, _ => []
  | none => []

/-- The binding a `queryEngineTable` entry describes. -/
def queryEngineBinding (payload : CatalogPayload) : List (Option PhysicalBinding) :=
  match payload.queryEngineTable with
  | some table =>
      match truthy table.catalog, truthy table.schema, truthy table.table with
      | some catalog, some schema, some name =>
          [some { role := some "archive", engine := some "trino", status := some "active",
                  bindingEpoch := some payload.bindingEpoch,
                  catalog := some catalog, schema := some schema, table := some name,
                  snapshotId := payload.icebergSnapshotId }]
      | _, _, _ => []
  | none => []

/-- The entries of `physicalBindings` in the normalized payload. -/
def CatalogPayload.bindings (payload : CatalogPayload) : List (Option PhysicalBinding) :=
  payload.physicalBindings.getD (clickhouseBinding payload ++ queryEngineBinding payload)

/-- `normalize_dataset_payload` -/
def normalizeDatasetPayload (payload : CatalogPayload) : CatalogPayload :=
  { payload with physicalBindings := some payload.bindings }

/-- `dataset_model_to_payload` -/
def datasetModelToPayload (model : CatalogDataset) : CatalogPayload :=
  normalizeDatasetPayload
    (model.payload.getD { status := some ((truthy model.status).getD "available") })

/-- The bindings a reader of the catalog row sees. -/
def CatalogDataset.bindings (model : CatalogDataset) : List (Option PhysicalBinding) :=
  (datasetModelToPayload model).bindings

/-- A payload that was written with a list is read back with that list. -/
theorem bindings_of_written {model : CatalogDataset} {payload : CatalogPayload}
    {bindings : List (Option PhysicalBinding)} (hmodel : model.payload = some payload)
    (hlist : payload.physicalBindings = some bindings) : model.bindings = bindings := by
  simp only [CatalogDataset.bindings, datasetModelToPayload, hmodel, Option.getD_some,
    normalizeDatasetPayload, CatalogPayload.bindings, hlist]

/-! ## `_active_binding` -/

/-- An active binding of this role and engine. -/
def PhysicalBinding.serves (binding : PhysicalBinding) (role engine : String) : Bool :=
  binding.role == some role && binding.engine == some engine && binding.status == some "active"

def activeBinding (bindings : List (Option PhysicalBinding)) (engine : String) :
    Option PhysicalBinding :=
  let role := if engine = "trino" then "archive" else "serving"
  (bindings.filterMap id).find? fun item => item.serves role engine

/-! ## Rewriting the list -/

/-- An active binding whose role is one of `staleRoles` becomes stale. -/
def PhysicalBinding.retire (staleRoles : List String) (binding : PhysicalBinding) :
    PhysicalBinding :=
  if binding.status = some "active" ∧ ∃ role ∈ staleRoles, binding.role = some role then
    { binding with status := some "stale" }
  else binding

/-- Of one role and version. -/
def PhysicalBinding.sameTarget (binding new : PhysicalBinding) : Bool :=
  binding.role == new.role && binding.versionId == new.versionId

def rebind (staleRoles : List String) (new : PhysicalBinding)
    (bindings : List (Option PhysicalBinding)) : List PhysicalBinding :=
  (((bindings.filterMap id).map (PhysicalBinding.retire staleRoles)).filter
    fun binding => !binding.sameTarget new) ++ [new]

/-- The active bindings of a role. -/
def activeOf (role : String) (bindings : List PhysicalBinding) : List PhysicalBinding :=
  bindings.filter fun binding => binding.role == some role && binding.status == some "active"

section
variable {staleRoles : List String} {new : PhysicalBinding}

theorem retire_stale {binding : PhysicalBinding} {role : String} (hrole : role ∈ staleRoles) :
    ((binding.retire staleRoles).role == some role &&
      (binding.retire staleRoles).status == some "active") = false := by
  unfold PhysicalBinding.retire
  split
  · simp
  · rename_i h
    rw [not_and] at h
    by_cases hactive : binding.status = some "active"
    · have hother : binding.role ≠ some role := fun hr => h hactive ⟨role, hrole, hr⟩
      simp [hother]
    · simp [hactive]

theorem retire_other {binding : PhysicalBinding} {role : String} (hrole : role ∉ staleRoles)
    (h : binding.role = some role) : binding.retire staleRoles = binding := by
  unfold PhysicalBinding.retire
  rw [if_neg]
  rintro ⟨-, role', hmem, heq⟩
  rw [h, Option.some.injEq] at heq
  exact hrole (heq ▸ hmem)

theorem retire_role (binding : PhysicalBinding) : (binding.retire staleRoles).role = binding.role := by
  unfold PhysicalBinding.retire
  split <;> rfl

/-- In a retired role only the new binding is active. -/
theorem activeOf_rebind_stale {role : String} (hrole : role ∈ staleRoles)
    (bindings : List (Option PhysicalBinding)) :
    activeOf role (rebind staleRoles new bindings) = activeOf role [new] := by
  unfold activeOf rebind
  rw [List.filter_append, List.filter_filter]
  have hnone : ((bindings.filterMap id).map (PhysicalBinding.retire staleRoles)).filter
      (fun binding => (binding.role == some role && binding.status == some "active") &&
        !binding.sameTarget new) = [] := by
    rw [List.filter_eq_nil_iff]
    intro binding hmem
    obtain ⟨old, -, rfl⟩ := List.mem_map.mp hmem
    simp only [retire_stale hrole, Bool.false_and, Bool.false_eq_true, not_false_eq_true]
  rw [hnone, List.nil_append]

/-- The active bindings of any other role stay. -/
theorem activeOf_rebind_other {role : String} (hrole : role ∉ staleRoles)
    (hnew : new.role ≠ some role) (bindings : List (Option PhysicalBinding)) :
    activeOf role (rebind staleRoles new bindings) = activeOf role (bindings.filterMap id) := by
  unfold activeOf rebind
  rw [List.filter_append, List.filter_filter]
  have hlast : [new].filter (fun binding => binding.role == some role &&
      binding.status == some "active") = [] := by
    simp [hnew]
  rw [hlast, List.append_nil]
  induction bindings.filterMap id with
  | nil => rfl
  | cons binding rest ih =>
      rw [List.map_cons]
      by_cases hsame : binding.role = some role
      · have hkept : binding.sameTarget new = false := by
          simp only [PhysicalBinding.sameTarget, hsame]
          simp [Ne.symm hnew]
        rw [retire_other hrole hsame]
        by_cases hactive : binding.status = some "active"
        · rw [List.filter_cons_of_pos (by simp [hsame, hactive, hkept]),
            List.filter_cons_of_pos (by simp [hsame, hactive]), ih]
        · rw [List.filter_cons_of_neg (by simp [hactive]),
            List.filter_cons_of_neg (by simp [hactive]), ih]
      · rw [List.filter_cons_of_neg (by simp [retire_role, hsame]),
          List.filter_cons_of_neg (by simp [hsame]), ih]

end

/-! ## The agreement of catalog and freshness -/

/-- No role has two active bindings. -/
def ActiveUnique (bindings : List (Option PhysicalBinding)) : Prop :=
  ∀ role, (activeOf role (bindings.filterMap id)).length ≤ 1

/-- The binding found for the freshness row's engine is the one the row names. -/
def AgreesWith (freshness : Freshness) (bindings : List (Option PhysicalBinding)) : Prop :=
  ∃ binding, activeBinding bindings (freshness.activeServingEngine.getD "") = some binding ∧
    binding.versionId = freshness.activeServingVersionId ∧
    binding.bindingEpoch = some freshness.bindingEpoch

theorem filterMap_map_some {α : Type*} (l : List α) : (l.map some).filterMap id = l := by
  induction l with
  | nil => rfl
  | cons a l ih => simp

/-- A rewritten list keeps one active binding per role. -/
theorem activeUnique_rebind {staleRoles : List String} {new : PhysicalBinding}
    {bindings : List (Option PhysicalBinding)} (h : ActiveUnique bindings)
    (hnew : ∃ role ∈ staleRoles, new.role = some role) :
    ActiveUnique ((rebind staleRoles new bindings).map some) := by
  intro role
  rw [filterMap_map_some]
  by_cases hrole : role ∈ staleRoles
  · rw [activeOf_rebind_stale hrole]
    exact (List.length_filter_le _ _).trans (by simp)
  · have hother : new.role ≠ some role := by
      obtain ⟨role', hmem, heq⟩ := hnew
      rw [heq]
      intro hcontra
      exact hrole (Option.some.inj hcontra ▸ hmem)
    rw [activeOf_rebind_other hrole hother]
    exact h role

/-- After a rewrite the new binding is the one that is found. -/
theorem activeBinding_rebind {staleRoles : List String} {new : PhysicalBinding}
    {bindings : List (Option PhysicalBinding)} {engine : String}
    (hrole : (if engine = "trino" then "archive" else "serving") ∈ staleRoles)
    (hnew : new.serves (if engine = "trino" then "archive" else "serving") engine = true) :
    activeBinding ((rebind staleRoles new bindings).map some) engine = some new := by
  unfold activeBinding
  rw [filterMap_map_some, rebind, List.find?_append, List.find?_eq_none.mpr]
  · simp [hnew]
  · intro binding hmem
    obtain ⟨old, -, rfl⟩ := List.mem_map.mp (List.mem_filter.mp hmem).1
    have hstale : ((old.retire staleRoles).role ==
        some (if engine = "trino" then "archive" else "serving") &&
          (old.retire staleRoles).status == some "active") = false := retire_stale hrole
    simp only [PhysicalBinding.serves, Bool.not_eq_true]
    generalize old.retire staleRoles = b at hstale ⊢
    cases h₁ : b.role == some (if engine = "trino" then "archive" else "serving") with
    | false => simp
    | true =>
        rw [h₁, Bool.true_and] at hstale
        simp [hstale]

end AskLake

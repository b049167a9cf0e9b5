/-
# `AskLake.CatalogDeletion.OwnData` — a deletion and the data of the other Datasets

The purger removes folders, so whose data it removes is a question about prefixes.  Every
artifact it gets through stands for one `Removal`, and what is left of the stores are the items
that none of them removes.

    location      s3://lake/gold/orders/run_1
    purge root    s3://lake/gold/               name "gold"
    removed       s3://lake/gold/sales/part-0   the data of "sales"

A deletion stays with its own data exactly when each listed location goes on below its purge
root and no other Dataset's location does.
-/
import Mathlib.Data.List.Infix
import AskLake.CatalogDeletion.Purge

namespace AskLake.CatalogDeletion

open AskLake.Python

/-! ## Locations -/

/-- Where a location points. -/
inductive Place
  | object (bucket key : Chars)
  | file (path : List Chars)
  deriving DecidableEq

/-- The key of the folder, with its slash. -/
def folderKey (key : Chars) : Chars :=
  if key = [] ∨ key.getLast? = some '/' then key else key ++ ['/']

/-- The object of that key, or one in the folder of that name. -/
def KeyUnder (key folder : Chars) : Prop :=
  key = folder ∨ folderKey folder <+: key

def Item.LiesUnder : Item → Place → Prop
  | .object bucket key, .object bucket' folder => bucket = bucket' ∧ KeyUnder key folder
  | .file path, .file folder => folder <+: path
  | _, _ => False

instance (key folder : Chars) : Decidable (KeyUnder key folder) :=
  inferInstanceAs (Decidable (_ ∨ _))

instance : (item : Item) → (place : Place) → Decidable (item.LiesUnder place)
  | .object bucket key, .object bucket' folder =>
      inferInstanceAs (Decidable (bucket = bucket' ∧ KeyUnder key folder))
  | .file path, .file folder => inferInstanceAs (Decidable (folder <+: path))
  | .object _ _, .file _ => .isFalse id
  | .file _, .object _ _ => .isFalse id
  | .icebergTable _ _ _, _ => .isFalse (by cases ‹Place› <;> exact id)
  | .clickhouseTable _ _, _ => .isFalse (by cases ‹Place› <;> exact id)

def Place.item : Place → Item
  | .object bucket key => .object bucket key
  | .file path => .file path

/-- The purge root of one location is on the way to another. -/
def Place.Covers : Place → Place → Prop
  | .object bucket key, .object bucket' key' => bucket = bucket' ∧ key <+: key'
  | .file path, .file path' => path <+: path'
  | _, _ => False

theorem liesUnder_item (p : Place) : p.item.LiesUnder p := by
  cases p with
  | object bucket key => exact ⟨rfl, .inl rfl⟩
  | file path => exact List.prefix_refl path

/-- All data under a location below the purge root is below it. -/
theorem Place.Covers.item {root p q : Place} {item : Item} (h : root.Covers p)
    (hunder : item.LiesUnder p) (hq : q.item = item) : root.Covers q := by
  subst hq
  cases root with
  | object bucket key =>
      cases p with
      | object bucket' folder =>
          cases q with
          | object b k =>
              obtain ⟨rfl, hpre⟩ := h
              obtain ⟨rfl, rfl | hfolder⟩ := hunder
              · exact ⟨rfl, hpre⟩
              · refine ⟨rfl, hpre.trans (List.IsPrefix.trans ?_ hfolder)⟩
                unfold folderKey
                split
                · exact List.prefix_refl _
                · exact List.prefix_append _ _
          | file path => exact hunder.elim
      | file path => exact h.elim
  | file path =>
      cases p with
      | object bucket' folder => exact h.elim
      | file path' =>
          cases q with
          | object b k => exact hunder.elim
          | file path'' => exact List.IsPrefix.trans h hunder

/-- Data below the purge root of `p` and under `q`: the root is on the way to `q`, or `p` lies
under `q`. -/
theorem Place.Covers.common {root p q r : Place} (hown : root.Covers p) (hroot : root.Covers r)
    (hunder : r.item.LiesUnder q) : root.Covers q ∨ p.item.LiesUnder q := by
  cases root with
  | object bucket key =>
      cases r with
      | object b k =>
          cases q with
          | object bucket' folder =>
              cases p with
              | object bucket'' location =>
                  obtain ⟨rfl, hlocation⟩ := hown
                  obtain ⟨rfl, hkey⟩ := hroot
                  obtain ⟨rfl, rfl | hfolder⟩ := hunder
                  · exact .inl ⟨rfl, hkey⟩
                  · rcases List.prefix_or_prefix_of_prefix hfolder hkey with hfk | hkf
                    · exact .inr ⟨rfl, .inr (hfk.trans hlocation)⟩
                    · unfold folderKey at hkf
                      split at hkf
                      · exact .inl ⟨rfl, hkf⟩
                      · rename_i hopen
                        rcases List.prefix_concat_iff.mp hkf with heq | hkf
                        · refine .inr ⟨rfl, .inr ?_⟩
                          rw [folderKey, if_neg hopen, ← heq]
                          exact hlocation
                        · exact .inl ⟨rfl, hkf⟩
              | file path => exact hown.elim
          | file path => exact hunder.elim
      | file path => exact hroot.elim
  | file path =>
      cases r with
      | object b k => exact hroot.elim
      | file file =>
          cases q with
          | object bucket' folder => exact hunder.elim
          | file folder =>
              cases p with
              | object bucket'' location => exact hown.elim
              | file location =>
                  rcases List.prefix_or_prefix_of_prefix hunder hroot with hfp | hpf
                  · exact .inr (List.IsPrefix.trans hfp hown)
                  · exact .inl hpf

namespace Settings

variable (s : Settings)

/-- What a location means, read as the URL or the path it is. -/
def place (location : Chars) : Option Place :=
  match urlparse (normalizeS3 location) with
  | none => none
  | some parsed =>
      if parsed.scheme = s3Scheme then
        some (.object parsed.netloc (parsed.path.dropWhile (· = '/')))
      else if parsed.scheme ≠ [] ∧ !isWindowsPath (normalizeS3 location) then none
      else (s.resolve location).map .file

/-- In the managed bucket or in the storage root. -/
def ManagedPlace : Place → Prop
  | .object bucket _ => bucket = s.outputBucket
  | .file path => s.storageRoot <+: path

end Settings

/-! ## What a Dataset owns -/

def Dataset.locations (dataset : Dataset) : List Chars :=
  (dataset.storageLocation :: dataset.materializationRuns.map (·.storageLocation)).filter (· ≠ [])

def QueryEngineTable.item (table : QueryEngineTable) : Item :=
  .icebergTable table.catalog table.schema table.table

def ClickhouseTable.item (table : ClickhouseTable) : Item :=
  .clickhouseTable table.database table.table

/-- The tables that the payload names. -/
def Dataset.tables (dataset : Dataset) : List Item :=
  (dataset.queryEngineTable.toList ++
    dataset.materializationRuns.filterMap (·.queryEngineTable)).map (·.item) ++
    dataset.clickhouseTable.toList.map (·.item)

def Dataset.Owns (s : Settings) (dataset : Dataset) (item : Item) : Prop :=
  item ∈ dataset.tables ∨
    ∃ location ∈ dataset.locations, ∃ p, s.place location = some p ∧ item.LiesUnder p

abbrev Catalog := List Dataset

/-- No two Datasets share a table, no location lies inside another Dataset's, and all of them
are managed. -/
structure Separate (s : Settings) (catalog : Catalog) : Prop where
  tables : ∀ d ∈ catalog, ∀ e ∈ catalog, d.id ≠ e.id → ∀ item ∈ d.tables, item ∉ e.tables
  storage : ∀ d ∈ catalog, ∀ e ∈ catalog, d.id ≠ e.id →
    ∀ l ∈ d.locations, ∀ m ∈ e.locations, ∀ p q,
      s.place l = some p → s.place m = some q → ¬ p.item.LiesUnder q
  managed : ∀ d ∈ catalog, ∀ l ∈ d.locations, ∃ p, s.place l = some p ∧ s.ManagedPlace p

/-! ## Removals -/

/-- What one artifact removes: all that is below a purge root, or one table. -/
inductive Removal
  | root (place : Place)
  | table (item : Item)
  deriving DecidableEq

def Place.holds : Place → Item → Bool
  | .object bucket key, item => hasKeyPrefix bucket key item
  | .file target, .file path => target.isPrefixOf path
  | _, _ => false

theorem Place.holds_iff {root : Place} {item : Item} :
    root.holds item = true ↔ ∃ q : Place, q.item = item ∧ root.Covers q := by
  constructor
  · intro h
    cases root with
    | object bucket key =>
        cases item with
        | object b k =>
            have hkey : b = bucket ∧ key <+: k := by
              simpa [Place.holds, hasKeyPrefix] using h
            exact ⟨.object b k, rfl, hkey.1.symm, hkey.2⟩
        | _ => exact nomatch h
    | file target =>
        cases item with
        | file path =>
            have hpre : target <+: path := by simpa [Place.holds] using h
            exact ⟨.file path, rfl, hpre⟩
        | _ => exact nomatch h
  · rintro ⟨q, rfl, hcov⟩
    cases root with
    | object bucket key =>
        cases q with
        | object b k =>
            obtain ⟨rfl, hpre⟩ := hcov
            simpa [Place.holds, Place.item, hasKeyPrefix] using hpre
        | file path => exact hcov.elim
    | file target =>
        cases q with
        | object b k => exact hcov.elim
        | file path =>
            have hpre : target <+: path := hcov
            simpa [Place.holds, Place.item] using hpre

def Removal.removes : Removal → Item → Bool
  | .root place, item => place.holds item
  | .table gone, item => item = gone

namespace Settings

variable (s : Settings)

/-- The purge root of a storage location; none where the purger refuses it. -/
def purgeRoot (dataset : Dataset) (location : Chars) : Option Place :=
  match s.place location with
  | some (.object bucket key) => (s.managedStoragePrefix key dataset).map (.object bucket)
  | some (.file path) =>
      ((s.localTarget path dataset).filter (s.storageRoot.isPrefixOf ·)).map .file
  | none => none

/-- What an artifact removes; none where the purger refuses it. -/
def removal (dataset : Dataset) : Artifact → Option Removal
  | .storage location =>
      if s.isManagedStorageLocation location dataset then
        (s.purgeRoot dataset location).map .root
      else none
  | .icebergTable location =>
      let (catalog, schema, table) := s.ragTable location
      if catalog = s.trinoCatalog then some (.table (.icebergTable catalog schema table)) else none
  | .clickhouseTable location =>
      let database := location.takeWhile (· ≠ '.')
      let table := location.drop (database.length + 1)
      if database = [] ∨ table = [] ∨ database ≠ s.clickhouseDatabase then none
      else some (.table (.clickhouseTable database table))

end Settings

/-- What is left when the items of a page and of the pages after it are gone. -/
theorem deleteS3Prefix_eq (bucket key : Chars) (world : World) :
    deleteS3Prefix bucket key world = world.filter fun item => !hasKeyPrefix bucket key item := by
  induction world using deleteS3Prefix.induct bucket key with
  | case1 world page hlast =>
      rw [deleteS3Prefix, if_pos hlast]
      apply List.filter_congr
      intro item hitem
      -- the last page is the whole listing
      have hwhole : page = world.filter (hasKeyPrefix bucket key) := by
        apply List.take_of_length_le
        have hlen : min pageSize (world.filter (hasKeyPrefix bucket key)).length < pageSize := by
          rw [← List.length_take]
          exact hlast
        omega
      have hpage : item ∈ page ↔ hasKeyPrefix bucket key item = true := by
        rw [hwhole, List.mem_filter]
        exact and_iff_right hitem
      by_cases hmem : item ∈ page
      · simp [page, hpage.mp hmem] at hmem ⊢
        exact hmem
      · have hnot : hasKeyPrefix bucket key item = false := by
          simpa using fun h => hmem (hpage.mpr h)
        simp [page, hnot] at hmem ⊢
        exact hmem
  | case2 world page hfull ih =>
      rw [deleteS3Prefix, if_neg hfull, ih, deleteObjects, List.filter_filter]
      apply List.filter_congr
      intro item _
      by_cases hkey : hasKeyPrefix bucket key item = true
      · simp [hkey]
      · have hout : item ∉ page := by
          intro hin
          exact hkey (List.of_mem_filter (List.mem_of_mem_take hin))
        simp [page, hkey] at hout ⊢
        exact hout

theorem removeTree_eq (target : List Chars) (world : World) :
    removeTree target world = world.filter fun item => !(Place.file target).holds item := by
  unfold removeTree
  apply List.filter_congr
  intro item _
  cases item <;> rfl

namespace Settings

variable {s : Settings} {dataset : Dataset} {location : Chars}

/-- Nothing but a bucket's URL or a path is managed. -/
theorem managed_parsed (h : s.isManagedStorageLocation location dataset = true) :
    ∃ parsed, urlparse (normalizeS3 location) = some parsed ∧
      (parsed.scheme = s3Scheme ∨
        parsed.scheme ≠ s3Scheme ∧ ¬(parsed.scheme ≠ [] ∧ !isWindowsPath (normalizeS3 location))) := by
  unfold isManagedStorageLocation at h
  cases hparse : urlparse (normalizeS3 location) with
  | none => simp [hparse] at h
  | some parsed =>
      refine ⟨parsed, rfl, ?_⟩
      by_cases hs3 : parsed.scheme = s3Scheme
      · exact .inl hs3
      · refine .inr ⟨hs3, fun hforeign => ?_⟩
        simp only [hparse, if_neg hs3, if_pos hforeign] at h
        exact nomatch h

/-- A managed location is purged below its root, or refused. -/
theorem purgeStorage_eq (h : s.isManagedStorageLocation location dataset = true) (world : World) :
    s.purgeStorage location dataset world =
      match s.purgeRoot dataset location with
      | some root => .ok (world.filter fun item => !root.holds item)
      | none => .error (.runtime "CATALOG_DATASET_UNMANAGED_STORAGE") := by
  obtain ⟨parsed, hparse, hs3 | ⟨hs3, hlocal⟩⟩ := managed_parsed h
  · unfold purgeStorage purgeRoot place
    simp only [h, hparse, hs3, if_true, Bool.true_eq_false, if_false]
    cases s.managedStoragePrefix (parsed.path.dropWhile (· = '/')) dataset with
    | none => rfl
    | some key => exact congrArg Except.ok (deleteS3Prefix_eq parsed.netloc key world)
  · unfold purgeStorage purgeRoot place
    simp only [h, hparse, if_neg hs3, if_neg hlocal, Bool.true_eq_false, if_false]
    cases s.resolve location with
    | none => rfl
    | some path =>
        cases htarget : s.localTarget path dataset with
        | none => simp [htarget]
        | some target =>
            by_cases hroot : s.storageRoot.isPrefixOf target = true
            · simp [htarget, hroot, removeTree_eq, Option.filter]
            · simp [htarget, hroot, Option.filter]

theorem purgeArtifact_eq (artifact : Artifact) (world : World) :
    match s.removal dataset artifact with
    | some removal =>
        s.purgeArtifact dataset artifact world =
          .ok (world.filter fun item => !removal.removes item)
    | none => ∃ error, s.purgeArtifact dataset artifact world = .error error := by
  cases artifact with
  | storage location =>
      unfold removal purgeArtifact
      dsimp only
      by_cases hmanaged : s.isManagedStorageLocation location dataset = true
      · rw [if_pos hmanaged, purgeStorage_eq hmanaged]
        cases s.purgeRoot dataset location with
        | none => exact ⟨_, rfl⟩
        | some root => rfl
      · rw [if_neg hmanaged]
        refine ⟨.runtime "CATALOG_DATASET_UNMANAGED_STORAGE", ?_⟩
        rw [purgeStorage, if_pos (by simpa using hmanaged)]
  | icebergTable location =>
      unfold removal purgeArtifact dropRagTable
      dsimp only
      obtain ⟨catalog, schema, table⟩ := s.ragTable location
      by_cases hcatalog : catalog = s.trinoCatalog
      · simp [hcatalog, Removal.removes]
      · simp [hcatalog]
  | clickhouseTable location =>
      unfold removal purgeArtifact dropClickhouseArtifact
      dsimp only
      by_cases hempty : location.takeWhile (· ≠ '.') = [] ∨
          location.drop ((location.takeWhile (· ≠ '.')).length + 1) = []
      · rw [if_pos (hempty.imp_right .inl)]
        exact ⟨_, if_pos hempty⟩
      · by_cases hdatabase : location.takeWhile (· ≠ '.') = s.clickhouseDatabase
        · have hkeep : ¬(location.takeWhile (· ≠ '.') = [] ∨
              location.drop ((location.takeWhile (· ≠ '.')).length + 1) = [] ∨
                location.takeWhile (· ≠ '.') ≠ s.clickhouseDatabase) := by
            rw [not_or] at hempty
            simp only [not_or, not_not]
            exact ⟨hempty.1, hempty.2, hdatabase⟩
          rw [if_neg hkeep]
          dsimp only
          rw [if_neg hempty, if_neg (not_not.mpr hdatabase)]
          simp [Removal.removes]
        · rw [if_pos (.inr (.inr hdatabase))]
          refine ⟨.runtime "CATALOG_DATASET_UNMANAGED_CLICKHOUSE_TABLE", ?_⟩
          rw [if_neg hempty, if_pos hdatabase]

variable (s dataset) in
/-- The artifacts that the purger gets through. -/
def reached (artifacts : List Artifact) : List Artifact :=
  artifacts.takeWhile fun artifact => (s.removal dataset artifact).isSome

/-- What the purger leaves are the items that no artifact it reached removes. -/
theorem mem_purge {artifacts : List Artifact} {world : World} {item : Item} :
    item ∈ (s.purge dataset artifacts world).1 ↔
      item ∈ world ∧ ∀ artifact ∈ s.reached dataset artifacts,
        ∀ removal, s.removal dataset artifact = some removal → removal.removes item = false := by
  induction artifacts generalizing world with
  | nil => simp [purge, reached]
  | cons artifact artifacts ih =>
      have hstep := @purgeArtifact_eq s dataset artifact world
      unfold purge reached
      cases hremoval : s.removal dataset artifact with
      | none =>
          rw [hremoval] at hstep
          obtain ⟨error, herror⟩ := hstep
          simp [herror, hremoval]
      | some removal =>
          rw [hremoval] at hstep
          rw [hstep, List.takeWhile_cons_of_pos (by simp [hremoval])]
          dsimp only
          rw [ih, List.mem_filter, List.forall_mem_cons, hremoval, and_assoc, reached]
          simp

/-! ## Purge roots -/

/-- A key below a purge root has that root. -/
theorem managedStoragePrefix_below {key key' pre : Chars}
    (h : s.managedStoragePrefix key' dataset = some pre) (hpre : pre <+: key) :
    s.managedStoragePrefix key dataset = some pre := by
  unfold managedStoragePrefix at h
  dsimp only at h
  obtain ⟨index, hindex, rfl⟩ := Option.map_eq_some_iff.mp h
  obtain ⟨rest, rfl⟩ := hpre
  have hlt : index < (segments key').length := by
    obtain ⟨hlt, -⟩ := List.findIdx?_eq_some_iff_getElem.mp hindex
    exact hlt
  have hlen : ((segments key').take (index + 1)).length = index + 1 := by
    rw [List.length_take]
    omega
  have hsegments : segments (joinSlash ((segments key').take (index + 1)) ++ ['/'] ++ rest) =
      (segments key').take (index + 1) ++ segments rest := by
    rw [List.append_assoc, List.singleton_append, segments_append, segments_joinSlash]
    · intro item hitem
      exact mem_segments (List.mem_of_mem_take hitem)
    · exact List.ne_nil_of_length_pos (by omega)
  have hfirst : ((segments key').take (index + 1) ++ segments rest).findIdx?
      (s.isDatasetScopeSegment · dataset) = some index := by
    obtain ⟨_, hscope, hbefore⟩ := List.findIdx?_eq_some_iff_getElem.mp hindex
    refine List.findIdx?_eq_some_iff_getElem.mpr ⟨by rw [List.length_append]; omega, ?_, ?_⟩
    · rw [List.getElem_append_left (by omega), List.getElem_take]
      exact hscope
    · intro j hj
      rw [List.getElem_append_left (by omega), List.getElem_take]
      exact hbefore j hj
  unfold managedStoragePrefix
  dsimp only
  rw [hsegments, hfirst, Option.map_some, List.take_left' hlen]

theorem localTarget_prefix {path target : List Chars}
    (h : s.localTarget path dataset = some target) : target <+: path := by
  have hmem := List.mem_of_find?_eq_some h
  rwa [List.mem_reverse, List.mem_inits] at hmem

/-- A path below the folder that another one is purged at is purged there or further down. -/
theorem localTarget_of_prefix {path path' target : List Chars}
    (h : s.localTarget path' dataset = some target) (hpre : target <+: path) :
    ∃ deeper, s.localTarget path dataset = some deeper ∧ target <+: deeper := by
  have hscope := List.find?_some h
  induction path using List.reverseRecOn with
  | nil =>
      have hnil : target = [] := List.prefix_nil.mp hpre
      subst hnil
      refine ⟨[], ?_, List.prefix_refl _⟩
      exact List.find?_cons_of_pos hscope
  | append_singleton front last ih =>
      unfold localTarget at ih ⊢
      rw [List.inits_append]
      have htail : (front.inits ++ List.map (front ++ ·) [last].inits.tail).reverse =
          (front ++ [last]) :: front.inits.reverse := by
        simp
      rw [htail]
      by_cases hwhole : s.isTarget dataset (front ++ [last]) = true
      · exact ⟨front ++ [last], List.find?_cons_of_pos hwhole, hpre⟩
      · rcases List.prefix_concat_iff.mp hpre with rfl | hfront
        · exact absurd hscope hwhole
        · obtain ⟨deeper, hdeeper, hlonger⟩ := ih hfront
          exact ⟨deeper, (List.find?_cons_of_neg hwhole).trans hdeeper, hlonger⟩

/-- A location below the purge root of another has a purge root above it. -/
theorem purgeRoot_of_covered {other : Chars} {root p : Place}
    (hroot : s.purgeRoot dataset other = some root) (hp : s.place location = some p)
    (hcov : root.Covers p) : ∃ own, s.purgeRoot dataset location = some own ∧ own.Covers p := by
  unfold purgeRoot at hroot ⊢
  rw [hp]
  cases hother : s.place other with
  | none => simp [hother] at hroot
  | some q =>
      rw [hother] at hroot
      cases q with
      | object bucket key' =>
          obtain ⟨pre, hpre, rfl⟩ := Option.map_eq_some_iff.mp hroot
          cases p with
          | object bucket' key =>
              refine ⟨.object bucket' pre, ?_, rfl, hcov.2⟩
              simp [managedStoragePrefix_below hpre hcov.2]
          | file path => exact hcov.elim
      | file path' =>
          obtain ⟨target, htarget, rfl⟩ := Option.map_eq_some_iff.mp hroot
          obtain ⟨htarget, hinside⟩ := Option.filter_eq_some_iff.mp htarget
          cases p with
          | object bucket' key => exact hcov.elim
          | file path =>
              obtain ⟨deeper, hdeeper, hlonger⟩ := localTarget_of_prefix htarget hcov
              refine ⟨.file deeper, ?_, localTarget_prefix hdeeper⟩
              have hin : s.storageRoot.isPrefixOf deeper = true := by
                rw [List.isPrefixOf_iff_prefix] at hinside ⊢
                exact hinside.trans hlonger
              simp [hdeeper, Option.filter, hin]

end Settings

/-! ## A deletion without blockers -/

theorem uniqueItems_append {α : Type} [DecidableEq α] {seen items more : List α} :
    ∃ rest, uniqueItems seen (items ++ more) = uniqueItems seen items ++ rest := by
  induction items generalizing seen with
  | nil => exact ⟨_, rfl⟩
  | cons item items ih =>
      rw [List.cons_append, uniqueItems, uniqueItems]
      split
      · exact ih
      · obtain ⟨rest, hrest⟩ := @ih (item :: seen)
        exact ⟨rest, by rw [hrest, List.cons_append]⟩

theorem storage_of_mem {location : Chars} {text : Chars}
    (h : Artifact.storage location ∈ storageArtifact text) : location = text ∧ text ≠ [] := by
  unfold storageArtifact at h
  split at h
  · exact nomatch h
  · rename_i hne
    exact ⟨Artifact.storage.inj (List.mem_singleton.mp h), hne⟩

theorem storage_not_mem_tables {dataset : Dataset} {location : Chars} :
    Artifact.storage location ∉ queryTableArtifact dataset ++ clickhouseArtifact dataset := by
  rw [List.mem_append, not_or]
  constructor
  · unfold queryTableArtifact
    cases dataset.queryEngineTable with
    | none => exact List.not_mem_nil
    | some table =>
        dsimp only
        split <;> simp
  · unfold clickhouseArtifact
    cases dataset.clickhouseTable with
    | none => exact List.not_mem_nil
    | some table =>
        dsimp only
        split <;> simp

/-- The listed locations are the Dataset's. -/
theorem listed_mem_locations {dataset : Dataset} {location : Chars}
    (h : Artifact.storage location ∈ addDatasetArtifacts dataset) :
    location ∈ dataset.locations := by
  unfold addDatasetArtifacts at h
  rw [List.append_assoc, List.mem_append] at h
  unfold Dataset.locations
  rw [List.mem_filter, List.mem_cons]
  rcases (List.mem_append.mp (h.resolve_left storage_not_mem_tables)) with hown | hrun
  · unfold ownStorageArtifact at hown
    split at hown
    · exact nomatch hown
    · obtain ⟨rfl, hne⟩ := storage_of_mem hown
      exact ⟨.inl rfl, by simpa using hne⟩
  · obtain ⟨run, hin, hstorage⟩ := List.mem_flatMap.mp hrun
    have hlocation : location = run.storageLocation ∧ run.storageLocation ≠ [] := by
      unfold runArtifact at hstorage
      cases hquery : run.queryEngineTable with
      | none =>
          rw [hquery] at hstorage
          exact storage_of_mem hstorage
      | some table =>
          rw [hquery] at hstorage
          dsimp only at hstorage
          split at hstorage
          · exact nomatch List.mem_singleton.mp hstorage
          · exact storage_of_mem hstorage
    obtain ⟨rfl, hne⟩ := hlocation
    exact ⟨.inr (List.mem_map_of_mem hin), by simpa using hne⟩

/-- A ClickHouse table is listed before every storage location. -/
theorem clickhouse_mem_tables {dataset : Dataset} {location : Chars}
    (h : Artifact.clickhouseTable location ∈ addDatasetArtifacts dataset) :
    Artifact.clickhouseTable location ∈ queryTableArtifact dataset ++ clickhouseArtifact dataset := by
  have hstorage : ∀ text, Artifact.clickhouseTable location ∉ storageArtifact text := by
    intro text
    unfold storageArtifact
    split <;> simp
  unfold addDatasetArtifacts at h
  rw [List.append_assoc, List.mem_append] at h
  refine h.resolve_right fun hlater => ?_
  rcases List.mem_append.mp hlater with hown | hrun
  · unfold ownStorageArtifact at hown
    split at hown
    · exact nomatch hown
    · exact hstorage _ hown
  · obtain ⟨run, -, hmem⟩ := List.mem_flatMap.mp hrun
    unfold runArtifact at hmem
    cases hquery : run.queryEngineTable with
    | none =>
        rw [hquery] at hmem
        exact hstorage _ hmem
    | some table =>
        rw [hquery] at hmem
        dsimp only at hmem
        split at hmem
        · exact nomatch List.mem_singleton.mp hmem
        · exact hstorage _ hmem

namespace Settings

variable {s : Settings} {standing : List Blocker} {dataset : Dataset}

theorem mem_artifacts {artifact : Artifact} :
    artifact ∈ (s.buildDeletionImpact standing dataset).artifacts ↔
      artifact ∈ addDatasetArtifacts dataset := by
  unfold buildDeletionImpact
  rw [mem_uniqueItems]
  simp

/-- Without blockers no artifact has one. -/
theorem unblocked (h : (s.buildDeletionImpact standing dataset).blockers = [])
    {artifact : Artifact} (hmem : artifact ∈ addDatasetArtifacts dataset) :
    s.ownershipBlockers dataset artifact = [] := by
  rw [List.eq_nil_iff_forall_not_mem]
  intro blocker hblocker
  have hin : blocker ∈ (s.buildDeletionImpact standing dataset).blockers := by
    unfold buildDeletionImpact
    rw [mem_uniqueItems, List.mem_append, List.mem_flatMap]
    exact ⟨.inr ⟨artifact, hmem, hblocker⟩, List.not_mem_nil⟩
  rw [h] at hin
  exact nomatch hin

theorem managed_of_unblocked {location : Chars}
    (h : s.ownershipBlockers dataset (.storage location) = []) :
    s.isManagedStorageLocation location dataset = true := by
  unfold ownershipBlockers at h
  dsimp only at h
  by_contra hnot
  rw [if_neg hnot] at h
  exact nomatch h

theorem removal_of_unblocked_iceberg {location : Chars}
    (h : s.ownershipBlockers dataset (.icebergTable location) = []) :
    (s.removal dataset (.icebergTable location)).isSome = true := by
  have hcatalog : (s.ragTable location).1 = s.trinoCatalog := by
    unfold ownershipBlockers at h
    unfold ragTable
    split
    · rename_i catalog schema table hparts
      dsimp only at h ⊢
      rw [hparts] at h
      dsimp only at h
      by_contra hnot
      rw [if_neg hnot] at h
      exact nomatch h
    · rfl
    · rfl
  unfold removal
  dsimp only
  rw [if_pos hcatalog]
  rfl

/-- Once the purger has got to one storage location, nothing but a location can stop it. -/
theorem reached_of_reached (h : (s.buildDeletionImpact standing dataset).blockers = [])
    {first : Chars}
    (hfirst : .storage first ∈
      s.reached dataset (s.buildDeletionImpact standing dataset).artifacts)
    (hstorage : ∀ location, .storage location ∈ addDatasetArtifacts dataset →
      (s.removal dataset (.storage location)).isSome = true) :
    s.reached dataset (s.buildDeletionImpact standing dataset).artifacts =
      (s.buildDeletionImpact standing dataset).artifacts := by
  unfold reached at hfirst ⊢
  rw [List.takeWhile_eq_self_iff]
  intro artifact hartifact
  have hmem := mem_artifacts.mp hartifact
  cases artifact with
  | storage location => exact hstorage location hmem
  | icebergTable location => exact removal_of_unblocked_iceberg (unblocked h hmem)
  | clickhouseTable location =>
      by_contra hstop
      -- the purger stops at a table, before it has got to any location
      obtain ⟨rest, hrest⟩ := @uniqueItems_append _ _ []
        (queryTableArtifact dataset ++ clickhouseArtifact dataset)
        (ownStorageArtifact dataset ++ dataset.materializationRuns.flatMap runArtifact)
      have hlist : (s.buildDeletionImpact standing dataset).artifacts =
          uniqueItems [] (queryTableArtifact dataset ++ clickhouseArtifact dataset) ++ rest := by
        rw [← hrest, ← List.append_assoc]
        rfl
      have hearly : Artifact.clickhouseTable location ∈
          uniqueItems [] (queryTableArtifact dataset ++ clickhouseArtifact dataset) :=
        mem_uniqueItems.mpr ⟨clickhouse_mem_tables hmem, List.not_mem_nil⟩
      rw [hlist, List.takeWhile_append, if_neg] at hfirst
      · have htables := mem_uniqueItems.mp ((List.takeWhile_prefix _).subset hfirst)
        exact storage_not_mem_tables htables.1
      · intro hlen
        have hall := List.takeWhile_eq_self_iff.mp
          ((List.takeWhile_prefix _).eq_of_length hlen) _ hearly
        exact hstop hall

end Settings

/-! ## Only its own data -/

/-- Whatever the stores hold, the deletion leaves the data of the others and removes all data
under its listed locations. -/
def DeletesOnlyOwn (s : Settings) (catalog : Catalog) (dataset : Dataset)
    (artifacts : List Artifact) : Prop :=
  ∀ world : World,
    (∀ item ∈ world, ∀ other ∈ catalog, other.id ≠ dataset.id → other.Owns s item →
      item ∈ (s.purge dataset artifacts world).1) ∧
    ∀ item ∈ world, ∀ location, .storage location ∈ artifacts → ∀ p,
      s.place location = some p → item.LiesUnder p → item ∉ (s.purge dataset artifacts world).1

/-- The purger is stopped before no listed location; each of them goes on below its purge root,
and no other Dataset's location does; no table it reads is another Dataset's. -/
structure RootsApart (s : Settings) (catalog : Catalog) (dataset : Dataset)
    (artifacts : List Artifact) : Prop where
  reaches : ∀ location, .storage location ∈ artifacts →
    .storage location ∈ s.reached dataset artifacts
  covers : ∀ location, .storage location ∈ artifacts → ∀ p, s.place location = some p →
    ∃ root, s.purgeRoot dataset location = some root ∧ root.Covers p
  roots : ∀ location, .storage location ∈ artifacts →
    ∀ root, s.purgeRoot dataset location = some root →
      ∀ other ∈ catalog, other.id ≠ dataset.id → ∀ l ∈ other.locations,
        ∀ p, s.place l = some p → ¬ root.Covers p
  tables : ∀ artifact ∈ s.reached dataset artifacts, ∀ item,
    s.removal dataset artifact = some (.table item) →
      ∀ other ∈ catalog, other.id ≠ dataset.id → item ∉ other.tables

section

variable {s : Settings} {catalog : Catalog} {standing : List Blocker} {dataset : Dataset}

/-- A table that is removed is no data under a location. -/
theorem removal_table {artifact : Artifact} {item : Item}
    (h : s.removal dataset artifact = some (.table item)) (p : Place) : p.item ≠ item := by
  unfold Settings.removal at h
  cases artifact with
  | storage location =>
      dsimp only at h
      split at h
      · obtain ⟨root, -, hroot⟩ := Option.map_eq_some_iff.mp h
        exact nomatch hroot
      · exact nomatch h
  | icebergTable location =>
      dsimp only at h
      split at h
      · cases p <;> · cases h; exact fun heq => nomatch heq
      · exact nomatch h
  | clickhouseTable location =>
      dsimp only at h
      split at h
      · exact nomatch h
      · cases p <;> · cases h; exact fun heq => nomatch heq

theorem removal_root {artifact : Artifact} {root : Place}
    (h : s.removal dataset artifact = some (.root root)) :
    ∃ location, artifact = .storage location ∧ s.purgeRoot dataset location = some root := by
  unfold Settings.removal at h
  cases artifact with
  | storage location =>
      dsimp only at h
      split at h
      · obtain ⟨root', hroot, heq⟩ := Option.map_eq_some_iff.mp h
        cases heq
        exact ⟨location, rfl, hroot⟩
      · exact nomatch h
  | icebergTable location =>
      dsimp only at h
      split at h <;> exact nomatch h
  | clickhouseTable location =>
      dsimp only at h
      split at h <;> exact nomatch h

theorem exists_place (p : Item) {q : Place} (h : p.LiesUnder q) : ∃ r : Place, r.item = p := by
  cases p with
  | object bucket key => exact ⟨.object bucket key, rfl⟩
  | file path => exact ⟨.file path, rfl⟩
  | icebergTable c d t => exact h.elim
  | clickhouseTable d t => exact h.elim

theorem place_item_not_mem_tables (p : Place) (other : Dataset) : p.item ∉ other.tables := by
  unfold Dataset.tables
  rw [List.mem_append, List.mem_map, List.mem_map]
  rintro (⟨table, -, heq⟩ | ⟨table, -, heq⟩) <;> cases p <;> exact nomatch heq

/-- Roots apart keep the data of the others apart. -/
theorem keeps_others (hsep : Separate s catalog) (hdataset : dataset ∈ catalog)
    (hapart : RootsApart s catalog dataset (s.buildDeletionImpact standing dataset).artifacts)
    {world : World} {item : Item} (hitem : item ∈ world) {other : Dataset}
    (hother : other ∈ catalog) (hid : other.id ≠ dataset.id) (howns : other.Owns s item) :
    item ∈ (s.purge dataset (s.buildDeletionImpact standing dataset).artifacts world).1 := by
  rw [Settings.mem_purge]
  refine ⟨hitem, fun artifact hreached removal hremoval => ?_⟩
  rw [← Bool.not_eq_true]
  intro hremoves
  cases removal with
  | table gone =>
      have heq : item = gone := by simpa [Removal.removes] using hremoves
      rcases howns with htable | ⟨location, hlocation, p, hp, hunder⟩
      · exact hapart.tables artifact hreached gone hremoval other hother hid (heq ▸ htable)
      · obtain ⟨r, hr⟩ := exists_place item hunder
        exact removal_table hremoval r (hr.trans heq)
  | root root =>
      obtain ⟨location, rfl, hroot⟩ := removal_root hremoval
      obtain ⟨r, rfl, hcov⟩ := Place.holds_iff.mp hremoves
      have hin := (List.takeWhile_prefix _).subset hreached
      have hlisted := listed_mem_locations (Settings.mem_artifacts.mp hin)
      obtain ⟨p, hp, -⟩ := hsep.managed dataset hdataset location hlisted
      obtain ⟨root', hroot', hown⟩ := hapart.covers location hin p hp
      rw [hroot] at hroot'
      cases hroot'
      rcases howns with htable | ⟨l, hl, q, hq, hunder⟩
      · exact place_item_not_mem_tables r other htable
      · rcases hown.common hcov hunder with habove | hinside
        · exact hapart.roots location hin root hroot other hother hid l hl q hq habove
        · exact hsep.storage dataset hdataset other hother hid.symm location hlisted l hl p q hp hq
            hinside

/-- Roots above their locations remove what lies under them. -/
theorem removes_own (hblockers : (s.buildDeletionImpact standing dataset).blockers = [])
    (hapart : RootsApart s catalog dataset (s.buildDeletionImpact standing dataset).artifacts)
    {world : World} {item : Item} {location : Chars}
    (hlisted : .storage location ∈ (s.buildDeletionImpact standing dataset).artifacts)
    {p : Place} (hp : s.place location = some p) (hunder : item.LiesUnder p) :
    item ∉ (s.purge dataset (s.buildDeletionImpact standing dataset).artifacts world).1 := by
  intro hin
  obtain ⟨root, hroot, hcov⟩ := hapart.covers location hlisted p hp
  have hmanaged := Settings.managed_of_unblocked
    (Settings.unblocked hblockers (Settings.mem_artifacts.mp hlisted))
  have hremoval : s.removal dataset (.storage location) = some (.root root) := by
    unfold Settings.removal
    dsimp only
    rw [if_pos hmanaged, hroot]
    rfl
  have hkept := (Settings.mem_purge.mp hin).2 _ (hapart.reaches location hlisted) _ hremoval
  obtain ⟨r, hr⟩ := exists_place item hunder
  have hholds : root.holds item = true := Place.holds_iff.mpr ⟨r, hr, hcov.item hunder hr⟩
  rw [Removal.removes, hholds] at hkept
  exact nomatch hkept

/-- A deletion that removes only its own data has its roots apart. -/
theorem rootsApart_of_deletesOnlyOwn (hsep : Separate s catalog) (hdataset : dataset ∈ catalog)
    (hblockers : (s.buildDeletionImpact standing dataset).blockers = [])
    (h : DeletesOnlyOwn s catalog dataset (s.buildDeletionImpact standing dataset).artifacts) :
    RootsApart s catalog dataset (s.buildDeletionImpact standing dataset).artifacts := by
  -- a listed location is below the root of a location that the purger got to
  have hreach : ∀ location,
      .storage location ∈ (s.buildDeletionImpact standing dataset).artifacts →
      ∀ p, s.place location = some p → ∃ first root,
        .storage first ∈ s.reached dataset (s.buildDeletionImpact standing dataset).artifacts ∧
          s.purgeRoot dataset first = some root ∧ root.Covers p := by
    intro location hlisted p hp
    have hgone := (h [p.item]).2 p.item (List.mem_singleton_self _) location hlisted p hp
      (liesUnder_item p)
    rw [Settings.mem_purge] at hgone
    simp only [List.mem_singleton, true_and, not_forall, Bool.not_eq_false] at hgone
    obtain ⟨artifact, hreached, removal, hremoval, hremoves⟩ := hgone
    cases removal with
    | table gone =>
        have heq : p.item = gone := by simpa [Removal.removes] using hremoves
        exact absurd heq (removal_table hremoval p)
    | root root =>
        obtain ⟨first, rfl, hroot⟩ := removal_root hremoval
        obtain ⟨r, hr, hcov⟩ := Place.holds_iff.mp hremoves
        exact ⟨first, root, hreached, hroot, hcov.item (hr ▸ liesUnder_item r) hr.symm⟩
  have hplace : ∀ location, .storage location ∈ addDatasetArtifacts dataset →
      ∃ p, s.place location = some p := by
    intro location hlisted
    obtain ⟨p, hp, -⟩ := hsep.managed dataset hdataset location (listed_mem_locations hlisted)
    exact ⟨p, hp⟩
  have hcovers : ∀ location,
      .storage location ∈ (s.buildDeletionImpact standing dataset).artifacts →
      ∀ p, s.place location = some p →
        ∃ root, s.purgeRoot dataset location = some root ∧ root.Covers p := by
    intro location hlisted p hp
    obtain ⟨first, root, -, hroot, hcov⟩ := hreach location hlisted p hp
    exact Settings.purgeRoot_of_covered hroot hp hcov
  have hsome : ∀ location, .storage location ∈ addDatasetArtifacts dataset →
      (s.removal dataset (.storage location)).isSome = true := by
    intro location hlisted
    obtain ⟨p, hp⟩ := hplace location hlisted
    obtain ⟨root, hroot, -⟩ := hcovers location (Settings.mem_artifacts.mpr hlisted) p hp
    unfold Settings.removal
    dsimp only
    rw [if_pos (Settings.managed_of_unblocked (Settings.unblocked hblockers hlisted)), hroot]
    rfl
  have hreaches : ∀ location,
      .storage location ∈ (s.buildDeletionImpact standing dataset).artifacts →
      .storage location ∈
        s.reached dataset (s.buildDeletionImpact standing dataset).artifacts := by
    intro location hlisted
    obtain ⟨p, hp⟩ := hplace location (Settings.mem_artifacts.mp hlisted)
    obtain ⟨first, root, hfirst, -⟩ := hreach location hlisted p hp
    rw [Settings.reached_of_reached hblockers hfirst hsome]
    exact hlisted
  refine ⟨hreaches, hcovers, ?_, ?_⟩
  · intro location hlisted root hroot other hother hid l hl p hp hcov
    have hkept := (h [p.item]).1 p.item (List.mem_singleton_self _) other hother hid
      (.inr ⟨l, hl, p, hp, liesUnder_item p⟩)
    have hmanaged := Settings.managed_of_unblocked
      (Settings.unblocked hblockers (Settings.mem_artifacts.mp hlisted))
    have hremoval : s.removal dataset (.storage location) = some (.root root) := by
      unfold Settings.removal
      dsimp only
      rw [if_pos hmanaged, hroot]
      rfl
    have hnot := (Settings.mem_purge.mp hkept).2 _ (hreaches location hlisted) _ hremoval
    rw [Removal.removes, Place.holds_iff.mpr ⟨p, rfl, hcov⟩] at hnot
    exact nomatch hnot
  · intro artifact hreached item hremoval other hother hid htable
    have hkept := (h [item]).1 item (List.mem_singleton_self _) other hother hid (.inl htable)
    have hnot := (Settings.mem_purge.mp hkept).2 artifact hreached _ hremoval
    simp [Removal.removes] at hnot

end

/-! ## A Dataset named like a layer -/

def lake : Settings where
  casefold := List.map Char.toLower
  trinoCatalog := iceberg
  trinoSchema := "asklake".toList
  clickhouseDatabase := "asklake".toList
  outputBucket := "asklake-output".toList
  storageRoot := ["lake".toList]
  resolve := fun _ => none

def storedAt (id name location : String) : Dataset where
  id := id.toList
  name := name.toList
  queryEngineTable := none
  clickhouseTable := none
  storageLocation := location.toList
  materializationRuns := []

def goldDataset : Dataset := storedAt "ds_1" "Gold" "s3a://asklake-output/gold/gold/run_1"

def salesDataset : Dataset := storedAt "ds_2" "sales" "s3a://asklake-output/gold/sales/run_1"

def goldPlace : Place := .object "asklake-output".toList "gold/gold/run_1".toList

def salesPlace : Place := .object "asklake-output".toList "gold/sales/run_1".toList

/-- Where the two Datasets are stored. -/
structure LakeReading : Prop where
  place_gold : lake.place goldDataset.storageLocation = some goldPlace
  place_sales : lake.place salesDataset.storageLocation = some salesPlace
  locations_gold : goldDataset.locations = [goldDataset.storageLocation]
  locations_sales : salesDataset.locations = [salesDataset.storageLocation]

theorem lake_reading : LakeReading := by
  constructor
  · decide +kernel
  · decide +kernel
  · decide +kernel
  · decide +kernel

theorem lake_separate : Separate lake [goldDataset, salesDataset] where
  tables := by decide +kernel
  storage := by
    intro d hd e he hid l hl m hm p q hp hq
    rcases List.mem_pair.mp hd with rfl | rfl <;> rcases List.mem_pair.mp he with rfl | rfl
    · exact absurd rfl hid
    · rw [lake_reading.locations_gold, List.mem_singleton] at hl
      rw [lake_reading.locations_sales, List.mem_singleton] at hm
      subst hl hm
      cases lake_reading.place_gold.symm.trans hp
      cases lake_reading.place_sales.symm.trans hq
      decide +kernel
    · rw [lake_reading.locations_sales, List.mem_singleton] at hl
      rw [lake_reading.locations_gold, List.mem_singleton] at hm
      subst hl hm
      cases lake_reading.place_sales.symm.trans hp
      cases lake_reading.place_gold.symm.trans hq
      decide +kernel
    · exact absurd rfl hid
  managed := by
    intro d hd l hl
    rcases List.mem_pair.mp hd with rfl | rfl
    · rw [lake_reading.locations_gold, List.mem_singleton] at hl
      exact ⟨goldPlace, hl ▸ lake_reading.place_gold, rfl⟩
    · rw [lake_reading.locations_sales, List.mem_singleton] at hl
      exact ⟨salesPlace, hl ▸ lake_reading.place_sales, rfl⟩

end AskLake.CatalogDeletion

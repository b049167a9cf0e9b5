/-
# `AskLake.KafkaPublication.SamePublication` — when two publications have one key

    Rearranged p q     q is p with ranges and keys of objects in another order:   one identity
    one key            q agrees with p in everything that goes into the key

The first needs that no value that is read as text holds an object of two keys (`PlainTexts`):
`str(value)` shows the order of its keys, so such a topic can move a range.
-/
import AskLake.KafkaPublication.Identity

namespace AskLake.KafkaPublication.Identity

open AskLake.Lib AskLake.Python

/-! ## Publications in another order -/

/-- The value under one key of an object is another one. -/
inductive FieldMoved (name : String) (R : Value → Value → Prop) : Value → Value → Prop
  | mk {v w : Value} {before after : List (String × Value)} (first : name ∉ before.map Prod.fst)
      (moved : R v w) :
      FieldMoved name R (.obj (before ++ (name, v) :: after)) (.obj (before ++ (name, w) :: after))

/-- The entries of a list in another order. -/
inductive EntriesMoved : Value → Value → Prop
  | mk {items items' : List Value} (h : items.Perm items') : EntriesMoved (.arr items) (.arr items')

def RangesMoved : Value → Value → Prop := FieldMoved "sourceRanges" EntriesMoved

/-- The three lists of ranges, and the keys of all objects, in any order. -/
inductive Rearranged : Value → Value → Prop
  | keys {p q : Value} : p.Reordered q → Rearranged p q
  | ranges {p q : Value} : RangesMoved p q → Rearranged p q
  | boundary {p q : Value} : FieldMoved "sourceBoundary" RangesMoved p q → Rearranged p q
  | commit {p q : Value} :
      FieldMoved "icebergCommit" (FieldMoved "sourceBoundary" RangesMoved) p q → Rearranged p q
  | trans {p q r : Value} : Rearranged p q → Rearranged q r → Rearranged p r

/-- No value that is read as text holds an object of two keys. -/
structure PlainTexts (publication : Value) : Prop where
  runId : (publication.get "runId").rigid = true
  manifestPath : (publication.get "manifestPath").rigid = true
  dataPath : (publication.get "dataPath").rigid = true
  operation : ((icebergCommit publication).get "operation").rigid = true
  commitRunId : ((icebergCommit publication).get "runId").rigid = true
  snapshotId : ((icebergCommit publication).get "snapshotId").rigid = true
  topics : PlainTopics (publication.get "sourceRanges")
  boundaryTopics : PlainTopics ((publication.get "sourceBoundary").get "sourceRanges")
  commitTopics :
    PlainTopics (((icebergCommit publication).get "sourceBoundary").get "sourceRanges")

/-- The ranges of a publication that are digested on their own. -/
def publicationTexts (host : PublicationHost) (publication : Value) : Set String :=
  rangeTexts host (publication.get "sourceRanges") ∪
    rangeTexts host ((publication.get "sourceBoundary").get "sourceRanges") ∪
    rangeTexts host (((icebergCommit publication).get "sourceBoundary").get "sourceRanges")

/-- Two publications that are read alike. -/
structure SameReading (host : PublicationHost) (p q : Value) : Prop where
  batch : optionalInt host (p.get "batchId") = optionalInt host (q.get "batchId")
  stored : optionalInt host (p.get "storedCount") = optionalInt host (q.get "storedCount")
  runId : runIdText host p = runIdText host q
  manifestPath : optionalText host (p.get "manifestPath") = optionalText host (q.get "manifestPath")
  dataPath : optionalText host (p.get "dataPath") = optionalText host (q.get "dataPath")
  commit : commitTexts host (icebergCommit p) = commitTexts host (icebergCommit q)
  ranges : (entries host (p.get "sourceRanges")).Perm (entries host (q.get "sourceRanges"))
  boundary : SameBoundaryReading host (p.get "sourceBoundary") (q.get "sourceBoundary")
  commitBoundary : SameBoundaryReading host ((icebergCommit p).get "sourceBoundary")
    ((icebergCommit q).get "sourceBoundary")

section
variable {host : PublicationHost}

theorem SameBoundaryReading.trans {u v w : Value} (h : SameBoundaryReading host u v)
    (h' : SameBoundaryReading host v w) : SameBoundaryReading host u w :=
  ⟨h.rest.trans h'.rest, h.listed.trans h'.listed, h.ranges.trans h'.ranges⟩

theorem SameBoundaryReading.refl (v : Value) : SameBoundaryReading host v v :=
  ⟨rfl, rfl, .refl _⟩

theorem SameReading.trans {p q r : Value} (h : SameReading host p q) (h' : SameReading host q r) :
    SameReading host p r :=
  ⟨h.batch.trans h'.batch, h.stored.trans h'.stored, h.runId.trans h'.runId,
    h.manifestPath.trans h'.manifestPath, h.dataPath.trans h'.dataPath, h.commit.trans h'.commit,
    h.ranges.trans h'.ranges, h.boundary.trans h'.boundary,
    h.commitBoundary.trans h'.commitBoundary⟩

/-! ## The moves -/

theorem FieldMoved.get_self {name : String} {R : Value → Value → Prop} {v w : Value}
    (h : FieldMoved name R v w) : R (v.get name) (w.get name) := by
  obtain ⟨hfirst, hmoved⟩ := h
  rename_i before after
  have hnone : before.lookup name = none := by
    rw [List.lookup_eq_none_iff]
    intro field hfield
    rw [bne_iff_ne]
    rintro rfl
    exact hfirst (List.mem_map_of_mem hfield)
  simpa [Value.get, Value.lookup_append_cons, hnone] using hmoved

theorem FieldMoved.get_ne {name other : String} {R : Value → Value → Prop} {v w : Value}
    (h : FieldMoved name R v w) (hne : other ≠ name) : v.get other = w.get other := by
  obtain ⟨-, -⟩ := h
  simp only [Value.get, Value.lookup_append_cons, if_neg hne]

theorem FieldMoved.dictOr {name : String} {R : Value → Value → Prop} {v w : Value}
    (h : FieldMoved name R v w) : v.dictOr = v ∧ w.dictOr = w := by
  obtain ⟨-, -⟩ := h
  exact ⟨rfl, rfl⟩

theorem EntriesMoved.entries {v w : Value} (h : EntriesMoved v w) :
    (entries host v).Perm (entries host w) := by
  obtain ⟨hperm⟩ := h
  exact (hperm.filter _).map _

theorem EntriesMoved.plainTopics {v w : Value} (h : EntriesMoved v w) (hv : PlainTopics v) :
    PlainTopics w := by
  obtain ⟨hperm⟩ := h
  exact fun item hitem => hv item ((hperm.filter _).mem_iff.mpr hitem)

theorem EntriesMoved.isList {v w : Value} (h : EntriesMoved v w) :
    isList v = true ∧ isList w = true := by
  obtain ⟨-⟩ := h
  exact ⟨rfl, rfl⟩

theorem sameBoundaryReading_moved {v w : Value} (h : RangesMoved v w) :
    SameBoundaryReading host v w := by
  have hself := h.get_self
  obtain ⟨hv, hw⟩ := hself.isList
  refine ⟨?_, hv.trans hw.symm, hself.entries⟩
  obtain ⟨-, -⟩ := h
  simp only [boundaryRest, hv, hw, List.map_append, List.map_cons, and_self, if_true]

/-- Every move keeps what is read, and leaves texts plain. -/
theorem Rearranged.reading {p q : Value} (h : Rearranged p q) (hplain : PlainTexts p) :
    SameReading host p q ∧ PlainTexts q := by
  induction h with
  | trans _ _ ih ih' =>
      obtain ⟨hread, hmiddle⟩ := ih hplain
      obtain ⟨hread', hlast⟩ := ih' hmiddle
      exact ⟨hread.trans hread', hlast⟩
  | @keys p q h =>
      have hcommit : (icebergCommit p).Reordered (icebergCommit q) := (h.get _).dictOr
      have htext : ∀ {v w : Value}, v.Reordered w → v.rigid = true →
          optionalText host v = optionalText host w ∧ w.rigid = true := by
        intro v w hvw hrigid
        have heq := hvw.eq_of_rigid hrigid
        subst heq
        exact ⟨rfl, hrigid⟩
      obtain ⟨hrunId, hrunId'⟩ := htext (h.get "runId") hplain.runId
      obtain ⟨hmanifest, hmanifest'⟩ := htext (h.get "manifestPath") hplain.manifestPath
      obtain ⟨hdata, hdata'⟩ := htext (h.get "dataPath") hplain.dataPath
      obtain ⟨hoperation, hoperation'⟩ := htext (hcommit.get "operation") hplain.operation
      obtain ⟨hcommitRun, hcommitRun'⟩ := htext (hcommit.get "runId") hplain.commitRunId
      obtain ⟨hsnapshot, hsnapshot'⟩ := htext (hcommit.get "snapshotId") hplain.snapshotId
      obtain ⟨hranges, htopics⟩ :=
        @entries_reordered host _ _ (h.get "sourceRanges") hplain.topics
      have hboundary := h.get "sourceBoundary"
      have hcommitBoundary := hcommit.get "sourceBoundary"
      refine ⟨⟨optionalInt_reordered (h.get _), optionalInt_reordered (h.get _), ?_, hmanifest, hdata,
        ?_, List.Perm.of_eq hranges, sameBoundaryReading_reordered hboundary hplain.boundaryTopics,
        sameBoundaryReading_reordered hcommitBoundary hplain.commitTopics⟩,
        hrunId', hmanifest', hdata', hoperation', hcommitRun', hsnapshot', htopics,
        (@entries_reordered host _ _ (hboundary.get _) hplain.boundaryTopics).2,
        (@entries_reordered host _ _ (hcommitBoundary.get _) hplain.commitTopics).2⟩
      · rw [runIdText, runIdText, hrunId]
      · rw [commitTexts, commitTexts, hoperation, hcommitRun, hsnapshot]
  | @ranges p q h =>
      have hother : ∀ name, name ≠ "sourceRanges" → p.get name = q.get name := fun _ => h.get_ne
      have hcommit : icebergCommit p = icebergCommit q :=
        congrArg Value.dictOr (hother "icebergCommit" (by decide))
      refine ⟨⟨?_, ?_, ?_, ?_, ?_, ?_, h.get_self.entries, ?_, ?_⟩,
        hother "runId" (by decide) ▸ hplain.runId,
        hother "manifestPath" (by decide) ▸ hplain.manifestPath,
        hother "dataPath" (by decide) ▸ hplain.dataPath, hcommit ▸ hplain.operation,
        hcommit ▸ hplain.commitRunId, hcommit ▸ hplain.snapshotId,
        h.get_self.plainTopics hplain.topics,
        hother "sourceBoundary" (by decide) ▸ hplain.boundaryTopics, hcommit ▸ hplain.commitTopics⟩
      · rw [hother "batchId" (by decide)]
      · rw [hother "storedCount" (by decide)]
      · rw [runIdText, runIdText, hother "runId" (by decide)]
      · rw [hother "manifestPath" (by decide)]
      · rw [hother "dataPath" (by decide)]
      · rw [hcommit]
      · rw [hother "sourceBoundary" (by decide)]
        exact .refl _
      · rw [hcommit]
        exact .refl _
  | @boundary p q h =>
      have hother : ∀ name, name ≠ "sourceBoundary" → p.get name = q.get name := fun _ => h.get_ne
      have hcommit : icebergCommit p = icebergCommit q :=
        congrArg Value.dictOr (hother "icebergCommit" (by decide))
      refine ⟨⟨?_, ?_, ?_, ?_, ?_, ?_, ?_, sameBoundaryReading_moved h.get_self, ?_⟩,
        hother "runId" (by decide) ▸ hplain.runId,
        hother "manifestPath" (by decide) ▸ hplain.manifestPath,
        hother "dataPath" (by decide) ▸ hplain.dataPath, hcommit ▸ hplain.operation,
        hcommit ▸ hplain.commitRunId, hcommit ▸ hplain.snapshotId,
        hother "sourceRanges" (by decide) ▸ hplain.topics,
        h.get_self.get_self.plainTopics hplain.boundaryTopics, hcommit ▸ hplain.commitTopics⟩
      · rw [hother "batchId" (by decide)]
      · rw [hother "storedCount" (by decide)]
      · rw [runIdText, runIdText, hother "runId" (by decide)]
      · rw [hother "manifestPath" (by decide)]
      · rw [hother "dataPath" (by decide)]
      · rw [hcommit]
      · rw [hother "sourceRanges" (by decide)]
      · rw [hcommit]
        exact .refl _
  | @commit p q h =>
      have hother : ∀ name, name ≠ "icebergCommit" → p.get name = q.get name := fun _ => h.get_ne
      have hmoved : FieldMoved "sourceBoundary" RangesMoved (icebergCommit p) (icebergCommit q) := by
        rw [icebergCommit, icebergCommit, h.get_self.dictOr.1, h.get_self.dictOr.2]
        exact h.get_self
      have hcommit : ∀ name, name ≠ "sourceBoundary" →
          (icebergCommit p).get name = (icebergCommit q).get name := fun _ => hmoved.get_ne
      refine ⟨⟨?_, ?_, ?_, ?_, ?_, ?_, ?_, ?_, sameBoundaryReading_moved hmoved.get_self⟩,
        hother "runId" (by decide) ▸ hplain.runId,
        hother "manifestPath" (by decide) ▸ hplain.manifestPath,
        hother "dataPath" (by decide) ▸ hplain.dataPath,
        hcommit "operation" (by decide) ▸ hplain.operation,
        hcommit "runId" (by decide) ▸ hplain.commitRunId,
        hcommit "snapshotId" (by decide) ▸ hplain.snapshotId,
        hother "sourceRanges" (by decide) ▸ hplain.topics,
        hother "sourceBoundary" (by decide) ▸ hplain.boundaryTopics,
        hmoved.get_self.get_self.plainTopics hplain.commitTopics⟩
      · rw [hother "batchId" (by decide)]
      · rw [hother "storedCount" (by decide)]
      · rw [runIdText, runIdText, hother "runId" (by decide)]
      · rw [hother "manifestPath" (by decide)]
      · rw [hother "dataPath" (by decide)]
      · rw [commitTexts, commitTexts, hcommit "operation" (by decide), hcommit "runId" (by decide),
          hcommit "snapshotId" (by decide)]
      · rw [hother "sourceRanges" (by decide)]
      · rw [hother "sourceBoundary" (by decide)]
        exact .refl _

/-! ## One identity -/

theorem manifestPayload_text {manifestPath : Option Text} {boundary boundary' : Value}
    {ranges ranges' : List Value}
    (hboundary : boundary'.canonicalText host.floatText = boundary.canonicalText host.floatText)
    (hranges : ranges'.map (Value.canonicalText host.floatText) =
      ranges.map (Value.canonicalText host.floatText)) :
    sha256Json host (manifestPayload manifestPath boundary' ranges') =
      sha256Json host (manifestPayload manifestPath boundary ranges) := by
  simp only [sha256Json, manifestPayload, Value.canonicalText_obj, List.map_cons, List.map_nil,
    Value.canonicalText_arr, hboundary, hranges]

theorem outputPayload_text {dataPath : Option Text} {texts : CommitTexts} {stored : Nat}
    {boundary boundary' : Value}
    (hboundary : boundary'.canonicalText host.floatText = boundary.canonicalText host.floatText) :
    sha256Json host (outputPayload dataPath texts boundary' stored) =
      sha256Json host (outputPayload dataPath texts boundary stored) := by
  simp only [sha256Json, outputPayload, commitPayload, Value.canonicalText_obj, List.map_cons,
    List.map_nil, hboundary]

theorem identity_of_sameReading {jobId : String} {p q : Value} {identity : PublicationIdentity}
    (hsame : SameReading host p q) (hfree : Set.InjOn host.sha256 (publicationTexts host p))
    (h : buildPublicationIdentity host jobId p = .ok identity) :
    buildPublicationIdentity host jobId q = .ok identity := by
  obtain ⟨batch, hbatch, h⟩ := bind_eq_ok.mp h
  obtain ⟨batchId, hbatchId, h⟩ := bind_eq_ok.mp h
  obtain ⟨_, hrun, h⟩ := bind_eq_ok.mp h
  obtain ⟨ranges, hranges, h⟩ := bind_eq_ok.mp h
  obtain ⟨boundary, hboundary, h⟩ := bind_eq_ok.mp h
  obtain ⟨commitBoundary, hcommitBoundary, h⟩ := bind_eq_ok.mp h
  obtain ⟨stored, hstored, h⟩ := bind_eq_ok.mp h
  obtain ⟨ranges', hranges', hrangeTexts⟩ := fingerprintSourceRanges_of_perm hranges hsame.ranges
    (hfree.mono (Set.subset_union_left.trans Set.subset_union_left))
  obtain ⟨boundary', hboundary', htext⟩ := fingerprintSourceBoundary_of_same hboundary
    hsame.boundary (hfree.mono (Set.subset_union_right.trans Set.subset_union_left))
  obtain ⟨commitBoundary', hcommitBoundary', hcommitText⟩ := fingerprintSourceBoundary_of_same
    hcommitBoundary hsame.commitBoundary (hfree.mono Set.subset_union_right)
  refine bind_eq_ok.mpr ⟨batch, hsame.batch ▸ hbatch, bind_eq_ok.mpr ⟨batchId, hbatchId,
    bind_eq_ok.mpr ⟨(), hsame.runId ▸ hrun, bind_eq_ok.mpr ⟨ranges', hranges',
    bind_eq_ok.mpr ⟨boundary', hboundary', bind_eq_ok.mpr ⟨commitBoundary', hcommitBoundary',
    bind_eq_ok.mpr ⟨stored, hsame.stored ▸ hstored, ?_⟩⟩⟩⟩⟩⟩⟩
  rw [← h, ← hsame.manifestPath, ← hsame.dataPath, ← hsame.commit, ← hsame.runId,
    manifestPayload_text htext hrangeTexts, outputPayload_text hcommitText]

/-- A retry in another order has the same identity. -/
theorem Rearranged.identity {jobId : String} {p q : Value} {identity : PublicationIdentity}
    (h : Rearranged p q) (hplain : PlainTexts p)
    (hfree : Set.InjOn host.sha256 (publicationTexts host p))
    (hp : buildPublicationIdentity host jobId p = .ok identity) :
    buildPublicationIdentity host jobId q = .ok identity :=
  identity_of_sameReading (h.reading hplain).1 hfree hp

end

/-! ## One key -/

/-- The same ranges, each as often, in whatever order. -/
def SameRanges (v w : Value) : Prop :=
  ((rangeItems v).map Value.document).Perm ((rangeItems w).map Value.document)

/-- The same field, up to the order of ranges where it is a list of them. -/
def SameRangesField : Option Value → Option Value → Prop
  | some (.arr items), some (.arr items') => SameRanges (.arr items) (.arr items')
  | a, b => a.map Value.document = b.map Value.document

/-- The same boundary: the same ranges, and the same value under every other key.  What is no
object is no boundary. -/
def SameBoundary : Value → Value → Prop
  | .obj fields, .obj fields' =>
      (∀ name, name ≠ "sourceRanges" →
        (fields.lookup name).map Value.document = (fields'.lookup name).map Value.document) ∧
      SameRangesField (fields.lookup "sourceRanges") (fields'.lookup "sourceRanges")
  | v, w => v.isDict = w.isDict

/-- The rows of a publication. -/
def storedRows (host : PublicationHost) (publication : Value) : Except Error Nat :=
  (optionalInt host (publication.get "storedCount")).map fun stored => (stored.getD 0).toNat

/-- Two publications of jobs that agree in everything that goes into the key. -/
structure SamePublication (host : PublicationHost) (jobId : String) (p : Value) (jobId' : String)
    (q : Value) : Prop where
  job : jobId = jobId'
  batch : optionalInt host (p.get "batchId") = optionalInt host (q.get "batchId")
  runId : runIdText host p = runIdText host q
  manifestPath : optionalText host (p.get "manifestPath") = optionalText host (q.get "manifestPath")
  dataPath : optionalText host (p.get "dataPath") = optionalText host (q.get "dataPath")
  stored : storedRows host p = storedRows host q
  commit : commitTexts host (icebergCommit p) = commitTexts host (icebergCommit q)
  ranges : SameRanges (p.get "sourceRanges") (q.get "sourceRanges")
  boundary : SameBoundary (p.get "sourceBoundary") (q.get "sourceBoundary")
  commitBoundary : SameBoundary ((icebergCommit p).get "sourceBoundary")
    ((icebergCommit q).get "sourceBoundary")

section
variable {host : PublicationHost}

theorem sameDocument_of_digest (hsha : Function.Injective host.sha256) {v w : Value}
    (hv : v.floatFree = true) (hw : w.floatFree = true)
    (h : sha256Json host v = sha256Json host w) : v.SameDocument w :=
  Value.sameDocument_of_text hv hw (String.ofList_injective (hsha h))

theorem floatFree_rangeItems {v : Value} (h : v.floatFree = true) :
    ∀ item ∈ rangeItems v, item.floatFree = true := by
  cases v with
  | arr items =>
      rw [Value.floatFree, Value.floatFreeItems_iff] at h
      exact fun item hitem => h item (List.mem_of_mem_filter hitem)
  | null | bool | int | float | str | obj => rintro _ ⟨⟩

/-- Canonical ranges are the ranges, in some order. -/
theorem fingerprintSourceRanges_perm {v : Value} {ranges : List Value}
    (h : fingerprintSourceRanges host v = .ok ranges) : ranges.Perm (rangeItems v) := by
  obtain ⟨keyed, hitems, -, rfl⟩ := fingerprintSourceRanges_eq_ok.mp h
  rw [← hitems]
  exact (List.perm_insertionSort _ keyed).map _

theorem floatFree_ranges {v : Value} {ranges : List Value} (hv : v.floatFree = true)
    (h : fingerprintSourceRanges host v = .ok ranges) : (Value.arr ranges).floatFree = true := by
  rw [Value.floatFree, Value.floatFreeItems_iff]
  exact fun item hitem => floatFree_rangeItems hv item
    ((fingerprintSourceRanges_perm h).mem_iff.mp hitem)

theorem sameRanges_of_document {v w : Value} {ranges ranges' : List Value}
    (hv : fingerprintSourceRanges host v = .ok ranges)
    (hw : fingerprintSourceRanges host w = .ok ranges')
    (h : (Value.arr ranges).SameDocument (.arr ranges')) : SameRanges v w := by
  rw [Value.SameDocument, Value.document_arr, Value.document_arr] at h
  have hdocuments : ranges.map Value.document = ranges'.map Value.document := Json.arr.inj h
  exact (((fingerprintSourceRanges_perm hv).map _).symm.trans (List.Perm.of_eq hdocuments)).trans
    ((fingerprintSourceRanges_perm hw).map _)

theorem lookup_setField (name other : String) (value : Value) (fields : List (String × Value)) :
    (setField name value fields).lookup other =
      if other = name then (fields.lookup other).map fun _ => value else fields.lookup other := by
  induction fields with
  | nil => simp [setField]
  | cons field fields ih =>
      obtain ⟨k, v⟩ := field
      rw [setField] at ih ⊢
      rw [List.map_cons]
      by_cases hk : k = name
      · subst hk
        rw [if_pos rfl, List.lookup_cons, List.lookup_cons, ih]
        by_cases ho : other = k
        · simp [ho]
        · have hbeq : (other == k) = false := by simpa using ho
          simp [ho, hbeq]
      · rw [if_neg hk, List.lookup_cons, List.lookup_cons, ih]
        by_cases ho : other = k
        · subst ho
          simp [hk]
        · have hbeq : (other == k) = false := by simpa using ho
          simp [hbeq]

/-- What becomes of a boundary. -/
theorem fingerprintSourceBoundary_cases {v boundary : Value}
    (h : fingerprintSourceBoundary host v = .ok boundary) :
    (v.isDict = false ∧ boundary = .null) ∨ ∃ fields, v = .obj fields ∧
      ((∃ items ranges, fields.lookup "sourceRanges" = some (.arr items) ∧
          fingerprintSourceRanges host (.arr items) = .ok ranges ∧
          boundary = .obj (setField "sourceRanges" (.arr ranges) fields)) ∨
        (∀ items, fields.lookup "sourceRanges" ≠ some (.arr items)) ∧ boundary = .obj fields) := by
  cases v with
  | null | bool | int | float | str | arr => exact .inl ⟨rfl, (Except.ok.inj h).symm⟩
  | obj fields =>
      refine .inr ⟨fields, rfl, ?_⟩
      rw [fingerprintSourceBoundary] at h
      split at h
      · rename_i items hlookup
        obtain ⟨ranges, hranges, h⟩ := bind_eq_ok.mp h
        exact .inl ⟨items, ranges, hlookup, hranges, (pure_eq_ok.mp h).symm⟩
      · rename_i hlist
        exact .inr ⟨hlist, (Except.ok.inj h).symm⟩

theorem keys_setField (name : String) (value : Value) (fields : List (String × Value)) :
    (setField name value fields).map Prod.fst = fields.map Prod.fst := by
  rw [setField, List.map_map]
  refine List.map_congr_left fun field _ => ?_
  by_cases h : field.1 = name
  · simp [h]
  · simp [h]

theorem floatFree_boundary {v boundary : Value} (hv : v.floatFree = true)
    (h : fingerprintSourceBoundary host v = .ok boundary) : boundary.floatFree = true := by
  obtain ⟨-, rfl⟩ | ⟨fields, rfl, ⟨items, ranges, hlookup, hranges, rfl⟩ | ⟨-, rfl⟩⟩ :=
    fingerprintSourceBoundary_cases h
  · rfl
  · have hitems : (Value.arr items).floatFree = true := by
      have hget := Value.floatFree_get hv "sourceRanges"
      rwa [Value.get, hlookup] at hget
    rw [Value.floatFree, Value.floatFreeFields_iff] at hv ⊢
    intro field hfield
    obtain ⟨old, hold, rfl⟩ := List.mem_map.mp hfield
    split
    · exact floatFree_ranges hitems hranges
    · exact hv old hold
  · exact hv

theorem arr_of_document {v : Value} {docs : List Json} (h : v.document = .arr docs) :
    ∃ items, v = .arr items := by
  cases v with
  | arr items => exact ⟨items, rfl⟩
  | obj fields => rw [Value.document_obj] at h; cases h
  | null | bool | int | float | str => cases h

theorem sameRangesField_of_eq {a b : Option Value} (ha : ∀ items, a ≠ some (.arr items))
    (h : a.map Value.document = b.map Value.document) : SameRangesField a b := by
  rw [SameRangesField.eq_def]
  split
  · exact absurd rfl (ha _)
  · exact h

/-- Boundaries of one document are the same boundary. -/
theorem sameBoundary_of_document {v w boundary boundary' : Value} (hunique : v.uniqueKeys)
    (hv : fingerprintSourceBoundary host v = .ok boundary)
    (hw : fingerprintSourceBoundary host w = .ok boundary')
    (h : boundary.SameDocument boundary') : SameBoundary v w := by
  have hobject : ∀ fields : List (String × Value),
      ¬ Value.SameDocument .null (.obj fields) ∧ ¬ Value.SameDocument (.obj fields) .null := by
    intro fields
    constructor
    · intro hnull
      rw [Value.SameDocument, Value.document_obj] at hnull
      cases hnull
    · intro hnull
      rw [Value.SameDocument, Value.document_obj] at hnull
      cases hnull
  have hset : ∀ (fields : List (String × Value)) (ranges : List Value) (name : String),
      name ≠ "sourceRanges" →
      (setField "sourceRanges" (.arr ranges) fields).lookup name = fields.lookup name := by
    intro fields ranges name hname
    rw [lookup_setField, if_neg hname]
  have hself : ∀ (fields : List (String × Value)) (items ranges : List Value),
      fields.lookup "sourceRanges" = some (.arr items) →
      (setField "sourceRanges" (.arr ranges) fields).lookup "sourceRanges" = some (.arr ranges) := by
    intro fields items ranges hlookup
    rw [lookup_setField, if_pos rfl, hlookup, Option.map_some]
  obtain ⟨hnv, rfl⟩ | ⟨fields, rfl, hfields⟩ := fingerprintSourceBoundary_cases hv
  · obtain ⟨hnw, rfl⟩ | ⟨fields', rfl, ⟨_, _, _, _, rfl⟩ | ⟨-, rfl⟩⟩ :=
      fingerprintSourceBoundary_cases hw
    · rw [SameBoundary.eq_def]
      split
      · cases hnv
      · exact hnv.trans hnw.symm
    · exact absurd h (hobject _).1
    · exact absurd h (hobject _).1
  · have hnodup : (fields.map Prod.fst).Nodup := hunique.1
    obtain ⟨items, ranges, hlookup, hranges, rfl⟩ | ⟨hlist, rfl⟩ := hfields
    · have hkeys : ((setField "sourceRanges" (.arr ranges) fields).map Prod.fst).Nodup := by
        rw [keys_setField]
        exact hnodup
      obtain ⟨hnw, rfl⟩ | ⟨fields', rfl, ⟨items', ranges', hlookup', hranges', rfl⟩ |
        ⟨hlist', rfl⟩⟩ := fingerprintSourceBoundary_cases hw
      · exact absurd h (hobject _).2
      · have hall := Value.lookup_of_sameDocument hkeys h
        refine ⟨fun name hname => ?_, ?_⟩
        · rw [← hset fields ranges name hname, ← hset fields' ranges' name hname]
          exact hall name
        · rw [hlookup, hlookup']
          have hself' := hall "sourceRanges"
          rw [hself _ _ _ hlookup, hself _ _ _ hlookup'] at hself'
          exact sameRanges_of_document hranges hranges' (Option.some.inj hself')
      · have hall := Value.lookup_of_sameDocument hkeys h "sourceRanges"
        rw [hself _ _ _ hlookup, Option.map_some, Value.document_arr] at hall
        obtain ⟨value, hvalue, hdocument⟩ := Option.map_eq_some_iff.mp hall.symm
        obtain ⟨items', rfl⟩ := arr_of_document hdocument
        exact absurd hvalue (hlist' items')
    · obtain ⟨hnw, rfl⟩ | ⟨fields', rfl, ⟨items', ranges', hlookup', hranges', rfl⟩ |
        ⟨hlist', rfl⟩⟩ := fingerprintSourceBoundary_cases hw
      · exact absurd h (hobject _).2
      · have hall := Value.lookup_of_sameDocument hnodup h "sourceRanges"
        rw [hself _ _ _ hlookup', Option.map_some, Value.document_arr] at hall
        obtain ⟨value, hvalue, hdocument⟩ := Option.map_eq_some_iff.mp hall
        obtain ⟨items, rfl⟩ := arr_of_document hdocument
        exact absurd hvalue (hlist items)
      · have hall := Value.lookup_of_sameDocument hnodup h
        exact ⟨fun name _ => hall name, sameRangesField_of_eq hlist (hall "sourceRanges")⟩

theorem document_textValue {a b : Option Text}
    (h : (textValue a).document = (textValue b).document) : a = b := by
  cases a with
  | none =>
      cases b with
      | none => rfl
      | some text => cases h
  | some text =>
      cases b with
      | none => cases h
      | some text' =>
          obtain ⟨s, _, _⟩ := text
          obtain ⟨s', _, _⟩ := text'
          cases h
          rfl

theorem floatFree_textValue (a : Option Text) : (textValue a).floatFree = true := by
  cases a <;> rfl

theorem floatFree_dictOr {v : Value} (h : v.floatFree = true) : v.dictOr.floatFree = true := by
  cases v with
  | obj fields => exact h
  | null | bool | int | float | str | arr => rfl

theorem uniqueKeys_dictOr {v : Value} (h : v.uniqueKeys) : v.dictOr.uniqueKeys := by
  cases v with
  | obj fields => exact h
  | null | bool | int | float | str | arr => exact ⟨List.nodup_nil, trivial⟩

/-- The manifest fingerprint shows path, boundary and ranges. -/
theorem manifest_of_digest (hsha : Function.Injective host.sha256) {path path' : Option Text}
    {boundary boundary' : Value} {ranges ranges' : List Value} (hb : boundary.floatFree = true)
    (hb' : boundary'.floatFree = true) (hr : (Value.arr ranges).floatFree = true)
    (hr' : (Value.arr ranges').floatFree = true)
    (h : sha256Json host (manifestPayload path boundary ranges) =
      sha256Json host (manifestPayload path' boundary' ranges')) :
    path = path' ∧ boundary.SameDocument boundary' ∧
      (Value.arr ranges).SameDocument (.arr ranges') := by
  have hfree : ∀ {path : Option Text} {boundary : Value} {ranges : List Value},
      boundary.floatFree = true → (Value.arr ranges).floatFree = true →
      (manifestPayload path boundary ranges).floatFree = true := by
    intro path boundary ranges hb hr
    simp [manifestPayload, Value.floatFree, Value.floatFreeFields, floatFree_textValue, hb]
    simpa [Value.floatFree] using hr
  have hdocument := sameDocument_of_digest hsha (hfree hb hr) (hfree hb' hr') h
  have hfields := Value.sameDocument_fields hdocument ["manifestPath", "sourceBoundary", "sourceRanges"]
    (by decide) rfl rfl
  simp only [List.map_cons, List.map_nil, List.cons.injEq, and_true] at hfields
  exact ⟨document_textValue hfields.1, hfields.2.1, hfields.2.2⟩

/-- The output fingerprint shows the data path, the commit and the rows. -/
theorem output_of_digest (hsha : Function.Injective host.sha256) {path path' : Option Text}
    {texts texts' : CommitTexts} {boundary boundary' : Value} {stored stored' : Nat}
    (hb : boundary.floatFree = true) (hb' : boundary'.floatFree = true)
    (h : sha256Json host (outputPayload path texts boundary stored) =
      sha256Json host (outputPayload path' texts' boundary' stored')) :
    path = path' ∧ texts = texts' ∧ boundary.SameDocument boundary' ∧ stored = stored' := by
  have hfree : ∀ {path : Option Text} {texts : CommitTexts} {boundary : Value} {stored : Nat},
      boundary.floatFree = true → (outputPayload path texts boundary stored).floatFree = true := by
    intro path texts boundary stored hb
    simp [outputPayload, commitPayload, Value.floatFree, Value.floatFreeFields,
      floatFree_textValue, hb]
  have hdocument := sameDocument_of_digest hsha (hfree hb) (hfree hb') h
  have hfields := Value.sameDocument_fields hdocument ["dataPath", "icebergCommit", "storedCount"]
    (by decide) rfl rfl
  simp only [List.map_cons, List.map_nil, List.cons.injEq, and_true] at hfields
  obtain ⟨hpath, hcommit, hstored⟩ := hfields
  have hcommitFields := Value.sameDocument_fields hcommit
    ["operation", "runId", "snapshotId", "sourceBoundary"] (by decide) rfl rfl
  simp only [List.map_cons, List.map_nil, List.cons.injEq, and_true] at hcommitFields
  obtain ⟨hoperation, hrun, hsnapshot, hboundary⟩ := hcommitFields
  refine ⟨document_textValue hpath, ?_, hboundary, ?_⟩
  · obtain ⟨operation, runId, snapshotId⟩ := texts
    rw [CommitTexts.mk.injEq]
    exact ⟨document_textValue hoperation, document_textValue hrun, document_textValue hsnapshot⟩
  · exact Int.ofNat.inj (Json.int.inj hstored)

theorem key_of_digest (hsha : Function.Injective host.sha256) {batchId batchId' : Nat}
    {jobId jobId' manifest manifest' output output' runId runId' : String}
    (h : sha256Json host (keyPayload batchId jobId manifest output runId) =
      sha256Json host (keyPayload batchId' jobId' manifest' output' runId')) :
    batchId = batchId' ∧ jobId = jobId' ∧ manifest = manifest' ∧ output = output' ∧
      runId = runId' := by
  have hdocument := sameDocument_of_digest hsha rfl rfl h
  have hfields := Value.sameDocument_fields hdocument
    ["batchId", "jobId", "manifestFingerprint", "outputFingerprint", "runId"] (by decide) rfl rfl
  simp only [List.map_cons, List.map_nil, List.cons.injEq, and_true] at hfields
  obtain ⟨hbatch, hjob, hmanifest, houtput, hrun⟩ := hfields
  exact ⟨Int.ofNat.inj (Json.int.inj hbatch), Json.str.inj hjob, Json.str.inj hmanifest,
    Json.str.inj houtput, Json.str.inj hrun⟩

theorem requireBatchId_eq_ok {batch : Option Int} {batchId : Nat}
    (h : requireBatchId batch = .ok batchId) : batch = some (batchId : Int) := by
  rw [requireBatchId.eq_def] at h
  split at h
  · rename_i n
    split at h
    · cases h
      rw [Int.toNat_of_nonneg ‹_›]
    · cases h
  · cases h

/-- Publications of one key agree in everything that goes into it. -/
theorem same_of_idempotencyKey (hsha : Function.Injective host.sha256) {jobId jobId' : String}
    {p q : Value} {i j : PublicationIdentity} (hunique : p.uniqueKeys)
    (hpfree : p.floatFree = true) (hqfree : q.floatFree = true)
    (hp : buildPublicationIdentity host jobId p = .ok i)
    (hq : buildPublicationIdentity host jobId' q = .ok j)
    (hkey : i.idempotencyKey = j.idempotencyKey) : SamePublication host jobId p jobId' q := by
  obtain ⟨batch, hbatch, hp⟩ := bind_eq_ok.mp hp
  obtain ⟨batchId, hbatchId, hp⟩ := bind_eq_ok.mp hp
  obtain ⟨_, -, hp⟩ := bind_eq_ok.mp hp
  obtain ⟨ranges, hranges, hp⟩ := bind_eq_ok.mp hp
  obtain ⟨boundary, hboundary, hp⟩ := bind_eq_ok.mp hp
  obtain ⟨commitBoundary, hcommitBoundary, hp⟩ := bind_eq_ok.mp hp
  obtain ⟨stored, hstored, hp⟩ := bind_eq_ok.mp hp
  obtain ⟨batch', hbatch', hq⟩ := bind_eq_ok.mp hq
  obtain ⟨batchId', hbatchId', hq⟩ := bind_eq_ok.mp hq
  obtain ⟨_, -, hq⟩ := bind_eq_ok.mp hq
  obtain ⟨ranges', hranges', hq⟩ := bind_eq_ok.mp hq
  obtain ⟨boundary', hboundary', hq⟩ := bind_eq_ok.mp hq
  obtain ⟨commitBoundary', hcommitBoundary', hq⟩ := bind_eq_ok.mp hq
  obtain ⟨stored', hstored', hq⟩ := bind_eq_ok.mp hq
  rw [← pure_eq_ok.mp hp, ← pure_eq_ok.mp hq] at hkey
  obtain ⟨hbatchEq, hjob, hmanifest, houtput, hrun⟩ := key_of_digest hsha hkey
  have hcommitFree := Value.floatFree_get (floatFree_dictOr (Value.floatFree_get hpfree
    "icebergCommit")) "sourceBoundary"
  have hcommitFree' := Value.floatFree_get (floatFree_dictOr (Value.floatFree_get hqfree
    "icebergCommit")) "sourceBoundary"
  obtain ⟨hpath, hsame, hsameRanges⟩ := manifest_of_digest hsha
    (floatFree_boundary (Value.floatFree_get hpfree _) hboundary)
    (floatFree_boundary (Value.floatFree_get hqfree _) hboundary')
    (floatFree_ranges (Value.floatFree_get hpfree _) hranges)
    (floatFree_ranges (Value.floatFree_get hqfree _) hranges') hmanifest
  obtain ⟨hdata, hcommit, hcommitSame, hstoredEq⟩ := output_of_digest hsha
    (floatFree_boundary hcommitFree hcommitBoundary)
    (floatFree_boundary hcommitFree' hcommitBoundary') houtput
  refine ⟨hjob, ?_, hrun, hpath, hdata, ?_, hcommit,
    sameRanges_of_document hranges hranges' hsameRanges,
    sameBoundary_of_document (Value.uniqueKeys_get hunique _) hboundary hboundary' hsame,
    sameBoundary_of_document (Value.uniqueKeys_get (uniqueKeys_dictOr
      (Value.uniqueKeys_get hunique _)) _) hcommitBoundary hcommitBoundary' hcommitSame⟩
  · rw [hbatch, hbatch', requireBatchId_eq_ok hbatchId, requireBatchId_eq_ok hbatchId', hbatchEq]
  · rw [storedRows, storedRows, hstored, hstored', Except.map, Except.map, hstoredEq]

end

/-- The identity of a publication: the same for a retry in another order, and another one for
another publication. -/
theorem publication_identity_exact (host : PublicationHost) :
    (∀ (jobId : String) (p q : Value) (identity : PublicationIdentity), Rearranged p q →
      PlainTexts p → Set.InjOn host.sha256 (publicationTexts host p) →
      buildPublicationIdentity host jobId p = .ok identity →
      buildPublicationIdentity host jobId q = .ok identity) ∧
    (Function.Injective host.sha256 → ∀ (jobId jobId' : String) (p q : Value)
      (i j : PublicationIdentity), p.uniqueKeys → q.uniqueKeys → p.floatFree = true →
      q.floatFree = true → buildPublicationIdentity host jobId p = .ok i →
      buildPublicationIdentity host jobId' q = .ok j → i.idempotencyKey = j.idempotencyKey →
      SamePublication host jobId p jobId' q) :=
  ⟨fun _ _ _ _ h hplain hfree hp => h.identity hplain hfree hp,
    fun hsha _ _ _ _ _ _ hunique _ hpfree hqfree hp hq hkey =>
      same_of_idempotencyKey hsha hunique hpfree hqfree hp hq hkey⟩

/-! ## A batch of two ranges -/

/-- `str(value)` of integers and of objects of integers. -/
def shownText : Value → String
  | .int n => Int.repr n
  | .obj fields => "\x7b" ++ ", ".intercalate (fields.map fun field => "'" ++ field.1 ++ "': " ++
      match field.2 with
      | .int n => Int.repr n
      | _ => "") ++ "\x7d"
  | _ => ""

def shownHost : PublicationHost where
  str := shownText
  float _ := .refused
  compilePattern _ := .done ()
  lower := asciiLower
  upper := asciiUpper
  lower_ascii := asciiLower_agrees
  upper_ascii := asciiUpper_agrees
  sha256 := id
  floatText _ := "0.0"
  intOfText _ := none
  intOfFloat _ := .ok none

def twoRanges (first second : Value) : Value :=
  .obj [("batchId", .int 3), ("runId", .str "continuous:job-1:batch:3:a"),
    ("sourceRanges", .arr [first, second])]

def rangeOf (topic : Value) : Value := .obj [("topic", topic), ("partition", .int 0)]

theorem publication_identity_twoRanges :
    (∀ identity, buildPublicationIdentity shownHost "job-1"
        (twoRanges (rangeOf (.str "orders")) (rangeOf (.str "clicks"))) = .ok identity →
      buildPublicationIdentity shownHost "job-1"
        (twoRanges (rangeOf (.str "clicks")) (rangeOf (.str "orders"))) = .ok identity ∧
      SamePublication shownHost "job-1"
        (twoRanges (rangeOf (.str "orders")) (rangeOf (.str "clicks"))) "job-1"
        (twoRanges (rangeOf (.str "clicks")) (rangeOf (.str "orders")))) ∧
    (buildPublicationIdentity shownHost "job-1"
      (twoRanges (rangeOf (.str "orders")) (rangeOf (.str "clicks")))).toOption.isSome = true := by
  refine ⟨fun identity h => ?_, by decide +kernel⟩
  have hmoved : Rearranged (twoRanges (rangeOf (.str "orders")) (rangeOf (.str "clicks")))
      (twoRanges (rangeOf (.str "clicks")) (rangeOf (.str "orders"))) :=
    .ranges (@FieldMoved.mk _ _ _ _ [_, _] [] (by decide) (.mk (.swap _ _ _)))
  have htopics : ∀ item ∈ [rangeOf (.str "orders"), rangeOf (.str "clicks")],
      (item.get "topic").rigid = true := by
    intro item hitem
    rcases List.mem_pair.mp hitem with rfl | rfl
    · rfl
    · rfl
  have hplain : PlainTexts (twoRanges (rangeOf (.str "orders")) (rangeOf (.str "clicks"))) :=
    ⟨rfl, rfl, rfl, rfl, rfl, rfl, htopics, by rintro _ ⟨⟩, by rintro _ ⟨⟩⟩
  have hq := (publication_identity_exact shownHost).1 "job-1" _ _ identity hmoved hplain
    (fun _ _ _ _ heq => heq) h
  refine ⟨hq, (publication_identity_exact shownHost).2 (fun _ _ heq => heq) "job-1" "job-1" _ _
    identity identity ?_ ?_ rfl rfl h hq rfl⟩
  · simp [twoRanges, rangeOf, Value.uniqueKeys, Value.uniqueKeysFields, Value.uniqueKeysItems]
  · simp [twoRanges, rangeOf, Value.uniqueKeys, Value.uniqueKeysFields, Value.uniqueKeysItems]

/-- A topic that is an object: with its keys in another order the ranges are sorted the other
way, and the manifest has another fingerprint. -/
def objectTopic (fields : List (String × Value)) : Value :=
  twoRanges (rangeOf (.obj fields)) (rangeOf (.obj [("aa", .int 1)]))

theorem topic_order_shows :
    Rearranged (objectTopic [("b", .int 1), ("a", .int 2)])
        (objectTopic [("a", .int 2), ("b", .int 1)]) ∧
      (buildPublicationIdentity shownHost "job-1"
        (objectTopic [("b", .int 1), ("a", .int 2)])).toOption.isSome = true ∧
      (buildPublicationIdentity shownHost "job-1"
        (objectTopic [("b", .int 1), ("a", .int 2)])).toOption.map
          PublicationIdentity.manifestFingerprint ≠
      (buildPublicationIdentity shownHost "job-1"
        (objectTopic [("a", .int 2), ("b", .int 1)])).toOption.map
          PublicationIdentity.manifestFingerprint := by
  refine ⟨.keys ?_, by decide +kernel, by decide +kernel⟩
  exact .field "sourceRanges" [_, _] [] (.item [] [_] (.field "topic" [] [_]
    (.keys (.swap _ _ _) (by decide))))

end AskLake.KafkaPublication.Identity

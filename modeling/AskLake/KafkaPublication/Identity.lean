/-
# `AskLake.KafkaPublication.Identity` — the fingerprints of a publication

`build_publication_identity` digests a publication three times:

    manifestFingerprint   manifest path, source boundary, source ranges
    outputFingerprint     data path, Iceberg commit with its boundary, stored rows
    idempotencyKey        job, batch, run, and the two fingerprints

Ranges are sorted before they are digested: by topic, partition and offsets as far as these can
be read, then by a digest of their own.

The digest is a function of what is read: of the texts of the ranges as a list without order
(`fingerprintSourceRanges_of_perm`), and of the other fields of a boundary by their keys
(`fingerprintSourceBoundary_of_same`).
-/
import Mathlib.Data.Multiset.MapFold
import AskLake.KafkaPublication.Stages
import AskLake.Python.Document

namespace AskLake.KafkaPublication.Identity

open AskLake.Lib AskLake.Python

/-! ## Reading a publication -/

/-- The interpreter and its library. -/
structure PublicationHost extends Host where
  /-- `hashlib.sha256(text.encode("utf-8")).hexdigest()` -/
  sha256 : String → String
  /-- `float.__repr__`, with `NaN` and `Infinity` -/
  floatText : Float → String
  /-- `int(text)`, `none` for a `ValueError` -/
  intOfText : String → Option Int
  /-- `int(x)`, `none` for a `ValueError`; an `OverflowError` goes on -/
  intOfFloat : Float → Except Error (Option Int)

variable (host : PublicationHost)

/-- `_optional_int` -/
def optionalInt : Value → Except Error (Option Int)
  | .bool b => .ok (some (if b then 1 else 0))
  | .int n => .ok (some n)
  | .str s => .ok (host.intOfText s)
  | .float x => host.intOfFloat x
  | .null | .arr _ | .obj _ => .ok none

/-- `_optional_string` -/
def optionalText (value : Value) : Option Text :=
  optionalString (some (host.textOf value))

/-- `_sha256_json` -/
def sha256Json (value : Value) : String :=
  host.sha256 (String.ofList (value.canonicalText host.floatText))

/-! ## Canonical ranges -/

/-- What ranges are sorted by: `(topic, partition, startOffset, endOffset, digest)`. -/
abbrev RangeKey := String ×ₗ Int ×ₗ Int ×ₗ Int ×ₗ String

def rangeKey (item : Value) : Except Error RangeKey := do
  let topic := host.textOf (item.get "topic")
  let partition ← optionalInt host (item.get "partition")
  let startOffset ← optionalInt host (item.get "startOffset")
  let endOffset ← optionalInt host (item.get "endOffset")
  return toLex (topic, toLex (partition.getD 0, toLex (startOffset.getD 0,
    toLex (endOffset.getD 0, sha256Json host item))))

/-- `[dict(item) for item in value if isinstance(item, dict)]` -/
def rangeItems : Value → List Value
  | .arr items => items.filter Value.isDict
  | _ => []

/-- `_fingerprint_source_ranges` -/
def fingerprintSourceRanges (value : Value) : Except Error (List Value) := do
  let keyed ← (rangeItems value).mapM fun item => do
    let key ← rangeKey host item
    return (key, item)
  return (keyed.insertionSort fun a b => a.1 ≤ b.1).map Prod.snd

/-- `fields[name] = value`, where the name is there -/
def setField (name : String) (value : Value) (fields : List (String × Value)) :
    List (String × Value) :=
  fields.map fun field => if field.1 = name then (name, value) else field

/-- `_fingerprint_source_boundary` -/
def fingerprintSourceBoundary : Value → Except Error Value
  | .obj fields =>
      match fields.lookup "sourceRanges" with
      | some (.arr items) => do
          let ranges ← fingerprintSourceRanges host (.arr items)
          return .obj (setField "sourceRanges" (.arr ranges) fields)
      | _ => .ok (.obj fields)
  | _ => .ok .null

/-! ## The identity -/

def textValue : Option Text → Value
  | some text => .str text.text
  | none => .null

/-- `manifest_payload` -/
def manifestPayload (manifestPath : Option Text) (boundary : Value) (ranges : List Value) : Value :=
  .obj [("manifestPath", textValue manifestPath), ("sourceBoundary", boundary),
    ("sourceRanges", .arr ranges)]

/-- What is read of `icebergCommit`. -/
structure CommitTexts where
  operation : Option Text
  runId : Option Text
  snapshotId : Option Text
  deriving DecidableEq

def commitPayload (texts : CommitTexts) (boundary : Value) : Value :=
  .obj [("operation", textValue texts.operation), ("runId", textValue texts.runId),
    ("snapshotId", textValue texts.snapshotId), ("sourceBoundary", boundary)]

/-- The payload of the output fingerprint. -/
def outputPayload (dataPath : Option Text) (texts : CommitTexts) (boundary : Value)
    (storedCount : Nat) : Value :=
  .obj [("dataPath", textValue dataPath), ("icebergCommit", commitPayload texts boundary),
    ("storedCount", .int storedCount)]

/-- The payload of the idempotency key. -/
def keyPayload (batchId : Nat) (jobId manifestFingerprint outputFingerprint runId : String) :
    Value :=
  .obj [("batchId", .int batchId), ("jobId", .str jobId),
    ("manifestFingerprint", .str manifestFingerprint),
    ("outputFingerprint", .str outputFingerprint), ("runId", .str runId)]

structure PublicationIdentity where
  jobId : String
  batchId : Nat
  runId : String
  manifestFingerprint : String
  outputFingerprint : String
  idempotencyKey : String
  deriving DecidableEq

/-- The batch id, which has to be there. -/
def requireBatchId : Option Int → Except Error Nat
  | some n =>
      if 0 ≤ n then .ok n.toNat
      else .error (.value "Continuous publication batch identity is invalid.")
  | none => .error (.value "Continuous publication batch identity is invalid.")

/-- `publication["icebergCommit"]`, or `{}` -/
def icebergCommit (publication : Value) : Value :=
  (publication.get "icebergCommit").dictOr

def commitTexts (commit : Value) : CommitTexts where
  operation := optionalText host (commit.get "operation")
  runId := optionalText host (commit.get "runId")
  snapshotId := optionalText host (commit.get "snapshotId")

def runIdText (publication : Value) : String :=
  (optionalText host (publication.get "runId")).elim "" Text.text

/-- `build_publication_identity` -/
def buildPublicationIdentity (jobId : String) (publication : Value) :
    Except Error PublicationIdentity := do
  let batch ← optionalInt host (publication.get "batchId")
  let batchId ← requireBatchId batch
  let runId := runIdText host publication
  rejectIf ((runIdPrefix jobId batchId).isPrefixOf runId.toList = false)
    (.value "Continuous publication run identity is invalid.")
  let ranges ← fingerprintSourceRanges host (publication.get "sourceRanges")
  let boundary ← fingerprintSourceBoundary host (publication.get "sourceBoundary")
  let manifestFingerprint := sha256Json host
    (manifestPayload (optionalText host (publication.get "manifestPath")) boundary ranges)
  let commit := icebergCommit publication
  let commitBoundary ← fingerprintSourceBoundary host (commit.get "sourceBoundary")
  let stored ← optionalInt host (publication.get "storedCount")
  let outputFingerprint := sha256Json host
    (outputPayload (optionalText host (publication.get "dataPath")) (commitTexts host commit)
      commitBoundary (stored.getD 0).toNat)
  return {
    jobId, batchId, runId, manifestFingerprint, outputFingerprint
    idempotencyKey := sha256Json host
      (keyPayload batchId jobId manifestFingerprint outputFingerprint runId) }

/-! ## What the ranges are read as -/

section
variable {host}

theorem optionalInt_reordered {v w : Value} (h : v.Reordered w) :
    optionalInt host v = optionalInt host w := by
  induction h with
  | trans _ _ ih ih' => exact ih.trans ih'
  | refl | item | field | keys => rfl

/-- Key and text of each range, in the order of the list. -/
def entries (host : PublicationHost) (value : Value) : List (Except Error RangeKey × Chars) :=
  (rangeItems value).map fun item => (rangeKey host item, item.canonicalText host.floatText)

/-- The texts that are digested to sort the ranges. -/
def rangeTexts (host : PublicationHost) (value : Value) : Set String :=
  { text | ∃ item ∈ rangeItems value, text = String.ofList (item.canonicalText host.floatText) }

def PlainTopics (value : Value) : Prop :=
  ∀ item ∈ rangeItems value, (item.get "topic").rigid = true

theorem rangeKey_reordered {v w : Value} (h : v.Reordered w) (htopic : (v.get "topic").rigid = true) :
    rangeKey host v = rangeKey host w := by
  rw [rangeKey, rangeKey, (h.get "topic").eq_of_rigid htopic,
    optionalInt_reordered (h.get "partition"), optionalInt_reordered (h.get "startOffset"),
    optionalInt_reordered (h.get "endOffset"), sha256Json, sha256Json, h.canonicalText]

/-- The order of keys does not show in the ranges. -/
theorem entries_reordered {v w : Value} (h : v.Reordered w) (hplain : PlainTopics v) :
    entries host v = entries host w ∧ PlainTopics w := by
  induction h with
  | refl => exact ⟨rfl, hplain⟩
  | trans _ _ ih ih' =>
      obtain ⟨heq, hmiddle⟩ := ih hplain
      obtain ⟨heq', hlast⟩ := ih' hmiddle
      exact ⟨heq.trans heq', hlast⟩
  | field | keys => exact ⟨rfl, hplain⟩
  | @item v w before after hvw _ =>
      have hitems : ∀ u : Value, rangeItems (.arr (before ++ u :: after)) =
          before.filter Value.isDict ++ ((if u.isDict then [u] else []) ++
            after.filter Value.isDict) := by
        intro u
        rw [rangeItems, List.filter_append, List.filter_cons]
        split <;> rfl
      by_cases hdict : v.isDict = true
      · have hdict' : w.isDict = true := hvw.isDict ▸ hdict
        have htopic : (v.get "topic").rigid = true := hplain v (by simp [hitems, hdict])
        have hget := (hvw.get "topic").eq_of_rigid htopic
        refine ⟨?_, ?_⟩
        · simp only [entries, hitems, hdict, hdict', if_true, List.map_append, List.map_cons,
            List.map_nil, rangeKey_reordered hvw htopic, hvw.canonicalText]
        · intro item hitem
          rw [hitems, hdict', if_pos rfl] at hitem
          rcases List.mem_append.mp hitem with hbefore | hrest
          · exact hplain item (by rw [hitems]; exact List.mem_append_left _ hbefore)
          rcases List.mem_append.mp hrest with hself | hafter
          · rw [List.mem_singleton.mp hself, hget]
            exact htopic
          · refine hplain item ?_
            rw [hitems]
            exact List.mem_append_right _ (List.mem_append_right _ hafter)
      · have hdict' : ¬ w.isDict = true := hvw.isDict ▸ hdict
        have hsame : rangeItems (.arr (before ++ w :: after)) =
            rangeItems (.arr (before ++ v :: after)) := by
          rw [hitems, hitems, if_neg hdict, if_neg hdict']
        rw [entries, entries, PlainTopics, hsame]
        exact ⟨rfl, hplain⟩

theorem rangeKey_digest {item : Value} {key : RangeKey} (h : rangeKey host item = .ok key) :
    key.2.2.2.2 = sha256Json host item := by
  obtain ⟨partition, -, h⟩ := bind_eq_ok.mp h
  obtain ⟨startOffset, -, h⟩ := bind_eq_ok.mp h
  obtain ⟨endOffset, -, h⟩ := bind_eq_ok.mp h
  rw [← pure_eq_ok.mp h]
  rfl

/-- The ranges with the keys they are sorted by. -/
theorem fingerprintSourceRanges_eq_ok {value : Value} {ranges : List Value} :
    fingerprintSourceRanges host value = .ok ranges ↔ ∃ keyed : List (RangeKey × Value),
      keyed.map Prod.snd = rangeItems value ∧ (∀ e ∈ keyed, rangeKey host e.2 = .ok e.1) ∧
      ranges = (keyed.insertionSort fun a b => a.1 ≤ b.1).map Prod.snd := by
  rw [fingerprintSourceRanges, bind_eq_ok]
  refine exists_congr fun keyed => ?_
  rw [mapM_eq_ok, pure_eq_ok, ← and_assoc]
  refine and_congr ?_ eq_comm
  have hstep : ∀ (item : Value) (e : RangeKey × Value),
      (do let key ← rangeKey host item; return (key, item)) = Except.ok (ε := Error) e ↔
        e.2 = item ∧ rangeKey host e.2 = .ok e.1 := by
    intro item e
    rw [bind_eq_ok]
    constructor
    · rintro ⟨key, hkey, h⟩
      cases pure_eq_ok.mp h
      exact ⟨rfl, hkey⟩
    · rintro ⟨rfl, hkey⟩
      exact ⟨e.1, hkey, rfl⟩
  generalize rangeItems value = items
  constructor
  · intro h
    induction h with
    | nil => exact ⟨rfl, by rintro _ ⟨⟩⟩
    | cons hhead _ ih =>
        obtain ⟨hitem, hkey⟩ := (hstep _ _).mp hhead
        exact ⟨by rw [List.map_cons, hitem, ih.1], List.forall_mem_cons.mpr ⟨hkey, ih.2⟩⟩
  · rintro ⟨hitems, hkeys⟩
    rw [← hitems, List.forall₂_map_left_iff, List.forall₂_same]
    exact fun e he => (hstep _ _).mpr ⟨rfl, hkeys e he⟩

/-- A range as it is sorted: its key and its text. -/
def shown (host : PublicationHost) (e : RangeKey × Value) : RangeKey × Chars :=
  (e.1, e.2.canonicalText host.floatText)

def keyLe (a b : RangeKey × Chars) : Prop := a.1 ≤ b.1

instance : DecidableRel keyLe := fun a b => inferInstanceAs (Decidable (a.1 ≤ b.1))

instance : IsTrans (RangeKey × Chars) keyLe := ⟨fun _ _ _ h h' => @le_trans RangeKey _ _ _ _ h h'⟩

instance : Std.Total keyLe := ⟨fun a b => @le_total RangeKey _ a.1 b.1⟩

theorem entries_eq_shown {value : Value} {keyed : List (RangeKey × Value)}
    (hitems : keyed.map Prod.snd = rangeItems value)
    (hkeys : ∀ e ∈ keyed, rangeKey host e.2 = .ok e.1) :
    entries host value = (keyed.map (shown host)).map fun q => (.ok q.1, q.2) := by
  rw [entries, ← hitems, List.map_map, List.map_map]
  refine List.map_congr_left fun e he => ?_
  simp only [Function.comp_apply, hkeys e he, shown]

theorem texts_of_sorted (keyed : List (RangeKey × Value)) :
    ((keyed.insertionSort fun a b => a.1 ≤ b.1).map Prod.snd).map
        (Value.canonicalText host.floatText) =
      ((keyed.map (shown host)).insertionSort keyLe).map Prod.snd := by
  rw [← List.map_insertionSort (fun a b : RangeKey × Value => a.1 ≤ b.1) keyLe (shown host) keyed
    fun _ _ _ _ => Iff.rfl, List.map_map, List.map_map]
  rfl

/-- Lists with the same entries, in any order, have one sorted text: ranges with one key have
one digest. -/
theorem fingerprintSourceRanges_of_perm {v w : Value} {ranges : List Value}
    (h : fingerprintSourceRanges host v = .ok ranges)
    (hperm : (entries host v).Perm (entries host w))
    (hfree : Set.InjOn host.sha256 (rangeTexts host v)) :
    ∃ ranges', fingerprintSourceRanges host w = .ok ranges' ∧
      ranges'.map (Value.canonicalText host.floatText) =
        ranges.map (Value.canonicalText host.floatText) := by
  obtain ⟨keyed, hitems, hkeys, rfl⟩ := fingerprintSourceRanges_eq_ok.mp h
  -- every range of the other list has its key as well
  have hreturns : ∀ item ∈ rangeItems w, ∃ key, rangeKey host item = .ok key := by
    intro item hitem
    have hentry : (rangeKey host item, item.canonicalText host.floatText) ∈ entries host v :=
      hperm.mem_iff.mpr (List.mem_map_of_mem hitem)
    obtain ⟨other, hother, heq⟩ := List.mem_map.mp hentry
    rw [← hitems] at hother
    obtain ⟨e, he, rfl⟩ := List.mem_map.mp hother
    exact ⟨e.1, (Prod.mk.inj heq).1 ▸ hkeys e he⟩
  obtain ⟨ranges', hranges'⟩ : ∃ ranges', fingerprintSourceRanges host w = .ok ranges' := by
    obtain ⟨keyed', hkeyed'⟩ := mapM_returns (f := fun item => do
      let key ← rangeKey host item
      return (key, item)) fun item hitem =>
        (hreturns item hitem).elim fun key hkey => ⟨(key, item), bind_eq_ok.mpr ⟨key, hkey, rfl⟩⟩
    exact ⟨_, bind_eq_ok.mpr ⟨keyed', hkeyed', rfl⟩⟩
  obtain ⟨keyed', hitems', hkeys', rfl⟩ := fingerprintSourceRanges_eq_ok.mp hranges'
  refine ⟨_, hranges', ?_⟩
  rw [texts_of_sorted, texts_of_sorted]
  have hshown : (keyed'.map (shown host)).Perm (keyed.map (shown host)) := by
    have hinj : Function.Injective fun q : RangeKey × Chars =>
        ((.ok q.1, q.2) : Except Error RangeKey × Chars) := by
      rintro ⟨a, b⟩ ⟨c, d⟩ heq
      obtain ⟨hkey, htext⟩ := Prod.mk.inj heq
      exact Prod.ext (Except.ok.inj hkey) htext
    rw [entries_eq_shown hitems hkeys, entries_eq_shown hitems' hkeys'] at hperm
    refine Multiset.coe_eq_coe.mp (Multiset.map_injective hinj ?_)
    rw [Multiset.map_coe, Multiset.map_coe]
    exact Multiset.coe_eq_coe.mpr hperm.symm
  refine congrArg (List.map Prod.snd) (List.Perm.eq_of_pairwise ?_
    (List.pairwise_insertionSort keyLe _) (List.pairwise_insertionSort keyLe _)
    (((List.perm_insertionSort keyLe _).trans hshown).trans (List.perm_insertionSort keyLe _).symm))
  intro a b ha hb hle hge
  have hkey : a.1 = b.1 := @le_antisymm RangeKey _ _ _ hle hge
  have hof : ∀ q ∈ keyed.map (shown host), String.ofList q.2 ∈ rangeTexts host v ∧
      q.1.2.2.2.2 = host.sha256 (String.ofList q.2) := by
    intro q hq
    obtain ⟨e, he, rfl⟩ := List.mem_map.mp hq
    exact ⟨⟨e.2, hitems ▸ List.mem_map_of_mem he, rfl⟩, rangeKey_digest (hkeys e he)⟩
  obtain ⟨hta, hda⟩ := hof a (hshown.mem_iff.mp ((List.perm_insertionSort keyLe _).mem_iff.mp ha))
  obtain ⟨htb, hdb⟩ := hof b ((List.perm_insertionSort keyLe _).mem_iff.mp hb)
  have htext := hfree hta htb (by rw [← hda, ← hdb, hkey])
  exact Prod.ext hkey (String.ofList_injective htext)

/-! ## What a boundary is read as -/

def isList : Value → Bool
  | .arr _ => true
  | _ => false

/-- The fields of a boundary in the order of their keys, with a hole for its ranges. -/
def boundaryRest (host : PublicationHost) : Value → Option (List (String × Option Chars))
  | .obj fields =>
      let holed := isList ((Value.obj fields).get "sourceRanges")
      some ((fields.map fun field => (field.1,
        if holed = true ∧ field.1 = "sourceRanges" then none
        else some (field.2.canonicalText host.floatText))).insertionSort byKey)
  | _ => none

/-- Two boundaries that are read alike, up to the order of their ranges. -/
structure SameBoundaryReading (host : PublicationHost) (v w : Value) : Prop where
  rest : boundaryRest host v = boundaryRest host w
  listed : isList (v.get "sourceRanges") = isList (w.get "sourceRanges")
  ranges : (entries host (v.get "sourceRanges")).Perm (entries host (w.get "sourceRanges"))

theorem isList_reordered {v w : Value} (h : v.Reordered w) : isList v = isList w := by
  induction h with
  | trans _ _ ih ih' => exact ih.trans ih'
  | refl | item | field | keys => rfl

theorem boundaryRest_reordered {v w : Value} (h : v.Reordered w) :
    boundaryRest host v = boundaryRest host w := by
  induction h with
  | refl => rfl
  | trans _ _ ih ih' => exact ih.trans ih'
  | item => rfl
  | field name before after hvw _ =>
      have hlisted := isList_reordered
        ((Value.Reordered.field name before after hvw).get "sourceRanges")
      simp only [boundaryRest, hlisted, List.map_append, List.map_cons, hvw.canonicalText]
  | keys hperm hnodup =>
      have hlisted := isList_reordered ((Value.Reordered.keys hperm hnodup).get "sourceRanges")
      simp only [boundaryRest, hlisted]
      refine congrArg some (sorted_eq_of_perm (hperm.map _) ?_)
      rwa [List.map_map]

theorem sameBoundaryReading_reordered {v w : Value} (h : v.Reordered w)
    (hplain : PlainTopics (v.get "sourceRanges")) : SameBoundaryReading host v w :=
  ⟨boundaryRest_reordered h, isList_reordered (h.get _),
    List.Perm.of_eq (entries_reordered (h.get _) hplain).1⟩

/-- The text of a boundary, from what it is read as. -/
def filled (text : Chars) (rest : List (String × Option Chars)) : Chars :=
  Value.dictText (rest.map fun field => (field.1, field.2.getD text))

theorem canonicalText_setField {fields : List (String × Value)} {ranges : List Value}
    (hlisted : isList ((Value.obj fields).get "sourceRanges") = true) :
    ∃ rest, boundaryRest host (.obj fields) = some rest ∧
      (Value.obj (setField "sourceRanges" (.arr ranges) fields)).canonicalText host.floatText =
        filled ((Value.arr ranges).canonicalText host.floatText) rest := by
  refine ⟨_, rfl, ?_⟩
  rw [Value.canonicalText_obj, filled, map_sorted fun o : Option Chars => o.getD _, setField,
    List.map_map, List.map_map]
  refine congrArg (fun l => Value.dictText (List.insertionSort byKey l))
    (List.map_congr_left fun field _ => ?_)
  by_cases hname : field.1 = "sourceRanges"
  · simp [hname, hlisted]
  · simp [hname]

theorem canonicalText_unlisted {fields : List (String × Value)} (text : Chars)
    (hlisted : isList ((Value.obj fields).get "sourceRanges") = false) :
    ∃ rest, boundaryRest host (.obj fields) = some rest ∧
      (Value.obj fields).canonicalText host.floatText = filled text rest := by
  refine ⟨_, rfl, ?_⟩
  rw [Value.canonicalText_obj, filled, map_sorted fun o : Option Chars => o.getD _, List.map_map]
  refine congrArg (fun l => Value.dictText (List.insertionSort byKey l))
    (List.map_congr_left fun field _ => ?_)
  simp [hlisted]

theorem fingerprintSourceBoundary_listed {fields : List (String × Value)}
    (hlisted : isList ((Value.obj fields).get "sourceRanges") = true) :
    fingerprintSourceBoundary host (.obj fields) =
      (fingerprintSourceRanges host ((Value.obj fields).get "sourceRanges")).map fun ranges =>
        .obj (setField "sourceRanges" (.arr ranges) fields) := by
  rw [fingerprintSourceBoundary]
  simp only [Value.get] at hlisted ⊢
  cases hlookup : fields.lookup "sourceRanges" with
  | none =>
      rw [hlookup] at hlisted
      cases hlisted
  | some value =>
      cases value with
      | arr items =>
          dsimp only [Option.getD_some]
          cases fingerprintSourceRanges host (.arr items) <;> rfl
      | null | bool | int | float | str | obj =>
          rw [hlookup] at hlisted
          cases hlisted

theorem fingerprintSourceBoundary_unlisted {fields : List (String × Value)}
    (hlisted : isList ((Value.obj fields).get "sourceRanges") = false) :
    fingerprintSourceBoundary host (.obj fields) = .ok (.obj fields) := by
  rw [fingerprintSourceBoundary]
  simp only [Value.get] at hlisted
  split
  · rename_i items hlookup
    rw [hlookup] at hlisted
    cases hlisted
  · rfl

/-- Boundaries that are read alike have one text. -/
theorem fingerprintSourceBoundary_of_same {v w boundary : Value}
    (h : fingerprintSourceBoundary host v = .ok boundary) (hsame : SameBoundaryReading host v w)
    (hfree : Set.InjOn host.sha256 (rangeTexts host (v.get "sourceRanges"))) :
    ∃ boundary', fingerprintSourceBoundary host w = .ok boundary' ∧
      boundary'.canonicalText host.floatText = boundary.canonicalText host.floatText := by
  obtain ⟨hrest, hlisted, hranges⟩ := hsame
  have hnone : ∀ u : Value, boundaryRest host u = none →
      fingerprintSourceBoundary host u = .ok .null := by
    intro u hu
    cases u with
    | obj fields => cases hu
    | null | bool | int | float | str | arr => rfl
  cases hv : boundaryRest host v with
  | none =>
      rw [hnone v hv] at h
      cases h
      exact ⟨.null, hnone w (hrest ▸ hv), rfl⟩
  | some rest =>
      have hw : boundaryRest host w = some rest := hrest ▸ hv
      cases v with
      | null | bool | int | float | str | arr => cases hv
      | obj fields =>
          cases w with
          | null | bool | int | float | str | arr => cases hw
          | obj fields' =>
              cases hl : isList ((Value.obj fields).get "sourceRanges") with
              | true =>
                  rw [fingerprintSourceBoundary_listed hl] at h
                  rw [fingerprintSourceBoundary_listed (hlisted ▸ hl)]
                  cases hread : fingerprintSourceRanges host
                      ((Value.obj fields).get "sourceRanges") with
                  | error e => rw [hread] at h; cases h
                  | ok ranges =>
                      rw [hread] at h
                      cases h
                      obtain ⟨ranges', hread', htexts⟩ :=
                        fingerprintSourceRanges_of_perm hread hranges hfree
                      rw [hread']
                      refine ⟨_, rfl, ?_⟩
                      obtain ⟨r, hr, htext⟩ := @canonicalText_setField host fields ranges hl
                      obtain ⟨r', hr', htext'⟩ :=
                        @canonicalText_setField host fields' ranges' (hlisted ▸ hl)
                      cases hv.symm.trans hr
                      cases hw.symm.trans hr'
                      rw [htext, htext', Value.canonicalText_arr, Value.canonicalText_arr, htexts]
              | false =>
                  rw [fingerprintSourceBoundary_unlisted hl] at h
                  cases h
                  refine ⟨_, fingerprintSourceBoundary_unlisted (hlisted ▸ hl), ?_⟩
                  obtain ⟨r, hr, htext⟩ := canonicalText_unlisted [] hl
                  obtain ⟨r', hr', htext'⟩ := canonicalText_unlisted [] (hlisted ▸ hl)
                  cases hv.symm.trans hr
                  cases hw.symm.trans hr'
                  rw [htext, htext']

end

end AskLake.KafkaPublication.Identity

/-
# `AskLake.Realtime.Parity` — what a comparison of two sums says

The evidence of a side is constructed from sums of any size, which are kept as texts:

    str(value) ⟶ Decimal ⟶ normalize ⟶ format "f" ⟶ zeros stripped

and `compare` compares the texts.  `normalize` rounds to the 28 digits of the context, so that
two sums have one text exactly when they are rounded to one number (`text_eq_iff`); a comparison
is exact where sums that are rounded alike are equal.
-/
import AskLake.Python.Decimal
import AskLake.Realtime.Rebuild

namespace AskLake.Realtime

open AskLake.Lib AskLake.Python

/-! ## `_decimal_text` -/

inductive EvidenceError
  | value (message : String)
  /-- `decimal.Overflow` -/
  | overflow
  deriving DecidableEq

/-- What `_decimal_text` does with the digits it gets. -/
def shortest (rendered : Chars) : Chars :=
  let rendered :=
    if '.' ∈ rendered then (rendered.rdropWhile (· = '0')).rdropWhile (· = '.') else rendered
  if rendered = ['-', '0'] ∨ rendered = [] then ['0'] else rendered

/-- `_decimal_text(value)`, of `str(value)` -/
def decimalText (text : String) : Except EvidenceError String :=
  match Decimal.parse text with
  | none => .error (.value "parity numeric sums must contain decimal values")
  | some .special => .error (.value "parity numeric sums must be finite")
  | some (.finite d) =>
      match d.normalize with
      | none => .error .overflow
      | some n => .ok (String.ofList (shortest n.plain))

/-! ## `ParityEvidence.__post_init__` -/

/-- The items of a dictionary are those of another one, with `f` of their values. -/
theorem items_of_mapM {ε : Type} {f : String → Except ε String} {items out : List (String × String)}
    (h : (items.mapM fun item => (f item.2).map fun text => (item.1, text)) = .ok out) :
    List.Forall₂ (fun a b => a.1 = b.1 ∧ f a.2 = .ok b.2) items out := by
  refine (mapM_eq_ok.mp h).imp fun a b hab => ?_
  cases hf : f a.2 with
  | error e =>
      rw [hf] at hab
      exact nomatch hab
  | ok text =>
      rw [hf] at hab
      cases Except.ok.inj hab
      exact ⟨rfl, rfl⟩

theorem keys_of_items {P : String → String → Prop} {items out : List (String × String)}
    (h : List.Forall₂ (fun a b => a.1 = b.1 ∧ P a.2 b.2) items out) :
    out.map Prod.fst = items.map Prod.fst := by
  induction h with
  | nil => rfl
  | cons hitem _ ih => rw [List.map_cons, List.map_cons, hitem.1, ih]

theorem sorted_of_mapM {ε : Type} {f : String → Except ε String} {items out : List (String × String)}
    (h : (items.mapM fun item => (f item.2).map fun text => (item.1, text)) = .ok out)
    (hsorted : items.Pairwise fun a b => a.1 < b.1) : out.Pairwise fun a b => a.1 < b.1 := by
  have hkeys := @keys_of_items (fun a b => f a = .ok b) _ _ (items_of_mapM h)
  refine List.pairwise_map.mp ?_
  rw [hkeys]
  exact List.pairwise_map.mpr hsorted

/-- The values of a dictionary, each through `f`. -/
def mapValues {ε : Type} (f : String → Except ε String) (dict : StrDict) : Except ε StrDict :=
  match h : dict.entries.mapM fun item => (f item.2).map fun text => (item.1, text) with
  | .error e => .error e
  | .ok entries => .ok ⟨entries, sorted_of_mapM h dict.sorted⟩

/-- What the evidence is constructed from; `numericSums` holds `str(value)` of each sum. -/
structure EvidenceFields where
  role : String
  datasetId : String
  pipelineVersionId : String
  bindingVersionId : String
  boundary : SourceBoundary
  dimensionVersionIds : StrDict
  rowCount : Int
  checksum : String
  distinctSourcePositionCount : Int
  schemaFingerprint : String
  nullCount : Int
  errorCount : Int
  numericSums : StrDict
  sampleHash : String

namespace EvidenceFields

variable (fields : EvidenceFields)

def identities : List String :=
  [fields.datasetId, fields.pipelineVersionId, fields.bindingVersionId, fields.checksum,
    fields.schemaFingerprint, fields.sampleHash]

def roleOf : Option EvidenceRole :=
  if fields.role = "hot" then some .hot
  else if fields.role = "archive" then some .archive
  else none

/-- `ParityEvidence(…)` -/
def construct : Except EvidenceError ParityEvidence := do
  let role ← orReject fields.roleOf (.value "parity evidence identity is incomplete")
  if hidentified : ∀ item ∈ fields.identities, blank item = false then
    rejectIf (fields.rowCount < 0 ∨ fields.distinctSourcePositionCount < 0 ∨
        fields.nullCount < 0 ∨ fields.errorCount < 0)
      (.value "parity evidence counters cannot be negative")
    if hdimensioned : ∀ item ∈ fields.dimensionVersionIds.entries,
        blank item.1 = false ∧ blank item.2 = false then
      let sums ← mapValues decimalText fields.numericSums
      if hsummed : ∀ item ∈ sums.entries, blank item.1 = false then
        pure
          { role
            datasetId := fields.datasetId
            pipelineVersionId := fields.pipelineVersionId
            bindingVersionId := fields.bindingVersionId
            boundary := fields.boundary
            dimensionVersionIds := fields.dimensionVersionIds
            rowCount := fields.rowCount.toNat
            checksum := fields.checksum
            distinctSourcePositionCount := fields.distinctSourcePositionCount.toNat
            schemaFingerprint := fields.schemaFingerprint
            nullCount := fields.nullCount.toNat
            errorCount := fields.errorCount.toNat
            numericSums := sums
            sampleHash := fields.sampleHash
            identified := hidentified
            dimensioned := hdimensioned
            summed := hsummed }
      else .error (.value "parity numeric sum field is invalid")
    else .error (.value "parity dimension version identity is invalid")
  else .error (.value "parity evidence identity is incomplete")

end EvidenceFields

theorem mapValues_eq_ok {ε : Type} {f : String → Except ε String} {dict out : StrDict}
    (h : mapValues f dict = .ok out) :
    List.Forall₂ (fun a b => a.1 = b.1 ∧ f a.2 = .ok b.2) dict.entries out.entries := by
  unfold mapValues at h
  split at h
  · exact nomatch h
  · rename_i entries hmap
    cases Except.ok.inj h
    exact items_of_mapM hmap

theorem EvidenceFields.construct_sums {fields : EvidenceFields} {evidence : ParityEvidence}
    (h : fields.construct = .ok evidence) :
    mapValues decimalText fields.numericSums = .ok evidence.numericSums := by
  obtain ⟨role, -, h⟩ := bind_eq_ok.mp h
  split at h
  · obtain ⟨_, -, h⟩ := bind_eq_ok.mp h
    split at h
    · obtain ⟨sums, hsums, h⟩ := bind_eq_ok.mp h
      split at h
      · cases pure_eq_ok.mp h
        exact hsums
      · cases h
    · cases h
  · cases h

/-! ## The text of a sum -/

/-- The number that a sum is, where it is finite. -/
def numericValue (text : String) : Option ℚ :=
  match Decimal.parse text with
  | some (.finite d) => some d.value
  | _ => none

/-- The number that is left of it in the precision of the context. -/
def roundedValue (text : String) : Option ℚ :=
  match Decimal.parse text with
  | some (.finite d) => d.rounded
  | _ => none

theorem rdropWhile_of_getLast {p : Char → Bool} {cs : Chars} {c : Char} (h : cs.getLast? = some c)
    (hc : p c = false) : cs.rdropWhile p = cs := by
  refine List.rdropWhile_eq_self_iff.mpr fun hne => ?_
  rw [List.getLast?_eq_getLast_of_ne_nil hne, Option.some.injEq] at h
  rw [h, hc]
  exact Bool.false_ne_true

/-- Of a stripped decimal nothing is stripped any more. -/
theorem shortest_plain {d : Decimal} (h : d.Stripped) :
    shortest d.plain = if d.coefficient = 0 then ['0'] else d.plain := by
  by_cases hzero : d.coefficient = 0
  · rw [if_pos hzero]
    unfold Decimal.plain
    rw [hzero, h.zero hzero]
    cases d.negative <;> decide
  · rw [if_neg hzero]
    have hsame : (if '.' ∈ d.plain then
        (d.plain.rdropWhile (· = '0')).rdropWhile (· = '.') else d.plain) = d.plain := by
      split
      · rename_i hpoint
        have hneg : d.exponent < 0 := by
          refine Int.not_le.mp fun hle => ?_
          unfold Decimal.plain at hpoint
          rcases List.mem_append.mp hpoint with hsign | hdigits
          · split at hsign
            · exact absurd (List.mem_singleton.mp hsign) (by decide)
            · exact nomatch hsign
          · exact Decimal.point_not_mem_plainDigits hle hdigits
        have hlast : d.plain.getLast? = some (d.coefficient % 10).digitChar := by
          unfold Decimal.plain
          rw [List.getLast?_append, Decimal.getLast_plainDigits hneg]
          rfl
        obtain ⟨h0, hdot⟩ := Decimal.digitChar_ne_zero (h.fraction hneg)
        rw [rdropWhile_of_getLast hlast (decide_eq_false h0),
          rdropWhile_of_getLast hlast (decide_eq_false hdot)]
      · rfl
    unfold shortest
    dsimp only
    rw [hsame]
    refine if_neg ?_
    rintro (hminus | hnil)
    · have hvalue := Decimal.readText_plain d
      rw [hminus] at hvalue
      have hnull := Decimal.readText_plain ⟨true, 0, 0⟩
      exact hzero (Decimal.value_eq_zero.mp
        (hvalue.symm.trans (hnull.trans (Decimal.value_eq_zero.mpr rfl))))
    · unfold Decimal.plain at hnil
      exact Decimal.plainDigits_ne_nil _ _ (List.append_eq_nil_iff.mp hnil).2

theorem shortest_eq_iff {a b : Decimal} (ha : a.Stripped) (hb : b.Stripped) :
    shortest a.plain = shortest b.plain ↔ a.value = b.value := by
  have hread : ∀ {d : Decimal}, d.Stripped → Decimal.readText (shortest d.plain) = d.value := by
    intro d hd
    rw [shortest_plain hd]
    split
    · rename_i hzero
      have hnull := Decimal.readText_plain ⟨false, 0, 0⟩
      rw [Decimal.value_eq_zero.mpr hzero]
      exact hnull.trans (Decimal.value_eq_zero.mpr rfl)
    · exact Decimal.readText_plain d
  constructor
  · intro h
    rw [← hread ha, ← hread hb, h]
  · intro h
    rw [shortest_plain ha, shortest_plain hb]
    by_cases hzero : a.coefficient = 0
    · have hzero' : b.coefficient = 0 :=
        Decimal.value_eq_zero.mp (h.symm.trans (Decimal.value_eq_zero.mpr hzero))
      rw [if_pos hzero, if_pos hzero']
    · have hzero' : b.coefficient ≠ 0 := fun hb₀ =>
        hzero (Decimal.value_eq_zero.mp (h.trans (Decimal.value_eq_zero.mpr hb₀)))
      rw [if_neg hzero, if_neg hzero', Decimal.plain_eq_of_value_eq ha hb hzero h]

theorem decimalText_eq_ok {text out : String} (h : decimalText text = .ok out) :
    ∃ d n, Decimal.parse text = some (.finite d) ∧ d.normalize = some n ∧
      out = String.ofList (shortest n.plain) := by
  unfold decimalText at h
  split at h
  · exact nomatch h
  · exact nomatch h
  · rename_i d hparse
    split at h
    · exact nomatch h
    · rename_i n hnormal
      exact ⟨d, n, hparse, hnormal, (Except.ok.inj h).symm⟩

/-- Two sums have one text exactly when they are rounded to one number. -/
theorem text_eq_iff {a b a' b' : String} (ha : decimalText a = .ok a')
    (hb : decimalText b = .ok b') : a' = b' ↔ roundedValue a = roundedValue b := by
  obtain ⟨d, n, hparse, hnormal, rfl⟩ := decimalText_eq_ok ha
  obtain ⟨e, m, hparse', hnormal', rfl⟩ := decimalText_eq_ok hb
  obtain ⟨hstripped, hrounded⟩ := Decimal.normalize_value hnormal
  obtain ⟨hstripped', hrounded'⟩ := Decimal.normalize_value hnormal'
  unfold roundedValue
  rw [hparse, hparse', String.ofList_inj, shortest_eq_iff hstripped hstripped']
  dsimp only
  rw [hrounded, hrounded', Option.some.injEq]

theorem roundedValue_eq_of_numericValue_eq {a b : String} (h : numericValue a = numericValue b) :
    roundedValue a = roundedValue b := by
  unfold numericValue at h
  unfold roundedValue
  split at h
  · split at h
    · exact Decimal.rounded_eq_of_value_eq (Option.some.inj h)
    · exact nomatch h
  · split at h
    · exact nomatch h
    · rfl

/-! ## Dictionaries that agree -/

/-- Two dictionaries have the same keys, and `f` of their values is the same. -/
structure Agree {α : Type*} (f : String → α) (a b : StrDict) : Prop where
  keys : ∀ key, key ∈ a.entries.map Prod.fst ↔ key ∈ b.entries.map Prod.fst
  values : ∀ key x y, (key, x) ∈ a.entries → (key, y) ∈ b.entries → f x = f y

theorem nodup_keys (dict : StrDict) : (dict.entries.map Prod.fst).Nodup := by
  refine List.pairwise_map.mpr (dict.sorted.imp ?_)
  intro a b hlt heq
  exact String.lt_irrefl _ (heq ▸ hlt)

/-- Two dictionaries with the same items are equal. -/
theorem agree_id {a b : StrDict} : Agree id a b ↔ a = b := by
  constructor
  · intro h
    have hmem : ∀ {a b : StrDict}, Agree id a b → ∀ item ∈ a.entries, item ∈ b.entries := by
      rintro a b h ⟨key, x⟩ hx
      obtain ⟨⟨_, y⟩, hy, rfl⟩ :=
        List.mem_map.mp ((h.keys key).mp (List.mem_map.mpr ⟨(key, x), hx, rfl⟩))
      rwa [show x = y from h.values _ x y hx hy]
    have hsymm : Agree id b a :=
      ⟨fun key => (h.keys key).symm, fun key x y hx hy => (h.values key y x hy hx).symm⟩
    have hperm : a.entries.Perm b.entries :=
      (List.perm_ext_iff_of_nodup (nodup_keys a).of_map (nodup_keys b).of_map).mpr fun item =>
        ⟨hmem h item, hmem hsymm item⟩
    have heq : a.entries = b.entries := hperm.eq_of_pairwise
      (fun x y _ _ hxy hyx => absurd (String.lt_trans hxy hyx) (String.lt_irrefl _))
      a.sorted b.sorted
    cases a
    cases b
    cases heq
    rfl
  · rintro rfl
    refine ⟨fun _ => Iff.rfl, fun key x y hx hy => ?_⟩
    exact congrArg Prod.snd (List.inj_on_of_nodup_map (nodup_keys a) hx hy rfl)

/-- What holds of the values of two dictionaries holds of what was made of them. -/
theorem agree_of_items {α β : Type*} {P : String → String → Prop} {f : String → α} {g : String → β}
    {a b a' b' : StrDict}
    (ha : List.Forall₂ (fun x y => x.1 = y.1 ∧ P x.2 y.2) a.entries a'.entries)
    (hb : List.Forall₂ (fun x y => x.1 = y.1 ∧ P x.2 y.2) b.entries b'.entries)
    (hP : ∀ {x y x' y'}, P x x' → P y y' → (g x' = g y' ↔ f x = f y)) :
    Agree g a' b' ↔ Agree f a b := by
  have hkeys : ∀ key, (key ∈ a'.entries.map Prod.fst ↔ key ∈ b'.entries.map Prod.fst) ↔
      (key ∈ a.entries.map Prod.fst ↔ key ∈ b.entries.map Prod.fst) := fun key => by
    rw [keys_of_items ha, keys_of_items hb]
  constructor
  · intro h
    refine ⟨fun key => (hkeys key).mp (h.keys key), fun key x y hx hy => ?_⟩
    obtain ⟨⟨_, x'⟩, hx', rfl, hpx⟩ := exists_right_of_mem ha hx
    obtain ⟨⟨_, y'⟩, hy', rfl, hpy⟩ := exists_right_of_mem hb hy
    exact (hP hpx hpy).mp (h.values _ x' y' hx' hy')
  · intro h
    refine ⟨fun key => (hkeys key).mpr (h.keys key), fun key x' y' hx' hy' => ?_⟩
    obtain ⟨⟨_, x⟩, hx, rfl, hpx⟩ := exists_left_of_mem ha hx'
    obtain ⟨⟨_, y⟩, hy, rfl, hpy⟩ := exists_left_of_mem hb hy'
    exact (hP hpx hpy).mpr (h.values _ x y hx hy)

/-- The texts of two sides are the same where their sums are rounded alike. -/
theorem numericSums_eq_iff {hotFields archiveFields : EvidenceFields}
    {hot archive : ParityEvidence} (hhot : hotFields.construct = .ok hot)
    (harchive : archiveFields.construct = .ok archive) :
    hot.numericSums = archive.numericSums ↔
      Agree roundedValue hotFields.numericSums archiveFields.numericSums :=
  agree_id.symm.trans (@agree_of_items _ _ (fun a b => decimalText a = .ok b) _ _ _ _ _ _
    (mapValues_eq_ok (EvidenceFields.construct_sums hhot))
    (mapValues_eq_ok (EvidenceFields.construct_sums harchive)) fun ha hb => text_eq_iff ha hb)

/-! ## The fields of a comparison -/

/-- The fields that `compare` compares. -/
inductive ParityField
  | datasetId
  | pipelineVersionId
  | sourceBoundary
  | dimensionVersionIds
  | rowCount
  | checksum
  | distinctSourcePositionCount
  | schemaFingerprint
  | nullCount
  | errorCount
  | numericSums
  | sampleHash
  deriving DecidableEq

namespace ParityField

def name : ParityField → String
  | datasetId => "datasetId"
  | pipelineVersionId => "pipelineVersionId"
  | sourceBoundary => "sourceBoundary"
  | dimensionVersionIds => "dimensionVersionIds"
  | rowCount => "rowCount"
  | checksum => "checksum"
  | distinctSourcePositionCount => "distinctSourcePositionCount"
  | schemaFingerprint => "schemaFingerprint"
  | nullCount => "nullCount"
  | errorCount => "errorCount"
  | numericSums => "numericSums"
  | sampleHash => "sampleHash"

/-- All of them, in the order of `compare`. -/
def all : List ParityField :=
  [datasetId, pipelineVersionId, sourceBoundary, dimensionVersionIds, rowCount, checksum,
    distinctSourcePositionCount, schemaFingerprint, nullCount, errorCount, numericSums, sampleHash]

/-- The two sides say the same of a field; `sums` is what it is for their sums to do so. -/
def Same (sums : Prop) (hot archive : ParityEvidence) : ParityField → Prop
  | datasetId => hot.datasetId = archive.datasetId
  | pipelineVersionId => hot.pipelineVersionId = archive.pipelineVersionId
  | sourceBoundary => hot.boundary = archive.boundary
  | dimensionVersionIds => hot.dimensionVersionIds = archive.dimensionVersionIds
  | rowCount => hot.rowCount = archive.rowCount
  | checksum => hot.checksum = archive.checksum
  | distinctSourcePositionCount =>
      hot.distinctSourcePositionCount = archive.distinctSourcePositionCount
  | schemaFingerprint => hot.schemaFingerprint = archive.schemaFingerprint
  | nullCount => hot.nullCount = archive.nullCount
  | errorCount => hot.errorCount = archive.errorCount
  | numericSums => sums
  | sampleHash => hot.sampleHash = archive.sampleHash

end ParityField

/-- The mismatches are the fields that differ, by their names, and a report is matched where there
are none. -/
structure ComparesTo (sums : Prop) (report : ArchiveParityReport) : Prop where
  named : ∀ field : ParityField, field.name ∈ report.mismatchFields ↔
    ¬ field.Same sums report.hot report.archive
  fields : ∀ name ∈ report.mismatchFields, ∃ field : ParityField, field.name = name
  matched : report.matched = true ↔
    ∀ field : ParityField, field.Same sums report.hot report.archive

/-- `compare` compares the texts of the sums. -/
theorem compare_texts {rt : Runtime} {hot archive : ParityEvidence} {report : ArchiveParityReport}
    (h : ArchiveParityReport.compare rt hot archive = .ok report) :
    report.hot = hot ∧ report.archive = archive ∧
      ComparesTo (hot.numericSums = archive.numericSums) report := by
  obtain ⟨_, -, h⟩ := bind_eq_ok.mp h
  cases pure_eq_ok.mp h
  have hmem : ∀ name, name ∈ ((ArchiveParityReport.comparisons hot archive).filter
      fun field => !field.2).map Prod.fst ↔
        (name, false) ∈ ArchiveParityReport.comparisons hot archive := by
    intro name
    simp
  have hnamed : ∀ field : ParityField, field.name ∈
      ((ArchiveParityReport.comparisons hot archive).filter fun field => !field.2).map Prod.fst ↔
        ¬ field.Same (hot.numericSums = archive.numericSums) hot archive := by
    intro field
    rw [hmem]
    cases field <;> simp [ArchiveParityReport.comparisons, ParityField.name, ParityField.Same]
  have hfields : ∀ name ∈ ((ArchiveParityReport.comparisons hot archive).filter
      fun field => !field.2).map Prod.fst, ∃ field : ParityField, field.name = name := by
    intro name hname
    have hcompared : name ∈ (ArchiveParityReport.comparisons hot archive).map Prod.fst :=
      List.mem_map.mpr ⟨_, (hmem name).mp hname, rfl⟩
    obtain ⟨field, -, rfl⟩ :=
      List.mem_map.mp (show name ∈ ParityField.all.map ParityField.name from hcompared)
    exact ⟨field, rfl⟩
  refine ⟨rfl, rfl, hnamed, hfields, ?_⟩
  rw [ArchiveParityReport.matched, List.isEmpty_iff]
  constructor
  · intro hempty field
    refine Classical.not_not.mp fun hdiffers => ?_
    exact List.eq_nil_iff_forall_not_mem.mp hempty _ ((hnamed field).mpr hdiffers)
  · intro hsame
    refine List.eq_nil_iff_forall_not_mem.mpr fun name hname => ?_
    obtain ⟨field, rfl⟩ := hfields name hname
    exact (hnamed field).mp hname (hsame field)

theorem comparesTo_congr {sums sums' : Prop} (h : sums ↔ sums') {report : ArchiveParityReport} :
    ComparesTo sums report ↔ ComparesTo sums' report := by
  rw [propext h]

/-- A report that is right about one reading of the sums is right about another one exactly where
the two agree. -/
theorem comparesTo_iff {sums sums' : Prop} {report : ArchiveParityReport}
    (h : ComparesTo sums report) : ComparesTo sums' report ↔ (sums ↔ sums') := by
  constructor
  · intro h'
    exact not_iff_not.mp ((h.named .numericSums).symm.trans (h'.named .numericSums))
  · intro hiff
    exact (comparesTo_congr hiff).mp h

/-! ## When a comparison is exact -/

/-- Sums that are the same in the precision of the context are the same. -/
def RoundingTells (hot archive : StrDict) : Prop :=
  Agree roundedValue hot archive → Agree numericValue hot archive

theorem agree_rounded_of_numeric {a b : StrDict} (h : Agree numericValue a b) :
    Agree roundedValue a b :=
  ⟨h.keys, fun key x y hx hy => roundedValue_eq_of_numericValue_eq (h.values key x y hx hy)⟩

/-- A report is right about the numbers exactly where rounding tells different ones apart. -/
theorem parity_exact_iff {rt : Runtime} {hotFields archiveFields : EvidenceFields}
    {hot archive : ParityEvidence} {report : ArchiveParityReport}
    (hhot : hotFields.construct = .ok hot) (harchive : archiveFields.construct = .ok archive)
    (hreport : ArchiveParityReport.compare rt hot archive = .ok report) :
    ComparesTo (Agree numericValue hotFields.numericSums archiveFields.numericSums) report ↔
      RoundingTells hotFields.numericSums archiveFields.numericSums := by
  obtain ⟨-, -, hcompares⟩ := compare_texts hreport
  rw [comparesTo_iff hcompares, numericSums_eq_iff hhot harchive]
  exact ⟨fun h => h.mp, fun h => ⟨h, agree_rounded_of_numeric⟩⟩

/-- Sums of at most 28 digits are told apart. -/
theorem roundingTells_of_short {hot archive : StrDict}
    (h : ∀ item, item ∈ hot.entries ∨ item ∈ archive.entries →
      ∃ d, Decimal.parse item.2 = some (.finite d) ∧ d.Short) : RoundingTells hot archive := by
  intro hagree
  have hvalue : ∀ item, item ∈ hot.entries ∨ item ∈ archive.entries →
      roundedValue item.2 = numericValue item.2 := by
    intro item hitem
    obtain ⟨d, hparse, hshort⟩ := h item hitem
    unfold roundedValue numericValue
    rw [hparse]
    exact Decimal.rounded_of_short hshort
  refine ⟨hagree.keys, fun key x y hx hy => ?_⟩
  rw [← hvalue (key, x) (Or.inl hx), ← hvalue (key, y) (Or.inr hy)]
  exact hagree.values key x y hx hy

/-! ## Two sums that are taken for one -/

/-- The evidence of a side with one sum. -/
def evidenceOf (role sum : String) : EvidenceFields where
  role := role
  datasetId := "orders"
  pipelineVersionId := "pipeline-1"
  bindingVersionId := "binding-1"
  boundary := ⟨[]⟩
  dimensionVersionIds := StrDict.empty
  rowCount := 2
  checksum := "c"
  distinctSourcePositionCount := 2
  schemaFingerprint := "s"
  nullCount := 0
  errorCount := 0
  numericSums := ⟨[("amount", sum)], List.pairwise_singleton _ _⟩
  sampleHash := "h"

/-- A runtime whose digests are all one. -/
def plainRuntime : Runtime := ⟨fun _ => "0", id, id⟩

theorem mapValues_single {ε : Type} {f : String → Except ε String} {dict : StrDict}
    {key value text : String} (hdict : dict.entries = [(key, value)]) (h : f value = .ok text) :
    ∃ out, mapValues f dict = .ok out ∧ out.entries = [(key, text)] := by
  have hitems : (dict.entries.mapM fun item => (f item.2).map fun text => (item.1, text)) =
      .ok [(key, text)] := by
    rw [hdict, List.mapM_cons, List.mapM_nil]
    dsimp only
    rw [h]
    rfl
  unfold mapValues
  split
  · rename_i e herror
    exact nomatch herror.symm.trans hitems
  · rename_i entries hentries
    exact ⟨_, rfl, Except.ok.inj (hentries.symm.trans hitems)⟩

theorem construct_evidenceOf {role sum text : String} {evidenceRole : EvidenceRole}
    (hrole : (evidenceOf role sum).roleOf = some evidenceRole) (h : decimalText sum = .ok text) :
    ∃ evidence, (evidenceOf role sum).construct = .ok evidence ∧ evidence.role = evidenceRole := by
  obtain ⟨sums, hsums, hentries⟩ :=
    @mapValues_single _ _ (evidenceOf role sum).numericSums _ _ _ rfl h
  have hidentified : ∀ item ∈ (evidenceOf role sum).identities, blank item = false := by
    show ∀ item ∈ ["orders", "pipeline-1", "binding-1", "c", "s", "h"], blank item = false
    decide
  have hsummed : ∀ item ∈ sums.entries, blank item.1 = false := by
    rw [hentries]
    intro item hitem
    rw [List.mem_singleton.mp hitem]
    exact (by decide : blank "amount" = false)
  have hcounts : ¬ ((2 : Int) < 0 ∨ (2 : Int) < 0 ∨ (0 : Int) < 0 ∨ (0 : Int) < 0) := by decide
  refine ⟨_, bind_eq_ok.mpr ⟨evidenceRole, orReject_eq_ok.mpr hrole,
    (dif_pos hidentified).trans (bind_eq_ok.mpr ⟨(), rejectIf_eq_ok.mpr hcounts,
      (dif_pos (fun _ h => nomatch h)).trans (bind_eq_ok.mpr ⟨sums, hsums,
        (dif_pos hsummed).trans rfl⟩)⟩)⟩, rfl⟩

/-- Two sides with one sum each are compared. -/
theorem compared {sum sum' text text' : String} (h : decimalText sum = .ok text)
    (h' : decimalText sum' = .ok text') :
    ∃ hot archive report, (evidenceOf "hot" sum).construct = .ok hot ∧
      (evidenceOf "archive" sum').construct = .ok archive ∧
      ArchiveParityReport.compare plainRuntime hot archive = .ok report := by
  obtain ⟨hot, hhot, hrole⟩ := @construct_evidenceOf "hot" sum text .hot rfl h
  obtain ⟨archive, harchive, hrole'⟩ := @construct_evidenceOf "archive" sum' text' .archive rfl h'
  refine ⟨hot, archive, _, hhot, harchive, bind_eq_ok.mpr ⟨(), rejectIf_eq_ok.mpr ?_, rfl⟩⟩
  rw [hrole, hrole']
  decide

theorem decimalText_of_parse {text : String} {d n : Decimal}
    (hparse : Decimal.parse text = some (.finite d)) (hnormal : d.normalize = some n) :
    decimalText text = .ok (String.ofList (shortest n.plain)) := by
  unfold decimalText
  rw [hparse]
  dsimp only
  rw [hnormal]

/-- Twenty-eight digits, and a fraction that the precision has no place for. -/
def oneTenth : String := "1000000000000000000000000000.1"

def twoTenths : String := "1000000000000000000000000000.2"

theorem parse_oneTenth : Decimal.parse oneTenth =
    some (.finite ⟨false, 10000000000000000000000000001, -1⟩) := by decide +kernel

theorem parse_twoTenths : Decimal.parse twoTenths =
    some (.finite ⟨false, 10000000000000000000000000002, -1⟩) := by decide +kernel

theorem different_sums_matched :
    ∃ hot archive report, (evidenceOf "hot" oneTenth).construct = .ok hot ∧
      (evidenceOf "archive" twoTenths).construct = .ok archive ∧
      ArchiveParityReport.compare plainRuntime hot archive = .ok report ∧
      ¬ ComparesTo (Agree numericValue (evidenceOf "hot" oneTenth).numericSums
        (evidenceOf "archive" twoTenths).numericSums) report := by
  have hone : Decimal.normalize ⟨false, 10000000000000000000000000001, -1⟩ =
      some ⟨false, 1, 27⟩ := by decide +kernel
  have htwo : Decimal.normalize ⟨false, 10000000000000000000000000002, -1⟩ =
      some ⟨false, 1, 27⟩ := by decide +kernel
  have htext := decimalText_of_parse parse_oneTenth hone
  have htext' := decimalText_of_parse parse_twoTenths htwo
  obtain ⟨hot, archive, report, hhot, harchive, hreport⟩ := compared htext htext'
  refine ⟨hot, archive, report, hhot, harchive, hreport, fun hexact => ?_⟩
  obtain ⟨-, -, hcompares⟩ := compare_texts hreport
  have hrounded : Agree roundedValue (evidenceOf "hot" oneTenth).numericSums
      (evidenceOf "archive" twoTenths).numericSums := by
    refine ⟨fun _ => Iff.rfl, fun key x y hx hy => ?_⟩
    cases List.mem_singleton.mp hx
    cases List.mem_singleton.mp hy
    exact (text_eq_iff htext htext').mp rfl
  have hnumeric := ((comparesTo_iff hcompares).mp hexact).mp
    ((numericSums_eq_iff hhot harchive).mpr hrounded)
  have hvalues := hnumeric.values "amount" _ _ List.mem_cons_self List.mem_cons_self
  unfold numericValue at hvalues
  rw [parse_oneTenth, parse_twoTenths] at hvalues
  norm_num [Decimal.value, Decimal.magnitude] at hvalues

theorem parity_exact_short :
    ∃ hot archive report, (evidenceOf "hot" "10.50").construct = .ok hot ∧
      (evidenceOf "archive" "1.05E1").construct = .ok archive ∧
      ArchiveParityReport.compare plainRuntime hot archive = .ok report ∧
      (ComparesTo (Agree numericValue (evidenceOf "hot" "10.50").numericSums
        (evidenceOf "archive" "1.05E1").numericSums) report ↔
          RoundingTells (evidenceOf "hot" "10.50").numericSums
            (evidenceOf "archive" "1.05E1").numericSums) := by
  obtain ⟨hot, archive, report, hhot, harchive, hreport⟩ :=
    @compared "10.50" "1.05E1" "10.5" "10.5" (by decide +kernel) (by decide +kernel)
  exact ⟨hot, archive, report, hhot, harchive, hreport, parity_exact_iff hhot harchive hreport⟩

end AskLake.Realtime

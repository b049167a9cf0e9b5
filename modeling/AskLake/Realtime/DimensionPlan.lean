/-
# `AskLake.Realtime.DimensionPlan` — the rows of one version of a dimension

`build_dimension_plan` sorts the rows it is given by

    key, start of validity, row version

and accepts the sorted list or raises: in a current plan every key is there once, without bounds;
in a temporal plan each row starts where the last row of its key stopped, or later.  Datetimes
are microseconds since the first of January of the year 1, with the offset of their time zone, if
they have one; `astimezone(UTC)` raises `OverflowError` where the instant has no datetime in UTC.

`json.dumps` of a payload and `isoformat` are parameters.
-/
import Mathlib.Data.List.Lex
import AskLake.Lib.Calendar
import AskLake.Lib.HalfOpen
import AskLake.Realtime.SourceBoundary

namespace AskLake.Realtime

open AskLake.Lib AskLake.Python

/-! ## Datetimes -/

/-- The first instant after the last datetime. -/
def endOfTime : Int := Calendar.daysBeforeYear 10000 * 86400000000

/-- A `datetime`, naive or aware. -/
structure DateTime where
  wall : Int
  utcoffset : Option Int
  inRange : 0 ≤ wall ∧ wall < endOfTime
  deriving DecidableEq

/-- The instant of a datetime; a naive one is read as UTC. -/
def DateTime.instant (d : DateTime) : Int := d.wall - d.utcoffset.getD 0

def DateTime.Representable (d : DateTime) : Prop := 0 ≤ d.instant ∧ d.instant < endOfTime

instance (d : DateTime) : Decidable d.Representable := inferInstanceAs (Decidable (_ ∧ _))

inductive PlanError
  | value (message : String)
  /-- `OverflowError` -/
  | overflow
  /-- `TypeError` of `json.dumps` -/
  | notSerializable
  deriving DecidableEq

/-- `_utc(value)` -/
def utc : Option DateTime → Except PlanError (Option Int)
  | none => .ok none
  | some d => if d.Representable then .ok (some d.instant) else .error .overflow

/-! ## `build_dimension_plan` -/

structure DimensionRow (P : Type) where
  key : String
  payload : P
  validFrom : Option DateTime
  validTo : Option DateTime
  rowVersion : Int
  bounded : blank key = false ∧ key.length ≤ 2000
  positive : 1 ≤ rowVersion

structure DimensionPlan (P : Type) where
  semantics : String
  rows : List (DimensionRow P)
  rowCount : Nat
  checksum : String

section

variable {P : Type}

/-- `(item.key, _utc(item.valid_from) or datetime.min, item.row_version)` -/
def DimensionRow.sortKey (row : DimensionRow P) : String ×ₗ Int ×ₗ Int :=
  toLex (row.key, toLex ((row.validFrom.map DateTime.instant).getD 0, row.rowVersion))

/-- `sorted(rows, key=…)`: the keys are computed first. -/
def sortedRows (rows : List (DimensionRow P)) : Except PlanError (List (DimensionRow P)) := do
  let _ ← rows.mapM fun row => utc row.validFrom
  pure (rows.insertionSort fun a b => a.sortKey ≤ b.sortKey)

/-- What the loop of `_validate_temporal_intervals` checks of the bounds of one row. -/
def properInterval : Option Int → Option Int → Except PlanError (HalfOpen Int)
  | none, _ => .error (.value "temporal dimension rows require valid_from")
  | some start, stop =>
      if h : ∀ e, stop = some e → start < e then .ok ⟨start, stop, h⟩
      else .error (.value "temporal interval must be half-open with valid_to after valid_from")

/-- The interval of a row. -/
def intervalOf (row : DimensionRow P) : Except PlanError (HalfOpen Int) := do
  let start ← utc row.validFrom
  let stop ← utc row.validTo
  properInterval start stop

/-- The rest of the loop of `_validate_temporal_intervals`; `previous` is `previous_by_key`. -/
def validateTemporalIntervals :
    List (DimensionRow P) → List (String × DimensionRow P) → Except PlanError Unit
  | [], _ => .ok ()
  | item :: rest, previous => do
      let interval ← intervalOf item
      match previous.lookup item.key with
      | some row =>
          let stop ← utc row.validTo
          rejectIf (¬ ∃ e ∈ stop, e ≤ interval.start)
            (.value ("temporal dimension intervals overlap for key " ++ item.key))
          validateTemporalIntervals rest ((item.key, item) :: previous)
      | none => validateTemporalIntervals rest ((item.key, item) :: previous)

/-- The checks of one semantics. -/
def validateRows (semantics : String) (rows : List (DimensionRow P)) : Except PlanError Unit := do
  rejectIf (semantics ≠ "current" ∧ semantics ≠ "temporal")
    (.value "dimension semantics must be current or temporal")
  if semantics = "current" then do
    rejectIf (¬ (rows.map DimensionRow.key).Nodup)
      (.value "current dimension keys must be unique within a version")
    rejectIf (∃ row ∈ rows, row.validFrom ≠ none ∨ row.validTo ≠ none)
      (.value "current dimension rows cannot contain temporal bounds")
  else validateTemporalIntervals rows []

variable (rt : Runtime) (isoformat : Int → String) (encode : P → Option Json)

/-- The text of an instant in a document. -/
def boundDocument : Option Int → Json
  | some instant => .str (isoformat instant)
  | none => .null

/-- The line of a row in the digest. -/
def rowLine (row : DimensionRow P) : Except PlanError String := do
  let payload ← orReject (encode row.payload) .notSerializable
  let validFrom ← utc row.validFrom
  let validTo ← utc row.validTo
  pure (Json.dumpsSorted true
    (.obj [("key", .str row.key), ("payload", payload),
      ("validFrom", boundDocument isoformat validFrom),
      ("validTo", boundDocument isoformat validTo), ("rowVersion", .int row.rowVersion)]) ++ "\n")

def buildDimensionPlan (semantics : String) (rows : List (DimensionRow P)) :
    Except PlanError (DimensionPlan P) := do
  let normalized ← sortedRows rows
  validateRows semantics normalized
  let lines ← normalized.mapM (rowLine isoformat encode)
  pure ⟨semantics, normalized, normalized.length, rt.sha256 (String.join lines)⟩

end

/-! ## The interval of a row -/

section

variable {P : Type}

/-- The predicate that the compiler injects, at an instant. -/
def Active (row : DimensionRow P) (t : Int) : Prop :=
  (∃ d, row.validFrom = some d ∧ d.instant ≤ t) ∧ ∀ d, row.validTo = some d → t < d.instant

theorem utc_eq_ok {value : Option DateTime} {instant : Option Int} :
    utc value = .ok instant ↔
      instant = value.map DateTime.instant ∧ ∀ d, value = some d → d.Representable := by
  cases value with
  | none =>
      constructor
      · intro h
        cases Except.ok.inj h
        exact ⟨rfl, fun d hd => nomatch hd⟩
      · rintro ⟨rfl, -⟩
        rfl
  | some d =>
      unfold utc
      dsimp only
      constructor
      · intro h
        split at h
        · rename_i hd
          cases Except.ok.inj h
          exact ⟨rfl, by rintro _ ⟨⟩; exact hd⟩
        · exact nomatch h
      · rintro ⟨rfl, hd⟩
        exact if_pos (hd d rfl)

theorem properInterval_eq_ok {start stop : Option Int} {interval : HalfOpen Int} :
    properInterval start stop = .ok interval ↔
      start = some interval.start ∧ stop = interval.stop := by
  cases start with
  | none => exact ⟨fun h => (nomatch h), fun h => (nomatch h.1)⟩
  | some start =>
      rw [properInterval]
      constructor
      · intro h
        split at h
        · cases Except.ok.inj h
          exact ⟨rfl, rfl⟩
        · exact nomatch h
      · rintro ⟨hstart, rfl⟩
        cases Option.some.inj hstart
        exact dif_pos interval.proper

/-- A row has an interval where its bounds are instants of UTC datetimes, the first one is there,
and the second one is later. -/
theorem intervalOf_eq_ok {row : DimensionRow P} {interval : HalfOpen Int} :
    intervalOf row = .ok interval ↔
      ((∀ d, row.validFrom = some d → d.Representable) ∧
        ∀ d, row.validTo = some d → d.Representable) ∧
      row.validFrom.map DateTime.instant = some interval.start ∧
        row.validTo.map DateTime.instant = interval.stop := by
  unfold intervalOf
  rw [bind_eq_ok]
  constructor
  · rintro ⟨start, hstart, h⟩
    obtain ⟨stop, hstop, h⟩ := bind_eq_ok.mp h
    obtain ⟨rfl, hfrom⟩ := utc_eq_ok.mp hstart
    obtain ⟨rfl, hto⟩ := utc_eq_ok.mp hstop
    exact ⟨⟨hfrom, hto⟩, properInterval_eq_ok.mp h⟩
  · rintro ⟨⟨hfrom, hto⟩, h⟩
    exact ⟨_, utc_eq_ok.mpr ⟨rfl, hfrom⟩, bind_eq_ok.mpr ⟨_, utc_eq_ok.mpr ⟨rfl, hto⟩,
      properInterval_eq_ok.mpr h⟩⟩

theorem active_iff {row : DimensionRow P} {interval : HalfOpen Int}
    (h : intervalOf row = .ok interval) {t : Int} : Active row t ↔ interval.Contains t := by
  obtain ⟨-, hstart, hstop⟩ := intervalOf_eq_ok.mp h
  unfold Active HalfOpen.Contains
  rw [← hstop]
  refine and_congr ⟨?_, fun hle => ?_⟩ ⟨?_, fun hlt d hd => ?_⟩
  · rintro ⟨d, hd, hle⟩
    rw [hd] at hstart
    exact (Option.some.inj hstart) ▸ hle
  · obtain ⟨d, hd, hinstant⟩ := Option.map_eq_some_iff.mp hstart
    exact ⟨d, hd, hinstant ▸ hle⟩
  · rintro hlt e he
    obtain ⟨d, hd, rfl⟩ := Option.map_eq_some_iff.mp he
    exact hlt d hd
  · exact hlt _ (by rw [hd]; rfl)

/-- The first interval is before the second one, where the rows have one key. -/
def IntervalsApart (a b : DimensionRow P) : Prop :=
  a.key = b.key → ∀ i j, intervalOf a = .ok i → intervalOf b = .ok j → i.Before j

/-- A row whose bounds are well formed. -/
def Proper (row : DimensionRow P) : Prop := ∃ interval, intervalOf row = .ok interval

theorem IntervalsApart.trans {a b c : DimensionRow P} (h : IntervalsApart a b)
    (h' : IntervalsApart b c) (hb : Proper b) (hkey : a.key = b.key) : IntervalsApart a c := by
  intro hkey' i k hi hk
  obtain ⟨j, hj⟩ := hb
  exact (h hkey i j hi hj).trans (h' (hkey.symm.trans hkey') j k hj hk)

/-- One step of the loop. -/
theorem validate_cons {item : DimensionRow P} {rest : List (DimensionRow P)}
    {previous : List (String × DimensionRow P)}
    (hprevious : ∀ key row, previous.lookup key = some row → row.key = key ∧ Proper row) :
    validateTemporalIntervals (item :: rest) previous = .ok () ↔
      Proper item ∧ (∀ row, previous.lookup item.key = some row → IntervalsApart row item) ∧
        validateTemporalIntervals rest ((item.key, item) :: previous) = .ok () := by
  rw [validateTemporalIntervals, bind_eq_ok]
  cases hlookup : previous.lookup item.key with
  | none =>
      dsimp only
      constructor
      · rintro ⟨interval, hinterval, h⟩
        exact ⟨⟨interval, hinterval⟩, fun row hrow => (nomatch hrow), h⟩
      · rintro ⟨⟨interval, hinterval⟩, -, h⟩
        exact ⟨interval, hinterval, h⟩
  | some row =>
      obtain ⟨hkey, i, hi⟩ := hprevious _ _ hlookup
      obtain ⟨⟨-, hto⟩, -, hstop⟩ := intervalOf_eq_ok.mp hi
      have hutc : utc row.validTo = .ok i.stop := utc_eq_ok.mpr ⟨hstop.symm, hto⟩
      dsimp only
      rw [hutc]
      constructor
      · rintro ⟨interval, hinterval, h⟩
        obtain ⟨_, ⟨⟩, h⟩ := bind_eq_ok.mp h
        obtain ⟨_, hreject, h⟩ := bind_eq_ok.mp h
        refine ⟨⟨interval, hinterval⟩, ?_, h⟩
        rintro _ ⟨⟩ - i' j hi' hj
        cases Except.ok.inj (hi.symm.trans hi')
        cases Except.ok.inj (hinterval.symm.trans hj)
        have hbefore := rejectIf_eq_ok.mp hreject
        exact Classical.not_not.mp hbefore
      · rintro ⟨⟨interval, hinterval⟩, hapart, h⟩
        refine ⟨interval, hinterval, bind_eq_ok.mpr ⟨i.stop, rfl,
          bind_eq_ok.mpr ⟨(), rejectIf_eq_ok.mpr ?_, h⟩⟩⟩
        exact Classical.not_not.mpr (hapart row rfl hkey i interval hi hinterval)

/-- The loop returns where every row is well formed and before the later rows of its key; it is
enough to look at the last one. -/
theorem validate_iff {rest : List (DimensionRow P)} {previous : List (String × DimensionRow P)}
    (hprevious : ∀ key row, previous.lookup key = some row → row.key = key ∧ Proper row) :
    validateTemporalIntervals rest previous = .ok () ↔
      (∀ row ∈ rest, Proper row) ∧ rest.Pairwise IntervalsApart ∧
        ∀ key row, previous.lookup key = some row → ∀ later ∈ rest, IntervalsApart row later := by
  induction rest generalizing previous with
  | nil =>
      exact ⟨fun _ => ⟨fun _ h => (nomatch h), .nil, fun _ _ _ _ h => (nomatch h)⟩, fun _ => rfl⟩
  | cons item rest ih =>
      rw [validate_cons hprevious]
      have hnext : Proper item → ∀ key row,
          ((item.key, item) :: previous).lookup key = some row → row.key = key ∧ Proper row := by
        intro hproper key row hrow
        rw [List.lookup_cons] at hrow
        split at hrow
        · rename_i heq
          cases Option.some.inj hrow
          exact ⟨(beq_iff_eq.mp heq).symm, hproper⟩
        · exact hprevious key row hrow
      constructor
      · rintro ⟨hproper, hlast, hrest⟩
        obtain ⟨hall, hpairwise, hlater⟩ := (ih (hnext hproper)).mp hrest
        have hitem : ∀ later ∈ rest, IntervalsApart item later :=
          hlater item.key item (by rw [List.lookup_cons, beq_self_eq_true])
        refine ⟨List.forall_mem_cons.mpr ⟨hproper, hall⟩,
          List.pairwise_cons.mpr ⟨hitem, hpairwise⟩, fun key row hrow later hmem => ?_⟩
        rcases List.mem_cons.mp hmem with rfl | hmem
        · intro hkey
          have hrowKey := (hprevious key row hrow).1
          exact hlast row (by rw [← hkey, hrowKey]; exact hrow) hkey
        · by_cases hkey : key = item.key
          · subst hkey
            exact (hlast row hrow).trans (hitem later hmem) hproper (hprevious _ _ hrow).1
          · refine hlater key row ?_ later hmem
            rw [List.lookup_cons, beq_false_of_ne hkey]
            exact hrow
      · rintro ⟨hall, hpairwise, hlater⟩
        obtain ⟨hproper, hall⟩ := List.forall_mem_cons.mp hall
        obtain ⟨hitem, hpairwise⟩ := List.pairwise_cons.mp hpairwise
        refine ⟨hproper, fun row hrow => hlater _ row hrow item List.mem_cons_self,
          (ih (hnext hproper)).mpr ⟨hall, hpairwise, fun key row hrow later hmem => ?_⟩⟩
        rw [List.lookup_cons] at hrow
        split at hrow
        · cases Option.some.inj hrow
          exact hitem later hmem
        · exact hlater key row hrow later (List.mem_cons_of_mem _ hmem)

/-! ## Sorted rows -/

/-- The order of the sort. -/
def SortedBefore (a b : DimensionRow P) : Prop := a.sortKey ≤ b.sortKey

/-- The rows that `build_dimension_plan` goes through. -/
def arranged (rows : List (DimensionRow P)) : List (DimensionRow P) :=
  rows.insertionSort fun a b => a.sortKey ≤ b.sortKey

theorem arranged_perm (rows : List (DimensionRow P)) : (arranged rows).Perm rows :=
  List.perm_insertionSort _ rows

theorem arranged_sorted (rows : List (DimensionRow P)) : (arranged rows).Pairwise SortedBefore := by
  have : Std.Total fun a b : DimensionRow P => a.sortKey ≤ b.sortKey :=
    ⟨fun a b => le_total a.sortKey b.sortKey⟩
  have : IsTrans (DimensionRow P) fun a b => a.sortKey ≤ b.sortKey :=
    ⟨fun _ _ _ hab hbc => hab.trans hbc⟩
  exact List.pairwise_insertionSort (fun a b => a.sortKey ≤ b.sortKey) rows

theorem sortedRows_eq_ok {rows sorted : List (DimensionRow P)} :
    sortedRows rows = .ok sorted ↔
      (∀ row ∈ rows, ∀ d, row.validFrom = some d → d.Representable) ∧ sorted = arranged rows := by
  unfold sortedRows
  rw [bind_eq_ok]
  constructor
  · rintro ⟨bounds, hbounds, h⟩
    refine ⟨fun row hrow => ?_, (pure_eq_ok.mp h).symm⟩
    obtain ⟨bound, -, hbound⟩ := exists_right_of_mem (mapM_eq_ok.mp hbounds) hrow
    exact (utc_eq_ok.mp hbound).2
  · rintro ⟨hrows, rfl⟩
    refine ⟨rows.map fun row => row.validFrom.map DateTime.instant, mapM_eq_ok.mpr ?_, rfl⟩
    rw [List.forall₂_map_right_iff]
    exact List.forall₂_same.mpr fun row hrow => utc_eq_ok.mpr ⟨rfl, hrows row hrow⟩

/-- Rows with one sort key have one key and start at one instant. -/
theorem eq_of_sortKey {a b : DimensionRow P} (h : a.sortKey = b.sortKey) :
    a.key = b.key ∧
      (a.validFrom.map DateTime.instant).getD 0 = (b.validFrom.map DateTime.instant).getD 0 := by
  unfold DimensionRow.sortKey at h
  have hpair := toLex.injective h
  obtain ⟨hkey, hrest⟩ := Prod.mk.injEq .. ▸ hpair
  exact ⟨hkey, (Prod.mk.injEq .. ▸ toLex.injective hrest).1⟩

/-- In the order of the sort the rows of one key are in the order of their starts. -/
theorem start_le_of_sorted {a b : DimensionRow P} (h : SortedBefore a b) (hkey : a.key = b.key) :
    (a.validFrom.map DateTime.instant).getD 0 ≤ (b.validFrom.map DateTime.instant).getD 0 := by
  unfold SortedBefore DimensionRow.sortKey at h
  rw [hkey] at h
  rcases Prod.Lex.toLex_le_toLex.mp h with hlt | ⟨-, hle⟩
  · exact absurd hlt (lt_irrefl _)
  · rcases Prod.Lex.toLex_le_toLex.mp hle with hlt | ⟨heq, -⟩
    · exact le_of_lt hlt
    · exact le_of_eq heq

/-- Rows that no two of have one sort key are sorted in one way. -/
theorem arranged_eq {rows rows' : List (DimensionRow P)} (hperm : rows'.Perm rows)
    (hkeys : (arranged rows).Pairwise fun a b => a.sortKey ≠ b.sortKey) :
    arranged rows' = arranged rows := by
  have hpermArranged : (arranged rows').Perm (arranged rows) :=
    (arranged_perm rows').trans (hperm.trans (arranged_perm rows).symm)
  have hinj := List.inj_on_of_nodup_map (List.pairwise_map.mpr hkeys)
  refine hpermArranged.eq_of_pairwise (fun a b ha hb hab hba => ?_) (arranged_sorted rows')
    (arranged_sorted rows)
  exact hinj (hpermArranged.mem_iff.mp ha) hb (le_antisymm hab hba)

/-! ## Temporal plans -/

theorem IntervalsApart.sortKey_ne {a b : DimensionRow P} (h : IntervalsApart a b) (ha : Proper a)
    (hb : Proper b) :
    a.sortKey ≠ b.sortKey := by
  intro heq
  obtain ⟨hkey, hstart⟩ := eq_of_sortKey heq
  obtain ⟨i, hi⟩ := ha
  obtain ⟨j, hj⟩ := hb
  have hlt := (h hkey i j hi hj).start_lt
  rw [(intervalOf_eq_ok.mp hi).2.1, (intervalOf_eq_ok.mp hj).2.1] at hstart
  exact absurd hstart (ne_of_lt hlt)

/-- Two rows of one key are not both active. -/
theorem IntervalsApart.not_both {a b : DimensionRow P} (h : IntervalsApart a b) (ha : Proper a)
    (hb : Proper b)
    (hkey : a.key = b.key) {t : Int} (hactive : Active a t) : ¬ Active b t := by
  obtain ⟨i, hi⟩ := ha
  obtain ⟨j, hj⟩ := hb
  rw [active_iff hi] at hactive
  rw [active_iff hj]
  exact (h hkey i j hi hj).apart hactive

/-- No instant is in the intervals of two rows of one key. -/
def NonOverlapping (rows : List (DimensionRow P)) : Prop :=
  rows.Pairwise fun a b => a.key = b.key → ∀ t, Active a t → ¬ Active b t

/-- A row that has a start, and stops after it if it stops. -/
def WellFormed (row : DimensionRow P) : Prop :=
  ∃ d, row.validFrom = some d ∧ ∀ e, row.validTo = some e → d.instant < e.instant

/-- The bounds of a row are instants that have a datetime in UTC. -/
def InUtc (row : DimensionRow P) : Prop :=
  (∀ d, row.validFrom = some d → d.Representable) ∧ ∀ d, row.validTo = some d → d.Representable

theorem proper_iff {row : DimensionRow P} : Proper row ↔ WellFormed row ∧ InUtc row := by
  constructor
  · rintro ⟨interval, h⟩
    obtain ⟨hutc, hstart, hstop⟩ := intervalOf_eq_ok.mp h
    obtain ⟨d, hd, hinstant⟩ := Option.map_eq_some_iff.mp hstart
    refine ⟨⟨d, hd, fun e he => ?_⟩, hutc⟩
    rw [hinstant]
    exact interval.proper _ (by rw [← hstop, he]; rfl)
  · rintro ⟨⟨d, hd, hlater⟩, hutc⟩
    refine ⟨⟨d.instant, row.validTo.map DateTime.instant, fun e he => ?_⟩,
      intervalOf_eq_ok.mpr ⟨hutc, by rw [hd]; rfl, rfl⟩⟩
    obtain ⟨d', hd', rfl⟩ := Option.map_eq_some_iff.mp he
    exact hlater d' hd'

theorem NonOverlapping.perm {rows rows' : List (DimensionRow P)} (h : NonOverlapping rows)
    (hperm : rows.Perm rows') : NonOverlapping rows' :=
  (hperm.pairwise_iff fun hab hkey t hb ha => hab hkey.symm t ha hb).mp h

/-- Sorted rows that do not overlap are each before the later ones of their key. -/
theorem apart_of_nonOverlapping {rows : List (DimensionRow P)} (h : NonOverlapping rows) :
    (arranged rows).Pairwise IntervalsApart := by
  have hsorted := (h.perm (arranged_perm rows).symm).and (arranged_sorted rows)
  refine hsorted.imp ?_
  rintro a b ⟨hnot, hle⟩ hkey i j hi hj
  have hstart := start_le_of_sorted hle hkey
  rw [(intervalOf_eq_ok.mp hi).2.1, (intervalOf_eq_ok.mp hj).2.1] at hstart
  exact HalfOpen.before_of_apart hstart fun t ha hb =>
    hnot hkey t ((active_iff hi).mpr ha) ((active_iff hj).mpr hb)

/-- What the checks of both semantics are worth. -/
theorem validateRows_eq_ok {semantics : String} {rows : List (DimensionRow P)} :
    validateRows semantics rows = .ok () ↔
      (semantics = "current" ∧ (rows.map DimensionRow.key).Nodup ∧
        ∀ row ∈ rows, row.validFrom = none ∧ row.validTo = none) ∨
      (semantics = "temporal" ∧ (∀ row ∈ rows, Proper row) ∧ rows.Pairwise IntervalsApart) := by
  have htemporal : validateTemporalIntervals rows [] = .ok () ↔
      (∀ row ∈ rows, Proper row) ∧ rows.Pairwise IntervalsApart := by
    have hnone : ∀ key (row : DimensionRow P),
        ¬ ([] : List (String × DimensionRow P)).lookup key = some row := by simp
    refine (validate_iff fun key row h => absurd h (hnone key row)).trans ?_
    exact and_congr_right fun _ => and_iff_left fun key row h => absurd h (hnone key row)
  unfold validateRows
  rw [bind_eq_ok]
  constructor
  · rintro ⟨_, hreject, h⟩
    have hsemantics := rejectIf_eq_ok.mp hreject
    split at h
    · rename_i hcurrent
      obtain ⟨_, hkeys, h⟩ := bind_eq_ok.mp h
      have hkeys := rejectIf_eq_ok.mp hkeys
      have hbounds := rejectIf_eq_ok.mp h
      refine Or.inl ⟨hcurrent, Classical.not_not.mp hkeys, fun row hrow => ?_⟩
      refine ⟨Classical.not_not.mp fun hne => hbounds ⟨row, hrow, Or.inl hne⟩,
        Classical.not_not.mp fun hne => hbounds ⟨row, hrow, Or.inr hne⟩⟩
    · rename_i hcurrent
      exact Or.inr ⟨Classical.not_not.mp fun hne => hsemantics ⟨hcurrent, hne⟩, htemporal.mp h⟩
  · rintro (⟨rfl, hkeys, hbounds⟩ | ⟨rfl, h⟩)
    · refine ⟨(), rejectIf_eq_ok.mpr fun hne => hne.1 rfl, (if_pos rfl).trans ?_⟩
      refine bind_eq_ok.mpr ⟨(), rejectIf_eq_ok.mpr (Classical.not_not.mpr hkeys),
        rejectIf_eq_ok.mpr ?_⟩
      rintro ⟨row, hrow, hne | hne⟩
      · exact hne (hbounds row hrow).1
      · exact hne (hbounds row hrow).2
    · exact ⟨(), rejectIf_eq_ok.mpr fun hne => hne.2 rfl,
        (if_neg (by decide)).trans (htemporal.mpr h)⟩

/-- Accepted rows have no sort key twice. -/
theorem sortKeys_of_valid {semantics : String} {rows : List (DimensionRow P)}
    (h : validateRows semantics rows = .ok ()) :
    rows.Pairwise fun a b => a.sortKey ≠ b.sortKey := by
  rcases validateRows_eq_ok.mp h with ⟨-, hkeys, -⟩ | ⟨-, hproper, hapart⟩
  · exact (List.pairwise_map.mp hkeys).imp fun hne heq => hne (eq_of_sortKey heq).1
  · refine hapart.imp_of_mem ?_
    intro a b ha hb hab
    exact hab.sortKey_ne (hproper a ha) (hproper b hb)

/-! ## Canonical plans -/

section

variable {rt : Runtime} {isoformat : Int → String} {encode : P → Option Json} {semantics : String}
  {rows : List (DimensionRow P)}

theorem buildDimensionPlan_eq_ok {plan : DimensionPlan P} :
    buildDimensionPlan rt isoformat encode semantics rows = .ok plan ↔
      (∀ row ∈ rows, ∀ d, row.validFrom = some d → d.Representable) ∧
        validateRows semantics (arranged rows) = .ok () ∧
        ∃ lines, (arranged rows).mapM (rowLine isoformat encode) = .ok lines ∧
          plan = ⟨semantics, arranged rows, (arranged rows).length,
            rt.sha256 (String.join lines)⟩ := by
  unfold buildDimensionPlan
  rw [bind_eq_ok]
  constructor
  · rintro ⟨sorted, hsorted, h⟩
    obtain ⟨hrows, rfl⟩ := sortedRows_eq_ok.mp hsorted
    obtain ⟨_, hvalid, h⟩ := bind_eq_ok.mp h
    obtain ⟨lines, hlines, h⟩ := bind_eq_ok.mp h
    exact ⟨hrows, hvalid, lines, hlines, (pure_eq_ok.mp h).symm⟩
  · rintro ⟨hrows, hvalid, lines, hlines, rfl⟩
    exact ⟨_, sortedRows_eq_ok.mpr ⟨hrows, rfl⟩, bind_eq_ok.mpr ⟨(), hvalid,
      bind_eq_ok.mpr ⟨lines, hlines, rfl⟩⟩⟩

/-- An accepted list gives its plan in every order. -/
theorem build_of_perm {rows' : List (DimensionRow P)} (hperm : rows'.Perm rows)
    {plan : DimensionPlan P} (h : buildDimensionPlan rt isoformat encode semantics rows = .ok plan) :
    buildDimensionPlan rt isoformat encode semantics rows' = .ok plan := by
  obtain ⟨hrows, hvalid, lines, hlines, rfl⟩ := buildDimensionPlan_eq_ok.mp h
  have harranged := arranged_eq hperm (sortKeys_of_valid hvalid)
  refine buildDimensionPlan_eq_ok.mpr ⟨fun row hrow => hrows row (hperm.mem_iff.mp hrow), ?_⟩
  rw [harranged]
  exact ⟨hvalid, lines, hlines, rfl⟩

theorem rowLine_ok {row : DimensionRow P} {payload : Json} (hpayload : encode row.payload = some payload)
    (hutc : InUtc row) : ∃ line, rowLine isoformat encode row = .ok line :=
  ⟨_, bind_eq_ok.mpr ⟨payload, orReject_eq_ok.mpr hpayload, bind_eq_ok.mpr ⟨_,
    utc_eq_ok.mpr ⟨rfl, hutc.1⟩, bind_eq_ok.mpr ⟨_, utc_eq_ok.mpr ⟨rfl, hutc.2⟩, rfl⟩⟩⟩⟩

end

/-- At most one of the rows has a property. -/
def AtMostOne (p : DimensionRow P → Prop) (rows : List (DimensionRow P)) : Prop :=
  rows.Pairwise fun a b => ¬ (p a ∧ p b)

variable (rt : Runtime) (isoformat : Int → String) (encode : P → Option Json)

/-- What the plans of a list of rows are. -/
structure PlansRight (semantics : String) (rows : List (DimensionRow P)) : Prop where
  /-- A permutation is accepted or not as the list is, with the same plan. -/
  canonical : ∀ rows', rows'.Perm rows →
    (buildDimensionPlan rt isoformat encode semantics rows').toOption =
      (buildDimensionPlan rt isoformat encode semantics rows).toOption
  whole : ∀ plan, buildDimensionPlan rt isoformat encode semantics rows = .ok plan →
    plan.rows.Perm rows ∧ plan.rowCount = rows.length
  temporal : ∀ plan, buildDimensionPlan rt isoformat encode semantics rows = .ok plan →
    semantics = "temporal" →
      ∀ key t, AtMostOne (fun row => row.key = key ∧ Active row t) plan.rows
  current : ∀ plan, buildDimensionPlan rt isoformat encode semantics rows = .ok plan →
    semantics = "current" → ∀ key, AtMostOne (fun row => row.key = key) plan.rows
  accepted : semantics = "temporal" → NonOverlapping rows → (∀ row ∈ rows, WellFormed row) →
    (∀ row ∈ rows, InUtc row ∧ ∃ payload, encode row.payload = some payload) →
      ∃ plan, buildDimensionPlan rt isoformat encode semantics rows = .ok plan

/-- Plans are canonical and functional, and well-formed intervals that do not overlap make one
where their bounds are instants of UTC and their payloads can be written. -/
theorem dimension_plans_right (semantics : String) (rows : List (DimensionRow P)) :
    PlansRight rt isoformat encode semantics rows := by
  constructor
  case canonical =>
    intro rows' hperm
    have hback : ∀ {xs ys : List (DimensionRow P)} {plan : DimensionPlan P}, xs.Perm ys →
        (buildDimensionPlan rt isoformat encode semantics ys).toOption = some plan →
          (buildDimensionPlan rt isoformat encode semantics xs).toOption = some plan := by
      intro xs ys plan hperm h
      cases hys : buildDimensionPlan rt isoformat encode semantics ys with
      | error e =>
          rw [hys] at h
          exact nomatch h
      | ok plan' =>
          rw [hys] at h
          cases Option.some.inj h
          rw [build_of_perm hperm hys]
          rfl
    exact Option.ext fun plan => ⟨hback hperm.symm, hback hperm⟩
  case whole =>
    intro plan h
    obtain ⟨-, -, lines, -, rfl⟩ := buildDimensionPlan_eq_ok.mp h
    exact ⟨arranged_perm rows, (arranged_perm rows).length_eq⟩
  case temporal =>
    rintro plan h rfl key t
    obtain ⟨-, hvalid, lines, -, rfl⟩ := buildDimensionPlan_eq_ok.mp h
    rcases validateRows_eq_ok.mp hvalid with ⟨hcurrent, -⟩ | ⟨-, hproper, hapart⟩
    · exact absurd hcurrent (by decide)
    · refine hapart.imp_of_mem ?_
      rintro a b ha hb hab ⟨⟨rfl, hactive⟩, hkey, hactive'⟩
      exact hab.not_both (hproper a ha) (hproper b hb) hkey.symm hactive hactive'
  case current =>
    rintro plan h rfl key
    obtain ⟨-, hvalid, lines, -, rfl⟩ := buildDimensionPlan_eq_ok.mp h
    rcases validateRows_eq_ok.mp hvalid with ⟨-, hkeys, -⟩ | ⟨htemporal, -⟩
    · refine (List.pairwise_map.mp hkeys).imp ?_
      rintro a b hne ⟨rfl, hkey⟩
      exact hne hkey.symm
    · exact absurd htemporal (by decide)
  case accepted =>
    rintro rfl hapart hformed hwritten
    have hproper : ∀ row ∈ arranged rows, Proper row := by
      intro row hrow
      have hmem := (arranged_perm rows).mem_iff.mp hrow
      exact proper_iff.mpr ⟨hformed row hmem, (hwritten row hmem).1⟩
    have hlines : ∃ lines, (arranged rows).mapM (rowLine isoformat encode) = .ok lines := by
      refine mapM_returns fun row hrow => ?_
      obtain ⟨hutc, payload, hpayload⟩ := hwritten row ((arranged_perm rows).mem_iff.mp hrow)
      exact rowLine_ok hpayload hutc
    obtain ⟨lines, hlines⟩ := hlines
    exact ⟨_, buildDimensionPlan_eq_ok.mpr ⟨fun row hrow => (hwritten row hrow).1.1,
      validateRows_eq_ok.mpr (Or.inr ⟨rfl, hproper, apart_of_nonOverlapping hapart⟩),
      lines, hlines, rfl⟩⟩

/-! ## The first day in Seoul -/

/-- A row that is valid from the start of the year 1 on, in a time zone nine hours ahead of UTC. -/
def yearOne : DimensionRow Json where
  key := "user-1"
  payload := .obj [("region", .str "seoul")]
  validFrom := some ⟨0, some 32400000000, by decide⟩
  validTo := none
  rowVersion := 1
  bounded := by decide
  positive := by decide

theorem year_one_overflows :
    NonOverlapping [yearOne] ∧ (∀ row ∈ [yearOne], WellFormed row) ∧
      ¬ ∃ plan, buildDimensionPlan ⟨fun _ => "0", id, id⟩ (fun _ => "") some "temporal" [yearOne] =
        .ok plan := by
  refine ⟨List.pairwise_singleton _ _, fun row hrow => ?_, ?_⟩
  · rw [List.mem_singleton.mp hrow]
    exact ⟨_, rfl, fun e he => nomatch he⟩
  · rintro ⟨plan, hplan⟩
    have hutc := (buildDimensionPlan_eq_ok.mp hplan).1 yearOne List.mem_cons_self _ rfl
    exact absurd hutc.1 (by decide)

end

end AskLake.Realtime

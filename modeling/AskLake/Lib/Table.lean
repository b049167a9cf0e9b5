/-
# `AskLake.Lib.Table` — a table under its primary key

A table that is only ever read and written through its primary key is the
partial function from keys to rows: `INSERT`, `UPDATE … WHERE key = …` and the
upsert are one operation, `put`, after the row has been computed.  Tables that
are searched by other columns are lists of rows; `updateWhere` is their
`UPDATE`.
-/
import Mathlib.Data.List.Basic
import Mathlib.Data.List.Nodup
import Mathlib.Logic.Function.Basic

namespace AskLake.Lib

universe u v

/-- The row stored under each key, if there is one. -/
abbrev Table (κ : Type u) (α : Type v) := κ → Option α

namespace Table

variable {κ : Type u} {α : Type v} [DecidableEq κ]

/-- Write `row` under `key`. -/
def put (t : Table κ α) (key : κ) (row : α) : Table κ α :=
  Function.update t key (some row)

@[simp] theorem put_self (t : Table κ α) (key : κ) (row : α) : t.put key row key = some row := by
  simp [put]

theorem put_ne (t : Table κ α) {key other : κ} (h : other ≠ key) (row : α) :
    t.put key row other = t other := by
  simp [put, h]

theorem put_apply (t : Table κ α) (key other : κ) (row : α) :
    t.put key row other = if other = key then some row else t other := by
  by_cases h : other = key
  · subst h; simp
  · rw [put_ne t h, if_neg h]

/-- The last row written under a key stays. -/
theorem put_put (t : Table κ α) (key : κ) (row row' : α) :
    (t.put key row).put key row' = t.put key row' :=
  Function.update_idem ..

theorem put_eq_self {t : Table κ α} {key : κ} {row : α} (h : t key = some row) :
    t.put key row = t := by
  rw [put, ← h, Function.update_eq_self]

end Table

/-! ## Rows in a list -/

variable {α : Type*}

/-- `UPDATE … SET … WHERE`: rewrite the rows that satisfy the condition. -/
def updateWhere (p : α → Bool) (f : α → α) (rows : List α) : List α :=
  rows.map fun row => if p row then f row else row

/-- The number of rows an `UPDATE` reports. -/
def rowCount (p : α → Bool) (rows : List α) : Nat :=
  rows.countP p

/-- A column that the update does not assign keeps its values, in order. -/
theorem map_updateWhere {β : Type*} {p : α → Bool} {f : α → α} {g : α → β}
    (h : ∀ row, g (f row) = g row) (rows : List α) :
    (updateWhere p f rows).map g = rows.map g := by
  rw [updateWhere, List.map_map]
  refine List.map_congr_left fun row _ => ?_
  show g (if p row then f row else row) = g row
  split
  · exact h row
  · rfl

theorem mem_updateWhere_iff {p : α → Bool} {f : α → α} {rows : List α} {row : α} :
    row ∈ updateWhere p f rows ↔
      row ∈ rows ∧ p row = false ∨ ∃ old ∈ rows, p old = true ∧ row = f old := by
  simp only [updateWhere, List.mem_map]
  constructor
  · rintro ⟨old, hold, rfl⟩
    cases hp : p old with
    | true => exact Or.inr ⟨old, hold, hp, by simp⟩
    | false => exact Or.inl ⟨by simpa using hold, by simpa using hp⟩
  · rintro (⟨hmem, hp⟩ | ⟨old, hold, hp, rfl⟩)
    · exact ⟨row, hmem, by simp [hp]⟩
    · exact ⟨old, hold, by simp [hp]⟩

/-- A search that the update does not disturb finds the same row, updated. -/
theorem find?_updateWhere {p q : α → Bool} {f : α → α} {rows : List α}
    (h : ∀ row ∈ rows, p row = true → q (f row) = q row) :
    (updateWhere p f rows).find? q =
      (rows.find? q).map fun row => if p row then f row else row := by
  induction rows with
  | nil => rfl
  | cons row rest ih =>
      have hrow : q (if p row then f row else row) = q row := by
        split
        · exact h row List.mem_cons_self ‹_›
        · rfl
      have hrest := ih fun other hother => h other (List.mem_cons_of_mem _ hother)
      unfold updateWhere at hrest ⊢
      rw [List.map_cons, List.find?_cons, List.find?_cons, hrow, hrest]
      cases q row <;> rfl

/-- Rows that are ranked within their group are told apart by group and rank. -/
theorem eq_of_ranked {κ : Type*} {group : α → κ} {rank : α → Nat} {rows : List α}
    (h : rows.Pairwise fun a b => group a = group b → rank a < rank b) {a b : α} (ha : a ∈ rows)
    (hb : b ∈ rows) (hgroup : group a = group b) (hrank : rank a = rank b) : a = b := by
  induction h with
  | nil => exact nomatch ha
  | cons hfirst _ ih =>
      rcases List.mem_cons.mp ha with rfl | ha'
      · rcases List.mem_cons.mp hb with rfl | hb'
        · rfl
        · exact absurd (hfirst b hb' hgroup) (by omega)
      · rcases List.mem_cons.mp hb with rfl | hb'
        · exact absurd (hfirst a ha' hgroup.symm) (by omega)
        · exact ih ha' hb'

/-! ## Rows under a key of their own -/

section
variable {κ : Type*} {key : α → κ} {rows : List α}

theorem filter_eq_singleton [DecidableEq κ] {row : α} (hnodup : (rows.map key).Nodup) (hrow : row ∈ rows) :
    (rows.filter fun other => key other = key row) = [row] := by
  induction rows with
  | nil => exact nomatch hrow
  | cons first rest ih =>
      rw [List.map_cons, List.nodup_cons] at hnodup
      rcases List.mem_cons.mp hrow with rfl | hrest
      · have hnone : (rest.filter fun other => key other = key row) = [] := by
          rw [List.filter_eq_nil_iff]
          intro other hother heq
          refine hnodup.1 ?_
          rw [← (by simpa using heq : key other = key row)]
          exact List.mem_map_of_mem hother
        rw [List.filter_cons_of_pos (by simp), hnone]
      · have hne : key first ≠ key row := by
          intro heq
          rw [heq] at hnodup
          exact hnodup.1 (List.mem_map_of_mem hrest)
        rw [List.filter_cons_of_neg (by simpa using hne), ih hnodup.2 hrest]

/-- Two rows under one key are one row. -/
theorem eq_of_nodup_map (hnodup : (rows.map key).Nodup) {a b : α} (ha : a ∈ rows) (hb : b ∈ rows) (h : key a = key b) : a = b :=
  List.inj_on_of_nodup_map hnodup ha hb h

theorem find?_eq_of_nodup_map [DecidableEq κ] (hnodup : (rows.map key).Nodup) {row : α} (hrow : row ∈ rows) {k : κ} (hk : key row = k) :
    rows.find? (fun other => key other = k) = some row := by
  cases hfind : rows.find? fun other => key other = k with
  | none => exact absurd hk (by simpa using List.find?_eq_none.mp hfind row hrow)
  | some other =>
      have hkey : key other = k := by simpa using List.find?_some hfind
      rw [eq_of_nodup_map hnodup (List.mem_of_find?_eq_some hfind) hrow (hkey.trans hk.symm)]

end

/-! ## The first row of an order -/

/-- The later of two rows. -/
def laterRow (before : α → α → Bool) (latest : Option α) (row : α) : Option α :=
  if latest.all (before · row) then some row else latest

/-- `ORDER BY … DESC LIMIT 1`: the last row, by `before`. -/
def latestRow (before : α → α → Bool) (rows : List α) : Option α :=
  rows.foldl (laterRow before) none

theorem mem_of_foldl_laterRow {before : α → α → Bool} {rows : List α} {latest : Option α} {row : α}
    (h : rows.foldl (laterRow before) latest = some row) : latest = some row ∨ row ∈ rows := by
  induction rows generalizing latest with
  | nil => exact Or.inl h
  | cons first rest ih =>
      rcases ih h with hfirst | hrest
      · unfold laterRow at hfirst
        split at hfirst
        · obtain ⟨⟩ := hfirst
          exact Or.inr List.mem_cons_self
        · exact Or.inl hfirst
      · exact Or.inr (List.mem_cons_of_mem _ hrest)

theorem mem_of_latestRow {before : α → α → Bool} {rows : List α} {row : α}
    (h : latestRow before rows = some row) : row ∈ rows :=
  (mem_of_foldl_laterRow h).resolve_left fun h => nomatch h

theorem foldl_laterRow_isSome {before : α → α → Bool} (rows : List α) {latest : Option α}
    (h : latest.isSome) : (rows.foldl (laterRow before) latest).isSome := by
  induction rows generalizing latest with
  | nil => exact h
  | cons first rest ih =>
      refine ih ?_
      unfold laterRow
      split
      · rfl
      · exact h

/-- There is a last row as soon as there is a row. -/
theorem latestRow_eq_none {before : α → α → Bool} {rows : List α}
    (h : latestRow before rows = none) : rows = [] := by
  cases rows with
  | nil => rfl
  | cons first rest =>
      have := @foldl_laterRow_isSome α before rest (some first) rfl
      rw [latestRow, List.foldl_cons] at h
      rw [show laterRow before none first = some first from rfl] at h
      rw [h] at this
      exact nomatch this

/-- A row that comes after all others is the last one. -/
theorem latestRow_append {before : α → α → Bool} {rows : List α} {row : α}
    (h : ∀ other ∈ rows, before other row = true) :
    latestRow before (rows ++ [row]) = some row := by
  rw [latestRow, List.foldl_append, List.foldl_cons, List.foldl_nil, laterRow, if_pos]
  cases hlatest : rows.foldl (laterRow before) none with
  | none => rfl
  | some latest => exact h latest (mem_of_latestRow hlatest)

/-- Of rows in their order, the last one. -/
theorem latestRow_of_sorted {before : α → α → Bool} {rows : List α}
    (h : rows.Pairwise fun a b => before a b = true) : latestRow before rows = rows.getLast? := by
  rcases List.eq_nil_or_concat rows with rfl | ⟨init, last, rfl⟩
  · rfl
  · rw [List.concat_eq_append] at h ⊢
    rw [latestRow_append fun other hother =>
      (List.pairwise_append.mp h).2.2 other hother last (List.mem_singleton_self last)]
    exact (List.getLast?_concat ..).symm

end AskLake.Lib

/-
# `AskLake.Lib.RowLocks` — a table of rows that transactions write before they commit

A row that a transaction has written is locked until the transaction ends, so that another
one that would write it waits.  Readers meet the committed rows, a transaction its own
writes over them:

    committed            the rows that everyone sees
    pending              the rows written and not committed, with their transaction
    view v τ             what the transaction τ sees
    blocked v τ k        the row of key `k` is locked by another transaction

A commit replaces the committed rows by the transaction's view; a rollback forgets what
it wrote.  If every write relates the row it writes to the one it found (by a preorder
`R`), so does every commit, whatever the other transactions do.
-/
import Mathlib.Data.List.Nodup
import Mathlib.Data.List.Basic

namespace AskLake.Lib

variable {τ α κ : Type*}

/-- Rows written over those of the same key. -/
def overlay [DecidableEq κ] (key : α → κ) (written rows : List α) : List α :=
  written ++ rows.filter fun row => key row ∉ written.map key

section
variable [DecidableEq κ] {key : α → κ} {written rows : List α}

theorem mem_overlay {row : α} : row ∈ overlay key written rows ↔
    row ∈ written ∨ (row ∈ rows ∧ ∀ row' ∈ written, key row' ≠ key row) := by
  simp [overlay]

theorem nodup_overlay (hwritten : (written.map key).Nodup) (hrows : (rows.map key).Nodup) :
    ((overlay key written rows).map key).Nodup := by
  rw [overlay, List.map_append, List.nodup_append']
  refine ⟨hwritten, hrows.sublist (List.filter_sublist.map key), ?_⟩
  intro k hnew hold
  obtain ⟨row, hrow, rfl⟩ := List.mem_map.mp hold
  have hfree : key row ∉ written.map key := by simpa using (List.mem_filter.mp hrow).2
  exact hfree hnew

/-- A row is told by its key. -/
theorem eq_of_key (h : (rows.map key).Nodup) {a b : α} (ha : a ∈ rows) (hb : b ∈ rows)
    (hkey : key a = key b) : a = b :=
  List.inj_on_of_nodup_map h ha hb hkey

/-- The row that is found under a key. -/
theorem find?_key (h : (rows.map key).Nodup) {row : α} {k : κ} (hrow : row ∈ rows)
    (hkey : key row = k) : rows.find? (fun row => key row = k) = some row := by
  cases hfind : rows.find? fun row => key row = k with
  | none =>
      have hnone := List.find?_eq_none.mp hfind row hrow
      exact absurd hkey (by simpa using hnone)
  | some found =>
      have hfound : key found = k := by simpa using List.find?_some hfind
      rw [eq_of_key h (List.mem_of_find?_eq_some hfind) hrow (hfound.trans hkey.symm)]

end

/-- The committed rows, and what the open transactions have written. -/
structure Versions (τ α : Type*) where
  committed : List α
  pending : List (τ × α)

namespace Versions

def empty : Versions τ α := ⟨[], []⟩

section
variable [DecidableEq τ]

/-- What a transaction has written. -/
def own (v : Versions τ α) (session : τ) : List α :=
  (v.pending.filter fun write => write.1 = session).map Prod.snd

def rollback (v : Versions τ α) (session : τ) : Versions τ α :=
  { v with pending := v.pending.filter fun write => write.1 ≠ session }

variable [DecidableEq κ] (key : α → κ)

/-- What a transaction sees. -/
def view (v : Versions τ α) (session : τ) : List α := overlay key (v.own session) v.committed

/-- The row is locked by another transaction. -/
def blocked (v : Versions τ α) (session : τ) (k : κ) : Bool :=
  v.pending.any fun write => write.1 ≠ session && key write.2 = k

def write (v : Versions τ α) (session : τ) (rows : List α) : Versions τ α :=
  { v with
    pending := (v.pending.filter fun write => key write.2 ∉ rows.map key) ++
      rows.map fun row => (session, row) }

def commit (v : Versions τ α) (session : τ) : Versions τ α :=
  { committed := v.view key session
    pending := v.pending.filter fun write => write.1 ≠ session }

end

/-! ## One row for each key -/

section
variable [DecidableEq τ] [DecidableEq κ] {key : α → κ} {v : Versions τ α} {session : τ}

/-- One committed row for each key, and one lock. -/
structure Keyed (key : α → κ) (v : Versions τ α) : Prop where
  committed : (v.committed.map key).Nodup
  pending : (v.pending.map fun write => key write.2).Nodup

theorem keyed_empty : Keyed key (empty : Versions τ α) := ⟨List.nodup_nil, List.nodup_nil⟩

theorem mem_own {row : α} : row ∈ v.own session ↔ (session, row) ∈ v.pending := by
  simp [own]

theorem mem_view {row : α} : row ∈ v.view key session ↔
    (session, row) ∈ v.pending ∨
      (row ∈ v.committed ∧ ∀ written, (session, written) ∈ v.pending → key written ≠ key row) := by
  simp [view, mem_overlay, mem_own]

theorem map_own : (v.own session).map key =
    (v.pending.filter fun write => write.1 = session).map fun write => key write.2 := by
  rw [own, List.map_map]
  rfl

/-- A transaction sees one row for each key. -/
theorem Keyed.view (hv : Keyed key v) : ((v.view key session).map key).Nodup := by
  refine nodup_overlay ?_ hv.committed
  rw [map_own]
  exact hv.pending.sublist (List.filter_sublist.map _)

theorem Keyed.rollback (hv : Keyed key v) : Keyed key (v.rollback session) :=
  ⟨hv.committed, hv.pending.sublist (List.filter_sublist.map _)⟩

theorem Keyed.commit (hv : Keyed key v) : Keyed key (v.commit key session) :=
  ⟨hv.view, hv.pending.sublist (List.filter_sublist.map _)⟩

theorem Keyed.write (hv : Keyed key v) {rows : List α} (hrows : (rows.map key).Nodup) :
    Keyed key (v.write key session rows) := by
  refine ⟨hv.committed, ?_⟩
  have hmap : (rows.map fun row => (session, row)).map (fun write => key write.2) = rows.map key := by
    rw [List.map_map]
    rfl
  show (List.map _ (_ ++ _)).Nodup
  rw [List.map_append, hmap, List.nodup_append']
  refine ⟨hv.pending.sublist (List.filter_sublist.map _), hrows, ?_⟩
  intro k hold hnew
  obtain ⟨write, hwrite, rfl⟩ := List.mem_map.mp hold
  have hfree : key write.2 ∉ rows.map key := by simpa using (List.mem_filter.mp hwrite).2
  exact hfree hnew

/-- A write changes nothing that another transaction sees. -/
theorem view_write_other {rows : List α} {other : τ} (hother : other ≠ session)
    (hfree : ∀ row ∈ rows, v.blocked key session (key row) = false) :
    (v.write key session rows).view key other = v.view key other := by
  have hown : (v.write key session rows).own other = v.own other := by
    rw [own, own, write, List.filter_append, List.filter_filter]
    have hnew : (rows.map fun row => (session, row)).filter (fun write => write.1 = other) = [] := by
      refine List.filter_eq_nil_iff.mpr fun write hwrite => ?_
      obtain ⟨row, -, rfl⟩ := List.mem_map.mp hwrite
      simpa using hother.symm
    rw [hnew, List.append_nil]
    congr 1
    refine List.filter_congr fun write hwrite => ?_
    by_cases hsession : write.1 = other
    · have hkey : key write.2 ∉ rows.map key := by
        intro hkey
        obtain ⟨row, hrow, hkey⟩ := List.mem_map.mp hkey
        have hblocked : v.blocked key session (key row) = true :=
          List.any_eq_true.mpr ⟨write, hwrite, by simp [hsession, hother, hkey]⟩
        exact absurd (hfree row hrow) (by simp [hblocked])
      simp [hsession, hkey]
    · simp [hsession]
  rw [Versions.view, Versions.view, hown]
  rfl

/-- A row that a write does not reach is still there. -/
theorem mem_view_write {rows : List α} {row : α} (hrow : row ∈ v.view key session)
    (hfar : ∀ row' ∈ rows, key row' ≠ key row) : row ∈ (v.write key session rows).view key session := by
  rw [mem_view] at hrow ⊢
  rcases hrow with hown | ⟨hcommitted, hfree⟩
  · left
    refine List.mem_append_left _ (List.mem_filter.mpr ⟨hown, ?_⟩)
    simpa using hfar
  · right
    refine ⟨hcommitted, fun written hwritten => ?_⟩
    rcases List.mem_append.mp hwritten with hold | hnew
    · exact hfree written (List.mem_filter.mp hold).1
    · obtain ⟨row', hrow', ⟨⟩⟩ := List.mem_map.mp hnew
      exact hfar _ hrow'

/-! ## What a write does to the row it finds -/

/-- Every row that is written and not committed is related to the committed one. -/
def Extends (R : α → α → Prop) (key : α → κ) (v : Versions τ α) : Prop :=
  ∀ write ∈ v.pending, ∀ row ∈ v.committed, key row = key write.2 → R row write.2

/-- Every row is kept, or replaced by a related one. -/
def Kept (R : α → α → Prop) (key : α → κ) (before after : List α) : Prop :=
  ∀ row ∈ before, ∃ row' ∈ after, key row' = key row ∧ R row row'

variable {R : α → α → Prop}

theorem Kept.refl (hR : ∀ row, R row row) (rows : List α) : Kept R key rows rows :=
  fun row hrow => ⟨row, hrow, rfl, hR row⟩

theorem Kept.trans (hR : ∀ {a b c}, R a b → R b c → R a c) {a b c : List α}
    (h : Kept R key a b) (h' : Kept R key b c) : Kept R key a c := by
  intro row hrow
  obtain ⟨row', hrow', hkey', hR'⟩ := h row hrow
  obtain ⟨row'', hrow'', hkey'', hR''⟩ := h' row' hrow'
  exact ⟨row'', hrow'', hkey''.trans hkey', hR hR' hR''⟩

theorem extends_empty : Extends R key (empty : Versions τ α) := fun _ h => nomatch h

theorem Extends.rollback (hv : Extends R key v) : Extends R key (v.rollback session) :=
  fun write hwrite => hv write (List.mem_filter.mp hwrite).1

/-- Where another transaction has a row locked, a commit leaves the committed one. -/
theorem Extends.commit (hv : Extends R key v) (hkeyed : Keyed key v) :
    Extends R key (v.commit key session) := by
  intro write hwrite row hrow hkey
  obtain ⟨hpending, hother⟩ := List.mem_filter.mp hwrite
  have hne : write.1 ≠ session := by simpa using hother
  rcases mem_view.mp hrow with hown | ⟨hcommitted, -⟩
  · have heq : (session, row) = write := eq_of_key hkeyed.pending hown hpending hkey
    exact absurd (congrArg Prod.fst heq).symm hne
  · exact hv write hpending row hcommitted hkey

/-- A transaction's writes stay related to the committed rows, if each is to the row that
the transaction saw. -/
theorem Extends.write (hv : Extends R key v) (hR : ∀ {a b c}, R a b → R b c → R a c)
    {rows : List α} (hrows : ∀ row ∈ rows, ∀ seen ∈ v.view key session,
      key seen = key row → R seen row) :
    Extends R key (v.write key session rows) := by
  intro write hwrite row hrow hkey
  rcases List.mem_append.mp hwrite with hold | hnew
  · exact hv write (List.mem_filter.mp hold).1 row hrow hkey
  · obtain ⟨written, hwritten, rfl⟩ := List.mem_map.mp hnew
    by_cases hown : ∃ earlier, (session, earlier) ∈ v.pending ∧ key earlier = key row
    · obtain ⟨earlier, hearlier, hkeyEarlier⟩ := hown
      have hseen : earlier ∈ v.view key session := mem_view.mpr (Or.inl hearlier)
      exact hR (hv _ hearlier row hrow hkeyEarlier.symm)
        (hrows written hwritten earlier hseen (hkeyEarlier.trans hkey))
    · have hseen : row ∈ v.view key session :=
        mem_view.mpr (Or.inr ⟨hrow, fun earlier hearlier hkeyEarlier =>
          hown ⟨earlier, hearlier, hkeyEarlier⟩⟩)
      exact hrows written hwritten row hseen hkey

/-- A commit keeps every row or replaces it by a related one. -/
theorem Extends.kept (hv : Extends R key v) (hR : ∀ row, R row row) :
    Kept R key v.committed (v.commit key session).committed := by
  intro row hrow
  by_cases hown : ∃ written, (session, written) ∈ v.pending ∧ key written = key row
  · obtain ⟨written, hwritten, hkey⟩ := hown
    exact ⟨written, mem_view.mpr (Or.inl hwritten), hkey, hv _ hwritten row hrow hkey.symm⟩
  · exact ⟨row, mem_view.mpr (Or.inr ⟨hrow, fun written hwritten hkey =>
      hown ⟨written, hwritten, hkey⟩⟩), rfl, hR row⟩

/-! ## The rule for writers -/

/-- What every writer keeps: one row for each key, each row as `P` says, and each written
row related by `R` to the committed one. -/
structure Guarded (R : α → α → Prop) (P : α → Prop) (key : α → κ) (v : Versions τ α) :
    Prop where
  keyed : Keyed key v
  committed : ∀ row ∈ v.committed, P row
  pending : ∀ write ∈ v.pending, P write.2
  related : Extends R key v

variable {P : α → Prop}

theorem guarded_empty : Guarded R P key (empty : Versions τ α) :=
  ⟨keyed_empty, fun _ h => (nomatch h), fun _ h => (nomatch h), extends_empty⟩

theorem Guarded.view (hv : Guarded R P key v) : ∀ row ∈ v.view key session, P row := by
  intro row hrow
  rcases mem_view.mp hrow with hown | ⟨hcommitted, -⟩
  · exact hv.pending _ hown
  · exact hv.committed row hcommitted

theorem Guarded.rollback (hv : Guarded R P key v) : Guarded R P key (v.rollback session) where
  keyed := hv.keyed.rollback
  committed := hv.committed
  pending write hwrite := hv.pending write (List.mem_filter.mp hwrite).1
  related := hv.related.rollback

theorem Guarded.commit (hv : Guarded R P key v) : Guarded R P key (v.commit key session) where
  keyed := hv.keyed.commit
  committed := hv.view
  pending write hwrite := hv.pending write (List.mem_filter.mp hwrite).1
  related := hv.related.commit hv.keyed

/-- A write keeps the rule, if its rows do and each is related to the row it replaces. -/
theorem Guarded.write (hv : Guarded R P key v) (hR : ∀ {a b c}, R a b → R b c → R a c)
    {rows : List α} (hnodup : (rows.map key).Nodup) (hP : ∀ row ∈ rows, P row)
    (hrows : ∀ row ∈ rows, ∀ seen ∈ v.view key session, key seen = key row → R seen row) :
    Guarded R P key (v.write key session rows) where
  keyed := hv.keyed.write hnodup
  committed := hv.committed
  pending := by
    intro write hwrite
    rcases List.mem_append.mp hwrite with hold | hnew
    · exact hv.pending write (List.mem_filter.mp hold).1
    · obtain ⟨row, hrow, rfl⟩ := List.mem_map.mp hnew
      exact hP row hrow
  related := hv.related.write hR hrows

end

end Versions

end AskLake.Lib

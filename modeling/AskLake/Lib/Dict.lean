/-
# `AskLake.Lib.Dict` — a dictionary in insertion order

The source groups a list by building a dictionary and then loops over its items,
keys in the order in which they first appeared, each once.  `upsert` is one
assignment `d[key] = more(d[key]) if key in d else first`, and

    collect key first more xs

is the dictionary after a loop of such assignments over `xs`.  Under each key it
holds what the loop over the elements of that key alone leaves there
(`lookup_collect`).
-/
import Mathlib.Data.List.Basic
import Mathlib.Data.List.Induction
import Mathlib.Data.List.Nodup
import Mathlib.Order.Bounds.Basic
import Mathlib.Order.Lattice

namespace AskLake.Lib

variable {κ α β : Type*} [DecidableEq κ]

/-- Assign to one key. -/
def upsert (key : κ) (first : β) (more : β → β) : List (κ × β) → List (κ × β)
  | [] => [(key, first)]
  | (k, b) :: rest => if k = key then (k, more b) :: rest else (k, b) :: upsert key first more rest

/-- The dictionary a loop over `xs` builds. -/
def collect (key : α → κ) (first : α → β) (more : α → β → β) (xs : List α) : List (κ × β) :=
  xs.foldl (fun dict x => upsert (key x) (first x) (more x) dict) []

/-- What the assignments for one key leave there. -/
def combine (first : α → β) (more : α → β → β) : List α → Option β
  | [] => none
  | x :: rest => some (rest.foldl (fun b y => more y b) (first x))

section
variable {key : κ} {first : β} {more : β → β}

theorem lookup_upsert (dict : List (κ × β)) (k : κ) :
    (upsert key first more dict).lookup k =
      if k = key then some ((dict.lookup key).elim first more) else dict.lookup k := by
  induction dict with
  | nil =>
      rw [upsert, List.lookup_cons]
      split <;> simp_all
  | cons entry rest ih =>
      obtain ⟨k', b⟩ := entry
      rw [upsert]
      by_cases hk' : k' = key
      · subst hk'
        rw [if_pos rfl, List.lookup_cons, List.lookup_cons, List.lookup_cons]
        by_cases hk : k = k'
        · simp [hk]
        · have hbeq : (k == k') = false := by simpa using hk
          simp [hk, hbeq]
      · rw [if_neg hk', List.lookup_cons, List.lookup_cons, List.lookup_cons, ih]
        have hne : (key == k') = false := by simpa using Ne.symm hk'
        by_cases hk : k = k'
        · subst hk
          simp [hk']
        · have hbeq : (k == k') = false := by simpa using hk
          simp [hbeq, hne]

theorem mem_keys_upsert {dict : List (κ × β)} {k : κ} :
    k ∈ (upsert key first more dict).map Prod.fst ↔ k = key ∨ k ∈ dict.map Prod.fst := by
  induction dict with
  | nil => simp [upsert]
  | cons entry rest ih =>
      obtain ⟨k', b⟩ := entry
      rw [upsert]
      split
      · rename_i h
        subst h
        simp
      · simp only [List.map_cons, List.mem_cons, ih]
        exact or_left_comm

theorem nodup_upsert {dict : List (κ × β)} (h : (dict.map Prod.fst).Nodup) :
    ((upsert key first more dict).map Prod.fst).Nodup := by
  induction dict with
  | nil => simp [upsert]
  | cons entry rest ih =>
      obtain ⟨k, b⟩ := entry
      rw [List.map_cons, List.nodup_cons] at h
      rw [upsert]
      split
      · rw [List.map_cons, List.nodup_cons]
        exact h
      · rename_i hne
        rw [List.map_cons, List.nodup_cons, mem_keys_upsert, not_or]
        exact ⟨⟨hne, h.1⟩, ih h.2⟩

end

/-- The items of a dictionary are what its keys look up. -/
theorem mem_iff_lookup {dict : List (κ × β)} (h : (dict.map Prod.fst).Nodup) {k : κ} {b : β} :
    (k, b) ∈ dict ↔ dict.lookup k = some b := by
  induction dict with
  | nil => simp
  | cons entry rest ih =>
      obtain ⟨k', b'⟩ := entry
      rw [List.map_cons, List.nodup_cons] at h
      rw [List.mem_cons, List.lookup_cons]
      by_cases hk : k = k'
      · subst hk
        have hnot : (k, b) ∉ rest := fun hmem => h.1 (List.mem_map.mpr ⟨_, hmem, rfl⟩)
        simp [hnot, eq_comm]
      · have hbeq : (k == k') = false := by simpa using hk
        simp [hk, hbeq, ih h.2]

section
variable {key : α → κ} {first : α → β} {more : α → β → β}

theorem combine_append (xs : List α) (x : α) :
    combine first more (xs ++ [x]) = some ((combine first more xs).elim (first x) (more x)) := by
  cases xs with
  | nil => rfl
  | cons y ys => simp [combine]

theorem collect_append (xs : List α) (x : α) :
    collect key first more (xs ++ [x]) =
      upsert (key x) (first x) (more x) (collect key first more xs) := by
  simp [collect]

theorem nodup_collect (xs : List α) : ((collect key first more xs).map Prod.fst).Nodup := by
  induction xs using List.reverseRecOn with
  | nil => exact List.nodup_nil
  | append_singleton xs x ih =>
      rw [collect_append]
      exact nodup_upsert ih

/-- The loop over all elements does under one key what the loop over the
elements of that key does. -/
theorem lookup_collect (xs : List α) (k : κ) :
    (collect key first more xs).lookup k = combine first more (xs.filter fun x => key x = k) := by
  induction xs using List.reverseRecOn with
  | nil => rfl
  | append_singleton xs x ih =>
      rw [collect_append, lookup_upsert, List.filter_append]
      by_cases hk : k = key x
      · subst hk
        rw [if_pos rfl, ih, List.filter_cons_of_pos (by simp), List.filter_nil, combine_append]
      · rw [if_neg hk, ih, List.filter_cons_of_neg (by simp [Ne.symm hk]), List.filter_nil,
          List.append_nil]

theorem mem_collect {xs : List α} {k : κ} {b : β} :
    (k, b) ∈ collect key first more xs ↔
      combine first more (xs.filter fun x => key x = k) = some b := by
  rw [mem_iff_lookup (nodup_collect xs), lookup_collect]

/-- Every element is counted under its key. -/
theorem exists_mem_collect {xs : List α} {x : α} (hx : x ∈ xs) :
    ∃ b, (key x, b) ∈ collect key first more xs := by
  rcases hfilter : xs.filter (fun y => key y = key x) with _ | ⟨y, rest⟩
  · have : x ∈ xs.filter (fun y => key y = key x) := List.mem_filter.mpr ⟨hx, by simp⟩
    rw [hfilter] at this
    exact nomatch this
  · exact ⟨_, mem_collect.mpr (by rw [hfilter]; rfl)⟩

end

/-- A maximum that is kept under each key. -/
theorem le_of_combine_max {γ : Type*} [LinearOrder γ] {value : α → γ} {base b : γ} {xs : List α}
    (h : combine (fun x => max base (value x)) (fun x b => max b (value x)) xs = some b) :
    ∀ x ∈ xs, value x ≤ b := by
  induction xs using List.reverseRecOn generalizing b with
  | nil => exact fun x hx => nomatch hx
  | append_singleton xs y ih =>
      rw [combine_append, Option.some.injEq] at h
      intro x hx
      cases hprev : combine (fun x => max base (value x)) (fun x b => max b (value x)) xs with
      | none =>
          have hnil : xs = [] := by
            cases xs with
            | nil => rfl
            | cons z zs => exact nomatch hprev
          subst hnil
          rw [List.mem_singleton.mp hx, ← h]
          exact le_max_right _ _
      | some m =>
          rw [hprev, Option.elim_some] at h
          rcases List.mem_append.mp hx with hold | hlast
          · exact h ▸ (ih hprev x hold).trans (le_max_left _ _)
          · rw [List.mem_singleton.mp hlast, ← h]
            exact le_max_right _ _

/-- The maximum is one of the values, where none is below the base. -/
theorem mem_of_combine_max {γ : Type*} [LinearOrder γ] {value : α → γ} {base b : γ} {xs : List α}
    (hbase : ∀ x ∈ xs, base ≤ value x)
    (h : combine (fun x => max base (value x)) (fun x b => max b (value x)) xs = some b) :
    ∃ x ∈ xs, value x = b := by
  induction xs using List.reverseRecOn generalizing b with
  | nil => exact nomatch h
  | append_singleton xs y ih =>
      have hlast : y ∈ xs ++ [y] := List.mem_append_right _ List.mem_cons_self
      rw [combine_append, Option.some.injEq] at h
      cases hprev : combine (fun x => max base (value x)) (fun x b => max b (value x)) xs with
      | none =>
          rw [hprev, Option.elim_none, max_eq_right (hbase y hlast)] at h
          exact ⟨y, hlast, h⟩
      | some m =>
          obtain ⟨x, hx, hm⟩ := ih (fun x hx => hbase x (List.mem_append_left _ hx)) hprev
          rw [hprev, Option.elim_some] at h
          rcases le_total m (value y) with hle | hle
          · exact ⟨y, hlast, (max_eq_right hle).symm.trans h⟩
          · exact ⟨x, List.mem_append_left _ hx, hm.trans ((max_eq_left hle).symm.trans h)⟩

/-- Under each key a dictionary of maxima holds the greatest value of the key. -/
theorem lookup_collect_max {γ : Type*} [LinearOrder γ] {key : α → κ} {value : α → γ} {base : γ}
    {xs : List α} (hbase : ∀ x ∈ xs, base ≤ value x) {k : κ} {b : γ} :
    (collect key (fun x => max base (value x)) (fun x b => max b (value x)) xs).lookup k = some b ↔
      IsGreatest { c | ∃ x ∈ xs, key x = k ∧ value x = c } b := by
  have hfilter : ∀ x, x ∈ xs.filter (fun x => key x = k) ↔ x ∈ xs ∧ key x = k := by
    intro x
    rw [List.mem_filter, decide_eq_true_eq]
  have hof : ∀ b, combine (fun x => max base (value x)) (fun x b => max b (value x))
      (xs.filter fun x => key x = k) = some b →
        IsGreatest { c | ∃ x ∈ xs, key x = k ∧ value x = c } b := by
    intro b h
    constructor
    · obtain ⟨x, hx, hvalue⟩ :=
        mem_of_combine_max (fun x hx => hbase x ((hfilter x).mp hx).1) h
      exact ⟨x, ((hfilter x).mp hx).1, ((hfilter x).mp hx).2, hvalue⟩
    · rintro c ⟨x, hx, hkey, rfl⟩
      exact le_of_combine_max h x ((hfilter x).mpr ⟨hx, hkey⟩)
  rw [lookup_collect]
  refine ⟨hof b, fun hgreatest => ?_⟩
  obtain ⟨x, hx, hkey, -⟩ := hgreatest.1
  cases hcombine : combine (fun x => max base (value x)) (fun x b => max b (value x))
      (xs.filter fun x => key x = k) with
  | none =>
      cases hlist : xs.filter (fun x => key x = k) with
      | nil => exact absurd ((hfilter x).mpr ⟨hx, hkey⟩) (hlist ▸ List.not_mem_nil)
      | cons y rest =>
          rw [hlist] at hcombine
          exact nomatch hcombine
  | some m => rw [(hof m hcombine).unique hgreatest]

/-! ## Reading it -/

/-- `d.get(k)` -/
def valueAt (dict : List (κ × β)) (k : κ) : Option β := dict.lookup k

theorem mem_iff_valueAt {dict : List (κ × β)} (h : (dict.map Prod.fst).Nodup) {k : κ} {b : β} :
    (k, b) ∈ dict ↔ valueAt dict k = some b :=
  mem_iff_lookup h

end AskLake.Lib

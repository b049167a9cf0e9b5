/-
# `AskLake.Lib.Numbered` — a log whose entries are numbered from zero

Entries are appended, each under the next number.  `between` is the part of the
log under some numbers,

    between number xs low high        low ≤ number x < high

and of it the length, the first so many entries, and what is left above a number
are known from the numbers alone.  `loadFrom` reads such a part by looking up one
number after another, until one is missing.
-/
import Mathlib.Data.List.Basic
import Mathlib.Data.List.Induction
import Mathlib.Data.List.Sort
import Mathlib.Algebra.Order.Group.Int

namespace AskLake.Lib

variable {α : Type*} {number : α → Int} {xs : List α} {x : α} {low mid high : Int}

/-- The entries have the numbers 0, 1, … -/
inductive Numbered (number : α → Int) : List α → Prop
  | nil : Numbered number []
  | snoc {xs : List α} {x : α} (h : Numbered number xs) (hx : number x = xs.length) :
      Numbered number (xs ++ [x])

def between (number : α → Int) (xs : List α) (low high : Int) : List α :=
  xs.filter fun x => low ≤ number x ∧ number x < high

theorem mem_between : x ∈ between number xs low high ↔
    x ∈ xs ∧ low ≤ number x ∧ number x < high := by
  rw [between, List.mem_filter, decide_eq_true_eq]

theorem between_append (xs ys : List α) (low high : Int) :
    between number (xs ++ ys) low high = between number xs low high ++ between number ys low high :=
  List.filter_append ..

theorem between_singleton (x : α) (low high : Int) : between number [x] low high =
    if low ≤ number x ∧ number x < high then [x] else [] := by
  by_cases hx : low ≤ number x ∧ number x < high
  · rw [if_pos hx, between, List.filter_cons_of_pos (by simpa using hx), List.filter_nil]
  · rw [if_neg hx, between, List.filter_cons_of_neg (by simpa using hx), List.filter_nil]

/-- What a part holds above a number. -/
theorem filter_between (xs : List α) (low high bound : Int) :
    (between number xs low high).filter (fun x => bound < number x) =
      between number xs (max low (bound + 1)) high := by
  rw [between, between, List.filter_filter]
  refine List.filter_congr fun x _ => ?_
  rw [← Bool.decide_and, decide_eq_decide]
  omega

theorem between_eq_nil (h : high ≤ low) : between number xs low high = [] := by
  refine List.filter_eq_nil_iff.mpr fun x _ hx => ?_
  have hx := of_decide_eq_true hx
  omega

namespace Numbered

/-- The numbers are those below the length. -/
theorem bounds (h : Numbered number xs) (hx : x ∈ xs) : 0 ≤ number x ∧ number x < xs.length := by
  induction h with
  | nil => exact nomatch hx
  | snoc h hlast ih =>
      rw [List.length_append, List.length_singleton]
      rcases List.mem_append.mp hx with hx | hx
      · have := ih hx
        omega
      · rw [List.mem_singleton.mp hx]
        omega

/-- Two parts, one after the other. -/
theorem between_append_between (h : Numbered number xs) (hlow : low ≤ mid) (hhigh : mid ≤ high) :
    between number xs low mid ++ between number xs mid high = between number xs low high := by
  induction h with
  | nil => rfl
  | snoc h hlast ih =>
      rename_i ys y
      rw [between_append, between_append, between_append, between_singleton, between_singleton,
        between_singleton, ← ih]
      by_cases hmid : number y < mid
      · -- the last entry is in the first part, and nothing is in the second
        have hempty : between number ys mid high = [] := by
          refine List.filter_eq_nil_iff.mpr fun x hx hin => ?_
          have hin := of_decide_eq_true hin
          have := h.bounds hx
          omega
        rw [hempty, if_neg (fun hin : mid ≤ number y ∧ number y < high => by omega)]
        by_cases hlow : low ≤ number y
        · rw [if_pos ⟨hlow, hmid⟩, if_pos ⟨hlow, by omega⟩]
          simp
        · rw [if_neg fun hin => hlow hin.1, if_neg fun hin => hlow hin.1]
          simp
      · rw [if_neg fun hin => hmid hin.2, List.append_nil, List.append_assoc]
        congr 2
        by_cases hhigh : number y < high
        · rw [if_pos ⟨by omega, hhigh⟩, if_pos ⟨by omega, hhigh⟩]
        · rw [if_neg fun hin => hhigh hin.2, if_neg fun hin => hhigh hin.2]

theorem length_between (h : Numbered number xs) (hlow : 0 ≤ low) (hle : low ≤ high)
    (hhigh : high ≤ xs.length) : ((between number xs low high).length : Int) = high - low := by
  induction h generalizing high with
  | nil =>
      rw [List.length_nil] at hhigh
      have hsame : high = low := by
        have : high ≤ 0 := hhigh
        omega
      rw [hsame, between_eq_nil (le_refl _)]
      simp
  | snoc h hlast ih =>
      rename_i ys y
      rw [List.length_append, List.length_singleton] at hhigh
      rw [between_append, between_singleton, List.length_append]
      by_cases hin : high ≤ ys.length
      · rw [if_neg (by omega), List.length_nil, Nat.add_zero]
        exact ih hle hin
      · by_cases hsame : low = high
        · rw [if_neg (by omega), hsame, between_eq_nil (le_refl _)]
          simp
        · have hrest : between number ys low high = between number ys low (high - 1) := by
            refine List.filter_congr fun x hx => ?_
            have := h.bounds hx
            rw [decide_eq_decide]
            omega
          rw [if_pos (by omega), hrest, List.length_singleton, Int.natCast_add,
            ih (by omega) (by omega)]
          omega

/-- The first entries of a part. -/
theorem take_between (h : Numbered number xs) (hlow : 0 ≤ low) (hle : low ≤ high)
    (hhigh : high ≤ xs.length) (n : Nat) :
    (between number xs low high).take n = between number xs low (min high (low + n)) := by
  by_cases hn : high ≤ low + n
  · rw [min_eq_left hn]
    refine List.take_of_length_le ?_
    have := h.length_between hlow hle hhigh
    omega
  · rw [min_eq_right (by omega),
      ← h.between_append_between (by omega : low ≤ low + n) (by omega : low + n ≤ high)]
    have hlength := h.length_between hlow (by omega : low ≤ low + n) (by omega)
    rw [List.take_append_of_le_length (by omega)]
    exact List.take_of_length_le (by omega)

/-- An entry under each number. -/
theorem exists_number (h : Numbered number xs) {n : Int} (hn : 0 ≤ n) (hlt : n < xs.length) :
    ∃ x ∈ xs, number x = n := by
  have hlength := h.length_between hn (by omega : n ≤ n + 1) (by omega)
  have hne : between number xs n (n + 1) ≠ [] := by
    intro hnil
    rw [hnil] at hlength
    simp at hlength
  obtain ⟨x, hx⟩ := List.exists_mem_of_ne_nil _ hne
  obtain ⟨hx, hlow, hhigh⟩ := mem_between.mp hx
  exact ⟨x, hx, by omega⟩

theorem pairwise (h : Numbered number xs) : xs.Pairwise fun a b => number a < number b := by
  induction h with
  | nil => exact List.Pairwise.nil
  | snoc h hlast ih =>
      refine List.pairwise_append.mpr ⟨ih, List.pairwise_singleton _ _, fun a ha b hb => ?_⟩
      have := h.bounds ha
      rw [List.mem_singleton.mp hb]
      omega

/-- Of the part under one number there is one entry. -/
theorem between_single (h : Numbered number xs) (hx : x ∈ xs) {n : Int} (hn : number x = n) :
    between number xs n (n + 1) = [x] := by
  have hbounds := h.bounds hx
  have hlength := h.length_between (by omega : 0 ≤ n) (by omega : n ≤ n + 1) (by omega)
  have hmem : x ∈ between number xs n (n + 1) := mem_between.mpr ⟨hx, by omega, by omega⟩
  obtain ⟨y, hy⟩ := List.length_eq_one_iff.mp
    (show (between number xs n (n + 1)).length = 1 by omega)
  rw [hy] at hmem ⊢
  rw [List.mem_singleton.mp hmem]

end Numbered

/-! ## Looking up one number after another -/

/-- The entries from a number on, until one is missing. -/
def loadFrom (find : Int → Option α) : Nat → Int → List α
  | 0, _ => []
  | n + 1, k =>
      match find k with
      | none => []
      | some x => x :: loadFrom find n (k + 1)

theorem loadFrom_eq (h : Numbered number xs) {n : Nat} {k : Int} (hk : 0 ≤ k)
    (hn : k + n ≤ xs.length) :
    loadFrom (fun i => xs.find? fun x => number x = i) n k = between number xs k (k + n) := by
  induction n generalizing k with
  | zero => exact (between_eq_nil (by omega)).symm
  | succ n ih =>
      rw [loadFrom]
      cases hfind : xs.find? (fun x => number x = k) with
      | none =>
          obtain ⟨x, hx, hnumber⟩ := h.exists_number hk (by omega)
          exact absurd (decide_eq_true hnumber) (List.find?_eq_none.mp hfind x hx)
      | some x =>
          have hnumber : number x = k := by simpa using List.find?_some hfind
          have hsingle := h.between_single (List.mem_of_find?_eq_some hfind) hnumber
          show x :: loadFrom _ n (k + 1) = _
          rw [ih (by omega) (by omega), ← h.between_append_between (by omega : k ≤ k + 1)
            (by omega : k + 1 ≤ k + (n + 1 : Nat)), hsingle]
          have hend : k + 1 + n = k + (n + 1 : Nat) := by omega
          rw [hend]
          rfl

end AskLake.Lib

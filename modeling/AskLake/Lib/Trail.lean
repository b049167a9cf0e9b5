/-
# `AskLake.Lib.Trail` — following links

A start, and for each node the link to the next one:

    trail next start n          the node after `n` links, if there is one
    First next start n u        the first time that the trail comes to `u`
    marks next start keep n     what `keep` keeps of the first `n` nodes

A node determines what comes after it.  So a trail that comes to a node for the first time
has never come to any node twice before, though it may go round in a circle later.
-/
import Mathlib.Data.List.Nodup
import Mathlib.Data.Nat.Find
import Mathlib.Data.Option.Basic

namespace AskLake.Lib

variable {κ β : Type*}

/-- The node after `n` links. -/
def trail (next : κ → Option κ) (start : Option κ) : Nat → Option κ
  | 0 => start
  | n + 1 => (trail next start n).bind next

/-- The first time that a trail comes to a node. -/
structure First (next : κ → Option κ) (start : Option κ) (n : Nat) (u : κ) : Prop where
  at_n : trail next start n = some u
  before : ∀ m < n, trail next start m ≠ some u

/-- What is kept of the first `n` nodes. -/
def marks (next : κ → Option κ) (start : Option κ) (keep : κ → Option β) (n : Nat) : List β :=
  (List.range n).filterMap fun i => (trail next start i).bind keep

section
variable {next : κ → Option κ} {start : Option κ} {keep : κ → Option β} {m n k : Nat} {u v : κ}

@[simp] theorem trail_zero : trail next start 0 = start := rfl

theorem trail_succ : trail next start (n + 1) = (trail next start n).bind next := rfl

theorem trail_succ_of (h : trail next start n = some u) : trail next start (n + 1) = next u := by
  rw [trail_succ, h, Option.bind_some]

/-- A trail that has ended has ended. -/
theorem trail_none (h : trail next start m = none) (hle : m ≤ n) : trail next start n = none := by
  induction n, hle using Nat.le_induction with
  | base => exact h
  | succ n _ ih => rw [trail_succ, ih, Option.bind_none]

/-- What comes after a node depends on the node only. -/
theorem trail_add (h : trail next start m = trail next start n) (k : Nat) :
    trail next start (m + k) = trail next start (n + k) := by
  induction k with
  | zero => exact h
  | succ k ih => rw [← Nat.add_assoc, ← Nat.add_assoc, trail_succ, trail_succ, ih]

/-- A node that a trail comes to has a first time. -/
theorem exists_first [DecidableEq κ] (h : trail next start n = some u) :
    ∃ m ≤ n, First next start m u :=
  ⟨Nat.find ⟨n, h⟩, Nat.find_min' ⟨n, h⟩ h,
    Nat.find_spec (p := fun m => trail next start m = some u) ⟨n, h⟩,
    fun _ hlt => Nat.find_min (p := fun m => trail next start m = some u) ⟨n, h⟩ hlt⟩

/-- Up to a first time no node comes twice. -/
theorem First.injective (h : First next start n u) {i j : Nat} (hi : i ≤ n) (hj : j ≤ n)
    (heq : trail next start i = trail next start j) : i = j := by
  -- were `i` before `j`, the rest of the way from `j` to `n` would lead from `i` to `u` too
  have hnot : ∀ {i j}, i < j → j ≤ n → trail next start i ≠ trail next start j := by
    intro i j hlt hle heq
    have hway := trail_add heq (n - j)
    rw [Nat.add_sub_cancel' hle, h.at_n] at hway
    exact h.before (i + (n - j)) (by omega) hway
  rcases Nat.lt_trichotomy i j with hlt | heq' | hgt
  · exact absurd heq (hnot hlt hj)
  · exact heq'
  · exact absurd heq.symm (hnot hgt hi)

/-- Two last nodes of a trail are one. -/
theorem last_unique (hu : trail next start m = some u) (hv : trail next start n = some v)
    (hlast : next u = none) (hlast' : next v = none) : u = v := by
  have hend := trail_succ_of hu
  have hend' := trail_succ_of hv
  rw [hlast] at hend
  rw [hlast'] at hend'
  have hle : n ≤ m := Nat.le_of_not_lt fun hlt => by
    rw [trail_none hend hlt] at hv
    exact nomatch hv
  have hle' : m ≤ n := Nat.le_of_not_lt fun hlt => by
    rw [trail_none hend' hlt] at hu
    exact nomatch hu
  obtain rfl := Nat.le_antisymm hle hle'
  exact Option.some.inj (hu.symm.trans hv)

/-! ## What is kept -/

@[simp] theorem marks_zero : marks next start keep 0 = [] := rfl

theorem marks_succ : marks next start keep (n + 1) =
    marks next start keep n ++ ((trail next start n).bind keep).toList := by
  rw [marks, marks, List.range_succ, List.filterMap_append]
  congr 1

theorem mem_marks {b : β} : b ∈ marks next start keep n ↔
    ∃ i < n, ∃ v, trail next start i = some v ∧ keep v = some b := by
  simp [marks, List.mem_filterMap, Option.bind_eq_some_iff]

/-- Where nothing is kept, the marks stay. -/
theorem marks_eq (hle : m ≤ n)
    (h : ∀ i, m ≤ i → i < n → ∀ v, trail next start i = some v → keep v = none) :
    marks next start keep n = marks next start keep m := by
  induction n, hle using Nat.le_induction with
  | base => rfl
  | succ n hle ih =>
      have hnone : (trail next start n).bind keep = none := by
        cases hv : trail next start n with
        | none => rfl
        | some v => exact h n hle (Nat.lt_succ_self n) v hv
      rw [marks_succ, hnone, Option.toList_none, List.append_nil]
      exact ih fun i hi hlt => h i hi (Nat.lt_succ_of_lt hlt)

/-- A trail that has ended keeps no more. -/
theorem marks_ended (h : trail next start m = none) (hle : m ≤ n) :
    marks next start keep n = marks next start keep m := by
  refine marks_eq hle fun i hi _ v hv => ?_
  rw [trail_none h hi] at hv
  exact nomatch hv

/-- The marks of a longer way begin with those of a shorter one. -/
theorem marks_initial (hle : m ≤ n) : marks next start keep m <+: marks next start keep n := by
  induction n, hle using Nat.le_induction with
  | base => exact List.prefix_refl _
  | succ n _ ih =>
      rw [marks_succ]
      exact ih.trans (List.prefix_append _ _)

end

end AskLake.Lib

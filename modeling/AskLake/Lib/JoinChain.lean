/-
# `AskLake.Lib.JoinChain` — a chain of joins, row by row

A left-deep chain of INNER and LEFT joins, read from its left input: what is joined so far is a
binding `e`, a join looks through its frame for the rows that its predicate accepts with `e`,
and extends `e` by each of them, or by none where there is none and the join is a LEFT one.

    joinChain joins e        the bindings that come out for one left row

Two facts about it do not depend on what the rows are.  A frame may be cut down to any rows
among which the predicate finds the same ones (`joinChain_congr`), and a chain whose frames
each hold at most one row for a binding gives at most one binding (`joinChain_length_le_one`).
Both need the predicate only at the bindings that the chain can reach, which is what the
invariant `I` is for.
-/
import Mathlib.Data.List.Basic
import Mathlib.Data.List.Forall2

namespace AskLake.Lib

universe u v

variable {ε : Type u} {ρ : Type v}

inductive JoinType
  | inner
  | left
  deriving DecidableEq

/-- A join of a chain with the frame that it looks through. -/
structure Joined (ε : Type u) (ρ : Type v) where
  type : JoinType
  accepts : ε → ρ → Bool
  extend : ε → Option ρ → ε
  frame : List ρ

namespace Joined

variable (join : Joined ε ρ)

/-- The rows of the frame for a binding. -/
def found (e : ε) : List ρ := join.frame.filter (join.accepts e)

/-- The bindings that the join makes of one. -/
def bindings (e : ε) : List ε :=
  match join.type, join.found e with
  | .left, [] => [join.extend e none]
  | _, rows => rows.map fun row => join.extend e (some row)

/-- The same join over another frame. -/
def withFrame (frame : List ρ) : Joined ε ρ := { join with frame := frame }

theorem mem_bindings {e e' : ε} (h : e' ∈ join.bindings e) : ∃ row, e' = join.extend e row := by
  unfold bindings at h
  split at h
  · exact ⟨none, List.mem_singleton.mp h⟩
  · obtain ⟨row, -, rfl⟩ := List.mem_map.mp h
    exact ⟨some row, rfl⟩

theorem bindings_congr {e : ε} {frame : List ρ} (h : (join.withFrame frame).found e = join.found e) :
    (join.withFrame frame).bindings e = join.bindings e := by
  unfold bindings
  rw [h]
  rfl

theorem bindings_length_le_one {e : ε} (h : (join.found e).length ≤ 1) :
    (join.bindings e).length ≤ 1 := by
  unfold bindings
  split
  · exact Nat.le_refl _
  · rw [List.length_map]
    exact h

end Joined

/-- What comes out of a chain for one left row. -/
def joinChain : List (Joined ε ρ) → ε → List ε
  | [], e => [e]
  | join :: joins, e => (join.bindings e).flatMap (joinChain joins)

section
variable {I : ε → Prop}

/-- Frames in which each join finds the same rows give the same chain. -/
theorem joinChain_congr {joins joins' : List (Joined ε ρ)}
    (h : List.Forall₂ (fun join join' => (∃ frame, join' = join.withFrame frame) ∧
      (∀ e row, I e → I (join.extend e row)) ∧ ∀ e, I e → join'.found e = join.found e)
      joins joins') {e : ε} (he : I e) : joinChain joins' e = joinChain joins e := by
  induction h generalizing e with
  | nil => rfl
  | @cons join join' joins joins' hfirst _ ih =>
      obtain ⟨⟨frame, rfl⟩, hkeeps, hfound⟩ := hfirst
      rw [joinChain, joinChain, join.bindings_congr (hfound e he)]
      refine List.flatMap_congr fun e' he' => ?_
      obtain ⟨row, rfl⟩ := join.mem_bindings he'
      exact ih (hkeeps e row he)

/-- A chain that finds at most one row each time gives at most one binding. -/
theorem joinChain_length_le_one {joins : List (Joined ε ρ)}
    (h : ∀ join ∈ joins, (∀ e row, I e → I (join.extend e row)) ∧
      ∀ e, I e → (join.found e).length ≤ 1) {e : ε} (he : I e) :
    (joinChain joins e).length ≤ 1 := by
  induction joins generalizing e with
  | nil => exact Nat.le_refl _
  | cons join joins ih =>
      obtain ⟨hkeeps, hfound⟩ := h join List.mem_cons_self
      have hrest : ∀ {e : ε}, I e → (joinChain joins e).length ≤ 1 :=
        ih fun join' hjoin' => h join' (List.mem_cons_of_mem _ hjoin')
      rw [joinChain]
      have hlength := join.bindings_length_le_one (hfound e he)
      match hbindings : join.bindings e, hlength with
      | [], _ => exact Nat.zero_le 1
      | [e'], _ =>
          obtain ⟨row, rfl⟩ := join.mem_bindings (hbindings ▸ List.mem_singleton_self e')
          rw [List.flatMap_singleton]
          exact hrest (hkeeps e row he)

end

/-! ## Frames without two rows of one key -/

/-- At most one row of a frame has a given key. -/
theorem length_le_one_of_key {β : Type*} {key : ρ → β} {rows : List ρ} {b : β}
    (hnodup : (rows.map key).Nodup) (hkey : ∀ row ∈ rows, key row = b) : rows.length ≤ 1 := by
  match rows, hnodup, hkey with
  | [], _, _ => exact Nat.zero_le 1
  | [_], _, _ => exact Nat.le_refl _
  | r :: r' :: rest, hnodup, hkey =>
      have hne := (List.nodup_cons.mp hnodup).1
      have hr := hkey r List.mem_cons_self
      have hr' := hkey r' (List.mem_cons_of_mem _ List.mem_cons_self)
      exact absurd (List.mem_map.mpr ⟨r', List.mem_cons_self, hr'.trans hr.symm⟩) hne

end AskLake.Lib

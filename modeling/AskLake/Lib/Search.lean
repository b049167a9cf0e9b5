/-
# `AskLake.Lib.Search` — the first hit of a bounded search

A loop that tries `s`, `next s`, `next (next s)`, … at most `n` times and returns the first
answer:

    firstHit try next n s

What it returns is the answer of one state, and every state before that one had none; where it
returns nothing, none of the `n` states had an answer.
-/
import Mathlib.Logic.Function.Iterate

namespace AskLake.Lib

variable {σ β : Type*}

def firstHit (answer : σ → Option β) (next : σ → σ) : Nat → σ → Option β
  | 0, _ => none
  | n + 1, s =>
      match answer s with
      | some b => some b
      | none => firstHit answer next n (next s)

variable {answer : σ → Option β} {next : σ → σ}

theorem firstHit_some {n : Nat} {s : σ} {b : β} (h : firstHit answer next n s = some b) :
    ∃ i < n, answer (next^[i] s) = some b ∧ ∀ j < i, answer (next^[j] s) = none := by
  induction n generalizing s with
  | zero => exact nomatch h
  | succ n ih =>
      unfold firstHit at h
      split at h
      · rename_i b' hb
        cases h
        exact ⟨0, Nat.succ_pos n, hb, fun j hj => absurd hj (Nat.not_lt_zero j)⟩
      · rename_i hnone
        obtain ⟨i, hi, hb, hbefore⟩ := ih h
        refine ⟨i + 1, Nat.succ_lt_succ hi, hb, fun j hj => ?_⟩
        cases j with
        | zero => exact hnone
        | succ j => exact hbefore j (Nat.lt_of_succ_lt_succ hj)

theorem firstHit_none {n : Nat} {s : σ} :
    firstHit answer next n s = none ↔ ∀ i < n, answer (next^[i] s) = none := by
  induction n generalizing s with
  | zero => exact ⟨fun _ i hi => absurd hi (Nat.not_lt_zero i), fun _ => rfl⟩
  | succ n ih =>
      unfold firstHit
      constructor
      · intro h i hi
        split at h
        · exact nomatch h
        · rename_i hnone
          cases i with
          | zero => exact hnone
          | succ i => exact ih.mp h i (Nat.lt_of_succ_lt_succ hi)
      · intro h
        rw [show answer s = none from h 0 (Nat.succ_pos n)]
        exact ih.mpr fun i hi => h (i + 1) (Nat.succ_lt_succ hi)

/-! ## Counting up -/

/-- The first number with a property, among `n` numbers from `start` on. -/
def firstFrom (p : Int → Bool) (n : Nat) (start : Int) : Option Int :=
  firstHit (fun t => if p t then some t else none) (· + 1) n start

theorem iterate_add_one (i : Nat) (start : Int) : (· + 1)^[i] start = start + i := by
  induction i generalizing start with
  | zero => exact (Int.add_zero start).symm
  | succ i ih =>
      rw [Function.iterate_succ_apply, ih]
      omega

theorem firstFrom_some {p : Int → Bool} {n : Nat} {start r : Int}
    (h : firstFrom p n start = some r) :
    start ≤ r ∧ r < start + n ∧ p r = true ∧ ∀ t, start ≤ t → t < r → p t = false := by
  obtain ⟨i, hi, hanswer, hbefore⟩ := firstHit_some h
  rw [iterate_add_one] at hanswer
  split at hanswer
  · rename_i hp
    cases hanswer
    refine ⟨by omega, by omega, hp, fun t hle hlt => ?_⟩
    have hnone := hbefore (t - start).toNat (by omega)
    rw [iterate_add_one, (by omega : start + ((t - start).toNat : Int) = t)] at hnone
    split at hnone
    · exact nomatch hnone
    · rename_i hp'
      exact Bool.eq_false_iff.mpr hp'
  · exact nomatch hanswer

theorem firstFrom_none {p : Int → Bool} {n : Nat} {start : Int}
    (h : firstFrom p n start = none) : ∀ t, start ≤ t → t < start + n → p t = false := by
  intro t hle hlt
  have hnone := firstHit_none.mp h (t - start).toNat (by omega)
  rw [iterate_add_one, (by omega : start + ((t - start).toNat : Int) = t)] at hnone
  split at hnone
  · exact nomatch hnone
  · rename_i hp
    exact Bool.eq_false_iff.mpr hp

end AskLake.Lib

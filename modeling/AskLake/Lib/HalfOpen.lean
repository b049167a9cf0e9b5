/-
# `AskLake.Lib.HalfOpen` — half-open intervals with an open end

An interval `[start, stop)` is not empty, and one without a stop goes on for ever.  One interval
is before another when it stops where the other starts, or earlier; of two intervals that share
no point one is before the other, and it is the one that starts earlier.
-/
import Mathlib.Order.Basic
import Mathlib.Order.Lattice

namespace AskLake.Lib

variable {τ : Type*} [LinearOrder τ]

structure HalfOpen (τ : Type*) [LinearOrder τ] where
  start : τ
  stop : Option τ
  proper : ∀ e, stop = some e → start < e

namespace HalfOpen

variable {a b c : HalfOpen τ} {t : τ}

def Contains (a : HalfOpen τ) (t : τ) : Prop := a.start ≤ t ∧ ∀ e, a.stop = some e → t < e

def Before (a b : HalfOpen τ) : Prop := ∃ e, a.stop = some e ∧ e ≤ b.start

theorem contains_start (a : HalfOpen τ) : a.Contains a.start := ⟨le_refl _, a.proper⟩

theorem Before.trans (h : a.Before b) (h' : b.Before c) : a.Before c := by
  obtain ⟨e, he, hle⟩ := h
  obtain ⟨f, hf, hle'⟩ := h'
  exact ⟨e, he, hle.trans ((b.proper f hf).le.trans hle')⟩

/-- No point is in both. -/
theorem Before.apart (h : a.Before b) (ha : a.Contains t) : ¬ b.Contains t := by
  obtain ⟨e, he, hle⟩ := h
  intro hb
  exact absurd (ha.2 e he) (not_lt_of_ge (hle.trans hb.1))

theorem Before.start_lt (h : a.Before b) : a.start < b.start := by
  obtain ⟨e, he, hle⟩ := h
  exact (a.proper e he).trans_le hle

/-- Of two intervals that share no point the one that starts first is before the other. -/
theorem before_of_apart (hle : a.start ≤ b.start) (h : ∀ t, a.Contains t → ¬ b.Contains t) :
    a.Before b := by
  have hnot : ¬ a.Contains b.start := fun hcontains => h _ hcontains b.contains_start
  cases hstop : a.stop with
  | none => exact absurd ⟨hle, fun e he => nomatch hstop.symm.trans he⟩ hnot
  | some e =>
      refine ⟨e, hstop, le_of_not_gt fun hlt => hnot ⟨hle, fun f hf => ?_⟩⟩
      rwa [Option.some.inj (hf.symm.trans hstop)]

end HalfOpen

end AskLake.Lib

/-
# `AskLake.Lib.Chain` — intervals that follow one another without a gap

An interval `(a, b]` holds the points above `a` and up to `b`.  A list of them is
*linked* from `lo` to `hi` when each one is nonempty and starts where the one
before it ended:

    lo = a₁ < b₁ = a₂ < b₂ = … = aₙ < bₙ = hi

`Linked.count_covers` is what such a chain is kept for: a point between `lo` and
`hi` lies in one interval of the list, and every other point in none.
-/
import Mathlib.Data.List.Basic
import Mathlib.Order.Basic
import Mathlib.Order.Defs.LinearOrder
import Mathlib.Order.Lattice

namespace AskLake.Lib

variable {β : Type*} [LinearOrder β]

/-- The points of `(a, b]`. -/
def covers (o : β) (i : β × β) : Bool := decide (i.1 < o ∧ o ≤ i.2)

/-- The intervals lead from `lo` to `hi`. -/
def Linked : β → List (β × β) → β → Prop
  | lo, [], hi => lo = hi
  | lo, i :: rest, hi => i.1 = lo ∧ lo < i.2 ∧ Linked i.2 rest hi

namespace Linked

theorem le : ∀ {lo hi : β} {is : List (β × β)}, Linked lo is hi → lo ≤ hi
  | _, _, [], h => le_of_eq h
  | _, _, _ :: _, ⟨_, hlt, hrest⟩ => hlt.le.trans hrest.le

theorem append : ∀ {lo mid hi : β} {is js : List (β × β)},
    Linked lo is mid → Linked mid js hi → Linked lo (is ++ js) hi
  | _, _, _, [], _, h, hj => by
      cases h
      exact hj
  | _, _, _, _ :: _, _, ⟨hstart, hlt, hrest⟩, hj => ⟨hstart, hlt, hrest.append hj⟩

/-- One interval after the other: each starts where the one before it ended. -/
theorem isChain : ∀ {lo hi : β} {is : List (β × β)}, Linked lo is hi →
    is.IsChain fun i j => j.1 = i.2
  | _, _, [], _ => .nil
  | _, _, [_], _ => .singleton _
  | _, _, _ :: _ :: _, ⟨_, _, hrest⟩ => .cons_cons hrest.1 hrest.isChain

theorem count_covers : ∀ {lo hi : β} {is : List (β × β)}, Linked lo is hi → ∀ o,
    is.countP (covers o) = if lo < o ∧ o ≤ hi then 1 else 0
  | lo, hi, [], h, o => by
      cases h
      rw [if_neg fun h => absurd h.2 (not_le.mpr h.1), List.countP_nil]
  | lo, hi, i :: rest, ⟨hstart, hlt, hrest⟩, o => by
      rw [List.countP_cons, hrest.count_covers o]
      by_cases hin : lo < o ∧ o ≤ i.2
      · -- the point is in this interval, hence in none of the later ones
        have hcov : covers o i = true := by simp [covers, hstart, hin]
        rw [if_neg fun h => absurd hin.2 (not_le.mpr h.1), if_pos hcov,
          if_pos ⟨hin.1, hin.2.trans hrest.le⟩]
      · have hcov : ¬ covers o i = true := by
          simpa [covers, hstart] using hin
        rw [if_neg hcov, Nat.add_zero]
        by_cases hlater : i.2 < o ∧ o ≤ hi
        · rw [if_pos hlater, if_pos ⟨hlt.trans hlater.1, hlater.2⟩]
        · rw [if_neg hlater, if_neg]
          rintro ⟨hlo, hhi⟩
          rcases lt_or_ge i.2 o with h | h
          · exact hlater ⟨h, hhi⟩
          · exact hin ⟨hlo, h⟩

end Linked

end AskLake.Lib

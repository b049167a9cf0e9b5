/-
# `AskLake.Lib.Spans` — half-open spans, joined where they touch

A span is a pair `(a, b)` that holds the points `a ≤ x < b`.  A list of spans
that follow one another is brought to its coarsest form by one pass:

    (a, b) (b, c) …   becomes   (a, c) …

`held_joinTouching` says that no point is won or lost, `apart_joinTouching` that
there is a gap between any two spans that are left.  Then a span lies inside one
of them exactly when all of its points are held (`within_one_iff`), so that
containment of whole sets is decided end by end.
-/
import Mathlib.Data.List.Pairwise
import Mathlib.Order.Basic
import Mathlib.Order.Lattice

namespace AskLake.Lib

variable {α : Type*} [LinearOrder α]

/-- A point of one of the spans. -/
def Held (spans : List (α × α)) (x : α) : Prop := ∃ s ∈ spans, s.1 ≤ x ∧ x < s.2

/-- The pass, from the span that may still grow. -/
def joinFrom (current : α × α) : List (α × α) → List (α × α)
  | [] => [current]
  | s :: rest =>
      if s.1 = current.2 then joinFrom (current.1, s.2) rest else current :: joinFrom s rest

def joinTouching : List (α × α) → List (α × α)
  | [] => []
  | s :: rest => joinFrom s rest

/-- Spans with points, one after the other. -/
structure InOrder (spans : List (α × α)) : Prop where
  nonempty : ∀ s ∈ spans, s.1 < s.2
  ordered : spans.Pairwise fun s t => s.2 ≤ t.1

/-- Spans with a gap between any two. -/
structure Separate (spans : List (α × α)) : Prop where
  nonempty : ∀ s ∈ spans, s.1 < s.2
  apart : spans.Pairwise fun s t => s.2 < t.1

section
variable {current : α × α} {spans rest : List (α × α)} {x : α}

theorem held_cons {s : α × α} : Held (s :: rest) x ↔ (s.1 ≤ x ∧ x < s.2) ∨ Held rest x := by
  simp only [Held, List.mem_cons, exists_eq_or_imp]

/-- Two spans that touch, seen as one. -/
theorem InOrder.join {s : α × α} (h : InOrder (current :: s :: rest)) :
    InOrder ((current.1, s.2) :: rest) := by
  have hcurrent := h.nonempty current List.mem_cons_self
  have hs := h.nonempty s (List.mem_cons_of_mem _ List.mem_cons_self)
  have hordered := h.ordered
  rw [List.pairwise_cons, List.pairwise_cons] at hordered
  obtain ⟨hfirst, hsecond, hrest⟩ := hordered
  have hle : current.2 ≤ s.1 := hfirst s List.mem_cons_self
  refine ⟨fun t ht => ?_, List.pairwise_cons.mpr ⟨hsecond, hrest⟩⟩
  rcases List.mem_cons.mp ht with rfl | ht
  · exact hcurrent.trans (hle.trans_lt hs)
  · exact h.nonempty t (List.mem_cons_of_mem _ (List.mem_cons_of_mem _ ht))

theorem InOrder.tail (h : InOrder (current :: rest)) : InOrder rest :=
  ⟨fun t ht => h.nonempty t (List.mem_cons_of_mem _ ht), (List.pairwise_cons.mp h.ordered).2⟩

theorem held_joinFrom (h : InOrder (current :: rest)) :
    Held (joinFrom current rest) x ↔ Held (current :: rest) x := by
  induction rest generalizing current with
  | nil => rw [joinFrom]
  | cons s rest ih =>
      rw [joinFrom]
      split
      · rename_i htouch
        have hcurrent := h.nonempty current List.mem_cons_self
        have hs := h.nonempty s (List.mem_cons_of_mem _ List.mem_cons_self)
        rw [ih h.join, held_cons, held_cons, held_cons, ← or_assoc]
        refine or_congr_left ?_
        -- the points of the joined span lie on one side of the seam
        constructor
        · rintro ⟨hle, hlt⟩
          rcases lt_or_ge x current.2 with hleft | hright
          · exact Or.inl ⟨hle, hleft⟩
          · exact Or.inr ⟨htouch ▸ hright, hlt⟩
        · rintro (⟨hle, hlt⟩ | ⟨hle, hlt⟩)
          · exact ⟨hle, hlt.trans (htouch ▸ hs)⟩
          · exact ⟨hcurrent.le.trans (htouch ▸ hle), hlt⟩
      · rw [held_cons, ih h.tail, held_cons (s := current)]

/-- What grows from a span starts no earlier. -/
theorem start_joinFrom (h : InOrder (current :: rest)) :
    ∀ t ∈ joinFrom current rest, current.1 ≤ t.1 := by
  induction rest generalizing current with
  | nil =>
      intro t ht
      rw [joinFrom, List.mem_singleton] at ht
      rw [ht]
  | cons s rest ih =>
      intro t ht
      rw [joinFrom] at ht
      split at ht
      · exact ih h.join t ht
      · rcases List.mem_cons.mp ht with rfl | ht
        · exact le_refl _
        · have hcurrent := h.nonempty current List.mem_cons_self
          have hle := (List.pairwise_cons.mp h.ordered).1 s List.mem_cons_self
          exact (hcurrent.le.trans hle).trans (ih h.tail t ht)

theorem separate_joinFrom (h : InOrder (current :: rest)) : Separate (joinFrom current rest) := by
  induction rest generalizing current with
  | nil => exact ⟨h.nonempty, List.pairwise_singleton _ _⟩
  | cons s rest ih =>
      rw [joinFrom]
      split
      · exact ih h.join
      · rename_i hgap
        obtain ⟨hnonempty, hapart⟩ := ih h.tail
        refine ⟨fun t ht => ?_, List.pairwise_cons.mpr ⟨fun t ht => ?_, hapart⟩⟩
        · rcases List.mem_cons.mp ht with rfl | ht
          · exact h.nonempty _ List.mem_cons_self
          · exact hnonempty t ht
        · have hle := (List.pairwise_cons.mp h.ordered).1 s List.mem_cons_self
          exact (lt_of_le_of_ne hle (Ne.symm hgap)).trans_le (start_joinFrom h.tail t ht)

/-- No point is won or lost. -/
theorem held_joinTouching (h : InOrder spans) : Held (joinTouching spans) x ↔ Held spans x := by
  cases spans with
  | nil => rfl
  | cons s rest => exact held_joinFrom h

/-- There is a gap between any two spans that are left. -/
theorem separate_joinTouching (h : InOrder spans) : Separate (joinTouching spans) := by
  cases spans with
  | nil => exact ⟨fun _ ht => (nomatch ht), .nil⟩
  | cons s rest => exact separate_joinFrom h

/-- A span lies inside one of separate spans exactly when they hold its points. -/
theorem within_one_iff (h : Separate spans) {a b : α} (hab : a < b) :
    (∃ s ∈ spans, s.1 ≤ a ∧ b ≤ s.2) ↔ ∀ x, a ≤ x → x < b → Held spans x := by
  constructor
  · rintro ⟨s, hs, hstart, hend⟩ x hle hlt
    exact ⟨s, hs, hstart.trans hle, hlt.trans_le hend⟩
  · intro hall
    obtain ⟨s, hs, hstart, hinside⟩ := hall a (le_refl a) hab
    refine ⟨s, hs, hstart, not_lt.mp fun hshort => ?_⟩
    -- the first point that `s` does not hold would lie in a span that touches `s`
    obtain ⟨t, ht, htstart, htend⟩ := hall s.2 hinside.le hshort
    have hne : s ≠ t := by
      rintro rfl
      exact lt_irrefl _ htend
    have : Std.Symm fun s t : α × α => s.2 < t.1 ∨ t.2 < s.1 := ⟨fun _ _ h => h.symm⟩
    have hapart : spans.Pairwise fun s t => s.2 < t.1 ∨ t.2 < s.1 := h.apart.imp Or.inl
    have hsplit := hapart.forall hs ht hne
    rcases hsplit with hbefore | hafter
    · exact absurd htstart (not_le.mpr hbefore)
    · exact lt_asymm htend (hafter.trans (h.nonempty s hs))

end

end AskLake.Lib

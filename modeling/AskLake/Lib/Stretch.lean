/-
# `AskLake.Lib.Stretch` — a part of a log whose keys grow

The entries of a log stand in the order of their keys, with gaps between the keys.  A reader
that has come to key `high` since key `low` has read

    stretch low high      low < key x ≤ high

One more entry, the next above `high`, makes the stretch longer by that entry
(`stretch_next`); what is appended to the log above `high` leaves it (`stretch_append`).
-/
import Mathlib.Data.List.Basic
import Mathlib.Data.List.Pairwise

namespace AskLake.Lib

variable {α : Type*}

def stretch (key : α → Nat) (xs : List α) (low high : Nat) : List α :=
  xs.filter fun x => low < key x ∧ key x ≤ high

section
variable {key : α → Nat} {xs ys : List α} {x : α} {low mid high : Nat}

theorem mem_stretch : x ∈ stretch key xs low high ↔ x ∈ xs ∧ low < key x ∧ key x ≤ high := by
  rw [stretch, List.mem_filter, decide_eq_true_eq]

theorem stretch_eq_nil (h : high ≤ low) : stretch key xs low high = [] := by
  rw [stretch, List.filter_eq_nil_iff]
  intro x _
  simp only [decide_eq_true_eq]
  omega

/-- New entries outside the stretch leave it as it is. -/
theorem stretch_append (h : ∀ y ∈ ys, low < key y → ¬ key y ≤ high) :
    stretch key (xs ++ ys) low high = stretch key xs low high := by
  have hnone : ys.filter (fun x => decide (low < key x ∧ key x ≤ high)) = [] := by
    rw [List.filter_eq_nil_iff]
    intro y hy
    rw [decide_eq_true_eq, not_and]
    exact h y hy
  rw [stretch, List.filter_append, hnone, List.append_nil, stretch]

theorem stretch_pairwise (h : xs.Pairwise fun a b => key a < key b) :
    (stretch key xs low high).Pairwise fun a b => key a < key b :=
  h.sublist List.filter_sublist

/-- A stretch of an increasing log is read in two parts. -/
theorem stretch_split (h : xs.Pairwise fun a b => key a < key b) (hlow : low ≤ mid)
    (hmid : mid ≤ high) :
    stretch key xs low high = stretch key xs low mid ++ stretch key xs mid high := by
  induction xs with
  | nil => rfl
  | cons x xs ih =>
      rw [List.pairwise_cons] at h
      have hrest := ih h.2
      unfold stretch at hrest ⊢
      by_cases hlo : low < key x ∧ key x ≤ mid
      · rw [List.filter_cons_of_pos (by simp; omega), List.filter_cons_of_pos (by simpa using hlo),
          List.filter_cons_of_neg (by simp; omega), hrest, List.cons_append]
      · by_cases hhi : mid < key x ∧ key x ≤ high
        · have hnone : xs.filter (fun y => decide (low < key y ∧ key y ≤ mid)) = [] := by
            rw [List.filter_eq_nil_iff]
            intro y hy
            have := h.1 y hy
            simp only [decide_eq_true_eq]
            omega
          rw [List.filter_cons_of_pos (by simp; omega), List.filter_cons_of_neg (by simpa using hlo),
            List.filter_cons_of_pos (by simpa using hhi), hrest, hnone]
          rfl
        · rw [List.filter_cons_of_neg (by simp; omega), List.filter_cons_of_neg (by simpa using hlo),
            List.filter_cons_of_neg (by simpa using hhi), hrest]

/-- The next entry is read. -/
theorem stretch_next (h : xs.Pairwise fun a b => key a < key b) (hx : x ∈ xs) (hlow : low ≤ mid)
    (hmid : mid < key x) (hnext : ∀ y ∈ xs, mid < key y → ¬ key y < key x) :
    stretch key xs low (key x) = stretch key xs low mid ++ [x] := by
  rw [stretch_split h hlow (Nat.le_of_lt hmid)]
  congr 1
  have hmem : x ∈ stretch key xs mid (key x) := mem_stretch.mpr ⟨hx, hmid, Nat.le_refl _⟩
  have hsorted := @stretch_pairwise _ key xs mid (key x) h
  cases hstretch : stretch key xs mid (key x) with
  | nil =>
      rw [hstretch] at hmem
      exact nomatch hmem
  | cons first rest =>
      have hfirst := mem_stretch.mp (hstretch ▸ List.mem_cons_self : first ∈ stretch key xs mid (key x))
      rw [hstretch, List.pairwise_cons] at hsorted
      rw [hstretch] at hmem
      have hge : key x ≤ key first := Nat.le_of_not_lt (hnext first hfirst.1 hfirst.2.1)
      have hrest : rest = [] := by
        rw [List.eq_nil_iff_forall_not_mem]
        intro y hy
        have hin := mem_stretch.mp
          (hstretch ▸ List.mem_cons_of_mem _ hy : y ∈ stretch key xs mid (key x))
        have := hsorted.1 y hy
        omega
      subst hrest
      rw [List.mem_singleton.mp hmem]

/-- What has been read of a stretch is the stretch up to the last entry read. -/
theorem stretch_of_read (h : xs.Pairwise fun a b => key a < key b)
    {done rest : List α} (heq : stretch key xs low high = done ++ rest) :
    stretch key xs low (done.getLast?.elim low key) = done := by
  have hsorted := @stretch_pairwise _ key xs low high h
  rw [heq] at hsorted
  cases hlast : done.getLast? with
  | none =>
      rw [List.getLast?_eq_none_iff.mp hlast]
      exact stretch_eq_nil (Nat.le_refl _)
  | some last =>
      have hmem := List.mem_of_getLast? hlast
      have hin : last ∈ stretch key xs low high := heq ▸ List.mem_append_left _ hmem
      have hhigh : key last ≤ high := (mem_stretch.mp hin).2.2
      obtain ⟨front, hfront⟩ := List.getLast?_eq_some_iff.mp hlast
      have hpart : stretch key xs low (key last) =
          (stretch key xs low high).filter fun x => key x ≤ key last := by
        unfold stretch
        rw [List.filter_filter]
        apply List.filter_congr
        intro x _
        rw [← Bool.decide_and, decide_eq_decide]
        omega
      rw [Option.elim_some, hpart, heq, List.filter_append]
      have hdone : done.filter (fun x => decide (key x ≤ key last)) = done := by
        rw [List.filter_eq_self]
        intro x hx
        rw [decide_eq_true_eq]
        rw [hfront] at hx hsorted
        rcases List.mem_append.mp hx with hx | hx
        · have hlt := (List.pairwise_append.mp (List.pairwise_append.mp hsorted).1).2.2 x hx last
            (List.mem_singleton_self _)
          omega
        · exact Nat.le_of_eq (congrArg key (List.mem_singleton.mp hx))
      have hrest : rest.filter (fun x => decide (key x ≤ key last)) = [] := by
        rw [List.filter_eq_nil_iff]
        intro x hx
        rw [decide_eq_true_eq]
        have hlt := (List.pairwise_append.mp hsorted).2.2 last hmem x hx
        omega
      rw [hdone, hrest, List.append_nil]

/-- In an increasing list nothing is above the last element. -/
theorem le_getLast (h : xs.Pairwise fun a b => key a < key b) (hx : x ∈ xs) (low : Nat) :
    key x ≤ xs.getLast?.elim low key := by
  cases hlast : xs.getLast? with
  | none =>
      rw [List.getLast?_eq_none_iff.mp hlast] at hx
      exact nomatch hx
  | some last =>
      obtain ⟨front, rfl⟩ := List.getLast?_eq_some_iff.mp hlast
      rcases List.mem_append.mp hx with hx | hx
      · exact Nat.le_of_lt ((List.pairwise_append.mp h).2.2 x hx last (List.mem_singleton_self _))
      · rw [List.mem_singleton.mp hx]
        exact Nat.le_refl _

end

end AskLake.Lib

/-
# `AskLake.Lib.Runs` — the maximal runs of a set of points

Points are put into half-open spans in two ways:

    one pass over the sorted points    a run grows while the next point is its end
    grouping by point less rank        along a run the rank grows as the point does

Either way the spans are separate and hold just the points, and there is only one
such list (`Separate.ext`).
-/
import AskLake.Lib.Spans
import Mathlib.Data.Int.Interval
import Mathlib.Data.Prod.Lex

namespace AskLake.Lib

section
variable {α : Type*} [LinearOrder α] {s t : α × α} {spans others rest : List (α × α)} {x : α}

/-! ## One list of separate spans -/

theorem Separate.tail (h : Separate (s :: rest)) : Separate rest :=
  ⟨fun t ht => h.nonempty t (List.mem_cons_of_mem _ ht), (List.pairwise_cons.mp h.apart).2⟩

theorem Separate.before (h : Separate (s :: rest)) (hx : Held rest x) : s.2 < x := by
  obtain ⟨t, ht, hstart, _⟩ := hx
  exact ((List.pairwise_cons.mp h.apart).1 t ht).trans_le hstart

theorem Separate.start_held (h : Separate (s :: rest)) : Held (s :: rest) s.1 :=
  ⟨s, List.mem_cons_self, le_refl _, h.nonempty s List.mem_cons_self⟩

theorem Separate.start_le (h : Separate (s :: rest)) (hx : Held (s :: rest) x) : s.1 ≤ x := by
  rcases held_cons.mp hx with hs | hrest
  · exact hs.1
  · exact ((h.nonempty s List.mem_cons_self).trans (h.before hrest)).le

theorem Separate.end_not_held (h : Separate (s :: rest)) : ¬ Held (s :: rest) s.2 := by
  intro hend
  rcases held_cons.mp hend with hs | hrest
  · exact lt_irrefl _ hs.2
  · exact lt_irrefl _ (h.before hrest)

/-- The points after the first span are those of the others. -/
theorem Separate.held_tail (h : Separate (s :: rest)) :
    Held rest x ↔ Held (s :: rest) x ∧ s.2 ≤ x := by
  constructor
  · intro hx
    exact ⟨held_cons.mpr (Or.inr hx), (h.before hx).le⟩
  · rintro ⟨hx, hle⟩
    rcases held_cons.mp hx with hs | hrest
    · exact absurd hs.2 (not_lt.mpr hle)
    · exact hrest

/-- Of two lists with the same points, the first spans start together. -/
theorem Separate.start_eq (hs : Separate (s :: spans)) (ht : Separate (t :: others))
    (h : ∀ x, Held (s :: spans) x ↔ Held (t :: others) x) : s.1 = t.1 :=
  le_antisymm (hs.start_le ((h _).mpr ht.start_held)) (ht.start_le ((h _).mp hs.start_held))

theorem Separate.end_le (hs : Separate (s :: spans)) (ht : Separate (t :: others))
    (h : ∀ x, Held (s :: spans) x ↔ Held (t :: others) x) : t.2 ≤ s.2 := by
  by_contra hlt
  -- else the second span would hold the point where the first ends
  have hle : t.1 ≤ s.2 := (hs.start_eq ht h) ▸ (hs.nonempty s List.mem_cons_self).le
  exact hs.end_not_held ((h _).mpr (held_cons.mpr (Or.inl ⟨hle, not_le.mp hlt⟩)))

/-- Separate spans are determined by their points. -/
theorem Separate.ext (hs : Separate spans) (ho : Separate others)
    (h : ∀ x, Held spans x ↔ Held others x) : spans = others := by
  induction spans generalizing others with
  | nil =>
      cases others with
      | nil => rfl
      | cons t others =>
          obtain ⟨_, hmem, _⟩ := (h _).mpr ho.start_held
          cases hmem
  | cons s spans ih =>
      cases others with
      | nil =>
          obtain ⟨_, hmem, _⟩ := (h _).mp hs.start_held
          cases hmem
      | cons t others =>
          have hend : s.2 = t.2 := le_antisymm (ho.end_le hs fun x => (h x).symm) (hs.end_le ho h)
          have hfirst : s = t := Prod.ext (hs.start_eq ho h) hend
          have hrest : spans = others :=
            ih hs.tail ho.tail fun x => by rw [hs.held_tail, ho.held_tail, h x, hend]
          rw [hfirst, hrest]

/-! ## Ways to separate spans -/

/-- Sorted by their starts, spans of which any two have a gap are separate. -/
theorem separate_of_sorted (hnonempty : ∀ s ∈ spans, s.1 < s.2)
    (hsorted : spans.Pairwise fun s t => s.1 ≤ t.1)
    (hapart : spans.Pairwise fun s t => s.2 < t.1 ∨ t.2 < s.1) : Separate spans := by
  refine ⟨hnonempty, (hsorted.and hapart).imp_of_mem fun {s t} _ ht hboth => ?_⟩
  obtain ⟨hle, hafter | hbefore⟩ := hboth
  · exact hafter
  · exact absurd (hle.trans_lt (hnonempty t ht)) (not_lt.mpr hbefore.le)

/-- `next x` is the first point after `x`. -/
def IsNext (next : α → α) : Prop := ∀ x y, x < y ↔ next x ≤ y

variable {next : α → α}

theorem IsNext.lt (h : IsNext next) (x : α) : x < next x := (h x (next x)).mpr (le_refl _)

theorem IsNext.only (h : IsNext next) {x y : α} : x ≤ y ∧ y < next x ↔ y = x := by
  constructor
  · rintro ⟨hle, hlt⟩
    rcases eq_or_lt_of_le hle with heq | hafter
    · exact heq.symm
    · exact absurd hlt (not_lt.mpr ((h x y).mp hafter))
  · rintro rfl
    exact ⟨le_refl _, h.lt _⟩

/-- Of pairs in lexicographic order the second component goes on. -/
theorem IsNext.lex {β : Type*} [LinearOrder β] (h : IsNext next) :
    IsNext fun p : β ×ₗ α => toLex ((ofLex p).1, next (ofLex p).2) := by
  intro p q
  rw [Prod.Lex.lt_iff, Prod.Lex.le_iff]
  exact or_congr_right (and_congr_right fun _ => h _ _)

variable {points : List α}

theorem held_units (h : IsNext next) :
    Held (points.map fun x => (x, next x)) x ↔ x ∈ points := by
  simp only [Held, List.mem_map, exists_exists_and_eq_and, h.only]
  constructor
  · rintro ⟨_, hmem, rfl⟩
    exact hmem
  · exact fun hmem => ⟨x, hmem, rfl⟩

theorem inOrder_units (h : IsNext next) (hsorted : points.Pairwise (· < ·)) :
    InOrder (points.map fun x => (x, next x)) := by
  refine ⟨fun s hs => ?_, List.pairwise_map.mpr (hsorted.imp fun {x y} hlt => (h x y).mp hlt)⟩
  obtain ⟨x, _, rfl⟩ := List.mem_map.mp hs
  exact h.lt x

end

/-! ## Ranks -/

/-- The place of `o` in a set of integers. -/
def rank (points : Finset ℤ) (o : ℤ) : ℕ := (points.filter (· ≤ o)).card

variable {points : Finset ℤ} {o o' : ℤ}

/-- Between two places lie the points between. -/
theorem rank_add (h : o ≤ o') :
    rank points o' = rank points o + (points.filter fun x => o < x ∧ x ≤ o').card := by
  have hsplit : points.filter (· ≤ o')
      = points.filter (· ≤ o) ∪ points.filter fun x => o < x ∧ x ≤ o' := by
    ext x
    simp only [Finset.mem_filter, Finset.mem_union]
    constructor
    · rintro ⟨hx, hle⟩
      rcases le_or_gt x o with hbefore | hafter
      · exact Or.inl ⟨hx, hbefore⟩
      · exact Or.inr ⟨hx, hafter, hle⟩
    · rintro (⟨hx, hbefore⟩ | ⟨hx, _, hle⟩)
      · exact ⟨hx, hbefore.trans h⟩
      · exact ⟨hx, hle⟩
  rw [rank, rank, hsplit, Finset.card_union_of_disjoint]
  rw [Finset.disjoint_filter]
  exact fun x _ hle hmem => not_le.mpr hmem.1 hle

/-- The rank grows as the point does exactly where no point is left out. -/
theorem sub_rank_eq_iff (h : o ≤ o') :
    o - rank points o = o' - rank points o' ↔ ∀ x, o < x → x ≤ o' → x ∈ points := by
  have hsub : points.filter (fun x => o < x ∧ x ≤ o') ⊆ Finset.Ioc o o' :=
    fun x hx => Finset.mem_Ioc.mpr (Finset.mem_filter.mp hx).2
  have hcard : ((Finset.Ioc o o').card : ℤ) = o' - o := Int.card_Ioc_of_le o o' h
  have hrank : rank points o' = rank points o + _ := rank_add h
  constructor
  · intro heq x hlt hle
    have hall : points.filter (fun x => o < x ∧ x ≤ o') = Finset.Ioc o o' :=
      Finset.eq_of_subset_of_card_le hsub (by omega)
    exact (Finset.mem_filter.mp (hall ▸ Finset.mem_Ioc.mpr ⟨hlt, hle⟩)).1
  · intro hall
    have hfull : points.filter (fun x => o < x ∧ x ≤ o') = Finset.Ioc o o' :=
      hsub.antisymm fun x hx =>
        Finset.mem_filter.mpr ⟨hall x (Finset.mem_Ioc.mp hx).1 (Finset.mem_Ioc.mp hx).2,
          Finset.mem_Ioc.mp hx⟩
    rw [hfull] at hrank
    omega

end AskLake.Lib

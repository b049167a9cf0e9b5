/-
# `AskLake.Lib.Window` — the latest part of a list of dated elements

Some elements have a date.  `window` keeps those that are at most `span` before
the latest one, and after them the ones without a date:

    dated, last - span ≤ date     |     without a date

The latest date is never dropped, so that a window of a window is itself, and an
element that has once expired stays expired when more elements come.
-/
import Mathlib.Algebra.Order.Group.Int
import Mathlib.Data.List.Perm.Basic
import Mathlib.Data.List.MinMax
import Mathlib.Order.Basic

namespace AskLake.Lib

variable {α β : Type*}

/-- The latest date. -/
def latest (date : α → Option Int) (xs : List α) : Option Int := (xs.filterMap date).max?

/-- Before the window that ends with the latest date. -/
def Expired (date : α → Option Int) (span : Int) (xs : List α) (x : α) : Prop :=
  ∃ t last, date x = some t ∧ latest date xs = some last ∧ t < last - span

def window (date : α → Option Int) (span : Int) (xs : List α) : List α :=
  match latest date xs with
  | none => xs
  | some last =>
      (xs.filter fun x => (date x).any fun t => last - span ≤ t) ++
        xs.filter fun x => (date x).isNone

section
variable {date : α → Option Int} {span last : Int} {xs ys : List α} {x : α}

theorem latest_eq_some_iff : latest date xs = some last ↔
    (∃ x ∈ xs, date x = some last) ∧ ∀ x ∈ xs, ∀ t, date x = some t → t ≤ last := by
  unfold latest
  rw [List.max?_eq_some_iff]
  constructor
  · rintro ⟨hmem, hle⟩
    refine ⟨List.mem_filterMap.mp hmem, fun x hx t ht => ?_⟩
    exact hle t (List.mem_filterMap.mpr ⟨x, hx, ht⟩)
  · rintro ⟨hmem, hle⟩
    refine ⟨List.mem_filterMap.mpr hmem, fun t ht => ?_⟩
    obtain ⟨x, hx, ht⟩ := List.mem_filterMap.mp ht
    exact hle x hx t ht

theorem latest_eq_none_iff : latest date xs = none ↔ ∀ x ∈ xs, date x = none := by
  unfold latest
  rw [List.max?_eq_none_iff, List.filterMap_eq_nil_iff]

/-- The window drops what has expired, and nothing else. -/
theorem mem_window : x ∈ window date span xs ↔ x ∈ xs ∧ ¬ Expired date span xs x := by
  unfold window
  cases hlatest : latest date xs with
  | none =>
      refine ⟨fun hx => ⟨hx, ?_⟩, fun h => h.1⟩
      rintro ⟨t, last, -, hsome, -⟩
      exact nomatch hlatest.symm.trans hsome
  | some last =>
      rw [List.mem_append, List.mem_filter, List.mem_filter]
      cases hdate : date x with
      | none =>
          simp only [Option.any_none, Bool.false_eq_true, and_false, Option.isNone_none, and_true,
            false_or]
          refine ⟨fun hx => ⟨hx, ?_⟩, fun h => h.1⟩
          rintro ⟨t, _, ht, -⟩
          exact nomatch hdate.symm.trans ht
      | some t =>
          simp only [Option.any_some, decide_eq_true_eq, Option.isNone_some, Bool.false_eq_true,
            and_false, or_false]
          refine and_congr_right fun _ => ⟨fun hle => ?_, fun hno => ?_⟩
          · rintro ⟨t', last', ht, hlast, hlt⟩
            cases hdate.symm.trans ht
            cases hlatest.symm.trans hlast
            omega
          · by_contra hlt
            exact hno ⟨t, last, hdate, hlatest, not_le.mp hlt⟩

/-- A window is a part of the list, in another order. -/
theorem exists_sublist_perm_window (date : α → Option Int) (span : Int) (xs : List α) :
    ∃ ys : List α, ys.Sublist xs ∧ ys.Perm (window date span xs) := by
  unfold window
  cases latest date xs with
  | none => exact ⟨xs, List.Sublist.refl xs, List.Perm.refl xs⟩
  | some last =>
      refine ⟨xs.filter fun x => ((date x).any fun t => last - span ≤ t) || (date x).isNone,
        List.filter_sublist, ?_⟩
      show List.Perm _ ((xs.filter fun x => (date x).any fun t => last - span ≤ t) ++
        xs.filter fun x => (date x).isNone)
      induction xs with
      | nil => exact List.Perm.refl _
      | cons x xs ih =>
          cases hdate : date x with
          | none =>
              rw [List.filter_cons_of_pos (by simp [hdate]), List.filter_cons_of_neg (by simp [hdate]),
                List.filter_cons_of_pos (by simp [hdate])]
              exact (ih.cons x).trans List.perm_middle.symm
          | some t =>
              by_cases hle : last - span ≤ t
              · rw [List.filter_cons_of_pos
                    (by simp only [hdate, Option.any_some, hle, decide_true, Bool.true_or]),
                  List.filter_cons_of_pos (by simp only [hdate, Option.any_some, hle, decide_true]),
                  List.filter_cons_of_neg (by simp [hdate])]
                exact ih.cons x
              · rw [List.filter_cons_of_neg (by simp only [hdate, Option.any_some, hle, decide_false,
                    Option.isNone_some, Bool.or_false, Bool.false_eq_true, not_false_eq_true]),
                  List.filter_cons_of_neg (by simp only [hdate, Option.any_some, hle, decide_false,
                    Bool.false_eq_true, not_false_eq_true]),
                  List.filter_cons_of_neg (by simp [hdate])]
                exact ih

/-- Lists between a window and the whole have one latest date. -/
theorem latest_between (hspan : 0 ≤ span) (hsub : ∀ x ∈ ys, ∃ x' ∈ xs, date x' = date x)
    (hkept : ∀ x ∈ xs, ¬ Expired date span xs x → ∃ y ∈ ys, date y = date x) :
    latest date ys = latest date xs := by
  cases hlatest : latest date xs with
  | none =>
      refine latest_eq_none_iff.mpr fun y hy => ?_
      obtain ⟨x, hx, hdate⟩ := hsub y hy
      rw [← hdate]
      exact latest_eq_none_iff.mp hlatest x hx
  | some last =>
      obtain ⟨⟨x, hx, hlast⟩, hmax⟩ := latest_eq_some_iff.mp hlatest
      have hfresh : ¬ Expired date span xs x := by
        rintro ⟨t, last', ht, hlast', hlt⟩
        cases hlast.symm.trans ht
        cases hlatest.symm.trans hlast'
        omega
      obtain ⟨y, hy, hdate⟩ := hkept x hx hfresh
      refine latest_eq_some_iff.mpr ⟨⟨y, hy, hdate.trans hlast⟩, fun y hy t ht => ?_⟩
      obtain ⟨x, hx, hdate⟩ := hsub y hy
      exact hmax x hx t (hdate.trans ht)

theorem expired_congr (h : latest date ys = latest date xs) (x : α) :
    Expired date span ys x ↔ Expired date span xs x := by
  unfold Expired
  rw [h]

/-- What has expired stays so. -/
theorem Expired.mono (h : Expired date span xs x) (hsub : ∀ x ∈ xs, ∃ y ∈ ys, date y = date x) :
    Expired date span ys x := by
  obtain ⟨t, last, ht, hlast, hlt⟩ := h
  obtain ⟨⟨x', hx', hdate⟩, -⟩ := latest_eq_some_iff.mp hlast
  obtain ⟨y, hy, hy'⟩ := hsub x' hx'
  cases hlatest : latest date ys with
  | none => exact nomatch (latest_eq_none_iff.mp hlatest y hy).symm.trans (hy'.trans hdate)
  | some last' =>
      have hle := (latest_eq_some_iff.mp hlatest).2 y hy last (hy'.trans hdate)
      exact ⟨t, last', ht, hlatest, by omega⟩

theorem latest_map {date : β → Option Int} (f : α → β) (xs : List α) :
    latest date (xs.map f) = latest (date ∘ f) xs := by
  unfold latest
  rw [List.filterMap_map]

/-- The window of what a map makes of the elements. -/
theorem window_map {date : β → Option Int} (f : α → β) (xs : List α) :
    (window (date ∘ f) span xs).map f = window date span (xs.map f) := by
  unfold window
  rw [latest_map]
  split
  · rfl
  · rw [List.map_append, List.filter_map, List.filter_map]
    rfl

/-- Expired elements at the end go, and the window before them stays. -/
theorem window_append_expired (hspan : 0 ≤ span)
    (hexpired : ∀ y ∈ ys, Expired date span xs y) :
    window date span (window date span xs ++ ys) = window date span xs := by
  have hlatest : latest date (window date span xs ++ ys) = latest date xs := by
    cases hnone : latest date xs with
    | none =>
        have hys : ys = [] := by
          refine List.eq_nil_iff_forall_not_mem.mpr fun y hy => ?_
          obtain ⟨_, last, -, hsome, -⟩ := hexpired y hy
          exact nomatch hnone.symm.trans hsome
        rw [hys, List.append_nil, window, hnone]
        exact hnone
    | some last =>
        obtain ⟨⟨x, hx, hlast⟩, hmax⟩ := latest_eq_some_iff.mp hnone
        refine latest_eq_some_iff.mpr ⟨⟨x, ?_, hlast⟩, fun y hy t ht => ?_⟩
        · refine List.mem_append_left _ (mem_window.mpr ⟨hx, ?_⟩)
          rintro ⟨t, last', ht, hlast', hlt⟩
          cases hlast.symm.trans ht
          cases hnone.symm.trans hlast'
          omega
        · rcases List.mem_append.mp hy with hy | hy
          · exact hmax y (mem_window.mp hy).1 t ht
          · obtain ⟨t', last', ht', hlast', hlt⟩ := hexpired y hy
            cases ht.symm.trans ht'
            cases hnone.symm.trans hlast'
            omega
  cases hnone : latest date xs with
  | none =>
      have hys : ys = [] := by
        refine List.eq_nil_iff_forall_not_mem.mpr fun y hy => ?_
        obtain ⟨_, last, -, hsome, -⟩ := hexpired y hy
        exact nomatch hnone.symm.trans hsome
      have hself : window date span xs = xs := by rw [window, hnone]
      rw [hys, List.append_nil, hself, hself]
  | some last =>
      have hdropDated : (ys.filter fun x => (date x).any fun t => last - span ≤ t) = [] := by
        refine List.filter_eq_nil_iff.mpr fun y hy => ?_
        obtain ⟨t, last', ht, hlast', hlt⟩ := hexpired y hy
        cases hnone.symm.trans hlast'
        rw [ht]
        exact mt of_decide_eq_true (not_le.mpr hlt)
      have hdropNone : (ys.filter fun x => (date x).isNone) = [] := by
        refine List.filter_eq_nil_iff.mpr fun y hy => ?_
        obtain ⟨t, _, ht, -⟩ := hexpired y hy
        rw [ht]
        simp
      have hwindow : window date span xs =
          (xs.filter fun x => (date x).any fun t => last - span ≤ t) ++
            xs.filter fun x => (date x).isNone := by rw [window, hnone]
      rw [window, hlatest, hnone]
      simp only [hwindow, List.filter_append, List.filter_filter, hdropDated, hdropNone,
        List.append_nil]
      congr 1
      · have hnil : (xs.filter fun x => ((date x).any fun t => last - span ≤ t) &&
            (date x).isNone) = [] := by
          refine List.filter_eq_nil_iff.mpr fun x _ => ?_
          cases date x <;> simp
        rw [hnil, List.append_nil]
        simp only [Bool.and_self]
      · have hnil : (xs.filter fun x => (date x).isNone &&
            ((date x).any fun t => last - span ≤ t)) = [] := by
          refine List.filter_eq_nil_iff.mpr fun x _ => ?_
          cases date x <;> simp
        rw [hnil, List.nil_append]
        simp only [Bool.and_self]

end

end AskLake.Lib

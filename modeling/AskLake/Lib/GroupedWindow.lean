/-
# `AskLake.Lib.GroupedWindow` — a window over the groups of a list

The elements are grouped by a key, and the key has the date.  Then the groups can be
windowed before they are put together, or after:

    xs  →  window xs  →  collect  →  window
    xs       →           collect  →  window

A group is dropped as a whole, so that what is left of the elements of a fresh key is all of
them, in their order (`filter_window`).
-/
import AskLake.Lib.Dict
import AskLake.Lib.Window

namespace AskLake.Lib

variable {κ α β : Type*} {date : κ → Option Int} {span : Int} {key : α → κ} {xs ys zs : List α}

theorem window_congr {date date' : α → Option Int} (h : ∀ x ∈ xs, date x = date' x) :
    window date span xs = window date' span xs := by
  have hlatest : latest date xs = latest date' xs := by
    rw [latest, latest, List.filterMap_congr h]
  rw [window, window, hlatest]
  split
  · rfl
  · congr 1
    · exact List.filter_congr fun x hx => by rw [h x hx]
    · exact List.filter_congr fun x hx => by rw [h x hx]

/-- Two lists with the same elements have one latest date. -/
theorem latest_eq_of_mem {date : α → Option Int} (h : ∀ x, x ∈ xs ↔ x ∈ ys) :
    latest date xs = latest date ys :=
  latest_between (le_refl 0) (fun x hx => ⟨x, (h x).mp hx, rfl⟩)
    fun x hx _ => ⟨x, (h x).mpr hx, rfl⟩

theorem latest_window (date : α → Option Int) (hspan : 0 ≤ span) (xs : List α) :
    latest date (window date span xs) = latest date xs :=
  latest_between hspan (fun x hx => ⟨x, (mem_window.mp hx).1, rfl⟩)
    fun x hx hfresh => ⟨x, mem_window.mpr ⟨hx, hfresh⟩, rfl⟩

theorem window_window (date : α → Option Int) (hspan : 0 ≤ span) (xs : List α) :
    window date span (window date span xs) = window date span xs := by
  have h : window date span (window date span xs ++ []) = window date span xs :=
    window_append_expired hspan fun y hy => nomatch hy
  rwa [List.append_nil] at h

/-- The latest date of three parts is that of the first with one of the others. -/
theorem latest_append {date : α → Option Int} {last : Int}
    (h : latest date (xs ++ ys ++ zs) = some last) :
    latest date (xs ++ ys) = some last ∨ latest date (xs ++ zs) = some last := by
  obtain ⟨⟨x, hx, hlast⟩, hmax⟩ := latest_eq_some_iff.mp h
  have hle : ∀ y ∈ xs ++ ys ++ zs, ∀ t, date y = some t → t ≤ last := hmax
  rcases List.mem_append.mp hx with hmem | hmem
  · refine Or.inl (latest_eq_some_iff.mpr ⟨⟨x, hmem, hlast⟩, fun y hy => ?_⟩)
    exact hle y (List.mem_append_left _ hy)
  · refine Or.inr (latest_eq_some_iff.mpr ⟨⟨x, List.mem_append_right _ hmem, hlast⟩, ?_⟩)
    intro y hy
    rcases List.mem_append.mp hy with hy | hy
    · exact hle y (List.mem_append_left _ (List.mem_append_left _ hy))
    · exact hle y (List.mem_append_right _ hy)

variable [DecidableEq κ]

/-- The window keeps all elements of a fresh key, in their order. -/
theorem filter_window {k : κ} (hfresh : ¬ Expired date span (xs.map key) k) :
    (window (date ∘ key) span xs).filter (fun x => key x = k) =
      xs.filter fun x => key x = k := by
  rw [window]
  cases hlatest : latest (date ∘ key) xs with
  | none => rfl
  | some last =>
      rw [← latest_map] at hlatest
      dsimp only
      rw [List.filter_append, List.filter_filter, List.filter_filter]
      cases hdate : date k with
      | none =>
          have hnil : (xs.filter fun x => decide (key x = k) &&
              ((date ∘ key) x).any fun t => last - span ≤ t) = [] := by
            refine List.filter_eq_nil_iff.mpr fun x _ hx => ?_
            obtain ⟨hkey, hany⟩ := Bool.and_eq_true_iff.mp hx
            rw [Function.comp, of_decide_eq_true hkey, hdate] at hany
            cases hany
          rw [hnil, List.nil_append]
          refine List.filter_congr fun x _ => ?_
          by_cases hkey : key x = k
          · simp [hkey, hdate]
          · simp [hkey]
      | some t =>
          have hle : last - span ≤ t := by
            by_contra hlt
            exact hfresh ⟨t, last, hdate, hlatest, not_le.mp hlt⟩
          have hnil : (xs.filter fun x => decide (key x = k) && ((date ∘ key) x).isNone) = [] := by
            refine List.filter_eq_nil_iff.mpr fun x _ hx => ?_
            obtain ⟨hkey, hnone⟩ := Bool.and_eq_true_iff.mp hx
            rw [Function.comp, of_decide_eq_true hkey, hdate] at hnone
            cases hnone
          rw [hnil, List.append_nil]
          refine List.filter_congr fun x _ => ?_
          by_cases hkey : key x = k
          · simp only [hkey, hdate, hle, Option.any_some, decide_true, Bool.and_self, Function.comp]
          · simp [hkey]

section
variable {first : α → β} {more : α → β → β}

theorem mem_keys_collect {k : κ} :
    k ∈ (collect key first more xs).map Prod.fst ↔ k ∈ xs.map key := by
  constructor
  · intro hk
    obtain ⟨⟨k', b⟩, hmem, rfl⟩ := List.mem_map.mp hk
    have hcombine := mem_collect.mp hmem
    cases hfilter : xs.filter fun x => key x = k' with
    | nil =>
        rw [hfilter] at hcombine
        exact nomatch hcombine
    | cons x rest =>
        have hx : x ∈ xs.filter fun x => key x = k' := by
          rw [hfilter]
          exact List.mem_cons_self
        obtain ⟨hx, hkey⟩ := List.mem_filter.mp hx
        exact List.mem_map.mpr ⟨x, hx, of_decide_eq_true hkey⟩
  · intro hk
    obtain ⟨x, hx, rfl⟩ := List.mem_map.mp hk
    obtain ⟨b, hb⟩ : ∃ b, (key x, b) ∈ collect key first more xs := exists_mem_collect hx
    exact List.mem_map.mpr ⟨_, hb, rfl⟩

/-- The groups are dated as the elements are. -/
theorem latest_keys_collect (xs : List α) :
    latest date ((collect key first more xs).map Prod.fst) = latest date (xs.map key) :=
  latest_eq_of_mem fun _ => mem_keys_collect

/-- The keys of the windowed groups. -/
theorem mem_keys_window_collect {k : κ} :
    k ∈ (window (date ∘ Prod.fst) span (collect key first more xs)).map Prod.fst ↔
      k ∈ xs.map key ∧ ¬ Expired date span (xs.map key) k := by
  have hlatest : latest date ((collect key first more xs).map Prod.fst) =
      latest date (xs.map key) := latest_keys_collect xs
  rw [window_map, mem_window, mem_keys_collect, expired_congr hlatest]

theorem nodup_keys_window_collect (xs : List α) :
    ((window (date ∘ Prod.fst) span (collect key first more xs)).map Prod.fst).Nodup := by
  rw [window_map]
  obtain ⟨l, hsub, hperm⟩ := exists_sublist_perm_window date span
    ((collect key first more xs).map Prod.fst)
  exact hperm.nodup_iff.mp ((nodup_collect xs).sublist hsub)

/-- Elements that the window would drop may go before the groups are put together. -/
theorem window_collect_perm (hspan : 0 ≤ span) (hsub : ∀ k ∈ zs.map key, k ∈ xs.map key)
    (hkept : ∀ k, ¬ Expired date span (xs.map key) k →
      zs.filter (fun x => key x = k) = xs.filter fun x => key x = k) :
    (window (date ∘ Prod.fst) span (collect key first more zs)).Perm
      (window (date ∘ Prod.fst) span (collect key first more xs)) := by
  have hlatest : latest date (zs.map key) = latest date (xs.map key) := by
    refine latest_between hspan (fun k hk => ⟨k, hsub k hk, rfl⟩) fun k hk hfresh => ⟨k, ?_, rfl⟩
    obtain ⟨x, hx, rfl⟩ := List.mem_map.mp hk
    have hmem : x ∈ zs.filter fun z => key z = key x := by
      rw [hkept _ hfresh]
      exact List.mem_filter.mpr ⟨hx, by simp⟩
    exact List.mem_map_of_mem (List.mem_filter.mp hmem).1
  have hnodup : ∀ l : List α,
      (window (date ∘ Prod.fst) span (collect key first more l)).Nodup := fun l =>
    List.Nodup.of_map _ (nodup_keys_window_collect l)
  refine (List.perm_ext_iff_of_nodup (hnodup _) (hnodup _)).mpr ?_
  rintro ⟨k, b⟩
  have hexpired : ∀ l : List α, Expired (date ∘ Prod.fst) span (collect key first more l) (k, b) ↔
      Expired date span (l.map key) k := by
    intro l
    rw [Expired, Expired, ← latest_map, latest_keys_collect]
    rfl
  rw [mem_window, mem_window, hexpired, hexpired, expired_congr hlatest, mem_collect, mem_collect]
  refine and_congr_left fun hfresh => ?_
  rw [hkept k hfresh]

end

end AskLake.Lib

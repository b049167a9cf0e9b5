/-
# `AskLake.Lib.SortedBy` — sorting by a key that may raise

    sorted(xs, key=key, reverse=True)

The sort is stable, and it raises where the key of one element does.  Where the
keys differ, the elements alone determine the sorted list (`Descending.ext`).
-/
import AskLake.Lib.Outcome
import Mathlib.Data.List.Sort

namespace AskLake.Lib

variable {ε κ α : Type} {key : α → Except ε κ} {xs ys : List α}

/-- The element with its key. -/
def keyed (key : α → Except ε κ) (x : α) : Except ε (κ × α) := do
  return (← key x, x)

theorem keyed_eq_ok {x : α} {p : κ × α} : keyed key x = .ok p ↔ key x = .ok p.1 ∧ x = p.2 := by
  rw [keyed, bind_eq_ok]
  constructor
  · rintro ⟨k, hk, h⟩
    obtain rfl := pure_eq_ok.mp h
    exact ⟨hk, rfl⟩
  · rintro ⟨hk, rfl⟩
    exact ⟨_, hk, rfl⟩

theorem map_snd_of_keyed {pairs : List (κ × α)}
    (h : List.Forall₂ (fun x p => key x = .ok p.1 ∧ x = p.2) xs pairs) :
    pairs.map Prod.snd = xs := by
  induction h with
  | nil => rfl
  | cons hfirst _ ih => rw [List.map_cons, ih, ← hfirst.2]

variable [LinearOrder κ]

/-- `sorted(xs, key=key, reverse=True)` -/
def sortedBy (key : α → Except ε κ) (xs : List α) : Except ε (List α) := do
  let pairs ← xs.mapM (keyed key)
  return (pairs.insertionSort fun a b => b.1 ≤ a.1).map Prod.snd

theorem sortedBy_eq_ok : sortedBy key xs = .ok ys ↔ ∃ pairs,
    List.Forall₂ (fun x p => key x = .ok p.1 ∧ x = p.2) xs pairs ∧
      (pairs.insertionSort fun a b => b.1 ≤ a.1).map Prod.snd = ys := by
  rw [sortedBy, bind_eq_ok]
  simp only [mapM_eq_ok, keyed_eq_ok, pure_eq_ok]

/-- The sort returns where every key does. -/
theorem sortedBy_returns : (∃ ys, sortedBy key xs = .ok ys) ↔ ∀ x ∈ xs, ∃ k, key x = .ok k := by
  constructor
  · rintro ⟨ys, h⟩ x hx
    obtain ⟨pairs, hpairs, -⟩ := sortedBy_eq_ok.mp h
    obtain ⟨p, _, hkey, _⟩ := exists_right_of_mem hpairs hx
    exact ⟨p.1, hkey⟩
  · intro h
    obtain ⟨pairs, hpairs⟩ := mapM_returns (f := keyed key) fun x hx => by
      obtain ⟨k, hk⟩ := h x hx
      exact ⟨(k, x), keyed_eq_ok.mpr ⟨hk, rfl⟩⟩
    rw [sortedBy, hpairs]
    exact ⟨_, rfl⟩

theorem perm_of_sortedBy (h : sortedBy key xs = .ok ys) : ys.Perm xs := by
  obtain ⟨pairs, hpairs, rfl⟩ := sortedBy_eq_ok.mp h
  exact ((List.perm_insertionSort _ _).map Prod.snd).trans (.of_eq (map_snd_of_keyed hpairs))

theorem descending_of_sortedBy (h : sortedBy key xs = .ok ys) :
    ys.Pairwise fun a b => ∃ k k', key a = .ok k ∧ key b = .ok k' ∧ k' ≤ k := by
  obtain ⟨pairs, hpairs, rfl⟩ := sortedBy_eq_ok.mp h
  have hkey : ∀ p ∈ pairs.insertionSort fun a b => b.1 ≤ a.1, key p.2 = .ok p.1 := by
    intro p hp
    obtain ⟨x, _, hx, rfl⟩ := exists_left_of_mem hpairs ((List.mem_insertionSort _).mp hp)
    exact hx
  have : IsTrans (κ × α) fun a b => b.1 ≤ a.1 := ⟨fun _ _ _ h h' => h'.trans h⟩
  have : Std.Total fun a b : κ × α => b.1 ≤ a.1 := ⟨fun a b => le_total b.1 a.1⟩
  refine List.pairwise_map.mpr ?_
  refine (List.pairwise_insertionSort (fun a b : κ × α => b.1 ≤ a.1) pairs).imp_of_mem ?_
  intro a b ha hb hle
  exact ⟨a.1, b.1, hkey a ha, hkey b hb, hle⟩

/-- The keys fall strictly. -/
def Descending (key : α → Except ε κ) (xs : List α) : Prop :=
  xs.Pairwise fun a b => ∃ k k', key a = .ok k ∧ key b = .ok k' ∧ k' < k

theorem Descending.nodup (h : Descending key xs) : xs.Nodup := by
  refine List.Pairwise.imp (fun {a b} hab => ?_) h
  rintro rfl
  obtain ⟨k, k', hk, hk', hlt⟩ := hab
  obtain rfl := Except.ok.inj (hk.symm.trans hk')
  exact lt_irrefl _ hlt

/-- With falling keys, the elements determine the list. -/
theorem Descending.ext (hx : Descending key xs) (hy : Descending key ys)
    (hmem : ∀ x, x ∈ xs ↔ x ∈ ys) : xs = ys := by
  have hperm : xs.Perm ys := (List.perm_ext_iff_of_nodup hx.nodup hy.nodup).mpr hmem
  refine hperm.eq_of_pairwise (fun a b _ _ hab hba => ?_) hx hy
  obtain ⟨k, k', hk, hk', hlt⟩ := hab
  obtain ⟨l, l', hl, hl', hlt'⟩ := hba
  obtain rfl := Except.ok.inj (hk.symm.trans hl')
  obtain rfl := Except.ok.inj (hk'.symm.trans hl)
  exact absurd hlt' (lt_asymm hlt)

/-- Different elements with different keys are sorted strictly. -/
theorem strict_of_sortedBy (h : sortedBy key xs = .ok ys) (hnodup : xs.Nodup)
    (hkeys : ∀ a ∈ xs, ∀ b ∈ xs, ∀ k, key a = .ok k → key b = .ok k → a = b) :
    Descending key ys := by
  have hperm := perm_of_sortedBy h
  refine ((descending_of_sortedBy h).and (hperm.nodup_iff.mpr hnodup)).imp_of_mem ?_
  rintro a b ha hb ⟨⟨k, k', hk, hk', hle⟩, hne⟩
  refine ⟨k, k', hk, hk', lt_of_le_of_ne hle ?_⟩
  rintro rfl
  exact hne (hkeys a (hperm.mem_iff.mp ha) b (hperm.mem_iff.mp hb) _ hk hk')

/-- The sort raises what some key raised. -/
theorem exists_of_sortedBy_error {e : ε} (h : sortedBy key xs = .error e) :
    ∃ x ∈ xs, key x = .error e := by
  rw [sortedBy] at h
  cases hpairs : xs.mapM (keyed key) with
  | ok pairs =>
      rw [hpairs] at h
      exact nomatch h
  | error e' =>
      rw [hpairs] at h
      obtain rfl : e' = e := Except.error.inj h
      obtain ⟨x, hx, hkeyed⟩ := exists_of_mapM_error hpairs
      refine ⟨x, hx, ?_⟩
      rw [keyed] at hkeyed
      cases hkey : key x with
      | ok k =>
          rw [hkey] at hkeyed
          exact nomatch hkeyed
      | error e'' =>
          rw [hkey] at hkeyed
          exact congrArg Except.error (Except.error.inj hkeyed)

end AskLake.Lib

/-
# `AskLake.Lib.Outcome` — reading a fallible computation backwards

A transaction is written as an `Except` block: a chain of reads, guards and
writes, any of which may raise.  Every fact about an *accepted* transaction
starts by reading such a block backwards, from `= .ok r` to the guards it
passed.  The lemmas here do one link of the chain each, so that no later proof
splits the block itself.
-/
import Mathlib.Data.List.Basic
import Mathlib.Data.List.Forall2

namespace AskLake.Lib

universe u v

variable {ε : Type u} {α β : Type v}

/-- A link of the chain: the block returned, so its first half did. -/
theorem bind_eq_ok {x : Except ε α} {f : α → Except ε β} {b : β} :
    (x >>= f) = .ok b ↔ ∃ a, x = .ok a ∧ f a = .ok b := by
  cases x with
  | error e =>
      constructor
      · intro h; exact nomatch h
      · rintro ⟨a, h, -⟩; exact nomatch h
  | ok a =>
      constructor
      · intro h; exact ⟨a, rfl, h⟩
      · rintro ⟨a', h, hb⟩
        cases h
        exact hb

theorem bind_of_error {x : Except ε α} {f : α → Except ε β} {e : ε} (h : x = .error e) :
    (x >>= f) = .error e := by
  rw [h]
  rfl

theorem pure_eq_ok {a b : α} : (pure a : Except ε α) = .ok b ↔ a = b := by
  constructor
  · intro h; cases h; rfl
  · rintro rfl; rfl

/-- Raise `e` when `bad` holds, and go on otherwise. -/
def rejectIf (bad : Prop) [Decidable bad] (e : ε) : Except ε Unit :=
  if bad then .error e else .ok ()

theorem rejectIf_eq_ok {bad : Prop} [Decidable bad] {e : ε} {u : Unit} :
    rejectIf bad e = .ok u ↔ ¬ bad := by
  unfold rejectIf
  split
  · rename_i h
    exact ⟨fun hc => (nomatch hc), fun hn => absurd h hn⟩
  · rename_i h
    exact ⟨fun _ => h, fun _ => rfl⟩

theorem mapError_eq_ok {ε' : Type u} {x : Except ε α} {f : ε → ε'} {a : α} :
    x.mapError f = .ok a ↔ x = .ok a := by
  cases x with
  | error e => exact ⟨fun h => (nomatch h), fun h => (nomatch h)⟩
  | ok b =>
      constructor
      · intro h; cases h; rfl
      · intro h; cases h; rfl

/-- The value of a lookup that must succeed. -/
def orReject (x : Option α) (e : ε) : Except ε α :=
  match x with
  | some a => .ok a
  | none => .error e

theorem orReject_eq_ok {x : Option α} {e : ε} {a : α} :
    orReject x e = .ok a ↔ x = some a := by
  cases x with
  | none => exact ⟨fun h => (nomatch h), fun h => (nomatch h)⟩
  | some b =>
      constructor
      · intro h; cases h; rfl
      · intro h; cases h; rfl

/-- Whether a computation returned. -/
def accepted : Except ε α → Bool
  | .ok _ => true
  | .error _ => false

theorem accepted_iff {x : Except ε α} : accepted x = true ↔ ∃ a, x = .ok a := by
  cases x with
  | error e => exact ⟨fun h => (nomatch h), fun ⟨_, h⟩ => (nomatch h)⟩
  | ok a => exact ⟨fun _ => ⟨a, rfl⟩, fun _ => rfl⟩

/-- What a computation raised, if it did. -/
def raised : Except ε α → Option ε
  | .ok _ => none
  | .error e => some e

theorem raised_eq_some {x : Except ε α} {e : ε} : raised x = some e ↔ x = .error e := by
  cases x with
  | error e' => exact ⟨fun h => by cases h; rfl, fun h => by cases h; rfl⟩
  | ok a => exact ⟨fun h => (nomatch h), fun h => (nomatch h)⟩

/-- A loop over a list returns where each of its steps does, with what they return. -/
theorem mapM_eq_ok {f : α → Except ε β} {xs : List α} {ys : List β} :
    xs.mapM f = .ok ys ↔ List.Forall₂ (fun x y => f x = .ok y) xs ys := by
  induction xs generalizing ys with
  | nil =>
      rw [List.mapM_nil, pure_eq_ok, List.forall₂_nil_left_iff]
      exact eq_comm
  | cons x xs ih =>
      rw [List.mapM_cons, bind_eq_ok]
      constructor
      · rintro ⟨y, hy, h⟩
        obtain ⟨rest, hrest, h⟩ := bind_eq_ok.mp h
        cases pure_eq_ok.mp h
        exact .cons hy (ih.mp hrest)
      · rintro (_ | ⟨hy, hrest⟩)
        exact ⟨_, hy, bind_eq_ok.mpr ⟨_, ih.mpr hrest, rfl⟩⟩

theorem mapM_returns {f : α → Except ε β} {xs : List α} (h : ∀ x ∈ xs, ∃ y, f x = .ok y) :
    ∃ ys, xs.mapM f = .ok ys := by
  induction xs with
  | nil => exact ⟨[], rfl⟩
  | cons x xs ih =>
      obtain ⟨y, hy⟩ := h x List.mem_cons_self
      obtain ⟨ys, hys⟩ := ih fun x hx => h x (List.mem_cons_of_mem _ hx)
      refine ⟨y :: ys, ?_⟩
      rw [List.mapM_cons]
      exact bind_eq_ok.mpr ⟨y, hy, bind_eq_ok.mpr ⟨ys, hys, rfl⟩⟩

/-- A loop raises what one of its steps did. -/
theorem exists_of_mapM_error {f : α → Except ε β} {xs : List α} {e : ε}
    (h : xs.mapM f = .error e) : ∃ x ∈ xs, f x = .error e := by
  induction xs with
  | nil => exact nomatch h
  | cons x xs ih =>
      rw [List.mapM_cons] at h
      cases hx : f x with
      | error e' =>
          rw [bind_of_error hx] at h
          obtain rfl : e' = e := Except.error.inj h
          exact ⟨x, List.mem_cons_self, hx⟩
      | ok y =>
          rw [hx] at h
          cases hrest : xs.mapM f with
          | error e' =>
              rw [hrest] at h
              obtain rfl : e' = e := Except.error.inj h
              obtain ⟨x', hx', hf⟩ := ih hrest
              exact ⟨x', List.mem_cons_of_mem _ hx', hf⟩
          | ok ys =>
              rw [hrest] at h
              exact nomatch h

/-- Two lists that agree item by item: a right-hand item has its left-hand one. -/
theorem exists_left_of_mem {γ : Type*} {R : α → γ → Prop} {xs : List α} {ys : List γ}
    (h : List.Forall₂ R xs ys) {y : γ} (hy : y ∈ ys) : ∃ x ∈ xs, R x y := by
  induction h with
  | nil => exact nomatch hy
  | cons hfirst _ ih =>
      rcases List.mem_cons.mp hy with rfl | hrest
      · exact ⟨_, List.mem_cons_self, hfirst⟩
      · obtain ⟨x, hx, hr⟩ := ih hrest
        exact ⟨x, List.mem_cons_of_mem _ hx, hr⟩

theorem exists_right_of_mem {γ : Type*} {R : α → γ → Prop} {xs : List α} {ys : List γ}
    (h : List.Forall₂ R xs ys) {x : α} (hx : x ∈ xs) : ∃ y ∈ ys, R x y := by
  induction h with
  | nil => exact nomatch hx
  | cons hfirst _ ih =>
      rcases List.mem_cons.mp hx with rfl | hrest
      · exact ⟨_, List.mem_cons_self, hfirst⟩
      · obtain ⟨y, hy, hr⟩ := ih hrest
        exact ⟨y, List.mem_cons_of_mem _ hy, hr⟩

end AskLake.Lib

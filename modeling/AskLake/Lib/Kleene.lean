/-
# `AskLake.Lib.Kleene` — conditions that may be unknown

The truth values of SQL: `some true`, `some false`, and `none` for `NULL`.  A filter keeps the
items on which its condition is true, so that the items with `c` and the items with `~c` are all
items only where `c` is never `NULL`:

    (items.filter (holds c)) ++ (items.filter (holds (not c)))

is a permutation of `items` exactly when `c` is certain on them (`split_perm_iff`).
-/
import Mathlib.Data.List.Perm.Basic

namespace AskLake.Lib

namespace Kleene

def not : Option Bool → Option Bool := Option.map (!·)

/-- `NULL OR TRUE` is `TRUE`. -/
def or : Option Bool → Option Bool → Option Bool
  | some true, _ => some true
  | some false, b => b
  | none, some true => some true
  | none, _ => none

/-- `NULL AND FALSE` is `FALSE`. -/
def and : Option Bool → Option Bool → Option Bool
  | some false, _ => some false
  | some true, b => b
  | none, some false => some false
  | none, _ => none

/-- What a filter asks of its condition. -/
def holds (c : Option Bool) : Bool := c == some true

@[simp] theorem not_none : not none = none := rfl

@[simp] theorem not_some (b : Bool) : not (some b) = some !b := rfl

@[simp] theorem or_some (a b : Bool) : or (some a) (some b) = some (a || b) := by
  cases a <;> rfl

@[simp] theorem and_some (a b : Bool) : and (some a) (some b) = some (a && b) := by
  cases a <;> rfl

@[simp] theorem true_or (b : Option Bool) : or (some true) b = some true := rfl

@[simp] theorem false_or (b : Option Bool) : or (some false) b = b := rfl

@[simp] theorem false_and (b : Option Bool) : and (some false) b = some false := rfl

@[simp] theorem true_and (b : Option Bool) : and (some true) b = b := rfl

@[simp] theorem holds_some (b : Bool) : holds (some b) = b := by
  cases b <;> rfl

/-! ## Certain conditions -/

/-- A condition that is not `NULL`. -/
def Certain (c : Option Bool) : Prop := ∃ b, c = some b

theorem Certain.not {c : Option Bool} (h : Certain c) : Certain (Kleene.not c) := by
  obtain ⟨b, rfl⟩ := h
  exact ⟨!b, rfl⟩

theorem Certain.or {a b : Option Bool} (ha : Certain a) (hb : Certain b) :
    Certain (Kleene.or a b) := by
  obtain ⟨x, rfl⟩ := ha
  obtain ⟨y, rfl⟩ := hb
  exact ⟨x || y, or_some x y⟩

/-- One true side is enough: the other one may be `NULL`. -/
theorem certain_or_of_true {a : Option Bool} (b : Option Bool) (h : a = some true) :
    Certain (Kleene.or a b) := by
  subst h
  exact ⟨true, rfl⟩

theorem certain_and_of_false {a : Option Bool} (b : Option Bool) (h : a = some false) :
    Certain (Kleene.and a b) := by
  subst h
  exact ⟨false, rfl⟩

theorem Certain.and {a b : Option Bool} (ha : Certain a) (hb : Certain b) :
    Certain (Kleene.and a b) := by
  obtain ⟨x, rfl⟩ := ha
  obtain ⟨y, rfl⟩ := hb
  exact ⟨x && y, and_some x y⟩

theorem Certain.holds_not {c : Option Bool} (h : Certain c) : holds (Kleene.not c) = !holds c := by
  obtain ⟨b, rfl⟩ := h
  rw [not_some, holds_some, holds_some]

end Kleene

/-! ## Splitting a list -/

section Split

variable {α : Type*} {c : α → Option Bool} {items : List α}

theorem split_length_le (c : α → Option Bool) (items : List α) :
    (items.filter fun a => Kleene.holds (c a)).length +
      (items.filter fun a => Kleene.holds (Kleene.not (c a))).length ≤ items.length := by
  induction items with
  | nil => exact Nat.le_refl 0
  | cons a items ih =>
      rcases ha : c a with _ | _ | _ <;> simp [ha, Kleene.holds] at ih ⊢ <;> omega

/-- A condition that is certain on the items splits them. -/
theorem filter_not_of_certain (h : ∀ a ∈ items, Kleene.Certain (c a)) :
    (items.filter fun a => Kleene.holds (Kleene.not (c a))) =
      items.filter fun a => !Kleene.holds (c a) :=
  List.filter_congr fun a ha => (h a ha).holds_not

theorem split_perm_iff :
    ((items.filter fun a => Kleene.holds (c a)) ++
      (items.filter fun a => Kleene.holds (Kleene.not (c a)))).Perm items ↔
        ∀ a ∈ items, Kleene.Certain (c a) := by
  constructor
  · intro hperm
    have hlen := hperm.length_eq
    rw [List.length_append] at hlen
    clear hperm
    induction items with
    | nil => exact fun a ha => nomatch ha
    | cons a items ih =>
        have hle := split_length_le c items
        intro b hb
        rcases ha : c a with _ | _ | _ <;>
          simp [ha, Kleene.holds] at hlen hle ih
        · omega
        · rcases List.mem_cons.mp hb with rfl | hb
          · exact ⟨false, ha⟩
          · exact ih (by omega) b hb
        · rcases List.mem_cons.mp hb with rfl | hb
          · exact ⟨true, ha⟩
          · exact ih (by omega) b hb
  · intro h
    rw [filter_not_of_certain h]
    exact List.filter_append_perm _ _

end Split

end AskLake.Lib

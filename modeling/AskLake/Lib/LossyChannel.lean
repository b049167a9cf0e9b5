/-
# `AskLake.Lib.LossyChannel` — a channel that says where it has lost something

A sender's items reach a reader in their order, but some do not reach it.  Where they do not,
the reader is given a marker in their place:

    sent     a b | c d e | f
    told     a b    gap    f

`Told sent told` is that: `told` is `sent` with marks for some non-empty stretches of it.
Then what is delivered is a sublist of what was sent (`delivered_sublist`), and two items
that are delivered without a gap between them were sent one right after the other
(`Told.adjacent`).
-/
import Mathlib.Data.List.Basic

namespace AskLake.Lib

variable {α : Type*}

/-- What a reader is given. -/
inductive Notice (α : Type*)
  | item (a : α)
  | gap
  deriving DecidableEq

/-- The items that a reader is given. -/
def delivered (told : List (Notice α)) : List α :=
  told.filterMap fun
    | .item a => some a
    | .gap => none

@[simp] theorem delivered_nil : delivered ([] : List (Notice α)) = [] := rfl

@[simp] theorem delivered_item (a : α) (told : List (Notice α)) :
    delivered (.item a :: told) = a :: delivered told := rfl

@[simp] theorem delivered_gap (told : List (Notice α)) :
    delivered (.gap :: told) = delivered told := rfl

/-- What was sent, with a gap for each stretch that was lost. -/
inductive Told : List α → List (Notice α) → Prop
  | nil : Told [] []
  | item (a : α) {sent : List α} {told : List (Notice α)} :
      Told sent told → Told (a :: sent) (.item a :: told)
  | gap {lost sent : List α} {told : List (Notice α)} :
      lost ≠ [] → Told sent told → Told (lost ++ sent) (.gap :: told)

namespace Told

variable {sent sent' : List α} {told told' : List (Notice α)}

theorem append (h : Told sent told) (h' : Told sent' told') :
    Told (sent ++ sent') (told ++ told') := by
  induction h with
  | nil => exact h'
  | item a _ ih => exact .item a ih
  | gap hlost _ ih =>
      rw [List.append_assoc]
      exact .gap hlost ih

/-- What is told in two parts was sent in two parts. -/
theorem split (h : Told sent (told ++ told')) :
    ∃ first second, sent = first ++ second ∧ Told first told ∧ Told second told' := by
  induction told generalizing sent with
  | nil => exact ⟨[], sent, rfl, .nil, h⟩
  | cons notice told ih =>
      generalize hall : notice :: told ++ told' = all at h
      cases h with
      | nil => exact nomatch hall
      | item a hrest =>
          obtain ⟨rfl, rfl⟩ := List.cons.inj hall
          obtain ⟨first, second, rfl, hfirst, hsecond⟩ := ih hrest
          exact ⟨a :: first, second, rfl, .item a hfirst, hsecond⟩
      | gap hlost hrest =>
          obtain ⟨rfl, rfl⟩ := List.cons.inj hall
          obtain ⟨first, second, rfl, hfirst, hsecond⟩ := ih hrest
          exact ⟨_ ++ first, second, (List.append_assoc ..).symm, .gap hlost hfirst, hsecond⟩

/-- The items that are delivered were sent, in this order. -/
theorem delivered_sublist (h : Told sent told) : (delivered told).Sublist sent := by
  induction h with
  | nil => exact List.Sublist.refl _
  | item a _ ih => exact ih.cons_cons a
  | gap _ _ ih => exact ih.trans (List.sublist_append_right _ _)

/-- Before the first gap nothing is lost. -/
theorem head {a : α} (h : Told sent (.item a :: told)) : ∃ rest, sent = a :: rest := by
  cases h with
  | item a _ => exact ⟨_, rfl⟩

/-- Without a gap between two items nothing was sent between them. -/
theorem adjacent {a b : α} (h : Told sent (told ++ .item a :: .item b :: told')) :
    ∃ first second, sent = first ++ a :: b :: second := by
  obtain ⟨first, second, rfl, -, hsecond⟩ := h.split
  cases hsecond with
  | item a hrest =>
      obtain ⟨rest, rfl⟩ := hrest.head
      exact ⟨first, rest, rfl⟩

/-- Items that are told without a gap before them are the first that were sent. -/
theorem items {read : List α} (h : Told sent (read.map .item ++ told)) :
    ∃ more, sent = read ++ more := by
  induction read generalizing sent with
  | nil => exact ⟨sent, rfl⟩
  | cons a read ih =>
      cases h with
      | item _ hrest =>
          obtain ⟨more, rfl⟩ := ih hrest
          exact ⟨more, rfl⟩

/-- Everything that is still to come, and one more, can be told as one gap. -/
theorem drain (h : Told sent (told ++ told')) (a : α) : Told (sent ++ [a]) (told ++ [.gap]) := by
  obtain ⟨first, second, rfl, hfirst, -⟩ := h.split
  have hlost : Told (second ++ [a] ++ []) [Notice.gap] :=
    .gap (List.append_ne_nil_of_right_ne_nil _ (List.cons_ne_nil _ _)) .nil
  rw [List.append_nil] at hlost
  rw [List.append_assoc]
  exact hfirst.append hlost

end Told

end AskLake.Lib

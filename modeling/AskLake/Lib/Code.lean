/-
# `AskLake.Lib.Code` — texts that are read off unambiguously

A printer is injective for a reason that survives concatenation: each piece it
prints can be read off the front of the text, whatever follows.  `Reads stop enc`
says so of the pieces `enc a`, for the remainders that `stop` admits.

    reads_span     words over one alphabet, ended by a letter outside it
    reads_list     a sequence of words, ended by a letter no word starts with
-/
import Mathlib.Data.List.Basic

namespace AskLake.Lib

variable {α β γ : Type*}

/-- Two texts that start with a word of the code and go on admissibly are equal
only when the words and the remainders are. -/
def Reads (stop : List γ → Prop) (enc : α → List γ) : Prop :=
  ∀ ⦃a b : α⦄ ⦃r s : List γ⦄, stop r → stop s → enc a ++ r = enc b ++ s → a = b ∧ r = s

/-- Any remainder will do. -/
def anything : List γ → Prop := fun _ => True

/-- The remainder does not go on with a letter of the alphabet `p`. -/
def stopsAt (p : γ → Bool) : List γ → Prop
  | [] => True
  | c :: _ => p c = false

namespace Reads

variable {stop stop' : List γ → Prop} {enc : α → List γ}

theorem injective (h : Reads stop enc) (hnil : stop []) : Function.Injective enc := by
  intro a b hab
  exact (h hnil hnil (by rw [hab])).1

end Reads

theorem takeWhile_append_stop {p : γ → Bool} {w r : List γ} (hw : ∀ c ∈ w, p c = true)
    (hr : stopsAt p r) : (w ++ r).takeWhile p = w := by
  rw [List.takeWhile_append_of_pos hw]
  cases r with
  | nil => simp
  | cons c r =>
      have hc : p c = false := hr
      rw [List.takeWhile_cons_of_neg (by simp [hc])]
      simp

/-- Words over one alphabet end where the alphabet does. -/
theorem reads_span {p : γ → Bool} {enc : α → List γ} (hp : ∀ a, ∀ c ∈ enc a, p c = true)
    (hinj : Function.Injective enc) : Reads (stopsAt p) enc := by
  intro a b r s hr hs he
  have hw : enc a = enc b := by
    rw [← takeWhile_append_stop (hp a) hr, he, takeWhile_append_stop (hp b) hs]
  exact ⟨hinj hw, List.append_cancel_left (hw ▸ he)⟩

/-- A sequence of words, each read off whatever follows, ends at a letter that
no word starts with. -/
theorem reads_list {enc : α → List γ} {q : γ} (h : Reads anything enc)
    (hq : ∀ a, ∃ c w, enc a = c :: w ∧ c ≠ q) :
    ∀ {as bs : List α} {r s : List γ},
      as.flatMap enc ++ q :: r = bs.flatMap enc ++ q :: s → as = bs ∧ r = s
  | [], [], r, s, he => by simpa using he
  | [], b :: bs, r, s, he => by
      obtain ⟨c, w, hc, hne⟩ := hq b
      simp only [List.flatMap_nil, List.nil_append, List.flatMap_cons, hc, List.cons_append] at he
      exact absurd (List.cons_eq_cons.mp he).1.symm hne
  | a :: as, [], r, s, he => by
      obtain ⟨c, w, hc, hne⟩ := hq a
      simp only [List.flatMap_nil, List.nil_append, List.flatMap_cons, hc, List.cons_append] at he
      exact absurd (List.cons_eq_cons.mp he).1 hne
  | a :: as, b :: bs, r, s, he => by
      simp only [List.flatMap_cons, List.append_assoc] at he
      obtain ⟨rfl, hrest⟩ := h trivial trivial he
      obtain ⟨rfl, hrs⟩ := reads_list h hq hrest
      exact ⟨rfl, hrs⟩

end AskLake.Lib

/-
# `AskLake.Lib.Fields` — texts cut at a separator

A text that is put together of fields with a separator between them,

    w ++ q :: rest

is read back if the field before, or the one after, has no separator in it.  In general two cuts
of one text are the same, or one of them comes first (`cut_cases`), and then what is between the
two belongs to a field of each.
-/
import Mathlib.Data.List.Basic

namespace AskLake.Lib

variable {α β : Type*} {q : α} {a b c d w z : List α}

/-- Two cuts of one text. -/
theorem cut_cases (h : a ++ q :: b = c ++ q :: d) :
    (a = c ∧ b = d) ∨ (∃ v, a = c ++ q :: v ∧ d = v ++ q :: b) ∨
      ∃ v, c = a ++ q :: v ∧ b = v ++ q :: d := by
  rcases List.append_eq_append_iff.mp h with ⟨v, hc, hb⟩ | ⟨v, ha, hd⟩
  · cases v with
    | nil => exact Or.inl ⟨by simpa using hc.symm, by simpa using hb⟩
    | cons x v =>
        obtain ⟨hx, hrest⟩ := List.cons_eq_cons.mp hb
        subst hx
        exact Or.inr (Or.inr ⟨v, hc, hrest⟩)
  · cases v with
    | nil => exact Or.inl ⟨by simpa using ha, by simpa using hd.symm⟩
    | cons x v =>
        obtain ⟨hx, hrest⟩ := List.cons_eq_cons.mp hd
        subst hx
        exact Or.inr (Or.inl ⟨v, ha, hrest⟩)

/-- The last field is read off. -/
theorem last_field (hw : q ∉ w) (hz : q ∉ z) (h : a ++ q :: w = b ++ q :: z) :
    a = b ∧ w = z := by
  rcases cut_cases h with h | ⟨v, -, rfl⟩ | ⟨v, -, rfl⟩
  · exact h
  · exact absurd (List.mem_append_right _ List.mem_cons_self) hz
  · exact absurd (List.mem_append_right _ List.mem_cons_self) hw

/-- The lines after the first, each behind a separator. -/
def following (q : α) (line : β → List α) (lines : List β) : List α :=
  lines.flatMap fun l => q :: line l

theorem following_append (line : β → List α) (lines more : List β) :
    following q line (lines ++ more) = following q line lines ++ following q line more :=
  List.flatMap_append

/-- The fields of a text and of the lines behind it. -/
theorem splitOn_following [BEq α] [LawfulBEq α] (line : β → List α) (lines : List β) :
    ∀ x : List α, (x ++ following q line lines).splitOn q =
      x.splitOn q ++ lines.flatMap fun l => (line l).splitOn q := by
  induction lines with
  | nil => intro x; simp [following]
  | cons l lines ih =>
      intro x
      have hcons : following q line (l :: lines) = q :: (line l ++ following q line lines) := by
        rw [following, List.flatMap_cons]
        rfl
      rw [hcons, List.splitOn_append_cons_self, ih, List.flatMap_cons]

/-- Words of one positive length, one after the other, are read back. -/
theorem flatMap_injective {enc : β → List α} {n : Nat} (hlen : ∀ l, (enc l).length = n + 1)
    (hinj : Function.Injective enc) : Function.Injective fun lines : List β => lines.flatMap enc := by
  intro lines
  induction lines with
  | nil =>
      intro more h
      cases more with
      | nil => rfl
      | cons l more =>
          have hzero := congrArg List.length h
          simp only [List.flatMap_nil, List.flatMap_cons, List.length_nil, List.length_append,
            hlen] at hzero
          omega
  | cons l lines ih =>
      intro more h
      cases more with
      | nil =>
          have hzero := congrArg List.length h
          simp only [List.flatMap_nil, List.flatMap_cons, List.length_nil, List.length_append,
            hlen] at hzero
          omega
      | cons l' more =>
          obtain ⟨hfirst, hrest⟩ := List.append_inj (show enc l ++ lines.flatMap enc =
            enc l' ++ more.flatMap enc from h) (by rw [hlen, hlen])
          rw [hinj hfirst, ih hrest]

end AskLake.Lib

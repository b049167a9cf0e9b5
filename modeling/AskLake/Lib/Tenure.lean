/-
# `AskLake.Lib.Tenure` — who holds a thing, and in which generation

A lease or a lock that can expire is told by its holder and a generation:

    a ≤ b     b is a, or a later generation

A writer that only ever goes up in this order (a renewal stays, a takeover is a later
generation) never gives one generation to two holders.  `along_history` is that for a
history of tenures, one after the other.
-/
import Mathlib.Data.List.Chain
import AskLake.Lib.Run

namespace AskLake.Lib

/-- A holder, and the generation it holds in. -/
structure Tenure (ω : Type*) where
  holder : ω
  generation : Nat
  deriving DecidableEq

namespace Tenure

variable {ω : Type*}

/-- The same tenure, or a later generation. -/
def Before (a b : Tenure ω) : Prop := a = b ∨ a.generation < b.generation

variable {a b c : Tenure ω}

theorem Before.refl (a : Tenure ω) : a.Before a := Or.inl rfl

theorem Before.trans (h : a.Before b) (h' : b.Before c) : a.Before c := by
  rcases h with rfl | h
  · exact h'
  · rcases h' with rfl | h'
    · exact Or.inr h
    · exact Or.inr (Nat.lt_trans h h')

instance : IsTrans (Tenure ω) Before := ⟨fun _ _ _ h h' => h.trans h'⟩

/-- One generation has one holder. -/
theorem Before.holder_eq (h : a.Before b) (hgeneration : a.generation = b.generation) :
    a.holder = b.holder := by
  rcases h with rfl | h
  · rfl
  · exact absurd hgeneration (Nat.ne_of_lt h)

/-- In a history of tenures, one generation has one holder. -/
theorem along_history {history : List (Tenure ω)} (h : history.IsChain Before) (ha : a ∈ history)
    (hb : b ∈ history) (hgeneration : a.generation = b.generation) : a.holder = b.holder := by
  have hpairwise : history.Pairwise fun a b => a.generation = b.generation → a.holder = b.holder :=
    (List.isChain_iff_pairwise.mp h).imp fun hbefore => hbefore.holder_eq
  have : Std.Symm fun a b : Tenure ω => a.generation = b.generation → a.holder = b.holder :=
    ⟨fun _ _ himp heq => (himp heq.symm).symm⟩
  exact hpairwise.forall_of_forall (fun _ _ _ => rfl) ha hb hgeneration

end Tenure

end AskLake.Lib

/-
# `AskLake.Lib.Run` — runs of a deterministic machine

A machine that a list of calls drives: `step` is total, and a call that cannot
be served leaves the state alone.  Three questions are asked of a run:

    play step s as        the state after the calls `as`
    Always Q step s as    `Q` holds at every state the run visits
    Along P step s as     `P` holds of every call, at the state it meets

`Always.of_along` is the invariant rule with a side condition on the calls:
what each admitted call preserves holds throughout every run of admitted calls.
-/
import Mathlib.Data.List.Basic

namespace AskLake.Lib

variable {σ α : Type*}

/-- The state after a list of calls. -/
def play (step : σ → α → σ) (s : σ) (calls : List α) : σ := calls.foldl step s

section
variable {step : σ → α → σ}

@[simp] theorem play_nil (s : σ) : play step s [] = s := rfl

@[simp] theorem play_cons (s : σ) (a : α) (calls : List α) :
    play step s (a :: calls) = play step (step s a) calls := rfl

theorem play_append (s : σ) (calls more : List α) :
    play step s (calls ++ more) = play step (play step s calls) more :=
  List.foldl_append

end

/-- `Q` holds at every state of the run, the first one included. -/
def Always (Q : σ → Prop) (step : σ → α → σ) : σ → List α → Prop
  | s, [] => Q s
  | s, a :: calls => Q s ∧ Always Q step (step s a) calls

/-- Every call meets a state at which it is admitted. -/
def Along (P : σ → α → Prop) (step : σ → α → σ) : σ → List α → Prop
  | _, [] => True
  | s, a :: calls => P s a ∧ Along P step (step s a) calls

section
variable {step : σ → α → σ} {P : σ → α → Prop} {Q : σ → Prop}

theorem Always.head : ∀ {s : σ} {calls : List α}, Always Q step s calls → Q s
  | _, [], h => h
  | _, _ :: _, h => h.1

theorem Always.last : ∀ {s : σ} {calls : List α}, Always Q step s calls → Q (play step s calls)
  | _, [], h => h
  | s, a :: calls, h => @Always.last (step s a) calls h.2

theorem Always.imp {R : σ → Prop} (himp : ∀ s, Q s → R s) :
    ∀ {s : σ} {calls : List α}, Always Q step s calls → Always R step s calls
  | _, [], h => himp _ h
  | _, _ :: _, h => ⟨himp _ h.1, Always.imp himp h.2⟩

theorem Always.and {R : σ → Prop} :
    ∀ {s : σ} {calls : List α}, Always Q step s calls → Always R step s calls →
      Always (fun s => Q s ∧ R s) step s calls
  | _, [], h, hR => ⟨h, hR⟩
  | _, _ :: _, h, hR => ⟨⟨h.1, hR.1⟩, h.2.and hR.2⟩

theorem Along.imp {L : σ → α → Prop} (himp : ∀ s a, P s a → L s a) :
    ∀ {s : σ} {calls : List α}, Along P step s calls → Along L step s calls
  | _, [], _ => trivial
  | _, _ :: _, h => ⟨himp _ _ h.1, Along.imp himp h.2⟩

theorem along_append : ∀ {s : σ} {calls more : List α}, Along P step s (calls ++ more) ↔
    Along P step s calls ∧ Along P step (play step s calls) more
  | _, [], _ => ⟨fun h => ⟨trivial, h⟩, fun h => h.2⟩
  | _, _ :: _, _ =>
      ⟨fun h => ⟨⟨h.1, (along_append.mp h.2).1⟩, (along_append.mp h.2).2⟩,
        fun h => ⟨h.1.1, along_append.mpr ⟨h.1.2, h.2⟩⟩⟩

/-- A condition on the calls alone. -/
theorem along_of_forall {R : α → Prop} : ∀ {s : σ} {calls : List α}, (∀ a ∈ calls, R a) →
    Along (fun _ a => R a) step s calls
  | _, [], _ => trivial
  | _, a :: _, h =>
      ⟨h a List.mem_cons_self, along_of_forall fun b hb => h b (List.mem_cons_of_mem a hb)⟩

/-- The invariant rule, for runs of admitted calls. -/
theorem Always.of_along (hstep : ∀ s a, Q s → P s a → Q (step s a)) :
    ∀ {s : σ} {calls : List α}, Q s → Along P step s calls → Always Q step s calls
  | _, [], hs, _ => hs
  | s, a :: _, hs, h => ⟨hs, Always.of_along hstep (hstep s a hs h.1) h.2⟩

/-- What holds of every admitted call where `Q` holds, if the calls keep `Q`. -/
theorem Along.of_keeps {L : σ → α → Prop} (hcall : ∀ s a, Q s → P s a → L s a)
    (hkeep : ∀ s a, Q s → P s a → Q (step s a)) :
    ∀ {s : σ} {calls : List α}, Q s → Along P step s calls → Along L step s calls
  | _, [], _, _ => trivial
  | s, a :: _, hs, h =>
      ⟨hcall s a hs h.1, Along.of_keeps hcall hkeep (hkeep s a hs h.1) h.2⟩

/-- Where an inadmissible call always breaks `Q`, runs that keep `Q` are exactly
the runs of admitted calls. -/
theorem always_iff_along (hstep : ∀ s a, Q s → (Q (step s a) ↔ P s a)) :
    ∀ {s : σ} {calls : List α}, Q s → (Always Q step s calls ↔ Along P step s calls)
  | _, [], hs => ⟨fun _ => trivial, fun _ => hs⟩
  | s, a :: _, hs => by
      constructor
      · rintro ⟨-, h⟩
        have hP : P s a := (hstep s a hs).mp h.head
        exact ⟨hP, (always_iff_along hstep h.head).mp h⟩
      · rintro ⟨hP, h⟩
        have hQ : Q (step s a) := (hstep s a hs).mpr hP
        exact ⟨hs, (always_iff_along hstep hQ).mpr h⟩

/-- The same for the runs that keep to `L`, with an invariant of such runs that `Q`
does not mention. -/
theorem always_iff_along_of {I : σ → Prop} {L : σ → α → Prop}
    (hstep : ∀ s a, I s → Q s → L s a → (Q (step s a) ↔ P s a))
    (hkeep : ∀ s a, I s → Q s → L s a → P s a → I (step s a)) :
    ∀ {s : σ} {calls : List α}, I s → Q s → Along L step s calls →
      (Always Q step s calls ↔ Along P step s calls)
  | _, [], _, hs, _ => ⟨fun _ => trivial, fun _ => hs⟩
  | s, a :: _, hI, hs, hL => by
      constructor
      · rintro ⟨-, h⟩
        have hP : P s a := (hstep s a hI hs hL.1).mp h.head
        exact ⟨hP, (always_iff_along_of hstep hkeep (hkeep s a hI hs hL.1 hP) h.head hL.2).mp h⟩
      · rintro ⟨hP, h⟩
        have hQ : Q (step s a) := (hstep s a hI hs hL.1).mpr hP
        exact ⟨hs, (always_iff_along_of hstep hkeep (hkeep s a hI hs hL.1 hP) hQ hL.2).mpr h⟩

/-- Two conditions on the calls that agree where `Q` holds, one of which keeps
`Q`, admit the same runs. -/
theorem along_iff_along {L : σ → α → Prop} (hstep : ∀ s a, Q s → (L s a ↔ P s a))
    (hkeep : ∀ s a, Q s → L s a → Q (step s a)) :
    ∀ {s : σ} {calls : List α}, Q s → (Along L step s calls ↔ Along P step s calls)
  | _, [], _ => Iff.rfl
  | s, a :: _, hs => by
      constructor
      · rintro ⟨hL, h⟩
        exact ⟨(hstep s a hs).mp hL, (along_iff_along hstep hkeep (hkeep s a hs hL)).mp h⟩
      · rintro ⟨hP, h⟩
        have hL : L s a := (hstep s a hs).mpr hP
        exact ⟨hL, (along_iff_along hstep hkeep (hkeep s a hs hL)).mpr h⟩

/-- Two conditions that agree on the admitted calls hold of the same admitted runs. -/
theorem along_iff_of_admitted {A L : σ → α → Prop}
    (hstep : ∀ s a, Q s → A s a → (L s a ↔ P s a)) (hkeep : ∀ s a, Q s → A s a → Q (step s a)) :
    ∀ {s : σ} {calls : List α}, Q s → Along A step s calls →
      (Along L step s calls ↔ Along P step s calls)
  | _, [], _, _ => Iff.rfl
  | s, a :: _, hs, h => and_congr (hstep s a hs h.1)
      (along_iff_of_admitted hstep hkeep (hkeep s a hs h.1) h.2)

theorem Along.and {L : σ → α → Prop} : ∀ {s : σ} {calls : List α}, Along P step s calls →
    Along L step s calls → Along (fun s a => P s a ∧ L s a) step s calls
  | _, [], _, _ => trivial
  | _, _ :: _, h, hL => ⟨⟨h.1, hL.1⟩, h.2.and hL.2⟩

/-- A relation between any call and a later one, seen by a machine that keeps its calls. -/
theorem along_of_pairwise {R : α → α → Prop} {past : σ → List α}
    (hpast : ∀ s a, past (step s a) = past s ++ [a]) :
    ∀ {s : σ} {calls : List α}, (past s ++ calls).Pairwise R →
      Along (fun s a => ∀ earlier ∈ past s, R earlier a) step s calls
  | _, [], _ => trivial
  | s, a :: calls, h =>
      ⟨fun earlier he => (List.pairwise_append.mp h).2.2 earlier he a List.mem_cons_self,
        along_of_pairwise hpast (by rwa [hpast, List.append_assoc, List.singleton_append])⟩

instance decidableAlong [∀ s a, Decidable (P s a)] :
    ∀ (s : σ) (calls : List α), Decidable (Along P step s calls)
  | _, [] => .isTrue trivial
  | s, a :: calls =>
      have := decidableAlong (step s a) calls
      inferInstanceAs (Decidable (P s a ∧ Along P step (step s a) calls))

/-- An invariant that every call keeps, without a side condition. -/
theorem play_induct (hstep : ∀ s a, Q s → Q (step s a)) :
    ∀ {s : σ} {calls : List α}, Q s → Q (play step s calls)
  | _, [], hs => hs
  | s, a :: calls, hs => @play_induct hstep (step s a) calls (hstep s a hs)

end

end AskLake.Lib
